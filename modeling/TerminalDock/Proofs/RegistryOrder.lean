import TerminalDock.Proofs.RegistryInvariant

/-! The numbers of the sessions. Each session gets the number after the last one that was given, so the sessions
stand in the order of their numbers, and the one that was made last has the greatest. -/

namespace TerminalDock

/-- Numbers that were given one after the other up to a counter, some of which are still in use. -/
def Allotted (numbers : List Nat) (counter : Nat) : Prop :=
  numbers.Sublist (List.range' 1 counter)

namespace Allotted
variable {numbers : List Nat} {counter : Nat}

theorem none_yet (counter : Nat) : Allotted [] counter := List.nil_sublist _

theorem ascending (allotted : Allotted numbers counter) : numbers.Pairwise (· < ·) :=
  List.Pairwise.sublist allotted (List.pairwise_lt_range' 1)

theorem bounded (allotted : Allotted numbers counter) : ∀ number ∈ numbers, number ≤ counter := by
  intro number member
  obtain ⟨_, _, _⟩ := List.mem_range'.mp (allotted.subset member)
  omega

theorem fewer (allotted : Allotted numbers counter) {part : List Nat} (left : part.Sublist numbers) :
    Allotted part counter :=
  left.trans allotted

theorem next (allotted : Allotted numbers counter) : Allotted (numbers ++ [counter + 1]) (counter + 1) := by
  unfold Allotted
  rw [List.range'_concat]
  refine List.Sublist.append allotted ?_
  rw [Nat.one_mul, Nat.add_comm]

end Allotted

namespace Registry

def numbers (registry : Registry) : List Nat :=
  registry.sessions.values.map Session.number

private theorem insertByNumber_perm (session : Session) (sorted : List Session) :
    (insertByNumber session sorted).Perm (session :: sorted) := by
  induction sorted with
  | nil => exact .refl _
  | cons first rest ih =>
    rw [insertByNumber]
    split
    · exact .refl _
    · exact (ih.cons first).trans (.swap session first rest)

theorem ordered_perm (registry : Registry) : registry.ordered.Perm registry.sessions.values := by
  have inserted (sessions sorted : List Session) :
      (sessions.foldl (fun sorted session => insertByNumber session sorted) sorted).Perm (sorted ++ sessions) := by
    induction sessions generalizing sorted with
    | nil => simp
    | cons session rest ih =>
      rw [List.foldl_cons]
      refine (ih _).trans (((insertByNumber_perm session sorted).append_right rest).trans ?_)
      exact List.perm_middle.symm
  exact inserted _ []

theorem mostRecent?_mem {registry : Registry} (some : registry.sessions.values ≠ []) :
    ∃ session ∈ registry.sessions.values, registry.mostRecent? = .some session := by
  have newest (sessions : List Session) (best : Session) : ∃ session ∈ best :: sessions,
      sessions.foldl (fun best session => match best with
        | none => .some session
        | .some newest => if newest.number < session.number then .some session else best) (.some best) =
        .some session := by
    induction sessions generalizing best with
    | nil => exact ⟨best, List.mem_singleton_self best, rfl⟩
    | cons session rest ih =>
      rw [List.foldl_cons]
      dsimp only
      split
      · obtain ⟨newest, member, found⟩ := ih session
        exact ⟨newest, List.mem_cons_of_mem _ member, found⟩
      · obtain ⟨newest, member, found⟩ := ih best
        refine ⟨newest, ?_, found⟩
        rcases List.mem_cons.mp member with rfl | later
        · exact List.mem_cons_self ..
        · exact List.mem_cons_of_mem _ (List.mem_cons_of_mem _ later)
  unfold mostRecent?
  cases sessions : registry.sessions.values with
  | nil => exact absurd sessions some
  | cons first rest => exact newest rest first

private theorem insertByNumber_last {session : Session} {sorted : List Session}
    (greatest : ∀ other ∈ sorted, other.number < session.number) :
    insertByNumber session sorted = sorted ++ [session] := by
  induction sorted with
  | nil => rfl
  | cons first rest ih =>
    have less := greatest first (List.mem_cons_self ..)
    rw [insertByNumber, if_neg (by omega), ih fun other member => greatest other (List.mem_cons_of_mem _ member)]
    rfl

private theorem insert_ascending {sorted sessions : List Session}
    (ascending : ((sorted ++ sessions).map Session.number).Pairwise (· < ·)) :
    sessions.foldl (fun sorted session => insertByNumber session sorted) sorted = sorted ++ sessions := by
  induction sessions generalizing sorted with
  | nil => simp
  | cons session rest ih =>
    have greatest : ∀ other ∈ sorted, other.number < session.number := by
      intro other member
      rw [List.map_append, List.pairwise_append] at ascending
      exact ascending.2.2 _ (List.mem_map_of_mem member) _ (List.mem_map_of_mem (List.mem_cons_self ..))
    rw [List.foldl_cons, insertByNumber_last greatest, ih]
    · simp
    · simpa using ascending

theorem ordered_of_ascending {registry : Registry} (ascending : registry.numbers.Pairwise (· < ·)) :
    registry.ordered = registry.sessions.values := by
  rw [ordered, insert_ascending]
  · rfl
  · exact ascending

/-- Of the session seen so far and the next one, the one with the greater number. -/
def newer (best : Option Session) (session : Session) : Option Session :=
  match best with
  | none => some session
  | some newest => if newest.number < session.number then some session else best

private theorem newest_of_ascending {sessions : List Session}
    (ascending : (sessions.map Session.number).Pairwise (· < ·)) {best : Option Session}
    (less : ∀ other ∈ best, ∀ session ∈ sessions, other.number < session.number) :
    sessions.foldl newer best = sessions.getLast?.or best := by
  induction sessions generalizing best with
  | nil => rfl
  | cons session rest ih =>
    obtain ⟨first, later⟩ := List.pairwise_cons.mp ascending
    have last : (session :: rest).getLast? = rest.getLast?.or (some session) := by
      rw [List.getLast?_cons]
      cases rest.getLast? <;> rfl
    have next : ∀ other ∈ some session, ∀ another ∈ rest, other.number < another.number := by
      rintro other ⟨⟩ another member
      exact first another.number (List.mem_map_of_mem member)
    rw [last, Option.or_assoc, Option.some_or, ← ih later next, List.foldl_cons]
    cases best with
    | none => rfl
    | some newest =>
      have greater : newest.number < session.number := less newest rfl session (List.mem_cons_self ..)
      exact congrArg (List.foldl _ · rest) (if_pos greater)

theorem mostRecent?_of_ascending {registry : Registry} (ascending : registry.numbers.Pairwise (· < ·)) :
    registry.mostRecent? = registry.sessions.values.getLast? :=
  (newest_of_ascending ascending (by simp)).trans (Option.or_none ..)

end Registry

end TerminalDock
