import TerminalDock.Proofs.SpawnerSteps

/-! The end of all sessions at once. A shutdown ends the processes of the registered sessions in order, each once. A fault
of the system does not keep it from the next one; any other failure stops it, and the sessions after that one stay. -/

namespace TerminalDock.Pty

variable {δ : Type}

/-- A terminal with a list of what was asked of it, oldest first. -/
structure Watched (δ : Type) where
  device : δ
  asked : List DeviceCall := []

namespace Watched

def ask {α : Type} (call : DeviceCall) (act : δ → α × δ) (terminal : Watched δ) : α × Watched δ :=
  ((act terminal.device).1, { device := (act terminal.device).2, asked := terminal.asked ++ [call] })

def look {α : Type} (act : δ → α × δ) (terminal : Watched δ) : α × Watched δ :=
  ((act terminal.device).1, { terminal with device := (act terminal.device).2 })

instance [PtyDevice δ] : PtyDevice (Watched δ) where
  pid terminal := PtyDevice.pid terminal.device
  spawn command cwd size environment :=
    ask (.spawn command cwd size environment) (PtyDevice.spawn command cwd size environment)
  read := look PtyDevice.read
  isAlive := look PtyDevice.isAlive
  write bytes := ask (.write bytes) (PtyDevice.write bytes)
  resize size := ask (.resize size) (PtyDevice.resize size)
  terminate := ask .terminate PtyDevice.terminate
  close terminal := { terminal with device := PtyDevice.close terminal.device }

end Watched

variable [PtyDevice δ]

/-- The failure at which a shutdown stops when it comes to this terminal, if there is one. -/
def Slot.obstacle? (slot : Slot δ) : Option Failure :=
  match (PtyDevice.terminate slot.device).1 with
  | .ok () => none
  | .error failure => if failure.isSystem then none else some failure

namespace Spawner

/-- Every registered session has a terminal of its own. -/
structure Placed (spawner : Spawner δ) : Prop where
  places : spawner.sessions.values.Nodup
  inside : ∀ place ∈ spawner.sessions.values, place < spawner.slots.length

def obstacle? (spawner : Spawner δ) (place : Nat) : Option Failure :=
  spawner.slots[place]?.bind Slot.obstacle?

/-- Where a shutdown halts: it comes to the end, or it stops at the first obstacle. -/
inductive Halts (obstacle? : Nat → Option Failure) : Assoc String Nat → Assoc String Nat → Except Failure Unit → Prop
  | through {reached : Assoc String Nat} (clear : ∀ place ∈ reached.values, obstacle? place = none) :
      Halts obstacle? reached [] (.ok ())
  | stopped {before left : Assoc String Nat} {id : String} {place : Nat} {failure : Failure}
      (clear : ∀ place ∈ Assoc.values before, obstacle? place = none) (stops : obstacle? place = some failure) :
      Halts obstacle? (before ++ [(id, place)]) left (.error failure)

/-- A shutdown ended the processes of some sessions and left the others registered. -/
structure Shuts (reached left : Assoc String Nat) (first : Spawner δ) (outcome : Except Failure Unit)
    (last : Spawner δ) : Prop where
  all : first.sessions = reached ++ left
  registered : last.sessions = left
  slots : ∀ place, last.slots[place]? =
    first.slots[place]?.map fun slot => if place ∈ reached.values then slot.ended else slot
  halts : Halts first.obstacle? reached left outcome

variable {first middle last spawner : Spawner δ} {reached left : Assoc String Nat} {outcome : Except Failure Unit}

namespace Halts
variable {obstacle? other? : Nat → Option Failure}

theorem congr (halts : Halts obstacle? reached left outcome)
    (same : ∀ place ∈ reached.values, other? place = obstacle? place) :
    Halts other? reached left outcome := by
  cases halts with
  | through clear => exact .through fun place member => (same place member).trans (clear place member)
  | @stopped before _ id place _ clear stops =>
    have among (other : Nat) : other ∈ Assoc.values (before ++ [(id, place)]) ↔ other ∈ Assoc.values before ∨
      other = place := by
      rw [Assoc.values, List.map_append, List.mem_append, List.map_singleton, List.mem_singleton]
      rfl
    refine .stopped (fun other member => ?_) ?_
    · exact (same other ((among other).mpr (.inl member))).trans (clear other member)
    · exact (same place ((among place).mpr (.inr rfl))).trans stops

theorem cons (halts : Halts obstacle? reached left outcome) (id : String) {place : Nat} (clear : obstacle? place = none) :
    Halts obstacle? ((id, place) :: reached) left outcome := by
  have every {before : Assoc String Nat} (rest : ∀ other ∈ before.values, obstacle? other = none) :
      ∀ other ∈ Assoc.values ((id, place) :: before), obstacle? other = none := by
    intro other member
    rcases List.mem_cons.mp member with rfl | later
    · exact clear
    · exact rest other later
  cases halts with
  | through rest => exact .through (every rest)
  | stopped rest stops => exact .stopped (every rest) stops

private theorem succeeds_iff (halts : Halts obstacle? reached left outcome) :
    outcome = .ok () ↔ ∀ place ∈ Assoc.values (reached ++ left), obstacle? place = none := by
  cases halts with
  | through clear =>
    rw [List.append_nil]
    exact ⟨fun _ => clear, fun _ => rfl⟩
  | @stopped before _ id place _ clear stops =>
    refine ⟨fun succeeds => (by cases succeeds), fun every => ?_⟩
    have member : place ∈ Assoc.values (before ++ [(id, place)] ++ left) := by
      rw [Assoc.values, List.map_append, List.map_append]
      exact List.mem_append_left _ (List.mem_append_right _ (List.mem_singleton_self place))
    cases stops.symm.trans (every place member)

private theorem left_of_ok (halts : Halts obstacle? reached left (.ok ())) : left = [] := by
  cases halts
  rfl

end Halts

theorem Shuts.cons (shuts : Shuts reached left middle outcome last) {id : String} {place : Nat} {slot : Slot δ}
    (sessions : first.sessions = (id, place) :: middle.sessions) (there : first.slots[place]? = some slot)
    (slots : middle.slots = first.slots.modify place fun _ => slot.ended) (fresh : place ∉ reached.values)
    (clear : slot.obstacle? = none) : Shuts ((id, place) :: reached) left first outcome last := by
  have elsewhere {other : Nat} (different : other ≠ place) : middle.slots[other]? = first.slots[other]? := by
    simp [slots, different.symm]
  refine ⟨sessions.trans (congrArg _ shuts.all), shuts.registered, fun other => ?_, ?_⟩
  · have among : other ∈ Assoc.values ((id, place) :: reached) ↔ other = place ∨ other ∈ reached.values := List.mem_cons
    rw [shuts.slots]
    by_cases here : other = place
    · subst here
      rw [slots, List.getElem?_modify, there]
      simp only [Option.map_some, Option.map_eq_map, if_neg fresh, if_pos (among.mpr (.inl rfl)), if_true]
    · simp only [elsewhere here, among, here, false_or]
  · refine (shuts.halts.congr fun other member => ?_).cons id ?_
    · have different : other ≠ place := fun same => fresh (same ▸ member)
      rw [obstacle?, obstacle?, elsewhere different]
    · rw [obstacle?, there, Option.bind_some, clear]

/-- A shutdown comes to every session in order until something stops it. -/
theorem endAll_shuts {entries : Assoc String Nat} (all : spawner.sessions = entries) (places : entries.values.Nodup)
    (inside : ∀ place ∈ entries.values, place < spawner.slots.length) :
    ∃ reached left, Shuts reached left spawner (spawner.endAll entries.keys).1 (spawner.endAll entries.keys).2 := by
  induction entries generalizing spawner with
  | nil =>
    refine ⟨[], [], all, all, fun place => ?_, .through fun place member => by cases member⟩
    rw [Assoc.keys, List.map_nil, endAll]
    cases spawner.slots[place]? with
    | none => rfl
    | some slot => rw [Option.map_some, if_neg (by exact List.not_mem_nil)]
  | cons entry rest ih =>
    obtain ⟨id, place⟩ := entry
    have fresh : place ∉ Assoc.values rest ∧ (Assoc.values rest).Nodup := List.nodup_cons.mp places
    obtain ⟨slot, there⟩ : ∃ slot, spawner.slots[place]? = some slot :=
      ⟨_, List.getElem?_eq_getElem (inside place (List.mem_cons_self ..))⟩
    have found : spawner.sessions.find? id = some place := by rw [all, Assoc.find?, if_pos rfl]
    have removed : spawner.sessions.remove id = rest := by rw [all, Assoc.remove, if_pos rfl]
    have ended := terminate_found found there
    rw [removed] at ended
    have goesOn (middle : Spawner δ) (sessions : middle.sessions = rest)
        (slots : middle.slots = spawner.slots.modify place fun _ => slot.ended) (clear : slot.obstacle? = none)
        (goes : spawner.endAll (Assoc.keys ((id, place) :: rest)) = middle.endAll (Assoc.keys rest)) :
        ∃ reached left, Shuts reached left spawner (spawner.endAll (Assoc.keys ((id, place) :: rest))).1
          (spawner.endAll (Assoc.keys ((id, place) :: rest))).2 := by
      have within : ∀ other ∈ Assoc.values rest, other < middle.slots.length := by
        rw [slots, List.length_modify]
        exact fun other member => inside other (List.mem_cons_of_mem _ member)
      obtain ⟨reached, left, shuts⟩ := ih sessions fresh.2 within
      rw [goes]
      refine ⟨(id, place) :: reached, left, shuts.cons (sessions ▸ all) there slots (fun member => fresh.1 ?_) clear⟩
      rw [← sessions, shuts.all, Assoc.values, List.map_append]
      exact List.mem_append_left _ member
    cases outcome : (PtyDevice.terminate slot.device).1 with
    | ok done =>
      have clear : slot.obstacle? = none := by simp only [Slot.obstacle?, outcome]
      refine goesOn (spawner.terminate id).2 (by rw [ended]) (by rw [ended]) clear ?_
      simp only [Assoc.keys, List.map_cons, endAll, ended, outcome]
    | error failure =>
      cases system : failure.isSystem with
      | true =>
        have clear : slot.obstacle? = none := by simp only [Slot.obstacle?, outcome, system, if_true]
        refine goesOn ((spawner.terminate id).2.log
          (.warning s!"[TERMINAL] shutdown terminate failed | id={id} error={failure.text}")) ?_ ?_ clear ?_
        · rw [ended]
          rfl
        · rw [ended]
          rfl
        · simp only [Assoc.keys, List.map_cons, endAll, ended, outcome, system, if_true]
      | false =>
        have stops : spawner.obstacle? place = some failure := by
          simp only [obstacle?, there, Option.bind_some, Slot.obstacle?, outcome, system, Bool.false_eq_true, if_false]
        have goes : spawner.endAll (Assoc.keys ((id, place) :: rest)) = (.error failure, (spawner.terminate id).2) := by
          simp only [Assoc.keys, List.map_cons, endAll, ended, outcome, system, Bool.false_eq_true, if_false]
        rw [goes, ended]
        have nobody : ∀ other ∈ Assoc.values ([] : Assoc String Nat), spawner.obstacle? other = none :=
          fun _ member => absurd member List.not_mem_nil
        refine ⟨[(id, place)], rest, all, rfl, fun other => ?_, .stopped nobody stops⟩
        have alone : other ∈ Assoc.values [(id, place)] ↔ other = place := List.mem_singleton
        simp only [List.getElem?_modify, alone]
        by_cases here : other = place
        · subst here
          simp [there]
        · simp [here, Ne.symm here]

private theorem shutdown_shuts (placed : spawner.Placed) :
    ∃ reached left, Shuts reached left spawner spawner.shutdown.1 spawner.shutdown.2 :=
  endAll_shuts rfl placed.places placed.inside

/-- A shutdown ends the process of every session that it comes to once, and touches no other terminal. It comes to all of
them and succeeds exactly if none of them fails to end with anything but a fault of the system. -/
theorem shutdown_reaches {spawner : Spawner (Watched δ)} (placed : spawner.Placed) {outcome : Except Failure Unit}
    {last : Spawner (Watched δ)} (ends : spawner.shutdown = (outcome, last)) :
    ∃ reached left, spawner.sessions = reached ++ left ∧ last.sessions = left ∧
      (∀ (place : Nat) slot, spawner.slots[place]? = some slot → ∃ later, last.slots[place]? = some later ∧
        later.device.asked = slot.device.asked ++ if place ∈ reached.values then [.terminate] else []) ∧
      Halts spawner.obstacle? reached left outcome ∧
      (outcome = .ok () ∧ left = [] ↔ ∀ place ∈ spawner.sessions.values, spawner.obstacle? place = none) := by
  obtain ⟨reached, left, all, registered, slots, halts⟩ := shutdown_shuts placed
  rw [ends] at registered slots halts
  refine ⟨reached, left, all, registered, fun place slot there => ?_, halts, ?_⟩
  · refine ⟨_, (slots place).trans (congrArg (Option.map _) there), ?_⟩
    split
    · rfl
    · exact (List.append_nil _).symm
  · rw [all, ← halts.succeeds_iff]
    refine ⟨And.left, fun succeeds => ⟨succeeds, ?_⟩⟩
    rw [succeeds] at halts
    exact halts.left_of_ok

/-- Three shells. The first does not end for the system, the second for another reason. -/
def threeShells : Spawner (Watched PuppetPty) :=
  let empty : Spawner (Watched PuppetPty) :=
    { command := ["/bin/sh", "-l"], environment := [], home := .ok (Path.ofText "/tmp") }
  let first := (empty.spawn { device := { terminateFailure := some (.fault .os "stuck") } } "/tmp").2
  let second := (first.spawn { device := { terminateFailure := some (.fault .runtime "denied") } } "/tmp").2
  (second.spawn { device := {} } "/tmp").2

private theorem threeShells_placed : threeShells.Placed :=
  ⟨by decide +kernel, by decide +kernel⟩

theorem shutdown_reaches_denied :
    threeShells.shutdown.1 = .error (.fault .runtime "denied") ∧ threeShells.shutdown.2.sessions = [("term-3", 2)] ∧
      ∃ slot, threeShells.shutdown.2.slots[2]? = some slot ∧ .terminate ∉ slot.device.asked := by
  have sessions : threeShells.sessions = [("term-1", 0), ("term-2", 1)] ++ [("term-3", 2)] := by decide +kernel
  have fails : threeShells.shutdown.1 = .error (.fault .runtime "denied") := by decide +kernel
  have remains : threeShells.shutdown.2.sessions = [("term-3", 2)] := by decide +kernel
  obtain ⟨slot, there, unasked⟩ : ∃ slot, threeShells.slots[2]? = some slot ∧ .terminate ∉ slot.device.asked := by
    refine ⟨_, List.getElem?_eq_getElem (by decide +kernel : 2 < threeShells.slots.length), ?_⟩
    decide +kernel
  rcases ends : threeShells.shutdown with ⟨outcome, last⟩
  rw [ends] at fails remains
  obtain ⟨reached, left, all, registered, slots, -⟩ := shutdown_reaches threeShells_placed ends
  rw [← registered, remains] at all
  have came : reached = [("term-1", 0), ("term-2", 1)] := List.append_cancel_right (all.symm.trans sessions)
  obtain ⟨later, here, asked⟩ := slots 2 slot there
  refine ⟨fails, remains, later, here, ?_⟩
  have apart : 2 ∉ Assoc.values [("term-1", 0), ("term-2", 1)] := by decide
  rw [asked, came, if_neg apart, List.append_nil]
  exact unasked

/-- It is not so that a shutdown ends every process, whatever fails. -/
theorem shutdown_reaches_fails :
    ¬ ∀ spawner : Spawner (Watched PuppetPty), spawner.Placed →
        spawner.shutdown.1 = .ok () ∧ spawner.shutdown.2.sessions = [] ∧
          ∀ place ∈ spawner.sessions.values, ∀ slot, spawner.slots[place]? = some slot →
            ∃ later, spawner.shutdown.2.slots[place]? = some later ∧
              later.device.asked = slot.device.asked ++ [.terminate] := by
  intro complete
  have succeeds := (complete threeShells threeShells_placed).1
  have fails : threeShells.shutdown.1 = .error (.fault .runtime "denied") := by decide +kernel
  cases fails.symm.trans succeeds

end Spawner

end TerminalDock.Pty
