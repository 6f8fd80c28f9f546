import TerminalDock.Proofs.RegistrySteps

/-! Who is told of what. A live session is told of its own output and of its own end, once each. One that was
removed is told of nothing; one that could not be wired up may still be told of output, but of no end. -/

namespace TerminalDock

namespace Event

theorem outputOf_inj {one other : String} (same : outputOf one = outputOf other) : one = other :=
  String.append_right_inj _ |>.mp same

theorem exitOf_inj {one other : String} (same : exitOf one = exitOf other) : one = other :=
  String.append_right_inj _ |>.mp same

theorem outputOf_ne_exitOf (one other : String) : outputOf one ≠ exitOf other := by
  intro same
  have letters := congrArg (fun text => text.toList[9]?) same
  unfold outputOf exitOf at letters
  rw [String.toList_append, String.toList_append] at letters
  rw [List.getElem?_append_left (by decide), List.getElem?_append_left (by decide)] at letters
  exact absurd letters (by decide)

end Event

namespace Registry

/-- How often an event is told to a subscriber. -/
def hears (registry : Registry) (event : String) (who : Subscriber) : Nat :=
  (registry.bus.handlers event).count who

/-- A session is told of its output and of its end, and of nothing else. -/
structure Listens (registry : Registry) (serial : Nat) (id : String) : Prop where
  output : ∀ event, registry.hears event (.output serial) = if event = Event.outputOf id then 1 else 0
  exit : ∀ event, registry.hears event (.exit serial) = if event = Event.exitOf id then 1 else 0

structure Deaf (registry : Registry) (serial : Nat) : Prop where
  output : ∀ event, registry.hears event (.output serial) = 0
  exit : ∀ event, registry.hears event (.exit serial) = 0

structure Wired (registry : Registry) : Prop where
  valid : registry.WellFormed
  live : ∀ id session, registry.session? id = some session → registry.Listens session.serial id
  ending : ∀ event serial, registry.hears event (.exit serial) ≠ 0 →
    ∃ id session, registry.session? id = some session ∧ session.serial = serial
  old : ∀ event serial, registry.hears event (.output serial) ≠ 0 → serial < registry.serial

/-- A session that was registered is live, or gone and told of nothing any more. -/
def Holds (registry : Registry) (tag : Nat × String) : Prop :=
  (∃ session, registry.session? tag.2 = some session ∧ session.tag = tag) ∨
    (∃ session ∈ registry.retired, session.tag = tag) ∧ registry.Deaf tag.1

theorem hears_of_bus {first last : Registry} (same : last.bus = first.bus) (event : String) (who : Subscriber) :
    last.hears event who = first.hears event who := by
  rw [hears, hears, same]

theorem Listens.congr {first last : Registry} {serial : Nat} {id : String} (listens : first.Listens serial id)
    (output : ∀ event, last.hears event (.output serial) = first.hears event (.output serial))
    (exit : ∀ event, last.hears event (.exit serial) = first.hears event (.exit serial)) :
    last.Listens serial id :=
  ⟨fun event => (output event).trans (listens.output event), fun event => (exit event).trans (listens.exit event)⟩

theorem Deaf.of_bus {first last : Registry} {serial : Nat} (deaf : first.Deaf serial) (same : last.bus = first.bus) :
    last.Deaf serial :=
  ⟨fun event => (hears_of_bus same _ _).trans (deaf.output event),
    fun event => (hears_of_bus same _ _).trans (deaf.exit event)⟩

theorem Holds.of_seen {first last : Registry} {tag : Nat × String} (holds : first.Holds tag)
    (tags : last.seen Session.tag = first.seen Session.tag) (bus : last.bus = first.bus) : last.Holds tag := by
  rcases holds with ⟨session, live, rfl⟩ | ⟨⟨session, member, rfl⟩, deaf⟩
  · obtain ⟨current, now, alike⟩ := live_of_seen tags.symm live
    exact .inl ⟨current, now, alike⟩
  · obtain ⟨current, now, alike⟩ := retired_of_seen tags.symm member
    exact .inr ⟨⟨current, now, alike⟩, deaf.of_bus bus⟩

theorem Wired.of_live {first last : Registry} (wired : first.Wired) (valid : last.WellFormed)
    (tags : ∀ id, (last.session? id).map Session.tag = (first.session? id).map Session.tag)
    (serial : last.serial = first.serial) (bus : last.bus = first.bus) : last.Wired where
  valid := valid
  live := by
    intro id session live
    have same := tags id
    rw [live] at same
    obtain ⟨old, before, alike⟩ := Option.map_eq_some_iff.mp same.symm
    rw [← show old.serial = session.serial from congrArg Prod.fst alike]
    exact (wired.live id old before).congr (fun _ => hears_of_bus bus _ _) fun _ => hears_of_bus bus _ _
  ending := by
    intro event number told
    rw [hears_of_bus bus] at told
    obtain ⟨id, session, live, serial⟩ := wired.ending event number told
    have same := tags id
    rw [live] at same
    obtain ⟨current, now, alike⟩ := Option.map_eq_some_iff.mp same
    exact ⟨id, current, now, (congrArg Prod.fst alike).trans serial⟩
  old := by
    intro event number told
    rw [hears_of_bus bus] at told
    exact serial ▸ wired.old event number told

section Removal
variable {registry : Registry} {id : String} {session : Session}

theorem hears_apart (valid : registry.WellFormed) (event : String) (who : Subscriber) :
    (apart id session registry).hears event who =
      registry.hears event who - (if event = Event.outputOf id ∧ who = .output session.serial then 1 else 0) -
        (if event = Event.exitOf id ∧ who = .exit session.serial then 1 else 0) := by
  have first := Event.Bus.count_unlisten valid.bus (Event.outputOf id) event (.output session.serial) who
  have second := Event.Bus.count_unlisten
    (Event.Bus.sound_unlisten valid.bus (Event.outputOf id) (.output session.serial))
    (Event.exitOf id) event (.exit session.serial) who
  rw [first] at second
  exact second

theorem session?_apart (valid : registry.WellFormed) (live : registry.session? id = some session) (name : String) :
    (apart id session registry).session? name = if name = id then none else registry.session? name := by
  have keys : (silenced id session registry).sessions.keys.Nodup := ((silenced_sound id session registry) valid).1.keys
  split
  next here => subst here; exact Assoc.find?_remove_self keys
  next other =>
    refine (Assoc.find?_remove_of_ne other _).trans ?_
    refine (session?_change _ session.serial _ name).trans ?_
    cases found : registry.session? name with
    | none => exact congrArg (Option.map _) found
    | some another =>
      refine (congrArg (Option.map _) found).trans ?_
      have different : another.serial ≠ session.serial := fun same => other (valid.same_id found live same)
      simp [changed, different]

theorem retired_apart (valid : registry.WellFormed) (live : registry.session? id = some session) :
    ∃ gone, (apart id session registry).retired = gone :: registry.retired ∧ gone.account = session.account := by
  have silent := (silenced_sound id session registry valid).1
  obtain ⟨current, now, same⟩ : ∃ current, (silenced id session registry).session? id = some current ∧
      current.account = session.account ∧ current.serial = session.serial := by
    refine ⟨_, (session?_change _ session.serial _ id).trans (congrArg (Option.map _) live), ?_, ?_⟩
    · simp [changed, Session.account, Session.tag, Surface.dispose, Surface.unlisten]
    · simp [changed]
  refine ⟨current.retire, ?_, ?_⟩
  · have found : (silenced id session registry).bySerial? session.serial = some current :=
      same.2 ▸ silent.bySerial_of_live now
    have others : (silenced id session registry).retired = registry.retired := by
      refine (List.map_congr_left fun other member => ?_).trans (List.map_id registry.retired)
      simp [valid.gone_of_retired live member]
    simp only [apart, dropped, found, others, Option.getD_some]
  · exact same.1

theorem wired_apart (wired : registry.Wired) (live : registry.session? id = some session) :
    (apart id session registry).Wired where
  valid := (apart_sound live wired.valid).1
  live := by
    intro name other found
    rw [session?_apart wired.valid live] at found
    split at found
    · cases found
    next elsewhere =>
      have different : other.serial ≠ session.serial := fun same => elsewhere (wired.valid.same_id found live same)
      refine (wired.live name other found).congr (fun event => ?_) fun event => ?_
      · simp [hears_apart wired.valid, different]
      · simp [hears_apart wired.valid, different]
  ending := by
    intro event serial told
    rw [hears_apart wired.valid] at told
    obtain ⟨name, other, found, same⟩ := wired.ending event serial (by omega)
    by_cases here : name = id
    · subst here
      have alike : other = session := Option.some.inj (found.symm.trans live)
      subst alike same
      rw [(wired.live name other live).exit] at told
      simp at told
    · exact ⟨name, other, by rw [session?_apart wired.valid live, if_neg here]; exact found, same⟩
  old := by
    intro event serial told
    rw [hears_apart wired.valid] at told
    exact wired.old event serial (by omega)

theorem Deaf.of_apart (valid : registry.WellFormed) {serial : Nat} (different : serial ≠ session.serial)
    (deaf : (apart id session registry).Deaf serial) : registry.Deaf serial := by
  refine ⟨fun event => ?_, fun event => ?_⟩
  · simpa [hears_apart valid, different] using deaf.output event
  · simpa [hears_apart valid, different] using deaf.exit event

/-- A session that was taken apart is told of nothing any more. -/
theorem deaf_apart (wired : registry.Wired) (live : registry.session? id = some session) :
    (apart id session registry).Deaf session.serial := by
  have listens := wired.live id session live
  refine ⟨fun event => ?_, fun event => ?_⟩
  · simp [hears_apart wired.valid, listens.output]
  · simp [hears_apart wired.valid, listens.exit]

theorem Holds.apart {tag : Nat × String} (holds : registry.Holds tag) (wired : registry.Wired)
    (live : registry.session? id = some session) : (registry.apart id session).Holds tag := by
  obtain ⟨gone, retired, account⟩ := retired_apart wired.valid live
  rcases holds with ⟨other, found, rfl⟩ | ⟨⟨other, member, rfl⟩, deaf⟩
  · by_cases here : other.id = id
    · rw [show other.tag.2 = id from here, live] at found
      cases found
      refine .inr ⟨⟨gone, by simp [retired], congrArg Prod.fst account⟩, ?_⟩
      exact deaf_apart wired live
    · exact .inl ⟨other, by rw [session?_apart wired.valid live]; exact (if_neg here).trans found, rfl⟩
  · refine .inr ⟨⟨other, by simp [retired, member], rfl⟩, ⟨fun event => ?_, fun event => ?_⟩⟩
    · simp [hears_apart wired.valid, deaf.output]
    · simp [hears_apart wired.valid, deaf.exit]

end Removal

section Creation
variable {cwd id : String} {first final : Registry}

theorem Wired.unborn {registry : Registry} (wired : registry.Wired) : registry.Deaf registry.serial := by
  refine ⟨fun event => ?_, fun event => ?_⟩
  · by_contra told
    have older := wired.old event registry.serial told
    omega
  · by_contra told
    obtain ⟨id, session, live, same⟩ := wired.ending event registry.serial told
    have older := wired.valid.fresh session (everyone_of_live live)
    omega

theorem hears_abandoned {failure : Failure} (valid : first.WellFormed)
    (failed : Wiring cwd id first (.error failure final)) {event : String} {who : Subscriber}
    (other : who ≠ .output first.serial) : final.hears event who = first.hears event who := by
  cases failed with
  | unbuilt failure => rfl
  | unheard failure => rfl
  | leaking failure =>
    simp only [hears, abandoned, warned, submit, log, note, subscribe, counted]
    rw [Event.Bus.count_listen]
    simp [other]
  | unattached failure =>
    have output := Event.Bus.sound_listen valid.bus (Event.outputOf id) (.output first.serial)
    have both := Event.Bus.sound_listen output (Event.exitOf id) (.exit first.serial)
    have rest := Event.Bus.sound_unlisten both (Event.outputOf id) (.output first.serial)
    simp only [hears, abandoned, warned, submit, log, note, undone]
    rw [Event.Bus.count_unlisten rest, Event.Bus.count_unlisten both, Event.Bus.count_listen, Event.Bus.count_listen]
    simp only [other, and_false, if_false, Nat.add_zero, Nat.sub_zero, Nat.add_sub_cancel]

theorem sessions_abandoned {failure : Failure} (failed : Wiring cwd id first (.error failure final)) :
    final.sessions = first.sessions := by
  cases failed with
  | unbuilt failure => rfl
  | unheard failure => rfl
  | leaking failure => rfl
  | unattached failure => rfl

theorem retired_abandoned {failure : Failure} (failed : Wiring cwd id first (.error failure final)) :
    (final.retired = first.retired ∧ final.serial = first.serial ∧ final.bus = first.bus) ∨
      ∃ gone, final.retired = gone :: first.retired ∧ gone.account = ((first.serial, id), false, []) ∧
        final.serial = first.serial + 1 := by
  cases failed with
  | unbuilt failure => exact .inl ⟨rfl, rfl, rfl⟩
  | unheard failure => exact .inr ⟨_, rfl, rfl, rfl⟩
  | leaking failure => exact .inr ⟨_, rfl, rfl, rfl⟩
  | unattached failure => exact .inr ⟨_, rfl, rfl, rfl⟩

theorem wired_abandoned {failure : Failure} (wired : first.Wired)
    (failed : Wiring cwd id first (.error failure final)) : final.Wired where
  valid := (wiring_sound failed wired.valid).1
  live := by
    intro name session live
    rw [session?, sessions_abandoned failed] at live
    have older := wired.valid.fresh session (everyone_of_live live)
    refine (wired.live name session live).congr (fun event => ?_) fun event => ?_
    · exact hears_abandoned wired.valid failed (by simp; omega)
    · exact hears_abandoned wired.valid failed (by simp)
  ending := by
    intro event serial told
    rw [hears_abandoned wired.valid failed (by simp)] at told
    obtain ⟨name, session, live, same⟩ := wired.ending event serial told
    exact ⟨name, session, by rw [session?, sessions_abandoned failed]; exact live, same⟩
  old := by
    intro event serial told
    by_cases new : serial = first.serial
    · subst new
      rcases retired_abandoned failed with ⟨_, _, bus⟩ | ⟨_, _, _, number⟩
      · rw [hears_of_bus bus, wired.unborn.output] at told
        exact absurd rfl told
      · omega
    · rw [hears_abandoned wired.valid failed (by simp [new])] at told
      have older := wired.old event serial told
      have grown := (wiring_sound failed wired.valid).2.serial
      omega

theorem hears_register {session : Session} (made : Wiring cwd id first (.ok session final)) (event : String)
    (who : Subscriber) :
    (register cwd session final).hears event who =
      first.hears event who + (if event = Event.outputOf id ∧ who = .output first.serial then 1 else 0) +
        (if event = Event.exitOf id ∧ who = .exit first.serial then 1 else 0) := by
  cases made with
  | done =>
    simp only [hears, register, log, note, subscribe, counted]
    rw [Event.Bus.count_listen, Event.Bus.count_listen]

theorem account_register {session : Session} (made : Wiring cwd id first (.ok session final)) :
    session.id = id ∧ session.account = ((first.serial, id), false, []) ∧
      (register cwd session final).retired = first.retired ∧
      (register cwd session final).serial = first.serial + 1 ∧
      ∀ name, (register cwd session final).session? name = if name = id then some session else first.session? name := by
  cases made with
  | done => exact ⟨rfl, rfl, rfl, rfl, fun name => session?_register cwd _ _ name⟩

theorem wired_register {session : Session} (wired : first.Wired) (free : first.session? id = none)
    (made : Wiring cwd id first (.ok session final)) : (register cwd session final).Wired := by
  obtain ⟨named, account, -, number, sessions⟩ := account_register made
  have serial : session.serial = first.serial := congrArg (·.1.1) account
  have hears := hears_register made
  refine ⟨(register_sound free made wired.valid).1, ?_, ?_, ?_⟩
  · intro name other live
    rw [sessions] at live
    split at live
    next here =>
      cases live
      subst here
      rw [serial]
      refine ⟨fun event => ?_, fun event => ?_⟩
      · simp [hears, wired.unborn.output]
      · simp [hears, wired.unborn.exit]
    next elsewhere =>
      have older : other.serial ≠ first.serial := Nat.ne_of_lt (wired.valid.fresh other (everyone_of_live live))
      refine (wired.live name other live).congr (fun event => ?_) fun event => ?_
      · simp [hears, older]
      · simp [hears, older]
  · intro event other told
    by_cases new : other = first.serial
    · exact ⟨id, session, by rw [sessions, if_pos rfl], serial.trans new.symm⟩
    · obtain ⟨name, old, live, same⟩ := wired.ending event other (by simpa [hears, new] using told)
      refine ⟨name, old, ?_, same⟩
      rw [sessions, if_neg, live]
      rintro rfl
      rw [free] at live
      cases live
  · intro event other told
    rw [number]
    by_cases new : other = first.serial
    · omega
    · have older := wired.old event other (by simpa [hears, new] using told)
      omega

theorem Holds.abandoned {failure : Failure} {tag : Nat × String} (holds : first.Holds tag) (valid : first.WellFormed)
    (failed : Wiring cwd id first (.error failure final)) : final.Holds tag := by
  rcases holds with ⟨session, live, rfl⟩ | ⟨⟨session, member, rfl⟩, deaf⟩
  · exact .inl ⟨session, by rw [session?, sessions_abandoned failed]; exact live, rfl⟩
  · have older : session.tag.1 ≠ first.serial := Nat.ne_of_lt (valid.fresh session (List.mem_append_right _ member))
    refine .inr ⟨⟨session, ?_, rfl⟩, ⟨fun event => ?_, fun event => ?_⟩⟩
    · rcases retired_abandoned failed with ⟨retired, _, _⟩ | ⟨gone, retired, _, _⟩ <;> simp [retired, member]
    · rw [hears_abandoned valid failed (by simp [older])]; exact deaf.output event
    · rw [hears_abandoned valid failed (by simp)]; exact deaf.exit event

theorem Holds.register {session : Session} {tag : Nat × String} (holds : first.Holds tag) (valid : first.WellFormed)
    (free : first.session? id = none) (made : Wiring cwd id first (.ok session final)) :
    (Registry.register cwd session final).Holds tag := by
  obtain ⟨_, _, retired, _, sessions⟩ := account_register made
  rcases holds with ⟨other, live, rfl⟩ | ⟨⟨other, member, rfl⟩, deaf⟩
  · refine .inl ⟨other, ?_, rfl⟩
    rw [sessions, if_neg, live]
    intro same
    rw [same, free] at live
    cases live
  · have older : other.tag.1 ≠ first.serial := Nat.ne_of_lt (valid.fresh other (List.mem_append_right _ member))
    refine .inr ⟨⟨other, by rw [retired]; exact member, rfl⟩, ⟨fun event => ?_, fun event => ?_⟩⟩
    · simp [hears_register made, older, deaf.output]
    · simp [hears_register made, older, deaf.exit]

end Creation

end Registry

end TerminalDock
