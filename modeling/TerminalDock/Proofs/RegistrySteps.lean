import TerminalDock.Proofs.RegistryInvariant

/-! What the steps of the registry can do. Making a session ends in one of a few ways, taking one apart in
one. No step mixes sessions up, and a serial number that was given stays with its session. -/

namespace TerminalDock.Registry
open Proofs.Steps

/-- A session is told nothing any more, and its surface is gone. -/
def silenced (id : String) (session : Session) (registry : Registry) : Registry :=
  ((registry.unsubscribe (Event.outputOf id) (.output session.serial)).unsubscribe
    (Event.exitOf id) (.exit session.serial)).changeSurface session fun surface =>
      (surface.unlisten Session.inputListener).dispose

def dropped (id : String) (session : Session) (registry : Registry) : Registry :=
  { registry with
    sessions := registry.sessions.remove id
    retired := ((registry.bySerial? session.serial).getD session).retire :: registry.retired
    active := if registry.active == some id then none else registry.active }

def apart (id : String) (session : Session) (registry : Registry) : Registry :=
  dropped id session (silenced id session registry)

/-- The removal of a live session takes it apart and closes its process. -/
theorem remove_live {registry : Registry} {id : String} {session : Session}
    (live : registry.session? id = some session) :
    ∃ record, remove id {} registry = .ok
      { removed := true, nowEmpty := (apart id session registry).isEmpty,
        wasActive := registry.active == some id }
      ((((apart id session registry).note (.viewDetached session.serial)).submit
        (.close id)).log record) := by
  refine ⟨.info s!"[SESSION] removed | id={id} remaining={(apart id session registry).size}", ?_⟩
  rw [remove, get_bind, live]
  rfl

theorem remove_absent {registry : Registry} {id : String} (absent : registry.session? id = none)
    (faults : RemovalFaults) :
    remove id faults registry = .ok { removed := false, nowEmpty := registry.isEmpty } registry := by
  rw [remove, get_bind, absent]
  rfl

/-- What a removal leaves: the registry as it was, or one from which a live session was taken. -/
theorem after_remove (id : String) (registry : Registry) :
    (registry.session? id = none ∧ after (remove id {}) registry = registry) ∨
      ∃ session record, registry.session? id = some session ∧ after (remove id {}) registry =
        (((apart id session registry).note (.viewDetached session.serial)).submit (.close id)).log record := by
  cases found : registry.session? id with
  | none => exact .inl ⟨rfl, by rw [after, remove_absent found]⟩
  | some session =>
    obtain ⟨record, removed⟩ := remove_live found
    exact .inr ⟨session, record, rfl, by rw [after, removed]⟩

def newborn (id : String) (registry : Registry) : Session :=
  Session.build registry.serial id (registry.counter + 1) registry.factory.make
    { width := registry.viewWidth, height := registry.viewHeight }

def counted (registry : Registry) : Registry :=
  { registry with serial := registry.serial + 1 }

def warned (id : String) (failure : Failure) (registry : Registry) : Registry :=
  registry.log (.warning s!"[SESSION] create failed after spawn | id={id} error={failure.text}")

/-- A session that was wired up as far as `session` tells is given up, and its process closed. -/
def abandoned (id : String) (session : Option Session) (registry : Registry) : Registry :=
  { registry with retired := (session.map Session.retire).toList ++ registry.retired }.submit (.close id)

/-- Both subscriptions of the next session were made and withdrawn again. -/
def undone (id : String) (registry : Registry) : Registry :=
  { registry with
    serial := registry.serial + 1
    bus := (((registry.bus.listen (Event.outputOf id) (.output registry.serial)).listen
      (Event.exitOf id) (.exit registry.serial)).unlisten (Event.outputOf id) (.output registry.serial)).unlisten
      (Event.exitOf id) (.exit registry.serial) }

def listening (session : Session) : Session :=
  { session with surface := session.surface.listen Session.inputListener }

def attached (session : Session) : Session :=
  { session with view := session.view.attach }

/-- How the wiring of a session may end. -/
inductive Wiring (cwd id : String) (registry : Registry) : EStateM.Result Failure Registry Session → Prop
  | unbuilt (failure : Failure) :
    Wiring cwd id registry (.error (.spawn cwd failure.reason) ((registry.warned id failure).abandoned id none))
  | unheard (failure : Failure) :
    Wiring cwd id registry (.error (.spawn cwd failure.reason)
      ((registry.counted.warned id failure).abandoned id (some (registry.newborn id))))
  /-- The subscription to the end of the process failed; the one to its output stays. -/
  | leaking (failure : Failure) :
    Wiring cwd id registry (.error (.spawn cwd failure.reason)
      (((registry.counted.subscribe (Event.outputOf id) (.output registry.serial)).warned id failure).abandoned id
        (some (registry.newborn id))))
  | unattached (failure : Failure) :
    Wiring cwd id registry (.error (.spawn cwd failure.reason)
      (((registry.undone id).warned id failure).abandoned id (some (listening (registry.newborn id)))))
  | done :
    Wiring cwd id registry (.ok (attached (listening (registry.newborn id)))
      (((registry.counted.subscribe (Event.outputOf id) (.output registry.serial)).subscribe
        (Event.exitOf id) (.exit registry.serial)).note (.viewAttached registry.serial)))

private theorem undone_warned (id : String) (failure : Failure) (registry : Registry) :
    ((((registry.counted.subscribe (Event.outputOf id) (.output registry.serial)).subscribe (Event.exitOf id)
      (.exit registry.serial)).warned id failure).unsubscribe (Event.outputOf id) (.output registry.serial)).unsubscribe
      (Event.exitOf id) (.exit registry.serial) = (registry.undone id).warned id failure := rfl

theorem wire_ends (cwd id : String) (faults : WiringFaults) (registry : Registry) :
    Wiring cwd id registry (wire cwd id faults registry) := by
  have undone (failure : Failure) : Wiring cwd id registry (.error (.spawn cwd failure.reason)
      ((((((registry.counted.subscribe (Event.outputOf id) (.output registry.serial)).subscribe (Event.exitOf id)
        (.exit registry.serial)).warned id failure).unsubscribe (Event.outputOf id) (.output registry.serial)).unsubscribe
        (Event.exitOf id) (.exit registry.serial)).abandoned id (some (listening (registry.newborn id))))) := by
    rw [undone_warned]
    exact .unattached failure
  obtain ⟨surface, view, output, exit, input, attach⟩ := faults
  cases surface with
  | some failure => exact .unbuilt failure
  | none =>
    cases view with
    | some failure => exact .unheard failure
    | none =>
      cases output with
      | some failure => exact .unheard failure
      | none =>
        cases exit with
        | some failure => exact .leaking failure
        | none =>
          cases input with
          | some failure => exact undone failure
          | none =>
            cases attach with
            | some failure => exact undone failure
            | none => exact .done

/-- What is told of a process that did not start: the account of the backend, if it gives one. -/
def refusal (cwd : String) : Failure → Failure
  | .spawn place reason => .spawn place reason
  | failure => .spawn cwd failure.text

/-- How the making of a session may end. -/
inductive Creation (cwd : String) (spawned : Except Failure String) (faults : String → WiringFaults)
    (registry : Registry) : EStateM.Result Failure Registry Session → Prop
  | refused {failure : Failure} (answered : spawned = .error failure) (record : LogRecord) :
    Creation cwd spawned faults registry (.error (refusal cwd failure) (registry.log record))
  | taken {id : String} (answered : spawned = .ok id) (live : registry.has id = true) (reason : String) :
    Creation cwd spawned faults registry (.error (.spawn cwd reason) registry)
  | spoiled {id : String} {failure : Failure} {final : Registry} (answered : spawned = .ok id)
      (free : registry.session? id = none) (failed : wire cwd id (faults id) registry = .error failure final)
      (wired : Wiring cwd id registry (.error failure final)) :
      Creation cwd spawned faults registry (.error failure final)
  | made {id : String} {session : Session} {final : Registry} (answered : spawned = .ok id)
      (free : registry.session? id = none) (built : wire cwd id (faults id) registry = .ok session final)
      (wired : Wiring cwd id registry (.ok session final)) :
      Creation cwd spawned faults registry (.ok session (register cwd session final))

theorem create_ends (cwd : String) (spawned : Except Failure String) (faults : String → WiringFaults)
    (registry : Registry) : Creation cwd spawned faults registry (create cwd spawned faults registry) := by
  cases spawned with
  | error failure => cases failure <;> exact .refused rfl _
  | ok id =>
    by_cases present : registry.has id = true
    · simp only [create, get_bind, present]
      exact .taken rfl present _
    · have free : registry.session? id = none := by
        simpa [has, Assoc.has, session?] using present
      have wired := wire_ends cwd id (faults id) registry
      simp only [create, get_bind, present, Bool.false_eq_true, if_false]
      cases seen : wire cwd id (faults id) registry with
      | ok session final =>
        rw [seen] at wired
        rw [bind_ok seen]
        exact .made rfl free seen wired
      | error failure final =>
        rw [seen] at wired
        rw [bind_error seen]
        exact .spoiled rfl free seen wired

/-- Serial numbers that were given stay with their sessions. -/
structure Grows (first last : Registry) : Prop where
  serial : first.serial ≤ last.serial
  known : ∀ session ∈ last.everyone, session.serial < first.serial →
    ∃ old ∈ first.everyone, old.tag = session.tag

/-- A step that mixes nothing up. -/
def Sound (first last : Registry) : Prop :=
  first.WellFormed → last.WellFormed ∧ Grows first last

namespace Sound

protected theorem refl (registry : Registry) : Sound registry registry :=
  fun valid => ⟨valid, Nat.le_refl _, fun session member _ => ⟨session, member, rfl⟩⟩

protected theorem trans {first middle last : Registry} (before : Sound first middle) (later : Sound middle last) :
    Sound first last := by
  intro valid
  obtain ⟨valid, grown⟩ := before valid
  obtain ⟨valid, further⟩ := later valid
  refine ⟨valid, Nat.le_trans grown.serial further.serial, ?_⟩
  intro session member given
  obtain ⟨known, inside, alike⟩ := further.known session member (Nat.lt_of_lt_of_le given grown.serial)
  have number : known.serial = session.serial := congrArg Prod.fst alike
  obtain ⟨old, present, same⟩ := grown.known known inside (number ▸ given)
  exact ⟨old, present, same.trans alike⟩

theorem of_seen {first last : Registry} (same : last.seen Session.tag = first.seen Session.tag)
    (serial : last.serial = first.serial) (chosen : first.WellFormed → ∀ id, last.active = some id → first.has id = true)
    (bus : first.bus.Sound → last.bus.Sound) : Sound first last := by
  intro valid
  refine ⟨valid.of_seen same serial ?_ (bus valid.bus), Nat.le_of_eq serial.symm, ?_⟩
  · intro id active
    rw [has_of_seen same]
    exact chosen valid id active
  · intro session member _
    exact everyone_of_seen same member

theorem of_stance {first last : Registry} (same : last.stance = first.stance) : Sound first last :=
  of_seen (tags_of_stance same) (congrArg Stance.serial same)
    (fun valid id active => valid.chosen id ((congrArg Stance.active same).symm.trans active))
    (fun sound => (show last.bus = first.bus from congrArg Stance.bus same) ▸ sound)

theorem of_change {f : Session → Session} (same : ∀ session, (f session).tag = session.tag)
    (registry : Registry) (serial : Nat) : Sound registry (registry.change serial f) :=
  of_seen (seen_change same registry serial) rfl (fun valid => valid.chosen) id

theorem of_unsubscribe (registry : Registry) (event : String) (subscriber : Subscriber) :
    Sound registry (registry.unsubscribe event subscriber) :=
  of_seen rfl rfl (fun valid => valid.chosen) fun sound => Event.Bus.sound_unlisten sound event subscriber

private theorem of_newcomer {first last : Registry} {session : Session}
    (everyone : last.everyone.Perm (session :: first.everyone)) (number : session.serial = first.serial)
    (serial : last.serial = first.serial + 1) (keys : first.WellFormed → last.sessions.keys.Nodup)
    (named : first.WellFormed → ∀ id live, last.session? id = some live → live.id = id)
    (chosen : first.WellFormed → ∀ id, last.active = some id → last.has id = true)
    (bus : first.bus.Sound → last.bus.Sound) : Sound first last := by
  intro valid
  have fresh : ∀ other ∈ first.everyone, other.serial < first.serial := valid.fresh
  refine ⟨⟨keys valid, named valid, ?_, ?_, chosen valid, bus valid.bus⟩, by omega, ?_⟩
  · rw [(everyone.map Session.serial).nodup_iff, List.map_cons, List.nodup_cons]
    refine ⟨?_, valid.serials⟩
    intro member
    obtain ⟨other, inside, same⟩ := List.mem_map.mp member
    have earlier := fresh other inside
    omega
  · intro other member
    rcases List.mem_cons.mp (everyone.mem_iff.mp member) with rfl | inside
    · omega
    · have earlier := fresh other inside
      omega
  · intro other member given
    rcases List.mem_cons.mp (everyone.mem_iff.mp member) with rfl | inside
    · omega
    · exact ⟨other, inside, rfl⟩

end Sound

private theorem dropped_sound {registry : Registry} {id : String} {session current : Session}
    (live : registry.session? id = some current) (same : current.serial = session.serial) :
    Sound registry (dropped id session registry) := by
  intro valid
  have gone : (registry.bySerial? session.serial).getD session = current := by
    rw [← same, valid.bySerial_of_live live]; rfl
  have everyone : ((dropped id session registry).everyone.map Session.tag).Perm
      (registry.everyone.map Session.tag) := by
    have split := (Assoc.perm_remove live).map Prod.snd
    simp only [Registry.everyone, dropped, gone, List.map_append, List.map_cons]
    refine List.perm_middle.trans (((split.map Session.tag).append_right _).symm.trans ?_)
    exact List.Perm.refl _
  have numbers : ((dropped id session registry).everyone.map Session.serial).Perm
      (registry.everyone.map Session.serial) := by
    have tags := everyone.map Prod.fst
    rw [List.map_map, List.map_map] at tags
    exact tags
  have known : ∀ other ∈ (dropped id session registry).everyone, ∃ old ∈ registry.everyone, old.tag = other.tag := by
    intro other member
    exact List.mem_map.mp (everyone.mem_iff.mp (List.mem_map.mpr ⟨other, member, rfl⟩))
  have others (name : String) (different : name ≠ id) :
      (dropped id session registry).session? name = registry.session? name :=
    Assoc.find?_remove_of_ne different registry.sessions
  have absent : (dropped id session registry).session? id = none := Assoc.find?_remove_self valid.keys
  refine ⟨⟨Assoc.keys_remove_nodup valid.keys id, ?_, (numbers.nodup_iff).mpr valid.serials, ?_, ?_, valid.bus⟩,
    Nat.le_refl _, fun other member _ => known other member⟩
  · intro name found live
    by_cases here : name = id
    · rw [here, absent] at live; cases live
    · rw [others name here] at live
      exact valid.named name found live
  · intro other member
    obtain ⟨old, inside, alike⟩ := known other member
    rw [← show old.serial = other.serial from congrArg Prod.fst alike]
    exact valid.fresh old inside
  · intro name active
    by_cases here : registry.active = some id
    · simp [dropped, here] at active
    · have chosen : registry.active = some name := by simpa [dropped, here] using active
      have different : name ≠ id := by rintro rfl; exact here chosen
      have present := valid.chosen name chosen
      simp only [has, Assoc.has] at present ⊢
      exact (congrArg Option.isSome (others name different)).trans present

theorem silenced_sound (id : String) (session : Session) (registry : Registry) :
    Sound registry (silenced id session registry) := by
  unfold silenced changeSurface
  refine Sound.trans ?_ (.of_change ?_ _ _)
  · exact (Sound.of_unsubscribe registry _ _).trans (.of_unsubscribe _ _ _)
  · exact fun _ => rfl

theorem apart_sound {registry : Registry} {id : String} {session : Session}
    (live : registry.session? id = some session) : Sound registry (apart id session registry) := by
  have silent : (silenced id session registry).session? id =
      some (changed session.serial
        (fun old => { old with surface := (old.surface.unlisten Session.inputListener).dispose }) session) := by
    simp only [silenced, changeSurface, session?_change]
    exact congrArg (Option.map _) live
  exact (silenced_sound id session registry).trans (dropped_sound silent (by simp [changed]))

theorem remove_sound (id : String) : Moves Sound (remove id {}) := by
  intro registry
  rcases after_remove id registry with ⟨-, same⟩ | ⟨session, record, found, removed⟩
  · rw [same]
    exact .refl registry
  · rw [removed]
    exact (apart_sound found).trans (.of_stance rfl)

private theorem abandoned_sound {first middle : Registry} {session : Session} (number : session.serial = first.serial)
    (sessions : middle.sessions = first.sessions) (retired : middle.retired = first.retired)
    (active : middle.active = first.active) (serial : middle.serial = first.serial + 1)
    (bus : first.bus.Sound → middle.bus.Sound) {id : String} :
    Sound first (middle.abandoned id (some session)) := by
  apply Sound.of_newcomer
  case session => exact session.retire
  case everyone =>
    simp only [everyone, abandoned, submit, sessions, retired]
    exact List.perm_middle
  case number => exact number
  case serial => exact serial
  case keys =>
    intro valid
    exact sessions ▸ valid.keys
  case named =>
    intro valid name live found
    change middle.sessions.find? name = some live at found
    rw [sessions] at found
    exact valid.named name live found
  case chosen =>
    intro valid name chosen
    have present := valid.chosen name (active ▸ chosen)
    exact show Assoc.has name middle.sessions = true from sessions ▸ present
  case bus => exact bus

theorem wiring_sound {cwd id : String} {first final : Registry} {failure : Failure}
    (wired : Wiring cwd id first (.error failure final)) : Sound first final := by
  cases wired with
  | unbuilt failure => exact .of_stance rfl
  | unheard failure =>
    apply abandoned_sound
    case bus => exact fun sound => sound
    case number | sessions | retired | active | serial => rfl
  | leaking failure =>
    apply abandoned_sound
    case bus => exact fun sound => Event.Bus.sound_listen sound _ _
    case number | sessions | retired | active | serial => rfl
  | unattached failure =>
    apply abandoned_sound
    case bus =>
      exact fun sound => Event.Bus.sound_unlisten (Event.Bus.sound_unlisten
        (Event.Bus.sound_listen (Event.Bus.sound_listen sound _ _) _ _) _ _) _ _
    case number | sessions | retired | active | serial => rfl

theorem session?_register (cwd : String) (session : Session) (registry : Registry) (id : String) :
    (register cwd session registry).session? id =
      if id = session.id then some session else registry.session? id := by
  change (registry.sessions.put session.id session).find? id = _
  split
  next here => rw [here]; exact Assoc.find?_put_self _ _ _
  next other => exact Assoc.find?_put_of_ne other _ _

theorem register_sound {cwd id : String} {first final : Registry} {session : Session}
    (free : first.session? id = none) (wired : Wiring cwd id first (.ok session final)) :
    Sound first (register cwd session final) := by
  cases wired
  apply Sound.of_newcomer
  case session => exact attached (listening (newborn id first))
  case everyone =>
    have last := Assoc.put_of_absent free (attached (listening (newborn id first)))
    have values := congrArg Assoc.values last
    rw [Assoc.values, Assoc.values, List.map_append] at values
    refine (List.Perm.of_eq (congrArg (· ++ first.retired) values)).trans ?_
    rw [List.append_assoc]
    exact List.perm_middle
  case number => rfl
  case serial => rfl
  case keys => exact fun valid => Assoc.keys_put_nodup valid.keys _
  case named =>
    intro valid name live found
    rw [session?_register] at found
    split at found
    next here => cases found; exact here.symm
    next => exact valid.named name live found
  case chosen =>
    intro valid name active
    cases active
    exact Assoc.has_iff.mpr ⟨_, (session?_register cwd _ _ id).trans (if_pos rfl)⟩
  case bus => exact fun sound => Event.Bus.sound_listen (Event.Bus.sound_listen sound _ _) _ _

theorem create_sound (cwd : String) (spawned : Except Failure String) (faults : String → WiringFaults) :
    Moves Sound (create cwd spawned faults) := by
  intro registry
  have ends := create_ends cwd spawned faults registry
  unfold after
  generalize create cwd spawned faults registry = result at ends
  cases ends with
  | refused answered record => exact .of_stance rfl
  | taken answered live reason => exact .refl registry
  | spoiled answered free failed wired => exact wiring_sound wired
  | made answered free built wired => exact register_sound free wired

theorem after_onSurface {α : Type} (session : Session) (act : SurfaceStep α) (registry : Registry) :
    after (onSurface session act) registry =
      registry.change session.serial fun old => { old with surface := after act session.surface } := by
  simp only [after, onSurface]
  cases act session.surface <;> rfl

theorem onSurface_sound {α : Type} (session : Session) (act : SurfaceStep α) :
    Moves Sound (onSurface session act) := by
  intro registry
  rw [after_onSurface]
  refine .of_change ?_ _ _
  exact fun _ => rfl

theorem changeSurface_sound (registry : Registry) (session : Session) (f : Surface → Surface) :
    Sound registry (registry.changeSurface session f) := by
  refine .of_change ?_ _ _
  exact fun _ => rfl

theorem showView_sound (registry : Registry) (session : Session) (visible : Bool) :
    Sound registry (registry.showView session visible) := by
  unfold showView
  dsimp only
  split
  · exact .refl registry
  · have changed : ∀ old : Session, ({ old with view := session.view.setVisible visible } : Session).tag = old.tag :=
      fun _ => rfl
    exact (Sound.of_change changed registry session.serial).trans (.of_stance rfl)

theorem markExited_cases (registry : Registry) (id : String) : (registry.markExited id).2 = registry ∨
    ∃ serial, (registry.markExited id).2 = registry.change serial fun old => { old with exited := true } := by
  unfold markExited
  split
  · exact .inl rfl
  · split
    · exact .inl rfl
    · exact .inr ⟨_, rfl⟩

theorem markExited_sound (registry : Registry) (id : String) : Sound registry (registry.markExited id).2 := by
  rcases markExited_cases registry id with same | ⟨serial, same⟩
  · rw [same]
    exact .refl registry
  · rw [same]
    have changed : ∀ old : Session, ({ old with exited := true } : Session).tag = old.tag := fun _ => rfl
    exact .of_change changed registry serial

theorem setActive_sound (id : String) : Moves Sound (setActive id) := by
  refine Moves.get_bind fun registry => ?_
  cases found : registry.session? id with
  | none => exact .refl registry
  | some session =>
    refine .of_seen rfl rfl (fun _ name active => ?_) (fun sound => sound)
    cases active
    exact Assoc.has_iff.mpr ⟨session, found⟩

/-- Whoever has the number of a session has its surface, too. -/
def Owns (registry : Registry) (session : Session) : Prop :=
  ∀ other ∈ registry.everyone, other.serial = session.serial → other.surface = session.surface

theorem WellFormed.owns {registry : Registry} (valid : registry.WellFormed) {serial : Nat} {session : Session}
    (found : registry.bySerial? serial = some session) : registry.Owns session :=
  fun _ member same => congrArg Session.surface (valid.same_session member (mem_of_bySerial found).1 same)

theorem Owns.marked {registry : Registry} {session : Session} (owned : registry.Owns session) (id : String) :
    (registry.markExited id).2.Owns session := by
  rcases markExited_cases registry id with same | ⟨serial, same⟩
  · rw [same]
    exact owned
  · rw [same]
    have alike : (registry.change serial fun old => { old with exited := true }).seen
        (fun session => (session.serial, session.surface)) =
          registry.seen fun session => (session.serial, session.surface) := by
      refine seen_change ?_ _ _
      exact fun _ => rfl
    intro other member number
    obtain ⟨old, before, kept⟩ := everyone_of_seen alike member
    obtain ⟨numbered, surface⟩ := Prod.mk.inj kept
    exact surface.symm.trans (owned old before (numbered.trans number))

/-- What a relation has to grant so that whatever a subscriber is told respects it. What is written to a session may
depend on how it is known. -/
structure TellRules (known : Registry → Session → Prop) (relation : Registry → Registry → Prop) : Prop where
  refl : ∀ registry, relation registry registry
  trans : ∀ {first middle last}, relation first middle → relation middle last → relation first last
  log : ∀ record registry, relation registry (registry.log record)
  mark : ∀ id registry, relation registry (registry.markExited id).2
  marked : ∀ {registry session}, known registry session → ∀ id, known (registry.markExited id).2 session
  write : ∀ {registry session}, known registry session → ∀ bytes,
    relation registry (after (onSurface session (Surface.write bytes)) registry)

namespace TellRules
variable {known : Registry → Session → Prop} {relation : Registry → Registry → Prop} {registry : Registry}

theorem deliver (rules : TellRules known relation) {session : Session} (present : known registry session)
    (payload : Event.Payload) : relation registry (after (deliver session payload) registry) := by
  unfold Registry.deliver
  split
  · exact rules.log _ registry
  · exact rules.write present _

theorem noteExit (rules : TellRules known relation) {session : Session} (present : known registry session) :
    relation registry (after (noteExit session) registry) := by
  unfold Registry.noteExit
  rw [after_get_bind, after_set_bind]
  refine rules.trans (rules.mark session.id registry) ?_
  split
  · have written := rules.write (rules.marked present session.id) exitMarker
    exact after_chain relation rules.trans written fun _ => rules.log _
  · exact rules.refl _

theorem tell (rules : TellRules known relation) (subscriber : Subscriber) (payload : Event.Payload)
    (present : ∀ serial session, registry.bySerial? serial = some session → known registry session) :
    relation registry (after (tell subscriber payload) registry) := by
  unfold Registry.tell
  cases subscriber with
  | output serial =>
    rw [after_get_bind]
    split
    · exact rules.refl registry
    next session found =>
      exact after_chain relation rules.trans (rules.deliver (present serial session found) payload) fun _ => rules.refl
  | exit serial =>
    rw [after_get_bind]
    split
    · exact rules.refl registry
    next session found => exact rules.noteExit (present serial session found)

theorem moves (rules : TellRules (fun _ _ => True) relation) (subscriber : Subscriber) (payload : Event.Payload) :
    Moves relation (Registry.tell subscriber payload) :=
  fun _ => rules.tell subscriber payload fun _ _ _ => trivial

theorem of_valid (rules : TellRules Owns relation) (subscriber : Subscriber) (payload : Event.Payload)
    (valid : registry.WellFormed) : relation registry (after (Registry.tell subscriber payload) registry) :=
  rules.tell subscriber payload fun _ _ => valid.owns

end TellRules

theorem sound_tells : TellRules (fun _ _ => True) Sound where
  refl := .refl
  trans before later := before.trans later
  log _ _ := .of_stance rfl
  mark id registry := markExited_sound registry id
  marked _ _ := trivial
  write _ _ := onSurface_sound _ _ _

theorem typed_view {τ : Type} (view : Registry → τ) (same : ∀ registry call, view (submit registry call) = view registry)
    (session : Session) (bytes : List UInt8) (registry : Registry) :
      view (typed session bytes registry) = view registry := by
  unfold typed
  induction session.surface.inputListeners generalizing registry with
  | nil => rfl
  | cons listener rest ih =>
    rw [List.foldl_cons, ih]
    split
    · exact same registry _
    · rfl

end TerminalDock.Registry
