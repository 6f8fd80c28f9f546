import TerminalDock.Proofs.OutputOrder
import TerminalDock.Proofs.RegistryRuns

/-! The subscriptions of a registry. As long as the subscription to an end never fails after the one to the output
was made, the live sessions are told of their events and nobody else is told of any; and a creation that fails
leaves everything as it was but for the session it built, which is gone, and the process, which is closed. -/

namespace TerminalDock
open Proofs.Steps

def Subscriber.serial : Subscriber → Nat
  | .output serial => serial
  | .exit serial => serial

namespace Registry

section Failing
variable {cwd id : String} {registry final : Registry} {faults : WiringFaults} {failure : Failure}

theorem handlers_undone (valid : registry.WellFormed) (unborn : registry.Deaf registry.serial) (event : String) :
    (registry.undone id).bus.handlers event = registry.bus.handlers event :=
  Event.Bus.handlers_undone valid.bus (Event.outputOf_ne_exitOf id id) (List.count_eq_zero.mp (unborn.output _))
    (List.count_eq_zero.mp (unborn.exit _)) event

/-- A session that is gone: nobody hears what is typed into its surface, and its view is out of the layout. -/
structure Gone (session : Session) : Prop where
  disposed : session.surface.disposed = true
  unheard : session.surface.listeners = []
  detached : session.view.attached = false
  hidden : session.view.visible = false

/-- A wiring that failed and left nothing behind but the session it built, which is gone, and a call that closes the
process. -/
structure Spoiled (id : String) (faults : WiringFaults) (registry final : Registry) : Prop where
  sessions : final.sessions = registry.sessions
  active : final.active = registry.active
  counter : final.counter = registry.counter
  handlers : ∀ event, final.bus.handlers event = registry.bus.handlers event
  outbox : final.outbox = registry.outbox ++ [.close id]
  gone : ∃ built, final.retired = built ++ registry.retired ∧ built.length = (if faults.surface.isSome then 0 else 1) ∧
    ∀ session ∈ built, Gone session

private theorem abandoned_spoiled {middle : Registry} {built : Option Session}
    (sessions : middle.sessions = registry.sessions)
    (active : middle.active = registry.active) (counter : middle.counter = registry.counter)
    (handlers : ∀ event, middle.bus.handlers event = registry.bus.handlers event)
    (outbox : middle.outbox = registry.outbox) (retired : middle.retired = registry.retired)
    (begun : built.toList.length = if faults.surface.isSome then 0 else 1) :
    Spoiled id faults registry (middle.abandoned id built) where
  sessions := sessions
  active := active
  counter := counter
  handlers := handlers
  outbox := by rw [← outbox]; rfl
  gone := by
    refine ⟨(built.map Session.retire).toList, congrArg _ retired, ?_, ?_⟩
    · rw [← begun]
      cases built <;> rfl
    · intro session member
      cases built with
      | none => cases member
      | some session =>
        rw [List.mem_singleton.mp member]
        exact ⟨rfl, rfl, rfl, rfl⟩

private theorem wire_spoiled (valid : registry.WellFormed) (unborn : registry.Deaf registry.serial)
    (tight : faults.leaks = false) (failed : wire cwd id faults registry = .error failure final) :
    Spoiled id faults registry final := by
  obtain ⟨surface, view, output, exit, input, attach⟩ := faults
  cases surface with
  | some failure =>
    cases failed
    exact abandoned_spoiled rfl rfl rfl (fun _ => rfl) rfl rfl rfl
  | none =>
    cases view with
    | some failure =>
      cases failed
      exact abandoned_spoiled rfl rfl rfl (fun _ => rfl) rfl rfl rfl
    | none =>
      cases output with
      | some failure =>
        cases failed
        exact abandoned_spoiled rfl rfl rfl (fun _ => rfl) rfl rfl rfl
      | none =>
        cases exit with
        | some failure => cases tight
        | none =>
          cases input with
          | some failure =>
            obtain rfl : ((registry.undone id).warned id failure).abandoned id (some (registry.newborn id)) = final :=
              (EStateM.Result.error.inj failed).2
            exact abandoned_spoiled rfl rfl rfl (handlers_undone valid unborn) rfl rfl rfl
          | none =>
            cases attach with
            | some failure =>
              obtain rfl : ((registry.undone id).warned id failure).abandoned id (some (registry.newborn id)) = final :=
                (EStateM.Result.error.inj failed).2
              exact abandoned_spoiled rfl rfl rfl (handlers_undone valid unborn) rfl rfl rfl
            | none => cases failed

theorem wire_whole {session : Session} (built : wire cwd id faults registry = .ok session final) : faults = {} := by
  obtain ⟨surface, view, output, exit, input, attach⟩ := faults
  cases surface with
  | some failure => cases built
  | none =>
    cases view with
    | some failure => cases built
    | none =>
      cases output with
      | some failure => cases built
      | none =>
        cases exit with
        | some failure => cases built
        | none =>
          cases input with
          | some failure => cases built
          | none =>
            cases attach with
            | some failure => cases built
            | none => rfl

end Failing

/-- The point at which a creation fails. -/
def Doomed (registry : Registry) (faults : String → WiringFaults) : Except Failure String → Prop
  | .error _ => True
  | .ok id => registry.has id = true ∨ faults id ≠ {}

def begun (registry : Registry) (faults : String → WiringFaults) : Except Failure String → Nat
  | .error _ => 0
  | .ok id => if registry.has id || (faults id).surface.isSome then 0 else 1

/-- The process that nobody else would close. -/
def orphans (registry : Registry) : Except Failure String → List BackendCall
  | .error _ => []
  | .ok id => if registry.has id then [] else [.close id]

/-- A creation that failed as if nothing had been begun: it is told for the directory that was asked for, unless the
backend told it itself, and what was begun is gone. -/
structure Undone (cwd : String) (spawned : Except Failure String) (faults : String → WiringFaults)
    (registry : Registry) (failure : Failure) (final : Registry) : Prop where
  told : (∃ reason, failure = .spawn cwd reason) ∨ ∃ place reason, failure = .spawn place reason ∧ spawned = .error failure
  sessions : final.sessions = registry.sessions
  active : final.active = registry.active
  counter : final.counter = registry.counter
  handlers : ∀ event, final.bus.handlers event = registry.bus.handlers event
  outbox : final.outbox = registry.outbox ++ registry.orphans spawned
  gone : ∃ built, final.retired = built ++ registry.retired ∧ built.length = registry.begun faults spawned ∧
    ∀ session ∈ built, Gone session

private theorem create_undone {cwd : String} {spawned : Except Failure String} {faults : String → WiringFaults}
    {registry : Registry} (valid : registry.WellFormed) (unborn : registry.Deaf registry.serial)
    (tight : ∀ id, spawned = .ok id → (faults id).leaks = false) (doomed : registry.Doomed faults spawned) :
    ∃ failure final, create cwd spawned faults registry = .error failure final ∧
      Undone cwd spawned faults registry failure final := by
  have nobody : ∀ session ∈ ([] : List Session), Gone session := fun _ member => absurd member List.not_mem_nil
  have ends := create_ends cwd spawned faults registry
  generalize create cwd spawned faults registry = result at ends
  cases ends with
  | @refused failure answered record =>
    subst answered
    refine ⟨_, _, rfl, ?_, rfl, rfl, rfl, fun _ => rfl, (List.append_nil _).symm, [], rfl, rfl, nobody⟩
    cases failure with
    | spawn place reason => exact .inr ⟨place, reason, rfl, rfl⟩
    | _ => exact .inl ⟨_, rfl⟩
  | @taken id answered live reason =>
    subst answered
    have orphans : registry.orphans (.ok id) = [] := if_pos live
    have begun : registry.begun faults (.ok id) = 0 := if_pos (by rw [live]; rfl)
    exact ⟨_, _, rfl, .inl ⟨_, rfl⟩, rfl, rfl, rfl, fun _ => rfl, by rw [orphans, List.append_nil], [], rfl, begun.symm,
      nobody⟩
  | @spoiled id failure final answered free failed wired =>
    subst answered
    have absent : registry.has id = false := by
      rw [has, Assoc.has, show registry.sessions.find? id = none from free]
      rfl
    obtain ⟨sessions, active, counter, handlers, outbox, built, retired, number, gone⟩ :=
      wire_spoiled valid unborn (tight id rfl) failed
    refine ⟨_, _, rfl, ?_, sessions, active, counter, handlers, ?_, built, retired, ?_, gone⟩
    · cases wired <;> exact .inl ⟨_, rfl⟩
    · rw [outbox, orphans, absent]
      rfl
    · rw [number, begun, absent, Bool.false_or]
  | @made id session final answered free built wired =>
    subst answered
    rcases doomed with present | faulty
    · obtain ⟨other, found⟩ := Assoc.has_iff.mp present
      cases free.symm.trans found
    · exact absurd (wire_whole built) faulty

private theorem hears_severed {id : String} {session : Session} {registry final : Registry} (valid : registry.WellFormed)
    (severed : Severed id session registry final) :
    final.serial = registry.serial ∧ ∀ event who, final.hears event who ≤ registry.hears event who := by
  have output (event : String) (who : Subscriber) :=
    Event.Bus.count_unlisten valid.bus (Event.outputOf id) event (.output session.serial) who
  have both (event : String) (who : Subscriber) := Event.Bus.count_unlisten
    (Event.Bus.sound_unlisten valid.bus (Event.outputOf id) (.output session.serial))
    (Event.exitOf id) event (.exit session.serial) who
  cases severed with
  | intact => exact ⟨rfl, fun _ _ => Nat.le_refl _⟩
  | mute =>
    refine ⟨rfl, fun event who => ?_⟩
    exact Nat.le_trans (Nat.le_of_eq (output event who)) (Nat.sub_le _ _)
  | deaf | silenced =>
    refine ⟨rfl, fun event who => ?_⟩
    have fewer := both event who
    rw [output] at fewer
    exact Nat.le_trans (Nat.le_of_eq fewer) (Nat.le_trans (Nat.sub_le _ _) (Nat.sub_le _ _))

/-- Whoever is told of anything was given a serial number. -/
structure Elder (registry : Registry) : Prop where
  valid : registry.WellFormed
  given : ∀ event who, registry.hears event who ≠ 0 → who.serial < registry.serial

namespace Elder
variable {first last : Registry} {cwd id : String}

theorem unborn (elder : first.Elder) : first.Deaf first.serial := by
  refine ⟨fun event => ?_, fun event => ?_⟩
  · by_contra told
    exact absurd (elder.given event _ told) (Nat.lt_irrefl _)
  · by_contra told
    exact absurd (elder.given event _ told) (Nat.lt_irrefl _)

theorem fewer (elder : first.Elder) (valid : last.WellFormed) (serial : last.serial = first.serial)
    (less : ∀ event who, last.hears event who ≤ first.hears event who) : last.Elder := by
  refine ⟨valid, fun event who told => ?_⟩
  have told_before : first.hears event who ≠ 0 := fun deaf => told (Nat.le_zero.mp (deaf ▸ less event who))
  exact serial ▸ elder.given event who told_before

theorem spoiled {failure : Failure} (elder : first.Elder) (failed : Wiring cwd id first (.error failure last)) :
    last.Elder := by
  have sound := wiring_sound failed elder.valid
  refine ⟨sound.1, fun event who told => ?_⟩
  by_cases new : who = .output first.serial
  · subst new
    rcases retired_abandoned failed with ⟨_, _, bus⟩ | ⟨_, _, _, number⟩
    · rw [hears_of_bus bus] at told
      exact absurd (elder.unborn.output event) told
    · rw [number]
      exact Nat.lt_succ_self _
  · rw [hears_abandoned elder.valid failed new] at told
    exact Nat.lt_of_lt_of_le (elder.given event who told) sound.2.serial

theorem register {session : Session} (elder : first.Elder) (free : first.session? id = none)
    (complete : Wiring cwd id first (.ok session last)) : (Registry.register cwd session last).Elder := by
  refine ⟨(register_sound free complete elder.valid).1, fun event who told => ?_⟩
  obtain ⟨_, _, _, number, _⟩ := account_register complete
  rw [number]
  by_cases new : who.serial = first.serial
  · rw [new]
    exact Nat.lt_succ_self _
  · have other : who ≠ .output first.serial ∧ who ≠ .exit first.serial :=
      ⟨fun same => new (same ▸ rfl), fun same => new (same ▸ rfl)⟩
    rw [hears_register complete, if_neg fun both => other.1 both.2, if_neg fun both => other.2 both.2] at told
    exact Nat.lt_succ_of_lt (elder.given event who told)

end Elder

end Registry

namespace RegistryBench

theorem Change.elder {clean : Prop} {bench next : RegistryBench} (change : Change clean bench next)
    (elder : bench.registry.Elder) : next.registry.Elder := by
  have valid := change.valid elder.valid
  cases change with
  | unmoved kept made removals =>
    exact elder.fewer valid kept.serial fun event who => Nat.le_of_eq (Registry.hears_of_bus kept.bus event who)
  | @spoiled cwd id faults failure tight failed made removals =>
    have wired := Registry.wire_ends cwd id faults bench.registry
    rw [failed] at wired
    exact elder.spoiled wired
  | made free complete registered made removals => exact registered ▸ elder.register free complete
  | broken unclean live severed made removals =>
    obtain ⟨serial, less⟩ := Registry.hears_severed elder.valid severed
    exact elder.fewer valid serial less
  | removed live same made removals =>
    refine elder.fewer valid (congrArg Registry.Stance.serial same) fun event who => ?_
    rw [Registry.hears_of_bus (congrArg Registry.Stance.bus same), Registry.hears_apart elder.valid]
    omega

private theorem opened_elder (factory : SurfaceFactory) (width height : Int) :
    (opened factory width height).registry.Elder :=
  have blank := opened_blank factory width height
  ⟨blank.wellFormed, fun event who told => absurd (blank.unheard event who) told⟩

/-- Whatever happened before, a creation that fails leaves nothing behind, unless the subscription to the end of the
process is what fails. -/
theorem create_atomic (factory : SurfaceFactory) (width height : Int) (deeds : List Deed) (cwd : String)
    (spawned : Except Failure String) (faults : String → WiringFaults)
    (tight : ∀ id, spawned = .ok id → (faults id).leaks = false)
    (doomed : ((opened factory width height).run deeds).registry.Doomed faults spawned) :
    ∃ failure final, Registry.create cwd spawned faults ((opened factory width height).run deeds).registry =
        .error failure final ∧
      Registry.Undone cwd spawned faults ((opened factory width height).run deeds).registry failure final := by
  have elder : ((opened factory width height).run deeds).registry.Elder :=
    run_invariant (fun bench => bench.registry.Elder) (fun _ elder => elder.valid)
      (fun _ _ change => change.elder) (opened_elder factory width height) fun _ _ => False.elim
  exact Registry.create_undone elder.valid elder.unborn tight doomed

def single : RegistryBench :=
  (opened Panel.standard.registry.factory 800 300).run [.ask "/tmp", .answer 0 (.ok "term-1") fun _ => {}]

theorem create_atomic_detached :
    ∃ failure final, Registry.create "/tmp" (.ok "term-2")
        (fun _ => { attach := some (.fault .runtime "no room") }) single.registry = .error failure final ∧
      final.sessions = single.registry.sessions ∧ final.bus.count (Event.outputOf "term-2") = 0 ∧
      final.outbox = [.close "term-2"] := by
  obtain ⟨failure, final, failed, undone⟩ := create_atomic Panel.standard.registry.factory 800 300
    [.ask "/tmp", .answer 0 (.ok "term-1") fun _ => {}] "/tmp" (.ok "term-2")
    (fun _ => { attach := some (.fault .runtime "no room") }) (fun _ _ => rfl) (.inr (by simp))
  refine ⟨failure, final, failed, undone.sessions, ?_, ?_⟩
  · rw [Event.Bus.count, undone.handlers]
    decide +kernel
  · rw [undone.outbox]
    decide +kernel

/-- If it is the subscription to the end that fails, the one to the output stays. -/
theorem create_atomic_fails :
    ∃ failure final, Registry.create "/tmp" (.ok "term-2")
        (fun _ => { exit := some (.fault .runtime "gone") }) single.registry = .error failure final ∧
      ¬Registry.Undone "/tmp" (.ok "term-2") (fun _ => { exit := some (.fault .runtime "gone") }) single.registry
        failure final := by
  refine ⟨_, _, rfl, fun undone => ?_⟩
  have kept := undone.handlers (Event.outputOf "term-2")
  revert kept
  decide +kernel

end RegistryBench

namespace Registry

/-- The live sessions are told of their events, nobody else is told of any, and their surfaces are not gone. -/
structure Tight (registry : Registry) : Prop where
  wired : registry.Wired
  heard : ∀ event serial, registry.hears event (.output serial) ≠ 0 →
    ∃ id session, registry.session? id = some session ∧ session.serial = serial
  intact : ∀ id session, registry.session? id = some session → session.surface.disposed = false

namespace Tight
variable {first last : Registry}

private theorem elder (tight : first.Tight) : first.Elder where
  valid := tight.wired.valid
  given := by
    intro event who told
    cases who with
    | output serial => exact tight.wired.old event serial told
    | exit serial =>
      obtain ⟨id, session, live, rfl⟩ := tight.wired.ending event serial told
      exact tight.wired.valid.fresh session (everyone_of_live live)

private theorem of_unmoved (tight : first.Tight) (kept : first.Unmoved last) : last.Tight := by
  have faces (id : String) : (last.session? id).map Session.face = (first.session? id).map Session.face := by
    rw [← find?_face, ← find?_face, kept.sessions]
  have tags (id : String) : (last.session? id).map Session.tag = (first.session? id).map Session.tag := by
    have same := congrArg (Option.map Session.Face.tag) (faces id)
    rwa [Option.map_map, Option.map_map] at same
  refine ⟨tight.wired.of_live kept.valid tags kept.serial kept.bus, ?_, ?_⟩
  · intro event serial told
    rw [hears_of_bus kept.bus] at told
    obtain ⟨id, session, live, same⟩ := tight.heard event serial told
    have alike := tags id
    rw [live] at alike
    obtain ⟨current, now, tag⟩ := Option.map_eq_some_iff.mp alike
    exact ⟨id, current, now, (congrArg Prod.fst tag).trans same⟩
  · intro id session live
    have alike := faces id
    rw [live] at alike
    obtain ⟨old, before, face⟩ := Option.map_eq_some_iff.mp alike.symm
    exact (congrArg Session.Face.disposed face).symm.trans (tight.intact id old before)

theorem spoiled {cwd id : String} {faults : WiringFaults} {failure : Failure} (tight : first.Tight)
    (sealed : faults.leaks = false) (failed : wire cwd id faults first = .error failure last) : last.Tight := by
  have wired := wire_ends cwd id faults first
  rw [failed] at wired
  obtain ⟨sessions, -, -, handlers, -, -⟩ := wire_spoiled tight.wired.valid tight.elder.unborn sealed failed
  have same (id : String) : last.session? id = first.session? id := by rw [session?, session?, sessions]
  refine ⟨wired_abandoned tight.wired wired, ?_, ?_⟩
  · intro event serial told
    rw [hears, handlers] at told
    obtain ⟨id, session, live, number⟩ := tight.heard event serial told
    exact ⟨id, session, (same id).trans live, number⟩
  · intro id session live
    exact tight.intact id session ((same id).symm.trans live)

theorem register {cwd id : String} {session : Session} {wired : Registry} (tight : first.Tight)
    (free : first.session? id = none) (complete : Wiring cwd id first (.ok session wired)) :
    (Registry.register cwd session wired).Tight := by
  obtain ⟨_, account, _, _, sessions⟩ := account_register complete
  have serial : session.serial = first.serial := congrArg (·.1.1) account
  refine ⟨wired_register tight.wired free complete, ?_, ?_⟩
  · intro event number told
    rw [hears_register complete] at told
    by_cases new : number = first.serial
    · exact ⟨id, session, by rw [sessions, if_pos rfl], serial.trans new.symm⟩
    · obtain ⟨name, other, live, same⟩ := tight.heard event number (by simpa [new] using told)
      refine ⟨name, other, ?_, same⟩
      rw [sessions, if_neg, live]
      rintro rfl
      cases free.symm.trans live
  · intro name other live
    rw [sessions] at live
    split at live
    · cases live
      cases complete
      rfl
    · exact tight.intact name other live

theorem apart {id : String} {session : Session} (tight : first.Tight) (live : first.session? id = some session) :
    (first.apart id session).Tight := by
  have valid := tight.wired.valid
  refine ⟨wired_apart tight.wired live, ?_, ?_⟩
  · intro event serial told
    rw [hears_apart valid] at told
    obtain ⟨name, other, found, same⟩ := tight.heard event serial (by omega)
    by_cases here : name = id
    · subst here
      have alike : other = session := Option.some.inj (found.symm.trans live)
      subst alike same
      rw [(tight.wired.live name other live).output] at told
      simp at told
    · exact ⟨name, other, by rw [session?_apart valid live, if_neg here]; exact found, same⟩
  · intro name other found
    rw [session?_apart valid live] at found
    split at found
    · cases found
    · exact tight.intact name other found

theorem listener (tight : first.Tight) {event : String} {who : Subscriber} (told : who ∈ first.bus.handlers event) :
    ∃ id session, first.session? id = some session ∧
      (event = Event.outputOf id ∧ who = .output session.serial ∨ event = Event.exitOf id ∧ who = .exit session.serial) := by
  have often : first.hears event who ≠ 0 := Nat.ne_of_gt (List.count_pos_iff.mpr told)
  cases who with
  | output serial =>
    obtain ⟨id, session, live, rfl⟩ := tight.heard event serial often
    refine ⟨id, session, live, .inl ⟨?_, rfl⟩⟩
    by_contra elsewhere
    exact often (((tight.wired.live id session live).output event).trans (if_neg elsewhere))
  | exit serial =>
    obtain ⟨id, session, live, rfl⟩ := tight.wired.ending event serial often
    refine ⟨id, session, live, .inr ⟨?_, rfl⟩⟩
    by_contra elsewhere
    exact often (((tight.wired.live id session live).exit event).trans (if_neg elsewhere))

private theorem handlers_of_once {event : String} {who : Subscriber} (once : first.hears event who = 1)
    (only : ∀ other ∈ first.bus.handlers event, other = who) : first.bus.handlers event = [who] := by
  have all := List.eq_replicate_of_mem only
  have length : (first.bus.handlers event).length = 1 := by
    rw [← once, hears, all, List.count_replicate_self, List.length_replicate]
  rw [all, length]
  rfl

private theorem handlers_output (tight : first.Tight) {id : String} {session : Session}
    (live : first.session? id = some session) :
    first.bus.handlers (Event.outputOf id) = [.output session.serial] := by
  refine handlers_of_once (((tight.wired.live id session live).output _).trans (if_pos rfl)) fun other told => ?_
  obtain ⟨name, another, found, ⟨same, rfl⟩ | ⟨same, rfl⟩⟩ := tight.listener told
  · cases Event.outputOf_inj same
    cases live.symm.trans found
    rfl
  · exact absurd same (Event.outputOf_ne_exitOf id name)

private theorem handlers_exit (tight : first.Tight) {id : String} {session : Session}
    (live : first.session? id = some session) :
    first.bus.handlers (Event.exitOf id) = [.exit session.serial] := by
  refine handlers_of_once (((tight.wired.live id session live).exit _).trans (if_pos rfl)) fun other told => ?_
  obtain ⟨name, another, found, ⟨same, rfl⟩ | ⟨same, rfl⟩⟩ := tight.listener told
  · exact absurd same.symm (Event.outputOf_ne_exitOf name id)
  · cases Event.exitOf_inj same
    cases live.symm.trans found
    rfl

theorem deaf (tight : first.Tight) {session : Session} (known : session ∈ first.everyone)
    (disposed : session.surface.disposed = true) : first.Deaf session.serial := by
  have nobody {id : String} {other : Session} (live : first.session? id = some other) :
      other.serial ≠ session.serial := by
    intro same
    have alike := tight.wired.valid.same_session (everyone_of_live live) known same
    have kept := tight.intact id other live
    rw [alike, disposed] at kept
    cases kept
  refine ⟨fun event => ?_, fun event => ?_⟩
  · by_contra told
    obtain ⟨id, other, live, same⟩ := tight.heard event _ told
    exact nobody live same
  · by_contra told
    obtain ⟨id, other, live, same⟩ := tight.wired.ending event _ told
    exact nobody live same

end Tight

/-- The sessions that are live are told of their events, once each, and nobody else is told of anything. Whatever
event is announced, nothing is written to a surface that is gone. -/
structure Attuned (panel : Panel) : Prop where
  live : ∀ id session, panel.registry.session? id = some session →
    panel.registry.bus.handlers (Event.outputOf id) = [.output session.serial] ∧
      panel.registry.bus.handlers (Event.exitOf id) = [.exit session.serial]
  others : ∀ event, panel.registry.bus.handlers event ≠ [] →
    ∃ id, panel.registry.has id = true ∧ (event = Event.outputOf id ∨ event = Event.exitOf id)
  gone : ∀ event payload, ∀ session ∈ panel.registry.everyone, session.surface.disposed = true →
    ∃ later, (panel.emit event payload).2.registry.bySerial? session.serial = some later ∧
      later.surface.written = session.surface.written

theorem Tight.attuned {panel : Panel} (tight : panel.registry.Tight) : Attuned panel where
  live _ _ live := ⟨tight.handlers_output live, tight.handlers_exit live⟩
  others := by
    intro event some
    obtain ⟨who, told⟩ := List.exists_mem_of_ne_nil _ some
    obtain ⟨id, session, live, ⟨spoken, -⟩ | ⟨ended, -⟩⟩ := tight.listener told
    · exact ⟨id, Assoc.has_iff.mpr ⟨session, live⟩, .inl spoken⟩
    · exact ⟨id, Assoc.has_iff.mpr ⟨session, live⟩, .inr ended⟩
  gone := by
    intro event payload session known disposed
    have heard := Panel.emit_account event payload tight.wired
    have valid := (Panel.tellAll_sound event payload (panel.registry.bus.handlers event) panel tight.wired.valid).1
    have inside : session.account ∈ (panel.emit event payload).2.registry.everyone.map Session.account := by
      rw [everyone_seen, heard, ← everyone_seen]
      exact List.mem_map.mpr ⟨session, known, impressed_gone (tight.deaf known disposed)⟩
    obtain ⟨later, present, same⟩ := List.mem_map.mp inside
    have number : later.serial = session.serial := congrArg (·.1.1) same
    exact ⟨later, number ▸ valid.bySerial_of_mem present, congrArg (·.2.2) same⟩

end Registry

namespace RegistryBench

theorem Change.tight {bench next : RegistryBench} (change : Change True bench next) (tight : bench.registry.Tight) :
    next.registry.Tight := by
  cases change with
  | unmoved kept made removals => exact tight.of_unmoved kept
  | spoiled sealed failed made removals => exact tight.spoiled (sealed trivial) failed
  | made free complete registered made removals => exact registered ▸ tight.register free complete
  | broken unclean live severed made removals => exact absurd trivial unclean
  | removed live same made removals =>
    have apart := tight.apart live
    exact apart.of_unmoved (.of_stance apart.wired.valid same)

private theorem opened_tight (factory : SurfaceFactory) (width height : Int) :
    (opened factory width height).registry.Tight := by
  have blank := opened_blank factory width height
  refine ⟨blank.wired, fun event serial told => absurd (blank.unheard event _) told, fun id session live => ?_⟩
  cases (blank.nobody id).symm.trans live

theorem run_attuned (factory : SurfaceFactory) (width height : Int) (deeds : List Deed)
    (clean : ∀ deed ∈ deeds, deed.Clean) : Registry.Attuned ((opened factory width height).run deeds).panel := by
  have tight : ((opened factory width height).run deeds).registry.Tight :=
    run_invariant (fun bench => bench.registry.Tight) (fun _ tight => tight.wired.valid)
      (fun _ _ change => change.tight) (opened_tight factory width height) fun deed member _ => clean deed member
  exact tight.attuned

/-- Two creations at once, of which one fails, a removal and another creation under the same identifier. -/
def churn : List Deed :=
  [.ask "/tmp", .ask "/tmp", .answer 1 (.ok "term-1") fun _ => {},
    .answer 0 (.ok "term-2") fun _ => { attach := some (.fault .runtime "no room") }, .remove "term-1" {}, .ask "/tmp",
    .answer 0 (.ok "term-1") fun _ => {}]

theorem run_attuned_churn :
    ((opened Panel.standard.registry.factory 800 300).run churn).registry.bus.handlers "terminal-output-term-1" =
        [.output 2] ∧
      ((opened Panel.standard.registry.factory 800 300).run churn).registry.bus.handlers "terminal-exit-term-1" =
        [.exit 2] := by
  have attuned := run_attuned Panel.standard.registry.factory 800 300 churn
    (by simp [churn, Deed.Clean, WiringFaults.leaks])
  have present : (((opened Panel.standard.registry.factory 800 300).run churn).registry.session? "term-1").map
      Session.serial = some 2 := by decide +kernel
  obtain ⟨session, live, serial⟩ := Option.map_eq_some_iff.mp present
  rw [← serial]
  exact attuned.live "term-1" session live

def leak : List Deed :=
  [.ask "/tmp", .answer 0 (.ok "term-1") fun _ => { exit := some (.fault .runtime "gone") }]

/-- The session that was given up goes on to be told of its output, and its surface is gone by then. -/
theorem run_attuned_fails :
    ¬Registry.Attuned ((opened Panel.standard.registry.factory 800 300).run leak).panel ∧
      ((((opened Panel.standard.registry.factory 800 300).run leak).panel.emit "terminal-output-term-1"
        (.chunk "QQ==")).2.registry.retired.map fun session => (session.surface.disposed, session.surface.written)) =
        [(true, [[65]])] := by
  refine ⟨fun attuned => ?_, by decide +kernel⟩
  obtain ⟨id, live, -⟩ := attuned.others "terminal-output-term-1" (by decide +kernel)
  have nobody : ((opened Panel.standard.registry.factory 800 300).run leak).registry.sessions = [] := rfl
  rw [Registry.has, show ((opened Panel.standard.registry.factory 800 300).run leak).panel.registry.sessions = [] from
    nobody] at live
  cases live

end RegistryBench

end TerminalDock
