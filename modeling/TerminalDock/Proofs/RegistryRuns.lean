import TerminalDock.Proofs.DockRuns
import TerminalDock.Proofs.Telling

/-! Runs of a registry by itself. Any number of creations may be under way, and they are answered in any order and in
any way, while sessions are removed, renamed and told of events. -/

namespace TerminalDock
open Proofs.Steps

namespace Registry

/-- How far a session may be cut off before its removal fails. -/
inductive Severed (id : String) (session : Session) (registry : Registry) : Registry → Prop
  | intact : Severed id session registry registry
  | mute : Severed id session registry (registry.unsubscribe (Event.outputOf id) (.output session.serial))
  | deaf :
    Severed id session registry ((registry.unsubscribe (Event.outputOf id) (.output session.serial)).unsubscribe
      (Event.exitOf id) (.exit session.serial))
  | silenced : Severed id session registry (silenced id session registry)

/-- How the removal of a session may end. -/
inductive Ending (id : String) (registry : Registry) : EStateM.Result Failure Registry Removal → Prop
  | absent : Ending id registry (.ok { removed := false, nowEmpty := registry.isEmpty } registry)
  | broken {session : Session} {final : Registry} (failure : Failure) (live : registry.session? id = some session)
      (severed : Severed id session registry final) : Ending id registry (.error failure final)
  | removed {session : Session} {removal : Removal} {final : Registry} (live : registry.session? id = some session)
      (told : removal.removed = true) (same : final.stance = (apart id session registry).stance) :
      Ending id registry (.ok removal final)

/-- What fails first decides how far the session is cut off. -/
theorem remove_broken {registry : Registry} {id : String} {session : Session}
    (live : registry.session? id = some session) (faults : RemovalFaults) :
    remove id faults registry =
      match faults.output, faults.exit, faults.input, faults.detach with
      | some failure, _, _, _ => .error failure registry
      | none, some failure, _, _ =>
        .error failure (registry.unsubscribe (Event.outputOf id) (.output session.serial))
      | none, none, some failure, _ =>
        .error failure ((registry.unsubscribe (Event.outputOf id) (.output session.serial)).unsubscribe
          (Event.exitOf id) (.exit session.serial))
      | none, none, none, some failure => .error failure (silenced id session registry)
      | none, none, none, none => remove id {} registry := by
  simp only [remove, get_bind, live, silenced]
  rcases faults with ⟨_ | output, _ | exit, _ | input, _ | detach⟩ <;> rfl

private theorem remove_ends (id : String) (faults : RemovalFaults) (registry : Registry) :
    Ending id registry (remove id faults registry) := by
  cases found : registry.session? id with
  | none =>
    rw [remove_absent found]
    exact .absent
  | some session =>
    rw [remove_broken found]
    split
    · exact .broken _ found .intact
    · exact .broken _ found .mute
    · exact .broken _ found .deaf
    · exact .broken _ found .silenced
    · obtain ⟨record, removed⟩ := remove_live found
      rw [removed]
      exact .removed found rfl rfl

private theorem severed_sound {id : String} {session : Session} {registry final : Registry}
    (severed : Severed id session registry final) : Sound registry final := by
  cases severed with
  | intact => exact .refl registry
  | mute => exact .of_unsubscribe registry _ _
  | deaf => exact (Sound.of_unsubscribe registry _ _).trans (.of_unsubscribe _ _ _)
  | silenced => exact silenced_sound id session registry

end Registry

inductive Deed
  /-- A process is asked for. -/
  | ask (cwd : String)
  /-- One of those who wait for a process, at a place among them, is answered. -/
  | answer (place : Nat) (spawned : Except Failure String) (faults : String → WiringFaults)
  | remove (id : String) (faults : RemovalFaults)
  | setActive (id : String)
  | rename (id name : String)
  | markExited (id : String)
  | recordGeometry (id : String) (size : Geometry)
  | closeAll
  /-- The backend announces an event. -/
  | announce (event : String) (payload : Event.Payload)

/-- A registry, with those who wait for a process, the sessions that were made as they were then, and what became of
the removals, all of them oldest first. -/
structure RegistryBench where
  panel : Panel
  waiting : List String := []
  made : List Session := []
  removals : List Removal := []

namespace RegistryBench

def registry (bench : RegistryBench) : Registry :=
  bench.panel.registry

def opened (factory : SurfaceFactory) (width height : Int) : RegistryBench where
  panel := { registry := { factory := factory, viewWidth := width, viewHeight := height }, height := 0 }

def change (bench : RegistryBench) (f : Registry → Registry) : RegistryBench :=
  { bench with panel := bench.panel.changeRegistry f }

def perform (bench : RegistryBench) : Deed → RegistryBench
  | .ask cwd => { bench with waiting := bench.waiting ++ [cwd] }
  | .answer place spawned faults =>
    match bench.waiting[place]? with
    | none => bench
    | some cwd =>
      let bench := { bench with waiting := bench.waiting.eraseIdx place }
      match Registry.create cwd spawned faults bench.registry with
      | .ok session registry => { bench.change fun _ => registry with made := bench.made ++ [session] }
      | .error _ registry => bench.change fun _ => registry
  | .remove id faults =>
    match Registry.remove id faults bench.registry with
    | .ok removal registry => { bench.change fun _ => registry with removals := bench.removals ++ [removal] }
    | .error _ registry => bench.change fun _ => registry
  | .setActive id => bench.change (after (Registry.setActive id))
  | .rename id name => bench.change (after (Registry.rename id name))
  | .markExited id => bench.change fun registry => (registry.markExited id).2
  | .recordGeometry id size => bench.change (·.recordGeometry id size)
  | .closeAll => { bench with panel := bench.panel.swept }
  | .announce event payload => { bench with panel := (bench.panel.emit event payload).2 }

def run (bench : RegistryBench) (deeds : List Deed) : RegistryBench :=
  deeds.foldl perform bench

end RegistryBench

/-- The subscription to the output of a session stays behind if the one to its end fails. -/
def WiringFaults.leaks (faults : WiringFaults) : Bool :=
  faults.surface.isNone && faults.view.isNone && faults.output.isNone && faults.exit.isSome

/-- A deed that leaves no subscription behind, and takes none from a session that stays. -/
def Deed.Clean : Deed → Prop
  | .answer _ _ faults => ∀ id, (faults id).leaks = false
  | .remove _ faults => faults = {}
  | _ => True

structure Registry.Unmoved (first last : Registry) : Prop where
  valid : last.WellFormed
  sessions : last.face.sessions = first.face.sessions
  counter : last.counter = first.counter
  serial : last.serial = first.serial
  bus : last.bus = first.bus

theorem Registry.Unmoved.of_stance {first last : Registry} (valid : first.WellFormed) (same : last.stance = first.stance) :
    first.Unmoved last where
  valid := valid.of_stance same
  sessions := congrArg Face.sessions (face_of_stance same)
  counter := congrArg Stance.counter same
  serial := congrArg Stance.serial same
  bus := congrArg Stance.bus same

theorem Registry.Unmoved.of_still {first last : Registry} (valid : first.WellFormed) (still : Still first last)
    (framed : Framed first last) : first.Unmoved last where
  valid := (still valid).1
  sessions := congrArg Face.sessions (still valid).2
  counter := congrArg Face.counter (still valid).2
  serial := framed.2
  bus := framed.1

theorem Registry.Unmoved.of_setActive {registry : Registry} (valid : registry.WellFormed) (id : String) :
    registry.Unmoved (after (Registry.setActive id) registry) := by
  have sound := (setActive_sound id registry valid).1
  cases found : registry.session? id with
  | some session =>
    rw [after, setActive_live found] at sound ⊢
    exact ⟨sound, rfl, rfl, rfl, rfl⟩
  | none =>
    refine .of_stance valid ?_
    unfold Registry.setActive
    rw [after_get_bind, found]
    rfl

namespace RegistryBench

def removed (bench : RegistryBench) : Nat :=
  bench.removals.countP Removal.removed

/-- What a deed can do: make a session, fail to make one, take one apart, fail to do so, or none of these. -/
inductive Change (clean : Prop) (bench next : RegistryBench) : Prop
  | unmoved (kept : bench.registry.Unmoved next.registry) (made : next.made = bench.made)
      (removals : next.removed = bench.removed)
  | spoiled {cwd id : String} {faults : WiringFaults} {failure : Failure} (tight : clean → faults.leaks = false)
      (failed : Registry.wire cwd id faults bench.registry = .error failure next.registry) (made : next.made = bench.made)
      (removals : next.removed = bench.removed)
  | made {cwd id : String} {session : Session} {wired : Registry} (free : bench.registry.session? id = none)
      (complete : Registry.Wiring cwd id bench.registry (.ok session wired))
      (registered : next.registry = Registry.register cwd session wired) (made : next.made = bench.made ++ [session])
      (removals : next.removed = bench.removed)
  | broken {id : String} {session : Session} (unclean : ¬clean) (live : bench.registry.session? id = some session)
      (severed : Registry.Severed id session bench.registry next.registry) (made : next.made = bench.made)
      (removals : next.removed = bench.removed)
  | removed {id : String} {session : Session} (live : bench.registry.session? id = some session)
      (same : next.registry.stance = (bench.registry.apart id session).stance) (made : next.made = bench.made)
      (removals : next.removed = bench.removed + 1)

private theorem answer_change (bench : RegistryBench) (valid : bench.registry.WellFormed) (place : Nat)
    (spawned : Except Failure String) (faults : String → WiringFaults) :
    Change (∀ id, (faults id).leaks = false) bench (bench.perform (.answer place spawned faults)) := by
  unfold perform
  dsimp only
  split
  · exact .unmoved (.of_stance valid rfl) rfl rfl
  next cwd _ =>
    have ends := Registry.create_ends cwd spawned faults bench.registry
    split
    next session registry result =>
      rw [show Registry.create cwd spawned faults bench.registry = _ from result] at ends
      cases ends with
      | made answered free built wired => exact .made free wired rfl rfl rfl
    next failure registry result =>
      rw [show Registry.create cwd spawned faults bench.registry = _ from result] at ends
      cases ends with
      | refused answered record => exact .unmoved (.of_stance valid rfl) rfl rfl
      | taken answered live reason => exact .unmoved (.of_stance valid rfl) rfl rfl
      | spoiled answered free failed wired => exact .spoiled (fun tight => tight _) failed rfl rfl

private theorem remove_change (bench : RegistryBench) (valid : bench.registry.WellFormed) (id : String)
    (faults : RemovalFaults) :
    Change (faults = {}) bench (bench.perform (.remove id faults)) := by
  have ends := Registry.remove_ends id faults bench.registry
  unfold perform
  dsimp only
  split
  next removal registry result =>
    rw [result] at ends
    have counted : ({ bench.change fun _ => registry with removals := bench.removals ++ [removal] }).removed =
        bench.removed + if removal.removed then 1 else 0 := by
      simp [removed]
    cases ends with
    | absent => exact .unmoved (.of_stance valid rfl) rfl counted
    | removed live told same => exact .removed live same rfl (by rw [counted, if_pos told])
  next failure registry result =>
    rw [result] at ends
    cases ends with
    | broken failure live severed =>
      refine .broken ?_ live severed rfl rfl
      rintro rfl
      obtain ⟨record, removed⟩ := Registry.remove_live live
      rw [removed] at result
      cases result

private theorem perform_change (bench : RegistryBench) (deed : Deed) (valid : bench.registry.WellFormed) :
    Change deed.Clean bench (bench.perform deed) := by
  cases deed with
  | ask cwd => exact .unmoved (.of_stance valid rfl) rfl rfl
  | answer place spawned faults => exact answer_change bench valid place spawned faults
  | remove id faults => exact remove_change bench valid id faults
  | setActive id => exact .unmoved (.of_setActive valid id) rfl rfl
  | rename id name => exact .unmoved (.of_stance valid (Panel.rename_stance id name _)) rfl rfl
  | markExited id =>
    exact .unmoved (.of_still valid (Registry.markExited_still _ id) (Registry.markExited_framed _ id)) rfl rfl
  | recordGeometry id size => exact .unmoved (.of_stance valid (Panel.recordGeometry_stance _ id size)) rfl rfl
  | closeAll => exact .unmoved (.of_stance valid rfl) rfl rfl
  | announce event payload =>
    exact .unmoved (.of_still valid (Panel.tellAll_still event payload _ bench.panel)
      (Panel.tellAll_framed event payload _ bench.panel)) rfl rfl

theorem Change.valid {clean : Prop} {bench next : RegistryBench} (change : Change clean bench next)
    (valid : bench.registry.WellFormed) : next.registry.WellFormed := by
  cases change with
  | unmoved kept made removals => exact kept.valid
  | @spoiled cwd id faults failure tight failed made removals =>
    have wired := Registry.wire_ends cwd id faults bench.registry
    rw [failed] at wired
    exact (Registry.wiring_sound wired valid).1
  | made free complete registered made removals => exact registered ▸ (Registry.register_sound free complete valid).1
  | broken unclean live severed made removals => exact (Registry.severed_sound severed valid).1
  | removed live same made removals => exact (Registry.apart_sound live valid).1.of_stance same

theorem Change.mono {clean cleaner : Prop} {bench next : RegistryBench} (change : Change clean bench next)
    (implies : cleaner → clean) : Change cleaner bench next := by
  cases change with
  | unmoved kept made removals => exact .unmoved kept made removals
  | spoiled tight failed made removals => exact .spoiled (fun careful => tight (implies careful)) failed made removals
  | made free complete registered made removals => exact .made free complete registered made removals
  | broken unclean live severed made removals =>
    exact .broken (fun careful => unclean (implies careful)) live severed made removals
  | removed live same made removals => exact .removed live same made removals

theorem run_invariant (invariant : RegistryBench → Prop) {clean : Prop}
    (valid : ∀ bench, invariant bench → bench.registry.WellFormed)
    (step : ∀ bench next, Change clean bench next → invariant bench → invariant next) {bench : RegistryBench}
    (start : invariant bench) {deeds : List Deed} (all : ∀ deed ∈ deeds, clean → deed.Clean) :
    invariant (bench.run deeds) := by
  induction deeds generalizing bench with
  | nil => exact start
  | cons deed rest ih =>
    have first := (perform_change bench deed (valid bench start)).mono (all deed (List.mem_cons_self ..))
    exact ih (step bench _ first start) fun other member => all other (List.mem_cons_of_mem _ member)

theorem opened_blank (factory : SurfaceFactory) (width height : Int) : (opened factory width height).panel.Blank :=
  ⟨rfl, rfl, rfl, rfl, rfl, rfl⟩

end RegistryBench

def Session.mark (session : Session) : (Nat × String) × Nat :=
  (session.tag, session.number)

namespace Registry

def marks (registry : Registry) : List ((Nat × String) × Nat) :=
  registry.sessions.values.map Session.mark

private theorem marks_face (registry : Registry) :
    registry.marks = registry.face.sessions.values.map fun face => (face.tag, face.number) := by
  rw [face, Assoc.values_map, List.map_map]
  rfl

private theorem marks_of_seen {first last : Registry} (same : last.seen Session.mark = first.seen Session.mark) :
    last.marks = first.marks := by
  have values := congrArg (Assoc.values ·.1) same
  simp only [seen, Assoc.values_map] at values
  exact values

private theorem marks_severed {id : String} {session : Session} {registry final : Registry}
    (severed : Severed id session registry final) : final.marks = registry.marks ∧ final.counter = registry.counter := by
  cases severed with
  | silenced =>
    refine ⟨(marks_of_seen (seen_change ?_ _ _)).trans rfl, rfl⟩
    exact fun _ => rfl
  | _ => exact ⟨rfl, rfl⟩

private theorem marks_register {cwd id : String} {first wired : Registry} {session : Session}
    (free : first.session? id = none) (complete : Wiring cwd id first (.ok session wired)) :
    (register cwd session wired).marks = first.marks ++ [session.mark] ∧
      (register cwd session wired).counter = first.counter + 1 ∧ session.number = first.counter + 1 ∧
      session.name = Session.defaultName session.number := by
  refine ⟨?_, ?_⟩
  · rw [marks_face, register_face free complete, marks_face]
    simp only [Face.enroll, Assoc.values, List.map_append]
    cases complete
    rfl
  · cases complete
    exact ⟨rfl, rfl, rfl⟩

private theorem marks_apart {registry final : Registry} {id : String} {session : Session} (valid : registry.WellFormed)
    (live : registry.session? id = some session) (same : final.stance = (apart id session registry).stance) :
    final.marks.Sublist registry.marks ∧ final.marks.length + 1 = registry.marks.length ∧
      final.counter = registry.counter := by
  have left : final.face.sessions = registry.face.sessions.remove id := by
    rw [face_of_stance same, apart_face valid live, Face.without]
  have there : registry.face.sessions.find? id = some session.face := by
    rw [find?_face, live]
    rfl
  rw [marks_face, marks_face, left]
  refine ⟨((Assoc.remove_sublist id _).map _).map _, ?_, congrArg Stance.counter same⟩
  simp only [Assoc.values, List.length_map]
  exact (Assoc.perm_remove there).length_eq.symm

end Registry

namespace RegistryBench

/-- The sessions that were made are numbered one after the other, the live ones are among them in this order, and
those that are missing were removed. -/
structure Tally (bench : RegistryBench) : Prop where
  valid : bench.registry.WellFormed
  given : bench.made.map Session.number = List.range' 1 bench.registry.counter
  named : ∀ session ∈ bench.made, session.name = Session.defaultName session.number
  among : bench.registry.marks.Sublist (bench.made.map Session.mark)
  count : bench.registry.marks.length + bench.removed = bench.made.length

theorem Tally.of_same {bench next : RegistryBench} (tally : bench.Tally) (valid : next.registry.WellFormed)
    (marks : next.registry.marks = bench.registry.marks) (counter : next.registry.counter = bench.registry.counter)
    (made : next.made = bench.made) (removals : next.removed = bench.removed) : next.Tally where
  valid := valid
  given := by rw [made, counter]; exact tally.given
  named := by rw [made]; exact tally.named
  among := by rw [made, marks]; exact tally.among
  count := by rw [made, marks, removals]; exact tally.count

theorem Tally.register {bench next : RegistryBench} {cwd id : String} {session : Session} {wired : Registry}
    (tally : bench.Tally) (valid : next.registry.WellFormed) (free : bench.registry.session? id = none)
    (complete : Registry.Wiring cwd id bench.registry (.ok session wired))
    (registered : next.registry = Registry.register cwd session wired) (made : next.made = bench.made ++ [session])
    (removals : next.removed = bench.removed) : next.Tally := by
  obtain ⟨marks, counter, number, name⟩ := Registry.marks_register free complete
  rw [← registered] at marks counter
  refine ⟨valid, ?_, ?_, ?_, ?_⟩
  · rw [made, counter, List.map_append, tally.given, List.range'_concat, Nat.one_mul, Nat.add_comm 1, ← number]
    rfl
  · intro other member
    rw [made] at member
    rcases List.mem_append.mp member with old | new
    · exact tally.named other old
    · rw [List.mem_singleton.mp new]
      exact name
  · rw [made, marks, List.map_append]
    exact tally.among.append (.refl _)
  · rw [made, marks, removals, List.length_append, List.length_append, ← tally.count]
    simp only [List.length_singleton]
    omega

theorem Tally.change {clean : Prop} {bench next : RegistryBench} (change : Change clean bench next)
    (tally : bench.Tally) : next.Tally := by
  have valid := change.valid tally.valid
  cases change with
  | unmoved kept made removals =>
    refine tally.of_same valid ?_ kept.counter made removals
    rw [Registry.marks_face, Registry.marks_face, kept.sessions]
  | @spoiled cwd id faults failure tight failed made removals =>
    have wired := Registry.wire_ends cwd id faults bench.registry
    rw [failed] at wired
    have same := (Registry.wiring_still wired tally.valid).2
    refine tally.of_same valid ?_ (congrArg Registry.Face.counter same) made removals
    rw [Registry.marks_face, Registry.marks_face, same]
  | made free complete registered made removals => exact tally.register valid free complete registered made removals
  | broken unclean live severed made removals =>
    obtain ⟨marks, counter⟩ := Registry.marks_severed severed
    exact tally.of_same valid marks counter made removals
  | removed live same made removals =>
    obtain ⟨fewer, one, counter⟩ := Registry.marks_apart tally.valid live same
    refine ⟨valid, ?_, made ▸ tally.named, made ▸ fewer.trans tally.among, ?_⟩
    · rw [made, counter]
      exact tally.given
    · rw [made, removals, ← tally.count, ← one]
      omega

theorem Tally.opened (factory : SurfaceFactory) (width height : Int) : (opened factory width height).Tally where
  valid := (opened_blank factory width height).wellFormed
  given := rfl
  named _ member := nomatch member
  among := List.nil_sublist _
  count := rfl

/-- What holds of a registry whatever happened to it. -/
structure Census (bench : RegistryBench) : Prop where
  keyed : ∀ entry ∈ bench.registry.sessions, entry.2.id = entry.1
  unique : bench.registry.sessions.keys.Nodup
  ascending : bench.registry.numbers.Pairwise (· < ·)
  bounded : ∀ number ∈ bench.registry.numbers, number ≤ bench.registry.counter
  /-- The sessions were numbered one after the other as they were made, so that no number was given twice. -/
  given : bench.made.map Session.number = List.range' 1 bench.registry.counter
  named : ∀ session ∈ bench.made, session.name = "Terminal " ++ toString session.number
  /-- The live sessions are among those that were made, in this order. -/
  among : bench.registry.marks.Sublist (bench.made.map Session.mark)
  active : bench.registry.active = none ∨ ∃ id, bench.registry.active = some id ∧ bench.registry.has id = true
  count : bench.registry.size + bench.removals.countP Removal.removed = bench.made.length
  ordered : bench.registry.ordered = bench.registry.sessions.values
  newest : bench.registry.mostRecent? = bench.registry.sessions.values.getLast?

theorem Tally.census {bench : RegistryBench} (tally : bench.Tally) : bench.Census := by
  have allotted : Allotted bench.registry.numbers bench.registry.counter := by
    have numbers := tally.among.map Prod.snd
    rw [Registry.marks, List.map_map, List.map_map] at numbers
    exact (tally.given ▸ numbers : Allotted _ _)
  refine ⟨?_, tally.valid.keys, allotted.ascending, allotted.bounded, tally.given, tally.named, tally.among, ?_, ?_,
    Registry.ordered_of_ascending allotted.ascending, Registry.mostRecent?_of_ascending allotted.ascending⟩
  · intro entry member
    exact tally.valid.named _ _ (Assoc.find?_of_mem tally.valid.keys member)
  · cases chosen : bench.registry.active with
    | none => exact .inl rfl
    | some id => exact .inr ⟨id, rfl, tally.valid.chosen id chosen⟩
  · rw [← tally.count, Registry.marks, Assoc.values, List.length_map, List.length_map]
    rfl

/-- However the creations are answered, in whatever order and beside whatever else, the registry keeps count. -/
theorem run_census (factory : SurfaceFactory) (width height : Int) (deeds : List Deed) :
    ((opened factory width height).run deeds).Census :=
  (run_invariant Tally (fun _ => Tally.valid) (fun _ _ => Tally.change) (Tally.opened factory width height)
    fun _ _ => False.elim).census

end RegistryBench

end TerminalDock
