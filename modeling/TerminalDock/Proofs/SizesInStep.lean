import TerminalDock.Proofs.Forefront
import TerminalDock.Proofs.SizesTold

/-! Surfaces in step with their processes. If every fit finds room, the active session of an open panel has the size that
its process was told last, once its first fit was made and no drag is under way. So has every other session, as long as
no drag loses the session that it began with. -/

namespace TerminalDock
open Proofs.Steps

namespace Panel.Scale
variable {ended : Ending Failure Panel} {scale base next : Scale} {given : List String}

/-- The active session is in step with its process, except for a drag or a first fit that is still to come. -/
structure Poised (scale : Scale) (id : String) (gauge : Session.Gauge) : Prop where
  inStep : scale.dragging = false → gauge.InStep
  awaited : gauge.told = none → ⟨gauge.serial, id⟩ ∈ scale.frames

def Tuned (scale : Scale) : Prop :=
  scale.isOpen = true → ∀ id gauge, scale.registry.active = some id → scale.registry.gauges.find? id = some gauge →
    scale.Poised id gauge

/-- A fit that the backend is told of makes up for everything before it. -/
theorem Fit.tuned (fit : Fit ended true scale next) (laid : ¬Missed ended) (shown : scale.isOpen = scale.fitting) :
    next.Tuned := by
  cases fit with
  | missed because => exact absurd because laid
  | idle nothing =>
    intro opened id gauge active there
    rcases nothing with hidden | nobody
    · rw [shown, hidden] at opened
      cases opened
    · rw [nobody] at active
      cases active
  | @fitted id size active fitting room =>
    intro _ name gauge chosen there
    obtain rfl : id = name := Option.some.inj (active.symm.trans chosen)
    rcases Registry.Scale.find?_measure there with ⟨-, old, -, rfl⟩ | ⟨other, -⟩
    · exact ⟨fun _ => rfl, fun untold => absurd untold (Option.some_ne_none _)⟩
    · exact absurd rfl other

theorem Tuned.of_alike (tuned : scale.Tuned) (opened : next.isOpen = true → scale.isOpen = true)
    (active : next.registry.active = scale.registry.active)
    (gauges : ∀ id gauge, next.registry.gauges.find? id = some gauge → scale.registry.gauges.find? id = some gauge)
    (dragging : next.dragging = false → scale.dragging = false)
    (frames : ∀ id gauge, scale.isOpen = true → scale.registry.active = some id →
      scale.registry.gauges.find? id = some gauge → ⟨gauge.serial, id⟩ ∈ scale.frames →
      ⟨gauge.serial, id⟩ ∈ next.frames) : next.Tuned := by
  intro shown id gauge chosen there
  have before := active.symm.trans chosen
  have poised := tuned (opened shown) id gauge before (gauges id gauge there)
  exact ⟨fun still => poised.inStep (dragging still),
    fun untold => frames id gauge (opened shown) before (gauges id gauge there) (poised.awaited untold)⟩

theorem Tuned.hidden (hidden : next.isOpen = false) : next.Tuned := by
  intro shown
  rw [hidden] at shown
  cases shown

/-- A drag may reflow the active session, which is not taken to be in step until it ends. -/
theorem Fit.tuned_untold (fit : Fit ended false scale next) (dragging : scale.dragging = true) (tuned : scale.Tuned) :
    next.Tuned := by
  cases fit with
  | idle | missed => exact tuned
  | fitted =>
    intro opened name gauge active there
    have drag {gauge : Session.Gauge} (still : scale.dragging = false) : gauge.InStep := by
      rw [dragging] at still
      cases still
    refine ⟨drag, ?_⟩
    rcases Registry.Scale.find?_measure there with ⟨-, old, before, rfl⟩ | ⟨-, before⟩
    · exact (tuned opened name old active before).awaited
    · exact (tuned opened name gauge active before).awaited

theorem Tuned.welcome {id : String} (free : id ∉ scale.registry.gauges.keys)
    (registry : next.registry = scale.registry.enroll id) (frames : next.frames = (scale.welcome id).frames) :
    next.Tuned := by
  intro _ name gauge active there
  rw [registry] at active there
  obtain rfl : id = name := Option.some.inj active
  rcases Assoc.find?_append_single (Assoc.find?_eq_none.mpr free) there with ⟨-, rfl⟩ | ⟨other, -⟩
  · refine ⟨fun _ => rfl, fun _ => ?_⟩
    rw [frames]
    exact List.mem_append_right _ (List.mem_singleton_self _)
  · exact absurd rfl other

theorem Step.tuned (step : Step ended scale given next) (unique : scale.registry.gauges.keys.Nodup)
    (laid : ¬Missed ended) (shown : scale.isOpen = scale.fitting) (tuned : scale.Tuned) : next.Tuned := by
  cases step with
  | still | taken => exact tuned
  | typed | swept | spoiled => exact tuned.of_alike id rfl (fun _ _ => id) id fun _ _ _ _ _ => id
  | grabbed => exact tuned.of_alike id rfl (fun _ _ => id) Bool.noConfusion fun _ _ _ _ _ => id
  | @fitted notify next fit untold =>
    cases notify with
    | true => exact fit.tuned laid shown
    | false => exact fit.tuned_untold (untold rfl) tuned
  | released fit | fired _ fit | selected _ _ fit | succeeded _ _ fit => exact fit.tuned laid shown
  | revealed fit => exact fit.tuned laid rfl
  | hidden | emptied => exact .hidden rfl
  | @lapsed place job waiting unwanted =>
    refine tuned.of_alike id rfl (fun _ _ => id) id fun id gauge opened active there member => ?_
    have different : job ≠ ⟨gauge.serial, id⟩ := by
      rintro rfl
      exact unwanted (shown ▸ opened) ⟨active, gauge, there, rfl⟩
    obtain ⟨other, found⟩ := List.getElem?_of_mem member
    refine List.mem_eraseIdx_iff_getElem?.mpr ⟨other, ?_, found⟩
    rintro rfl
    exact different (Option.some.inj (waiting.symm.trans found))
  | @closed id live other =>
    have active : (if scale.registry.active == some id then none else scale.registry.active) = scale.registry.active :=
      if_neg (mt beq_iff_eq.mp other)
    exact tuned.of_alike (fun opened => opened) active (fun _ _ => Assoc.find?_of_remove unique) (fun still => still)
      fun _ _ _ _ _ member => member
  | made free | opened free => exact .welcome free rfl rfl

/-- Every session is in step with its process, except for the one that a drag reflows. -/
def Kept (scale : Scale) : Prop :=
  ∀ id gauge, scale.registry.gauges.find? id = some gauge →
    gauge.InStep ∨ scale.registry.active = some id ∧ scale.isOpen = true ∧ scale.dragging = true

def Strayed (scale : Scale) (id : String) : Prop :=
  scale.dragging = true ∧ scale.isOpen = true ∧ scale.registry.active = some id ∧
    ∃ gauge, scale.registry.gauges.find? id = some gauge ∧ ¬gauge.InStep

theorem Kept.inStep {id : String} {gauge : Session.Gauge} (kept : scale.Kept)
    (there : scale.registry.gauges.find? id = some gauge) (calm : ¬scale.Strayed id) : gauge.InStep := by
  rcases kept id gauge there with inStep | ⟨active, opened, dragging⟩
  · exact inStep
  · by_contra apart
    exact calm ⟨dragging, opened, active, gauge, there, apart⟩

theorem Fit.kept {notify : Bool} (fit : Fit ended notify scale next) (untold : notify = false → scale.dragging = true)
    (shown : scale.isOpen = scale.fitting) (kept : scale.Kept) : next.Kept := by
  cases fit with
  | idle | missed => exact kept
  | fitted active fitting room =>
    intro name gauge there
    rcases Registry.Scale.find?_measure there with ⟨rfl, old, -, rfl⟩ | ⟨-, before⟩
    · cases notify with
      | true => exact .inl rfl
      | false => exact .inr ⟨active, shown.trans fitting, untold rfl⟩
    · exact kept name gauge before

/-- When the session that a drag reflowed is fitted in the end, no session is out of step any more. -/
theorem Fit.settled (fit : Fit ended true (scale.drag false) next) (laid : ¬Missed ended)
    (shown : scale.isOpen = scale.fitting) (kept : scale.Kept) : next.Kept := by
  cases fit with
  | missed because => exact absurd because laid
  | idle nothing =>
    refine fun id gauge there => (kept id gauge there).imp_right fun dragged => ?_
    rcases nothing with hidden | nobody
    · cases dragged.2.1.symm.trans (shown.trans hidden)
    · cases dragged.1.symm.trans nobody
  | fitted active fitting room =>
    intro name gauge there
    rcases Registry.Scale.find?_measure there with ⟨-, old, -, rfl⟩ | ⟨other, before⟩
    · exact .inl rfl
    · refine (kept name gauge before).imp_right fun dragged => ?_
      exact absurd (Option.some.inj (dragged.1.symm.trans active)) other

theorem Step.kept (step : Step ended scale given next) (unique : scale.registry.gauges.keys.Nodup)
    (laid : ∀ id, scale.Strayed id → next.dragging = false → ¬Missed ended) (shown : scale.isOpen = scale.fitting)
    (clings : ∀ id, scale.Strayed id → id ∈ next.registry.gauges.keys →
      next.registry.active = some id ∧ next.isOpen = true) (kept : scale.Kept) : next.Kept := by
  have left {id : String} {gauge : Session.Gauge} (there : scale.registry.gauges.find? id = some gauge)
      (stays : id ∈ next.registry.gauges.keys)
      (lost : scale.registry.active = some id → next.registry.active = some id → next.isOpen = true → False) :
      gauge.InStep := by
    refine kept.inStep there fun strayed => ?_
    obtain ⟨chosen, shown⟩ := clings id strayed stays
    exact lost strayed.2.2.1 chosen shown
  have present {registry : Registry.Scale} {id : String} {gauge : Session.Gauge}
      (there : registry.gauges.find? id = some gauge) : id ∈ registry.gauges.keys :=
    Assoc.mem_keys_iff.mpr ⟨gauge, there⟩
  cases step with
  | still | typed | swept | spoiled | lapsed | taken => exact kept
  | grabbed => exact fun id gauge there => (kept id gauge there).imp_right fun dragged => ⟨dragged.1, dragged.2.1, rfl⟩
  | fitted fit untold => exact fit.kept untold shown kept
  | released fit =>
    by_cases strayed : ∃ id, scale.Strayed id
    · obtain ⟨id, strayed⟩ := strayed
      exact fit.settled (laid id strayed fit.abides.dragging) shown kept
    · refine fit.kept Bool.noConfusion shown fun id gauge there => .inl ?_
      exact kept.inStep there fun here => strayed ⟨id, here⟩
  | fired _ fit => exact fit.kept Bool.noConfusion shown kept
  | revealed fit =>
    refine fit.kept Bool.noConfusion rfl fun id gauge there => ?_
    exact (kept id gauge there).imp_right fun dragged => ⟨dragged.1, rfl, dragged.2.2⟩
  | @selected id next other live fit =>
    refine fit.kept Bool.noConfusion shown fun name gauge there => .inl (left there ?_ fun active chosen _ => other ?_)
    · exact fit.abides.keys ▸ present there
    · rw [active, ← chosen, fit.abides.active]
      rfl
  | @succeeded id successor next live active fit =>
    refine fit.kept Bool.noConfusion shown fun name gauge there => .inl ?_
    refine left (Assoc.find?_of_remove unique there) (fit.abides.keys ▸ present there) fun chosen _ _ => ?_
    obtain rfl : id = name := Option.some.inj (active.symm.trans chosen)
    cases there.symm.trans (Assoc.find?_remove_self unique)
  | hidden => exact fun id gauge there => .inl (left there (present there) fun _ _ => Bool.noConfusion)
  | @emptied id live nobody =>
    intro name gauge there
    rw [show ((scale.onRegistry (·.without id)).exhibit false).registry.gauges = [] from nobody] at there
    cases there
  | @closed id live other =>
    have active : (if scale.registry.active == some id then none else scale.registry.active) = scale.registry.active :=
      if_neg (mt beq_iff_eq.mp other)
    intro name gauge there
    exact (kept name gauge (Assoc.find?_of_remove unique there)).imp_right fun dragged => ⟨active.trans dragged.1, dragged.2⟩
  | @made id free | @opened id free =>
    intro name gauge there
    have absent := Assoc.find?_eq_none.mpr free
    rcases Assoc.find?_append_single absent there with ⟨-, rfl⟩ | ⟨-, before⟩
    · exact .inl rfl
    · refine .inl (left before (present there) fun _ chosen _ => ?_)
      obtain rfl : id = name := Option.some.inj chosen
      cases absent.symm.trans before

end Panel.Scale

namespace Dock
variable {β : Type} [SessionBackend β] {dock : Dock β} {beat : Beat β} {given : List String}
  {ended : Ending Failure Panel}

/-- A fit that is attempted in this beat finds room: none is noted as skipped, and none fails. -/
structure Laid (dock : Dock β) (beat : Beat β) : Prop where
  found : ∀ id, .effect (Panel.skipped id) ∉ (dock.beat beat).sights.drop dock.sights.length
  worked : ∀ failure, dock.failure? beat = some failure → (dock.beat beat).panel.registry.proposal ≠ some (.error failure)

theorem Advance.laid (advance : Advance dock beat given ended) (laid : dock.Laid beat) : ¬Panel.Missed ended := by
  rintro (⟨id, noted⟩ | ⟨failure, raised, because⟩)
  · obtain ⟨seen, sights, among⟩ := advance.account.shown
    have found := laid.found id
    rw [sights, List.drop_left] at found
    exact found (among _ noted)
  · refine laid.worked failure (advance.failed failure raised) ?_
    rw [advance.account.panel]
    exact because

def Strayed (dock : Dock β) (id : String) : Prop :=
  dock.panel.drag.isSome = true ∧ dock.panel.isOpen = true ∧ dock.panel.registry.active = some id ∧
    ∃ session, dock.panel.registry.session? id = some session ∧
      session.surface.geometry ≠ session.geometry.getD ⟨24, 80⟩

/-- A beat neither takes the selection nor the panel from a session that a drag gave another size, unless it closes
it; and if it ends the drag, every fit finds room. -/
structure Tidy (dock : Dock β) (beat : Beat β) : Prop where
  clings : ∀ id, dock.Strayed id → (dock.beat beat).panel.registry.has id = true →
    (dock.beat beat).panel.registry.active = some id ∧ (dock.beat beat).panel.isOpen = true
  released : ∀ id, dock.Strayed id → (dock.beat beat).panel.drag = none → dock.Laid beat

omit [SessionBackend β] in
theorem Strayed.of_scale {id : String} (strayed : dock.panel.scale.Strayed id) : dock.Strayed id := by
  obtain ⟨dragging, opened, active, gauge, there, apart⟩ := strayed
  rw [show dock.panel.scale.registry = dock.panel.registry.scale from rfl, Registry.find?_scale] at there
  obtain ⟨session, live, rfl⟩ := Option.map_eq_some_iff.mp there
  exact ⟨dragging, opened, active, session, live, apart⟩

namespace Steady

private theorem tuned (steady : dock.Steady) (allowed : beat.panelwise = true) (laid : dock.Laid beat)
    (tuned : dock.panel.scale.Tuned) : (dock.beat beat).panel.scale.Tuned := by
  obtain ⟨given, ended, advance⟩ := steady.advance allowed
  have next := advance.step.tuned steady.unique (advance.laid laid) steady.sane.shown tuned
  rw [advance.scale]
  exact next.of_alike id rfl (fun _ _ => id) id fun _ _ _ _ _ => id

theorem kept (steady : dock.Steady) (allowed : beat.panelwise = true) (tidy : dock.Tidy beat)
    (kept : dock.panel.scale.Kept) : (dock.beat beat).panel.scale.Kept := by
  obtain ⟨given, ended, advance⟩ := steady.advance allowed
  have clings (id : String) (strayed : dock.panel.scale.Strayed id)
      (stays : id ∈ ended.state.scale.registry.gauges.keys) :
      ended.state.scale.registry.active = some id ∧ ended.state.scale.isOpen = true := by
    have stays : id ∈ (dock.beat beat).panel.scale.registry.gauges.keys := by
      rw [advance.scale]
      exact stays
    have still := tidy.clings id (.of_scale strayed) (Panel.has_scale.mpr stays)
    rw [advance.account.panel] at still
    exact still
  have laid (id : String) (strayed : dock.panel.scale.Strayed id) (ends : ended.state.scale.dragging = false) :
      ¬Panel.Missed ended := by
    refine advance.laid (tidy.released id (.of_scale strayed) ?_)
    rw [advance.account.panel]
    exact Option.not_isSome_iff_eq_none.mp (Bool.eq_false_iff.mp ends)
  rw [advance.scale]
  exact advance.step.kept steady.unique laid steady.sane.shown clings kept

end Steady

section Fresh
variable {panel : Panel} {backend : β} {hook : Transport.FailureHook} {beats : List (Beat β)} {id : String}
  {session : Session}

/-- If every fit finds room, and none fails, then whenever the panel is open and nothing is dragged, the active session
has the size that was told last, once the frame of its first fit has come. -/
theorem active_in_step (new : panel.New) (allowed : ∀ beat ∈ beats, beat.panelwise = true)
    (laid : (Dock.fresh panel backend hook).Along Laid beats)
    (opened : ((Dock.fresh panel backend hook).play beats).panel.isOpen = true)
    (still : ((Dock.fresh panel backend hook).play beats).panel.drag = none)
    (active : ((Dock.fresh panel backend hook).play beats).panel.registry.active = some id)
    (live : ((Dock.fresh panel backend hook).play beats).panel.registry.session? id = some session)
    (fired : ∀ job ∈ ((Dock.fresh panel backend hook).play beats).panel.frames, job.serial ≠ session.serial) :
    session.geometry = some session.surface.geometry ∧
      session.geometry = ((Dock.fresh panel backend hook).toldTo session.serial beats).getLast? := by
  have hidden : (Dock.fresh panel backend hook).panel.scale.Tuned := .hidden new.blank.hidden
  have tuned := play_invariant Steady.tuned (steady_fresh new backend hook) allowed laid hidden
  have poised := tuned opened id session.gauge active (Registry.live_scale live)
  have still : Option.isSome ((Dock.fresh panel backend hook).play beats).panel.drag = false := by rw [still]; rfl
  have inStep : session.surface.geometry = session.geometry.getD Session.Gauge.classic := poised.inStep still
  refine ⟨?_, geometry_told new backend hook allowed live⟩
  cases told : session.geometry with
  | none => exact absurd rfl (fired _ (poised.awaited told))
  | some size => rw [inStep, told, Option.getD_some]

/-- Nothing is noted as a detail. -/
def plainly (sights : List (Sight Answer)) : Bool :=
  sights.all fun
    | .effect (.logged record) => record.level != .debug
    | _ => true

private theorem unskipped {sights : List (Sight Answer)} (plain : plainly sights = true) (id : String) :
    .effect (Panel.skipped id) ∉ sights := by
  intro noted
  cases List.all_eq_true.mp plain _ noted

/-- A beat that does not fail, and in which nothing is noted as a detail. -/
def smooth (dock : Dock β) (beat : Beat β) : Bool :=
  (dock.failure? beat).isNone && plainly ((dock.beat beat).sights.drop dock.sights.length)

theorem Laid.of_smooth (smooth : dock.smooth beat = true) : dock.Laid beat := by
  rw [Dock.smooth, Bool.and_eq_true, Option.isNone_iff_eq_none] at smooth
  refine ⟨unskipped smooth.2, fun failure raised => ?_⟩
  cases smooth.1.symm.trans raised

/-- Two tabs, one of them reflowed in a drag, and a look at the other one after the panel was hidden. -/
def tour : List (Beat PuppetBackend) :=
  [.move (.ask .openPanel), .fire 0, .move (.ask (.add none)), .fire 0, .move (.ask (.beginDrag (.whole 600))),
    .move (.ask (.resizeView "term-2" 800 400)), .move (.ask (.dragTo (.whole 500))), .move (.ask .endDrag),
    .move (.ask .hide), .move (.ask .toggle), .move (.ask (.click "term-1"))]

theorem active_in_step_tour : ∃ session,
    ((Dock.fresh Panel.standard {} .log).play tour).panel.registry.session? "term-1" = some session ∧
      session.geometry = some session.surface.geometry ∧
      session.geometry = ((Dock.fresh Panel.standard {} .log).toldTo session.serial tour).getLast? := by
  have there : (((Dock.fresh Panel.standard {} .log).play tour).panel.registry.session? "term-1").isSome = true := by
    decide +kernel
  obtain ⟨session, live⟩ := Option.isSome_iff_exists.mp there
  have smooth : (Dock.fresh Panel.standard {} .log).Along (fun dock beat => dock.smooth beat = true) tour := by
    decide +kernel
  have fired : ((Dock.fresh Panel.standard {} .log).play tour).panel.frames = [] := by decide +kernel
  refine ⟨session, live, active_in_step Panel.standard_new (by decide) (smooth.mono fun _ _ => Laid.of_smooth)
    (by decide +kernel) (by decide +kernel) (by decide +kernel) live ?_⟩
  rw [fired]
  exact List.forall_mem_nil _

/-- In a font without any width every fit fails, although there is room, and the process is never told of a size. -/
theorem active_in_step_fails : ∃ panel, Panel.create {} "dark" .flat .null = .ok panel ∧
    let dock := Dock.fresh panel ({} : PuppetBackend) .log
    let opening := [Beat.move (.ask .openPanel), .fire 0]
    let opened := dock.play opening
    (∀ beat ∈ opening, beat.panelwise = true) ∧ (∀ id, .effect (Panel.skipped id) ∉ opened.sights) ∧
      opened.panel.isOpen = true ∧ opened.panel.drag = none ∧ opened.panel.registry.active = some "term-1" ∧
      opened.panel.frames = [] ∧ ∃ session, opened.panel.registry.session? "term-1" = some session ∧
        session.laidOut = true ∧ session.surface.geometry = ⟨24, 80⟩ ∧ session.geometry = none ∧
        dock.toldTo session.serial opening = [] := by
  exact ⟨_, rfl, by decide, unskipped (by decide +kernel), by decide +kernel, by decide +kernel, by decide +kernel,
    by decide +kernel, _, rfl, by decide +kernel, by decide +kernel, by decide +kernel, by decide +kernel⟩

/-- If no drag gives up a session that it gave another size, or finds no room for it in the end, every session has the
size that was told last, or the one that it began with, whenever nothing is dragged. -/
theorem background_in_step (new : panel.New) (allowed : ∀ beat ∈ beats, beat.panelwise = true)
    (tidy : (Dock.fresh panel backend hook).Along Tidy beats)
    (still : ((Dock.fresh panel backend hook).play beats).panel.drag = none)
    (live : ((Dock.fresh panel backend hook).play beats).panel.registry.session? id = some session) :
    session.surface.geometry =
      (((Dock.fresh panel backend hook).toldTo session.serial beats).getLast?).getD ⟨24, 80⟩ := by
  have nobody : (Dock.fresh panel backend hook).panel.scale.Kept := by
    intro name gauge there
    rw [show (Dock.fresh panel backend hook).panel.scale.registry = panel.registry.scale from rfl, Registry.find?_scale,
      Registry.session?, new.blank.sessions] at there
    cases there
  have kept := play_invariant Steady.kept (steady_fresh new backend hook) allowed tidy nobody
  rw [← geometry_told new backend hook allowed live]
  rcases kept id session.gauge (Registry.live_scale live) with inStep | ⟨-, -, dragging⟩
  · exact inStep
  · have dragging : Option.isSome ((Dock.fresh panel backend hook).play beats).panel.drag = true := dragging
    rw [still] at dragging
    cases dragging

theorem Tidy.of_keeping (keeping : dock.panel.drag.isSome = true → dock.smooth beat = true ∧
    (dock.beat beat).panel.registry.active = dock.panel.registry.active ∧
      (dock.beat beat).panel.isOpen = dock.panel.isOpen) : dock.Tidy beat := by
  refine ⟨fun id strayed _ => ?_, fun id strayed _ => .of_smooth (keeping strayed.1).1⟩
  obtain ⟨-, same, shown⟩ := keeping strayed.1
  exact ⟨same.trans strayed.2.2.1, shown.trans strayed.2.1⟩

theorem background_in_step_tour : ∃ session,
    ((Dock.fresh Panel.standard {} .log).play tour).panel.registry.active ≠ some "term-2" ∧
      ((Dock.fresh Panel.standard {} .log).play tour).panel.registry.session? "term-2" = some session ∧
      session.surface.geometry =
        (((Dock.fresh Panel.standard {} .log).toldTo session.serial tour).getLast?).getD ⟨24, 80⟩ := by
  have there : (((Dock.fresh Panel.standard {} .log).play tour).panel.registry.session? "term-2").isSome = true := by
    decide +kernel
  obtain ⟨session, live⟩ := Option.isSome_iff_exists.mp there
  have keeping : (Dock.fresh Panel.standard {} .log).Along (fun dock beat => dock.panel.drag.isSome = true →
      dock.smooth beat = true ∧ (dock.beat beat).panel.registry.active = dock.panel.registry.active ∧
        (dock.beat beat).panel.isOpen = dock.panel.isOpen) tour := by decide +kernel
  have tidy := keeping.mono fun _ _ => Tidy.of_keeping
  exact ⟨session, by decide +kernel, live,
    background_in_step Panel.standard_new (by decide) tidy (by decide +kernel) live⟩

/-- A session is added while another one is dragged. -/
def abandoned : List (Beat PuppetBackend) :=
  [.move (.ask .openPanel), .fire 0, .move (.ask (.beginDrag (.whole 600))),
    .move (.ask (.resizeView "term-1" 800 400)), .move (.ask (.dragTo (.whole 500))), .move (.ask (.add none)),
    .move (.ask .endDrag)]

/-- The session that was dragged keeps the size of the drag, of which its process never heard. -/
theorem background_in_step_fails : (∀ beat ∈ abandoned, beat.panelwise = true) ∧
    ((Dock.fresh Panel.standard {} .log).play abandoned).panel.drag = none ∧
    ((Dock.fresh Panel.standard {} .log).play abandoned).panel.registry.active = some "term-2" ∧
    ∃ session, ((Dock.fresh Panel.standard {} .log).play abandoned).panel.registry.session? "term-1" = some session ∧
      session.surface.geometry ≠
        (((Dock.fresh Panel.standard {} .log).toldTo session.serial abandoned).getLast?).getD ⟨24, 80⟩ := by
  have seen : (((Dock.fresh Panel.standard {} .log).play abandoned).panel.registry.session? "term-1").map
      (fun session => (session.serial, session.surface.geometry)) = some (0, ⟨11, 60⟩) := by decide +kernel
  obtain ⟨session, live, same⟩ := Option.map_eq_some_iff.mp seen
  obtain ⟨serial, grid⟩ := Prod.mk.inj same
  refine ⟨by decide, by decide +kernel, by decide +kernel, session, live, ?_⟩
  rw [grid, serial]
  decide +kernel

end Fresh

end Dock

end TerminalDock
