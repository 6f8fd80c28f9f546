import TerminalDock.Proofs.DockStrokes
import TerminalDock.Proofs.PanelFits

/-! What one request to a panel, one frame, or one answer to a question for a process can do to the sizes of its
sessions and to the calls that it submits. -/

namespace TerminalDock
open Proofs.Steps

/-- The requests of a panel and its tabs. They leave the surfaces and the selection to the panel, and the backend to
itself; frames come one by one. -/
def Request.panelwise {β : Type} : Request β → Bool
  | .focusActive | .refit .. | .frame | .create _ | .remove _ | .setActive _ | .recordGeometry .. | .emit .. | .surface ..
  | .text _ | .adjust _ => false
  | _ => true

namespace Panel

/-- Does the first of the work that was put off to the next frame, or what stands at a later place. -/
def fire (place : Nat) : PanelStep Unit := do
  let panel ← get
  match panel.frames[place]? with
  | none => return
  | some job =>
    set { panel with frames := panel.frames.eraseIdx place }
    firstFit job

theorem FitRules.fire {relation : Panel → Panel → Prop} (rules : FitRules relation) (place : Nat) :
    Moves relation (fire place) := by
  refine Moves.get_bind fun panel => ?_
  split
  · exact rules.refl panel
  next job _ =>
    rw [after_set_bind]
    exact rules.trans (rules.frames _ panel) (rules.firstFit job _)

namespace Scale

def Awaited (job : FrameJob) (scale : Scale) : Prop :=
  scale.registry.active = some job.session ∧
    ∃ gauge, scale.registry.gauges.find? job.session = some gauge ∧ gauge.serial = job.serial

/-- What becomes of the scale, and which identifiers the backend gave; what a fit went by shows in how it
ended. -/
inductive Step (ended : Ending Failure Panel) (scale : Scale) : List String → Scale → Prop
  | still : Step ended scale [] scale
  | typed {calls : List BackendCall} (inputs : ∀ call ∈ calls, call.isInput = true) :
    Step ended scale [] (scale.onRegistry (·.submit calls))
  | grabbed : Step ended scale [] (scale.drag true)
  /-- The backend is not told of what happens during a drag. -/
  | fitted {notify : Bool} {next : Scale} (fit : Fit ended notify scale next)
      (untold : notify = false → scale.dragging = true) : Step ended scale [] next
  | released {next : Scale} (fit : Fit ended true (scale.drag false) next) : Step ended scale [] next
  | fired {place : Nat} {job : FrameJob} {next : Scale} (waiting : scale.frames[place]? = some job)
      (fit : Fit ended true (scale.takeFrame place) next) : Step ended scale [] next
  | lapsed {place : Nat} {job : FrameJob} (waiting : scale.frames[place]? = some job)
      (unwanted : scale.fitting = true → ¬scale.Awaited job) : Step ended scale [] (scale.takeFrame place)
  | selected {id : String} {next : Scale} (other : scale.registry.active ≠ some id)
      (live : id ∈ scale.registry.gauges.keys) (fit : Fit ended true (scale.onRegistry (·.select id)) next) :
    Step ended scale [] next
  | hidden : Step ended scale [] (scale.exhibit false)
  | revealed {next : Scale} (fit : Fit ended true (scale.exhibit true) next) : Step ended scale [] next
  | emptied {id : String} (live : id ∈ scale.registry.gauges.keys) (left : (scale.registry.without id).gauges = []) :
    Step ended scale [] ((scale.onRegistry (·.without id)).exhibit false)
  | closed {id : String} (live : id ∈ scale.registry.gauges.keys) (other : scale.registry.active ≠ some id) :
    Step ended scale [] (scale.onRegistry (·.without id))
  | succeeded {id successor : String} {next : Scale} (live : id ∈ scale.registry.gauges.keys)
      (active : scale.registry.active = some id)
      (fit : Fit ended true (scale.onRegistry fun registry => (registry.without id).select successor) next) :
    Step ended scale [] next
  /-- Everything that is left is closed, and stays live. -/
  | swept (first : scale.registry.swept = false) :
    Step ended scale [] (scale.onRegistry fun registry =>
      { registry.submit (registry.gauges.keys.map .close) with swept := true })
  | taken {id : String} (live : id ∈ scale.registry.gauges.keys) : Step ended scale [id] scale
  | spoiled {id : String} {serial : Nat} (free : id ∉ scale.registry.gauges.keys) (later : scale.registry.serial ≤ serial) :
    Step ended scale [id] (scale.onRegistry fun registry => { registry.submit [.close id] with serial := serial })
  | made {id : String} (free : id ∉ scale.registry.gauges.keys) : Step ended scale [id] (scale.welcome id)
  | opened {id : String} (free : id ∉ scale.registry.gauges.keys) : Step ended scale [id] ((scale.welcome id).exhibit true)

end Scale

open Scale (Fit Step)

/-- A step that changes neither sizes nor what decides who is fitted, and submits nothing. -/
abbrev Level {α : Type} (act : PanelStep α) : Prop :=
  Moves (fun first last : Panel => last.scale = first.scale) act

theorem Level.rules : Rules (fun first last : Panel => last.scale = first.scale) where
  refl _ := rfl
  trans before later := later.trans before
  log _ _ := rfl
  draw _ := rfl

private theorem rename_level (id name : String) : Level (onRegistry (Registry.rename id name)) := by
  intro panel
  rw [after_onRegistry]
  exact Scale.ext (Registry.scale_rename _ _ _) rfl rfl rfl rfl

private theorem editRename_level (text : String) (panel : Panel) : (panel.editRename text).scale = panel.scale := by
  unfold editRename
  split <;> rfl

private theorem applyTheme_level (scheme : String) (panel : Panel) : (panel.applyTheme scheme).scale = panel.scale := by
  refine Level.rules.applyTheme scheme (fun _ => rfl) (fun session panel => scale_changeRegistry ?_) panel
  apply Registry.scale_changeSurface
  case size | build => exact fun _ => rfl

private theorem resizeView_level (id : String) (width height : Int) (panel : Panel) :
    (match panel.surfaceOwner? id with
      | none => panel
      | some session => panel.changeRegistry (·.change session.serial fun old =>
          { old with view := old.view.setSize width height })).scale = panel.scale := by
  split
  · rfl
  · refine scale_changeRegistry (Registry.scale_change ?_ _ _)
    exact fun _ => rfl

section Operations
variable {panel : Panel} {id : String}

theorem has_scale : panel.registry.has id = true ↔ id ∈ panel.scale.registry.gauges.keys := by
  rw [show panel.scale.registry = panel.registry.scale from rfl, Registry.keys_scale]
  exact Assoc.has_iff_mem

theorem gauges_unique (valid : panel.registry.WellFormed) : panel.scale.registry.gauges.keys.Nodup := by
  rw [show panel.scale.registry = panel.registry.scale from rfl, Registry.keys_scale]
  exact valid.keys

theorem scale_hide (shown : panel.isOpen = true) : panel.hide.scale = panel.scale.exhibit false := by
  unfold hide
  rw [if_pos shown, scale_log, scale_setVisible]
  split
  · rfl
  · rw [scale_changeRegistry (Registry.scale_blur _ _)]

private theorem hide_step (ended : Ending Failure Panel) : Step ended panel.scale [] panel.hide.scale := by
  cases shown : panel.isOpen with
  | true =>
    rw [scale_hide shown]
    exact .hidden
  | false =>
    rw [hide, shown, if_neg Bool.false_ne_true]
    exact .still

private theorem click_step (valid : panel.registry.WellFormed) (pliable : panel.scale.registry.Pliable) :
    Step (ending (click id) panel) panel.scale [] (after (click id) panel).scale := by
  have drawn : Moves Trails (do modify drawTabs; return true : PanelStep Bool) := fun panel => Trails.note _ panel
  unfold click
  rw [after_get_bind, ending_get_bind]
  split
  · exact .still
  next other =>
    simp only [Bool.or_eq_true, beq_iff_eq, Bool.not_eq_true', not_or, Bool.not_eq_false] at other
    have live := has_scale.mp other.2
    cases found : panel.registry.activeSession? with
    | none => exact .selected other.1 live ((activate_fits valid pliable other.2).followed fun _ => drawn)
    | some previous =>
      have scaled : (panel.changeRegistry (deactivate previous)).scale = panel.scale :=
        scale_changeRegistry ((Registry.scale_showView _ _ _).trans (Registry.scale_blur _ _))
      have present : (panel.changeRegistry (deactivate previous)).registry.has id = true :=
        has_scale.mpr (scaled ▸ live)
      have fit := (activate_fits (Quiet.rules.deactivate previous panel valid).1
        (scaled ▸ pliable) present).followed fun _ => drawn
      rw [scaled] at fit
      exact .selected other.1 live fit

private theorem closeTab_scaled (valid : panel.registry.WellFormed) (pliable : panel.scale.registry.Pliable) :
    Step (ending (closeTab id {}) panel) panel.scale [] (after (closeTab id {}) panel).scale := by
  obtain ⟨begun, start, registry, scaled⟩ : ∃ begun : Panel,
      (if panel.editing.any (·.session == id) then { panel with editing := none } else panel) = begun ∧
        begun.registry = panel.registry ∧ begun.scale = panel.scale := by
    refine ⟨_, rfl, ?_⟩
    split <;> exact ⟨rfl, rfl⟩
  unfold closeTab
  rw [after_modify_bind, ending_modify_bind, start, after_bind, ending_bind]
  cases found : panel.registry.session? id with
  | none =>
    have stays : onRegistry (Registry.remove id {}) begun =
        .ok { removed := false, nowEmpty := panel.registry.isEmpty } begun := by
      rw [onRegistry, registry, Registry.remove_absent found, ← registry]
    rw [stays]
    exact scaled ▸ .still
  | some session =>
    have live := has_scale.mp (Assoc.has_iff.mpr ⟨session, found⟩)
    obtain ⟨removal, last, removed, told, empty, was, scale, sound⟩ : ∃ removal last,
        Registry.remove id {} panel.registry = .ok removal last ∧ removal.removed = true ∧
          removal.nowEmpty = last.isEmpty ∧ removal.wasActive = (panel.registry.active == some id) ∧
          last.scale = panel.registry.scale.without id ∧ last.WellFormed := by
      obtain ⟨record, removed⟩ := Registry.remove_live found
      refine ⟨_, _, removed, rfl, rfl, rfl, ?_, (Registry.apart_sound found valid).1.of_stance rfl⟩
      rw [Registry.scale_log, Registry.scale_submit, Registry.scale_note, ← Registry.scale_submit]
      exact Registry.scale_apart valid found
    obtain ⟨gone, taken, same, without⟩ : ∃ gone : Panel, onRegistry (Registry.remove id {}) begun = .ok removal gone ∧
        gone.registry = last ∧ gone.scale = panel.scale.onRegistry (·.without id) := by
      refine ⟨{ begun with registry := last }, by rw [onRegistry, registry, removed], rfl, ?_⟩
      exact Scale.ext scale (congrArg (·.isOpen) scaled) (congrArg (·.fitting) scaled)
        (congrArg (·.dragging) scaled) (congrArg (·.frames) scaled)
    rw [← same] at empty sound
    have left : (panel.scale.registry.without id).gauges = [] ↔ gone.registry.sessions = [] := by
      rw [show panel.scale.registry.without id = gone.registry.scale from congrArg (·.registry) without.symm]
      exact List.map_eq_nil_iff
    rw [taken]
    dsimp only
    rw [if_pos told, empty, was]
    have drawn : Moves Trails (do modify drawTabs; return removal : PanelStep Removal) := fun panel => Trails.note _ panel
    split
    next none_left =>
      have hidden : gone.hideEmpty.scale = gone.scale.exhibit false := scale_setVisible gone false
      rw [after_modify_bind, (drawn _).scale, hidden, without]
      exact .emptied live (left.mpr (List.isEmpty_iff.mp none_left))
    next some_left =>
      split
      next active =>
        have some_values : gone.registry.sessions.values ≠ [] :=
          fun none_left => some_left (List.isEmpty_iff.mpr (List.map_eq_nil_iff.mp none_left))
        obtain ⟨successor, member, newest⟩ := Registry.mostRecent?_mem some_values
        have present : gone.registry.has successor.id = true := Assoc.has_iff.mpr ⟨successor, sound.live_of_mem member⟩
        have kept : gone.scale.registry.Pliable := without ▸ pliable.without (gauges_unique valid) id
        have fit := (activate_fits sound kept present).followed fun _ => drawn
        rw [without] at fit
        rw [after_get_bind, ending_get_bind, newest]
        exact .succeeded live (beq_iff_eq.mp active) fit
      next other =>
        rw [(drawn _).scale, without]
        exact .closed live (mt beq_iff_eq.mpr other)

private theorem leveled_fits {α β : Type} {act : PanelStep α} {next : α → PanelStep β} {notify : Bool}
    (mild : Moves Mild act) (level : Level act) (valid : panel.registry.WellFormed)
    (pliable : panel.scale.registry.Pliable)
    (fit : ∀ value (middle : Panel), middle.registry.WellFormed → middle.scale.registry.Pliable →
      Fit (ending (next value) middle) notify middle.scale (after (next value) middle).scale) :
    (after (act >>= next) panel).scale = panel.scale ∨
      Fit (ending (act >>= next) panel) notify panel.scale (after (act >>= next) panel).scale := by
  have sound := (mild panel).quiet valid
  have same := level panel
  rw [after_bind, ending_bind]
  unfold after at sound same
  cases ended : act panel with
  | error failure middle =>
    rw [ended] at same
    exact .inl same
  | ok value middle =>
    rw [ended] at sound same
    exact .inr (same ▸ fit value middle sound.1 (same ▸ pliable))

private theorem applyHeight_level (height : Json) : Level (applyHeight height) := by
  refine Moves.get_bind fun panel => ?_
  split <;> rfl

private theorem dragTo_fits (y : Decimal.Quantity) (valid : panel.registry.WellFormed)
    (pliable : panel.scale.registry.Pliable) :
    (after (dragTo y) panel).scale = panel.scale ∨ panel.scale.dragging = true ∧
      Fit (ending (dragTo y) panel) false panel.scale (after (dragTo y) panel).scale := by
  have told : Moves Trails (do return (← get).height : PanelStep Int) := Trails.refl
  unfold dragTo
  rw [after_get_bind, ending_get_bind]
  cases begun : panel.drag with
  | none => exact .inl rfl
  | some drag =>
    have dragging : panel.scale.dragging = true := congrArg Option.isSome begun
    have fits := leveled_fits (Mild.rules.applyHeight (dragHeight drag y)) (applyHeight_level _) valid pliable
      fun _ middle sound fine => (refit_fits none false sound fine fun _ _ => .inl rfl).followed fun _ => told
    exact fits.imp_right fun fit => ⟨dragging, fit⟩

theorem dragTo_silent (y : Decimal.Quantity) (valid : panel.registry.WellFormed) (pliable : panel.scale.registry.Pliable) :
    (after (dragTo y) panel).registry.outbox = panel.registry.outbox := by
  have same : (after (dragTo y) panel).scale.registry.outbox = panel.scale.registry.outbox := by
    rcases dragTo_fits y valid pliable with same | ⟨-, fit⟩
    · rw [same]
    · generalize (after (dragTo y) panel).scale = next at fit
      cases fit with
      | idle | missed => rfl
      | fitted => exact List.append_nil _
  exact same

private theorem dragTo_step (y : Decimal.Quantity) (valid : panel.registry.WellFormed)
    (pliable : panel.scale.registry.Pliable) :
    Step (ending (dragTo y) panel) panel.scale [] (after (dragTo y) panel).scale := by
  rcases dragTo_fits y valid pliable with same | ⟨dragging, fit⟩
  · exact same.symm ▸ .still
  · exact .fitted fit fun _ => dragging

private theorem endDrag_step (valid : panel.registry.WellFormed) (pliable : panel.scale.registry.Pliable) :
    Step (ending endDrag panel) panel.scale [] (after endDrag panel).scale := by
  unfold endDrag
  rw [after_get_bind, ending_get_bind]
  split
  · have ended : Moves Trails (pure () : PanelStep Unit) := Trails.refl
    have sound : (keepHeight { panel with drag := none }).registry.WellFormed := valid.of_stance rfl
    have fit := (refit_fits none true sound pliable fun _ _ => .inl rfl).followed fun _ => ended
    exact .released fit
  · exact .still

private theorem setHeight_step (height : Json) (valid : panel.registry.WellFormed) (pliable : panel.scale.registry.Pliable) :
    Step (ending (setHeight height) panel) panel.scale [] (after (setHeight height) panel).scale := by
  have told : Moves Trails (do return (← get).height : PanelStep Int) := Trails.refl
  have fits : (after (setHeight height) panel).scale = panel.scale ∨
      Fit (ending (setHeight height) panel) true panel.scale (after (setHeight height) panel).scale := by
    refine leveled_fits (Mild.rules.applyHeight height) (applyHeight_level _) valid pliable fun _ middle sound fine => ?_
    have kept : middle.keepHeight.registry.WellFormed := sound.of_stance rfl
    exact (refit_fits none true kept fine fun _ _ => .inl rfl).followed fun _ => told
  rcases fits with same | fit
  · exact same.symm ▸ .still
  · exact .fitted fit Bool.noConfusion

private theorem layoutChanged_step (valid : panel.registry.WellFormed) (pliable : panel.scale.registry.Pliable) :
    Step (ending layoutChanged panel) panel.scale [] (after layoutChanged panel).scale := by
  have ended : Moves Trails (pure () : PanelStep Unit) := Trails.refl
  unfold layoutChanged
  rw [after_get_bind, ending_get_bind]
  split
  · exact .fitted ((refit_fits none true valid pliable fun _ _ => .inl rfl).followed fun _ => ended) Bool.noConfusion
  · exact .still

private theorem typeInto_step (bytes : List UInt8) :
    Step (ending (typeInto id bytes) panel) panel.scale [] (after (typeInto id bytes) panel).scale := by
  unfold typeInto
  rw [after_get_bind, ending_get_bind]
  split
  · exact .still
  next session _ =>
    obtain ⟨calls, inputs, scaled⟩ := Registry.scale_typed session bytes panel.registry
    rw [after_modify, show (panel.changeRegistry (Registry.typed session bytes)).scale =
      panel.scale.onRegistry (·.submit calls) from Scale.ext scaled rfl rfl rfl rfl]
    exact .typed inputs

private theorem firstFit_ends (job : FrameJob) (valid : panel.registry.WellFormed) (pliable : panel.scale.registry.Pliable)
    (attached : ∀ id session, panel.registry.session? id = some session → session.view.attached = true) :
    Fit (ending (firstFit job) panel) true panel.scale (after (firstFit job) panel).scale ∨
      (after (firstFit job) panel).scale = panel.scale ∧ (panel.fitting = true → ¬panel.scale.Awaited job) := by
  have ended : Moves Trails (pure () : PanelStep Unit) := Trails.refl
  unfold firstFit
  rw [after_get_bind, ending_get_bind]
  dsimp only
  split
  next present =>
    by_cases meant : panel.registry.active = some job.session ∧ panel.fitting = true
    · refine .inl (Fit.followed (refit_fits (some job.session) true valid pliable fun id active => ?_) fun _ => ended)
      exact .inr (meant.1.symm.trans active)
    · have idle : after (refit (some job.session) true) panel = panel := by
        refine refit_idle true fun session active => ?_
        obtain ⟨id, chosen, live⟩ := Registry.live_of_active active
        by_cases same : session.id = job.session
        · refine .inr (Bool.eq_false_iff.mpr fun shown => meant ⟨?_, shown⟩)
          rw [chosen, ← same, valid.named id session live]
        · exact .inl (bne_iff_ne.mpr (Ne.symm same))
      refine .inr ⟨?_, fun shown awaited => meant ⟨awaited.1, shown⟩⟩
      rw [after_bind_view Panel.scale fun _ _ => rfl, idle]
  next absent =>
    refine .inr ⟨rfl, fun _ ⟨active, gauge, there, serial⟩ => absent ?_⟩
    obtain ⟨session, live, rfl⟩ := Option.map_eq_some_iff.mp ((Registry.find?_scale _ _).symm.trans there)
    have found : panel.registry.bySerial? job.serial = some session := serial ▸ valid.bySerial_of_live live
    have present : panel.registry.has job.session = true := Assoc.has_iff.mpr ⟨session, live⟩
    rw [found, present, Option.any_some, attached job.session session live]
    rfl

theorem fire_step (place : Nat) (valid : panel.registry.WellFormed) (pliable : panel.scale.registry.Pliable)
    (attached : ∀ id session, panel.registry.session? id = some session → session.view.attached = true) :
    Step (ending (fire place) panel) panel.scale [] (after (fire place) panel).scale := by
  unfold fire
  rw [after_get_bind, ending_get_bind]
  cases waiting : panel.frames[place]? with
  | none => exact .still
  | some job =>
    let taken : Panel := { panel with frames := panel.frames.eraseIdx place }
    have sound : taken.registry.WellFormed := valid
    rcases firstFit_ends job sound pliable attached with fit | ⟨same, unwanted⟩
    · exact .fired waiting fit
    · exact same.symm ▸ .lapsed waiting unwanted

theorem perform_scaled {β : Type} {request : Request β} {act : PanelStep Answer} (allowed : request.panelwise = true)
    (found : perform? request = some act) (valid : panel.registry.WellFormed)
    (pliable : panel.scale.registry.Pliable) : Step (ending act panel) panel.scale [] (after act panel).scale := by
  have answering {α : Type} {step : PanelStep α} (answer : α → Answer)
      (stepped : Step (ending step panel) panel.scale [] (after step panel).scale) :
      Step (ending (do return answer (← step)) panel) panel.scale [] (after (do return answer (← step)) panel).scale := by
    rwa [ending_map, show after (do return answer (← step)) panel =
      after step panel from after_bind_view id (fun _ _ => rfl) panel]
  have level {α : Type} {step : PanelStep α} (same : (after step panel).scale = panel.scale) :
      Step (ending step panel) panel.scale [] (after step panel).scale := same.symm ▸ .still
  have leveled {α : Type} {step : PanelStep α} (same : Level step) (answer : α → Answer) :
      Step (ending (do return answer (← step)) panel) panel.scale [] (after (do return answer (← step)) panel).scale :=
    answering answer (by rw [same panel]; exact .still)
  have ended (panel : Panel) : { panel with editing := none }.scale = panel.scale := rfl
  cases request with
  | hide => cases found; exact hide_step _
  | closeSession id => cases found; exact answering _ (closeTab_scaled valid pliable)
  | beginDrag y => cases found; exact .grabbed
  | dragTo y => cases found; exact answering _ (dragTo_step y valid pliable)
  | endDrag => cases found; exact answering _ (endDrag_step valid pliable)
  | setHeight height => cases found; exact answering _ (setHeight_step height valid pliable)
  | layoutChanged => cases found; exact answering _ (layoutChanged_step valid pliable)
  | applyTheme scheme => cases found; exact level (applyTheme_level scheme panel)
  | click id => cases found; exact answering _ (click_step valid pliable)
  | beginRename id => cases found; exact answering _ (level (Level.rules.beginRename ended rename_level fun _ _ _ => rfl))
  | editRename text => cases found; exact level (editRename_level text panel)
  | keyRename key => cases found; exact leveled (Level.rules.keyRename ended rename_level key) _
  | blurRename => cases found; exact leveled (Level.rules.commitRename ended rename_level) _
  | cancelRename => cases found; exact level (Level.rules.cancelRename ended panel)
  | rename id name => cases found; exact leveled (rename_level id name) _
  | markExited id =>
    cases found
    exact level (Scale.ext (Registry.scale_markExited panel.registry id) rfl rfl rfl rfl)
  | type id bytes => cases found; exact answering _ (typeInto_step bytes)
  | resizeView id width height => cases found; exact level (resizeView_level id width height panel)
  | get _ | mostRecent | contains _ | list | listeners _ | changeDirectory _ => cases found; exact .still
  | focusActive | refit _ _ | frame | create _ | remove _ | setActive _ | recordGeometry _ _ | emit _ _ | surface _ _
  | text _ | adjust _ => cases allowed
  | openPanel | toggle | add _ | shutdown | addTab _ | closeAll | release | background _ _ | gather _ | drain =>
    cases found

/-- The panel as it is while its surroundings have still to take over some calls. -/
def posting (calls : List BackendCall) (panel : Panel) : Panel :=
  panel.changeRegistry fun registry => { registry with outbox := calls }

@[simp] theorem scale_posting (calls : List BackendCall) (panel : Panel) :
    (panel.posting calls).scale = panel.scale.onRegistry (·.posting calls) := rfl

@[simp] theorem scale_drained (panel : Panel) : panel.drained.scale = panel.scale.onRegistry (·.posting []) := rfl

theorem revealFirst_scale (panel : Panel) : panel.revealFirst.scale = panel.scale.exhibit true :=
  scale_setVisible panel true

theorem settleTab_scale (previous : Option Session) (session : Session) (panel : Panel) :
    (panel.settleTab previous session).scale =
      { panel.scale with frames := panel.scale.frames ++ [⟨session.serial, session.id⟩] } := by
  have aside (other : Session) (panel : Panel) : (panel.changeRegistry fun registry =>
      deactivate ((registry.bySerial? other.serial).getD other) registry).scale = panel.scale :=
    scale_changeRegistry ((Registry.scale_showView _ _ _).trans (Registry.scale_blur _ _))
  have settled (middle : Panel) (same : middle.scale = panel.scale) :
      (((middle.changeRegistry (·.showView session middle.fitting)).scheduleFit session).changeRegistry
        (·.changeSurface session Surface.focus)).drawTabs.scale =
        { panel.scale with frames := panel.scale.frames ++ [⟨session.serial, session.id⟩] } := by
    rw [scale_drawTabs, scale_changeRegistry (Registry.scale_focus _ _), ← same]
    exact Scale.ext (Registry.scale_showView middle.registry _ _) rfl rfl rfl rfl
  unfold settleTab
  cases previous with
  | none => exact settled panel rfl
  | some previous =>
    dsimp only
    split
    · exact settled _ (aside previous panel)
    · exact settled panel rfl

theorem landed_scaled {cwd : String} {spawned : Except Failure String} {faults : String → WiringFaults}
    {purpose : Purpose} (ended : Ending Failure Panel) (tabbed : purpose ≠ .create) :
    Step ended panel.scale spawned.toOption.toList ((panel.landed cwd spawned faults purpose).posting
      (after (Registry.create cwd spawned faults) panel.registry).outbox).scale := by
  have ends := Registry.create_ends cwd spawned faults panel.registry
  unfold landed after
  generalize Registry.create cwd spawned faults panel.registry = result at ends
  have absent {id : String} (free : panel.registry.session? id = none) : id ∉ panel.scale.registry.gauges.keys := by
    rw [← has_scale, Registry.has, Assoc.has, show panel.registry.sessions.find? id = none from free]
    exact Bool.false_ne_true
  cases ends with
  | refused answered record => subst answered; exact .still
  | taken answered live reason => subst answered; exact .taken (has_scale.mp live)
  | @spoiled id failure final answered free failed wired =>
    subst answered
    obtain ⟨serial, later, scaled⟩ := Registry.scale_failed wired
    have posted : (({ panel with registry := final }.drained).posting final.outbox).scale =
        panel.scale.onRegistry fun registry => { registry.submit [.close id] with serial := serial } :=
      Scale.ext scaled rfl rfl rfl rfl
    dsimp only
    rw [posted]
    exact .spoiled (absent free) later
  | @made id session final answered free built wired =>
    subst answered
    have named : (⟨session.serial, session.id⟩ : FrameJob) = ⟨panel.registry.serial, id⟩ := by cases wired; rfl
    have enrolled := Registry.scale_register free wired
    let registered : Panel := { panel with registry := Registry.register cwd session final }
    have framed : panel.frames ++ [⟨session.serial, session.id⟩] = (panel.scale.welcome id).frames :=
      congrArg (fun job => panel.frames ++ [job]) named
    have settled (previous : Option Session) :
        (registered.drained.settleTab previous session).scale.onRegistry
          (·.posting (Registry.register cwd session final).outbox) = panel.scale.welcome id := by
      rw [settleTab_scale]
      exact Scale.ext enrolled rfl rfl rfl framed
    cases purpose with
    | create => exact absurd rfl tabbed
    | addTab previous | addSession previous =>
      have scaled : ((registered.drained.settleTab previous session).drained.posting
          (Registry.register cwd session final).outbox).scale = panel.scale.welcome id := settled previous
      exact scaled ▸ .made (absent free)
    | openPanel previous =>
      have shown : ((registered.drained.settleTab previous session).drained.revealFirst.drained.posting
          (Registry.register cwd session final).outbox).scale = (panel.scale.welcome id).exhibit true := by
        rw [← settled previous, scale_posting, scale_drained, revealFirst_scale, scale_drained]
        rfl
      exact shown ▸ .opened (absent free)

end Operations

end Panel

end TerminalDock
