import TerminalDock.Panel.Request
import TerminalDock.Proofs.RegistrySteps

/-! What the operations of a panel are made of. A relation between panels that grants the parts of an operation is
respected by the whole of it, whether the operation fails or not; the more an operation does, the more has to be
granted. -/

namespace TerminalDock.Panel
open Proofs.Steps

theorem after_onRegistry {α : Type} (act : RegistryStep α) (panel : Panel) :
    after (onRegistry act) panel = { panel with registry := after act panel.registry } := by
  simp only [after, onRegistry]
  cases act panel.registry <;> rfl

/-- What every operation asks for: it has parts, and notes what happens. -/
structure Rules (relation : Panel → Panel → Prop) : Prop where
  refl : ∀ panel, relation panel panel
  trans : ∀ {first middle last}, relation first middle → relation middle last → relation first last
  log : ∀ record panel, relation panel (log panel record)
  draw : ∀ panel, relation panel (drawTabs panel)

namespace Rules
variable {relation : Panel → Panel → Prop}

/-- An operation goes on from where its first part ends. -/
theorem chain {α β : Type} {act : PanelStep α} {next : α → PanelStep β} {panel : Panel} (rules : Rules relation)
    (first : relation panel (after act panel)) (rest : ∀ value, Moves relation (next value)) :
    relation panel (after (act >>= next) panel) :=
  after_chain relation rules.trans first rest

theorem bind {α β : Type} {act : PanelStep α} {next : α → PanelStep β} (rules : Rules relation)
    (first : Moves relation act) (rest : ∀ value, Moves relation (next value)) : Moves relation (act >>= next) :=
  fun panel => rules.chain (first panel) rest

/-- What is done with an answer is no part of the operation. -/
theorem answer {α β : Type} {act : PanelStep α} (rules : Rules relation) (moves : Moves relation act) (f : α → β) :
    Moves relation (do return f (← act)) :=
  rules.bind moves fun _ => rules.refl

section Names
variable (rules : Rules relation) (ended : ∀ panel, relation panel { panel with editing := none })
  (renamed : ∀ id name, Moves relation (onRegistry (Registry.rename id name)))
include rules ended

theorem cancelRename (panel : Panel) : relation panel panel.cancelRename := by
  unfold Panel.cancelRename
  split
  · exact rules.trans (ended panel) (rules.draw _)
  · exact rules.refl panel

include renamed

theorem commitRename : Moves relation commitRename := by
  refine Moves.get_bind fun panel => ?_
  split
  · exact rules.refl panel
  next edit _ =>
    have drawn : Moves relation (modify drawTabs : PanelStep Unit) := rules.draw
    refine rules.trans (ended panel) ?_
    rw [after_set_bind]
    dsimp only
    split
    · exact rules.chain (renamed edit.session _ _) fun _ => drawn
    · exact drawn _

theorem keyRename (key : String) : Moves relation (keyRename key) := by
  refine Moves.get_bind fun panel => ?_
  split
  · split
    · exact rules.commitRename ended renamed panel
    · split
      · exact rules.cancelRename ended panel
      · exact rules.refl panel
  · exact rules.refl panel

theorem beginRename {id : String} {panel : Panel}
    (begun : ∀ edit : RenameEdit, edit.session = id → ∀ panel, relation panel { panel with editing := some edit }) :
    relation panel (after (beginRename id) panel) := by
  unfold Panel.beginRename
  rw [after_get_bind]
  split
  · exact rules.refl panel
  next session _ =>
    have begins (edit : RenameEdit) (named : edit.session = id) : Moves relation (do
        modify fun panel : Panel => { panel with editing := some edit }.drawTabs
        return edit : PanelStep RenameEdit) := fun panel => rules.trans (begun edit named panel) (rules.draw _)
    rw [after_get_bind]
    dsimp only
    split
    · exact rules.chain (rules.commitRename ended renamed panel) fun _ => begins _ rfl
    · exact begins _ rfl panel

end Names

theorem applyTheme (rules : Rules relation) (scheme : String)
    (stock : ∀ panel : Panel, relation panel (panel.changeRegistry fun registry =>
      { registry with factory := { registry.factory with theme := Theme.ofScheme scheme } }))
    (themed : ∀ (session : Session) (panel : Panel),
      relation panel (panel.changeRegistry (·.changeSurface session (·.setTheme (Theme.ofScheme scheme)))))
    (panel : Panel) : relation panel (panel.applyTheme scheme) := by
  have each (sessions : List Session) (panel : Panel) : relation panel { panel with
      registry := sessions.foldl (fun registry session =>
        registry.changeSurface session (·.setTheme (Theme.ofScheme scheme))) panel.registry } := by
    induction sessions generalizing panel with
    | nil => exact rules.refl panel
    | cons session rest ih =>
      exact rules.trans (themed session panel) (ih (panel.changeRegistry (·.changeSurface session _)))
  exact rules.trans (stock panel) (each _ (panel.changeRegistry _))

theorem tellAll (rules : Rules relation) {payload : Event.Payload}
    (told : ∀ subscriber, Moves relation (onRegistry (Registry.tell subscriber payload))) (event : String)
    (subscribers : List Subscriber) (panel : Panel) : relation panel (tellAll event payload subscribers panel) := by
  induction subscribers generalizing panel with
  | nil => exact rules.refl panel
  | cons subscriber rest ih =>
    have told := told subscriber panel
    rw [after_onRegistry] at told
    unfold after at told
    unfold Panel.tellAll
    dsimp only
    split
    next redraw registry answer =>
      rw [answer] at told
      split
      · exact rules.trans (rules.trans told (rules.draw _)) (ih _)
      · exact rules.trans told (ih _)
    next failure registry answer =>
      rw [answer] at told
      exact rules.trans (rules.trans told (rules.log _ _)) (ih _)

theorem typeInto (rules : Rules relation) (id : String) {bytes : List UInt8}
    (typed : ∀ (session : Session) (panel : Panel), relation panel (panel.changeRegistry (Registry.typed session bytes))) :
    Moves relation (typeInto id bytes) := by
  refine Moves.get_bind fun panel => ?_
  split
  · exact rules.refl panel
  next session _ => exact typed session panel

theorem askSurface (rules : Rules relation) (id : String) (request : SurfaceRequest)
    (typed : ∀ (session : Session) (bytes : List UInt8) (panel : Panel),
      relation panel (panel.changeRegistry (Registry.typed session bytes)))
    (changed : ∀ (session : Session) (f : Surface → Surface) (panel : Panel),
      relation panel (panel.changeRegistry (·.changeSurface session f))) : Moves relation (askSurface id request) := by
  refine Moves.get_bind fun panel => ?_
  split
  · exact rules.refl panel
  next bytes _ => exact rules.chain (rules.typeInto id (typed · bytes) panel) fun _ => rules.refl
  next session _ _ => exact changed session _ panel

theorem textOf (rules : Rules relation) (id : String)
    (changed : ∀ (session : Session) (f : Surface → Surface) (panel : Panel),
      relation panel (panel.changeRegistry (·.changeSurface session f))) : Moves relation (textOf id) := by
  refine Moves.get_bind fun panel => ?_
  split
  · exact rules.refl panel
  next session _ => split <;> exact changed session _ panel

end Rules

/-- What holds of the registry for each that is told of an event holds for all of them, as what they note matters nothing. -/
theorem tellAll_registry {known : Registry → Session → Prop} {relation : Registry → Registry → Prop}
    {payload : Event.Payload} (rules : Registry.TellRules known relation)
    (told : ∀ subscriber, Moves relation (Registry.tell subscriber payload))
    (note : ∀ (registry : Registry) (effect : Effect), relation registry (registry.note effect)) (event : String)
    (subscribers : List Subscriber) (panel : Panel) :
    relation panel.registry (tellAll event payload subscribers panel).registry := by
  have granted : Rules fun first last => relation first.registry last.registry := {
    refl := fun panel => rules.refl panel.registry
    trans := rules.trans
    log := fun record panel => note panel.registry _
    draw := fun panel => note panel.registry _ }
  refine granted.tellAll (fun subscriber panel => ?_) event subscribers panel
  rw [after_onRegistry]
  exact told subscriber panel.registry

/-- What fitting the active session, now or in a later frame, asks for. -/
structure FitRules (relation : Panel → Panel → Prop) : Prop extends Rules relation where
  frames : ∀ jobs panel, relation panel { panel with frames := jobs }
  fit : ∀ {panel session}, panel.registry.activeSession? = some session → ∀ width height,
    relation panel (after (onRegistry (Registry.onSurface session (Surface.fit width height))) panel)
  told : ∀ session size panel, relation panel (changeRegistry panel (notifySize session size))

namespace FitRules
variable {relation : Panel → Panel → Prop} (rules : FitRules relation)
include rules

theorem refit (id : Option String) (notify : Bool) : Moves relation (refit id notify) := by
  refine Moves.get_bind fun panel => ?_
  split
  · exact rules.refl panel
  next session active =>
    dsimp only
    split
    · exact rules.refl panel
    · refine rules.chain (rules.fit active _ _) fun size => ?_
      cases size with
      | none => exact fun panel => rules.log _ panel
      | some size =>
        dsimp only
        split
        · exact rules.told session size
        · exact rules.refl

theorem firstFit (job : FrameJob) : Moves relation (firstFit job) := by
  refine Moves.get_bind fun panel => ?_
  dsimp only
  split
  · exact rules.chain (rules.refit _ _ panel) fun _ => rules.refl
  · exact rules.refl panel

theorem runFrames (jobs : List FrameJob) : Moves relation (runFrames jobs) := by
  induction jobs with
  | nil => exact rules.refl
  | cons job rest ih => exact rules.bind (rules.firstFit job) fun _ => ih

theorem frame : Moves relation frame := by
  refine Moves.get_bind fun panel => ?_
  rw [after_set_bind]
  exact rules.trans (rules.frames [] panel) (rules.chain (rules.runFrames panel.frames _) fun _ => rules.refl)

theorem layoutChanged : Moves relation layoutChanged := by
  refine Moves.get_bind fun panel => ?_
  split
  · exact rules.chain (rules.refit _ _ panel) fun _ => rules.refl
  · exact rules.refl panel

end FitRules

/-- What setting the height asks for, by hand or by a drag. -/
structure HeightRules (relation : Panel → Panel → Prop) : Prop extends FitRules relation where
  height : ∀ height panel, relation panel (note { panel with height := height } (.heightChanged height))
  keep : ∀ panel, relation panel (keepHeight panel)
  drag : ∀ drag panel, relation panel { panel with drag := drag }

namespace HeightRules
variable {relation : Panel → Panel → Prop} (rules : HeightRules relation)
include rules

theorem applyHeight (wanted : Json) : Moves relation (applyHeight wanted) := by
  refine Moves.get_bind fun panel => ?_
  split
  · exact rules.refl panel
  · exact rules.height _ panel

theorem dragTo (y : Decimal.Quantity) : Moves relation (dragTo y) := by
  refine Moves.get_bind fun panel => ?_
  dsimp only
  split
  · refine rules.chain (rules.applyHeight _ panel) fun _ => ?_
    exact fun panel => rules.chain (rules.refit _ _ panel) fun _ => rules.refl
  · exact rules.refl panel

theorem endDrag : Moves relation endDrag := by
  refine Moves.get_bind fun panel => ?_
  split
  · refine rules.trans (rules.trans (rules.drag none panel) (rules.keep _)) ?_
    exact rules.chain (rules.refit _ _ _) fun _ => rules.refl
  · exact rules.refl panel

theorem setHeight (wanted : Json) : Moves relation (setHeight wanted) := by
  refine rules.bind (rules.applyHeight wanted) fun _ => ?_
  refine rules.bind (.modify rules.keep) fun _ => ?_
  exact fun panel => rules.chain (rules.refit _ _ panel) fun _ => rules.refl

end HeightRules

/-- What selecting a session, and showing or hiding the panel, asks for. -/
structure ShowRules (relation : Panel → Panel → Prop) : Prop extends FitRules relation where
  view : ∀ session visible panel, relation panel (changeRegistry panel (·.showView session visible))
  focus : ∀ session panel, relation panel (changeRegistry panel (·.changeSurface session Surface.focus))
  blur : ∀ session panel, relation panel (changeRegistry panel (·.changeSurface session Surface.blur))
  select : ∀ id, Moves relation (onRegistry (Registry.setActive id))
  opened : ∀ visible panel, relation panel { panel with isOpen := visible, fitting := visible }
  shown : ∀ visible panel, relation panel (note panel (.panelShown visible (height panel)))

namespace ShowRules
variable {relation : Panel → Panel → Prop} (rules : ShowRules relation)
include rules

theorem deactivate (session : Session) (panel : Panel) :
    relation panel (panel.changeRegistry (deactivate session)) :=
  rules.trans (rules.blur session panel) (rules.view session false _)

theorem activate (id : String) : Moves relation (activate id) := by
  refine rules.bind (rules.select id) fun session => ?_
  refine rules.bind (fun panel => rules.view session panel.fitting panel) fun _ => ?_
  exact rules.bind (rules.refit _ _) fun _ => rules.focus session

theorem click (id : String) : Moves relation (click id) := by
  have rest : Moves relation (do Panel.activate id; modify drawTabs; return true : PanelStep Bool) :=
    rules.bind (rules.activate id) fun _ => rules.draw
  refine Moves.get_bind fun panel => ?_
  dsimp only
  split
  · exact rules.refl panel
  · split
    next previous _ => exact rules.trans (rules.deactivate previous panel) (rest _)
    next => exact rest panel

theorem focusActive : Moves relation focusActive := by
  refine Moves.get_bind fun panel => ?_
  split
  · exact rules.refl panel
  next session _ =>
    exact rules.trans (rules.view session true panel) (rules.chain (rules.refit _ _ _) fun _ => rules.focus session)

theorem setVisible (visible : Bool) (panel : Panel) : relation panel (panel.setVisible visible) := by
  have each (sessions : List Session) (choose : Session → Bool) (panel : Panel) :
      relation panel (sessions.foldl (fun panel session =>
        panel.changeRegistry (·.showView session (choose session))) panel) := by
    induction sessions generalizing panel with
    | nil => exact rules.refl panel
    | cons session rest ih => exact rules.trans (rules.view session _ panel) (ih _)
  exact rules.trans (rules.trans (rules.opened visible panel) (each _ _ _)) (rules.shown visible _)

theorem hide (panel : Panel) : relation panel panel.hide := by
  unfold Panel.hide
  split
  · dsimp only
    refine rules.trans ?_ (rules.trans (rules.setVisible false _) (rules.log _ _))
    split
    · exact rules.refl panel
    next session _ => exact rules.blur session panel
  · exact rules.refl panel

theorem revealFirst (panel : Panel) : relation panel panel.revealFirst :=
  rules.trans (rules.setVisible true panel) (rules.log _ _)

theorem reveal : Moves relation reveal := by
  refine rules.bind (.modify (rules.setVisible true)) fun _ => ?_
  refine rules.bind rules.focusActive fun _ => ?_
  exact fun panel => rules.log _ panel

theorem settleTab (previous : Option Session) (session : Session) (panel : Panel) :
    relation panel (panel.settleTab previous session) := by
  unfold Panel.settleTab
  dsimp only
  refine rules.trans ?_ (rules.trans (rules.focus session _) (rules.draw _))
  refine rules.trans ?_ (rules.trans (rules.view session _ _) (rules.frames _ _))
  cases previous with
  | none => exact rules.refl panel
  | some previous =>
    dsimp only
    split
    · exact rules.deactivate _ panel
    · exact rules.refl panel

theorem closeTab {id : String} (ended : ∀ panel, relation panel { panel with editing := none })
    (removed : Moves relation (onRegistry (Registry.remove id {}))) : Moves relation (closeTab id {}) := by
  have drawn (removal : Removal) : Moves relation (do modify drawTabs; return removal : PanelStep Removal) := rules.draw
  refine rules.bind (fun panel => ?_) fun _ => ?_
  · rw [after_modify]
    split
    · exact ended panel
    · exact rules.refl panel
  · refine rules.bind removed fun removal => ?_
    dsimp only
    split
    · split
      · have hidden : Moves relation (modify hideEmpty : PanelStep Unit) :=
          fun panel => rules.trans (rules.setVisible false panel) (rules.log _ _)
        exact rules.bind hidden fun _ => drawn removal
      · split
        · refine Moves.get_bind fun panel => ?_
          split
          next successor _ => exact rules.chain (rules.activate successor.id panel) fun _ => drawn removal
          next => exact drawn removal panel
        · exact drawn removal
    · exact rules.refl

end ShowRules

/-- The requests that neither move the edge nor name or remove sessions. -/
def usual {β : Type} : Request β → Bool
  | .closeSession _ | .remove _ | .beginDrag _ | .dragTo _ | .endDrag | .setHeight _ | .beginRename _ | .editRename _
  | .keyRename _ | .blurRename | .cancelRename | .rename .. => false
  | _ => true

/-- What the usual requests ask for. -/
structure UsualRules (relation : Panel → Panel → Prop) : Prop extends ShowRules relation where
  stock : ∀ scheme panel, relation panel (changeRegistry panel fun registry =>
    { registry with factory := { registry.factory with theme := Theme.ofScheme scheme } })
  changed : ∀ session (f : Surface → Surface) panel, relation panel (changeRegistry panel (·.changeSurface session f))
  typed : ∀ session bytes panel, relation panel (changeRegistry panel (Registry.typed session bytes))
  announced : ∀ event payload subscribers panel, relation panel (tellAll event payload subscribers panel)
  exited : ∀ id panel, relation panel { panel with registry := (panel.registry.markExited id).2 }
  sized : ∀ (session : Session) width height panel, relation panel (changeRegistry panel (·.change session.serial fun old =>
    { old with view := old.view.setSize width height }))
  directory : ∀ cwd panel, relation panel { panel with cwd := cwd }
  recorded : ∀ id size panel, relation panel (changeRegistry panel (·.recordGeometry id size))

theorem UsualRules.perform {relation : Panel → Panel → Prop} (rules : UsualRules relation) {β : Type} {request : Request β}
    {act : PanelStep Answer} (found : perform? request = some act) (usually : usual request = true) :
      Moves relation act := by
  cases request with
  | hide => cases found; exact rules.hide
  | layoutChanged => cases found; exact rules.answer rules.layoutChanged _
  | applyTheme scheme =>
    cases found
    exact rules.applyTheme scheme (rules.stock scheme) fun session => rules.changed session _
  | click id => cases found; exact rules.answer (rules.click id) _
  | focusActive => cases found; exact rules.answer rules.focusActive _
  | refit id notify => cases found; exact rules.answer (rules.refit id notify) _
  | frame => cases found; exact rules.answer rules.frame _
  | setActive id => cases found; exact rules.answer (rules.select id) _
  | get _ | mostRecent | contains _ | list | listeners _ => cases found; exact rules.refl
  | markExited id => cases found; exact rules.exited id
  | recordGeometry id size => cases found; exact rules.recorded id size
  | emit event payload => cases found; exact fun panel => rules.announced event payload _ panel
  | type id bytes => cases found; exact rules.answer (rules.typeInto id (rules.typed · bytes)) _
  | surface id request => cases found; exact rules.askSurface id request rules.typed rules.changed
  | text id => cases found; exact rules.textOf id rules.changed
  | resizeView id width height =>
    cases found
    intro panel
    rw [quietly, after_modify_bind]
    split
    · exact rules.refl panel
    next session _ => exact rules.sized session width height panel
  | changeDirectory cwd => cases found; exact rules.directory cwd
  | closeSession _ | remove _ | beginDrag _ | dragTo _ | endDrag | setHeight _ | beginRename _ | editRename _ | keyRename _
  | blurRename | cancelRename | rename _ _ => cases usually
  | openPanel | toggle | add _ | shutdown | addTab _ | create _ | closeAll | adjust _ | release | background _ _
  | gather _ | drain => cases found

end TerminalDock.Panel
