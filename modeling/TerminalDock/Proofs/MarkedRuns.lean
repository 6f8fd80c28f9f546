import TerminalDock.Proofs.DockBeats
import TerminalDock.Proofs.ScaleSteps

/-! What lasts along every run of a panel: who is told of failures, that nothing the panel submitted waits to be taken over,
the smallest grid of a surface, and, once it was set, the mark of the sweep. Nothing that is asked of a panel, and nothing
that it is told, touches the mark; only the sweep itself sets it, and nobody takes it away. -/

namespace TerminalDock
open Proofs.Steps

namespace Registry

/-- The smallest grid that a new surface may have. -/
def least (registry : Registry) : Int × Int :=
  (registry.factory.minRows, registry.factory.minColumns)

/-- What nothing but the sweep touches. -/
def stamp (registry : Registry) : Bool × Int × Int :=
  (registry.swept, registry.least)

/-- Steps of the registry leave the mark alone. -/
abbrev Markless {α : Type} (act : RegistryStep α) : Prop :=
  Moves (fun first last : Registry => last.stamp = first.stamp) act

private theorem onSurface_markless {α : Type} (session : Session) (act : SurfaceStep α) :
    Markless (onSurface session act) := by
  intro registry
  rw [after_onSurface]
  rfl

private theorem stamp_showView (session : Session) (visible : Bool) (registry : Registry) :
    (registry.showView session visible).stamp = registry.stamp := by
  unfold showView
  dsimp only
  split <;> rfl

private theorem stamp_recordGeometry (id : String) (size : Geometry) (registry : Registry) :
    (registry.recordGeometry id size).stamp = registry.stamp := by
  unfold recordGeometry
  split <;> rfl

private theorem setActive_markless (id : String) : Markless (setActive id) := by
  apply Moves.get_bind
  intro registry
  split <;> rfl

private theorem rename_markless (id name : String) : Markless (rename id name) := by
  apply Moves.get_bind
  intro registry
  split
  · rfl
  · dsimp only
    split <;> rfl

private theorem stamp_markExited (id : String) (registry : Registry) :
    (registry.markExited id).2.stamp = registry.stamp := by
  rcases markExited_cases registry id with same | ⟨serial, same⟩ <;> rw [same]
  rfl

private theorem stamp_tells : TellRules (fun _ _ => True) (fun first last => last.stamp = first.stamp) where
  refl _ := rfl
  trans before later := later.trans before
  log _ _ := rfl
  mark := stamp_markExited
  marked _ _ := trivial
  write _ _ := onSurface_markless _ _ _

private theorem remove_markless (id : String) : Markless (remove id {}) := by
  intro registry
  rcases after_remove id registry with ⟨-, same⟩ | ⟨session, record, -, removed⟩
  · rw [same]
  · rw [removed]
    change (apart id session registry).stamp = registry.stamp
    simp only [apart, dropped, silenced]
    rfl

private theorem create_markless (cwd : String) (spawned : Except Failure String) (faults : String → WiringFaults) :
    Markless (create cwd spawned faults) := by
  intro registry
  have ends := create_ends cwd spawned faults registry
  unfold after
  generalize create cwd spawned faults registry = result at ends
  cases ends with
  | refused | taken => rfl
  | spoiled answered free failed wired => cases wired <;> rfl
  | made answered free built wired => cases wired; rfl

end Registry

namespace Panel

abbrev Markless {α : Type} (act : PanelStep α) : Prop :=
  Moves (fun first last : Panel => last.registry.stamp = first.registry.stamp) act

theorem Markless.onRegistry {α : Type} {act : RegistryStep α} (markless : Registry.Markless act) :
    Markless (Panel.onRegistry act) := by
  intro panel
  rw [after_onRegistry]
  exact markless panel.registry

theorem Markless.heights : HeightRules (fun first last : Panel => last.registry.stamp = first.registry.stamp) where
  refl _ := rfl
  trans before later := later.trans before
  log _ _ := rfl
  draw _ := rfl
  frames _ _ := rfl
  fit _ _ _ := Markless.onRegistry (Registry.onSurface_markless _ _) _
  told session size panel := Registry.stamp_recordGeometry session.id size panel.registry
  height _ _ := rfl
  keep _ := rfl
  drag _ _ := rfl

theorem Markless.shows : ShowRules (fun first last : Panel => last.registry.stamp = first.registry.stamp) where
  toFitRules := Markless.heights.toFitRules
  view session visible panel := Registry.stamp_showView session visible panel.registry
  focus _ _ := rfl
  blur _ _ := rfl
  select id := Markless.onRegistry (Registry.setActive_markless id)
  opened _ _ := rfl
  shown _ _ := rfl

private theorem stamp_tellAll (event : String) (payload : Event.Payload) (subscribers : List Subscriber) (panel : Panel) :
    (tellAll event payload subscribers panel).registry.stamp = panel.registry.stamp :=
  tellAll_registry Registry.stamp_tells (Registry.stamp_tells.moves · payload) (fun _ _ => rfl) event subscribers panel

private theorem stamp_typed (session : Session) (bytes : List UInt8) (panel : Panel) :
    (panel.changeRegistry (Registry.typed session bytes)).registry.stamp = panel.registry.stamp :=
  Registry.typed_view Registry.stamp (fun _ _ => rfl) session bytes panel.registry

theorem Markless.usual : UsualRules (fun first last : Panel => last.registry.stamp = first.registry.stamp) where
  toShowRules := Markless.shows
  stock _ _ := rfl
  changed _ _ _ := rfl
  typed := stamp_typed
  announced := stamp_tellAll
  exited id panel := Registry.stamp_markExited id panel.registry
  sized _ _ _ _ := rfl
  directory _ _ := rfl
  recorded id size panel := Registry.stamp_recordGeometry id size panel.registry

private theorem perform_markless {β : Type} {request : Request β} {act : PanelStep Answer}
    (found : perform? request = some act) :
    Markless act := by
  have answering {α : Type} {step : PanelStep α} (markless : Markless step) (answer : α → Answer) :
      Markless (do return answer (← step)) :=
    Markless.shows.answer markless answer
  have ended (panel : Panel) : { panel with editing := none }.registry.stamp = panel.registry.stamp := rfl
  have renamed (id name : String) : Markless (onRegistry (Registry.rename id name)) :=
    .onRegistry (Registry.rename_markless id name)
  have removed (id : String) : Markless (onRegistry (Registry.remove id {})) := .onRegistry (Registry.remove_markless id)
  cases usually : usual request with
  | true => exact Markless.usual.perform found usually
  | false =>
    cases request with
    | closeSession id => cases found; exact answering (Markless.shows.closeTab ended (removed id)) _
    | remove id => cases found; exact answering (removed id) _
    | beginDrag _ => cases found; exact fun _ => rfl
    | dragTo y => cases found; exact answering (Markless.heights.dragTo y) _
    | endDrag => cases found; exact answering Markless.heights.endDrag _
    | setHeight height => cases found; exact answering (Markless.heights.setHeight height) _
    | beginRename id => cases found; exact answering (fun _ => Markless.shows.beginRename ended renamed fun _ _ _ => rfl) _
    | editRename text =>
      cases found
      intro panel
      rw [quietly, after_modify_bind, after_pure, editRename]
      split <;> rfl
    | keyRename key => cases found; exact answering (Markless.shows.keyRename ended renamed key) _
    | blurRename => cases found; exact answering (Markless.shows.commitRename ended renamed) _
    | cancelRename => cases found; exact Markless.shows.cancelRename ended
    | rename id name => cases found; exact answering (renamed id name) _
    | _ => cases usually

end Panel

namespace Dock
variable {β : Type}

/-- A part of a turn after which the same hook is told of failures, the panel is as empty of calls and effects as it was,
no surface may be any smaller, and a sweep that was made counts as made. -/
structure Lasting (first last : Dock β) : Prop where
  hook : last.hook = first.hook
  least : last.panel.registry.least = first.panel.registry.least
  drained : first.panel.drained = first.panel → last.panel.drained = last.panel
  swept : first.panel.registry.swept = true → last.panel.registry.swept = true

variable {first middle last : Dock β}

namespace Lasting

theorem of_alike (hook : last.hook = first.hook) (panel : last.panel = first.panel) : Lasting first last := by
  refine ⟨hook, congrArg (·.registry.least) panel, ?_, ?_⟩
  · rw [panel]
    exact id
  · rw [panel]
    exact id

protected theorem refl (dock : Dock β) : Lasting dock dock := .of_alike rfl rfl

protected theorem trans (before : Lasting first middle) (later : Lasting middle last) : Lasting first last :=
  ⟨later.hook.trans before.hook, later.least.trans before.least, later.drained ∘ before.drained, later.swept ∘ before.swept⟩

end Lasting

private theorem change_lasting (dock : Dock β) {f : Panel → Panel}
    (stamp : (f dock.panel).registry.stamp = dock.panel.registry.stamp) : Lasting dock (dock.change f) :=
  ⟨rfl, congrArg Prod.snd stamp, fun _ => rfl, (congrArg Prod.fst stamp).trans⟩

private theorem onPanel_lasting {α : Type} (dock : Dock β) {act : PanelStep α} (markless : Panel.Markless act) :
    Lasting dock (dock.onPanel act).2 := by
  rw [onPanel_change]
  exact change_lasting dock (markless dock.panel)

private theorem conclude_lasting (dock : Dock β) (task : Loop.TaskId) (result : Except Failure Answer) :
    Lasting dock (dock.conclude task result) := by
  unfold conclude
  dsimp only
  split <;> exact .of_alike rfl rfl

/-- The sweep makes the mark, and whatever else turns do to the panel leaves it alone. -/
theorem lasting_rules (task : Loop.TaskId) : TurnRules (fun _ : Stage β => True) task Lasting Lasting where
  refl := .refl
  trans := .trans
  follow := .trans
  see _ _ _ := .of_alike rfl rfl
  start _ _ _ _ := .of_alike rfl rfl
  conclude dock := conclude_lasting dock task
  await _ _ _ _ := .of_alike rfl rfl
  serve _ _ := .of_alike rfl rfl
  change dock _ chore := by
    cases chore with
    | sweep => exact ⟨rfl, rfl, fun _ => rfl, fun _ => rfl⟩
    | create cwd spawned faults =>
      exact change_lasting dock (Panel.Markless.onRegistry (Registry.create_markless cwd spawned faults) dock.panel)
    | settle previous session => exact change_lasting dock (Panel.Markless.shows.settleTab previous session dock.panel)
    | revealFirst => exact change_lasting dock (Panel.Markless.shows.revealFirst dock.panel)
    | reveal => exact change_lasting dock (Panel.Markless.shows.reveal dock.panel)
    | hide => exact change_lasting dock (Panel.Markless.shows.hide dock.panel)
  unlock dock := by
    unfold unlock
    dsimp only
    split <;> exact .of_alike rfl rfl
  take _ _ _ := .of_alike rfl rfl
  free _ _ _ _ := .of_alike rfl rfl
  hold _ _ _ _ := .of_alike rfl rfl
  queue _ := .of_alike rfl rfl

variable [SessionBackend β]

private theorem beginCall_lasting (dock : Dock β) (task : Loop.TaskId) (call : BackendCall) :
    Lasting dock (dock.beginCall task call) := by
  have begun (backend : β) (records : List LogRecord) :
      Lasting dock ({ dock.see [.calling call] with backend := backend }.log records) := .of_alike rfl rfl
  unfold beginCall
  dsimp only
  split
  · exact (begun _ _).trans ((lasting_rules task).concludeCall _ call _ _)
  · exact .of_alike rfl rfl

private theorem begin_lasting (dock : Dock β) (task : Loop.TaskId) (request : Request β) :
    Lasting dock (dock.begin task request) := by
  cases found : Panel.perform? request with
  | none => exact (lasting_rules task).begin dock request.grants_all found
  | some act =>
    rw [begin_performs found]
    exact (onPanel_lasting dock (Panel.perform_markless found)).trans (conclude_lasting _ task _)

private theorem resume_lasting (dock : Dock β) (task : Loop.TaskId) : Lasting dock (dock.resume task) := by
  cases found : dock.scheduler.running.find? task with
  | none =>
    simp only [resume, found]
    exact .refl dock
  | some job =>
    exact (lasting_rules task).resume dock found (fun request _ => begin_lasting dock task request)
      fun call _ => beginCall_lasting dock task call

theorem beat_lasting (dock : Dock β) (beat : Beat β) : Lasting dock (dock.beat beat) := by
  cases beat with
  | fire place => exact onPanel_lasting dock (Panel.Markless.shows.fire place)
  | move move =>
    cases move with
    | ask request =>
      have created : Lasting dock { dock with scheduler := (dock.scheduler.create ⟨.begin request, none⟩).2 } :=
        .of_alike rfl rfl
      exact created.trans (resume_lasting _ _)
    | turn =>
      change Lasting dock dock.turn
      unfold turn
      split
      · exact .refl dock
      · have popped (scheduler : Loop.Scheduler (Job β) (Except Failure Answer)) :
            Lasting dock { dock with scheduler := scheduler } := .of_alike rfl rfl
        exact (popped _).trans (resume_lasting _ _)
      · exact .of_alike rfl rfl
      · exact .of_alike rfl rfl
    | answer task =>
      change Lasting dock (dock.move (.answer task))
      unfold move
      dsimp only
      split <;> exact .of_alike rfl rfl
    | announce event payload =>
      exact change_lasting dock (Panel.stamp_tellAll event payload _ dock.panel)

theorem play_lasting (dock : Dock β) (beats : List (Beat β)) : Lasting dock (dock.play beats) := by
  induction beats generalizing dock with
  | nil => exact .refl dock
  | cons first rest ih => exact (beat_lasting dock first).trans (ih _)

end Dock

end TerminalDock
