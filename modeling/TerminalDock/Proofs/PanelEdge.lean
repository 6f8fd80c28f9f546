import TerminalDock.Proofs.DockSteps

/-! The edge of the panel: how high it is, the drag under way, and the heights that were kept for the next start. Four
requests move it, and what each of them makes of it depends on the edge alone. -/

namespace TerminalDock
open Proofs.Steps

def Effect.kept? : Effect → Option Int
  | .heightKept height => some height
  | _ => none

namespace Registry

def kept (registry : Registry) : List Int :=
  registry.journal.filterMap Effect.kept?

private theorem kept_note {effect : Effect} (other : effect.kept? = none) (registry : Registry) :
    (registry.note effect).kept = registry.kept := by
  simp [kept, note, other]

@[simp] theorem kept_log (record : LogRecord) (registry : Registry) : (registry.log record).kept = registry.kept :=
  kept_note rfl registry

abbrev Unkept {α : Type} (act : RegistryStep α) : Prop :=
  Moves (fun first last : Registry => last.kept = first.kept) act

private theorem onSurface_unkept {α : Type} (session : Session) (act : SurfaceStep α) : Unkept (onSurface session act) := by
  intro registry
  rw [after_onSurface]
  rfl

private theorem kept_showView (session : Session) (visible : Bool) (registry : Registry) :
    (registry.showView session visible).kept = registry.kept := by
  unfold showView
  dsimp only
  split
  · rfl
  · exact kept_note rfl _

private theorem kept_recordGeometry (id : String) (size : Geometry) (registry : Registry) :
    (registry.recordGeometry id size).kept = registry.kept := by
  unfold recordGeometry
  split <;> rfl

private theorem setActive_unkept (id : String) : Unkept (setActive id) := by
  apply Moves.get_bind
  intro registry
  split <;> rfl

private theorem rename_unkept (id name : String) : Unkept (rename id name) := by
  apply Moves.get_bind
  intro registry
  split
  · rfl
  · dsimp only
    split
    · rfl
    · exact kept_log _ _

private theorem kept_markExited (id : String) (registry : Registry) : (registry.markExited id).2.kept = registry.kept := by
  rcases markExited_cases registry id with same | ⟨serial, same⟩
  · rw [same]
  · rw [same]
    rfl

private theorem kept_tells : TellRules (fun _ _ => True) (fun first last => last.kept = first.kept) where
  refl _ := rfl
  trans before later := later.trans before
  log := kept_log
  mark := kept_markExited
  marked _ _ := trivial
  write _ _ := onSurface_unkept _ _ _

private theorem remove_unkept (id : String) : Unkept (remove id {}) := by
  intro registry
  rcases after_remove id registry with ⟨-, same⟩ | ⟨session, record, -, removed⟩
  · rw [same]
  · rw [removed]
    exact (kept_log _ _).trans (kept_note rfl _)

theorem create_unkept (cwd : String) (spawned : Except Failure String) (faults : String → WiringFaults) :
    Unkept (create cwd spawned faults) := by
  intro registry
  have ends := create_ends cwd spawned faults registry
  unfold after
  generalize create cwd spawned faults registry = result at ends
  cases ends with
  | refused answered record => exact kept_log _ _
  | taken => rfl
  | spoiled answered free failed wired =>
    cases wired with
    | unbuilt | unheard | leaking | unattached => exact kept_log _ _
  | made answered free built wired =>
    cases wired
    exact (kept_log _ _).trans (kept_note rfl _)

end Registry

namespace Panel

structure Edge where
  config : PanelConfig
  height : Int
  drag : Option Drag
  /-- The heights that were kept, the latest one last. -/
  kept : List Int

def edge (panel : Panel) : Edge where
  config := panel.config
  height := panel.height
  drag := panel.drag
  kept := panel.registry.kept

namespace Edge

/-- A height within the bounds takes the place of the old one; what stands for no height changes nothing. -/
def resize (edge : Edge) (wanted : Json) : Edge :=
  match edge.config.clampHeight wanted with
  | .ok height => { edge with height := height }
  | .error _ => edge

def keep (edge : Edge) : Edge :=
  { edge with kept := edge.kept ++ [edge.height] }

/-- What a request makes of the edge. -/
def follow {β : Type} (edge : Edge) : Request β → Edge
  | .beginDrag y => { edge with drag := some ⟨y, edge.height⟩ }
  | .dragTo y =>
    match edge.drag with
    | none => edge
    | some drag => edge.resize (dragHeight drag y)
  | .endDrag => if edge.drag.isSome then { edge with drag := none }.keep else edge
  | .setHeight wanted =>
    match edge.config.clampHeight wanted with
    | .ok height => { edge with height := height }.keep
    | .error _ => edge
  | _ => edge

end Edge

/-- A step that does not move the edge. -/
abbrev Flush {α : Type} (act : PanelStep α) : Prop :=
  Moves (fun first last : Panel => last.edge = first.edge) act

private theorem edge_of_registry {panel : Panel} {registry : Registry} (same : registry.kept = panel.registry.kept) :
    { panel with registry := registry }.edge = panel.edge := by
  simp only [edge, same]

theorem Flush.onRegistry {α : Type} {act : RegistryStep α} (unkept : Registry.Unkept act) :
    Flush (Panel.onRegistry act) := by
  intro panel
  rw [after_onRegistry]
  exact edge_of_registry (unkept panel.registry)

private theorem edge_note {effect : Effect} (other : effect.kept? = none) (panel : Panel) :
    (panel.note effect).edge = panel.edge :=
  edge_of_registry (Registry.kept_note other panel.registry)

@[simp] theorem edge_log (record : LogRecord) (panel : Panel) : (panel.log record).edge = panel.edge :=
  edge_note rfl panel

@[simp] theorem edge_drawTabs (panel : Panel) : panel.drawTabs.edge = panel.edge :=
  edge_note rfl panel

/-- Who is shown, and in which size, is no business of the edge. -/
theorem Flush.rules : ShowRules (fun first last : Panel => last.edge = first.edge) where
  refl _ := rfl
  trans before later := later.trans before
  log := edge_log
  draw := edge_drawTabs
  frames _ _ := rfl
  fit _ _ _ := Flush.onRegistry (Registry.onSurface_unkept _ _) _
  told session size panel := edge_of_registry (Registry.kept_recordGeometry session.id size panel.registry)
  view session visible panel := edge_of_registry (Registry.kept_showView session visible panel.registry)
  focus _ _ := rfl
  blur _ _ := rfl
  select id := Flush.onRegistry (Registry.setActive_unkept id)
  opened _ _ := rfl
  shown _ _ := edge_note rfl _

theorem edge_tellAll (event : String) (payload : Event.Payload) (subscribers : List Subscriber) (panel : Panel) :
    (tellAll event payload subscribers panel).edge = panel.edge :=
  Flush.rules.tellAll (fun subscriber => Flush.onRegistry (Registry.kept_tells.moves subscriber payload)) event subscribers
    panel

private theorem edge_typed (session : Session) (bytes : List UInt8) (panel : Panel) :
    (panel.changeRegistry (Registry.typed session bytes)).edge = panel.edge :=
  edge_of_registry (Registry.typed_view Registry.kept (fun _ _ => rfl) session bytes panel.registry)

theorem Flush.usual : UsualRules (fun first last : Panel => last.edge = first.edge) where
  toShowRules := Flush.rules
  stock _ _ := rfl
  changed _ _ _ := rfl
  typed := edge_typed
  announced := edge_tellAll
  exited id panel := edge_of_registry (Registry.kept_markExited id panel.registry)
  sized _ _ _ _ := rfl
  directory _ _ := rfl
  recorded id size panel := edge_of_registry (Registry.kept_recordGeometry id size panel.registry)

private theorem applyHeight_ok {wanted : Json} {height : Int} {panel : Panel}
    (told : panel.config.clampHeight wanted = .ok height) :
    applyHeight wanted panel = .ok () ({ panel with height := height }.note (.heightChanged height)) := by
  unfold applyHeight
  rw [get_bind, told]
  rfl

private theorem applyHeight_error {wanted : Json} {error : HeightError} {panel : Panel}
    (told : panel.config.clampHeight wanted = .error error) :
    applyHeight wanted panel = .error error.failure panel := by
  unfold applyHeight
  rw [get_bind, told]
  rfl

private theorem edge_applyHeight (wanted : Json) (panel : Panel) :
    (after (applyHeight wanted) panel).edge = panel.edge.resize wanted := by
  unfold after Edge.resize
  cases told : panel.config.clampHeight wanted with
  | error error =>
    rw [applyHeight_error told, show panel.edge.config.clampHeight wanted = _ from told]
  | ok height =>
    rw [applyHeight_ok told, show panel.edge.config.clampHeight wanted = _ from told]
    exact edge_note rfl { panel with height := height }

private theorem edge_dragTo (y : Decimal.Quantity) (panel : Panel) : (after (dragTo y) panel).edge =
    match panel.drag with
    | none => panel.edge
    | some drag => panel.edge.resize (dragHeight drag y) := by
  unfold dragTo
  rw [after_get_bind]
  cases panel.drag with
  | none => rfl
  | some drag =>
    apply Eq.trans (after_bind_view edge ?_ panel) (edge_applyHeight (dragHeight drag y) panel)
    intro _
    exact Flush.rules.bind (Flush.rules.refit none false) fun _ _ => rfl

private theorem edge_keepHeight (panel : Panel) : panel.keepHeight.edge = panel.edge.keep := by
  simp [keepHeight, edge, Edge.keep, note, changeRegistry, Registry.note, Registry.kept, Effect.kept?]

private theorem edge_endDrag (panel : Panel) : (after endDrag panel).edge =
    if panel.drag.isSome then { panel.edge with drag := none }.keep else panel.edge := by
  have fitted : Flush (do let _ ← refit none true : PanelStep Unit) := Flush.rules.answer (Flush.rules.refit none true) _
  unfold endDrag
  rw [after_get_bind]
  split
  · exact (fitted _).trans (edge_keepHeight { panel with drag := none })
  · rfl

private theorem edge_setHeight (wanted : Json) (panel : Panel) : (after (setHeight wanted) panel).edge =
    match panel.config.clampHeight wanted with
    | .ok height => { panel.edge with height := height }.keep
    | .error _ => panel.edge := by
  have fitted : Flush (do let _ ← refit none true; return (← get).height : PanelStep Int) :=
    Flush.rules.bind (Flush.rules.refit none true) fun _ _ => rfl
  unfold setHeight
  cases told : panel.config.clampHeight wanted with
  | error error =>
    rw [after_bind, applyHeight_error told]
  | ok height =>
    rw [after_bind, applyHeight_ok told]
    apply (fitted _).trans
    rw [edge_keepHeight]
    exact congrArg Edge.keep (edge_note rfl { panel with height := height })

/-- What a request does to the edge is what it makes of it. -/
theorem perform_edge {β : Type} {request : Request β} {act : PanelStep Answer} (found : perform? request = some act)
    (panel : Panel) : (after act panel).edge = panel.edge.follow request := by
  have answering {α : Type} {step : PanelStep α} (answer : α → Answer) :
      (after (do return answer (← step)) panel).edge = (after step panel).edge :=
    after_bind_view edge (fun _ _ => rfl) panel
  have flush {α : Type} {step : PanelStep α} (flush : Flush step) (answer : α → Answer) :
      (after (do return answer (← step)) panel).edge = panel.edge :=
    (answering answer).trans (flush panel)
  have ended (panel : Panel) : { panel with editing := none }.edge = panel.edge := rfl
  have renamed (id name : String) : Flush (onRegistry (Registry.rename id name)) :=
    .onRegistry (Registry.rename_unkept id name)
  have removed (id : String) : Flush (onRegistry (Registry.remove id {})) := .onRegistry (Registry.remove_unkept id)
  cases usually : usual request with
  | true =>
    have unmoved : panel.edge.follow request = panel.edge := by
      cases request <;> first | rfl | cases usually
    rw [unmoved]
    exact Flush.usual.perform found usually panel
  | false =>
    cases request with
    | closeSession id => cases found; exact flush (Flush.rules.closeTab ended (removed id)) _
    | remove id => cases found; exact flush (removed id) _
    | beginDrag y => cases found; rfl
    | dragTo y => cases found; exact (answering _).trans (edge_dragTo y panel)
    | endDrag => cases found; exact (answering _).trans (edge_endDrag panel)
    | setHeight height => cases found; exact (answering _).trans (edge_setHeight height panel)
    | beginRename id => cases found; exact (answering _).trans (Flush.rules.beginRename ended renamed fun _ _ _ => rfl)
    | editRename text =>
      cases found
      rw [quietly, after_modify_bind, after_pure, editRename]
      split
      · rfl
      · exact edge_drawTabs _
    | keyRename key => cases found; exact flush (Flush.rules.keyRename ended renamed key) _
    | blurRename => cases found; exact flush (Flush.rules.commitRename ended renamed) _
    | cancelRename => cases found; exact Flush.rules.cancelRename ended panel
    | rename id name => cases found; exact flush (renamed id name) _
    | _ => cases usually

end Panel
end TerminalDock
