import TerminalDock.Proofs.DockRuns

/-! Names. Nothing but a rename gives a live session another name, and nothing but a rename or the end of a tab
touches the draft; a session that is new has the name that its number gives it. -/

namespace TerminalDock
open Proofs.Steps

/-- What a session is called, and which one it is. -/
structure Session.Title where
  serial : Nat
  number : Nat
  name : String

def Session.title (session : Session) : Session.Title where
  serial := session.serial
  number := session.number
  name := session.name

namespace Registry

def titles (registry : Registry) : Assoc String Session.Title :=
  registry.sessions.map fun (id, session) => (id, session.title)

theorem find?_titles (registry : Registry) (id : String) :
    registry.titles.find? id = (registry.session? id).map Session.title :=
  Assoc.find?_map Session.title id registry.sessions

private theorem titles_change {f : Session → Session} (same : ∀ session, (f session).title = session.title)
    (registry : Registry) (serial : Nat) : (registry.change serial f).titles = registry.titles :=
  congrArg Prod.fst (seen_change same registry serial)

/-- A step of the registry that concerns no name. -/
def Plain (first last : Registry) : Prop :=
  last.titles = first.titles ∧ last.serial = first.serial

namespace Plain

protected theorem refl (registry : Registry) : Plain registry registry := ⟨rfl, rfl⟩

protected theorem trans {first middle last : Registry} (before : Plain first middle) (later : Plain middle last) :
    Plain first last :=
  ⟨later.1.trans before.1, later.2.trans before.2⟩

theorem change {f : Session → Session} (same : ∀ session, (f session).title = session.title) (registry : Registry)
    (serial : Nat) : Plain registry (registry.change serial f) :=
  ⟨titles_change same registry serial, rfl⟩

end Plain

private theorem typed_plain (session : Session) (bytes : List UInt8) (registry : Registry) :
    Plain registry (typed session bytes registry) :=
  ⟨typed_view titles (fun _ _ => rfl) session bytes registry,
    typed_view Registry.serial (fun _ _ => rfl) session bytes registry⟩

private theorem onSurface_plain {α : Type} (session : Session) (act : SurfaceStep α) :
    Moves Plain (onSurface session act) := by
  intro registry
  rw [after_onSurface]
  refine .change (fun _ => ?_) registry session.serial
  rfl

private theorem markExited_plain (registry : Registry) (id : String) : Plain registry (registry.markExited id).2 := by
  unfold markExited
  split
  · exact .refl registry
  next session _ =>
    split
    · exact .refl registry
    · refine .change (fun _ => ?_) registry session.serial
      rfl

private theorem plain_tells : TellRules (fun _ _ => True) Plain where
  refl := .refl
  trans before later := before.trans later
  log _ _ := ⟨rfl, rfl⟩
  mark id registry := markExited_plain registry id
  marked _ _ := trivial
  write _ _ := onSurface_plain _ _ _

end Registry

namespace Panel

/-- The live sessions by their names, and the rename in progress. -/
structure Roster where
  titles : Assoc String Session.Title
  serial : Nat
  editing : Option RenameEdit

def roster (panel : Panel) : Roster where
  titles := panel.registry.titles
  serial := panel.registry.serial
  editing := panel.editing

def Plain (first last : Panel) : Prop :=
  last.roster = first.roster

namespace Plain

protected theorem refl (panel : Panel) : Plain panel panel := rfl

protected theorem trans {first middle last : Panel} (before : Plain first middle) (later : Plain middle last) :
    Plain first last :=
  Eq.trans later before

theorem of_registry {panel : Panel} {registry : Registry} (plain : Registry.Plain panel.registry registry) :
    Plain panel { panel with registry := registry } := by
  simp only [Plain, roster, plain.1, plain.2]

theorem onRegistry {α : Type} {act : RegistryStep α} (plain : Moves Registry.Plain act) :
    Moves Plain (onRegistry act) := by
  intro panel
  rw [after_onRegistry]
  exact .of_registry (plain panel.registry)

theorem change {f : Session → Session} (same : ∀ session, (f session).title = session.title) (panel : Panel)
    (serial : Nat) : Plain panel (panel.changeRegistry (·.change serial f)) :=
  .of_registry (.change same panel.registry serial)

theorem changeSurface (panel : Panel) (session : Session) (f : Surface → Surface) :
    Plain panel (panel.changeRegistry (·.changeSurface session f)) := by
  refine .change ?_ panel session.serial
  exact fun _ => rfl

theorem showView (panel : Panel) (session : Session) (visible : Bool) :
    Plain panel (panel.changeRegistry (·.showView session visible)) := by
  unfold changeRegistry Registry.showView
  dsimp only
  split
  · exact .refl panel
  · have same : ∀ old : Session, ({ old with view := session.view.setVisible visible } : Session).title = old.title :=
      fun _ => rfl
    exact .of_registry (.change same panel.registry session.serial)

theorem note (panel : Panel) (effect : Effect) : Plain panel (panel.note effect) := rfl

end Plain

private theorem recordGeometry_plain (id : String) (size : Geometry) (panel : Panel) :
    Plain panel (panel.changeRegistry (·.recordGeometry id size)) := by
  unfold changeRegistry Registry.recordGeometry
  dsimp only
  split
  · exact .refl panel
  next session _ =>
    refine .change (fun _ => ?_) panel session.serial
    rfl

private theorem setActive_plain (id : String) : Moves Plain (onRegistry (Registry.setActive id)) := by
  refine .onRegistry (Moves.get_bind fun registry => ?_)
  split <;> exact ⟨rfl, rfl⟩

theorem Plain.rules : HeightRules Plain where
  refl := .refl
  trans before later := before.trans later
  log _ _ := rfl
  draw _ := rfl
  frames _ _ := rfl
  fit _ _ _ := Plain.onRegistry (Registry.onSurface_plain _ _) _
  told session size panel := recordGeometry_plain session.id size panel
  height _ _ := rfl
  keep _ := rfl
  drag _ _ := rfl

theorem Plain.shows : ShowRules Plain where
  toFitRules := Plain.rules.toFitRules
  view session visible panel := .showView panel session visible
  focus session panel := .changeSurface panel session Surface.focus
  blur session panel := .changeSurface panel session Surface.blur
  select := setActive_plain
  opened _ _ := rfl
  shown _ _ := rfl

private theorem finish_plain (purpose : Purpose) (session : Session) (panel : Panel) :
    Plain panel (purpose.finish session panel) := by
  have drained (panel : Panel) : Plain panel panel.drained := rfl
  have settled (previous : Option Session) : Plain panel (panel.settleTab previous session).drained :=
    (Plain.shows.settleTab previous session panel).trans (drained _)
  cases purpose with
  | create => exact .refl panel
  | addTab previous => exact settled previous
  | addSession previous => exact settled previous
  | openPanel previous =>
    have revealed : Plain (panel.settleTab previous session).drained
        (panel.settleTab previous session).drained.revealFirst := Plain.shows.revealFirst _
    exact (settled previous).trans (revealed.trans (drained _))

theorem tellAll_plain (event : String) (payload : Event.Payload) (subscribers : List Subscriber) (panel : Panel) :
    Plain panel (tellAll event payload subscribers panel) :=
  Plain.rules.tellAll (fun subscriber => .onRegistry (Registry.plain_tells.moves subscriber payload)) event subscribers panel

private theorem typed_plain (session : Session) (bytes : List UInt8) (panel : Panel) :
    Plain panel (panel.changeRegistry (Registry.typed session bytes)) :=
  .of_registry (Registry.typed_plain session bytes panel.registry)

private theorem changeSurface_plain (session : Session) (f : Surface → Surface) (panel : Panel) :
    Plain panel (panel.changeRegistry (·.changeSurface session f)) :=
  .changeSurface panel session f

theorem Plain.usual : UsualRules Plain where
  toShowRules := Plain.shows
  stock _ _ := rfl
  changed := changeSurface_plain
  typed := typed_plain
  announced := tellAll_plain
  exited id panel := .of_registry (Registry.markExited_plain panel.registry id)
  sized session _ _ panel := by
    refine .change (fun _ => ?_) panel session.serial
    rfl
  directory _ _ := rfl
  recorded := recordGeometry_plain

end Panel

def Request.nameless {β : Type} : Request β → Bool
  | .beginRename _ | .editRename _ | .keyRename _ | .blurRename | .cancelRename | .rename .. | .remove _ => false
  | _ => true

namespace Panel

/-- What is left of the names by whatever is no rename: those who stay keep theirs, and a draft ends with its
session. -/
structure Spared (first last : Roster) : Prop where
  serial : first.serial ≤ last.serial
  live : ∀ id title, last.titles.find? id = some title →
    first.titles.find? id = some title ∨ first.serial ≤ title.serial ∧ title.name = Session.defaultName title.number
  draft : (last.editing = first.editing ∧ ∀ edit title, first.editing = some edit →
      first.titles.find? edit.session = some title → last.titles.find? edit.session = some title) ∨
    last.editing = none ∧ ∀ edit, first.editing = some edit → last.titles.find? edit.session = none

theorem Spared.refl (roster : Roster) : Spared roster roster :=
  ⟨Nat.le_refl _, fun _ _ found => .inl found, .inl ⟨rfl, fun _ _ _ found => found⟩⟩

theorem Plain.spared {first last : Panel} (plain : Plain first last) : Spared first.roster last.roster := by
  rw [show last.roster = first.roster from plain]
  exact .refl first.roster

theorem Spared.plainly {first middle last : Panel} (spared : Spared first.roster middle.roster)
    (plain : Plain middle last) : Spared first.roster last.roster := by
  rw [show last.roster = middle.roster from plain]
  exact spared

private theorem titles_apart (id : String) (session : Session) (registry : Registry) :
    (Registry.apart id session registry).titles = registry.titles.remove id := by
  have silenced : (Registry.silenced id session registry).titles = registry.titles := by
    refine Registry.titles_change (fun _ => ?_) _ session.serial
    rfl
  rw [← silenced]
  exact (Assoc.remove_map Session.title id _).symm

private theorem remove_roster (id : String) {panel : Panel} (valid : panel.registry.WellFormed) :
    ∃ titles, (after (onRegistry (Registry.remove id {})) panel).roster = { panel.roster with titles := titles } ∧
      titles.find? id = none ∧ ∀ other, other ≠ id → titles.find? other = panel.roster.titles.find? other := by
  rw [after_onRegistry]
  rcases Registry.after_remove id panel.registry with ⟨found, same⟩ | ⟨session, record, -, removed⟩
  · rw [same]
    refine ⟨panel.registry.titles, rfl, ?_, fun _ _ => rfl⟩
    rw [Registry.find?_titles, found]
    rfl
  · rw [removed]
    have unique : panel.registry.titles.keys.Nodup := by
      rw [Registry.titles, Assoc.keys_map]
      exact valid.keys
    refine ⟨panel.registry.titles.remove id, ?_, Assoc.find?_remove_self unique, ?_⟩
    · rw [← titles_apart id session panel.registry]
      rfl
    · exact fun other different => Assoc.find?_remove_of_ne different _

def letGo (id : String) (panel : Panel) : Panel :=
  if panel.editing.any (·.session == id) then { panel with editing := none } else panel

private theorem letGo_registry (id : String) (panel : Panel) : (panel.letGo id).registry = panel.registry := by
  unfold letGo
  split <;> rfl

private theorem closeTab_roster (id : String) (panel : Panel) : (after (closeTab id {}) panel).roster =
    (after (onRegistry (Registry.remove id {})) (panel.letGo id)).roster := by
  have drawn (removal : Removal) : Moves Plain (do modify drawTabs; return removal : PanelStep Removal) :=
    fun panel => .note panel _
  rw [closeTab, after_modify_bind]
  refine after_bind_view roster (fun removal => ?_) (panel.letGo id)
  change Moves Plain _
  split
  · split
    · refine Plain.rules.bind (fun panel => ?_) fun _ => drawn removal
      exact (Plain.shows.setVisible false panel).trans (.note _ _)
    · split
      · refine Moves.get_bind fun panel => ?_
        split
        next successor _ => exact Plain.rules.chain (Plain.shows.activate successor.id panel) fun _ => drawn removal
        next => exact drawn removal panel
      · exact drawn removal
  · exact Plain.refl

theorem closeTab_serial (id : String) {panel : Panel} (valid : panel.registry.WellFormed) :
    (after (closeTab id {}) panel).roster.serial = panel.roster.serial := by
  have sane : (panel.letGo id).registry.WellFormed := (letGo_registry id panel).symm ▸ valid
  obtain ⟨titles, left, -⟩ := remove_roster id sane
  rw [closeTab_roster, left]
  exact congrArg Registry.serial (letGo_registry id panel)

theorem closeTab_spared (id : String) {panel : Panel} (valid : panel.registry.WellFormed) :
    Spared panel.roster (after (closeTab id {}) panel).roster := by
  have sound := letGo_registry id panel
  have sane : (panel.letGo id).registry.WellFormed := sound.symm ▸ valid
  obtain ⟨titles, left, gone, kept⟩ := remove_roster id sane
  have same : (panel.letGo id).roster.titles = panel.roster.titles := congrArg Registry.titles sound
  rw [same] at kept
  rw [closeTab_roster, left]
  refine ⟨Nat.le_of_eq (congrArg Registry.serial sound).symm, ?_, ?_⟩
  · intro name title found
    by_cases here : name = id
    · rw [here, gone] at found
      cases found
    · exact .inl ((kept name here).symm.trans found)
  · by_cases drafted : panel.editing.any (·.session == id) = true
    · refine .inr ⟨?_, fun edit editing => ?_⟩
      · change (panel.letGo id).editing = none
        rw [letGo, if_pos drafted]
      · have here : edit.session = id := by
          have editing : panel.editing = some edit := editing
          rw [editing] at drafted
          exact beq_iff_eq.mp drafted
        rw [here]
        exact gone
    · refine .inl ⟨?_, fun edit title editing found => ?_⟩
      · change (panel.letGo id).editing = panel.editing
        rw [letGo, if_neg drafted]
      · have elsewhere : edit.session ≠ id := by
          intro here
          have editing : panel.editing = some edit := editing
          rw [editing] at drafted
          exact drafted (beq_iff_eq.mpr here)
        exact (kept edit.session elsewhere).trans found

theorem perform_spared {β : Type} {request : Request β} {act : PanelStep Answer}
    (found : perform? request = some act) (nameless : request.nameless = true) {panel : Panel}
    (valid : panel.registry.WellFormed) : Spared panel.roster (after act panel).roster := by
  have answering {α : Type} {step : PanelStep α} (moves : Moves Plain step) (answer : α → Answer) :
      Spared panel.roster (after (do return answer (← step)) panel).roster :=
    (Plain.rules.answer moves answer panel).spared
  cases usually : usual request with
  | true => exact (Plain.usual.perform found usually panel).spared
  | false =>
    cases request with
    | closeSession id =>
      cases found
      rw [after_bind_view roster (fun _ _ => rfl)]
      exact closeTab_spared id valid
    | beginDrag y =>
      cases found
      have still : Plain panel (panel.beginDrag y) := rfl
      exact still.spared
    | dragTo y => cases found; exact answering (Plain.rules.dragTo y) _
    | endDrag => cases found; exact answering Plain.rules.endDrag _
    | setHeight height => cases found; exact answering (Plain.rules.setHeight height) _
    | beginRename _ | editRename _ | keyRename _ | blurRename | cancelRename | rename _ _ | remove _ => cases nameless
    | _ => cases usually

/-- The answer to a question for a process makes a session with the name of its number, or none. -/
theorem landed_spared (cwd : String) (spawned : Except Failure String) (faults : String → WiringFaults)
    (purpose : Purpose) (panel : Panel) : Spared panel.roster (panel.landed cwd spawned faults purpose).roster := by
  have ends := Registry.create_ends cwd spawned faults panel.registry
  unfold landed
  generalize Registry.create cwd spawned faults panel.registry = result at ends
  cases ends with
  | refused answered record => exact .refl _
  | taken answered present reason => exact .refl _
  | spoiled answered free failed wired =>
    have kept (registry : Registry) (titles : registry.titles = panel.registry.titles)
        (serial : panel.registry.serial ≤ registry.serial) :
        Spared panel.roster { panel with registry := registry }.drained.roster := by
      have same : { panel with registry := registry }.drained.roster.titles = panel.roster.titles := titles
      refine ⟨serial, fun id title found => .inl (same ▸ found), .inl ⟨rfl, fun edit title _ found => ?_⟩⟩
      rw [same]
      exact found
    cases wired with
    | unbuilt failure => exact kept _ rfl (Nat.le_refl _)
    | unheard failure => exact kept _ rfl (Nat.le_succ _)
    | leaking failure => exact kept _ rfl (Nat.le_succ _)
    | unattached failure => exact kept _ rfl (Nat.le_succ _)
  | @made id session final answered free built wired =>
    have registered :
        Spared panel.roster { panel with registry := Registry.register cwd session final }.drained.roster := by
      have lookup (name : String) : (Registry.register cwd session final).titles.find? name =
          if name = id then some session.title else panel.registry.titles.find? name := by
        have named : session.id = id := by cases wired; rfl
        have kept : final.session? name = panel.registry.session? name := by cases wired; rfl
        rw [Registry.find?_titles, Registry.session?_register, named, kept, Registry.find?_titles]
        split <;> rfl
      have serial : session.serial = panel.registry.serial := by cases wired; rfl
      have name : session.name = Session.defaultName session.number := by cases wired; rfl
      have absent : panel.registry.titles.find? id = none := by rw [Registry.find?_titles, free]; rfl
      refine ⟨?_, fun other title found => ?_, .inl ⟨rfl, fun edit title _ found => ?_⟩⟩
      · cases wired
        exact Nat.le_succ _
      · have found := (lookup other).symm.trans found
        split at found
        · cases found
          exact .inr ⟨Nat.le_of_eq serial.symm, name⟩
        · exact .inl found
      · refine (lookup edit.session).trans ((if_neg fun here => ?_).trans found)
        have none : panel.registry.titles.find? edit.session = none := here ▸ absent
        cases none.symm.trans found
    exact registered.plainly (finish_plain purpose session _)

end Panel
end TerminalDock
