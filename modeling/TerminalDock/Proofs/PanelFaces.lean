import TerminalDock.Proofs.Telling

/-! What the operations of a panel do to the faces of its sessions: which one is selected, which ones are shown, and
who has the focus. -/

namespace TerminalDock
open Proofs.Steps

/-- Put aside: neither focused nor shown. -/
def Session.Face.dimmed (face : Session.Face) : Session.Face :=
  { face with focused := false, visible := false }

/-- It does not get the focus if it could not be fitted. -/
def Session.Face.focus (fitted : Bool) (face : Session.Face) : Session.Face :=
  { face with focused := fitted || face.focused }

def Session.Face.lit (shown fitted : Bool) (face : Session.Face) : Session.Face :=
  (face.shown shown).focus fitted

namespace Panel

/-- The panel as it is presented. -/
@[ext] structure Face where
  registry : Registry.Face
  isOpen : Bool
  fitting : Bool
  draft : Option String

def face (panel : Panel) : Face where
  registry := panel.registry.face
  isOpen := panel.isOpen
  fitting := panel.fitting
  draft := panel.editing.map RenameEdit.session

namespace Face

def onRegistry (f : Registry.Face → Registry.Face) (face : Face) : Face :=
  { face with registry := f face.registry }

def aside (who : Option String) (face : Face) : Face :=
  match who with
  | none => face
  | some id => face.onRegistry (·.alter id Session.Face.dimmed)

def select (id : String) (fitted : Bool) (face : Face) : Face :=
  face.onRegistry fun registry => { registry.alter id (Session.Face.lit face.fitting fitted) with active := some id }

def spotlight (fitted : Bool) (face : Face) : Face :=
  match face.registry.active with
  | none => face
  | some id => face.onRegistry (·.alter id (Session.Face.lit true fitted))

def unfocus (face : Face) : Face :=
  match face.registry.active with
  | none => face
  | some id => face.onRegistry (·.alter id fun session => { session with focused := false })

/-- The panel is shown or hidden, and of its sessions only the active one with it. -/
def exhibit (visible : Bool) (face : Face) : Face where
  registry := face.registry.each fun name => Session.Face.shown (visible && face.registry.active == some name)
  isOpen := visible
  fitting := visible
  draft := face.draft

def themed (theme : Theme) (face : Face) : Face :=
  face.onRegistry fun registry => { registry.each fun _ session => { session with theme := theme } with theme := theme }

def undraft (id : String) (face : Face) : Face :=
  { face with draft := if face.draft = some id then none else face.draft }

def closed (id : String) (face : Face) : Face :=
  (face.undraft id).onRegistry (·.without id)

@[simp] theorem active_aside (who : Option String) (face : Face) :
    (face.aside who).registry.active = face.registry.active := by
  cases who <;> rfl

@[simp] theorem isOpen_aside (who : Option String) (face : Face) : (face.aside who).isOpen = face.isOpen := by
  cases who <;> rfl

@[simp] theorem fitting_aside (who : Option String) (face : Face) : (face.aside who).fitting = face.fitting := by
  cases who <;> rfl

end Face

theorem face_of_stance {first last : Panel} (same : last.stance = first.stance) : last.face = first.face :=
  Face.ext (Registry.face_of_stance (congrArg Stance.registry same)) (congrArg Stance.isOpen same)
    (congrArg Stance.fitting same) (congrArg Stance.draft same)

section Single
variable {panel : Panel} {id : String} {session current : Session}

theorem showView_face (valid : panel.registry.WellFormed) (live : panel.registry.session? id = some current)
    (same : current.serial = session.serial) (view : current.view = session.view) (visible : Bool) :
    (panel.changeRegistry (·.showView session visible)).face =
      panel.face.onRegistry (·.alter id (Session.Face.shown visible)) :=
  Face.ext (Registry.showView_face valid live same view visible) rfl rfl rfl

private theorem deactivate_face (valid : panel.registry.WellFormed) (live : panel.registry.session? id = some current)
    (same : current.serial = session.serial) (view : current.view = session.view) :
    (panel.changeRegistry (deactivate session)).face = panel.face.aside (some id) := by
  have blurred := (Registry.changeSurface_sound panel.registry session Surface.blur valid).1
  have now : (panel.registry.changeSurface session Surface.blur).session? id =
      some (Registry.changed session.serial (fun old => { old with surface := old.surface.blur }) current) :=
    (Registry.session?_change _ session.serial _ id).trans (congrArg _ live)
  have kept : ∀ old : Session, (Registry.changed session.serial
      (fun old => { old with surface := old.surface.blur }) old).serial = old.serial ∧
      (Registry.changed session.serial (fun old => { old with surface := old.surface.blur }) old).view = old.view := by
    intro old
    unfold Registry.changed
    split <;> exact ⟨rfl, rfl⟩
  have faces := Registry.showView_face blurred now ((kept current).1.trans same) ((kept current).2.trans view) false
  rw [Registry.changeSurface_face valid live same Surface.blur (fun face => { face with focused := false }) rfl,
    Registry.Face.alter_alter] at faces
  exact Face.ext faces rfl rfl rfl

private theorem refit_focus_face (valid : panel.registry.WellFormed) (live : panel.registry.session? id = some current)
    (same : current.serial = session.serial) (which : Option String) {act : PanelStep Unit}
    (begun : act = do
      let _ ← refit which true
      modify (·.changeRegistry (·.changeSurface session Surface.focus))) :
    (after act panel).face =
      panel.face.onRegistry (·.alter id (Session.Face.focus (ending act panel).failure.isNone)) := by
  have mild := Mild.rules.refit which true panel valid
  rw [begun, after_bind, ending_bind]
  unfold after at mild
  cases result : refit which true panel with
  | error failure middle =>
    rw [result] at mild
    have unfocused : panel.face.registry.alter id (Session.Face.focus false) =
        panel.face.registry := by
      refine (Registry.Face.each_congr fun entry _ => ?_).trans (Registry.Face.each_id _)
      split <;> rfl
    exact (face_of_stance mild).trans (Face.ext unfocused.symm rfl rfl rfl)
  | ok size middle =>
    rw [result] at mild
    have stance : middle.registry.stance = panel.registry.stance := congrArg Stance.registry mild
    obtain ⟨found, now, tag⟩ := Registry.live_of_seen (Registry.tags_of_stance stance).symm live
    have faces := Registry.changeSurface_face (valid.of_stance stance) now ((congrArg Prod.fst tag).trans same)
      Surface.focus (Session.Face.focus true) rfl
    rw [Registry.face_of_stance stance] at faces
    exact Face.ext faces (congrArg Stance.isOpen mild) (congrArg Stance.fitting mild) (congrArg Stance.draft mild)

theorem activate_face (valid : panel.registry.WellFormed) (live : panel.registry.session? id = some session) :
    (after (activate id) panel).face = panel.face.select id (ending (activate id) panel).failure.isNone := by
  let chosen : Panel := { panel with registry := { panel.registry with active := some id } }
  have answer : onRegistry (Registry.setActive id) panel = .ok session chosen := by
    simp only [onRegistry, Registry.setActive_live live]
    rfl
  have active : chosen.registry.WellFormed := by
    have sound := (Registry.setActive_sound id panel.registry valid).1
    rwa [after, Registry.setActive_live live] at sound
  have shown := showView_face active live rfl rfl panel.fitting
  have sound : (chosen.changeRegistry (·.showView session panel.fitting)).registry.WellFormed :=
    (Registry.showView_sound chosen.registry session panel.fitting active).1
  obtain ⟨found, now, same⟩ :=
    Registry.live_of_hearing (showView_hearing chosen.registry session panel.fitting) live
  have fronted := refit_focus_face sound now same (some id) rfl
  unfold activate
  rw [after_bind, ending_bind, answer]
  refine fronted.trans ?_
  rw [shown]
  have both (fitted : Bool) := congrArg Registry.Face.sessions
    (Registry.Face.alter_alter id (Session.Face.shown panel.fitting) (Session.Face.focus fitted) panel.face.registry)
  exact Face.ext (Registry.Face.ext (both _) rfl rfl rfl) rfl rfl rfl

end Single

@[simp] theorem face_log (panel : Panel) (record : LogRecord) : (panel.log record).face = panel.face := rfl

theorem live_face {panel : Panel} {id : String} {session : Session} (live : panel.registry.session? id = some session) :
    panel.face.registry.sessions.find? id = some session.face := by
  rw [show panel.face.registry = panel.registry.face from rfl, Registry.find?_face, live]
  rfl

theorem active_cases {panel : Panel} (valid : panel.registry.WellFormed) :
    (panel.registry.activeSession? = none ∧ panel.face.registry.active = none) ∨
      ∃ id session, panel.registry.activeSession? = some session ∧ panel.face.registry.active = some id ∧
        panel.registry.session? id = some session := by
  cases found : panel.registry.activeSession? with
  | some session =>
    obtain ⟨id, active, live⟩ := Registry.live_of_active found
    exact .inr ⟨id, session, rfl, active, live⟩
  | none =>
    refine .inl ⟨rfl, ?_⟩
    by_contra some
    obtain ⟨id, chosen⟩ := Option.ne_none_iff_exists'.mp some
    obtain ⟨session, active, _⟩ := valid.active_live chosen
    cases found.symm.trans active

theorem focusActive_face {panel : Panel} (valid : panel.registry.WellFormed) :
    (after focusActive panel).face = panel.face.spotlight (ending focusActive panel).failure.isNone := by
  unfold focusActive Face.spotlight
  rw [after_get_bind, ending_get_bind]
  rcases active_cases valid with ⟨found, active⟩ | ⟨id, session, found, active, live⟩
  · rw [found, active]
    rfl
  · rw [found, active]
    have shown := showView_face valid live rfl rfl true
    have sound : (panel.changeRegistry (·.showView session true)).registry.WellFormed :=
      (Registry.showView_sound panel.registry session true valid).1
    obtain ⟨current, now, same⟩ :=
      Registry.live_of_hearing (showView_hearing panel.registry session true) live
    have focused := refit_focus_face sound now same none rfl
    refine focused.trans ?_
    rw [shown]
    have both (fitted : Bool) :=
      Registry.Face.alter_alter id (Session.Face.shown true) (Session.Face.focus fitted) panel.face.registry
    exact Face.ext (both _) rfl rfl rfl

theorem setVisible_eq (panel : Panel) (visible : Bool) :
    panel.setVisible visible = { panel with
      isOpen := visible
      fitting := visible
      registry := (panel.registry.ordered.foldl (fun registry session =>
        registry.showView session (visible && panel.registry.active == some session.id)) panel.registry).note
        (.panelShown visible panel.height) } := by
  have through (sessions : List Session) (choose : Session → Bool) (panel : Panel) :
      sessions.foldl (fun panel session => panel.changeRegistry (·.showView session (choose session))) panel =
        panel.changeRegistry fun registry =>
          sessions.foldl (fun registry session => registry.showView session (choose session)) registry := by
    induction sessions generalizing panel with
    | nil => rfl
    | cons session rest ih => exact ih _
  unfold setVisible
  dsimp only
  rw [through]
  rfl

private theorem setVisible_face {panel : Panel} (valid : panel.registry.WellFormed) (visible : Bool) :
    (panel.setVisible visible).face = panel.face.exhibit visible := by
  let choose (id : String) : Bool := visible && panel.registry.active == some id
  have faces : (panel.registry.ordered.foldl (fun registry session =>
      registry.showView session (choose session.id)) panel.registry).face =
      panel.registry.face.each fun name => Session.Face.shown (choose name) := by
    apply Registry.fold_face
    case sound => exact fun registry session => Registry.showView_sound registry session _
    case turned => exact fun _ _ valid live => Registry.showView_face valid live rfl rfl _
    case elsewhere => exact fun _ _ _ valid live other => Registry.showView_elsewhere valid live rfl _ other
    case valid => exact valid
  rw [setVisible_eq]
  exact Face.ext faces rfl rfl rfl

theorem applyTheme_face {panel : Panel} (valid : panel.registry.WellFormed) (scheme : String) :
    (panel.applyTheme scheme).face = panel.face.themed (Theme.ofScheme scheme) := by
  let registry := { panel.registry with factory := { panel.registry.factory with theme := Theme.ofScheme scheme } }
  have remade : Registry.Sound panel.registry registry := .of_seen rfl rfl (fun valid => valid.chosen) id
  have faces : (registry.ordered.foldl (fun registry session =>
      registry.changeSurface session (·.setTheme (Theme.ofScheme scheme))) registry).face =
      registry.face.each fun _ face => { face with theme := Theme.ofScheme scheme } := by
    apply Registry.fold_face
    case sound => exact fun registry session => Registry.changeSurface_sound registry session _
    case turned => exact fun _ _ valid live => Registry.changeSurface_face valid live rfl _ _ rfl
    case elsewhere => exact fun _ _ _ valid live other => Registry.session?_elsewhere valid live rfl _ other
    case valid => exact (remade valid).1
  exact Face.ext faces rfl rfl rfl

theorem hide_face {panel : Panel} (valid : panel.registry.WellFormed) (shown : panel.isOpen = true) :
    panel.hide.face = panel.face.unfocus.exhibit false := by
  unfold hide Face.unfocus
  rw [if_pos shown]
  dsimp only
  rcases active_cases valid with ⟨found, active⟩ | ⟨id, session, found, active, live⟩
  · rw [found, active]
    exact setVisible_face valid false
  · rw [found, active]
    have blurred := Registry.changeSurface_face valid live rfl Surface.blur (fun face => { face with focused := false }) rfl
    have sound : (panel.changeRegistry (·.changeSurface session Surface.blur)).registry.WellFormed :=
      (Registry.changeSurface_sound panel.registry session Surface.blur valid).1
    have faces : (panel.changeRegistry (·.changeSurface session Surface.blur)).face =
        panel.face.onRegistry (·.alter id fun face => { face with focused := false }) := Face.ext blurred rfl rfl rfl
    exact (setVisible_face sound false).trans (congrArg _ faces)

theorem click_face {panel : Panel} (valid : panel.registry.WellFormed) (id : String) :
    (after (click id) panel).face = panel.face ∨
      (panel.face.registry.active ≠ some id ∧ (∃ session, panel.registry.session? id = some session) ∧
        ∃ fitted, (after (click id) panel).face = (panel.face.aside panel.face.registry.active).select id fitted) := by
  have drawn (panel : Panel) : (after (do activate id; modify drawTabs; return true : PanelStep Bool) panel).face =
      (after (activate id) panel).face :=
    after_bind_view Panel.face (fun _ _ => rfl) panel
  unfold click
  rw [after_get_bind]
  split
  · exact .inl rfl
  next other =>
    simp only [Bool.or_eq_true, beq_iff_eq, Bool.not_eq_true', not_or, Bool.not_eq_false] at other
    obtain ⟨session, live⟩ := Assoc.has_iff.mp other.2
    refine .inr ⟨other.1, ⟨session, live⟩, ?_⟩
    rcases active_cases valid with ⟨found, active⟩ | ⟨name, previous, found, active, there⟩
    · rw [found, active]
      exact ⟨_, (drawn panel).trans (activate_face valid live)⟩
    · rw [found, active]
      have dimmed := deactivate_face valid there rfl rfl
      have sound : (panel.changeRegistry (deactivate previous)).registry.WellFormed :=
        (Quiet.rules.deactivate previous panel valid).1
      obtain ⟨current, now, _⟩ := Registry.live_of_hearing (Quiet.rules.deactivate previous panel valid).2 live
      have faces := activate_face sound now
      rw [dimmed] at faces
      exact ⟨_, (drawn _).trans faces⟩

theorem reveal_face {panel : Panel} (valid : panel.registry.WellFormed) :
    (after reveal panel).face = (panel.face.exhibit true).spotlight (ending reveal panel).failure.isNone := by
  have faces := focusActive_face (Quiet.rules.setVisible true panel valid).1
  have failure : (ending reveal panel).failure = (ending focusActive (panel.setVisible true)).failure := by
    unfold reveal
    rw [ending_modify_bind, ending_bind]
    unfold ending
    cases focusActive (panel.setVisible true) <;> rfl
  rw [failure, ← setVisible_face valid, ← faces]
  unfold reveal
  rw [after_modify_bind, after_bind_view Panel.face fun _ _ => rfl]

theorem revealFirst_face {panel : Panel} (valid : panel.registry.WellFormed) :
    panel.revealFirst.face = panel.face.exhibit true := by
  rw [revealFirst, logOpened, face_log, setVisible_face valid]

theorem hideEmpty_face {panel : Panel} (valid : panel.registry.WellFormed) :
    panel.hideEmpty.face = panel.face.exhibit false := by
  rw [hideEmpty, face_log, setVisible_face valid]

/-- How the closing of a tab may end. -/
inductive Closing (id : String) (panel : Panel) : Face → Prop
  | absent (nobody : panel.registry.session? id = none) : Closing id panel (panel.face.undraft id)
  | emptied (last : (panel.face.closed id).registry.sessions = []) :
    Closing id panel ((panel.face.closed id).exhibit false)
  | closed (other : panel.face.registry.active ≠ some id) (left : (panel.face.closed id).registry.sessions ≠ []) :
    Closing id panel (panel.face.closed id)
  | succeeded {successor : String} (fitted : Bool) (active : panel.face.registry.active = some id)
      (live : successor ∈ (panel.face.closed id).registry.sessions.keys) :
      Closing id panel ((panel.face.closed id).select successor fitted)

theorem Closing.of_removal {panel gone : Panel} {id : String} {removal : Removal} (sound : gone.registry.WellFormed)
    (faces : gone.face = panel.face.closed id) (empty : removal.nowEmpty = gone.registry.isEmpty)
    (active : removal.wasActive = (panel.registry.active == some id)) :
    Closing id panel (after (do
      if removal.nowEmpty then modify hideEmpty
      else if removal.wasActive then
        if let some successor := (← get).registry.mostRecent? then activate successor.id
      modify drawTabs
      return removal : PanelStep Removal) gone).face := by
  have drawn (panel : Panel) : (after (do modify drawTabs; return removal : PanelStep Removal) panel).face = panel.face :=
    rfl
  have sessions : (panel.face.closed id).registry.sessions = gone.registry.face.sessions :=
    congrArg (·.registry.sessions) faces.symm
  have left : (panel.face.closed id).registry.sessions = [] ↔ gone.registry.sessions = [] := by
    rw [sessions, Registry.face, List.map_eq_nil_iff]
  rw [empty, active]
  split
  next none_left =>
    rw [after_modify_bind, drawn, hideEmpty_face sound, faces]
    exact .emptied (left.mpr (List.isEmpty_iff.mp none_left))
  next some_left =>
    have rest : gone.registry.sessions ≠ [] := mt List.isEmpty_iff.mpr some_left
    split
    next was =>
      have some_values : gone.registry.sessions.values ≠ [] := fun none_left => rest (List.map_eq_nil_iff.mp none_left)
      obtain ⟨successor, member, newest⟩ := Registry.mostRecent?_mem some_values
      have live := sound.live_of_mem member
      have selected := activate_face sound live
      rw [faces] at selected
      rw [after_get_bind, newest]
      refine Eq.mpr (congrArg _ ((after_bind_view Panel.face (fun _ => drawn) gone).trans selected)) ?_
      refine .succeeded _ (beq_iff_eq.mp was) ?_
      rw [sessions, Registry.keys_face]
      exact List.mem_map_of_mem (Assoc.mem_of_find? live)
    next other =>
      rw [drawn, faces]
      exact .closed (mt beq_iff_eq.mpr other) (mt left.mp rest)

theorem closeTab_ends {panel : Panel} (valid : panel.registry.WellFormed) (id : String) :
    Closing id panel (after (closeTab id {}) panel).face := by
  obtain ⟨begun, start, registry, undrafted⟩ : ∃ begun : Panel,
      (if panel.editing.any (·.session == id) then { panel with editing := none } else panel) = begun ∧
        begun.registry = panel.registry ∧ begun.face = panel.face.undraft id := by
    have named : panel.editing.any (·.session == id) = true ↔ panel.face.draft = some id := by
      unfold face
      cases panel.editing <;> simp
    refine ⟨_, rfl, by split <;> rfl, ?_⟩
    split
    next here => exact Face.ext rfl rfl rfl (if_pos (named.mp here)).symm
    next other => exact Face.ext rfl rfl rfl (if_neg (mt named.mpr other)).symm
  unfold closeTab
  rw [after_modify_bind, start, after_bind]
  cases found : panel.registry.session? id with
  | none =>
    have stays : onRegistry (Registry.remove id {}) begun =
        .ok { removed := false, nowEmpty := panel.registry.isEmpty } begun := by
      rw [onRegistry, registry, Registry.remove_absent found, ← registry]
    rw [stays]
    exact undrafted ▸ .absent found
  | some session =>
    obtain ⟨removal, last, removed, told, empty, active, same⟩ : ∃ removal last,
        Registry.remove id {} panel.registry = .ok removal last ∧ removal.removed = true ∧
          removal.nowEmpty = last.isEmpty ∧ removal.wasActive = (panel.registry.active == some id) ∧
          last.stance = (Registry.apart id session panel.registry).stance := by
      obtain ⟨record, removed⟩ := Registry.remove_live found
      exact ⟨_, _, removed, rfl, rfl, rfl, rfl⟩
    have taken : onRegistry (Registry.remove id {}) begun = .ok removal { begun with registry := last } := by
      rw [onRegistry, registry, removed]
    rw [taken]
    dsimp only
    rw [if_pos told]
    refine Closing.of_removal ?_ ?_ empty active
    · exact (Registry.apart_sound found valid).1.of_stance same
    · have isOpen := congrArg Face.isOpen undrafted
      have fitting := congrArg Face.fitting undrafted
      have draft := congrArg Face.draft undrafted
      exact Face.ext ((Registry.face_of_stance same).trans (Registry.apart_face valid found)) isOpen fitting draft

section Settling
variable {panel : Panel} {id : String} {session current other : Session}

private theorem deactivate_gone (unique : panel.registry.sessions.keys.Nodup)
    (gone : ∀ name current, panel.registry.session? name = some current → current.serial ≠ other.serial) :
    (panel.changeRegistry (deactivate other)).face = panel.face := by
  have blurred : (panel.registry.changeSurface other Surface.blur).sessions = panel.registry.sessions :=
    Registry.sessions_change_gone unique gone _
  have both (f : Session → Session) :
      ((panel.registry.changeSurface other Surface.blur).change other.serial f).sessions = panel.registry.sessions := by
    refine (Registry.sessions_change_gone ?_ ?_ f).trans blurred
    · rw [blurred]
      exact unique
    · intro name current live
      rw [Registry.session?, blurred] at live
      exact gone name current live
  have same : (deactivate other panel.registry).sessions = panel.registry.sessions := by
    unfold deactivate Registry.showView
    dsimp only
    split
    · exact blurred
    · exact both fun old => { old with view := other.view.setVisible false }
  have rest : (deactivate other panel.registry).active = panel.registry.active ∧
      (deactivate other panel.registry).counter = panel.registry.counter ∧
      (deactivate other panel.registry).factory = panel.registry.factory := by
    unfold deactivate Registry.showView
    dsimp only
    split <;> exact ⟨rfl, rfl, rfl⟩
  have sessions : (deactivate other panel.registry).face.sessions = panel.registry.face.sessions := by
    rw [Registry.face, same]
    rfl
  exact Face.ext (Registry.Face.ext sessions rest.1 rest.2.1 (congrArg SurfaceFactory.theme rest.2.2)) rfl rfl rfl

private theorem deactivate_elsewhere {registry : Registry} (live : registry.session? id = some session)
    (different : session.serial ≠ other.serial) : (deactivate other registry).session? id = some session := by
  have kept (registry : Registry) (f : Session → Session) (live : registry.session? id = some session) :
      (registry.change other.serial f).session? id = some session := by
    rw [Registry.session?_change, live]
    simp [Registry.changed, different]
  unfold deactivate Registry.showView
  dsimp only
  split
  · exact kept _ _ live
  · exact (Registry.session?_note _ _ _).trans (kept _ _ (kept _ _ live))

def setAside (previous : Option Session) (session : Session) (panel : Panel) : Panel :=
  match previous with
  | none => panel
  | some previous =>
    if previous.id != session.id then
      panel.changeRegistry fun registry => deactivate ((registry.bySerial? previous.serial).getD previous) registry
    else panel

private theorem putAside_face (valid : panel.registry.WellFormed) (live : panel.registry.session? id = some session)
    (named : ∀ name current, panel.registry.session? name = some current → current.serial = other.serial →
      current.id = other.id) (different : other.id ≠ session.id) :
    ∃ before, (deactivate ((panel.registry.bySerial? other.serial).getD other) panel.registry).session? id =
        some session ∧
      (panel.changeRegistry fun registry =>
        deactivate ((registry.bySerial? other.serial).getD other) registry).face = panel.face.aside before ∧
      ∀ name current, panel.registry.session? name = some current → other.serial = current.serial →
        before = some name := by
  by_cases present : ∃ name current, panel.registry.session? name = some current ∧ current.serial = other.serial
  · obtain ⟨name, current, there, same⟩ := present
    have found : (panel.registry.bySerial? other.serial).getD other = current := by
      rw [← same, valid.bySerial_of_live there, Option.getD_some]
    have apart : session.serial ≠ current.serial := by
      intro equal
      have alike := named name current there same
      rw [valid.named name current there, ← valid.same_id live there equal, ← valid.named id session live] at alike
      exact different alike.symm
    refine ⟨some name, ?_, ?_, fun another next stands equal => ?_⟩
    · rw [found]
      exact deactivate_elsewhere live apart
    · have faces := deactivate_face valid there rfl rfl
      rw [← found] at faces
      exact faces
    · exact congrArg some (valid.same_id there stands (same.trans equal))
  · have number : ((panel.registry.bySerial? other.serial).getD other).serial = other.serial := by
      cases found : panel.registry.bySerial? other.serial with
      | none => rfl
      | some gone => exact (Registry.mem_of_bySerial found).2
    have gone : ∀ name current, panel.registry.session? name = some current →
        current.serial ≠ ((panel.registry.bySerial? other.serial).getD other).serial :=
      fun name current there same => present ⟨name, current, there, same.trans number⟩
    refine ⟨none, deactivate_elsewhere live (gone id session live), deactivate_gone valid.keys gone, ?_⟩
    exact fun name current there same => absurd ⟨name, current, there, same.symm⟩ present

private theorem setAside_face (valid : panel.registry.WellFormed) (live : panel.registry.session? id = some session)
    {previous : Option Session} (known : ∀ old, previous = some old → ∀ name current,
      panel.registry.session? name = some current → current.serial = old.serial → current.id = old.id) :
    ∃ before, Quiet panel (panel.setAside previous session) ∧
      (panel.setAside previous session).registry.session? id = some session ∧
      (panel.setAside previous session).face = panel.face.aside before ∧
      ∀ name current, panel.registry.session? name = some current → name ≠ id →
        previous.map Session.serial = some current.serial → before = some name := by
  cases previous with
  | none => exact ⟨none, .refl panel, live, rfl, fun _ _ _ _ same => nomatch same⟩
  | some old =>
    have named := known old rfl
    unfold setAside
    dsimp only
    split
    next different =>
      obtain ⟨before, stays, faces, recalls⟩ := putAside_face valid live named (bne_iff_ne.mp different)
      exact ⟨before, Quiet.rules.deactivate _ panel, stays, faces,
        fun name current there _ same => recalls name current there (Option.some.inj same)⟩
    next shared =>
      refine ⟨none, .refl panel, live, rfl, fun name current there other same => ?_⟩
      rw [bne_iff_ne, not_not] at shared
      have alike := named name current there (Option.some.inj same).symm
      rw [valid.named name current there, shared, valid.named id session live] at alike
      exact absurd alike other

/-- Whoever is remembered is put aside if it is live, and the new session is brought to the front. -/
theorem settleTab_face (valid : panel.registry.WellFormed) (live : panel.registry.session? id = some session)
    (active : panel.registry.active = some id) {previous : Option Session}
    (known : ∀ old, previous = some old → ∀ name current, panel.registry.session? name = some current →
      current.serial = old.serial → current.id = old.id) :
    ∃ before, (panel.settleTab previous session).face = (panel.face.aside before).select id true ∧
      ∀ name current, panel.registry.session? name = some current → name ≠ id →
        previous.map Session.serial = some current.serial → before = some name := by
  obtain ⟨before, quiet, stays, faces, recalls⟩ := setAside_face valid live known
  refine ⟨before, ?_, recalls⟩
  have settled : (panel.settleTab previous session).face =
      ((panel.setAside previous session).changeRegistry fun registry =>
        (registry.showView session (panel.setAside previous session).fitting).changeSurface session Surface.focus).face := by
    cases previous <;> rfl
  generalize panel.setAside previous session = middle at quiet stays faces settled
  have sound := (quiet valid).1
  have chosen : middle.face.registry.active = some id := by
    rw [faces, Face.active_aside]
    exact active
  have shown := Registry.showView_face sound stays rfl rfl middle.fitting
  obtain ⟨current, now, same⟩ :=
    Registry.live_of_hearing (showView_hearing middle.registry session middle.fitting) stays
  have focused := Registry.changeSurface_face (Registry.showView_sound middle.registry session middle.fitting sound).1 now
    same Surface.focus (Session.Face.focus true) rfl
  rw [shown, Registry.Face.alter_alter] at focused
  rw [settled, ← faces]
  exact Face.ext (focused.trans (Registry.Face.ext rfl chosen rfl rfl)) rfl rfl rfl

end Settling

theorem tellAll_face {panel : Panel} (valid : panel.registry.WellFormed) (event : String) (payload : Event.Payload)
    (subscribers : List Subscriber) : (tellAll event payload subscribers panel).face = panel.face := by
  have rest : (tellAll event payload subscribers panel).isOpen = panel.isOpen ∧
      (tellAll event payload subscribers panel).fitting = panel.fitting ∧
      (tellAll event payload subscribers panel).stance.draft = panel.stance.draft := by
    clear valid
    induction subscribers generalizing panel with
    | nil => exact ⟨rfl, rfl, rfl⟩
    | cons who others ih =>
      obtain ⟨next, goOn, same⟩ := tellAll_cons event payload who others panel
      rw [goOn]
      obtain ⟨isOpen, fitting, draft⟩ := @ih next
      have kept := congrArg Stance.draft same
      exact ⟨isOpen.trans (congrArg Stance.isOpen same), fitting.trans (congrArg Stance.fitting same), draft.trans kept⟩
  exact Face.ext (tellAll_still event payload subscribers panel valid).2 rest.1 rest.2.1 rest.2.2

end Panel

end TerminalDock
