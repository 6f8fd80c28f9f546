import TerminalDock.Proofs.PanelRules

/-! What the requests to a panel leave alone. Most of them concern neither the focus nor what is shown, and
only the making and the removal of sessions touch what the sessions hear. -/

namespace TerminalDock.Panel
open Proofs.Steps

/-- A panel without its height, its names, and the sizes and contents of terminals. -/
structure Stance where
  registry : Registry.Stance
  isOpen : Bool
  fitting : Bool
  draft : Option String

def stance (panel : Panel) : Stance where
  registry := panel.registry.stance
  isOpen := panel.isOpen
  fitting := panel.fitting
  draft := panel.editing.map RenameEdit.session

/-- A step that concerns neither the focus nor what is shown. -/
def Mild (first last : Panel) : Prop :=
  first.registry.WellFormed → last.stance = first.stance

namespace Mild

protected theorem refl (panel : Panel) : Mild panel panel := fun _ => rfl

theorem of_stance {first last : Panel} (same : last.stance = first.stance) : Mild first last := fun _ => same

protected theorem trans {first middle last : Panel} (before : Mild first middle) (later : Mild middle last) :
    Mild first last := by
  intro valid
  have same := before valid
  exact (later (valid.of_stance (congrArg Stance.registry same))).trans same

end Mild

private theorem stance_of_registry (panel : Panel) {registry : Registry} (same : registry.stance = panel.registry.stance) :
    { panel with registry := registry }.stance = panel.stance := by
  simp only [stance, same]

private theorem changeRegistry_mild {f : Registry → Registry} (same : ∀ registry, (f registry).stance = registry.stance)
    (panel : Panel) : Mild panel (panel.changeRegistry f) :=
  .of_stance (stance_of_registry panel (same panel.registry))

theorem recordGeometry_stance (registry : Registry) (id : String) (size : Geometry) :
    (registry.recordGeometry id size).stance = registry.stance := by
  unfold Registry.recordGeometry
  split
  · rfl
  · refine Registry.stance_change ?_ _ _
    exact fun _ => rfl

private theorem notifySize_stance (session : Session) (size : Geometry) (registry : Registry) :
    (notifySize session size registry).stance = registry.stance :=
  (Registry.stance_submit _ _).trans (recordGeometry_stance registry session.id size)

private theorem onSurface_mild {α : Type} {panel : Panel} {session : Session} {act : SurfaceStep α}
    (known : panel.registry.WellFormed → session ∈ panel.registry.everyone) (steady : Surface.Steady act) :
    Mild panel (after (onRegistry (Registry.onSurface session act)) panel) := by
  intro valid
  rw [after_onRegistry, Registry.after_onSurface]
  refine stance_of_registry panel (Registry.stance_change_of ?_)
  intro other member same
  rw [valid.same_session member (known valid) same]
  exact congrArg (fun poise => { session.stance with surface := poise }) (steady session.surface)

theorem Mild.rules : HeightRules Mild where
  refl := .refl
  trans before later := before.trans later
  log _ _ := .of_stance rfl
  draw _ := .of_stance rfl
  frames _ _ := .of_stance rfl
  fit active width height := by
    refine onSurface_mild (fun _ => ?_) (Surface.fit_steady width height)
    obtain ⟨_, _, live⟩ := Registry.live_of_active active
    exact Registry.everyone_of_live live
  told session size := changeRegistry_mild (notifySize_stance session size)
  height _ _ := .of_stance rfl
  keep _ := .of_stance rfl
  drag _ _ := .of_stance rfl

theorem rename_stance (id name : String) (registry : Registry) :
    (after (Registry.rename id name) registry).stance = registry.stance := by
  unfold Registry.rename
  rw [after_get_bind]
  split
  · rfl
  next session _ =>
    dsimp only
    split
    · rfl
    · rw [after_modify_bind, after_pure, Registry.stance_log]
      refine Registry.stance_change ?_ _ _
      exact fun _ => rfl

private theorem rename_mild (id name : String) : Moves Mild (onRegistry (Registry.rename id name)) := by
  intro panel
  rw [after_onRegistry]
  exact changeRegistry_mild (rename_stance id name) panel

/-- A step after which at most the rename in progress is another one: none, or that of `who`. -/
def Drafts (who : Option String) (first last : Panel) : Prop :=
  first.registry.WellFormed → ∃ draft, (draft = none ∨ draft = first.stance.draft ∨ draft = who) ∧
    last.stance = { first.stance with draft := draft }

namespace Drafts
variable {who : Option String}

theorem of_mild {first last : Panel} (mild : Mild first last) : Drafts who first last :=
  fun valid => ⟨first.stance.draft, .inr (.inl rfl), mild valid⟩

protected theorem trans {first middle last : Panel} (before : Drafts who first middle) (later : Drafts who middle last) :
    Drafts who first last := by
  intro valid
  obtain ⟨draft, early, same⟩ := before valid
  have kept : middle.registry.stance = first.registry.stance := congrArg Stance.registry same
  obtain ⟨next, late, still⟩ := later (valid.of_stance kept)
  rw [same] at late still
  refine ⟨next, ?_, still⟩
  rcases late with none | old | new
  · exact .inl none
  · exact old ▸ early
  · exact .inr (.inr new)

protected theorem rules (who : Option String) : Rules (Drafts who) where
  refl panel := of_mild (.refl panel)
  trans before later := before.trans later
  log _ _ := of_mild (.of_stance rfl)
  draw _ := of_mild (.of_stance rfl)

theorem ended (who : Option String) (panel : Panel) : Drafts who panel { panel with editing := none } :=
  fun _ => ⟨none, .inl rfl, rfl⟩

theorem renamed (who : Option String) (id name : String) : Moves (Drafts who) (onRegistry (Registry.rename id name)) :=
  fun panel => of_mild (rename_mild id name panel)

end Drafts

private theorem beginRename_drafts (id : String) (panel : Panel) :
    Drafts ((panel.registry.session? id).map fun _ => id) panel (after (beginRename id) panel) := by
  cases live : panel.registry.session? id with
  | none =>
    unfold beginRename
    rw [after_get_bind, live]
    exact .of_mild (.refl panel)
  | some session =>
    refine (Drafts.rules (some id)).beginRename (.ended (some id)) (.renamed (some id)) ?_
    exact fun edit named panel _ => ⟨some id, .inr (.inr rfl), named ▸ rfl⟩

private theorem editRename_mild (text : String) (panel : Panel) : Mild panel (panel.editRename text) := by
  unfold editRename
  split
  · exact .refl panel
  next edit editing =>
    refine .of_stance ?_
    rw [stance, stance, editing]
    rfl

private theorem typed_mild (bytes : List UInt8) (session : Session) (panel : Panel) :
    Mild panel (panel.changeRegistry (Registry.typed session bytes)) :=
  changeRegistry_mild (Registry.typed_view Registry.stance Registry.stance_submit session bytes) panel

private theorem owner_known {panel : Panel} {id : String} {session : Session}
    (owner : panel.surfaceOwner? id = some session) :
    session ∈ panel.registry.everyone := by
  unfold surfaceOwner? at owner
  split at owner
  next live => cases owner; exact Registry.everyone_of_live live
  next => exact List.mem_append_right _ (List.mem_of_find?_eq_some owner)

theorem textOf_mild (id : String) : Moves Mild (textOf id) := by
  refine Moves.get_bind fun panel => ?_
  split
  · exact .refl panel
  next session owner =>
    have asked : Mild panel (panel.changeRegistry
      (·.changeSurface session fun _ => after Surface.text session.surface)) := by
      intro valid
      refine stance_of_registry panel (Registry.stance_change_of ?_)
      intro other member same
      rw [valid.same_session member (owner_known owner) same]
      exact congrArg (fun poise => { session.stance with surface := poise }) (Surface.text_steady session.surface)
    unfold after at asked
    split
    next answer surface answered => rw [answered] at asked; exact asked
    next failure surface failed => rw [failed] at asked; exact asked

private theorem resizeView_mild (id : String) (width height : Int) (panel : Panel) :
    Mild panel (match panel.surfaceOwner? id with
      | none => panel
      | some session => panel.changeRegistry (·.change session.serial fun old =>
          { old with view := old.view.setSize width height })) := by
  split
  · exact .refl panel
  · refine changeRegistry_mild (fun registry => Registry.stance_change ?_ registry _) panel
    exact fun _ => rfl

def drafts? {β : Type} : Request β → Bool
  | .beginRename _ | .keyRename _ | .blurRename | .cancelRename => true
  | _ => false

/-- The requests that concern neither the sessions there are, nor the focus, nor what is shown. -/
def mildly {β : Type} : Request β → Bool
  | .hide | .closeSession _ | .click _ | .focusActive | .remove _ | .setActive _ | .markExited _ | .emit ..
  | .surface .. | .applyTheme _ | .beginRename _ | .keyRename _ | .blurRename | .cancelRename => false
  | _ => true

theorem perform_mild {β : Type} {request : Request β} {act : PanelStep Answer}
    (found : perform? request = some act) (gentle : mildly request = true) : Moves Mild act := by
  have answering {α : Type} {step : PanelStep α} (moves : Moves Mild step) (answer : α → Answer) :
      Moves Mild (do return answer (← step)) := Mild.rules.answer moves answer
  have changing {change : Panel → Panel} (moves : ∀ panel, Mild panel (change panel)) :
      Moves Mild (quietly change) := moves
  cases request with
  | beginDrag y => cases found; exact changing fun _ => .of_stance rfl
  | dragTo y => cases found; exact answering (Mild.rules.dragTo y) _
  | endDrag => cases found; exact answering Mild.rules.endDrag _
  | setHeight height => cases found; exact answering (Mild.rules.setHeight height) _
  | layoutChanged => cases found; exact answering Mild.rules.layoutChanged _
  | editRename text => cases found; exact changing (editRename_mild text)
  | refit id notify => cases found; exact answering (Mild.rules.refit id notify) _
  | frame => cases found; exact answering Mild.rules.frame _
  | rename id name => cases found; exact answering (rename_mild id name) _
  | get id => cases found; exact Mild.refl
  | mostRecent => cases found; exact Mild.refl
  | contains id => cases found; exact Mild.refl
  | list => cases found; exact Mild.refl
  | recordGeometry id size =>
    cases found
    exact changing (changeRegistry_mild fun registry => recordGeometry_stance registry id size)
  | type id bytes => cases found; exact answering (Mild.rules.typeInto id (typed_mild bytes)) _
  | text id => cases found; exact textOf_mild id
  | listeners id => cases found; exact Mild.refl
  | resizeView id width height => cases found; exact changing (resizeView_mild id width height)
  | changeDirectory cwd => cases found; exact changing fun _ => .of_stance rfl
  | hide | closeSession _ | click _ | focusActive | remove _ | setActive _ | markExited _ | emit _ _ | surface _ _
  | applyTheme _ | beginRename _ | keyRename _ | blurRename | cancelRename => cases gentle
  | openPanel | toggle | add _ | shutdown | addTab _ | create _ | closeAll | adjust _ | release | background _ _
  | gather _ | drain => cases found

theorem perform_drafts {β : Type} {request : Request β} {act : PanelStep Answer}
    (found : perform? request = some act) (drafting : drafts? request = true) (panel : Panel) :
    ∃ who, (∀ id, who = some id → panel.registry.has id = true) ∧ Drafts who panel (after act panel) := by
  have answering {α : Type} {step : PanelStep α} {who : Option String} (answer : α → Answer)
      (drafts : Drafts who panel (after step panel)) :
      Drafts who panel (after (do return answer (← step)) panel) :=
    (Drafts.rules who).chain drafts fun _ => (Drafts.rules who).refl
  cases request with
  | beginRename id =>
    cases found
    refine ⟨_, ?_, answering .edit (beginRename_drafts id panel)⟩
    intro name who
    obtain ⟨session, live, rfl⟩ := Option.map_eq_some_iff.mp who
    exact Assoc.has_iff.mpr ⟨session, live⟩
  | keyRename key =>
    cases found
    exact ⟨none, nofun, answering _ ((Drafts.rules none).keyRename (.ended none) (.renamed none) key panel)⟩
  | blurRename =>
    cases found
    exact ⟨none, nofun, answering _ ((Drafts.rules none).commitRename (.ended none) (.renamed none) panel)⟩
  | cancelRename => cases found; exact ⟨none, nofun, (Drafts.rules none).cancelRename (.ended none) panel⟩
  | _ => cases drafting

/-- A step that leaves alone what the sessions hear. -/
def Quiet (first last : Panel) : Prop :=
  first.registry.WellFormed → last.registry.WellFormed ∧ last.registry.hearing = first.registry.hearing

theorem Mild.quiet {first last : Panel} (mild : Mild first last) : Quiet first last := by
  intro valid
  have same : last.registry.stance = first.registry.stance := congrArg Stance.registry (mild valid)
  exact ⟨valid.of_stance same, Registry.hearing_of_stance same⟩

namespace Quiet

protected theorem refl (panel : Panel) : Quiet panel panel := fun valid => ⟨valid, rfl⟩

protected theorem trans {first middle last : Panel} (before : Quiet first middle) (later : Quiet middle last) :
    Quiet first last := by
  intro valid
  obtain ⟨valid, same⟩ := before valid
  obtain ⟨valid, still⟩ := later valid
  exact ⟨valid, still.trans same⟩

theorem of_stance {first last : Panel} (same : last.stance = first.stance) : Quiet first last :=
  (Mild.of_stance same).quiet

theorem note (effect : Effect) (panel : Panel) : Quiet panel (panel.note effect) := .of_stance rfl

private theorem of_drafts {who : Option String} {first last : Panel} (drafts : Drafts who first last) :
    Quiet first last := by
  intro valid
  obtain ⟨draft, _, same⟩ := drafts valid
  have kept : last.registry.stance = first.registry.stance := congrArg Stance.registry same
  exact ⟨valid.of_stance kept, Registry.hearing_of_stance kept⟩

theorem of_registry {f : Registry → Registry} (sound : ∀ registry, Registry.Sound registry (f registry))
    (same : ∀ registry, (f registry).hearing = registry.hearing) (panel : Panel) :
    Quiet panel (panel.changeRegistry f) :=
  fun valid => ⟨(sound panel.registry valid).1, same panel.registry⟩

end Quiet

theorem showView_hearing (registry : Registry) (session : Session) (visible : Bool) :
    (registry.showView session visible).hearing = registry.hearing := by
  unfold Registry.showView
  dsimp only
  split
  · rfl
  · have unheard : ∀ old : Session, ({ old with view := session.view.setVisible visible } : Session).account = old.account :=
      fun _ => rfl
    exact Registry.hearing_change unheard registry session.serial

private theorem showView_quiet (session : Session) (visible : Bool) (panel : Panel) :
    Quiet panel (panel.changeRegistry (·.showView session visible)) :=
  .of_registry (Registry.showView_sound · session visible) (showView_hearing · session visible) panel

private theorem changeSurface_quiet (f : Surface → Surface) (kept : ∀ surface, (f surface).written = surface.written)
    (session : Session) (panel : Panel) : Quiet panel (panel.changeRegistry (·.changeSurface session f)) := by
  refine .of_registry (Registry.changeSurface_sound · session f) (fun registry => ?_) panel
  refine Registry.hearing_change (fun old => ?_) registry session.serial
  exact congrArg (fun written => (old.tag, old.exited, written)) (kept old.surface)

private theorem setActive_quiet (id : String) : Moves Quiet (onRegistry (Registry.setActive id)) := by
  intro panel valid
  rw [after_onRegistry]
  refine ⟨(Registry.setActive_sound id panel.registry valid).1, ?_⟩
  unfold Registry.setActive
  rw [after_get_bind]
  split <;> rfl

theorem Quiet.rules : ShowRules Quiet where
  refl := .refl
  trans before later := before.trans later
  log _ _ := .note _ _
  draw _ := .note _ _
  frames _ _ := .of_stance rfl
  fit active width height := (Mild.rules.fit active width height).quiet
  told session size panel := (Mild.rules.told session size panel).quiet
  view := showView_quiet
  focus := changeSurface_quiet Surface.focus fun _ => rfl
  blur := changeSurface_quiet Surface.blur fun _ => rfl
  select := setActive_quiet
  opened _ _ valid := ⟨valid, rfl⟩
  shown _ _ := .note _ _

private theorem applyTheme_quiet (scheme : String) (panel : Panel) : Quiet panel (panel.applyTheme scheme) := by
  refine Quiet.rules.applyTheme scheme (Quiet.of_registry (fun registry => ?_) fun _ => rfl) (fun session => ?_) panel
  · exact .of_seen rfl rfl (fun valid => valid.chosen) id
  · exact changeSurface_quiet (·.setTheme (Theme.ofScheme scheme)) (fun _ => rfl) session

/-- The requests after which the sessions that there were go on to be told the same. -/
def quietly? {β : Type} : Request β → Bool
  | .closeSession _ | .remove _ | .markExited _ | .emit .. | .surface .. => false
  | _ => true

theorem perform_quiet {β : Type} {request : Request β} {act : PanelStep Answer}
    (found : perform? request = some act) (calm : quietly? request = true) : Moves Quiet act := by
  cases gentle : mildly request with
  | true => exact fun panel => (perform_mild found gentle panel).quiet
  | false =>
    cases request with
    | hide => cases found; exact Quiet.rules.hide
    | click id => cases found; exact Quiet.rules.answer (Quiet.rules.click id) _
    | focusActive => cases found; exact Quiet.rules.answer Quiet.rules.focusActive _
    | setActive id => cases found; exact Quiet.rules.answer (setActive_quiet id) _
    | applyTheme scheme => cases found; exact applyTheme_quiet scheme
    | beginRename _ | keyRename _ | blurRename | cancelRename =>
      intro panel
      obtain ⟨who, _, drafts⟩ := perform_drafts found rfl panel
      exact .of_drafts drafts
    | closeSession _ | remove _ | markExited _ | emit _ _ | surface _ _ => cases calm
    | _ => cases gentle

/-- A relation between panels that all quiet steps respect. -/
structure Lenient (relation : Panel → Panel → Prop) : Prop where
  trans : ∀ {first middle last : Panel}, relation first middle → relation middle last → relation first last
  quiet : ∀ {first last : Panel}, Quiet first last → relation first last

namespace Lenient
variable {relation : Panel → Panel → Prop}

theorem rules (lenient : Lenient relation) : ShowRules relation where
  refl panel := lenient.quiet (.refl panel)
  trans := lenient.trans
  log record panel := lenient.quiet (Quiet.rules.log record panel)
  draw panel := lenient.quiet (Quiet.rules.draw panel)
  frames jobs panel := lenient.quiet (Quiet.rules.frames jobs panel)
  fit active width height := lenient.quiet (Quiet.rules.fit active width height)
  told session size panel := lenient.quiet (Quiet.rules.told session size panel)
  view session visible panel := lenient.quiet (Quiet.rules.view session visible panel)
  focus session panel := lenient.quiet (Quiet.rules.focus session panel)
  blur session panel := lenient.quiet (Quiet.rules.blur session panel)
  select id panel := lenient.quiet (Quiet.rules.select id panel)
  opened visible panel := lenient.quiet (Quiet.rules.opened visible panel)
  shown visible panel := lenient.quiet (Quiet.rules.shown visible panel)

theorem closeTab (lenient : Lenient relation) {id : String}
    (removal : Moves relation (onRegistry (Registry.remove id {}))) : Moves relation (closeTab id {}) :=
  lenient.rules.closeTab (fun panel => lenient.quiet (.of_drafts (.ended none panel))) removal

end Lenient

/-- A step that mixes no sessions up. -/
def Sound (first last : Panel) : Prop :=
  Registry.Sound first.registry last.registry

theorem Quiet.sound {first last : Panel} (quiet : Quiet first last) : Sound first last := by
  intro valid
  obtain ⟨sound, same⟩ := quiet valid
  have tags : last.registry.seen Session.tag = first.registry.seen Session.tag :=
    Registry.seen_comp Prod.fst (congrArg Registry.Hearing.sessions same)
  have serial : last.registry.serial = first.registry.serial := congrArg Registry.Hearing.serial same
  exact ⟨sound, Nat.le_of_eq serial.symm, fun session member _ => Registry.everyone_of_seen tags member⟩

protected theorem Sound.refl (panel : Panel) : Sound panel panel :=
  Registry.Sound.refl panel.registry

protected theorem Sound.trans {first middle last : Panel} (before : Sound first middle) (later : Sound middle last) :
    Sound first last :=
  Registry.Sound.trans before later

theorem sound_lenient : Lenient Sound :=
  ⟨Sound.trans, Quiet.sound⟩

theorem onRegistry_sound {α : Type} {act : RegistryStep α} (sound : Moves Registry.Sound act) :
    Moves Sound (onRegistry act) := by
  intro panel
  rw [after_onRegistry]
  exact sound panel.registry

theorem tellAll_sound (event : String) (payload : Event.Payload) (subscribers : List Subscriber) (panel : Panel) :
    Sound panel (tellAll event payload subscribers panel) :=
  sound_lenient.rules.tellAll (fun subscriber => onRegistry_sound (Registry.sound_tells.moves subscriber payload)) event
    subscribers panel

private theorem askSurface_sound (id : String) (request : SurfaceRequest) : Moves Sound (askSurface id request) := by
  refine sound_lenient.rules.askSurface id request (fun session bytes panel => ?_) fun session f panel => ?_
  · exact (typed_mild bytes session panel).quiet.sound
  · exact Registry.changeSurface_sound panel.registry session f

theorem perform_sound {β : Type} {request : Request β} {act : PanelStep Answer}
    (found : perform? request = some act) : Moves Sound act := by
  cases calm : quietly? request with
  | true => exact fun panel => (perform_quiet found calm panel).sound
  | false =>
    cases request with
    | closeSession id =>
      cases found
      exact sound_lenient.rules.answer (sound_lenient.closeTab (onRegistry_sound (Registry.remove_sound id))) _
    | remove id =>
      cases found
      exact sound_lenient.rules.answer (onRegistry_sound (Registry.remove_sound id)) _
    | markExited id =>
      cases found
      exact fun panel => Registry.markExited_sound panel.registry id
    | emit event payload =>
      cases found
      exact fun panel => tellAll_sound event payload _ panel
    | surface id request =>
      cases found
      exact askSurface_sound id request
    | _ => cases calm

end TerminalDock.Panel
