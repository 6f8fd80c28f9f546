import TerminalDock.Proofs.PanelScale

/-! What a fit does to the scale of a panel. Either nothing is to be fitted, or it is told that there is no room, or the
active session gets the size that is proposed for the box of its view. -/

namespace TerminalDock
open Proofs.Steps

namespace Registry

/-- What is proposed for the active session in the box of its view. -/
def proposal (registry : Registry) : Option (Except Failure (Option Geometry)) :=
  registry.activeSession?.map fun session =>
    session.surface.proposed (.whole session.view.measure.1) (.whole session.view.measure.2)

private theorem activeSession?_change (registry : Registry) (serial : Nat) (f : Session → Session) :
    (registry.change serial f).activeSession? = registry.activeSession?.map (changed serial f) := by
  unfold activeSession?
  change registry.active.bind _ = _
  cases registry.active with
  | none => rfl
  | some id => exact session?_change registry serial f id

private theorem proposal_change {f : Session → Session} (view : ∀ session, (f session).view = session.view)
    (build : ∀ session, (f session).surface.build = session.surface.build) (registry : Registry) (serial : Nat) :
    (registry.change serial f).proposal = registry.proposal := by
  have same (session : Session) : (changed serial f session).view = session.view ∧
      (changed serial f session).surface.build = session.surface.build := by
    unfold changed
    split
    · exact ⟨view session, build session⟩
    · exact ⟨rfl, rfl⟩
  unfold proposal
  rw [activeSession?_change, Option.map_map]
  congr 1
  funext session
  obtain ⟨view, build⟩ := same session
  rw [Function.comp_apply, view, Surface.proposed_of_build build]

private theorem proposal_recordGeometry (registry : Registry) (id : String) (size : Geometry) :
    (registry.recordGeometry id size).proposal = registry.proposal := by
  unfold recordGeometry
  split
  · rfl
  · apply proposal_change
    case view | build => exact fun _ => rfl

theorem change_same {registry : Registry} {serial : Nat} {f : Session → Session}
    (same : ∀ session ∈ registry.everyone, session.serial = serial → f session = session) :
    registry.change serial f = registry := by
  have each : ∀ session ∈ registry.everyone, changed serial f session = session := by
    intro session member
    unfold changed
    split
    next here => exact same session member (beq_iff_eq.mp here)
    next => rfl
  have sessions : registry.sessions.map (fun entry => (entry.1, changed serial f entry.2)) = registry.sessions :=
    (List.map_congr_left fun entry member =>
      congrArg (Prod.mk entry.1) (each _ (List.mem_append_left _ (List.mem_map_of_mem member)))).trans (List.map_id _)
  have retired : registry.retired.map (changed serial f) = registry.retired :=
    (List.map_congr_left fun session member => each session (List.mem_append_right _ member)).trans (List.map_id _)
  change { registry with
    sessions := registry.sessions.map (fun entry => (entry.1, changed serial f entry.2))
    retired := registry.retired.map (changed serial f) } = registry
  rw [sessions, retired]

end Registry

namespace Panel

/-- What is noted of a fit that finds no room. -/
def skipped (id : String) : Effect :=
  .logged (.debug s!"[PANEL] fit skipped, view not laid out | id={id}")

/-- A fit found no room, or failed because it could not tell how much there is. -/
def Missed (ended : Ending Failure Panel) : Prop :=
  (∃ id, skipped id ∈ ended.state.registry.journal) ∨
    ∃ failure, ended.failure = some failure ∧ ended.state.registry.proposal = some (.error failure)

namespace Scale

/-- What a fit may do to the scale; what it went by shows in how it ended. -/
inductive Fit (ended : Ending Failure Panel) (notify : Bool) (scale : Scale) : Scale → Prop
  | idle (nothing : scale.fitting = false ∨ scale.registry.active = none) : Fit ended notify scale scale
  | missed (missed : Missed ended) : Fit ended notify scale scale
  | fitted {id : String} {size : Geometry} (active : scale.registry.active = some id) (shown : scale.fitting = true)
      (room : ended.state.registry.proposal = some (.ok (some size))) :
    Fit ended notify scale (scale.onRegistry (·.measure notify id size))

end Scale

/-- A step that leaves the scale alone, and what a fit goes by. -/
structure Trails (first last : Panel) : Prop where
  scale : last.scale = first.scale
  proposal : last.registry.proposal = first.registry.proposal
  journal : ∀ effect ∈ first.registry.journal, effect ∈ last.registry.journal

namespace Trails

protected theorem refl (panel : Panel) : Trails panel panel := ⟨rfl, rfl, fun _ member => member⟩

theorem note (effect : Effect) (panel : Panel) : Trails panel (panel.note effect) :=
  ⟨rfl, rfl, fun _ member => List.mem_append_left _ member⟩

theorem focus (session : Session) (panel : Panel) :
    Trails panel (panel.changeRegistry (·.changeSurface session Surface.focus)) := by
  refine ⟨scale_changeRegistry (Registry.scale_focus _ _), ?_, fun _ member => member⟩
  apply Registry.proposal_change
  case view | build => exact fun _ => rfl

end Trails

namespace Scale.Fit
variable {notify : Bool} {scale : Scale}

private theorem of_measure {ended : Ending Failure Panel} {next : Scale} {id : String} {size : Geometry}
    (measured : next = scale.onRegistry (·.measure notify id size)) (active : scale.registry.active = some id)
    (shown : scale.fitting = true) (room : ended.state.registry.proposal = some (.ok (some size))) :
    Fit ended notify scale next :=
  measured ▸ .fitted active shown room

private theorem trailed {middle last : Panel} (fit : Fit ⟨middle, none⟩ notify scale middle.scale)
    (trails : Trails middle last)
    (failure : Option Failure) : Fit ⟨last, failure⟩ notify scale last.scale := by
  rw [trails.scale]
  have missed (because : Missed ⟨middle, none⟩) : Missed ⟨last, failure⟩ := by
    rcases because with ⟨id, noted⟩ | ⟨_, raised, _⟩
    · exact .inl ⟨id, trails.journal _ noted⟩
    · cases raised
  generalize middle.scale = next at fit
  cases fit with
  | idle nothing => exact .idle nothing
  | missed because => exact .missed (missed because)
  | fitted active shown room => exact .fitted active shown (trails.proposal.trans room)

theorem followed {α β : Type} {act : PanelStep α} {next : α → PanelStep β} {panel : Panel}
    (fit : Fit (ending act panel) notify scale (after act panel).scale) (rest : ∀ value, Moves Trails (next value)) :
    Fit (ending (act >>= next) panel) notify scale (after (act >>= next) panel).scale := by
  rw [after_bind, ending_bind]
  unfold after ending at fit
  cases ended : act panel with
  | error failure middle => rw [ended] at fit; exact fit
  | ok value middle =>
    rw [ended] at fit
    dsimp only
    rw [ending_eq]
    exact fit.trailed (rest value middle) _

end Scale.Fit

section Refit
variable {panel : Panel} {session : Session} {id : String}

/-- A fit of a session that is not the active one, or of one whose panel is hidden, does nothing. -/
theorem refit_idle {who : Option String} (notify : Bool)
    (other : ∀ session, panel.registry.activeSession? = some session →
      who.any (· != session.id) = true ∨ panel.fitting = false) :
    after (refit who notify) panel = panel := by
  unfold refit
  rw [after_get_bind]
  cases found : panel.registry.activeSession? with
  | none => rfl
  | some session =>
    dsimp only
    rw [if_pos]
    · rfl
    · rcases other session found with different | hidden
      · rw [different]; rfl
      · rw [hidden, Bool.not_false, Bool.or_true]

private theorem refit_active {who : Option String} {notify : Bool} (valid : panel.registry.WellFormed)
    (pliable : session.surface.build.Pliable) (active : panel.registry.active = some id)
    (live : panel.registry.session? id = some session) (shown : panel.fitting = true)
    (meant : who.any (· != session.id) = false) :
    Scale.Fit (ending (refit who notify) panel) notify panel.scale (after (refit who notify) panel).scale := by
  have found : panel.registry.activeSession? = some session := by
    rw [Registry.activeSession?, active]
    exact live
  have chosen : panel.scale.registry.active = some id := active
  unfold refit
  rw [after_get_bind, ending_get_bind]
  simp only [found, meant, shown, Bool.not_true, Bool.or_self, Bool.false_eq_true, if_false]
  rw [after_bind, ending_bind]
  cases proposed : session.surface.proposed (.whole session.view.measure.1) (.whole session.view.measure.2) with
  | error failure =>
    have same : panel.registry.change session.serial (fun old => { old with surface := session.surface }) =
        panel.registry := by
      refine Registry.change_same fun other member alike => ?_
      rw [valid.same_session member (Registry.everyone_of_live live) alike]
    have failed : onRegistry (Registry.onSurface session
        (Surface.fit (.whole session.view.measure.1) (.whole session.view.measure.2))) panel = .error failure panel := by
      simp only [onRegistry, Registry.onSurface, Surface.fit_failing proposed, same]
    rw [failed]
    refine .missed (.inr ⟨failure, rfl, ?_⟩)
    rw [Registry.proposal, found]
    exact congrArg some proposed
  | ok room =>
    cases room with
    | none =>
      have same : panel.registry.change session.serial (fun old => { old with surface := session.surface }) =
          panel.registry := by
        refine Registry.change_same fun other member alike => ?_
        rw [valid.same_session member (Registry.everyone_of_live live) alike]
      have crowded : onRegistry (Registry.onSurface session
          (Surface.fit (.whole session.view.measure.1) (.whole session.view.measure.2))) panel = .ok none panel := by
        simp only [onRegistry, Registry.onSurface, Surface.fit_crowded proposed, same]
      rw [crowded]
      exact .missed (.inl ⟨session.id, List.mem_append_right _ (List.mem_singleton_self _)⟩)
    | some size =>
      obtain ⟨surface, fitted, sized, build⟩ := Surface.fit_proposed pliable proposed
      obtain ⟨quiet, told⟩ := Registry.scale_fitted valid live sized build
      have ended : onRegistry (Registry.onSurface session
          (Surface.fit (.whole session.view.measure.1) (.whole session.view.measure.2))) panel = .ok (some size)
            { panel with registry := panel.registry.change session.serial fun old => { old with surface := surface } } := by
        simp only [onRegistry, Registry.onSurface, fitted]
      have room : (panel.registry.change session.serial fun old => { old with surface := surface }).proposal =
          some (.ok (some size)) := by
        rw [Registry.proposal, Registry.activeSession?_change, found, Option.map_some, Option.map_some,
          Registry.changed, if_pos (beq_self_eq_true _)]
        exact congrArg some ((Surface.proposed_of_build build _ _).trans proposed)
      rw [ended]
      dsimp only
      cases notify with
      | false => exact .of_measure (Scale.ext quiet rfl rfl rfl rfl) chosen shown room
      | true =>
        refine .of_measure (Scale.ext told rfl rfl rfl rfl) chosen shown ?_
        exact (Registry.proposal_recordGeometry _ _ _).trans room

theorem refit_fits (who : Option String) (notify : Bool) (valid : panel.registry.WellFormed)
    (pliable : panel.scale.registry.Pliable)
    (meant : ∀ id, panel.registry.active = some id → who = none ∨ who = some id) :
    Scale.Fit (ending (refit who notify) panel) notify panel.scale (after (refit who notify) panel).scale := by
  rcases active_cases valid with ⟨found, nobody⟩ | ⟨id, session, found, active, live⟩
  · rw [refit_idle notify (by simp [found])]
    exact .idle (.inr nobody)
  · cases shown : panel.fitting with
    | false =>
      rw [refit_idle notify fun _ _ => .inr shown]
      exact .idle (.inl shown)
    | true =>
      refine refit_active valid (pliable.live id session.gauge (Registry.live_scale live)) active live shown ?_
      rcases meant id active with rfl | rfl
      · rfl
      · simp [valid.named id session live]

end Refit

section Operations
variable {panel : Panel} {id : String}

private theorem pliable_of_scale {first last : Panel} (pliable : first.scale.registry.Pliable)
    (same : last.scale.registry.gauges = first.scale.registry.gauges)
    (stock : last.scale.registry.stock = first.scale.registry.stock) : last.scale.registry.Pliable := by
  refine ⟨?_, stock ▸ pliable.stock⟩
  rw [same]
  exact pliable.live

theorem activate_fits (valid : panel.registry.WellFormed) (pliable : panel.scale.registry.Pliable)
    (live : panel.registry.has id = true) :
    Scale.Fit (ending (activate id) panel) true (panel.scale.onRegistry (·.select id))
      (after (activate id) panel).scale := by
  obtain ⟨session, live⟩ := Assoc.has_iff.mp live
  let chosen : Panel := { panel with registry := { panel.registry with active := some id } }
  have answer : onRegistry (Registry.setActive id) panel = .ok session chosen := by
    simp only [onRegistry, Registry.setActive_live live]
    rfl
  have active : chosen.registry.WellFormed := by
    have sound := (Registry.setActive_sound id panel.registry valid).1
    rwa [after, Registry.setActive_live live] at sound
  have sound : (chosen.changeRegistry (·.showView session panel.fitting)).registry.WellFormed :=
    (Registry.showView_sound chosen.registry session panel.fitting active).1
  have scaled : (chosen.changeRegistry (·.showView session panel.fitting)).scale = panel.scale.onRegistry (·.select id) :=
    scale_changeRegistry (Registry.scale_showView chosen.registry _ _)
  have front : (chosen.changeRegistry (·.showView session panel.fitting)).registry.active = some id :=
    congrArg (·.registry.active) scaled
  have fit := refit_fits (some id) true sound
    (pliable_of_scale pliable (congrArg (·.registry.gauges) scaled) (congrArg (·.registry.stock) scaled))
    fun name named => .inr (front.symm.trans named)
  have focusing : Moves Trails (modify (·.changeRegistry (·.changeSurface session Surface.focus)) : PanelStep Unit) :=
    Trails.focus session
  have focused := fit.followed fun _ => focusing
  unfold activate
  rw [after_bind, ending_bind, answer]
  rw [scaled] at focused
  exact focused

private theorem focusActive_fits (valid : panel.registry.WellFormed) (pliable : panel.scale.registry.Pliable) :
    Scale.Fit (ending focusActive panel) true panel.scale (after focusActive panel).scale := by
  unfold focusActive
  rw [after_get_bind, ending_get_bind]
  rcases active_cases valid with ⟨found, nobody⟩ | ⟨id, session, found, active, live⟩
  · rw [found]
    exact .idle (.inr nobody)
  · rw [found]
    have sound : (panel.changeRegistry (·.showView session true)).registry.WellFormed :=
      (Registry.showView_sound panel.registry session true valid).1
    have scaled : (panel.changeRegistry (·.showView session true)).scale = panel.scale :=
      scale_changeRegistry (Registry.scale_showView _ _ _)
    have fit := refit_fits none true sound
      (pliable_of_scale pliable (congrArg (·.registry.gauges) scaled) (congrArg (·.registry.stock) scaled))
      fun _ _ => .inl rfl
    have focusing : Moves Trails (modify (·.changeRegistry (·.changeSurface session Surface.focus)) : PanelStep Unit) :=
      Trails.focus session
    have focused := fit.followed fun _ => focusing
    rw [scaled] at focused
    exact focused

theorem reveal_fits (valid : panel.registry.WellFormed) (pliable : panel.scale.registry.Pliable) :
    Scale.Fit (ending reveal panel) true (panel.scale.exhibit true) (after reveal panel).scale := by
  have scaled := scale_setVisible panel true
  have fit := focusActive_fits (Quiet.rules.setVisible true panel valid).1
    (pliable_of_scale pliable (congrArg (·.registry.gauges) scaled) (congrArg (·.registry.stock) scaled))
  rw [scaled] at fit
  have logged : Moves Trails (modify logOpened : PanelStep Unit) := fun panel => Trails.note _ panel
  unfold reveal
  rw [after_modify_bind, ending_modify_bind]
  exact fit.followed fun _ => logged

end Operations

end Panel

end TerminalDock
