import TerminalDock.Proofs.Forefront
import TerminalDock.Proofs.RegistryWiring
import TerminalDock.Proofs.ScaleRuns

/-! A panel that is opened. One that has sessions is shown without fail unless the active one cannot be fitted to the box
of its view, and the first session that is made for a panel shows it. -/

namespace TerminalDock
open Proofs.Steps

namespace Panel
variable {panel : Panel}

/-- Views are in the layout, and surfaces take any size that is proposed for them. -/
structure Ready (panel : Panel) : Prop where
  valid : panel.registry.WellFormed
  attached : panel.face.registry.Attached
  pliable : panel.scale.registry.Pliable

/-- A panel is shown without fail unless its active session cannot be fitted. -/
theorem reveal_failure (ready : panel.Ready) : (ending reveal panel).failure = panel.registry.obstacle? := by
  cases active : panel.registry.active with
  | none =>
    have nobody : panel.registry.obstacle? = none := by
      rw [Registry.obstacle?, Registry.activeSession?, active]
      rfl
    have still : (panel.setVisible true).registry.activeSession? = none := by
      have same : (panel.setVisible true).registry.active = panel.registry.active :=
        congrArg (·.registry.active) (scale_setVisible panel true)
      rw [Registry.activeSession?, same, active]
      rfl
    have unfocused : focusActive (panel.setVisible true) = .ok () (panel.setVisible true) := by
      unfold focusActive
      rw [get_bind, still]
      rfl
    rw [nobody]
    unfold reveal
    rw [ending_modify_bind, ending_bind, unfocused]
    rfl
  | some id =>
    obtain ⟨session, live⟩ := Assoc.has_iff.mp (ready.valid.chosen id active)
    have there : panel.registry.session? id = some session := live
    have hung : session.view.attached = true := ready.attached id session.face (Assoc.mem_of_find? (live_face there))
    have shape : session.surface.build.Pliable := ready.pliable.live id session.gauge (Registry.live_scale there)
    have found : panel.registry.activeSession? = some session := by
      rw [Registry.activeSession?, active]
      exact there
    rw [(reveal_settles ready.valid shape active there hung).failure, Registry.obstacle?, found]
    rfl

def front (panel : Panel) : Nat × Bool :=
  (panel.registry.size, panel.isOpen)

private theorem front_scale (panel : Panel) : panel.front = (panel.scale.registry.gauges.length, panel.scale.isOpen) := by
  have size : panel.scale.registry.gauges.length = panel.registry.size := List.length_map _
  exact congrArg (Prod.mk · panel.isOpen) size.symm

private theorem front_of_scale {first last : Panel} (same : last.scale = first.scale) : last.front = first.front := by
  rw [front_scale, same, front_scale]

private theorem setVisible_front (visible : Bool) : (panel.setVisible visible).front = (panel.registry.size, visible) := by
  have size := congrArg Prod.fst panel.front_scale
  rw [front_scale, scale_setVisible]
  exact congrArg (Prod.mk · visible) size.symm

private theorem revealFirst_front : panel.revealFirst.front = (panel.registry.size, true) :=
  setVisible_front true

theorem hide_front : panel.hide.front = (panel.registry.size, false) := by
  unfold hide
  split
  · dsimp only
    rw [show ∀ (panel : Panel) (record : LogRecord), (panel.log record).front = panel.front from fun _ _ => rfl,
      setVisible_front]
    split
    · rfl
    next session _ =>
      have blurred : (panel.changeRegistry (·.changeSurface session Surface.blur)).scale = panel.scale :=
        scale_changeRegistry (Registry.scale_blur _ _)
      exact congrArg (fun front : Nat × Bool => (front.1, false)) (front_of_scale blurred)
  next hidden => exact congrArg (Prod.mk _) (Bool.eq_false_iff.mpr hidden)

theorem reveal_front (valid : panel.registry.WellFormed) (pliable : panel.scale.registry.Pliable) :
    (after reveal panel).front = (panel.registry.size, true) := by
  have fit := reveal_fits valid pliable
  have size : (after reveal panel).scale.registry.gauges.length = panel.registry.size := by
    have keys := congrArg List.length fit.abides.keys
    rw [Assoc.keys, Assoc.keys, List.length_map, List.length_map] at keys
    exact keys.trans (congrArg Prod.fst panel.front_scale).symm
  have faces := reveal_face valid
  have shown : (after reveal panel).isOpen = true := by
    have open_face : (after reveal panel).face.isOpen = true := by
      rw [faces]
      unfold Face.spotlight
      split <;> rfl
    exact open_face
  rw [front_scale, size]
  exact congrArg (Prod.mk _) shown

theorem fire_front (place : Nat) (valid : panel.registry.WellFormed) : (after (fire place) panel).front = panel.front := by
  have stance := Mild.rules.fire place panel valid
  have sessions : (after (fire place) panel).registry.seen Session.stance = panel.registry.seen Session.stance :=
    congrArg (fun stance : Stance => stance.registry.sessions) stance
  have size := congrArg (fun seen : Assoc String Session.Stance × List Session.Stance => seen.1.length) sessions
  simp only [Registry.seen, List.length_map] at size
  exact Prod.ext size (congrArg Stance.isOpen stance)

end Panel

def WiringFaults.clean (faults : WiringFaults) : Bool :=
  faults.surface.isNone && faults.view.isNone && faults.output.isNone && faults.exit.isNone && faults.input.isNone &&
    faults.attach.isNone

theorem WiringFaults.clean_iff {faults : WiringFaults} : faults.clean = true ↔ faults = {} := by
  obtain ⟨surface, view, output, exit, input, attach⟩ := faults
  cases surface <;> cases view <;> cases output <;> cases exit <;> cases input <;> cases attach <;>
    simp [clean]

namespace Registry
variable {registry : Registry}

/-- There is a process, and a session can be made of it. -/
def usable (spawned : Except Failure String) (faults : String → WiringFaults) : Bool :=
  match spawned with
  | .ok id => (faults id).clean
  | .error _ => false

/-- How the making of the first session ends: there is one exactly if there is a process and nothing fails. -/
theorem create_first (empty : registry.sessions = []) (cwd : String) (spawned : Except Failure String)
    (faults : String → WiringFaults) :
    (usable spawned faults = true ∧ ∃ session last, create cwd spawned faults registry = .ok session last ∧
      last.size = 1) ∨
    (usable spawned faults = false ∧ ∃ place reason last, create cwd spawned faults registry =
      .error (.spawn place reason) last ∧ last.size = 0) := by
  have ends := create_ends cwd spawned faults registry
  have none : registry.size = 0 := by rw [size, empty]; rfl
  generalize create cwd spawned faults registry = result at ends
  cases ends with
  | @refused failure answered record =>
    subst answered
    refine .inr ⟨rfl, ?_⟩
    cases failure <;> exact ⟨_, _, _, rfl, none⟩
  | @taken id answered live reason =>
    rw [has, empty] at live
    cases live
  | @spoiled id failure final answered free failed wired =>
    subst answered
    refine .inr ⟨Bool.eq_false_iff.mpr fun clean => ?_, ?_⟩
    · have whole : faults id = {} := WiringFaults.clean_iff.mp clean
      rw [whole] at failed
      cases failed
    · cases wired <;> exact ⟨_, _, _, rfl, none⟩
  | @made id session final answered free built wired =>
    subst answered
    refine .inl ⟨WiringFaults.clean_iff.mpr (wire_whole built), session, _, rfl, ?_⟩
    cases wired with
    | done =>
      change (registry.sessions.put _ _).length = 1
      rw [empty]
      rfl

end Registry

namespace Panel
variable {panel : Panel}

private theorem settleTab_size (previous : Option Session) (session : Session) (panel : Panel) :
    (panel.settleTab previous session).registry.size = panel.registry.size := by
  have scaled := congrArg (·.registry.gauges.length) (settleTab_scale previous session panel)
  exact ((congrArg Prod.fst (front_scale _)).trans scaled).trans (congrArg Prod.fst panel.front_scale).symm

/-- The panel is shown with the first session that is made for it, and stays as it is if there is none. -/
theorem landed_front (empty : panel.registry.sessions = []) (cwd : String) (spawned : Except Failure String)
    (faults : String → WiringFaults) (previous : Option Session) :
    (panel.landed cwd spawned faults (.openPanel previous)).front =
      if Registry.usable spawned faults then (1, true) else (0, panel.isOpen) := by
  have ends := Registry.create_first empty cwd spawned faults
  unfold landed
  generalize Registry.create cwd spawned faults panel.registry = result at ends ⊢
  rcases ends with ⟨usable, session, last, rfl, size⟩ | ⟨unusable, place, reason, last, rfl, size⟩
  · rw [usable, if_pos rfl]
    let made : Panel := ({ panel with registry := last } : Panel).drained
    have shown : ((made.settleTab previous session).drained.revealFirst).front = _ := revealFirst_front
    exact shown.trans (congrArg (Prod.mk · true) ((settleTab_size previous session made).trans size))
  · rw [unusable, if_neg Bool.false_ne_true]
    exact congrArg (Prod.mk · panel.isOpen) size

end Panel

end TerminalDock
