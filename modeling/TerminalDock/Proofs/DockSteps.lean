import TerminalDock.Proofs.TurnRules

/-! What the parts of a turn do to the panel, to the backend and to the work that is under way. Only the
beginning of an operation adds work that goes on to change the panel. -/

namespace TerminalDock
open Proofs.Steps

namespace Loop.Scheduler
variable {α ρ : Type}

/-- Only turns are asked for, now or at the end of the task. -/
theorem onFinish_eq (scheduler : Scheduler α ρ) (task : TaskId) (turn : Turn) :
    ∃ ready callbacks, scheduler.onFinish task turn = { scheduler with ready := ready, callbacks := callbacks } := by
  unfold onFinish
  split
  · exact ⟨scheduler.ready, _, rfl⟩
  · exact ⟨_, scheduler.callbacks, rfl⟩

/-- Besides, there is a new group. -/
theorem waitFor_eq (scheduler : Scheduler α ρ) (waiter : TaskId) (tasks : List TaskId) :
    ∃ ready callbacks, scheduler.waitFor waiter tasks = { scheduler with
      ready := ready
      callbacks := callbacks
      groups := scheduler.groups.put scheduler.fresh ⟨tasks.length, waiter⟩
      fresh := scheduler.fresh + 1 } := by
  have arrivals (group : Nat) (tasks : List TaskId) (scheduler : Scheduler α ρ) : ∃ ready callbacks,
      tasks.foldl (fun scheduler task => scheduler.onFinish task (.arrive group)) scheduler =
        { scheduler with ready := ready, callbacks := callbacks } := by
    induction tasks generalizing scheduler with
    | nil => exact ⟨scheduler.ready, scheduler.callbacks, rfl⟩
    | cons task rest ih =>
      obtain ⟨_, _, first⟩ := onFinish_eq scheduler task (.arrive group)
      obtain ⟨ready, callbacks, later⟩ := ih (scheduler.onFinish task (.arrive group))
      refine ⟨ready, callbacks, later.trans ?_⟩
      rw [first]
  exact arrivals _ _ _

theorem arrive_eq (scheduler : Scheduler α ρ) (group : Nat) :
    ∃ ready groups, scheduler.arrive group = { scheduler with ready := ready, groups := groups } := by
  unfold arrive
  split
  · exact ⟨scheduler.ready, scheduler.groups, rfl⟩
  · split
    · exact ⟨_, _, rfl⟩
    · exact ⟨scheduler.ready, _, rfl⟩

@[simp] theorem running_onFinish (scheduler : Scheduler α ρ) (task : TaskId) (turn : Turn) :
    (scheduler.onFinish task turn).running = scheduler.running := by
  obtain ⟨_, _, same⟩ := onFinish_eq scheduler task turn
  rw [same]

@[simp] theorem running_waitFor (scheduler : Scheduler α ρ) (waiter : TaskId) (tasks : List TaskId) :
    (scheduler.waitFor waiter tasks).running = scheduler.running := by
  obtain ⟨_, _, same⟩ := waitFor_eq scheduler waiter tasks
  rw [same]

@[simp] theorem running_arrive (scheduler : Scheduler α ρ) (group : Nat) :
    (scheduler.arrive group).running = scheduler.running := by
  obtain ⟨_, _, same⟩ := arrive_eq scheduler group
  rw [same]

theorem running_submit (scheduler : Scheduler α ρ) (activity : α) :
    (scheduler.submit activity).running = scheduler.running.put scheduler.fresh activity := by
  simp [submit, start, create, enqueue]

end Loop.Scheduler

namespace Panel

/-- The panel after its surroundings took over what it let be seen and the calls that it submitted. -/
def drained (panel : Panel) : Panel :=
  { panel with registry := { panel.registry with journal := [], outbox := [] } }

end Panel

def Purpose.finish (purpose : Purpose) (session : Session) (panel : Panel) : Panel :=
  match purpose with
  | .create => panel
  | .addTab previous | .addSession previous => (panel.settleTab previous session).drained
  | .openPanel previous => (panel.settleTab previous session).drained.revealFirst.drained

/-- The panel after the answer to a question for a process. -/
def Panel.landed (cwd : String) (spawned : Except Failure String) (faults : String → WiringFaults)
    (purpose : Purpose) (panel : Panel) : Panel :=
  match Registry.create cwd spawned faults panel.registry with
  | .ok session registry => purpose.finish session { panel with registry := registry }.drained
  | .error _ registry => { panel with registry := registry }.drained

/-- A stage that neither begins an operation nor waits for a process. -/
def Stage.plain {β : Type} : Stage β → Bool
  | .begin _ | .spawning .. => false
  | _ => true

namespace Dock
variable {β : Type}

def jobs (dock : Dock β) : List (Job β) :=
  dock.scheduler.running.values

/-- How a part of a turn ends: in this panel and this backend, and with no new work but plain work and
`extra` work. -/
structure Yields (extra : Stage β → Prop) (first : Dock β) (panel : Panel) (backend : β) (last : Dock β) : Prop where
  panel : last.panel = panel
  backend : last.backend = backend
  jobs : ∀ job ∈ last.jobs, job ∈ first.jobs ∨ job.stage.plain = true ∨ extra job.stage

abbrev Calm (extra : Stage β → Prop) (first last : Dock β) : Prop :=
  Yields extra first first.panel first.backend last

variable {extra : Stage β → Prop}

namespace Yields

protected theorem refl (dock : Dock β) : Calm extra dock dock := ⟨rfl, rfl, fun _ member => .inl member⟩

protected theorem trans {first middle last : Dock β} {panel next : Panel} {backend other : β}
    (before : Yields extra first panel backend middle) (later : Yields extra middle next other last) :
    Yields extra first next other last := by
  refine ⟨later.panel, later.backend, fun job member => ?_⟩
  rcases later.jobs job member with old | new
  · exact before.jobs job old
  · exact .inr new

theorem calmly {first middle last : Dock β} {panel : Panel} {backend : β}
    (before : Yields extra first panel backend middle) (later : Calm extra middle last) :
    Yields extra first panel backend last := by
  have both := before.trans later
  rwa [before.panel, before.backend] at both

theorem of_put {first last : Dock β} {panel : Panel} {backend : β} {task : Loop.TaskId} {job : Job β}
    (shown : last.panel = panel) (served : last.backend = backend)
    (running : last.scheduler.running = first.scheduler.running.put task job)
    (fair : job.stage.plain = true ∨ extra job.stage) : Yields extra first panel backend last := by
  refine ⟨shown, served, fun other member => ?_⟩
  rw [Dock.jobs, running] at member
  rcases Assoc.mem_values_put member with rfl | old
  · exact .inr fair
  · exact .inl old

theorem of_running {first last : Dock β} {panel : Panel} {backend : β} (shown : last.panel = panel)
    (served : last.backend = backend) (running : last.scheduler.running = first.scheduler.running) :
    Yields extra first panel backend last := by
  refine ⟨shown, served, fun job member => .inl ?_⟩
  rwa [Dock.jobs, running] at member

end Yields

/-- Calls that are submitted are all the work that is added. -/
theorem values_submitted (calls : List BackendCall) (scheduler : Loop.Scheduler (Job β) (Except Failure Answer)) :
    ∀ job ∈ (calls.foldl (fun scheduler call => scheduler.submit ⟨.call call, none⟩) scheduler).running.values,
      job ∈ scheduler.running.values ∨ ∃ call, job = ⟨.call call, none⟩ := by
  induction calls generalizing scheduler with
  | nil => exact fun job => .inl
  | cons call rest ih =>
    intro job member
    rcases ih _ job member with old | submitted
    · rw [Loop.Scheduler.running_submit] at old
      exact (Assoc.mem_values_put old).symm.imp_right fun same => ⟨call, same⟩
    · exact .inr submitted

private theorem see_calm (dock : Dock β) (sights : List (Sight Answer)) : Calm extra dock (dock.see sights) :=
  .of_running rfl rfl rfl

private theorem log_calm (dock : Dock β) (records : List LogRecord) : Calm extra dock (dock.log records) :=
  see_calm dock _

theorem conclude_calm (dock : Dock β) (task : Loop.TaskId) (result : Except Failure Answer) :
    Calm extra dock (dock.conclude task result) := by
  have removed : ∀ job ∈ (dock.scheduler.running.remove task).values, job ∈ dock.jobs :=
    fun job member => ((Assoc.remove_sublist task dock.scheduler.running).map Prod.snd).subset member
  unfold conclude
  dsimp only
  split
  · exact ⟨rfl, rfl, fun job member => .inl (removed job member)⟩
  · exact ⟨rfl, rfl, fun job member => .inl (removed job member)⟩

theorem suspend_calm (dock : Dock β) (task : Loop.TaskId) (stage : Stage β)
    (fair : stage.plain = true ∨ extra stage) : Calm extra dock (dock.suspend task stage) :=
  .of_put rfl rfl rfl fair

private theorem unlock_calm (dock : Dock β) : Calm extra dock dock.unlock := by
  unfold unlock
  dsimp only
  split
  · exact .of_running rfl rfl rfl
  · exact .of_running rfl rfl rfl

theorem concludeOpen_calm (dock : Dock β) (task : Loop.TaskId) (result : Except Failure Answer) :
    Calm extra dock (dock.concludeOpen task result) :=
  (unlock_calm dock).calmly (conclude_calm _ _ _)

/-- Whatever ends a turn without a word to the panel or the backend leaves both alone. -/
theorem calm_rules (task : Loop.TaskId) :
    EndRules (fun stage => stage.plain = true ∨ extra stage) task (Calm extra) (Calm extra) where
  refl := .refl
  trans := .calmly
  follow := .calmly
  see dock _ _ := see_calm dock _
  start _ _ _ fair := .of_put rfl rfl rfl fair
  conclude dock := conclude_calm dock task
  await dock tasks stage gathers := by
    have plain : stage.plain = true := by
      cases stage <;> first | rfl | cases gathers
    refine (suspend_calm dock task stage (.inl plain)).calmly ?_
    exact .of_running rfl rfl (Loop.Scheduler.running_waitFor _ _ _)

private theorem absorb_yields (dock : Dock β) : Yields extra dock dock.panel.drained dock.backend dock.absorb := by
  refine ⟨rfl, rfl, fun job member => ?_⟩
  rcases values_submitted _ _ job member with old | ⟨call, rfl⟩
  · exact .inl old
  · exact .inr (.inl rfl)

theorem change_yields (dock : Dock β) (f : Panel → Panel) :
    Yields extra dock (f dock.panel).drained dock.backend (dock.change f) := by
  have changed : Yields extra dock (f dock.panel) dock.backend { dock with panel := f dock.panel } :=
    .of_running rfl rfl rfl
  exact changed.trans (absorb_yields _)

theorem onPanel_yields {α : Type} (dock : Dock β) (act : PanelStep α) :
    Yields extra dock (after act dock.panel).drained dock.backend (dock.onPanel act).2 := by
  rw [onPanel_change]
  exact change_yields dock (after act)

private theorem followUp_failed (dock : Dock β) (task : Loop.TaskId) (purpose : Purpose) (failure : Failure) :
    Calm extra dock (dock.followUp task purpose (.error failure)) := by
  cases purpose with
  | create => exact conclude_calm dock task _
  | addTab previous => exact conclude_calm dock task _
  | addSession previous =>
    cases failure with
    | spawn place reason => exact (log_calm dock _).calmly (conclude_calm _ task _)
    | _ => exact conclude_calm dock task _
  | openPanel previous =>
    cases failure with
    | spawn place reason => exact (log_calm dock _).calmly (concludeOpen_calm _ task _)
    | _ => exact concludeOpen_calm dock task _

private theorem followUp_made (dock : Dock β) (task : Loop.TaskId) (purpose : Purpose) (session : Session) :
    Yields extra dock (purpose.finish session dock.panel) dock.backend (dock.followUp task purpose (.ok session)) := by
  have settled (previous : Option Session) : Yields extra dock (dock.panel.settleTab previous session).drained
      dock.backend (dock.settle (.ok session) previous) := change_yields dock _
  cases purpose with
  | create => exact conclude_calm dock task _
  | addTab previous => exact (settled previous).calmly (conclude_calm _ task _)
  | addSession previous => exact (settled previous).calmly (conclude_calm _ task _)
  | openPanel previous =>
    exact ((settled previous).trans (change_yields _ Panel.revealFirst)).calmly (concludeOpen_calm _ task _)

variable [SessionBackend β]

/-- A call changes the backend alone. -/
theorem beginCall_yields (dock : Dock β) (task : Loop.TaskId) (call : BackendCall) :
    Yields extra dock dock.panel (SessionBackend.begin call dock.backend).2.2 (dock.beginCall task call) := by
  have begun : Yields extra dock dock.panel (SessionBackend.begin call dock.backend).2.2
      ({ dock.see [.calling call] with backend := (SessionBackend.begin call dock.backend).2.2 }.log
        (SessionBackend.begin call dock.backend).2.1) := .of_running rfl rfl rfl
  unfold beginCall
  dsimp only
  split
  · exact begun.calmly ((calm_rules task).concludeCall _ call _ [])
  next failure records _ =>
    refine (begun.calmly (suspend_calm _ task (.callEnding call failure records) (.inl rfl))).calmly ?_
    exact .of_running rfl rfl rfl

theorem endSpawn_yields (dock : Dock β) (task : Loop.TaskId) (cwd : String) (purpose : Purpose) :
    Yields extra dock
      (dock.panel.landed cwd (SessionBackend.spawn cwd dock.backend).1
        (SessionBackend.wiring (SessionBackend.spawn cwd dock.backend).2.2) purpose)
      (SessionBackend.spawn cwd dock.backend).2.2 (dock.endSpawn task cwd purpose) := by
  rcases answer : SessionBackend.spawn cwd dock.backend with ⟨spawned, records, backend⟩
  have placed (panel : Panel) : Yields extra dock panel backend
      { { dock with backend := backend }.log records with panel := panel } := .of_running rfl rfl rfl
  have arrived (panel : Panel) := (placed panel).trans (absorb_yields _)
  simp only [endSpawn, answer, Panel.landed]
  cases made : Registry.create cwd spawned (SessionBackend.wiring backend) dock.panel.registry with
  | ok session registry =>
    simp only [onPanel, Panel.onRegistry, log, see, made]
    exact (arrived _).trans (followUp_made _ task purpose session)
  | error failure registry =>
    simp only [onPanel, Panel.onRegistry, log, see, made]
    exact (arrived _).calmly (followUp_failed _ task purpose failure)

end Dock

end TerminalDock
