import TerminalDock.Proofs.DockSteps

/-! What a turn does to the panel. Whatever the task that takes its turn is about, it strikes the panel once,
and what it leaves to be done later was begun as the operations that were asked for require. -/

namespace TerminalDock
open Proofs.Steps

mutual

def Request.only {β : Type} (simple : Request β → Bool) : Request β → Bool
  | .background _ request => request.only simple
  | .gather requests => Request.onlyAll simple requests
  | request => simple request

def Request.onlyAll {β : Type} (simple : Request β → Bool) : List (Request β) → Bool
  | [] => true
  | request :: rest => request.only simple && Request.onlyAll simple rest

end

theorem Request.only_of_mem {β : Type} {simple : Request β → Bool} {requests : List (Request β)}
    (all : Request.onlyAll simple requests = true) : ∀ request ∈ requests, request.only simple = true := by
  induction requests with
  | nil => exact fun _ member => nomatch member
  | cons first rest ih =>
    rw [Request.onlyAll, Bool.and_eq_true] at all
    intro request member
    rcases List.mem_cons.mp member with rfl | inside
    · exact all.1
    · exact ih all.2 request inside

/-- A session that is known, and stays with its identifier. -/
def Registry.Knows (registry : Registry) (session : Session) : Prop :=
  session.serial < registry.serial ∧
    ∀ other ∈ registry.everyone, other.serial = session.serial → other.id = session.id

/-- A question for a process that was asked before. -/
def Purpose.Known {β : Type} (simple : Request β → Bool) (registry : Registry) : Purpose → Prop
  | .create => ∃ cwd, simple (.create cwd) = true
  | .addTab previous | .addSession previous | .openPanel previous =>
    ∀ session, previous = some session → registry.Knows session

theorem Registry.knows_active {registry : Registry} (valid : registry.WellFormed) {session : Session}
    (active : registry.activeSession? = some session) : registry.Knows session := by
  obtain ⟨id, _, live⟩ := live_of_active active
  refine ⟨valid.fresh session (everyone_of_live live), fun other member same => ?_⟩
  rw [valid.same_session member (everyone_of_live live) same]

theorem Registry.Knows.grow {first last : Registry} {session : Session} (knows : first.Knows session)
    (grown : Grows first last) : last.Knows session := by
  refine ⟨Nat.lt_of_lt_of_le knows.1 grown.serial, fun other member same => ?_⟩
  obtain ⟨old, present, tag⟩ := grown.known other member (same ▸ knows.1)
  rw [← knows.2 old present ((congrArg Prod.fst tag).trans same)]
  exact (congrArg Prod.snd tag).symm

theorem Purpose.Fresh.known {β : Type} {simple : Request β → Bool} {registry : Registry} {purpose : Purpose}
    (fresh : purpose.Fresh simple registry) (valid : registry.WellFormed) : purpose.Known simple registry := by
  cases purpose with
  | create => exact fresh
  | addTab previous | addSession previous | openPanel previous =>
    intro session found
    exact Registry.knows_active valid (fresh.symm.trans found)

theorem Purpose.Known.grow {β : Type} {simple : Request β → Bool} {first last : Registry} {purpose : Purpose}
    (known : purpose.Known simple first) (grown : Registry.Grows first last) : purpose.Known simple last := by
  cases purpose with
  | create => exact known
  | addTab previous | addSession previous | openPanel previous =>
    exact fun session found => (known session found).grow grown

/-- What one move does to the panel and the backend, if a task that waited for a process goes on with
`landing`. -/
inductive Stroke {β : Type} [SessionBackend β] (simple : Request β → Bool) (landing : Option (String × Purpose))
    (panel : Panel) (backend : β) : Panel → β → Prop
  | rest : Stroke simple landing panel backend panel backend
  | ask (cwd : String) : Stroke simple landing panel backend panel (SessionBackend.ask cwd backend).2.2
  | call (call : BackendCall) : Stroke simple landing panel backend panel (SessionBackend.begin call backend).2.2
  | adjust {change : β → β} (allowed : simple (.adjust change) = true) :
    Stroke simple landing panel backend panel (change backend)
  | perform {request : Request β} {act : PanelStep Answer} (allowed : simple request = true)
      (found : Panel.perform? request = some act) :
    Stroke simple landing panel backend (after act panel).drained backend
  | hide : Stroke simple landing panel backend panel.hide.drained backend
  | reveal (peopled : panel.registry.isEmpty = false) :
    Stroke simple landing panel backend (after Panel.reveal panel).drained backend
  | sweep :
    Stroke simple landing panel backend panel.swept.drained backend
  | land {cwd : String} {purpose : Purpose} (waited : landing = some (cwd, purpose))
      (known : purpose.Known simple panel.registry) :
    Stroke simple landing panel backend
      (panel.landed cwd (SessionBackend.spawn cwd backend).1
        (SessionBackend.wiring (SessionBackend.spawn cwd backend).2.2) purpose)
      (SessionBackend.spawn cwd backend).2.2
  | landAtOnce {cwd : String} {purpose : Purpose} {asked : β} (free : asked = (SessionBackend.ask cwd backend).2.2)
      (fresh : purpose.Fresh simple panel.registry) :
    Stroke simple landing panel backend
      (panel.landed cwd (SessionBackend.spawn cwd asked).1
        (SessionBackend.wiring (SessionBackend.spawn cwd asked).2.2) purpose)
      (SessionBackend.spawn cwd asked).2.2

namespace Dock
variable {β : Type}

/-- New work: operations that consist of simple ones, and questions for processes that are asked now. -/
def Novel (simple : Request β → Bool) (registry : Registry) : Stage β → Prop
  | .begin request => request.only simple = true
  | .spawning _ purpose => purpose.Fresh simple registry
  | _ => False

variable [SessionBackend β] {simple : Request β → Bool} {landing : Option (String × Purpose)}

def Strikes (simple : Request β → Bool) (landing : Option (String × Purpose)) (first last : Dock β) : Prop :=
  ∃ panel backend, Stroke simple landing first.panel first.backend panel backend ∧
    Yields (Novel simple first.panel.registry) first panel backend last

theorem Strikes.of_calm {first last : Dock β} (calm : Calm (Novel simple first.panel.registry) first last) :
    Strikes simple landing first last :=
  ⟨_, _, .rest, calm⟩

theorem Strikes.of_alike {first other last : Dock β} (strikes : Strikes simple landing other last)
    (shown : other.panel = first.panel) (served : other.backend = first.backend)
    (running : other.scheduler.running = first.scheduler.running) : Strikes simple landing first last := by
  obtain ⟨panel, backend, stroke, yields⟩ := strikes
  rw [shown, served] at stroke
  refine ⟨panel, backend, stroke, yields.panel, yields.backend, fun job member => ?_⟩
  have old := yields.jobs job member
  rwa [jobs, running, shown] at old

private theorem sweep_strikes (dock : Dock β) (task : Loop.TaskId) (drainAfter : Bool) :
    Strikes simple landing dock (dock.sweep task drainAfter) := by
  unfold sweep
  dsimp only
  split
  · split
    · exact .of_calm ((calm_rules task).drain dock _)
    · exact .of_calm (conclude_calm dock task _)
  · have closing : ∀ stage ∈ dock.panel.registry.sessions.keys.map (fun id => (Stage.call (.close id) : Stage β)),
        stage.plain = true ∨ Novel simple dock.panel.registry stage :=
      List.forall_mem_map.mpr fun _ _ => .inl rfl
    refine ⟨_, _, .sweep, (change_yields dock Panel.swept).calmly ?_⟩
    exact ((calm_rules task).startAll _ closing).calmly
      ((calm_rules task).waitFor _ rfl ((calm_rules task).endSweep _ _ drainAfter))

private theorem beginSpawn_strikes (dock : Dock β) (task : Loop.TaskId) (cwd : String) {purpose : Purpose}
    (fresh : purpose.Fresh simple dock.panel.registry) :
    Strikes simple landing dock (dock.beginSpawn task cwd purpose) := by
  rcases answer : SessionBackend.ask cwd dock.backend with ⟨wait, records, backend⟩
  have asked : Yields (Novel simple dock.panel.registry) dock dock.panel backend
      ({ dock.see [.spawning cwd] with backend := backend }.log records) := .of_running rfl rfl rfl
  have same : backend = (SessionBackend.ask cwd dock.backend).2.2 := by rw [answer]
  simp only [beginSpawn, show (dock.see [.spawning cwd]).backend = dock.backend from rfl, answer]
  split
  · refine ⟨dock.panel, backend, same ▸ .ask cwd,
      (asked.calmly (suspend_calm _ task (.spawning cwd purpose) (.inr fresh))).calmly ?_⟩
    exact .of_running rfl rfl rfl
  · exact ⟨_, _, .landAtOnce same fresh, asked.trans (endSpawn_yields _ task cwd purpose)⟩

private theorem openLocked_strikes (dock : Dock β) (task : Loop.TaskId) :
    Strikes simple landing dock (dock.openLocked task) := by
  unfold openLocked
  split
  · exact .of_calm (concludeOpen_calm dock task _)
  · split
    · exact beginSpawn_strikes dock task _ rfl
    next peopled =>
      refine ⟨_, _, .reveal (Bool.eq_false_iff.mpr peopled), ?_⟩
      exact (onPanel_yields dock Panel.reveal).calmly (concludeOpen_calm _ task _)

private theorem beginOpen_strikes (dock : Dock β) (task : Loop.TaskId) :
    Strikes simple landing dock (dock.beginOpen task) := by
  unfold beginOpen
  split
  · refine .of_calm ((suspend_calm dock task .queued (.inl rfl)).calmly ?_)
    exact .of_running rfl rfl rfl
  · exact (openLocked_strikes _ task).of_alike rfl rfl rfl

theorem enter_strikes (dock : Dock β) (task : Loop.TaskId) : Strikes simple landing dock (dock.enter task) :=
  (openLocked_strikes _ task).of_alike rfl rfl rfl

private theorem release_strikes (dock : Dock β) (task : Loop.TaskId) : Strikes simple landing dock (dock.release task) := by
  unfold release
  split
  · exact .of_calm (conclude_calm dock task _)
  · refine .of_calm (Yields.calmly ?_ (conclude_calm _ task _))
    exact .of_running rfl rfl rfl

theorem begin_strikes (dock : Dock β) (task : Loop.TaskId) {request : Request β}
    (allowed : request.only simple = true) : Strikes simple landing dock (dock.begin task request) := by
  have performed {act : PanelStep Answer} (found : Panel.perform? request = some act)
      (plain : simple request = true) :
      Strikes simple landing dock ((dock.onPanel act).2.conclude task (dock.onPanel act).1) :=
    ⟨_, _, .perform plain found, (onPanel_yields dock act).calmly (conclude_calm _ task _)⟩
  cases request with
  | openPanel => exact beginOpen_strikes dock task
  | toggle =>
    simp only [begin]
    split
    · exact ⟨_, _, .hide, (change_yields dock Panel.hide).calmly (conclude_calm _ task _)⟩
    · exact beginOpen_strikes dock task
  | add cwd => exact beginSpawn_strikes dock task _ rfl
  | addTab cwd => exact beginSpawn_strikes dock task _ rfl
  | create cwd => exact beginSpawn_strikes dock task cwd ⟨cwd, allowed⟩
  | closeAll => exact sweep_strikes dock task _
  | shutdown => exact sweep_strikes dock task _
  | drain => exact .of_calm ((calm_rules task).drain dock _)
  | release => exact release_strikes dock task
  | adjust change =>
    refine ⟨_, _, .adjust allowed, Yields.calmly ?_ (conclude_calm _ task _)⟩
    exact .of_running rfl rfl rfl
  | background name request =>
    refine .of_calm (Yields.calmly ?_ (conclude_calm _ task _))
    exact .of_put rfl rfl rfl (.inr allowed)
  | gather requests =>
    have parts : ∀ stage ∈ requests.map Stage.begin, stage.plain = true ∨ Novel simple dock.panel.registry stage :=
      List.forall_mem_map.mpr fun request inside => .inr (Request.only_of_mem allowed request inside)
    simp only [begin]
    exact .of_calm (((calm_rules task).startAll dock parts).calmly
      ((calm_rules task).waitFor _ rfl (conclude_calm _ task _)))
  | _ =>
    have strikes := performed rfl allowed
    exact strikes

/-- The work at a stage was begun as simple operations ask for it. -/
def Licensed (simple : Request β → Bool) (registry : Registry) : Stage β → Prop
  | .begin request => request.only simple = true
  | .spawning _ purpose => purpose.Known simple registry
  | _ => True

def stageOf? (dock : Dock β) (task : Loop.TaskId) : Option (Stage β) :=
  (dock.scheduler.running.find? task).map Job.stage

/-- What the answer to a question for a process will be used for, if the next turn brings one. -/
def landing? (dock : Dock β) : Option (String × Purpose) :=
  match dock.scheduler.ready with
  | .resume task :: _ =>
    match dock.stageOf? task with
    | some (.spawning cwd purpose) => some (cwd, purpose)
    | _ => none
  | _ => none

private theorem resume_strikes (dock : Dock β) (task : Loop.TaskId)
    (waits : ∀ cwd purpose, dock.stageOf? task = some (.spawning cwd purpose) → landing = some (cwd, purpose))
    (licensed : ∀ job ∈ dock.jobs, Licensed simple dock.panel.registry job.stage) :
    Strikes simple landing dock (dock.resume task) := by
  unfold resume
  split
  · exact .of_calm (.refl dock)
  next stage label found =>
    have allowed := licensed _ (Assoc.mem_values_of_find? found)
    cases stage with
    | begin request => exact begin_strikes dock task allowed
    | call call => exact ⟨_, _, .call call, beginCall_yields dock task call⟩
    | callEnding call failure records => exact .of_calm ((calm_rules task).concludeCall dock call failure records)
    | spawning cwd purpose =>
      have waited := waits cwd purpose (by simp [stageOf?, found])
      exact ⟨_, _, .land waited allowed, endSpawn_yields dock task cwd purpose⟩
    | queued => exact enter_strikes dock task
    | sweeping calls drainAfter => exact .of_calm ((calm_rules task).endSweep dock calls drainAfter)
    | draining answer => exact .of_calm ((calm_rules task).drain dock answer)
    | gathering tasks => exact .of_calm (conclude_calm dock task _)

theorem turn_strikes (dock : Dock β) (licensed : ∀ job ∈ dock.jobs, Licensed simple dock.panel.registry job.stage) :
    Strikes simple dock.landing? dock dock.turn := by
  unfold turn Loop.Scheduler.next?
  cases ready : dock.scheduler.ready with
  | nil => exact .of_calm (.refl dock)
  | cons turn rest =>
    cases turn with
    | resume task =>
      have waits : ∀ cwd purpose, dock.stageOf? task = some (.spawning cwd purpose) →
          dock.landing? = some (cwd, purpose) := by
        intro cwd purpose stage
        simp only [landing?, ready, stage]
      exact (resume_strikes { dock with scheduler := { dock.scheduler with ready := rest } } task waits
        licensed).of_alike rfl rfl rfl
    | leave task => exact .of_calm (.of_running rfl rfl rfl)
    | arrive group => exact .of_calm (.of_running rfl rfl (Loop.Scheduler.running_arrive _ group))

end Dock

end TerminalDock
