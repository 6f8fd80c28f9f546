import TerminalDock.Proofs.DockStrokes

/-! Runs of a panel with its backend. Its surroundings ask for operations, let tasks take their turns, answer
questions for processes in any order, and announce events. No run mixes sessions up. -/

namespace TerminalDock
open Proofs.Steps

/-- What the surroundings of the panel may do next. -/
inductive Move (β : Type)
  /-- An operation is asked for, and goes as far as it goes at once. -/
  | ask (request : Request β)
  | turn
  /-- There is an answer for a task that waits for a process. -/
  | answer (task : Loop.TaskId)
  | announce (event : String) (payload : Event.Payload)

def Move.only {β : Type} (simple : Request β → Bool) : Move β → Bool
  | .ask request => request.only simple
  | _ => true

namespace Dock
variable {β : Type} [SessionBackend β]

def move (dock : Dock β) : Move β → Dock β
  | .ask request =>
    let (task, scheduler) := dock.scheduler.create ⟨.begin request, none⟩
    { dock with scheduler := scheduler }.resume task
  | .turn => dock.turn
  | .answer task =>
    if task ∈ dock.held then
      { dock with held := dock.held.erase task, scheduler := dock.scheduler.enqueue (.resume task) }
    else dock
  | .announce event payload => dock.change fun panel => (panel.emit event payload).2

def run (dock : Dock β) (moves : List (Move β)) : Dock β :=
  moves.foldl move dock

theorem move_ask (dock : Dock β) (request : Request β) : dock.move (.ask request) =
    { dock with scheduler := (dock.scheduler.create ⟨.begin request, none⟩).2 }.begin dock.scheduler.fresh request := by
  simp only [move, resume, Loop.Scheduler.create, Assoc.find?_put_self]

/-- Sessions are not mixed up, and the work under way was begun as simple operations ask for it. -/
structure Valid (simple : Request β → Bool) (dock : Dock β) : Prop where
  registry : dock.panel.registry.WellFormed
  licensed : ∀ job ∈ dock.jobs, Licensed simple dock.panel.registry job.stage

variable {simple : Request β → Bool} {landing : Option (String × Purpose)}

theorem ask_strikes (dock : Dock β) {request : Request β} (allowed : request.only simple = true) :
    Strikes simple landing dock (dock.move (.ask request)) := by
  have started : Yields (Novel simple dock.panel.registry) dock dock.panel dock.backend
      { dock with scheduler := (dock.scheduler.create ⟨.begin request, none⟩).2 } :=
    .of_put rfl rfl rfl (.inr allowed)
  have begins : Strikes simple landing { dock with scheduler := (dock.scheduler.create ⟨.begin request, none⟩).2 }
      (dock.move (.ask request)) := by
    rw [move_ask]
    exact begin_strikes _ dock.scheduler.fresh allowed
  obtain ⟨panel, backend, stroke, yields⟩ := begins
  exact ⟨panel, backend, stroke, started.trans yields⟩

theorem announce_yields {extra : Stage β → Prop} (dock : Dock β) (event : String) (payload : Event.Payload) :
    Yields extra dock (dock.panel.emit event payload).2.drained dock.backend (dock.move (.announce event payload)) :=
  change_yields dock _

theorem answer_calm {extra : Stage β → Prop} (dock : Dock β) (task : Loop.TaskId) :
    Calm extra dock (dock.move (.answer task)) := by
  unfold move
  dsimp only
  split
  · exact .of_running rfl rfl rfl
  · exact .refl dock

end Dock

namespace Panel

theorem drained_quiet (panel : Panel) : Quiet panel panel.drained :=
  .of_stance rfl

private theorem finish_quiet (purpose : Purpose) (session : Session) (panel : Panel) :
    Quiet panel (purpose.finish session panel) := by
  have settled (previous : Option Session) : Quiet panel (panel.settleTab previous session).drained :=
    (Quiet.rules.settleTab previous session panel).trans (drained_quiet _)
  cases purpose with
  | create => exact .refl panel
  | addTab previous => exact settled previous
  | addSession previous => exact settled previous
  | openPanel previous => exact (settled previous).trans ((Quiet.rules.revealFirst _).trans (drained_quiet _))

variable {relation : Panel → Panel → Prop}

/-- The answer to a question for a process makes a session, and does nothing else to the sessions. -/
theorem Lenient.landed (lenient : Lenient relation) {cwd : String} {spawned : Except Failure String}
    {faults : String → WiringFaults} {panel : Panel} (purpose : Purpose)
    (created : relation panel { panel with registry := after (Registry.create cwd spawned faults) panel.registry }) :
    relation panel (panel.landed cwd spawned faults purpose) := by
  unfold after at created
  unfold Panel.landed
  split
  next session registry made =>
    rw [made] at created
    exact lenient.trans created (lenient.quiet ((drained_quiet _).trans (finish_quiet purpose session _)))
  next failure registry made =>
    rw [made] at created
    exact lenient.trans created (lenient.quiet (drained_quiet _))

end Panel

inductive Served {β : Type} [SessionBackend β] (simple : Request β → Bool) (backend : β) : β → Prop
  | rest : Served simple backend backend
  | ask (cwd : String) : Served simple backend (SessionBackend.ask cwd backend).2.2
  | call (call : BackendCall) : Served simple backend (SessionBackend.begin call backend).2.2
  | adjust {change : β → β} (allowed : simple (.adjust change) = true) : Served simple backend (change backend)

namespace Stroke
variable {β : Type} [SessionBackend β] {simple : Request β → Bool} {landing : Option (String × Purpose)}
variable {panel next : Panel} {backend other : β}

theorem moves_or_lands {relation : Panel → Panel → Prop} (lenient : Panel.Lenient relation)
    (performed : ∀ {request : Request β} {act : PanelStep Answer}, simple request = true →
      Panel.perform? request = some act → Panel.quietly? request = false → Moves relation act)
    (stroke : Stroke simple landing panel backend next other) :
    relation panel next ∧ Served simple backend other ∨
      ∃ cwd purpose asked, Served simple backend asked ∧
        next = panel.landed cwd (SessionBackend.spawn cwd asked).1
          (SessionBackend.wiring (SessionBackend.spawn cwd asked).2.2) purpose ∧
        other = (SessionBackend.spawn cwd asked).2.2 := by
  have still : relation panel panel := lenient.quiet (.refl panel)
  have drained (panel : Panel) : relation panel panel.drained := lenient.quiet (Panel.drained_quiet panel)
  cases stroke with
  | rest => exact .inl ⟨still, .rest⟩
  | ask cwd => exact .inl ⟨still, .ask cwd⟩
  | call call => exact .inl ⟨still, .call call⟩
  | adjust allowed => exact .inl ⟨still, .adjust allowed⟩
  | perform allowed found =>
    refine .inl ⟨lenient.trans ?_ (drained _), .rest⟩
    rename_i request _
    cases calm : Panel.quietly? request with
    | true => exact lenient.quiet (Panel.perform_quiet found calm panel)
    | false => exact performed allowed found calm panel
  | hide => exact .inl ⟨lenient.trans (lenient.quiet (Panel.Quiet.rules.hide panel)) (drained _), .rest⟩
  | reveal _ => exact .inl ⟨lenient.trans (lenient.quiet (Panel.Quiet.rules.reveal panel)) (drained _), .rest⟩
  | sweep => exact .inl ⟨lenient.quiet (.of_stance rfl), .rest⟩
  | land waited known => exact .inr ⟨_, _, _, .rest, rfl, rfl⟩
  | landAtOnce free fresh => exact .inr ⟨_, _, _, free ▸ .ask _, rfl, rfl⟩

/-- A stroke makes a session, does what is asked for, or does nothing to the sessions. -/
theorem moves {relation : Panel → Panel → Prop} (lenient : Panel.Lenient relation)
    (performed : ∀ {request : Request β} {act : PanelStep Answer}, simple request = true →
      Panel.perform? request = some act → Panel.quietly? request = false → Moves relation act)
    (created : ∀ cwd spawned faults, relation panel
      { panel with registry := after (Registry.create cwd spawned faults) panel.registry })
    (stroke : Stroke simple landing panel backend next other) : relation panel next := by
  rcases stroke.moves_or_lands lenient performed with ⟨moved, -⟩ | ⟨cwd, purpose, asked, -, rfl, -⟩
  · exact moved
  · exact lenient.landed purpose (created cwd _ _)

theorem sound (stroke : Stroke simple landing panel backend next other) : Panel.Sound panel next :=
  stroke.moves Panel.sound_lenient (fun _ found _ => Panel.perform_sound found)
    fun cwd spawned faults => Registry.create_sound cwd spawned faults panel.registry

end Stroke

namespace Dock
variable {β : Type} {simple : Request β → Bool} {landing : Option (String × Purpose)}

theorem Licensed.grow {first last : Registry} {stage : Stage β} (licensed : Licensed simple first stage)
    (grown : Registry.Grows first last) : Licensed simple last stage := by
  cases stage with
  | spawning cwd purpose => exact Purpose.Known.grow licensed grown
  | _ => exact licensed

theorem Valid.of_yields {first last : Dock β} {panel : Panel} {backend : β} (valid : first.Valid simple)
    (yields : Yields (Novel simple first.panel.registry) first panel backend last)
    (sound : Panel.Sound first.panel panel) : last.Valid simple := by
  obtain ⟨registry, grown⟩ := sound valid.registry
  rw [← yields.panel] at registry grown
  refine ⟨registry, fun job member => ?_⟩
  rcases yields.jobs job member with old | plain | novel
  · exact (valid.licensed job old).grow grown
  · cases stage : job.stage with
    | begin _ | spawning _ _ => rw [stage] at plain; cases plain
    | _ => trivial
  · cases stage : job.stage with
    | begin request => rw [stage] at novel; exact novel
    | spawning cwd purpose => rw [stage] at novel; exact (Purpose.Fresh.known novel valid.registry).grow grown
    | _ => trivial

variable [SessionBackend β]

theorem Valid.of_strikes {first last : Dock β} (valid : first.Valid simple)
    (strikes : Strikes simple landing first last) : last.Valid simple := by
  obtain ⟨panel, backend, stroke, yields⟩ := strikes
  exact valid.of_yields yields stroke.sound

theorem Valid.move {dock : Dock β} {move : Move β} (valid : dock.Valid simple) (allowed : move.only simple = true) :
    (dock.move move).Valid simple := by
  cases move with
  | ask request =>
    have strikes : Strikes simple none dock (dock.move (.ask request)) := ask_strikes dock allowed
    exact valid.of_strikes strikes
  | turn => exact valid.of_strikes (turn_strikes dock valid.licensed)
  | answer task => exact valid.of_yields (answer_calm dock task) (.refl _)
  | announce event payload =>
    exact valid.of_yields (announce_yields dock event payload)
      ((Panel.tellAll_sound event payload _ dock.panel).trans (Panel.drained_quiet _).sound)

theorem Valid.run {dock : Dock β} {moves : List (Move β)} (valid : dock.Valid simple)
    (allowed : ∀ move ∈ moves, move.only simple = true) : (dock.run moves).Valid simple := by
  induction moves generalizing dock with
  | nil => exact valid
  | cons first rest ih =>
    exact ih (valid.move (allowed first (List.mem_cons_self ..)))
      fun move member => allowed move (List.mem_cons_of_mem _ member)

end Dock

structure Panel.Blank (panel : Panel) : Prop where
  sessions : panel.registry.sessions = []
  retired : panel.registry.retired = []
  active : panel.registry.active = none
  bus : panel.registry.bus.table = []
  hidden : panel.isOpen = false
  unfit : panel.fitting = false

theorem Panel.create_blank {config : PanelConfig} {scheme : String} {font : Font} {height : Json} {panel : Panel}
    (created : Panel.create config scheme font height = .ok panel) : panel.Blank := by
  simp only [create, bind, Except.bind] at created
  split at created
  · cases created
  · cases created
    exact ⟨rfl, rfl, rfl, rfl, rfl, rfl⟩

theorem Panel.Blank.wellFormed {panel : Panel} (blank : panel.Blank) : panel.registry.WellFormed := by
  obtain ⟨sessions, retired, active, bus, -, -⟩ := blank
  have nobody : panel.registry.everyone = [] := by rw [Registry.everyone, sessions, retired]; rfl
  refine ⟨?_, ?_, ?_, ?_, ?_, ?_⟩
  · rw [sessions]
    exact List.nodup_nil
  · intro id session live
    rw [Registry.session?, sessions] at live
    cases live
  · rw [nobody]
    exact List.nodup_nil
  · intro session member
    rw [nobody] at member
    cases member
  · intro id chosen
    rw [active] at chosen
    cases chosen
  · rw [Event.Bus.Sound, bus]
    exact List.nodup_nil

/-- A panel as it comes, for sessions in a directory that always exists. -/
def Panel.standard : Panel where
  registry := { factory := { theme := .dark, font := .measured "Menlo" 13 } }
  cwd := "/tmp"
  height := 300

theorem Panel.standard_blank : standard.Blank :=
  ⟨rfl, rfl, rfl, rfl, rfl, rfl⟩

/-- A panel that never had a session, with its backend, before anything was asked of it. -/
def Dock.fresh {β : Type} (panel : Panel) (backend : β) (hook : Transport.FailureHook) : Dock β :=
  { panel := panel, backend := backend, hook := hook }

theorem Dock.valid_fresh {β : Type} {simple : Request β → Bool} {panel : Panel} (blank : panel.Blank) (backend : β)
    (hook : Transport.FailureHook) : (Dock.fresh panel backend hook).Valid simple :=
  ⟨blank.wellFormed, fun _ member => nomatch member⟩

end TerminalDock
