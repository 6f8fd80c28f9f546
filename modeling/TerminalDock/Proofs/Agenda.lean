import Mathlib.Logic.Relation
import TerminalDock.Proofs.DockCalls

/-! The work under way. Whatever a task does in its turn, its work goes on in a few steps: it wakes others, starts tasks
and submits calls, and in the end it waits or has finished. -/

namespace TerminalDock

/-- The tasks, those that wait for the lock of opening, and those that wait for a process. -/
structure Agenda (β : Type) where
  scheduler : Loop.Scheduler (Job β) (Except Failure Answer)
  queue : List Loop.TaskId
  held : List Loop.TaskId

/-- A stage at which an operation waits for others. -/
def Stage.waiting {β : Type} : Stage β → Bool
  | .begin _ | .call _ | .callEnding .. => false
  | _ => true

namespace Agenda
variable {β : Type}

def onTasks (agenda : Agenda β) (f : Loop.Scheduler (Job β) (Except Failure Answer) →
    Loop.Scheduler (Job β) (Except Failure Answer)) : Agenda β :=
  { agenda with scheduler := f agenda.scheduler }

/-- One step of the work in a turn, which is the turn of a task or of nobody. -/
inductive Step (licence : Stage β → Prop) (who : Option Loop.TaskId) : Agenda β → Agenda β → Prop
  /-- Others stop waiting, or the task begins to wait. -/
  | shift {agenda : Agenda β} {queue held : List Loop.TaskId}
      (queued : ∀ task ∈ queue, task ∈ agenda.queue ∨ who = some task)
      (waiting : ∀ task ∈ held, task ∈ agenda.held ∨ who = some task) :
    Step licence who agenda { agenda with queue := queue, held := held }
  | wake {agenda : Agenda β} {task : Loop.TaskId} (waiting : task ∈ agenda.queue ∨ task ∈ agenda.held) :
    Step licence who agenda (agenda.onTasks (·.enqueue (.resume task)))
  | start {agenda : Agenda β} {stage : Stage β} (label : Option String) (fair : licence stage) :
    Step licence who agenda (agenda.onTasks fun scheduler => (scheduler.start ⟨stage, label⟩).2)
  | submit {agenda : Agenda β} (call : BackendCall) :
    Step licence who agenda (agenda.onTasks (·.submit ⟨.call call, none⟩))
  | suspend {agenda : Agenda β} {task : Loop.TaskId} (job : Job β) (mine : who = some task)
      (present : task ∈ agenda.scheduler.running.keys) (waits : job.stage.waiting = true) :
    Step licence who agenda (agenda.onTasks (·.suspend task job))
  | finish {agenda : Agenda β} {task : Loop.TaskId} {result : Except Failure Answer} (mine : who = some task)
      (present : task ∈ agenda.scheduler.running.keys) :
    Step licence who agenda (agenda.onTasks (·.finish task result))
  | waitFor {agenda : Agenda β} {task : Loop.TaskId} {tasks : List Loop.TaskId} (mine : who = some task)
      (present : task ∈ agenda.scheduler.running.keys) :
    Step licence who agenda (agenda.onTasks (·.waitFor task tasks))

abbrev Steps (licence : Stage β → Prop) (who : Option Loop.TaskId) : Agenda β → Agenda β → Prop :=
  Relation.ReflTransGen (Step licence who)

def popped (rest : List Loop.Turn) (agenda : Agenda β) : Agenda β :=
  agenda.onTasks fun scheduler => { scheduler with ready := rest }

inductive Turned (licence : Stage β → Prop) (agenda : Agenda β) : Agenda β → Prop
  | idle (calm : agenda.scheduler.ready = []) : Turned licence agenda agenda
  | lost {task : Loop.TaskId} {rest : List Loop.Turn} (next : agenda.scheduler.ready = .resume task :: rest)
      (gone : task ∉ agenda.scheduler.running.keys) : Turned licence agenda (agenda.popped rest)
  | worked {task : Loop.TaskId} {rest : List Loop.Turn} {job : Job β} {last : Agenda β}
      (next : agenda.scheduler.ready = .resume task :: rest) (found : agenda.scheduler.running.find? task = some job)
      (operation : job.stage.call? = none) (steps : Steps licence task (agenda.popped rest) last) :
    Turned licence agenda last
  /-- A call begins and ends at once. -/
  | called {task : Loop.TaskId} {rest : List Loop.Turn} {call : BackendCall} {label : Option String}
      (result : Except Failure Answer) (next : agenda.scheduler.ready = .resume task :: rest)
      (found : agenda.scheduler.running.find? task = some ⟨.call call, label⟩) :
    Turned licence agenda ((agenda.popped rest).onTasks (·.finish task result))
  /-- A call begins and ends later. -/
  | lingered {task : Loop.TaskId} {rest : List Loop.Turn} {call : BackendCall} {label : Option String}
      (failure : Option Failure) (records : List LogRecord) (next : agenda.scheduler.ready = .resume task :: rest)
      (found : agenda.scheduler.running.find? task = some ⟨.call call, label⟩) :
    Turned licence agenda ((agenda.popped rest).onTasks (·.yield task ⟨.callEnding call failure records, label⟩))
  | left {task : Loop.TaskId} {rest : List Loop.Turn} (next : agenda.scheduler.ready = .leave task :: rest) :
    Turned licence agenda ((agenda.popped rest).onTasks (·.leave task))
  | arrived {group : Nat} {rest : List Loop.Turn} (next : agenda.scheduler.ready = .arrive group :: rest) :
    Turned licence agenda ((agenda.popped rest).onTasks (·.arrive group))

end Agenda

namespace Dock
variable {β : Type}

def agenda (dock : Dock β) : Agenda β :=
  ⟨dock.scheduler, dock.lock.waiting, dock.held⟩

/-- A part of a turn after which every task is still at work. -/
structure Stays (licence : Stage β → Prop) (who : Option Loop.TaskId) (first last : Dock β) : Prop where
  steps : Agenda.Steps licence who first.agenda last.agenda
  kept : ∀ task ∈ first.scheduler.running.keys, task ∈ last.scheduler.running.keys

/-- A part of the turn of a task, up to its end. -/
def Works (licence : Stage β → Prop) (task : Loop.TaskId) (first last : Dock β) : Prop :=
  task ∈ first.scheduler.running.keys → Agenda.Steps licence task first.agenda last.agenda

variable {licence : Stage β → Prop} {who : Option Loop.TaskId} {task : Loop.TaskId} {first middle last : Dock β}

namespace Stays

theorem of_alike (same : last.agenda = first.agenda) : Stays licence who first last := by
  refine ⟨?_, fun task member => ?_⟩
  · rw [same]
  · have running : last.scheduler.running = first.scheduler.running :=
      congrArg (fun agenda : Agenda β => agenda.scheduler.running) same
    rwa [running]

protected theorem refl (dock : Dock β) : Stays licence who dock dock := .of_alike rfl

protected theorem trans (before : Stays licence who first middle) (later : Stays licence who middle last) :
    Stays licence who first last :=
  ⟨before.steps.trans later.steps, fun task member => later.kept task (before.kept task member)⟩

private theorem andWorks (stays : Stays licence task first middle) (works : Works licence task middle last) :
    Works licence task first last :=
  fun present => stays.steps.trans (works (stays.kept task present))

end Stays

theorem conclude_agenda (dock : Dock β) (task : Loop.TaskId) (result : Except Failure Answer) :
    (dock.conclude task result).agenda = dock.agenda.onTasks (·.finish task result) := by
  unfold conclude
  dsimp only
  split <;> rfl

private theorem conclude_works (dock : Dock β) (result : Except Failure Answer) :
    Works licence task dock (dock.conclude task result) := by
  intro present
  rw [conclude_agenda]
  exact .single (.finish rfl present)

private theorem suspend_stays (dock : Dock β) {stage : Stage β} (present : task ∈ dock.scheduler.running.keys)
    (waits : stage.waiting = true) : Stays licence task dock (dock.suspend task stage) := by
  refine ⟨.single (.suspend _ rfl present waits), fun other member => ?_⟩
  exact (Assoc.keys_put_of_present present _).symm ▸ member

private theorem unlock_stays (dock : Dock β) : Stays licence who dock dock.unlock := by
  unfold unlock
  dsimp only
  split
  · exact .of_alike rfl
  next first rest waiting =>
    refine ⟨.single (.wake (.inl ?_)), fun _ member => member⟩
    change first ∈ dock.lock.waiting
    rw [waiting]
    exact List.mem_cons_self ..

/-- What the panel submitted waits under new tasks. -/
theorem absorb_stays (dock : Dock β) : Stays licence who dock dock.absorb := by
  have submitted (calls : List BackendCall) (dock : Dock β) : Stays licence who dock
      { dock with scheduler := calls.foldl (fun scheduler call => scheduler.submit ⟨.call call, none⟩) dock.scheduler } := by
    induction calls generalizing dock with
    | nil => exact .refl dock
    | cons call rest ih =>
      have submitted : Stays licence who dock { dock with scheduler := dock.scheduler.submit ⟨.call call, none⟩ } := by
        refine ⟨.single (.submit call), fun other member => ?_⟩
        rw [Loop.Scheduler.running_submit]
        exact Assoc.keys_subset_put _ _ _ member
      exact submitted.trans (ih { dock with scheduler := dock.scheduler.submit ⟨.call call, none⟩ })
  exact (submitted _ dock).trans (.of_alike rfl)

theorem change_stays (dock : Dock β) (f : Panel → Panel) : Stays licence who dock (dock.change f) := by
  have changed : Stays licence who dock { dock with panel := f dock.panel } := .of_alike rfl
  exact changed.trans (absorb_stays _)

theorem onPanel_stays {α : Type} (dock : Dock β) (act : PanelStep α) : Stays licence who dock (dock.onPanel act).2 := by
  rw [onPanel_change]
  exact change_stays dock _

/-- Whatever is done in a turn, the work goes on by steps. -/
theorem stays_rules : PartRules licence (Stays licence who) where
  refl := .refl
  trans := .trans
  see _ _ _ := .of_alike rfl
  start _ _ label fair := ⟨.single (.start label fair), fun _ member => Assoc.keys_subset_put _ _ _ member⟩
  serve _ _ := .of_alike rfl
  change dock f _ := change_stays dock f
  unlock := unlock_stays
  take dock waiting fewer :=
    ⟨.single (.shift (fun _ member => .inl (fewer.subset member)) fun _ => .inl), fun _ member => member⟩
  free dock first rest held := by
    have among {other : Loop.TaskId} (member : other ∈ first :: rest) : other ∈ dock.agenda.held := by
      change other ∈ dock.held
      rwa [held]
    have woken : Agenda.Step licence who dock.agenda (dock.agenda.onTasks (·.enqueue (.resume first))) :=
      .wake (.inr (among (List.mem_cons_self ..)))
    refine ⟨.tail (.single woken) (.shift (fun _ => .inl) fun other member => .inl ?_), fun _ member => member⟩
    exact among (List.mem_cons_of_mem _ member)

private theorem works_rules (task : Loop.TaskId) : TurnRules licence task (Stays licence task) (Works licence task) where
  toPartRules := stays_rules
  follow := Stays.andWorks
  conclude := conclude_works
  await dock tasks stage gathers present := by
    have waits : stage.waiting = true := by
      cases stage <;> first | rfl | cases gathers
    have suspended : Stays licence task dock (dock.suspend task stage) := suspend_stays dock present waits
    exact suspended.steps.trans (.single (.waitFor rfl (suspended.kept task present)))
  hold dock cwd purpose _ present := by
    have suspended : Stays licence task dock (dock.suspend task (.spawning cwd purpose)) := suspend_stays dock present rfl
    refine suspended.steps.trans (.single (.shift (fun _ => .inl) fun other member => ?_))
    exact (List.mem_append.mp member).imp_right fun new => congrArg some (List.mem_singleton.mp new).symm
  queue dock present := by
    have suspended : Stays licence task dock (dock.suspend task .queued) := suspend_stays dock present rfl
    refine suspended.steps.trans (.single (.shift (fun other member => ?_) fun _ => .inl))
    exact (List.mem_append.mp member).imp_right fun new => congrArg some (List.mem_singleton.mp new).symm

variable [SessionBackend β]

theorem begin_works (dock : Dock β) {request : Request β} (grants : request.Grants licence) :
    Works licence task dock (dock.begin task request) := by
  cases found : Panel.perform? request with
  | none => exact (works_rules task).begin dock grants found
  | some act =>
    rw [begin_performs found]
    exact (onPanel_stays dock act).andWorks (conclude_works _ _)

theorem resume_works (dock : Dock β) {job : Job β} (found : dock.scheduler.running.find? task = some job)
    (operation : job.stage.call? = none) (grants : ∀ request, job.stage = .begin request → request.Grants licence) :
    Agenda.Steps licence task dock.agenda (dock.resume task).agenda := by
  refine (works_rules task).resume dock found (fun request begun => begin_works dock (grants request begun))
    (fun call begun => ?_) (Assoc.mem_keys_iff.mpr ⟨job, found⟩)
  rw [begun] at operation
  cases operation

theorem beginCall_agenda (dock : Dock β) {call : BackendCall} {label : Option String}
    (found : dock.scheduler.running.find? task = some ⟨.call call, label⟩) :
    (∃ result, (dock.beginCall task call).agenda = dock.agenda.onTasks (·.finish task result)) ∨
      ∃ failure records, (dock.beginCall task call).agenda =
        dock.agenda.onTasks (·.yield task ⟨.callEnding call failure records, label⟩) := by
  rcases answer : SessionBackend.begin call dock.backend with ⟨progress, records, backend⟩
  simp only [beginCall, show (dock.see [.calling call]).backend = dock.backend from rfl, answer]
  cases progress with
  | ended failure => exact .inl ⟨_, conclude_agenda _ task _⟩
  | later failure more =>
    have same : ((dock.scheduler.running.find? task).bind Job.label) = label := by rw [found]; rfl
    refine .inr ⟨failure, more, ?_⟩
    rw [← same]
    rfl

/-- Whatever a turn does, it does to the work under way by a few steps. -/
theorem turn_turned (dock : Dock β) (grants : ∀ task label request,
    dock.scheduler.running.find? task = some ⟨.begin request, label⟩ → request.Grants licence) :
    Agenda.Turned licence dock.agenda dock.turn.agenda := by
  unfold turn Loop.Scheduler.next?
  cases ready : dock.scheduler.ready with
  | nil => exact .idle ready
  | cons turn rest =>
    let popped : Dock β := { dock with scheduler := { dock.scheduler with ready := rest } }
    cases turn with
    | leave task => exact .left ready
    | arrive group => exact .arrived ready
    | resume task =>
      change Agenda.Turned licence dock.agenda (popped.resume task).agenda
      cases found : dock.scheduler.running.find? task with
      | none =>
        have lost : popped.resume task = popped := by
          simp only [resume]
          rw [show popped.scheduler.running.find? task = none from found]
        rw [lost]
        exact .lost ready (Assoc.find?_eq_none.mp found)
      | some job =>
        cases operation : job.stage.call? with
        | none =>
          refine .worked ready found operation (resume_works popped found operation fun request begun => ?_)
          obtain ⟨stage, label⟩ := job
          cases begun
          exact grants task label request found
        | some call =>
          obtain ⟨stage, label⟩ := job
          have begun : stage = .call call := by
            cases stage <;> cases operation
            rfl
          rw [begun] at found
          have goes : popped.resume task = popped.beginCall task call := by
            simp only [resume]
            rw [show popped.scheduler.running.find? task = _ from found]
          rw [goes]
          rcases beginCall_agenda popped found with ⟨result, ends⟩ | ⟨failure, records, lingers⟩
          · rw [ends]
            exact .called result ready found
          · rw [lingers]
            exact .lingered failure records ready found

end Dock

end TerminalDock
