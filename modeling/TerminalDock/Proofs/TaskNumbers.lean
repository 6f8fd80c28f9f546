import TerminalDock.Proofs.Agenda

/-! The numbers of tasks and groups. Each is given once: whatever is under way has a number that was given before. -/

namespace TerminalDock

namespace Loop

def Turn.number : Turn → Nat
  | .resume task | .leave task => task
  | .arrive group => group

namespace Scheduler
variable {α ρ : Type} {scheduler : Scheduler α ρ}

/-- All numbers were given. -/
structure Bounded (scheduler : Scheduler α ρ) : Prop where
  unique : scheduler.running.keys.Nodup
  running : ∀ task ∈ scheduler.running.keys, task < scheduler.fresh
  results : ∀ task ∈ scheduler.results.keys, task < scheduler.fresh
  ready : ∀ turn ∈ scheduler.ready, turn.number < scheduler.fresh
  marks : scheduler.callbacks.keys.Nodup
  callbacks : ∀ turns ∈ scheduler.callbacks.values, ∀ turn ∈ turns, turn.number < scheduler.fresh
  distinct : scheduler.groups.keys.Nodup
  groups : ∀ entry ∈ scheduler.groups, entry.1 < scheduler.fresh ∧ entry.2.waiter < scheduler.fresh

def turnsAt (scheduler : Scheduler α ρ) (task : TaskId) : List Turn :=
  (scheduler.callbacks.find? task).getD []

theorem onFinish_running {task : TaskId} (present : task ∈ scheduler.running.keys) (turn : Turn) :
    scheduler.onFinish task turn =
      { scheduler with callbacks := scheduler.callbacks.put task (scheduler.turnsAt task ++ [turn]) } :=
  if_pos (Assoc.has_iff_mem.mpr present)

theorem onFinish_gone {task : TaskId} (gone : task ∉ scheduler.running.keys) (turn : Turn) :
    scheduler.onFinish task turn = scheduler.enqueue turn :=
  if_neg fun present => gone (Assoc.has_iff_mem.mp present)

theorem fresh_onFinish (scheduler : Scheduler α ρ) (task : TaskId) (turn : Turn) :
    (scheduler.onFinish task turn).fresh = scheduler.fresh := by
  obtain ⟨_, _, same⟩ := onFinish_eq scheduler task turn
  rw [same]

def started (scheduler : Scheduler α ρ) (activity : α) : Scheduler α ρ :=
  { scheduler with
    running := scheduler.running.put scheduler.fresh activity
    fresh := scheduler.fresh + 1
    ready := scheduler.ready ++ [.resume scheduler.fresh] }

theorem submit_eq (activity : α) : scheduler.submit activity =
    { scheduler.started activity with pending := scheduler.pending ++ [scheduler.fresh] }.onFinish scheduler.fresh
      (.leave scheduler.fresh) := rfl

theorem fresh_running (activity : α) : scheduler.fresh ∈ (scheduler.started activity).running.keys :=
  Assoc.mem_keys_iff.mpr ⟨activity, Assoc.find?_put_self _ _ _⟩

namespace Bounded

theorem empty : ({} : Scheduler α ρ).Bounded :=
  ⟨.nil, List.forall_mem_nil _, List.forall_mem_nil _, List.forall_mem_nil _, .nil, List.forall_mem_nil _, .nil,
    List.forall_mem_nil _⟩

theorem turnsAt (bounded : scheduler.Bounded) (task : TaskId) :
    ∀ turn ∈ scheduler.turnsAt task, turn.number < scheduler.fresh := by
  unfold Scheduler.turnsAt
  cases found : scheduler.callbacks.find? task with
  | none => exact List.forall_mem_nil _
  | some turns => exact bounded.callbacks turns (Assoc.mem_values_of_find? found)

theorem enqueue (bounded : scheduler.Bounded) {turn : Turn} (given : turn.number < scheduler.fresh) :
    (scheduler.enqueue turn).Bounded :=
  { bounded with ready := List.forall_mem_append.mpr ⟨bounded.ready, List.forall_mem_singleton.mpr given⟩ }

theorem pop (bounded : scheduler.Bounded) {rest : List Turn} (next : ∀ turn ∈ rest, turn ∈ scheduler.ready) :
    ({ scheduler with ready := rest } : Scheduler α ρ).Bounded :=
  { bounded with ready := fun turn member => bounded.ready turn (next turn member) }

theorem create (bounded : scheduler.Bounded) (activity : α) : (scheduler.create activity).2.Bounded := by
  have older {number : Nat} (given : number < scheduler.fresh) : number < scheduler.fresh + 1 := by omega
  refine ⟨Assoc.keys_put_nodup bounded.unique _, fun task member => ?_,
    fun task member => older (bounded.results task member),
    fun turn member => older (bounded.ready turn member), bounded.marks,
    fun turns member turn inside => older (bounded.callbacks turns member turn inside), bounded.distinct,
    fun entry member => (bounded.groups entry member).imp older older⟩
  rcases Assoc.mem_keys_put member with rfl | old
  · exact Nat.lt_succ_self _
  · exact older (bounded.running task old)

theorem started (bounded : scheduler.Bounded) (activity : α) : (scheduler.started activity).Bounded :=
  (bounded.create activity).enqueue (Nat.lt_succ_self _)

theorem onFinish (bounded : scheduler.Bounded) (task : TaskId) {turn : Turn} (given : turn.number < scheduler.fresh) :
    (scheduler.onFinish task turn).Bounded := by
  by_cases present : task ∈ scheduler.running.keys
  · rw [onFinish_running present]
    refine { bounded with marks := Assoc.keys_put_nodup bounded.marks _, callbacks := fun turns member => ?_ }
    rcases Assoc.mem_values_put member with rfl | old
    · exact List.forall_mem_append.mpr ⟨bounded.turnsAt task, List.forall_mem_singleton.mpr given⟩
    · exact bounded.callbacks turns old
  · rw [onFinish_gone present]
    exact bounded.enqueue given

theorem submit (bounded : scheduler.Bounded) (activity : α) : (scheduler.submit activity).Bounded := by
  rw [submit_eq]
  have started : ({ scheduler.started activity with pending := scheduler.pending ++ [scheduler.fresh] } :
      Scheduler α ρ).Bounded := { bounded.started activity with }
  exact started.onFinish _ (Nat.lt_succ_self _)

theorem suspend (bounded : scheduler.Bounded) {task : TaskId} (present : task ∈ scheduler.running.keys) (activity : α) :
    (scheduler.suspend task activity).Bounded := by
  have same : (scheduler.running.put task activity).keys = scheduler.running.keys :=
    Assoc.keys_put_of_present present _
  refine { bounded with unique := same ▸ bounded.unique, running := ?_ }
  exact same.symm ▸ bounded.running

theorem finish (bounded : scheduler.Bounded) {task : TaskId} (present : task ∈ scheduler.running.keys) (result : ρ) :
    (scheduler.finish task result).Bounded := by
  refine ⟨Assoc.keys_remove_nodup bounded.unique task, fun other member => ?_, fun other member => ?_, ?_,
    Assoc.keys_remove_nodup bounded.marks task, fun turns member => ?_, bounded.distinct, bounded.groups⟩
  · exact bounded.running other (((Assoc.remove_sublist task scheduler.running).map Prod.fst).subset member)
  · rcases Assoc.mem_keys_put member with rfl | old
    · exact bounded.running other present
    · exact bounded.results other old
  · exact List.forall_mem_append.mpr ⟨bounded.ready, bounded.turnsAt task⟩
  · exact bounded.callbacks turns (((Assoc.remove_sublist task scheduler.callbacks).map Prod.snd).subset member)

theorem arrivals (bounded : scheduler.Bounded) {group : Nat} (given : group < scheduler.fresh) (tasks : List TaskId) :
    (tasks.foldl (fun scheduler task => scheduler.onFinish task (.arrive group)) scheduler).Bounded := by
  induction tasks generalizing scheduler with
  | nil => exact bounded
  | cons task rest ih =>
    exact ih (bounded.onFinish task given) ((fresh_onFinish scheduler task _).symm ▸ given)

theorem waitFor (bounded : scheduler.Bounded) {task : TaskId} (present : task ∈ scheduler.running.keys)
    (tasks : List TaskId) : (scheduler.waitFor task tasks).Bounded := by
  have older {number : Nat} (given : number < scheduler.fresh) : number < scheduler.fresh + 1 := by omega
  have grouped : ({ scheduler with
      groups := scheduler.groups.put scheduler.fresh ⟨tasks.length, task⟩
      fresh := scheduler.fresh + 1 } : Scheduler α ρ).Bounded := by
    refine ⟨bounded.unique, fun task member => older (bounded.running task member),
      fun task member => older (bounded.results task member), fun turn member => older (bounded.ready turn member),
      bounded.marks, fun turns member turn inside => older (bounded.callbacks turns member turn inside),
      Assoc.keys_put_nodup bounded.distinct _, ?_⟩
    intro entry member
    rcases Assoc.mem_put member with rfl | old
    · exact ⟨Nat.lt_succ_self _, older (bounded.running task present)⟩
    · exact (bounded.groups entry old).imp older older
  exact grouped.arrivals (Nat.lt_succ_self _) tasks

theorem arrive (bounded : scheduler.Bounded) (group : Nat) : (scheduler.arrive group).Bounded := by
  unfold Scheduler.arrive
  split
  · exact bounded
  next missing waiter found =>
    have given := bounded.groups _ (Assoc.mem_of_find? found)
    split
    · have fewer : ({ scheduler with groups := scheduler.groups.remove group } : Scheduler α ρ).Bounded :=
        { bounded with
          distinct := Assoc.keys_remove_nodup bounded.distinct group
          groups := fun entry member => bounded.groups entry ((Assoc.remove_sublist group _).subset member) }
      exact fewer.enqueue given.2
    · refine { bounded with distinct := Assoc.keys_put_nodup bounded.distinct _, groups := fun entry member => ?_ }
      rcases Assoc.mem_put member with rfl | old
      · exact given
      · exact bounded.groups entry old

end Bounded

end Scheduler

end Loop

namespace Agenda
variable {β : Type} {licence : Stage β → Prop} {who : Option Loop.TaskId} {agenda next : Agenda β}

structure Bounded (agenda : Agenda β) : Prop where
  tasks : agenda.scheduler.Bounded
  queue : ∀ task ∈ agenda.queue, task < agenda.scheduler.fresh
  held : ∀ task ∈ agenda.held, task < agenda.scheduler.fresh

namespace Bounded

theorem onTasks (bounded : agenda.Bounded) {f : Loop.Scheduler (Job β) (Except Failure Answer) →
    Loop.Scheduler (Job β) (Except Failure Answer)} (tasks : (f agenda.scheduler).Bounded)
    (fresh : agenda.scheduler.fresh ≤ (f agenda.scheduler).fresh) : (agenda.onTasks f).Bounded :=
  ⟨tasks, fun task member => Nat.lt_of_lt_of_le (bounded.queue task member) fresh,
    fun task member => Nat.lt_of_lt_of_le (bounded.held task member) fresh⟩

theorem create (bounded : agenda.Bounded) (job : Job β) :
    (agenda.onTasks fun scheduler => (scheduler.create job).2).Bounded :=
  bounded.onTasks (bounded.tasks.create job) (Nat.le_succ _)

theorem pop (bounded : agenda.Bounded) {rest : List Loop.Turn} (next : ∀ turn ∈ rest, turn ∈ agenda.scheduler.ready) :
    (agenda.popped rest).Bounded :=
  bounded.onTasks (bounded.tasks.pop next) (Nat.le_refl _)

theorem step (bounded : agenda.Bounded) (step : Step licence who agenda next)
    (given : ∀ task, who = some task → task < agenda.scheduler.fresh) : next.Bounded := by
  have tasks := bounded.tasks
  cases step with
  | shift queued waiting =>
    refine ⟨tasks, fun task member => ?_, fun task member => ?_⟩
    · exact (queued task member).elim (bounded.queue task) (given task)
    · exact (waiting task member).elim (bounded.held task) (given task)
  | wake waiting =>
    exact bounded.onTasks (tasks.enqueue (waiting.elim (bounded.queue _) (bounded.held _))) (Nat.le_refl _)
  | start label fair => exact bounded.onTasks (tasks.started _) (Nat.le_succ _)
  | submit call =>
    refine bounded.onTasks (tasks.submit _) ?_
    rw [Dock.fresh_submit]
    exact Nat.le_succ _
  | suspend job mine present waits => exact bounded.onTasks (tasks.suspend present _) (Nat.le_refl _)
  | finish mine present => exact bounded.onTasks (tasks.finish present _) (Nat.le_refl _)
  | waitFor mine present =>
    refine bounded.onTasks (tasks.waitFor present _) ?_
    rw [Dock.fresh_waitFor]
    exact Nat.le_succ _

end Bounded

theorem Step.fresh (step : Step licence who agenda next) : agenda.scheduler.fresh ≤ next.scheduler.fresh := by
  cases step with
  | shift | wake | suspend | finish => exact Nat.le_refl _
  | start => exact Nat.le_succ _
  | submit call => exact Nat.le_of_lt (Nat.lt_of_lt_of_eq (Nat.lt_succ_self _) (Dock.fresh_submit _ _).symm)
  | waitFor => exact Nat.le_of_lt (Nat.lt_of_lt_of_eq (Nat.lt_succ_self _) (Dock.fresh_waitFor _ _ _).symm)

/-- What is kept by every step of a task with a number is kept by all of them. -/
theorem Steps.keep (property : Agenda β → Prop) (steps : Steps licence who agenda next) (bounded : agenda.Bounded)
    (given : ∀ task, who = some task → task < agenda.scheduler.fresh)
    (keeps : ∀ {middle last}, Step licence who middle last → middle.Bounded → property middle → property last)
    (holds : property agenda) : next.Bounded ∧ property next := by
  -- Along the steps the numbers that were given stay below the next one, as a step has to know that of the task whose
  -- turn it is.
  have all : next.Bounded ∧ agenda.scheduler.fresh ≤ next.scheduler.fresh ∧ property next := by
    induction steps with
    | refl => exact ⟨bounded, Nat.le_refl _, holds⟩
    | tail _ step ih =>
      obtain ⟨before, grown, kept⟩ := ih
      refine ⟨before.step step fun task mine => Nat.lt_of_lt_of_le (given task mine) grown, ?_, keeps step before kept⟩
      exact Nat.le_trans grown step.fresh
  exact ⟨all.1, all.2.2⟩

theorem Step.found (step : Step licence who agenda next) (bounded : agenda.Bounded) {task : Loop.TaskId} {job : Job β}
    (found : agenda.scheduler.running.find? task = some job) (other : who ≠ some task) :
    next.scheduler.running.find? task = some job := by
  have old : task < agenda.scheduler.fresh := bounded.tasks.running task (Assoc.mem_keys_iff.mpr ⟨job, found⟩)
  have elsewhere {someone : Loop.TaskId} (mine : who = some someone) : task ≠ someone :=
    fun same => other (mine.trans (congrArg some same.symm))
  cases step with
  | shift | wake => exact found
  | start label fair => exact (Assoc.find?_put_of_ne (Nat.ne_of_lt old) _ _).trans found
  | submit call =>
    rw [onTasks, Loop.Scheduler.running_submit, Assoc.find?_put_of_ne (Nat.ne_of_lt old)]
    exact found
  | suspend job mine present waits => exact (Assoc.find?_put_of_ne (elsewhere mine) _ _).trans found
  | finish mine present => exact (Assoc.find?_remove_of_ne (elsewhere mine) _).trans found
  | waitFor mine present =>
    rw [onTasks, Loop.Scheduler.running_waitFor]
    exact found

theorem Steps.found (steps : Steps licence who agenda next) (bounded : agenda.Bounded)
    (given : ∀ task, who = some task → task < agenda.scheduler.fresh) {task : Loop.TaskId} {job : Job β}
    (found : agenda.scheduler.running.find? task = some job) (other : who ≠ some task) :
    next.scheduler.running.find? task = some job :=
  (steps.keep (fun agenda => agenda.scheduler.running.find? task = some job) bounded given
    (fun step before found => step.found before found other) found).2

theorem Turned.found (turned : Turned licence agenda next) (bounded : agenda.Bounded) {task : Loop.TaskId} {job : Job β}
    (found : agenda.scheduler.running.find? task = some job)
      (other : ∀ rest, agenda.scheduler.ready ≠ .resume task :: rest) :
    next.scheduler.running.find? task = some job := by
  have elsewhere {someone : Loop.TaskId} {rest : List Loop.Turn} (next : agenda.scheduler.ready = .resume someone :: rest) :
      task ≠ someone := by
    rintro rfl
    exact other rest next
  cases turned with
  | idle | lost | left => exact found
  | @worked _ rest _ _ next started operation steps =>
    have older : ∀ turn ∈ rest, turn ∈ agenda.scheduler.ready := fun turn member => next ▸ List.mem_cons_of_mem _ member
    refine steps.found (bounded.pop older) (fun someone mine => ?_) found fun same =>
      elsewhere next (Option.some.inj same).symm
    cases mine
    exact bounded.tasks.running _ (Assoc.mem_keys_iff.mpr ⟨_, started⟩)
  | called result next => exact (Assoc.find?_remove_of_ne (elsewhere next) _).trans found
  | lingered failure records next => exact (Assoc.find?_put_of_ne (elsewhere next) _ _).trans found
  | arrived next =>
    rw [onTasks, Loop.Scheduler.running_arrive]
    exact found

theorem Bounded.turned (bounded : agenda.Bounded) (turned : Turned licence agenda next) : next.Bounded := by
  have pop {turn : Loop.Turn} {rest : List Loop.Turn} (next : agenda.scheduler.ready = turn :: rest) :
      (agenda.popped rest).Bounded := bounded.pop fun other member => next ▸ List.mem_cons_of_mem _ member
  cases turned with
  | idle => exact bounded
  | lost next => exact pop next
  | worked next found operation steps =>
    refine (steps.keep (fun _ => True) (pop next) (fun task mine => ?_) (fun _ _ _ => trivial) trivial).1
    cases mine
    exact bounded.tasks.running _ (Assoc.mem_keys_iff.mpr ⟨_, found⟩)
  | called result next found =>
    exact (pop next).onTasks ((pop next).tasks.finish (Assoc.mem_keys_iff.mpr ⟨_, found⟩) result) (Nat.le_refl _)
  | lingered failure records next found =>
    have present := Assoc.mem_keys_iff.mpr ⟨_, found⟩
    refine (pop next).onTasks (((pop next).tasks.suspend present _).enqueue ?_) (Nat.le_refl _)
    exact bounded.tasks.running _ present
  | left next => exact (pop next).onTasks { (pop next).tasks with } (Nat.le_refl _)
  | arrived next =>
    refine (pop next).onTasks ((pop next).tasks.arrive _) ?_
    unfold Loop.Scheduler.arrive
    split
    · exact Nat.le_refl _
    · split <;> exact Nat.le_refl _

end Agenda

end TerminalDock
