import TerminalDock.Proofs.TaskNumbers

/-! Calls that are pending. A call is pending as long as it is made, or somebody sweeps; a sweep waits for its own calls,
and then until none is pending. -/

namespace TerminalDock

namespace Loop.Scheduler
variable {α ρ : Type} {scheduler : Scheduler α ρ}

theorem turnsAt_put_self (task : TaskId) (turns : List Turn) :
    ({ scheduler with callbacks := scheduler.callbacks.put task turns } : Scheduler α ρ).turnsAt task = turns := by
  rw [turnsAt, Assoc.find?_put_self]
  rfl

theorem turnsAt_put_of_ne {task other : TaskId} (different : other ≠ task) (turns : List Turn) :
    ({ scheduler with callbacks := scheduler.callbacks.put task turns } : Scheduler α ρ).turnsAt other =
      scheduler.turnsAt other := by
  rw [turnsAt, Assoc.find?_put_of_ne different]
  rfl

private theorem pending_onFinish (scheduler : Scheduler α ρ) (task : TaskId) (turn : Turn) :
    (scheduler.onFinish task turn).pending = scheduler.pending := by
  obtain ⟨_, _, same⟩ := onFinish_eq scheduler task turn
  rw [same]

theorem pending_submit (activity : α) :
    (scheduler.submit activity).pending = scheduler.pending ++ [scheduler.fresh] := by
  rw [submit_eq, pending_onFinish]

theorem pending_waitFor (waiter : TaskId) (tasks : List TaskId) :
    (scheduler.waitFor waiter tasks).pending = scheduler.pending := by
  obtain ⟨_, _, same⟩ := waitFor_eq scheduler waiter tasks
  rw [same]

theorem pending_arrive (scheduler : Scheduler α ρ) (group : Nat) : (scheduler.arrive group).pending = scheduler.pending := by
  obtain ⟨_, _, same⟩ := arrive_eq scheduler group
  rw [same]

/-- Only the end of a call lets it leave, and no end of a task lets others go on. -/
structure Leaves (scheduler : Scheduler α ρ) : Prop where
  ended : ∀ task, .leave task ∈ scheduler.ready → task ∉ scheduler.running.keys
  own : ∀ task other, .leave other ∈ scheduler.turnsAt task → other = task
  calm : ∀ task other, .resume other ∉ scheduler.turnsAt task

namespace Leaves

theorem empty : ({} : Scheduler α ρ).Leaves :=
  ⟨fun _ _ => List.not_mem_nil, fun _ _ member => absurd member List.not_mem_nil, fun _ _ => List.not_mem_nil⟩

theorem enqueue (leaves : scheduler.Leaves) {turn : Turn} (stays : ∀ task, turn ≠ .leave task) :
    (scheduler.enqueue turn).Leaves := by
  refine ⟨fun task member => ?_, leaves.own, leaves.calm⟩
  rcases List.mem_append.mp member with old | new
  · exact leaves.ended task old
  · exact absurd (List.mem_singleton.mp new).symm (stays task)

theorem pop (leaves : scheduler.Leaves) {rest : List Turn} (next : ∀ turn ∈ rest, turn ∈ scheduler.ready) :
    ({ scheduler with ready := rest } : Scheduler α ρ).Leaves :=
  ⟨fun task member => leaves.ended task (next _ member), leaves.own, leaves.calm⟩

theorem create (leaves : scheduler.Leaves) (bounded : scheduler.Bounded) (activity : α) :
    (scheduler.create activity).2.Leaves := by
  refine ⟨fun task member among => ?_, leaves.own, leaves.calm⟩
  rcases Assoc.mem_keys_put among with rfl | running
  · exact absurd (bounded.ready _ member) (Nat.lt_irrefl _)
  · exact leaves.ended task member running

theorem started (leaves : scheduler.Leaves) (bounded : scheduler.Bounded) (activity : α) :
    (scheduler.started activity).Leaves :=
  (leaves.create bounded activity).enqueue nofun

theorem onFinish (leaves : scheduler.Leaves) (task : TaskId) {turn : Turn} (calm : ∀ other, turn ≠ .resume other)
    (fair : ∀ other, turn = .leave other → other = task ∧ task ∈ scheduler.running.keys) :
    (scheduler.onFinish task turn).Leaves := by
  by_cases present : task ∈ scheduler.running.keys
  · rw [onFinish_running present]
    refine ⟨leaves.ended, fun other left member => ?_, fun other resumed member => ?_⟩
    · by_cases here : other = task
      · rw [here, turnsAt_put_self] at member
        rcases List.mem_append.mp member with old | new
        · exact (leaves.own task left old).trans here.symm
        · exact (fair left (List.mem_singleton.mp new).symm).1.trans here.symm
      · rw [turnsAt_put_of_ne here] at member
        exact leaves.own other left member
    · by_cases here : other = task
      · rw [here, turnsAt_put_self] at member
        rcases List.mem_append.mp member with old | new
        · exact leaves.calm task resumed old
        · exact calm resumed (List.mem_singleton.mp new).symm
      · rw [turnsAt_put_of_ne here] at member
        exact leaves.calm other resumed member
  · rw [onFinish_gone present]
    exact leaves.enqueue fun other same => present (fair other same).2

theorem submit (leaves : scheduler.Leaves) (bounded : scheduler.Bounded) (activity : α) :
    (scheduler.submit activity).Leaves := by
  rw [submit_eq]
  have started : ({ scheduler.started activity with pending := scheduler.pending ++ [scheduler.fresh] } :
      Scheduler α ρ).Leaves := { leaves.started bounded activity with }
  refine started.onFinish scheduler.fresh nofun fun other same => ?_
  cases same
  exact ⟨rfl, fresh_running activity⟩

theorem suspend (leaves : scheduler.Leaves) {task : TaskId} (present : task ∈ scheduler.running.keys) (activity : α) :
    (scheduler.suspend task activity).Leaves := by
  refine ⟨fun other member among => leaves.ended other member ?_, leaves.own, leaves.calm⟩
  exact Assoc.keys_put_of_present present activity ▸ among

theorem finish (leaves : scheduler.Leaves) (bounded : scheduler.Bounded) (task : TaskId) (result : ρ) :
    (scheduler.finish task result).Leaves := by
  have fewer : ∀ other ∈ (scheduler.running.remove task).keys, other ∈ scheduler.running.keys :=
    fun other member => ((Assoc.remove_sublist task scheduler.running).map Prod.fst).subset member
  have turns (other : TaskId) : ∀ turn ∈ (scheduler.finish task result).turnsAt other, turn ∈ scheduler.turnsAt other := by
    intro turn member
    have member : turn ∈ ((scheduler.callbacks.remove task).find? other).getD [] := member
    by_cases here : other = task
    · rw [here, Assoc.find?_remove_self bounded.marks] at member
      cases member
    · rwa [Assoc.find?_remove_of_ne here] at member
  refine ⟨fun other member among => ?_, fun other left member => leaves.own other left (turns other _ member),
    fun other resumed member => leaves.calm other resumed (turns other _ member)⟩
  rcases List.mem_append.mp member with old | new
  · exact leaves.ended other old (fewer other among)
  · rw [leaves.own task other new] at among
    exact Assoc.find?_eq_none.mp (Assoc.find?_remove_self bounded.unique) among

theorem arrivals (leaves : scheduler.Leaves) (group : Nat) (tasks : List TaskId) :
    (tasks.foldl (fun scheduler task => scheduler.onFinish task (.arrive group)) scheduler).Leaves := by
  induction tasks generalizing scheduler with
  | nil => exact leaves
  | cons task rest ih => exact ih (leaves.onFinish task nofun nofun)

theorem waitFor (leaves : scheduler.Leaves) (task : TaskId) (tasks : List TaskId) :
    (scheduler.waitFor task tasks).Leaves := by
  refine Leaves.arrivals ?_ scheduler.fresh tasks
  exact { leaves with }

theorem arrive (leaves : scheduler.Leaves) (group : Nat) : (scheduler.arrive group).Leaves := by
  unfold Scheduler.arrive
  split
  · exact leaves
  next missing waiter _ =>
    split
    · have fewer : ({ scheduler with groups := scheduler.groups.remove group } : Scheduler α ρ).Leaves := { leaves with }
      exact fewer.enqueue fun task => nofun
    · exact { leaves with }

end Leaves

end Loop.Scheduler

/-- The requests that neither sweep nor change the backend. -/
def Request.windowed {β : Type} : Request β → Bool
  | .closeAll | .shutdown | .adjust _ => false
  | _ => true

/-- A stage at which a call is made, or is about to be made. -/
def Stage.calling {β : Type} : Stage β → Bool
  | .call _ | .callEnding .. => true
  | _ => false

theorem Stage.calling_of_waiting {β : Type} {stage : Stage β} (waits : stage.waiting = true) : stage.calling = false := by
  cases stage with
  | call | callEnding => cases waits
  | _ => rfl

/-- Only operations are started, and none that sweeps. -/
def Stage.Windowed {β : Type} (stage : Stage β) : Prop :=
  ∃ request, stage = .begin request ∧ request.only Request.windowed = true

theorem Request.windowed_grants {β : Type} {request : Request β} (windowed : request.only Request.windowed = true) :
    request.Grants Stage.Windowed := by
  cases request with
  | background name request => exact ⟨request, rfl, windowed⟩
  | gather requests => exact fun request member => ⟨request, rfl, Request.only_of_mem windowed request member⟩
  | closeAll | shutdown => cases windowed
  | _ => trivial

namespace Agenda
variable {β : Type} {licence : Stage β → Prop} {who sweeper : Option Loop.TaskId} {calls : List Loop.TaskId}
  {agenda next : Agenda β}

/-- A call is made only while it is pending or among the calls of the one who sweeps. -/
structure Kept (sweeper : Option Loop.TaskId) (calls : List Loop.TaskId) (agenda : Agenda β) : Prop where
  leaves : agenda.scheduler.Leaves
  callers : ∀ task job, agenda.scheduler.running.find? task = some job → job.stage.calling = true →
    task ∈ agenda.scheduler.pending ∨ task ∈ calls
  begins : ∀ task label request, agenda.scheduler.running.find? task = some ⟨.begin request, label⟩ →
    request.only Request.windowed = true ∨ sweeper = some task

namespace Kept

theorem of_put {last : Agenda β} {task : Loop.TaskId} {job : Job β} (kept : agenda.Kept sweeper calls)
    (leaves : last.scheduler.Leaves) (running : last.scheduler.running = agenda.scheduler.running.put task job)
    (pending : ∀ other ∈ agenda.scheduler.pending, other ∈ last.scheduler.pending)
    (caller : job.stage.calling = true → task ∈ last.scheduler.pending ∨ task ∈ calls)
    (begins : ∀ label request, job = ⟨.begin request, label⟩ →
      request.only Request.windowed = true ∨ sweeper = some task) : last.Kept sweeper calls := by
  refine ⟨leaves, fun other found there calling => ?_, fun other label request there => ?_⟩
  · rw [running] at there
    by_cases here : other = task
    · rw [here, Assoc.find?_put_self] at there
      cases there
      exact here ▸ caller calling
    · rw [Assoc.find?_put_of_ne here] at there
      exact (kept.callers other found there calling).imp_left (pending other)
  · rw [running] at there
    by_cases here : other = task
    · rw [here, Assoc.find?_put_self] at there
      exact here ▸ begins label request (Option.some.inj there)
    · rw [Assoc.find?_put_of_ne here] at there
      exact kept.begins other label request there

private theorem of_fewer {last : Agenda β} (kept : agenda.Kept sweeper calls) (leaves : last.scheduler.Leaves)
    (fewer : ∀ task job, last.scheduler.running.find? task = some job → agenda.scheduler.running.find? task = some job)
    (pending : ∀ task ∈ agenda.scheduler.pending, task ∈ last.scheduler.running.keys → task ∈ last.scheduler.pending) :
    last.Kept sweeper calls := by
  refine ⟨leaves, fun task job there calling => ?_, fun task label request there => ?_⟩
  · refine (kept.callers task job (fewer task job there) calling).imp_left fun member => pending task member ?_
    exact Assoc.mem_keys_iff.mpr ⟨job, there⟩
  · exact kept.begins task label request (fewer task _ there)

theorem create (kept : agenda.Kept sweeper calls) (bounded : agenda.Bounded) (label : Option String) {request : Request β}
    (fair : request.only Request.windowed = true ∨ sweeper = some agenda.scheduler.fresh) :
    (agenda.onTasks fun scheduler => (scheduler.create ⟨.begin request, label⟩).2).Kept sweeper calls := by
  refine kept.of_put (kept.leaves.create bounded.tasks _) rfl (fun _ member => member) nofun ?_
  rintro label request ⟨⟩
  exact fair

theorem finish (kept : agenda.Kept sweeper calls) (bounded : agenda.Bounded) (task : Loop.TaskId)
    (result : Except Failure Answer) : (agenda.onTasks (·.finish task result)).Kept sweeper calls :=
  kept.of_fewer (kept.leaves.finish bounded.tasks task result)
    (fun _ _ there => Assoc.find?_of_remove bounded.tasks.unique there) fun _ member _ => member

theorem step (kept : agenda.Kept sweeper calls) (bounded : agenda.Bounded)
    (step : Step Stage.Windowed who agenda next) : next.Kept sweeper calls := by
  have still {last : Agenda β} (leaves : last.scheduler.Leaves)
      (running : last.scheduler.running = agenda.scheduler.running)
      (pending : last.scheduler.pending = agenda.scheduler.pending) : last.Kept sweeper calls := by
    refine kept.of_fewer leaves (fun task job there => ?_) fun task member _ => ?_
    · rwa [running] at there
    · rwa [pending]
  cases step with
  | shift queued waiting => exact still kept.leaves rfl rfl
  | wake waiting => exact still (kept.leaves.enqueue nofun) rfl rfl
  | start label fair =>
    obtain ⟨request, rfl, windowed⟩ := fair
    refine kept.of_put (kept.leaves.started bounded.tasks _) rfl (fun _ member => member) ?_ ?_
    · intro calling
      cases calling
    · intro other begun same
      cases same
      exact .inl windowed
  | submit call =>
    refine kept.of_put (kept.leaves.submit bounded.tasks _) (Loop.Scheduler.running_submit _ _) ?_ ?_ ?_
    · intro other member
      rw [onTasks, Loop.Scheduler.pending_submit]
      exact List.mem_append_left _ member
    · intro _
      rw [onTasks, Loop.Scheduler.pending_submit]
      exact .inl (List.mem_append_right _ (List.mem_singleton_self _))
    · intro label request same
      cases same
  | suspend job mine present waits =>
    refine kept.of_put (kept.leaves.suspend present _) rfl (fun _ member => member) ?_ ?_
    · intro calling
      rw [Stage.calling_of_waiting waits] at calling
      cases calling
    · rintro label request rfl
      cases waits
  | finish mine present => exact kept.finish bounded _ _
  | waitFor mine present =>
    exact still (kept.leaves.waitFor _ _) (Loop.Scheduler.running_waitFor _ _ _) (Loop.Scheduler.pending_waitFor _ _)

theorem pop (kept : agenda.Kept sweeper calls) {rest : List Loop.Turn}
    (next : ∀ turn ∈ rest, turn ∈ agenda.scheduler.ready) : (agenda.popped rest).Kept sweeper calls :=
  { kept with leaves := kept.leaves.pop next }

theorem turned (kept : agenda.Kept sweeper calls) (bounded : agenda.Bounded)
    (turned : Turned Stage.Windowed agenda next) : next.Kept sweeper calls := by
  have popped {turn : Loop.Turn} {rest : List Loop.Turn} (next : agenda.scheduler.ready = turn :: rest) :
      (agenda.popped rest).Kept sweeper calls ∧ (agenda.popped rest).Bounded := by
    have older : ∀ other ∈ rest, other ∈ agenda.scheduler.ready :=
      fun other member => next ▸ List.mem_cons_of_mem _ member
    exact ⟨kept.pop older, bounded.pop older⟩
  cases turned with
  | idle => exact kept
  | lost next => exact (popped next).1
  | worked next found operation steps =>
    refine (steps.keep (·.Kept sweeper calls) (popped next).2 (fun task mine => ?_)
      (fun step before kept => kept.step before step) (popped next).1).2
    cases mine
    exact bounded.tasks.running _ (Assoc.mem_keys_iff.mpr ⟨_, found⟩)
  | called result next found => exact (popped next).1.finish (popped next).2 _ result
  | lingered failure records next found =>
    have present := Assoc.mem_keys_iff.mpr ⟨_, found⟩
    refine (popped next).1.of_put (((popped next).1.leaves.suspend present _).enqueue nofun) rfl (fun _ member => member) ?_
      nofun
    exact fun _ => kept.callers _ _ found rfl
  | @left task rest next =>
    have gone := kept.leaves.ended task (next ▸ List.mem_cons_self ..)
    have leaves : ((agenda.popped rest).onTasks (·.leave task)).scheduler.Leaves := { (popped next).1.leaves with }
    refine (popped next).1.of_fewer leaves (fun _ _ there => there) fun other member present => ?_
    refine (List.mem_erase_of_ne ?_).mpr member
    rintro rfl
    exact gone present
  | @arrived group rest next =>
    refine (popped next).1.of_fewer ((popped next).1.leaves.arrive group)
      (fun other job there => ?_) fun other member _ => ?_
    · rwa [onTasks, Loop.Scheduler.running_arrive] at there
    · rwa [onTasks, Loop.Scheduler.pending_arrive]

end Kept

end Agenda

end TerminalDock
