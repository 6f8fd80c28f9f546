import TerminalDock.Proofs.Summons

/-! The lock of opening. Whatever tasks do, between turns the lock is taken exactly if a task waits for the first process
of the panel, which no other task does meanwhile, and whoever waits is let in when it is given back. -/

namespace TerminalDock

namespace Stage
variable {β : Type}

def queues : Stage β → Bool
  | .queued => true
  | _ => false

def lands : Stage β → Bool
  | .spawning .. => true
  | _ => false

/-- Waiting for the first process of the panel, with the lock of opening. -/
def flies : Stage β → Bool
  | .spawning _ (.openPanel _) => true
  | _ => false

end Stage

/-- Those who wait for the lock and have not been let in yet. -/
def OpenLock.parked (lock : OpenLock) : List Loop.TaskId :=
  if lock.taken then lock.waiting else lock.waiting.tail

namespace Dock
variable {β : Type} {who owner : Option Loop.TaskId} {task : Loop.TaskId} {dock first last : Dock β}

def During (kind : Stage β → Bool) (dock : Dock β) (task : Loop.TaskId) : Prop :=
  (dock.stageOf? task).any kind = true

theorem During.running {kind : Stage β → Bool} (during : dock.During kind task) :
    task ∈ dock.scheduler.running.keys := by
  cases found : dock.scheduler.running.find? task with
  | some job => exact Assoc.mem_keys_iff.mpr ⟨job, found⟩
  | none =>
    rw [During, stageOf?, found] at during
    cases during

theorem during_of_found {kind : Stage β → Bool} {job : Job β} (found : dock.scheduler.running.find? task = some job) :
    dock.During kind task ↔ kind job.stage = true := by
  rw [During, stageOf?, found]
  rfl

theorem during_alike {kind : Stage β → Bool} (same : last.scheduler.running = first.scheduler.running)
    (task : Loop.TaskId) : last.During kind task ↔ first.During kind task := by
  rw [During, During, stageOf?, stageOf?, same]

theorem during_put {kind : Stage β → Bool} {job : Job β}
    (running : last.scheduler.running = first.scheduler.running.put task job) (other : Loop.TaskId) :
    last.During kind other ↔ if other = task then kind job.stage = true else first.During kind other := by
  split
  next here =>
    rw [here]
    exact during_of_found (running ▸ Assoc.find?_put_self _ _ _)
  next elsewhere => rw [During, During, stageOf?, stageOf?, running, Assoc.find?_put_of_ne elsewhere]

private theorem during_remove {kind : Stage β → Bool} (unique : first.scheduler.running.keys.Nodup)
    (running : last.scheduler.running = first.scheduler.running.remove task) (other : Loop.TaskId) :
    last.During kind other ↔ other ≠ task ∧ first.During kind other := by
  by_cases here : other = task
  · rw [here, During, stageOf?, running, Assoc.find?_remove_self unique]
    exact ⟨fun never => Bool.noConfusion never, fun never => absurd rfl never.1⟩
  · rw [During, During, stageOf?, stageOf?, running, Assoc.find?_remove_of_ne here]
    exact ⟨fun during => ⟨here, during⟩, And.right⟩

/-- How many turns a task is given, as things stand. -/
def summons (dock : Dock β) (task : Loop.TaskId) : Nat :=
  dock.scheduler.summons task + dock.held.count task + dock.lock.parked.count task

/-- In the turn of a task, or between turns, every other task is given one turn; and whoever waits for the first process
of the panel has the lock of opening, which the one whose turn it is may have as well. -/
structure Gated (who owner : Option Loop.TaskId) (dock : Dock β) : Prop where
  bounded : dock.scheduler.Bounded
  leaves : dock.scheduler.Leaves
  working : ∀ task, who = some task → task ∈ dock.scheduler.running.keys
  once : ∀ task, dock.summons task = if task ∈ dock.scheduler.running.keys ∧ who ≠ some task then 1 else 0
  distinct : dock.lock.waiting.Nodup
  queued : ∀ task, task ∈ dock.lock.waiting ↔ who ≠ some task ∧ dock.During Stage.queues task
  held : ∀ task ∈ dock.held, dock.During Stage.lands task
  waiters : ∀ task ∈ dock.scheduler.waiters, dock.During Stage.gathers task
  taken : dock.lock.taken = owner.isSome
  owns : ∀ task, who ≠ some task → (dock.During Stage.flies task ↔ owner = some task)

namespace Gated

private theorem unsummoned (gated : dock.Gated (some task) owner) : dock.summons task = 0 := by
  rw [gated.once, if_neg fun never => never.2 rfl]

private theorem ne_of_held (gated : dock.Gated (some task) owner) {other : Loop.TaskId} (member : other ∈ dock.held) :
    other ≠ task := by
  rintro rfl
  have none := gated.unsummoned
  have some := List.count_pos_iff.mpr member
  rw [summons] at none
  omega

private theorem ne_of_waiter (gated : dock.Gated (some task) owner) {other : Loop.TaskId}
    (member : other ∈ dock.scheduler.waiters) : other ≠ task := by
  rintro rfl
  have none := gated.unsummoned
  have some := List.count_pos_iff.mpr member
  rw [summons, Loop.Scheduler.summons] at none
  omega

theorem absent (gated : dock.Gated who owner) (gone : task ∉ dock.scheduler.running.keys) : dock.summons task = 0 := by
  rw [gated.once, if_neg fun never => gone never.1]

theorem fresh (gated : dock.Gated who owner) : dock.scheduler.fresh ∉ dock.scheduler.running.keys :=
  fun member => Nat.lt_irrefl _ (gated.bounded.running _ member)

theorem of_alike (gated : first.Gated who owner) (scheduler : last.scheduler = first.scheduler)
    (lock : last.lock = first.lock) (held : last.held = first.held) : last.Gated who owner := by
  have during {kind : Stage β → Bool} (task : Loop.TaskId) : last.During kind task ↔ first.During kind task :=
    during_alike (congrArg Loop.Scheduler.running scheduler) task
  refine ⟨scheduler ▸ gated.bounded, scheduler ▸ gated.leaves, scheduler ▸ gated.working, ?_, lock ▸ gated.distinct, ?_, ?_,
    ?_, lock ▸ gated.taken, ?_⟩
  · intro task
    rw [summons, scheduler, lock, held]
    exact gated.once task
  · intro task
    rw [lock, during]
    exact gated.queued task
  · intro task member
    rw [held] at member
    exact (during task).mpr (gated.held task member)
  · intro task member
    rw [scheduler] at member
    exact (during task).mpr (gated.waiters task member)
  · intro task other
    rw [during]
    exact gated.owns task other

theorem newcomer (gated : first.Gated who owner) {job : Job β} (bounded : last.scheduler.Bounded)
    (leaves : last.scheduler.Leaves)
    (running : last.scheduler.running = first.scheduler.running.put first.scheduler.fresh job)
    (eager : job.stage.waiting = false)
    (turns : ∀ task, last.scheduler.summons task =
      first.scheduler.summons task + if task = first.scheduler.fresh then 1 else 0)
    (waiters : last.scheduler.waiters = first.scheduler.waiters) (lock : last.lock = first.lock)
    (held : last.held = first.held) : last.Gated who owner := by
  have keys (task : Loop.TaskId) : task ∈ last.scheduler.running.keys ↔
      task = first.scheduler.fresh ∨ task ∈ first.scheduler.running.keys := by
    rw [running]
    refine ⟨Assoc.mem_keys_put, fun member => ?_⟩
    rcases member with rfl | old
    · exact Assoc.mem_keys_iff.mpr ⟨job, Assoc.find?_put_self _ _ _⟩
    · exact Assoc.keys_subset_put _ _ _ old
  have other : who ≠ some first.scheduler.fresh := fun mine => gated.fresh (gated.working _ mine)
  have during {kind : Stage β → Bool} (never : kind job.stage = false) (task : Loop.TaskId) :
      last.During kind task ↔ first.During kind task := by
    rw [during_put running]
    split
    next here =>
      rw [here, never]
      exact ⟨fun never => Bool.noConfusion never, fun during => absurd during.running gated.fresh⟩
    next => exact Iff.rfl
  have plain : job.stage.queues = false ∧ job.stage.lands = false ∧ job.stage.gathers = false ∧ job.stage.flies = false := by
    cases stage : job.stage with
    | begin | call | callEnding => exact ⟨rfl, rfl, rfl, rfl⟩
    | _ => rw [stage] at eager; cases eager
  refine ⟨bounded, leaves, fun task mine => (keys task).mpr (.inr (gated.working task mine)), fun task => ?_,
    lock ▸ gated.distinct, fun task => ?_, fun task member => ?_, fun task member => ?_, lock ▸ gated.taken,
      fun task mine => ?_⟩
  · rw [summons, turns, held, lock]
    have before := gated.once task
    rw [summons] at before
    by_cases here : task = first.scheduler.fresh
    · rw [if_neg fun inside => gated.fresh (here ▸ inside.1)] at before
      rw [if_pos here, if_pos ⟨(keys task).mpr (.inl here), here ▸ other⟩]
      omega
    · have same : (task ∈ last.scheduler.running.keys ∧ who ≠ some task) ↔
          (task ∈ first.scheduler.running.keys ∧ who ≠ some task) := by rw [keys, or_iff_right here]
      rw [if_neg here, if_congr same rfl rfl]
      omega
  · rw [lock, during plain.1]
    exact gated.queued task
  · rw [held] at member
    exact (during plain.2.1 task).mpr (gated.held task member)
  · rw [waiters] at member
    exact (during plain.2.2.1 task).mpr (gated.waiters task member)
  · rw [during plain.2.2.2]
    exact gated.owns task mine

private theorem pauses (gated : first.Gated (some task) owner) {job : Job β} (bounded : last.scheduler.Bounded)
    (leaves : last.scheduler.Leaves) (running : last.scheduler.running = first.scheduler.running.put task job)
    (turns : ∀ other, last.summons other = first.summons other + if other = task then 1 else 0)
    (distinct : last.lock.waiting.Nodup)
    (queued : ∀ other, other ∈ last.lock.waiting ↔
      other ∈ first.lock.waiting ∨ other = task ∧ job.stage.queues = true)
    (held : ∀ other ∈ last.held, other ∈ first.held ∨ other = task ∧ job.stage.lands = true)
    (waiters : ∀ other ∈ last.scheduler.waiters, other ∈ first.scheduler.waiters ∨
      other = task ∧ job.stage.gathers = true)
    (taken : last.lock.taken = first.lock.taken) (owns : job.stage.flies = true ↔ owner = some task) :
    last.Gated none owner := by
  have present := gated.working task rfl
  have keys : last.scheduler.running.keys = first.scheduler.running.keys := by
    rw [running]
    exact Assoc.keys_put_of_present present job
  have elsewhere {other : Loop.TaskId} (different : other ≠ task) : some task ≠ some other :=
    fun same => different (Option.some.inj same).symm
  refine ⟨bounded, leaves, fun _ never => absurd never.symm (Option.some_ne_none _), fun other => ?_, distinct,
    fun other => ?_,
    fun other member => ?_, fun other member => ?_, taken.trans gated.taken, fun other _ => ?_⟩
  · rw [turns, gated.once, keys]
    by_cases here : other = task
    · simp [here, present]
    · simp [here, elsewhere here]
  · rw [queued, during_put running, gated.queued]
    by_cases here : other = task
    · simp [here]
    · simp [here, elsewhere here]
  · rw [during_put running]
    rcases held other member with old | ⟨rfl, lands⟩
    · rw [if_neg (gated.ne_of_held old)]
      exact gated.held other old
    · rwa [if_pos rfl]
  · rw [during_put running]
    rcases waiters other member with old | ⟨rfl, gathers⟩
    · rw [if_neg (gated.ne_of_waiter old)]
      exact gated.waiters other old
    · rwa [if_pos rfl]
  · rw [during_put running]
    split
    next here => exact here ▸ owns
    next different => exact gated.owns other (elsewhere different)

private theorem concludes (gated : first.Gated (some task) owner) (apart : owner ≠ some task)
    (bounded : last.scheduler.Bounded) (leaves : last.scheduler.Leaves)
    (running : last.scheduler.running = first.scheduler.running.remove task)
    (turns : ∀ task, last.scheduler.summons task = first.scheduler.summons task)
    (waiters : last.scheduler.waiters = first.scheduler.waiters) (lock : last.lock = first.lock)
    (held : last.held = first.held) : last.Gated none owner := by
  have unique := gated.bounded.unique
  have keys (other : Loop.TaskId) : other ∈ last.scheduler.running.keys ↔
      other ≠ task ∧ other ∈ first.scheduler.running.keys := by
    rw [running, Assoc.mem_keys_iff, Assoc.mem_keys_iff]
    by_cases here : other = task
    · rw [here, Assoc.find?_remove_self unique]
      exact ⟨fun never => absurd never.choose_spec.symm (Option.some_ne_none _), fun never => absurd rfl never.1⟩
    · rw [Assoc.find?_remove_of_ne here]
      exact ⟨fun there => ⟨here, there⟩, And.right⟩
  have elsewhere {other : Loop.TaskId} : some task ≠ some other ↔ other ≠ task :=
    ⟨fun different same => different (congrArg some same.symm), fun different same => different (Option.some.inj same).symm⟩
  refine ⟨bounded, leaves, fun _ never => absurd never.symm (Option.some_ne_none _), fun other => ?_, lock ▸ gated.distinct,
    fun other => ?_, fun other member => ?_, fun other member => ?_, lock ▸ gated.taken, fun other _ => ?_⟩
  · have same : (other ∈ last.scheduler.running.keys ∧ (none : Option Loop.TaskId) ≠ some other) ↔
        other ∈ first.scheduler.running.keys ∧ some task ≠ some other := by
      rw [keys, elsewhere, and_comm, and_comm (a := other ≠ task)]
      simp
    rw [summons, turns, lock, held, if_congr same rfl rfl]
    exact gated.once other
  · rw [lock, gated.queued, during_remove unique running, elsewhere]
    simp
  · rw [held] at member
    exact (during_remove unique running other).mpr ⟨gated.ne_of_held member, gated.held other member⟩
  · rw [waiters] at member
    exact (during_remove unique running other).mpr ⟨gated.ne_of_waiter member, gated.waiters other member⟩
  · rw [during_remove unique running]
    by_cases here : other = task
    · rw [here]
      exact ⟨fun never => absurd rfl never.1, fun mine => absurd mine apart⟩
    · rw [gated.owns other (elsewhere.mpr here)]
      exact ⟨And.right, fun mine => ⟨here, mine⟩⟩

end Gated

namespace Gated

theorem see (gated : dock.Gated who owner) (sights : List (Sight Answer)) : (dock.see sights).Gated who owner :=
  gated.of_alike rfl rfl rfl

theorem log (gated : dock.Gated who owner) (records : List LogRecord) : (dock.log records).Gated who owner :=
  gated.see _

theorem start (gated : dock.Gated who owner) {stage : Stage β} (label : Option String) (eager : stage.waiting = false) :
    ({ dock with scheduler := (dock.scheduler.start ⟨stage, label⟩).2 } : Dock β).Gated who owner :=
  gated.newcomer (gated.bounded.started _) (gated.leaves.started gated.bounded _) rfl eager
    (dock.scheduler.summons_started _) rfl rfl rfl

theorem submit (gated : dock.Gated who owner) (call : BackendCall) :
    ({ dock with scheduler := dock.scheduler.submit ⟨.call call, none⟩ } : Dock β).Gated who owner :=
  gated.newcomer (gated.bounded.submit _) (gated.leaves.submit gated.bounded _) (Loop.Scheduler.running_submit _ _) rfl
    (dock.scheduler.summons_submit _) (congrArg (·.values.map Loop.Group.waiter) (Loop.Scheduler.groups_onFinish _ _ _))
    rfl rfl

theorem absorb (gated : dock.Gated who owner) : dock.absorb.Gated who owner := by
  have submitted (calls : List BackendCall) (dock : Dock β) (gated : dock.Gated who owner) : ({ dock with
      scheduler := calls.foldl (fun scheduler call => scheduler.submit ⟨.call call, none⟩) dock.scheduler } :
      Dock β).Gated who owner := by
    induction calls generalizing dock with
    | nil => exact gated
    | cons call rest ih => exact ih _ (gated.submit call)
  exact (submitted dock.panel.registry.outbox dock gated).of_alike rfl rfl rfl

theorem change (gated : dock.Gated who owner) (f : Panel → Panel) : (dock.change f).Gated who owner := by
  have changed : ({ dock with panel := f dock.panel } : Dock β).Gated who owner := gated.of_alike rfl rfl rfl
  exact changed.absorb

theorem onPanel {α : Type} (gated : dock.Gated who owner) (act : PanelStep α) : (dock.onPanel act).2.Gated who owner := by
  rw [onPanel_change]
  exact gated.change _

theorem settle (gated : dock.Gated who owner) (made : Except Failure Session) (previous : Option Session) :
    (dock.settle made previous).Gated who owner := by
  unfold Dock.settle
  split
  · exact gated
  · exact gated.change _

theorem release (gated : dock.Gated who owner) {first : Loop.TaskId} {rest : List Loop.TaskId}
    (held : dock.held.Perm (first :: rest)) :
    ({ dock with held := rest, scheduler := dock.scheduler.enqueue (.resume first) } : Dock β).Gated who owner := by
  have waits : first ∈ dock.held := held.symm.subset (List.mem_cons_self ..)
  have given : first < dock.scheduler.fresh := gated.bounded.running first (gated.held first waits).running
  refine { gated with
    bounded := gated.bounded.enqueue given
    leaves := gated.leaves.enqueue fun _ => Loop.Turn.noConfusion
    once := fun task => ?_
    held := fun task member => gated.held task (held.symm.subset (List.mem_cons_of_mem _ member)) }
  refine Eq.trans ?_ (gated.once task)
  have waiting : dock.held.count task = rest.count task + if first = task then 1 else 0 := by
    rw [held.count_eq, List.count_cons]
    simp only [beq_iff_eq]
  have turns := dock.scheduler.summons_enqueue (.resume first) task
  simp only [Loop.Turn.resume.injEq] at turns
  change (dock.scheduler.enqueue (.resume first)).summons task + rest.count task + dock.lock.parked.count task = _
  rw [summons]
  omega

end Gated

theorem conclude_same (dock : Dock β) (task : Loop.TaskId) (result : Except Failure Answer) :
    (dock.conclude task result).scheduler = dock.scheduler.finish task result ∧
      (dock.conclude task result).lock = dock.lock ∧ (dock.conclude task result).held = dock.held := by
  unfold conclude
  dsimp only
  split <;> exact ⟨rfl, rfl, rfl⟩

private theorem unlock_free {dock : Dock β} (nobody : dock.lock.waiting = []) :
    dock.unlock = { dock with lock := { dock.lock with taken := false } } := by
  simp only [unlock, nobody]

private theorem unlock_next {dock : Dock β} {first : Loop.TaskId} {rest : List Loop.TaskId}
    (waiting : dock.lock.waiting = first :: rest) : dock.unlock = { dock with
      lock := { dock.lock with taken := false }
      scheduler := dock.scheduler.enqueue (.resume first) } := by
  simp only [unlock, waiting]

/-- Between turns, the lock of opening is as it should be. -/
def Fair (dock : Dock β) : Prop :=
  ∃ owner, dock.Gated none owner

namespace Gated

theorem conclude (gated : dock.Gated (some task) owner) (apart : owner ≠ some task) (result : Except Failure Answer) :
    (dock.conclude task result).Gated none owner := by
  obtain ⟨scheduler, lock, held⟩ := conclude_same dock task result
  have present := gated.working task rfl
  refine gated.concludes apart ?_ ?_ ?_ (fun other => ?_) ?_ lock held
  · exact scheduler ▸ gated.bounded.finish present result
  · exact scheduler ▸ gated.leaves.finish gated.bounded task result
  · rw [scheduler]
    rfl
  · rw [scheduler]
    exact Loop.Scheduler.summons_finish gated.leaves task result other
  · rw [scheduler]
    rfl

theorem unlock (gated : dock.Gated (some task) (some task)) : dock.unlock.Gated (some task) none := by
  have taken : dock.lock.taken = true := gated.taken
  have nobody (other : Loop.TaskId) (mine : some task ≠ some other) : ¬dock.During Stage.flies other :=
    fun flies => mine ((gated.owns other mine).mp flies)
  have owns (other : Loop.TaskId) (mine : some task ≠ some other) :
      dock.During Stage.flies other ↔ (none : Option Loop.TaskId) = some other :=
    ⟨fun flies => absurd flies (nobody other mine), fun never => absurd never.symm (Option.some_ne_none _)⟩
  cases waiting : dock.lock.waiting with
  | nil =>
    rw [unlock_free waiting]
    refine { gated with once := fun other => ?_, taken := rfl, owns := owns }
    refine Eq.trans ?_ (gated.once other)
    rw [summons, summons, OpenLock.parked, OpenLock.parked, taken, waiting]
    rfl
  | cons first rest =>
    rw [unlock_next waiting]
    have waits : first ∈ dock.lock.waiting := waiting ▸ List.mem_cons_self ..
    have given : first < dock.scheduler.fresh :=
      gated.bounded.running first ((gated.queued first).mp waits).2.running
    refine { gated with
      bounded := gated.bounded.enqueue given
      leaves := gated.leaves.enqueue fun _ => Loop.Turn.noConfusion
      once := fun other => ?_
      taken := rfl
      owns := owns }
    refine Eq.trans ?_ (gated.once other)
    have turns := dock.scheduler.summons_enqueue (.resume first) other
    simp only [Loop.Turn.resume.injEq] at turns
    have parked : dock.lock.parked.count other = rest.count other + if first = other then 1 else 0 := by
      rw [OpenLock.parked, taken, if_pos rfl, waiting, List.count_cons]
      simp only [beq_iff_eq]
    change (dock.scheduler.enqueue (.resume first)).summons other + dock.held.count other +
      dock.lock.waiting.tail.count other = _
    rw [summons, waiting, List.tail_cons]
    omega

theorem concludeOpen (gated : dock.Gated (some task) (some task)) (result : Except Failure Answer) :
    (dock.concludeOpen task result).Fair :=
  ⟨none, gated.unlock.conclude (Option.some_ne_none task).symm result⟩

theorem fair (gated : dock.Gated none owner) : dock.Fair := ⟨owner, gated⟩

theorem hold (gated : dock.Gated (some task) owner) (cwd : String) (purpose : Purpose)
    (owns : (Stage.spawning cwd purpose : Stage β).flies = true ↔ owner = some task) :
    ({ dock.suspend task (.spawning cwd purpose) with held := dock.held ++ [task] } : Dock β).Gated none owner := by
  have present := gated.working task rfl
  refine gated.pauses (gated.bounded.suspend present _) (gated.leaves.suspend present _) rfl (fun other => ?_) gated.distinct
    (fun other => ?_) (fun other member => ?_) (fun other => .inl) rfl owns
  · change dock.scheduler.summons other + (dock.held ++ [task]).count other + dock.lock.parked.count other = _
    rw [List.count_append, List.count_singleton, summons]
    simp only [beq_iff_eq, eq_comm (a := task)]
    omega
  · simp [Stage.queues, Dock.suspend]
  · rcases List.mem_append.mp member with old | new
    · exact .inl old
    · exact .inr ⟨List.mem_singleton.mp new, rfl⟩

theorem queue (gated : dock.Gated (some task) owner) (apart : owner ≠ some task)
    (busy : dock.lock.taken = true ∨ dock.lock.waiting ≠ []) :
    ({ dock.suspend task .queued with lock := { dock.lock with waiting := dock.lock.waiting ++ [task] } } :
      Dock β).Gated none owner := by
  have present := gated.working task rfl
  have absent : task ∉ dock.lock.waiting := fun member => ((gated.queued task).mp member).1 rfl
  refine gated.pauses (gated.bounded.suspend present _) (gated.leaves.suspend present _) rfl (fun other => ?_) ?_
    (fun other => ?_) (fun other => .inl) (fun other => .inl) rfl ?_
  · have parked : ({ dock.lock with waiting := dock.lock.waiting ++ [task] } : OpenLock).parked =
        dock.lock.parked ++ [task] := by
      unfold OpenLock.parked
      dsimp only
      split
      · rfl
      next free =>
        have some : dock.lock.waiting ≠ [] := busy.resolve_left free
        exact List.tail_append_of_ne_nil some
    change dock.scheduler.summons other + dock.held.count other +
      ({ dock.lock with waiting := dock.lock.waiting ++ [task] } : OpenLock).parked.count other = _
    rw [parked, List.count_append, List.count_singleton, summons]
    simp only [beq_iff_eq, eq_comm (a := task)]
    omega
  · refine List.nodup_append.mpr ⟨gated.distinct, List.nodup_singleton task, fun one old other new => ?_⟩
    rw [List.mem_singleton.mp new]
    rintro rfl
    exact absent old
  · simp [Stage.queues]
  · exact ⟨fun never => Bool.noConfusion never, fun mine => absurd mine apart⟩

theorem gather (gated : dock.Gated (some task) owner) (apart : owner ≠ some task) {stage : Stage β}
    (gathers : stage.gathers = true) (tasks : List Loop.TaskId) :
    ({ dock.suspend task stage with scheduler := (dock.suspend task stage).scheduler.waitFor task tasks } :
      Dock β).Gated none owner := by
  have present := gated.working task rfl
  have bounded : (dock.suspend task stage).scheduler.Bounded := gated.bounded.suspend present _
  have still : task ∈ (dock.suspend task stage).scheduler.running.keys :=
    Assoc.mem_keys_iff.mpr ⟨_, Assoc.find?_put_self _ _ _⟩
  have plain : stage.queues = false ∧ stage.flies = false := by
    cases stage with
    | sweeping | draining | gathering => exact ⟨rfl, rfl⟩
    | _ => cases gathers
  refine gated.pauses (bounded.waitFor still tasks) ((gated.leaves.suspend present _).waitFor _ _)
    (Loop.Scheduler.running_waitFor _ _ _) (fun other => ?_) gated.distinct (fun other => ?_) (fun other => .inl)
    (fun other member => ?_) rfl ?_
  · have turns := Loop.Scheduler.summons_waitFor bounded task tasks other
    change ((dock.suspend task stage).scheduler.waitFor task tasks).summons other + dock.held.count other +
      dock.lock.parked.count other = _
    have same : (dock.suspend task stage).scheduler.summons other = dock.scheduler.summons other := rfl
    rw [summons]
    omega
  · rw [plain.1]
    simp [Dock.suspend]
  · rw [Loop.Scheduler.waiters_waitFor bounded] at member
    rcases List.mem_append.mp member with old | new
    · exact .inl old
    · exact .inr ⟨List.mem_singleton.mp new, gathers⟩
  · rw [plain.2]
    exact ⟨fun never => Bool.noConfusion never, fun mine => absurd mine apart⟩

theorem linger (gated : dock.Gated (some task) owner) (apart : owner ≠ some task) (call : BackendCall)
    (failure : Option Failure) (records : List LogRecord) :
    ({ dock.suspend task (.callEnding call failure records) with
      scheduler := (dock.suspend task (.callEnding call failure records)).scheduler.enqueue (.resume task) } :
      Dock β).Gated none owner := by
  have present := gated.working task rfl
  have given : task < dock.scheduler.fresh := gated.bounded.running task present
  refine gated.pauses ((gated.bounded.suspend present _).enqueue given)
    ((gated.leaves.suspend present _).enqueue fun _ => Loop.Turn.noConfusion) rfl (fun other => ?_) gated.distinct
    (fun other => ?_) (fun other => .inl) (fun other => .inl) rfl ?_
  · have turns := (dock.suspend task (.callEnding call failure records)).scheduler.summons_enqueue (.resume task) other
    simp only [Loop.Turn.resume.injEq, eq_comm (a := task)] at turns
    have same : (dock.suspend task (.callEnding call failure records)).scheduler.summons other =
      dock.scheduler.summons other := rfl
    change ((dock.suspend task (.callEnding call failure records)).scheduler.enqueue (.resume task)).summons other +
      dock.held.count other + dock.lock.parked.count other = _
    rw [summons]
    omega
  · simp [Stage.queues, Dock.suspend]
  · exact ⟨fun never => Bool.noConfusion never, fun mine => absurd mine apart⟩

theorem take (gated : dock.Gated (some task) owner) (free : dock.lock.taken = false) (nobody : dock.lock.waiting = []) :
    ({ dock with lock := { dock.lock with taken := true } } : Dock β).Gated (some task) (some task) := by
  have unowned : owner = none := Option.isSome_eq_false_iff.mp (gated.taken.symm.trans free) |> Option.isNone_iff_eq_none.mp
  subst unowned
  refine { gated with once := fun other => ?_, taken := rfl, owns := fun other mine => ?_ }
  · refine Eq.trans ?_ (gated.once other)
    rw [summons, summons, OpenLock.parked, OpenLock.parked, free, nobody]
    rfl
  · have nobody : dock.During Stage.flies other ↔ (none : Option Loop.TaskId) = some other := gated.owns other mine
    exact nobody.trans ⟨fun never => absurd never.symm (Option.some_ne_none _), fun same => absurd same mine⟩

end Gated

def popped (rest : List Loop.Turn) (dock : Dock β) : Dock β :=
  { dock with scheduler := { dock.scheduler with ready := rest } }

namespace Gated

theorem apart (gated : dock.Gated none owner) (plain : ¬dock.During Stage.flies task) : owner ≠ some task :=
  fun mine => plain ((gated.owns task (Option.some_ne_none task).symm).mpr mine)

private theorem pop_turns {turn : Loop.Turn} {rest : List Loop.Turn} (ready : dock.scheduler.ready = turn :: rest)
    (other : Loop.TaskId) :
    dock.summons other = (dock.popped rest).summons other + if turn = .resume other then 1 else 0 := by
  have turns : dock.scheduler.summons other =
      (dock.popped rest).scheduler.summons other + if turn = .resume other then 1 else 0 :=
    Loop.Scheduler.summons_pop ready other
  have popped : (dock.popped rest).summons other =
      (dock.popped rest).scheduler.summons other + dock.held.count other + dock.lock.parked.count other := rfl
  rw [popped, summons, turns]
  omega

theorem older {turn : Loop.Turn} {rest : List Loop.Turn} (ready : dock.scheduler.ready = turn :: rest) :
    ∀ other ∈ rest, other ∈ dock.scheduler.ready :=
  fun _ member => ready ▸ List.mem_cons_of_mem _ member

theorem pop (gated : dock.Gated none owner) {turn : Loop.Turn} {rest : List Loop.Turn}
    (ready : dock.scheduler.ready = turn :: rest) (calm : ∀ task, turn ≠ .resume task) :
    (dock.popped rest).Gated none owner := by
  refine { gated with
    bounded := gated.bounded.pop (older ready)
    leaves := gated.leaves.pop (older ready)
    once := fun other => ?_ }
  have turns := pop_turns ready other
  rw [if_neg (calm other), Nat.add_zero] at turns
  exact turns.symm.trans (gated.once other)

theorem summoned (gated : dock.Gated none owner) {rest : List Loop.Turn}
    (ready : dock.scheduler.ready = .resume task :: rest) : task ∈ dock.scheduler.running.keys := by
  by_contra gone
  have turns := pop_turns ready task
  rw [gated.absent gone, if_pos rfl] at turns
  omega

private theorem pop_once (gated : dock.Gated none owner) {rest : List Loop.Turn}
    (ready : dock.scheduler.ready = .resume task :: rest) (other : Loop.TaskId) :
    (dock.popped rest).summons other =
      if other ∈ dock.scheduler.running.keys ∧ some task ≠ some other then 1 else 0 := by
  have turns := pop_turns ready other
  rw [gated.once] at turns
  by_cases here : other = task
  · simp only [here, gated.summoned ready, true_and, ne_eq, not_true_eq_false, if_false, if_true] at turns ⊢
    simpa using turns
  · have different : task ≠ other := fun same => here same.symm
    simp only [Loop.Turn.resume.injEq, different, if_false, Nat.add_zero] at turns
    rw [← turns]
    simp [different]

theorem resumes (gated : dock.Gated none owner) {rest : List Loop.Turn}
    (ready : dock.scheduler.ready = .resume task :: rest) (plain : ¬dock.During Stage.queues task) :
    (dock.popped rest).Gated (some task) owner := by
  refine { gated with
    bounded := gated.bounded.pop (older ready)
    leaves := gated.leaves.pop (older ready)
    working := fun other mine => Option.some.inj mine ▸ gated.summoned ready
    once := gated.pop_once ready
    queued := fun other => ?_
    owns := fun other _ => gated.owns other (Option.some_ne_none other).symm }
  have waits := gated.queued other
  refine waits.trans ⟨fun queued => ⟨?_, queued.2⟩, fun queued => ⟨(Option.some_ne_none other).symm, queued.2⟩⟩
  intro same
  cases same
  exact plain queued.2

/-- Whoever waits for the lock is given a turn when it is free, and if nobody has waited longer. -/
theorem enters (gated : dock.Gated none owner) {rest : List Loop.Turn}
    (ready : dock.scheduler.ready = .resume task :: rest) (queues : dock.During Stage.queues task) :
    dock.lock.taken = false ∧ ({ dock.popped rest with
      lock := { taken := true, waiting := dock.lock.waiting.erase task } } : Dock β).Gated (some task) (some task) := by
  have waits : task ∈ dock.lock.waiting := (gated.queued task).mpr ⟨(Option.some_ne_none task).symm, queues⟩
  have once := gated.pop_once ready
  -- The one turn that a task is given is the one that is popped here, so that it is not parked; but whoever waits for
  -- a lock that is taken is.
  have unparked : task ∉ dock.lock.parked := by
    intro member
    have some := List.count_pos_iff.mpr member
    have none := once task
    rw [if_neg fun never => never.2 rfl] at none
    change _ + dock.lock.parked.count task = 0 at none
    omega
  have free : dock.lock.taken = false := by
    refine Bool.eq_false_iff.mpr fun taken => unparked ?_
    rwa [OpenLock.parked, taken, if_pos rfl]
  have unowned : owner = none := Option.isNone_iff_eq_none.mp (Option.isSome_eq_false_iff.mp (gated.taken.symm.trans free))
  subst unowned
  rw [OpenLock.parked, free, if_neg Bool.false_ne_true] at unparked
  obtain ⟨first, later, waiting⟩ := List.exists_cons_of_ne_nil (List.ne_nil_of_mem waits)
  obtain rfl : task = first := by
    rw [waiting] at waits unparked
    exact (List.mem_cons.mp waits).resolve_right unparked
  have distinct := gated.distinct
  rw [waiting, List.nodup_cons] at distinct
  refine ⟨free, ?_⟩
  rw [waiting, List.erase_cons_head]
  refine { gated with
    bounded := gated.bounded.pop (older ready)
    leaves := gated.leaves.pop (older ready)
    working := fun other mine => Option.some.inj mine ▸ gated.summoned ready
    once := fun other => ?_
    distinct := distinct.2
    queued := fun other => ?_
    taken := rfl
    owns := fun other mine => ?_ }
  · refine Eq.trans ?_ (once other)
    change _ + later.count other = _ + dock.lock.parked.count other
    rw [OpenLock.parked, free, waiting, if_neg Bool.false_ne_true, List.tail_cons]
  · have before := gated.queued other
    rw [waiting, List.mem_cons] at before
    change other ∈ later ↔ some task ≠ some other ∧ dock.During Stage.queues other
    constructor
    · intro member
      refine ⟨?_, (before.mp (.inr member)).2⟩
      rintro ⟨⟩
      exact distinct.1 member
    · intro ⟨different, queued⟩
      refine (before.mpr ⟨(Option.some_ne_none other).symm, queued⟩).resolve_left ?_
      rintro rfl
      exact different rfl
  · have nobody := gated.owns other (Option.some_ne_none other).symm
    exact nobody.trans ⟨fun never => absurd never.symm (Option.some_ne_none _), fun same => absurd same mine⟩

end Gated

end Dock

end TerminalDock
