import TerminalDock.Proofs.CallOrder

/-! Who lets whom go on. Every task that is not at work itself is given exactly one turn: it was asked for already, or
will be when a group of tasks is complete, a process is answered for, or the lock of opening is given back. -/

namespace TerminalDock

namespace Assoc
variable {κ α γ : Type} [DecidableEq κ]

private theorem map_values_put {key : κ} {old value : α} {table : Assoc κ α} (found : table.find? key = some old)
    {look : α → γ}
    (same : look value = look old) : (table.put key value).values.map look = table.values.map look := by
  induction table with
  | nil => cases found
  | cons entry rest ih =>
    obtain ⟨name, other⟩ := entry
    by_cases here : name = key
    · simp only [find?, here, if_true, Option.some.injEq] at found
      simp only [put, values, here, if_true, List.map_cons, same, found]
    · simp only [find?, here, if_false] at found
      simp only [put, values, here, if_false, List.map_cons, List.cons.injEq, true_and]
      exact ih found

end Assoc

namespace Loop.Scheduler
variable {α ρ : Type} {scheduler : Scheduler α ρ}

def waiters (scheduler : Scheduler α ρ) : List TaskId :=
  scheduler.groups.values.map Group.waiter

/-- How many turns a task is given: those that were asked for, and one for each group that it waits for. -/
def summons (scheduler : Scheduler α ρ) (task : TaskId) : Nat :=
  scheduler.ready.count (.resume task) + scheduler.waiters.count task

theorem summons_enqueue (scheduler : Scheduler α ρ) (turn : Turn) (task : TaskId) :
    (scheduler.enqueue turn).summons task = scheduler.summons task + if turn = .resume task then 1 else 0 := by
  have ready : (scheduler.enqueue turn).ready.count (.resume task) =
      scheduler.ready.count (.resume task) + if turn = .resume task then 1 else 0 := by
    rw [enqueue, List.count_append, List.count_singleton]
    simp only [beq_iff_eq]
  have waiters : (scheduler.enqueue turn).waiters = scheduler.waiters := rfl
  rw [summons, ready, waiters, summons]
  omega

private theorem summons_calm (scheduler : Scheduler α ρ) {turn : Turn} (calm : ∀ task, turn ≠ .resume task) (task : TaskId) :
    (scheduler.enqueue turn).summons task = scheduler.summons task := by
  rw [summons_enqueue, if_neg (calm task), Nat.add_zero]

private theorem summons_onFinish (scheduler : Scheduler α ρ) (task : TaskId) {turn : Turn}
    (calm : ∀ task, turn ≠ .resume task)
    (other : TaskId) : (scheduler.onFinish task turn).summons other = scheduler.summons other := by
  unfold onFinish
  split
  · rfl
  · exact summons_calm scheduler calm other

theorem summons_started (scheduler : Scheduler α ρ) (activity : α) (task : TaskId) :
    (scheduler.started activity).summons task = scheduler.summons task + if task = scheduler.fresh then 1 else 0 := by
  have given := summons_enqueue (scheduler.create activity).2 (.resume scheduler.fresh) task
  simp only [Turn.resume.injEq, eq_comm (a := scheduler.fresh)] at given
  exact given

theorem summons_submit (scheduler : Scheduler α ρ) (activity : α) (task : TaskId) :
    (scheduler.submit activity).summons task = scheduler.summons task + if task = scheduler.fresh then 1 else 0 := by
  rw [submit_eq, summons_onFinish _ _ fun other => Turn.noConfusion]
  exact summons_started scheduler activity task

theorem summons_finish (leaves : scheduler.Leaves) (task : TaskId) (result : ρ) (other : TaskId) :
    (scheduler.finish task result).summons other = scheduler.summons other := by
  have none : (scheduler.turnsAt task).count (.resume other) = 0 := List.count_eq_zero.mpr (leaves.calm task other)
  have ready : (scheduler.finish task result).ready.count (.resume other) = scheduler.ready.count (.resume other) := by
    change (scheduler.ready ++ scheduler.turnsAt task).count _ = _
    rw [List.count_append, none, Nat.add_zero]
  rw [summons, ready]
  rfl

theorem waiters_waitFor (bounded : scheduler.Bounded) (waiter : TaskId) (tasks : List TaskId) :
    (scheduler.waitFor waiter tasks).waiters = scheduler.waiters ++ [waiter] := by
  have free : scheduler.groups.find? scheduler.fresh = none := by
    refine Assoc.find?_eq_none.mpr fun member => ?_
    obtain ⟨entry, inside, same⟩ := List.mem_map.mp member
    exact Nat.lt_irrefl _ (same ▸ (bounded.groups entry inside).1)
  rw [waiters, (scheduler.waitFor_turns waiter tasks).1, Assoc.put_of_absent free, Assoc.values, List.map_append,
    List.map_append]
  rfl

theorem summons_waitFor (bounded : scheduler.Bounded) (waiter : TaskId) (tasks : List TaskId) (task : TaskId) :
    (scheduler.waitFor waiter tasks).summons task = scheduler.summons task + if task = waiter then 1 else 0 := by
  obtain ⟨-, more, ready, arrive⟩ := scheduler.waitFor_turns waiter tasks
  have nobody : more.count (.resume task) = 0 :=
    List.count_eq_zero.mpr fun member => Turn.noConfusion (arrive _ member)
  rw [summons, ready, waiters_waitFor bounded, List.count_append, List.count_append, nobody, List.count_singleton, summons]
  simp only [beq_iff_eq, eq_comm (a := waiter)]
  omega

theorem waiters_arrive (scheduler : Scheduler α ρ) (group : Nat) :
    ∀ task ∈ (scheduler.arrive group).waiters, task ∈ scheduler.waiters := by
  unfold arrive
  cases found : scheduler.groups.find? group with
  | none => exact fun _ member => member
  | some waiting =>
    dsimp only
    split
    · exact fun _ member => (((Assoc.remove_sublist group scheduler.groups).map Prod.snd).map Group.waiter).subset member
    · have waiters : ({ scheduler with groups := scheduler.groups.put group ⟨waiting.missing - 1, waiting.waiter⟩ } :
          Scheduler α ρ).waiters = scheduler.waiters := Assoc.map_values_put found rfl
      rw [waiters]
      exact fun _ member => member

theorem summons_arrive (scheduler : Scheduler α ρ) (group : Nat) (task : TaskId) :
    (scheduler.arrive group).summons task = scheduler.summons task := by
  unfold arrive
  cases found : scheduler.groups.find? group with
  | none => rfl
  | some waiting =>
    obtain ⟨missing, waiter⟩ := waiting
    dsimp only
    split
    · have waiters : scheduler.waiters.Perm (waiter :: ({ scheduler with groups := scheduler.groups.remove group } :
          Scheduler α ρ).waiters) := ((Assoc.perm_remove found).map Prod.snd).map Group.waiter
      rw [summons_enqueue, summons, summons, waiters.count_eq, List.count_cons]
      simp only [Turn.resume.injEq, beq_iff_eq]
      omega
    · have waiters : ({ scheduler with groups := scheduler.groups.put group ⟨missing - 1, waiter⟩ } :
          Scheduler α ρ).waiters = scheduler.waiters := Assoc.map_values_put found rfl
      rw [summons, waiters]
      rfl

theorem summons_pop {turn : Turn} {rest : List Turn} (next : scheduler.ready = turn :: rest) (task : TaskId) :
    scheduler.summons task =
      ({ scheduler with ready := rest } : Scheduler α ρ).summons task + if turn = .resume task then 1 else 0 := by
  have ready : scheduler.ready.count (.resume task) = rest.count (.resume task) + if turn = .resume task then 1 else 0 := by
    rw [next, List.count_cons]
    simp only [beq_iff_eq]
  change _ = rest.count (.resume task) + scheduler.waiters.count task + _
  rw [summons, ready]
  omega

end Loop.Scheduler

end TerminalDock
