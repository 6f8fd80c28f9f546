import TerminalDock.Proofs.Pending

/-! Whoever sweeps waits until all of its calls have ended, and then until no call is pending. When it has finished, no
call is made any more. -/

namespace TerminalDock

namespace Loop.Scheduler
variable {α ρ : Type} {scheduler : Scheduler α ρ}

private theorem results_onFinish (scheduler : Scheduler α ρ) (task : TaskId) (turn : Turn) :
    (scheduler.onFinish task turn).results = scheduler.results := by
  obtain ⟨_, _, same⟩ := onFinish_eq scheduler task turn
  rw [same]

theorem results_submit (activity : α) : (scheduler.submit activity).results = scheduler.results := by
  rw [submit_eq, results_onFinish]
  rfl

theorem results_waitFor (waiter : TaskId) (tasks : List TaskId) :
    (scheduler.waitFor waiter tasks).results = scheduler.results := by
  obtain ⟨_, _, same⟩ := waitFor_eq scheduler waiter tasks
  rw [same]

theorem results_arrive (scheduler : Scheduler α ρ) (group : Nat) : (scheduler.arrive group).results = scheduler.results := by
  obtain ⟨_, _, same⟩ := arrive_eq scheduler group
  rw [same]

/-- How often a turn is asked for, now or at the end of a task. -/
def due (scheduler : Scheduler α ρ) (turn : Turn) : Nat :=
  scheduler.ready.count turn + scheduler.callbacks.values.flatten.count turn

theorem due_enqueue (scheduler : Scheduler α ρ) (turn other : Turn) :
    (scheduler.enqueue turn).due other = scheduler.due other + [turn].count other := by
  have ready : (scheduler.ready ++ [turn]).count other = scheduler.ready.count other + [turn].count other :=
    List.count_append
  simp only [due, enqueue, ready]
  omega

theorem due_onFinish (scheduler : Scheduler α ρ) (task : TaskId) (turn other : Turn) :
    (scheduler.onFinish task turn).due other = scheduler.due other + [turn].count other := by
  by_cases present : task ∈ scheduler.running.keys
  · have more := (Assoc.flatten_put (scheduler.callbacks) task [turn]).count_eq other
    rw [List.count_append] at more
    simp only [onFinish_running present, due, turnsAt, more]
    omega
  · rw [onFinish_gone present]
    exact due_enqueue scheduler turn other

theorem due_finish (scheduler : Scheduler α ρ) (task : TaskId) (result : ρ) (other : Turn) :
    (scheduler.finish task result).due other = scheduler.due other := by
  have fewer := (Assoc.flatten_remove (scheduler.callbacks) task).count_eq other
  rw [List.count_append] at fewer
  simp only [due, finish, List.count_append]
  omega

/-- How many tasks are still to arrive at a group. -/
def expected (scheduler : Scheduler α ρ) (group : Nat) : Nat :=
  scheduler.ready.count (.arrive group) + scheduler.callbacks.values.flatten.count (.arrive group)

private theorem expected_enqueue (turn : Turn) (group : Nat) :
    (scheduler.enqueue turn).expected group = scheduler.expected group + [turn].count (.arrive group) :=
  due_enqueue scheduler turn (.arrive group)

theorem expected_onFinish (scheduler : Scheduler α ρ) (task : TaskId) (turn : Turn) (group : Nat) :
    (scheduler.onFinish task turn).expected group = scheduler.expected group + [turn].count (.arrive group) :=
  due_onFinish scheduler task turn (.arrive group)

private theorem expected_finish (task : TaskId) (result : ρ) (group : Nat) :
    (scheduler.finish task result).expected group = scheduler.expected group :=
  due_finish scheduler task result (.arrive group)

end Loop.Scheduler

/-- A stage after which only the calls that are pending are waited for. -/
def Stage.drains {β : Type} : Stage β → Bool
  | .sweeping _ drain => drain
  | .draining _ => true
  | _ => false

namespace Agenda
variable {β : Type} {who : Option Loop.TaskId} {sweeper group : Nat} {calls : List Loop.TaskId} {agenda next : Agenda β}

/-- Nobody wakes a task but the group that it waits for, if it waits for one. -/
structure Asleep (sweeper : Loop.TaskId) (group : Option Nat) (agenda : Agenda β) : Prop where
  asleep : .resume sweeper ∉ agenda.scheduler.ready
  alone : ∀ other missing, agenda.scheduler.groups.find? other = some ⟨missing, sweeper⟩ → group = some other
  apart : sweeper ∉ agenda.queue ∧ sweeper ∉ agenda.held

namespace Asleep
variable {group : Option Nat}

theorem enqueue (asleep : agenda.Asleep sweeper group) {turn : Loop.Turn} (elsewhere : turn ≠ .resume sweeper) :
    (agenda.onTasks (·.enqueue turn)).Asleep sweeper group := by
  refine { asleep with asleep := fun member => ?_ }
  rcases List.mem_append.mp member with old | new
  · exact asleep.asleep old
  · exact elsewhere (List.mem_singleton.mp new).symm

theorem onFinish (asleep : agenda.Asleep sweeper group) (task : Loop.TaskId) {turn : Loop.Turn}
    (elsewhere : turn ≠ .resume sweeper) : (agenda.onTasks (·.onFinish task turn)).Asleep sweeper group := by
  by_cases present : task ∈ agenda.scheduler.running.keys
  · rw [onTasks, Loop.Scheduler.onFinish_running present]
    exact { asleep with }
  · rw [onTasks, Loop.Scheduler.onFinish_gone present]
    exact asleep.enqueue elsewhere

theorem started (asleep : agenda.Asleep sweeper group) (old : sweeper < agenda.scheduler.fresh) (job : Job β) :
    (agenda.onTasks (·.started job)).Asleep sweeper group := by
  have created : (agenda.onTasks fun scheduler => (scheduler.create job).2).Asleep sweeper group := { asleep with }
  refine created.enqueue fun same => ?_
  have older : sweeper = agenda.scheduler.fresh := (Loop.Turn.resume.inj same).symm
  omega

theorem submit (asleep : agenda.Asleep sweeper group) (old : sweeper < agenda.scheduler.fresh) (job : Job β) :
    (agenda.onTasks (·.submit job)).Asleep sweeper group := by
  have pending : ({ (agenda.onTasks (·.started job)) with
      scheduler := { agenda.scheduler.started job with
        pending := agenda.scheduler.pending ++ [agenda.scheduler.fresh] } } : Agenda β).Asleep sweeper group :=
    { asleep.started old job with }
  exact pending.onFinish _ nofun

end Asleep

/-- Whoever sweeps sleeps until all of its calls have arrived. -/
structure Guarded (sweeper : Loop.TaskId) (calls : List Loop.TaskId) (group : Nat) (agenda : Agenda β) : Prop
    extends agenda.Asleep sweeper (some group) where
  waits : ∃ missing, agenda.scheduler.groups.find? group = some ⟨missing, sweeper⟩ ∧
    agenda.scheduler.expected group ≤ missing
  marked : ∀ task ∈ calls, task ∈ agenda.scheduler.running.keys → .arrive group ∈ agenda.scheduler.turnsAt task
  known : ∀ task ∈ calls, task < agenda.scheduler.fresh

namespace Guarded

theorem enqueue (guarded : agenda.Guarded sweeper calls group) {turn : Loop.Turn} (other : turn ≠ .arrive group)
    (elsewhere : turn ≠ .resume sweeper) : (agenda.onTasks (·.enqueue turn)).Guarded sweeper calls group := by
  obtain ⟨missing, found, enough⟩ := guarded.waits
  refine { guarded with toAsleep := guarded.toAsleep.enqueue elsewhere, waits := ⟨missing, found, ?_⟩ }
  rw [onTasks, Loop.Scheduler.expected_enqueue, List.count_singleton, if_neg (mt beq_iff_eq.mp other)]
  exact enough

theorem onFinish (guarded : agenda.Guarded sweeper calls group) (task : Loop.TaskId) {turn : Loop.Turn}
    (other : turn ≠ .arrive group) (elsewhere : turn ≠ .resume sweeper) :
    (agenda.onTasks (·.onFinish task turn)).Guarded sweeper calls group := by
  by_cases present : task ∈ agenda.scheduler.running.keys
  · have counted := agenda.scheduler.expected_onFinish task turn group
    rw [List.count_singleton, if_neg (mt beq_iff_eq.mp other), Loop.Scheduler.onFinish_running present] at counted
    obtain ⟨missing, found, enough⟩ := guarded.waits
    rw [onTasks, Loop.Scheduler.onFinish_running present]
    refine { guarded with waits := ⟨missing, found, counted ▸ enough⟩, marked := fun call member running => ?_ }
    have marked := guarded.marked call member running
    by_cases here : call = task
    · rw [here, Loop.Scheduler.turnsAt_put_self]
      exact List.mem_append_left _ (here ▸ marked)
    · rw [Loop.Scheduler.turnsAt_put_of_ne here]
      exact marked
  · rw [onTasks, Loop.Scheduler.onFinish_gone present]
    exact guarded.enqueue other elsewhere

theorem sweeper_lt (guarded : agenda.Guarded sweeper calls group) (bounded : agenda.Bounded) :
    sweeper < agenda.scheduler.fresh ∧ group < agenda.scheduler.fresh := by
  obtain ⟨missing, found, -⟩ := guarded.waits
  exact (bounded.tasks.groups _ (Assoc.mem_of_find? found)).symm

theorem started (guarded : agenda.Guarded sweeper calls group) (bounded : agenda.Bounded) (job : Job β) :
    (agenda.onTasks (·.started job)).Guarded sweeper calls group := by
  have older := (guarded.sweeper_lt bounded).1
  have created : (agenda.onTasks fun scheduler => (scheduler.create job).2).Guarded sweeper calls group := by
    refine { guarded with marked := fun call member running => ?_, known := fun task member => ?_ }
    · rcases Assoc.mem_keys_put running with rfl | old
      · exact absurd (guarded.known _ member) (Nat.lt_irrefl _)
      · exact guarded.marked call member old
    · exact Nat.lt_succ_of_lt (guarded.known task member)
  refine created.enqueue nofun fun same => ?_
  have again : agenda.scheduler.fresh = sweeper := Loop.Turn.resume.inj same
  omega

theorem finish (guarded : agenda.Guarded sweeper calls group) (leaves : agenda.scheduler.Leaves) (bounded : agenda.Bounded)
    (task : Loop.TaskId) (result : Except Failure Answer) :
    (agenda.onTasks (·.finish task result)).Guarded sweeper calls group := by
  obtain ⟨missing, found, enough⟩ := guarded.waits
  refine { guarded with
    asleep := fun member => ?_
    waits := ⟨missing, found, (Loop.Scheduler.expected_finish task result group).symm ▸ enough⟩
    marked := fun call member running => ?_ }
  · rcases List.mem_append.mp member with old | new
    · exact guarded.asleep old
    · exact leaves.calm task sweeper new
  · have running : call ∈ (agenda.scheduler.running.remove task).keys := running
    have elsewhere : call ≠ task := by
      rintro rfl
      exact Assoc.find?_eq_none.mp (Assoc.find?_remove_self bounded.tasks.unique) running
    have marked := guarded.marked call member
      (((Assoc.remove_sublist task agenda.scheduler.running).map Prod.fst).subset running)
    change _ ∈ ((agenda.scheduler.callbacks.remove task).find? call).getD []
    rw [Assoc.find?_remove_of_ne elsewhere]
    exact marked

theorem step (guarded : agenda.Guarded sweeper calls group) (leaves : agenda.scheduler.Leaves) (bounded : agenda.Bounded)
    {licence : Stage β → Prop} (step : Step licence who agenda next) (other : who ≠ some sweeper) :
    next.Guarded sweeper calls group := by
  cases step with
  | shift queued waiting =>
    refine { guarded with apart := ⟨fun member => ?_, fun member => ?_⟩ }
    · exact (queued sweeper member).elim guarded.apart.1 other
    · exact (waiting sweeper member).elim guarded.apart.2 other
  | wake waiting =>
    refine guarded.enqueue nofun fun same => ?_
    cases same
    exact waiting.elim guarded.apart.1 guarded.apart.2
  | start label fair => exact guarded.started bounded _
  | submit call =>
    have started := guarded.started bounded ⟨.call call, none⟩
    have pending : ({ (agenda.onTasks (·.started ⟨.call call, none⟩)) with
        scheduler := { agenda.scheduler.started ⟨.call call, none⟩ with
          pending := agenda.scheduler.pending ++ [agenda.scheduler.fresh] } } : Agenda β).Guarded sweeper calls group :=
      { started with }
    exact pending.onFinish _ nofun nofun
  | suspend job mine present waits =>
    refine { guarded with marked := fun call member running => guarded.marked call member ?_ }
    exact Assoc.keys_put_of_present present _ ▸ running
  | finish mine present => exact guarded.finish leaves bounded _ _
  | @waitFor task tasks mine present =>
    have apart : task ≠ sweeper := fun same => other (mine.trans (congrArg some same))
    have later : group ≠ agenda.scheduler.fresh := Nat.ne_of_lt (guarded.sweeper_lt bounded).2
    obtain ⟨missing, found, enough⟩ := guarded.waits
    have grouped : (agenda.onTasks fun scheduler => { scheduler with
        groups := scheduler.groups.put scheduler.fresh ⟨tasks.length, task⟩
        fresh := scheduler.fresh + 1 }).Guarded sweeper calls group := by
      refine { guarded with
        waits := ⟨missing, (Assoc.find?_put_of_ne later _ _).trans found, enough⟩
        alone := fun name count there => ?_
        known := fun call member => Nat.lt_succ_of_lt (guarded.known call member) }
      by_cases here : name = agenda.scheduler.fresh
      · rw [here] at there
        have there := (Assoc.find?_put_self _ _ _).symm.trans there
        cases there
        exact absurd rfl apart
      · exact guarded.alone name count ((Assoc.find?_put_of_ne here _ _).symm.trans there)
    have arrivals (tasks : List Loop.TaskId) {agenda : Agenda β} (guarded : agenda.Guarded sweeper calls group)
        {fresh : Nat} (later : group ≠ fresh) : (agenda.onTasks fun scheduler =>
          tasks.foldl (fun scheduler task => scheduler.onFinish task (.arrive fresh)) scheduler).Guarded sweeper calls
            group := by
      induction tasks generalizing agenda with
      | nil => exact guarded
      | cons task rest ih =>
        have elsewhere : Loop.Turn.arrive fresh ≠ .arrive group := fun same => later (Loop.Turn.arrive.inj same).symm
        exact ih (guarded.onFinish task elsewhere nofun)
    exact arrivals tasks grouped later

theorem pop (guarded : agenda.Guarded sweeper calls group) {turn : Loop.Turn} {rest : List Loop.Turn}
    (next : agenda.scheduler.ready = turn :: rest) : (agenda.popped rest).Guarded sweeper calls group := by
  obtain ⟨missing, found, enough⟩ := guarded.waits
  have fewer : (agenda.popped rest).scheduler.expected group ≤ agenda.scheduler.expected group := by
    have less : rest.count (.arrive group) ≤ agenda.scheduler.ready.count (.arrive group) :=
      next ▸ List.count_le_count_cons
    exact Nat.add_le_add_right less _
  exact { guarded with
    asleep := fun member => guarded.asleep (next ▸ List.mem_cons_of_mem _ member)
    waits := ⟨missing, found, Nat.le_trans fewer enough⟩ }

private theorem regroup (guarded : agenda.Guarded sweeper calls group) {groups : Assoc Nat Loop.Group} {elsewhere : Nat}
    (different : elsewhere ≠ group)
    (others : ∀ other, other ≠ elsewhere → groups.find? other = agenda.scheduler.groups.find? other)
    (apart : ∀ missing, groups.find? elsewhere ≠ some ⟨missing, sweeper⟩) :
    (agenda.onTasks fun scheduler => { scheduler with groups := groups }).Guarded sweeper calls group := by
  obtain ⟨missing, found, enough⟩ := guarded.waits
  refine { guarded with
    waits := ⟨missing, (others group different.symm).trans found, enough⟩
    alone := fun other count there => ?_ }
  by_cases here : other = elsewhere
  · exact absurd (here ▸ there) (apart count)
  · exact guarded.alone other count ((others other here).symm.trans there)

theorem arrive (guarded : agenda.Guarded sweeper calls group) (bounded : agenda.Bounded) {arriving : Nat}
    {rest : List Loop.Turn} (next : agenda.scheduler.ready = .arrive arriving :: rest) :
    ((agenda.popped rest).onTasks (·.arrive arriving)).Guarded sweeper calls group ∨
      ∀ task ∈ calls, task ∉ agenda.scheduler.running.keys := by
  have popped := guarded.pop next
  by_cases here : arriving = group
  · subst here
    obtain ⟨missing, found, enough⟩ := guarded.waits
    have counted : agenda.scheduler.expected arriving =
        rest.count (.arrive arriving) + 1 + agenda.scheduler.callbacks.values.flatten.count (.arrive arriving) := by
      rw [Loop.Scheduler.expected, next, List.count_cons_self]
    by_cases last : missing ≤ 1
    · refine .inr fun task member running => ?_
      have marked := guarded.marked task member running
      have among : .arrive arriving ∈ agenda.scheduler.callbacks.values.flatten := by
        unfold Loop.Scheduler.turnsAt at marked
        cases there : agenda.scheduler.callbacks.find? task with
        | none => rw [there] at marked; cases marked
        | some turns =>
          rw [there] at marked
          exact List.mem_flatten.mpr ⟨turns, Assoc.mem_values_of_find? there, marked⟩
      have some := List.count_pos_iff.mpr among
      omega
    · have arrived : (agenda.popped rest).scheduler.arrive arriving =
          { (agenda.popped rest).scheduler with groups := agenda.scheduler.groups.put arriving ⟨missing - 1, sweeper⟩ } := by
        have found : (agenda.popped rest).scheduler.groups.find? arriving = some ⟨missing, sweeper⟩ := found
        rw [Loop.Scheduler.arrive, found]
        exact if_neg last
      rw [onTasks, arrived]
      refine .inl { popped with waits := ⟨missing - 1, Assoc.find?_put_self _ _ _, ?_⟩, alone :=
        fun other count there => ?_ }
      · by_contra different
        have elsewhere : other ≠ arriving := fun same => different (congrArg some same.symm)
        exact different (guarded.alone other count ((Assoc.find?_put_of_ne elsewhere _ _).symm.trans there))
      · change rest.count (.arrive arriving) + agenda.scheduler.callbacks.values.flatten.count (.arrive arriving) ≤ _
        omega
  · refine .inl ?_
    cases found : agenda.scheduler.groups.find? arriving with
    | none =>
      have arrived : (agenda.popped rest).scheduler.arrive arriving = (agenda.popped rest).scheduler := by
        have found : (agenda.popped rest).scheduler.groups.find? arriving = none := found
        rw [Loop.Scheduler.arrive, found]
      rw [onTasks, arrived]
      exact popped
    | some other =>
      obtain ⟨missing, waiter⟩ := other
      have apart : waiter ≠ sweeper := fun same =>
        here (Option.some.inj (guarded.alone arriving missing (same ▸ found))).symm
      have found : (agenda.popped rest).scheduler.groups.find? arriving = some ⟨missing, waiter⟩ := found
      rw [onTasks, Loop.Scheduler.arrive, found]
      dsimp only
      split
      · have left : ((agenda.popped rest).onTasks fun scheduler =>
            { scheduler with groups := scheduler.groups.remove arriving }).Guarded sweeper calls group := by
          refine popped.regroup here (fun other different => Assoc.find?_remove_of_ne different _) fun count there => ?_
          have gone : (agenda.scheduler.groups.remove arriving).find? arriving = none :=
            Assoc.find?_remove_self bounded.tasks.distinct
          cases gone.symm.trans there
        exact left.enqueue Loop.Turn.noConfusion fun same => apart (Loop.Turn.resume.inj same)
      · refine popped.regroup here (fun other different => Assoc.find?_put_of_ne different _ _) fun count there => ?_
        have there := (Assoc.find?_put_self _ _ _).symm.trans there
        cases there
        exact apart rfl

theorem turned (guarded : agenda.Guarded sweeper calls group) (kept : agenda.Kept (some sweeper) calls)
    (bounded : agenda.Bounded) (turned : Turned Stage.Windowed agenda next) :
    next.Guarded sweeper calls group ∨ ∀ task ∈ calls, task ∉ next.scheduler.running.keys := by
  have older {turn : Loop.Turn} {rest : List Loop.Turn} (next : agenda.scheduler.ready = turn :: rest) :
      ∀ other ∈ rest, other ∈ agenda.scheduler.ready := fun other member => next ▸ List.mem_cons_of_mem _ member
  have other {task : Loop.TaskId} {rest : List Loop.Turn} (next : agenda.scheduler.ready = .resume task :: rest) :
      task ≠ sweeper := by
    rintro rfl
    exact guarded.asleep (next ▸ List.mem_cons_self ..)
  cases turned with
  | idle => exact .inl guarded
  | lost next => exact .inl (guarded.pop next)
  | worked next found operation steps =>
    have both := steps.keep (fun agenda => agenda.Kept (some sweeper) calls ∧ agenda.Guarded sweeper calls group)
      (bounded.pop (older next)) (fun task mine => ?_) (fun step before both => ⟨both.1.step before step,
        both.2.step both.1.leaves before step fun same => other next (Option.some.inj same)⟩)
      ⟨kept.pop (older next), guarded.pop next⟩
    · exact .inl both.2.2
    · cases mine
      exact bounded.tasks.running _ (Assoc.mem_keys_iff.mpr ⟨_, found⟩)
  | called result next found =>
    exact .inl ((guarded.pop next).finish (kept.pop (older next)).leaves (bounded.pop (older next)) _ result)
  | @lingered task rest call label failure records next found =>
    have present := Assoc.mem_keys_iff.mpr ⟨_, found⟩
    have suspended : ((agenda.popped rest).onTasks (·.suspend task ⟨.callEnding call failure records, label⟩)).Guarded
        sweeper calls group := by
      refine { guarded.pop next with marked := fun call member running => guarded.marked call member ?_ }
      exact Assoc.keys_put_of_present present _ ▸ running
    exact .inl (suspended.enqueue nofun fun same => other next (Loop.Turn.resume.inj same))
  | left next => exact .inl { guarded.pop next with }
  | arrived next =>
    rcases guarded.arrive bounded next with still | gone
    · exact .inl still
    · refine .inr fun task member => ?_
      rw [onTasks, Loop.Scheduler.running_arrive]
      exact gone task member

end Guarded

structure Working (task : Loop.TaskId) (job : Job β) (agenda : Agenda β) : Prop where
  found : agenda.scheduler.running.find? task = some job
  unfinished : agenda.scheduler.results.find? task = none

theorem Step.results {task : Loop.TaskId} {licence : Stage β → Prop} (step : Step licence who agenda next)
    (other : who ≠ some task) : next.scheduler.results.find? task = agenda.scheduler.results.find? task := by
  cases step with
  | shift | wake | start | suspend => rfl
  | submit call => rw [onTasks, Loop.Scheduler.results_submit]
  | finish mine present =>
    have elsewhere {someone : Loop.TaskId} (mine : who = some someone) : task ≠ someone :=
      fun same => other (mine.trans (congrArg some same.symm))
    exact Assoc.find?_put_of_ne (elsewhere mine) _ _
  | waitFor mine present => rw [onTasks, Loop.Scheduler.results_waitFor]

theorem Steps.results {task : Loop.TaskId} {licence : Stage β → Prop} (steps : Steps licence who agenda next)
    (other : who ≠ some task) : next.scheduler.results.find? task = agenda.scheduler.results.find? task := by
  induction steps with
  | refl => rfl
  | tail _ step ih => exact (step.results other).trans ih

theorem Turned.results {task : Loop.TaskId} {licence : Stage β → Prop} (turned : Turned licence agenda next)
    (other : ∀ rest, agenda.scheduler.ready ≠ .resume task :: rest) :
    next.scheduler.results.find? task = agenda.scheduler.results.find? task := by
  have elsewhere {someone : Loop.TaskId} {rest : List Loop.Turn} (next : agenda.scheduler.ready = .resume someone :: rest) :
      task ≠ someone := by
    rintro rfl
    exact other rest next
  cases turned with
  | idle | lost | left | lingered => rfl
  | worked next found operation steps => exact steps.results fun same => elsewhere next (Option.some.inj same).symm
  | called result next => exact Assoc.find?_put_of_ne (elsewhere next) _ _
  | arrived next => rw [onTasks, Loop.Scheduler.results_arrive]; rfl

theorem Working.step {task : Loop.TaskId} {job : Job β} {licence : Stage β → Prop} (working : agenda.Working task job)
    (bounded : agenda.Bounded) (step : Step licence who agenda next) (other : who ≠ some task) : next.Working task job :=
  ⟨step.found bounded working.found other, (step.results other).trans working.unfinished⟩

theorem Working.turned {task : Loop.TaskId} {job : Job β} {licence : Stage β → Prop} (working : agenda.Working task job)
    (bounded : agenda.Bounded) (turned : Turned licence agenda next)
    (other : ∀ rest, agenda.scheduler.ready ≠ .resume task :: rest) : next.Working task job :=
  ⟨turned.found bounded working.found other, (turned.results other).trans working.unfinished⟩

def Silent (agenda : Agenda β) : Prop :=
  ∀ task job, agenda.scheduler.running.find? task = some job → job.stage.calling = false

/-- The sweeper waits for its calls, or for those that are pending. -/
structure Sweeping (sweeper : Loop.TaskId) (agenda : Agenda β) : Prop where
  bounded : agenda.Bounded
  working : ∃ job, job.stage.drains = true ∧ agenda.Working sweeper job
  waits : (∃ calls group, agenda.Kept (some sweeper) calls ∧ agenda.Guarded sweeper calls group) ∨
    agenda.Kept (some sweeper) []

/-- The sweeper has finished, and no call is made any more. -/
def Swept (sweeper : Loop.TaskId) (agenda : Agenda β) : Prop :=
  agenda.scheduler.results.has sweeper = true ∧ agenda.Silent

theorem Sweeping.step (sweeping : agenda.Sweeping sweeper) (step : Step Stage.Windowed none agenda next) :
    next.Sweeping sweeper := by
  obtain ⟨bounded, ⟨job, drains, working⟩, waits⟩ := sweeping
  refine ⟨bounded.step step nofun, ⟨job, drains, working.step bounded step nofun⟩, ?_⟩
  rcases waits with ⟨calls, group, kept, guarded⟩ | kept
  · exact .inl ⟨calls, group, kept.step bounded step, guarded.step kept.leaves bounded step nofun⟩
  · exact .inr (kept.step bounded step)

theorem Kept.grants {job : Job β} (kept : agenda.Kept (some sweeper) calls) (working : agenda.Working sweeper job)
    (drains : job.stage.drains = true) : ∀ task label request,
      agenda.scheduler.running.find? task = some ⟨.begin request, label⟩ → request.Grants Stage.Windowed := by
  intro task label request found
  rcases kept.begins task label request found with windowed | mine
  · exact Request.windowed_grants windowed
  · cases mine
    cases working.found.symm.trans found
    cases drains

theorem Kept.fewer (kept : agenda.Kept who calls)
    (gone : ∀ task ∈ calls, task ∉ agenda.scheduler.running.keys) : agenda.Kept who [] := by
  refine { kept with callers := fun task job found calling => ?_ }
  refine (kept.callers task job found calling).imp_right fun member => ?_
  exact absurd (Assoc.mem_keys_iff.mpr ⟨job, found⟩) (gone task member)

end Agenda

namespace Dock
variable {β : Type} {sweeper : Loop.TaskId} {job : Job β}

theorem drain_sweeps (dock : Dock β) (bounded : dock.agenda.Bounded) (working : dock.agenda.Working sweeper job)
    (kept : dock.agenda.Kept (some sweeper) []) (answer : Answer) :
    (dock.drain sweeper answer).agenda.Sweeping sweeper ∨ (dock.drain sweeper answer).agenda.Swept sweeper := by
  have present : sweeper ∈ dock.scheduler.running.keys := Assoc.mem_keys_iff.mpr ⟨job, working.found⟩
  unfold drain waitFor
  split
  next calm =>
    refine .inr ⟨?_, fun task other found => ?_⟩
    · rw [conclude_agenda]
      exact Assoc.has_iff.mpr ⟨_, Assoc.find?_put_self _ _ _⟩
    · rw [conclude_agenda] at found
      have found := Assoc.find?_of_remove bounded.tasks.unique found
      by_contra calling
      rcases kept.callers task other found (Bool.not_eq_false _ ▸ calling) with pending | none
      · rw [show dock.agenda.scheduler.pending = [] from List.isEmpty_iff.mp calm] at pending
        cases pending
      · cases none
  next =>
    let label := (dock.scheduler.running.find? sweeper).bind Job.label
    have suspended : Agenda.Step Stage.Windowed (some sweeper) dock.agenda
      (dock.suspend sweeper (.draining answer)).agenda :=
      .suspend ⟨.draining answer, label⟩ rfl present rfl
    have mine (task : Loop.TaskId) (same : some sweeper = some task) : task < dock.agenda.scheduler.fresh :=
      bounded.tasks.running task (Option.some.inj same ▸ present)
    have middle := bounded.step suspended mine
    have waits : Agenda.Step Stage.Windowed (some sweeper) (dock.suspend sweeper (.draining answer)).agenda
        ((dock.suspend sweeper (.draining answer)).agenda.onTasks (·.waitFor sweeper dock.scheduler.pending)) :=
      .waitFor rfl (Assoc.mem_keys_iff.mpr ⟨_, Assoc.find?_put_self _ _ _⟩)
    have waiting : ((dock.suspend sweeper (.draining answer)).agenda.onTasks
        (·.waitFor sweeper dock.scheduler.pending)).Working sweeper ⟨.draining answer, label⟩ := by
      refine ⟨?_, ?_⟩
      · rw [Agenda.onTasks, Loop.Scheduler.running_waitFor]
        exact Assoc.find?_put_self _ _ _
      · rw [Agenda.onTasks, Loop.Scheduler.results_waitFor]
        exact working.unfinished
    exact .inl ⟨middle.step waits mine, ⟨_, rfl, waiting⟩, .inr ((kept.step bounded suspended).step middle waits)⟩

variable [SessionBackend β]

theorem turn_sweeping {dock : Dock β} (sweeping : dock.agenda.Sweeping sweeper) :
    dock.turn.agenda.Sweeping sweeper ∨ dock.turn.agenda.Swept sweeper := by
  obtain ⟨bounded, ⟨job, drains, working⟩, waits⟩ := sweeping
  by_cases mine : ∃ rest, dock.scheduler.ready = .resume sweeper :: rest
  · obtain ⟨rest, next⟩ := mine
    have kept : dock.agenda.Kept (some sweeper) [] := by
      rcases waits with ⟨calls, group, -, guarded⟩ | kept
      · exact absurd (next ▸ List.mem_cons_self ..) guarded.asleep
      · exact kept
    have older : ∀ turn ∈ rest, turn ∈ dock.scheduler.ready := fun turn member => next ▸ List.mem_cons_of_mem _ member
    let popped : Dock β := { dock with scheduler := { dock.scheduler with ready := rest } }
    have turned : ∃ (middle : Dock β) (answer : Answer), middle.agenda = popped.agenda ∧
        dock.turn = middle.drain sweeper answer := by
      have resumed : dock.turn = popped.resume sweeper := by
        simp only [turn, Loop.Scheduler.next?, next]
        rfl
      have found : popped.scheduler.running.find? sweeper = some job := working.found
      obtain ⟨stage, label⟩ := job
      cases stage with
      | sweeping calls drain =>
        cases drains
        have goes : popped.resume sweeper = popped.endSweep sweeper calls true := by rw [resume, found]
        rw [resumed, goes]
        refine ⟨_, _, ?_, rfl⟩
        rfl
      | draining answer =>
        exact ⟨popped, answer, rfl, by rw [resumed, resume, found]⟩
      | _ => cases drains
    obtain ⟨middle, answer, same, turned⟩ := turned
    have popped_working : popped.agenda.Working sweeper job := { working with }
    rw [turned]
    exact drain_sweeps middle (same ▸ bounded.pop older) (same ▸ popped_working) (same ▸ kept.pop older) answer
  · have turned : Agenda.Turned Stage.Windowed dock.agenda dock.turn.agenda := by
      refine turn_turned dock ?_
      rcases waits with ⟨calls, group, kept, -⟩ | kept <;> exact kept.grants working drains
    have still := working.turned bounded turned fun rest next => mine ⟨rest, next⟩
    refine .inl ⟨bounded.turned turned, ⟨job, drains, still⟩, ?_⟩
    rcases waits with ⟨calls, group, kept, guarded⟩ | kept
    · have kept' := kept.turned bounded turned
      rcases guarded.turned kept bounded turned with asleep | gone
      · exact .inl ⟨calls, group, kept', asleep⟩
      · exact .inr (kept'.fewer gone)
    · exact .inr (kept.turned bounded turned)

end Dock

end TerminalDock
