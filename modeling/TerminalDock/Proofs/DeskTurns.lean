import TerminalDock.Proofs.GroupTurns
import TerminalDock.Proofs.Summons
import TerminalDock.Transport.Program

/-! Whose turn it is at the transport. Every task that is not at work has exactly one turn to come, or waits for a group
that has as many tasks to come as it misses; every call that is pending leaves exactly once. -/

namespace TerminalDock

namespace Transport
open Loop

def Activity.calls : Activity → Bool
  | .begin _ | .rest .. => true
  | .drain => false

/-- Whose turns are to come, while a task is at work or nobody is. -/
structure Sound (who : Option TaskId) (scheduler : Scheduler Activity Bool) : Prop where
  bounded : scheduler.Bounded
  leaves : scheduler.Leaves
  /-- Whoever is under way goes on once, unless it is at work. -/
  idle : ∀ task ∈ scheduler.running.keys, who ≠ some task → scheduler.summons task = 1
  atWork : ∀ task, who = some task → task ∈ scheduler.running.keys ∧ scheduler.summons task = 0
  gone : ∀ task, task ∉ scheduler.running.keys → scheduler.summons task = 0
  /-- Only who drains waits for others. -/
  waiters : ∀ task ∈ scheduler.waiters, scheduler.running.find? task = some .drain
  /-- Who is pending leaves once. -/
  departs : ∀ task, scheduler.due (.leave task) = if task ∈ scheduler.pending then 1 else 0
  /-- As many arrive at a group as it misses. -/
  arrives : ∀ group, scheduler.due (.arrive group) = ((scheduler.groups.find? group).map Group.missing).getD 0
  missing : ∀ group ∈ scheduler.groups.values, 0 < group.missing
  unique : scheduler.pending.Nodup
  /-- Only the ends of calls are waited for. -/
  marked : ∀ task turn, turn ∈ scheduler.turnsAt task →
    ∃ activity, scheduler.running.find? task = some activity ∧ activity.calls = true
  callers : ∀ task ∈ scheduler.pending, scheduler.running.find? task ≠ some .drain
  /-- Whoever is under way has no result yet. -/
  unfinished : ∀ task ∈ scheduler.running.keys, scheduler.results.find? task = none

namespace Sound
variable {who : Option TaskId} {task : TaskId} {scheduler : Scheduler Activity Bool} {rest : List Turn}

theorem empty : Sound none {} where
  bounded := .empty
  leaves := .empty
  idle := List.forall_mem_nil _
  atWork _ same := by cases same
  gone _ _ := rfl
  waiters := List.forall_mem_nil _
  departs _ := rfl
  arrives _ := rfl
  missing := List.forall_mem_nil _
  unique := .nil
  marked _ _ member := absurd member List.not_mem_nil
  callers := List.forall_mem_nil _
  unfinished := List.forall_mem_nil _

theorem present (sound : Sound none scheduler) (next : scheduler.ready = .resume task :: rest) :
    task ∈ scheduler.running.keys := by
  by_contra gone
  have none := sound.gone task gone
  have given := scheduler.summons_pop next task
  rw [if_pos rfl] at given
  omega

theorem pop (sound : Sound none scheduler) (next : scheduler.ready = .resume task :: rest) :
    Sound (some task) { scheduler with ready := rest } := by
  have fewer : ∀ turn ∈ rest, turn ∈ scheduler.ready := fun turn member => next ▸ List.mem_cons_of_mem _ member
  have calm (turn : Turn) (other : turn ≠ .resume task) :
      ({ scheduler with ready := rest } : Scheduler Activity Bool).due turn = scheduler.due turn := by
    rw [scheduler.due_pop next, List.count_singleton, if_neg (mt beq_iff_eq.mp other.symm), Nat.add_zero]
  have given (other : TaskId) := scheduler.summons_pop next other
  have there := sound.present next
  refine { sound with
    bounded := sound.bounded.pop fewer
    leaves := sound.leaves.pop fewer
    idle := fun other running apart => ?_
    atWork := fun other same => ?_
    gone := fun other away => ?_
    departs := fun other => (calm (.leave other) (Turn.leave_ne_resume other task)).trans (sound.departs other)
    arrives := fun group => (calm (.arrive group) (Turn.arrive_ne_resume group task)).trans (sound.arrives group) }
  · have before := sound.idle other running (Option.some_ne_none _).symm
    have same := given other
    rw [if_neg fun same => apart (congrArg some (Turn.resume.inj same))] at same
    omega
  · cases same
    have before := sound.idle task there (Option.some_ne_none _).symm
    have same := given task
    rw [if_pos rfl] at same
    exact ⟨there, by omega⟩
  · have before := sound.gone other away
    have same := given other
    omega

theorem unasked (sound : Sound (some task) scheduler) : .resume task ∉ scheduler.ready := by
  intro asked
  have none := (sound.atWork task rfl).2
  have some := List.count_pos_iff.mpr asked
  unfold Scheduler.summons at none
  omega

private theorem ne_of_waits (sound : Sound (some task) scheduler) : task ∉ scheduler.waiters := by
  intro waits
  have none := (sound.atWork task rfl).2
  have some := List.count_pos_iff.mpr waits
  unfold Scheduler.summons at none
  omega

private theorem waiting_old (sound : Sound who scheduler) {task : TaskId} (member : task ∈ scheduler.waiters) :
    task ∈ scheduler.running.keys :=
  Assoc.mem_keys_iff.mpr ⟨_, sound.waiters task member⟩

theorem pending_old (sound : Sound who scheduler) {task : TaskId} (member : task ∈ scheduler.pending) :
    task < scheduler.fresh := by
  have due : 0 < scheduler.due (.leave task) := by
    rw [sound.departs, if_pos member]
    exact Nat.one_pos
  rcases Scheduler.of_due sound.bounded due with ready | ⟨other, marked⟩
  · exact sound.bounded.ready _ ready
  · exact sound.bounded.turnsAt other _ marked

theorem create (sound : Sound none scheduler) (activity : Activity) :
    Sound (some scheduler.fresh) (scheduler.create activity).2 := by
  have new : scheduler.fresh ∉ scheduler.running.keys := fun old => Nat.lt_irrefl _ (sound.bounded.running _ old)
  have found {other : TaskId} (old : other ∈ scheduler.running.keys) :
      (scheduler.running.put scheduler.fresh activity).find? other = scheduler.running.find? other :=
    Assoc.find?_put_of_ne (ne_of_mem_of_not_mem old new) _ _
  refine {
    bounded := sound.bounded.create activity
    leaves := sound.leaves.create sound.bounded activity
    idle := fun other running apart => ?_
    atWork := fun other same => ?_
    gone := fun other away => ?_
    waiters := fun other waits => (found (sound.waiting_old waits)).trans (sound.waiters other waits)
    departs := sound.departs
    arrives := sound.arrives
    missing := sound.missing
    unique := sound.unique
    marked := fun other turn member => ?_
    callers := fun other member => ?_
    unfinished := fun other running => ?_ }
  · rcases Assoc.mem_keys_put running with rfl | old
    · exact absurd rfl apart
    · exact sound.idle other old (Option.some_ne_none _).symm
  · cases same
    exact ⟨Assoc.mem_keys_iff.mpr ⟨activity, Assoc.find?_put_self _ _ _⟩, sound.gone _ new⟩
  · exact sound.gone other fun old => away (Assoc.keys_subset_put _ _ _ old)
  · obtain ⟨job, there, calls⟩ := sound.marked other turn member
    exact ⟨job, (found (Assoc.mem_keys_iff.mpr ⟨job, there⟩)).trans there, calls⟩
  · have older := sound.pending_old member
    rw [Scheduler.create, Assoc.find?_put_of_ne (Nat.ne_of_lt older)]
    exact sound.callers other member
  · rcases Assoc.mem_keys_put running with rfl | old
    · exact Assoc.find?_eq_none.mpr fun old => Nat.lt_irrefl _ (sound.bounded.results _ old)
    · exact sound.unfinished other old

theorem submit (sound : Sound who scheduler) (program : Program) : Sound who (scheduler.submit (.begin program)) := by
  have new : scheduler.fresh ∉ scheduler.running.keys := fun old => Nat.lt_irrefl _ (sound.bounded.running _ old)
  have running := Scheduler.running_submit scheduler (Activity.begin program)
  have found {other : TaskId} (old : other ∈ scheduler.running.keys) :
      (scheduler.submit (.begin program)).running.find? other = scheduler.running.find? other := by
    rw [running]
    exact Assoc.find?_put_of_ne (ne_of_mem_of_not_mem old new) _ _
  have itself : (scheduler.submit (.begin program)).running.find? scheduler.fresh = some (.begin program) := by
    rw [running]
    exact Assoc.find?_put_self _ _ _
  have older {other : TaskId} (there : other ∈ scheduler.running.keys) :
      other ∈ (scheduler.submit (.begin program)).running.keys := by
    rw [running]
    exact Assoc.keys_subset_put _ _ _ there
  have groups : (scheduler.submit (.begin program)).groups = scheduler.groups := Scheduler.groups_onFinish _ _ _
  have waiters : (scheduler.submit (.begin program)).waiters = scheduler.waiters := by
    rw [Scheduler.waiters, groups, Scheduler.waiters]
  have pending : (scheduler.submit (.begin program)).pending = scheduler.pending ++ [scheduler.fresh] :=
    Scheduler.pending_submit _
  have summons := scheduler.summons_submit (Activity.begin program)
  have due := scheduler.due_submit (Activity.begin program)
  refine {
    bounded := sound.bounded.submit _
    leaves := sound.leaves.submit sound.bounded _
    idle := fun other running_now apart => ?_
    atWork := fun other same => ?_
    gone := fun other away => ?_
    waiters := fun other waits => ?_
    departs := fun other => ?_
    arrives := fun group => ?_
    missing := groups ▸ sound.missing
    unique := ?_
    marked := fun other turn member => ?_
    callers := fun other member => ?_
    unfinished := fun other running_now => ?_ }
  · rw [summons]
    rw [running] at running_now
    rcases Assoc.mem_keys_put running_now with rfl | old
    · rw [if_pos rfl, sound.gone _ new]
    · rw [if_neg (ne_of_mem_of_not_mem old new), sound.idle other old apart]
  · obtain ⟨there, none⟩ := sound.atWork other same
    exact ⟨older there, by rw [summons, if_neg (ne_of_mem_of_not_mem there new), none]⟩
  · have before : other ∉ scheduler.running.keys := fun there => away (older there)
    have different : other ≠ scheduler.fresh := by
      rintro rfl
      exact away (Assoc.mem_keys_iff.mpr ⟨_, itself⟩)
    rw [summons, if_neg different, sound.gone other before]
  · rw [waiters] at waits
    rw [found (sound.waiting_old waits), sound.waiters other waits]
  · rw [due, sound.departs, pending]
    by_cases here : other = scheduler.fresh
    · subst here
      rw [if_neg fun old => Nat.lt_irrefl _ (sound.pending_old old),
        if_pos (List.mem_append_right _ (List.mem_singleton_self _))]
      simp
    · have apart : Turn.leave scheduler.fresh ≠ .leave other := fun same => here (Turn.leave.inj same).symm
      simp [here, apart]
  · rw [due, groups, sound.arrives]
    simp
  · rw [pending]
    exact sound.unique.append (List.nodup_singleton _)
      (List.disjoint_singleton.mpr fun old => Nat.lt_irrefl _ (sound.pending_old old))
  · rw [Scheduler.submit_eq] at member
    rcases Scheduler.turnsAt_onFinish member with old | ⟨rfl, -, -⟩
    · obtain ⟨job, there, calls⟩ := sound.marked other turn old
      exact ⟨job, (found (Assoc.mem_keys_iff.mpr ⟨job, there⟩)).trans there, calls⟩
    · exact ⟨_, itself, rfl⟩
  · rw [pending] at member
    rcases List.mem_append.mp member with old | new
    · have different := Nat.ne_of_lt (sound.pending_old old)
      rw [running, Assoc.find?_put_of_ne different]
      exact sound.callers other old
    · rw [List.mem_singleton.mp new, itself]
      intro same
      cases same
  · rw [Scheduler.results_submit]
    rw [running] at running_now
    rcases Assoc.mem_keys_put running_now with rfl | old
    · exact Assoc.find?_eq_none.mpr fun old => Nat.lt_irrefl _ (sound.bounded.results _ old)
    · exact sound.unfinished other old

theorem yield (sound : Sound (some task) scheduler) {activity : Activity} (calls : activity.calls = true) :
    Sound none (scheduler.yield task activity) := by
  obtain ⟨present, none⟩ := sound.atWork task rfl
  have keys : (scheduler.running.put task activity).keys = scheduler.running.keys :=
    Assoc.keys_put_of_present present _
  have summons := Scheduler.summons_enqueue (scheduler.suspend task activity) (.resume task)
  have due (turn : Turn) (calm : turn ≠ .resume task) : (scheduler.yield task activity).due turn = scheduler.due turn := by
    rw [Scheduler.yield, Scheduler.due_enqueue, List.count_singleton, if_neg (mt beq_iff_eq.mp calm.symm)]
    rfl
  have found {other : TaskId} (different : other ≠ task) :
      (scheduler.running.put task activity).find? other = scheduler.running.find? other :=
    Assoc.find?_put_of_ne different _ _
  refine {
    bounded := (sound.bounded.suspend present activity).enqueue (sound.bounded.running _ present)
    leaves := (sound.leaves.suspend present activity).enqueue (Turn.resume_ne_leave task)
    idle := fun other running _ => ?_
    atWork := fun other same => by cases same
    gone := fun other away => ?_
    waiters := fun other waits => (found (ne_of_mem_of_not_mem waits sound.ne_of_waits)).trans (sound.waiters other waits)
    departs := fun other => (due (.leave other) (Turn.leave_ne_resume other task)).trans (sound.departs other)
    arrives := fun group => (due (.arrive group) (Turn.arrive_ne_resume group task)).trans (sound.arrives group)
    missing := sound.missing
    unique := sound.unique
    marked := fun other turn member => ?_
    callers := fun other member => ?_
    unfinished := fun other running => sound.unfinished other (keys ▸ running) }
  · refine (summons other).trans ?_
    have before : (scheduler.suspend task activity).summons other = scheduler.summons other := rfl
    by_cases here : other = task
    · subst here
      rw [before, if_pos rfl]
      omega
    · rw [before, if_neg fun same => here (Turn.resume.inj same).symm]
      exact sound.idle other (keys ▸ running) fun same => here (Option.some.inj same).symm
  · have away : other ∉ scheduler.running.keys := fun there => away (keys.symm ▸ there)
    refine (summons other).trans ?_
    rw [if_neg fun same => ne_of_mem_of_not_mem present away (Turn.resume.inj same)]
    exact sound.gone other away
  · by_cases here : other = task
    · exact ⟨activity, here ▸ Assoc.find?_put_self _ _ _, calls⟩
    · obtain ⟨job, there, calling⟩ := sound.marked other turn member
      exact ⟨job, (found here).trans there, calling⟩
  · by_cases here : other = task
    · rw [here]
      refine fun drains => ?_
      cases (Assoc.find?_put_self _ _ _).symm.trans drains
      cases calls
    · exact fun drains => sound.callers other member ((found here).symm.trans drains)

theorem finish (sound : Sound (some task) scheduler) (result : Bool) : Sound none (scheduler.finish task result) := by
  obtain ⟨present, none⟩ := sound.atWork task rfl
  have summons := Scheduler.summons_finish sound.leaves task result
  have due := scheduler.due_finish task result
  have gone : task ∉ (scheduler.running.remove task).keys :=
    Assoc.find?_eq_none.mp (Assoc.find?_remove_self sound.bounded.unique)
  have found {other : TaskId} (different : other ≠ task) :
      (scheduler.running.remove task).find? other = scheduler.running.find? other := Assoc.find?_remove_of_ne different _
  have fewer {other : TaskId} (member : other ∈ (scheduler.running.remove task).keys) : other ∈ scheduler.running.keys :=
    ((Assoc.remove_sublist task scheduler.running).map Prod.fst).subset member
  refine {
    bounded := sound.bounded.finish present result
    leaves := sound.leaves.finish sound.bounded task result
    idle := fun other running _ => ?_
    atWork := fun other same => by cases same
    gone := fun other away => ?_
    waiters := fun other waits => (found (ne_of_mem_of_not_mem waits sound.ne_of_waits)).trans (sound.waiters other waits)
    departs := fun other => (due (.leave other)).trans (sound.departs other)
    arrives := fun group => (due (.arrive group)).trans (sound.arrives group)
    missing := sound.missing
    unique := sound.unique
    marked := fun other turn member => ?_
    callers := fun other member => ?_
    unfinished := fun other running => ?_ }
  · rw [summons]
    exact sound.idle other (fewer running) fun same => gone (Option.some.inj same ▸ running)
  · rw [summons]
    by_cases here : other = task
    · rw [here, none]
    · refine sound.gone other fun there => away ?_
      obtain ⟨job, there⟩ := Assoc.mem_keys_iff.mp there
      exact Assoc.mem_keys_iff.mpr ⟨job, (found here).trans there⟩
  · obtain ⟨different, old⟩ := Scheduler.turnsAt_finish sound.bounded member
    obtain ⟨job, there, calls⟩ := sound.marked other turn old
    exact ⟨job, (found different).trans there, calls⟩
  · by_cases here : other = task
    · rw [here]
      refine fun drains => ?_
      cases (Assoc.find?_remove_self sound.bounded.unique).symm.trans drains
    · exact fun drains => sound.callers other member ((found here).symm.trans drains)
  · have different : other ≠ task := ne_of_mem_of_not_mem running gone
    exact (Assoc.find?_put_of_ne different _ _).trans (sound.unfinished other (fewer running))

theorem waitFor (sound : Sound (some task) scheduler) (drains : scheduler.running.find? task = some .drain)
    (some_left : scheduler.pending ≠ []) : Sound none (scheduler.waitFor task scheduler.pending) := by
  obtain ⟨present, none⟩ := sound.atWork task rfl
  have running := scheduler.running_waitFor task scheduler.pending
  have pending : (scheduler.waitFor task scheduler.pending).pending = scheduler.pending := Scheduler.pending_waitFor _ _
  have summons := Scheduler.summons_waitFor sound.bounded task scheduler.pending
  have due := scheduler.due_waitFor task scheduler.pending
  obtain ⟨groups, -⟩ := scheduler.waitFor_turns task scheduler.pending
  have free : scheduler.groups.find? scheduler.fresh = Option.none := by
    refine Assoc.find?_eq_none.mpr fun member => ?_
    obtain ⟨entry, inside, same⟩ := List.mem_map.mp member
    exact Nat.lt_irrefl _ (same ▸ (sound.bounded.groups entry inside).1)
  refine {
    bounded := sound.bounded.waitFor present _
    leaves := sound.leaves.waitFor task _
    idle := fun other there _ => ?_
    atWork := fun other same => by cases same
    gone := fun other away => ?_
    waiters := fun other waits => ?_
    departs := fun other => ?_
    arrives := fun group => ?_
    missing := fun group member => ?_
    unique := pending.symm ▸ sound.unique
    marked := fun other turn member => ?_
    callers := fun other member => ?_
    unfinished := fun other there => ?_ }
  · rw [running] at there
    rw [summons]
    by_cases here : other = task
    · rw [here, if_pos rfl, none]
    · rw [if_neg here]
      exact sound.idle other there fun same => here (Option.some.inj same).symm
  · rw [running] at away
    rw [summons, if_neg (ne_of_mem_of_not_mem present away).symm, sound.gone other away]
  · rw [Scheduler.waiters_waitFor sound.bounded] at waits
    rw [running]
    rcases List.mem_append.mp waits with old | new
    · exact sound.waiters other old
    · rw [List.mem_singleton.mp new, drains]
  · rw [due, sound.departs, pending]
    simp
  · rw [due, sound.arrives, groups]
    by_cases here : group = scheduler.fresh
    · rw [here, free, Assoc.find?_put_self]
      simp
    · rw [Assoc.find?_put_of_ne here]
      have apart : Turn.arrive scheduler.fresh ≠ .arrive group := fun same => here (Turn.arrive.inj same).symm
      simp [apart]
  · rw [groups] at member
    rcases Assoc.mem_values_put member with rfl | old
    · exact List.length_pos_iff.mpr some_left
    · exact sound.missing group old
  · rw [running]
    rcases Scheduler.turnsAt_waitFor member with old | ⟨waited, there⟩
    · exact sound.marked other turn old
    · obtain ⟨job, found⟩ := Assoc.mem_keys_iff.mp there
      refine ⟨job, found, ?_⟩
      cases job with
      | drain => exact absurd found (sound.callers other waited)
      | begin | rest => rfl
  · rw [pending] at member
    rw [running]
    exact sound.callers other member
  · rw [running] at there
    rw [Scheduler.results_waitFor]
    exact sound.unfinished other there

private theorem summons_pop_calm {turn : Turn} (next : scheduler.ready = turn :: rest) (calm : ∀ task, turn ≠ .resume task)
    (other : TaskId) :
    ({ scheduler with ready := rest } : Scheduler Activity Bool).summons other = scheduler.summons other := by
  rw [scheduler.summons_pop next, if_neg (calm other), Nat.add_zero]

theorem leave (sound : Sound none scheduler) (next : scheduler.ready = .leave task :: rest) :
    Sound none (({ scheduler with ready := rest } : Scheduler Activity Bool).leave task) := by
  have fewer : ∀ turn ∈ rest, turn ∈ scheduler.ready := fun turn member => next ▸ List.mem_cons_of_mem _ member
  have summons (other : TaskId) := summons_pop_calm next (Turn.leave_ne_resume task) other
  have due (turn : Turn) := scheduler.due_pop next turn
  refine { sound with
    bounded := { sound.bounded.pop fewer with }
    leaves := { sound.leaves.pop fewer with }
    idle := fun other running apart => (summons other).trans (sound.idle other running apart)
    atWork := fun other same => by cases same
    gone := fun other away => (summons other).trans (sound.gone other away)
    departs := fun other => ?_
    arrives := fun group => ?_
    unique := sound.unique.erase task
    callers := fun other member => sound.callers other (List.mem_of_mem_erase member) }
  · change ({ scheduler with ready := rest } : Scheduler Activity Bool).due (.leave other) =
      if other ∈ scheduler.pending.erase task then 1 else 0
    have before := due (.leave other)
    rw [sound.departs, List.count_singleton] at before
    simp only [beq_iff_eq, Turn.leave.injEq] at before
    by_cases here : other = task
    · subst here
      rw [if_pos rfl] at before
      rw [if_neg (sound.unique.not_mem_erase)]
      split at before <;> omega
    · rw [if_neg (Ne.symm here)] at before
      simp only [List.mem_erase_of_ne here]
      exact before.symm
  · have before := due (.arrive group)
    rw [List.count_singleton, if_neg (by simp), Nat.add_zero] at before
    exact before.symm.trans (sound.arrives group)

theorem arrive (sound : Sound none scheduler) {group : Nat} (next : scheduler.ready = .arrive group :: rest) :
    Sound none (({ scheduler with ready := rest } : Scheduler Activity Bool).arrive group) := by
  have fewer : ∀ turn ∈ rest, turn ∈ scheduler.ready := fun turn member => next ▸ List.mem_cons_of_mem _ member
  have before := sound.arrives group
  rw [scheduler.due_pop next, List.count_singleton, if_pos (beq_self_eq_true _)] at before
  obtain ⟨⟨missing, waiter⟩, found⟩ : ∃ waiting, scheduler.groups.find? group = some waiting := by
    cases found : scheduler.groups.find? group with
    | none => rw [found] at before; cases before
    | some waiting => exact ⟨waiting, rfl⟩
  rw [found] at before
  generalize popped : ({ scheduler with ready := rest } : Scheduler Activity Bool) = middle at before
  have groups : middle.groups = scheduler.groups := by rw [← popped]
  have running : (middle.arrive group).running = scheduler.running := by rw [Scheduler.running_arrive, ← popped]
  have results : (middle.arrive group).results = scheduler.results := by rw [Scheduler.results_arrive, ← popped]
  have summons (other : TaskId) : (middle.arrive group).summons other = scheduler.summons other := by
    rw [Scheduler.summons_arrive, ← popped, summons_pop_calm next (Turn.arrive_ne_resume group)]
  have due (turn : Turn) (calm : ∀ task, turn ≠ .resume task) (apart : turn ≠ .arrive group) :
      (middle.arrive group).due turn = scheduler.due turn := by
    rw [Scheduler.due_arrive _ _ calm, ← popped, scheduler.due_pop next, List.count_singleton,
      if_neg (mt beq_iff_eq.mp apart.symm), Nat.add_zero]
  have bounded : middle.Bounded := popped ▸ sound.bounded.pop fewer
  have leaves : middle.Leaves := popped ▸ sound.leaves.pop fewer
  have turnsAt (other : TaskId) : (middle.arrive group).turnsAt other = scheduler.turnsAt other := by
    have callbacks : (middle.arrive group).callbacks = scheduler.callbacks := by
      rw [← popped]
      unfold Scheduler.arrive
      split
      · rfl
      · split <;> rfl
    rw [Scheduler.turnsAt, callbacks, Scheduler.turnsAt]
  have pending : (middle.arrive group).pending = scheduler.pending := by rw [Scheduler.pending_arrive, ← popped]
  have waiters : ∀ other ∈ (middle.arrive group).waiters, other ∈ scheduler.waiters := by
    intro other member
    have member := Scheduler.waiters_arrive middle group other member
    rwa [← popped] at member
  have arrived : (middle.arrive group).groups =
      if missing ≤ 1 then scheduler.groups.remove group else scheduler.groups.put group ⟨missing - 1, waiter⟩ := by
    rw [Scheduler.arrive, groups, found]
    dsimp only
    split <;> rfl
  refine {
    bounded := bounded.arrive group
    leaves := leaves.arrive group
    idle := fun other there apart => (summons other).trans (sound.idle other (running ▸ there) apart)
    atWork := fun other same => by cases same
    gone := fun other away => (summons other).trans (sound.gone other (running ▸ away))
    waiters := fun other waits => running.symm ▸ sound.waiters other (waiters other waits)
    departs := fun other => pending.symm ▸ (due (.leave other) (Turn.leave_ne_resume other)
      (Turn.leave_ne_arrive other group)).trans (sound.departs other)
    arrives := fun other => ?_
    missing := ?_
    unique := pending.symm ▸ sound.unique
    marked := fun other turn member => running.symm ▸ sound.marked other turn (turnsAt other ▸ member)
    callers := fun other member => running.symm ▸ sound.callers other (pending ▸ member)
    unfinished := fun other there => results.symm ▸ sound.unfinished other (running ▸ there) }
  · rw [arrived]
    by_cases here : other = group
    · subst here
      have same : (middle.arrive other).due (.arrive other) = middle.due (.arrive other) :=
        Scheduler.due_arrive middle other fun _ => Turn.noConfusion
      rw [same]
      split
      · rw [Assoc.find?_remove_self sound.bounded.distinct]
        simp only [Option.map_some, Option.getD_some] at before
        simp only [Option.map_none, Option.getD_none]
        omega
      · rw [Assoc.find?_put_self]
        simp only [Option.map_some, Option.getD_some] at before ⊢
        omega
    · rw [due (.arrive other) (Turn.arrive_ne_resume other) fun same => here (Turn.arrive.inj same), sound.arrives]
      split
      · rw [Assoc.find?_remove_of_ne here]
      · rw [Assoc.find?_put_of_ne here]
  · rw [arrived]
    intro waiting member
    split at member
    · exact sound.missing waiting (((Assoc.remove_sublist group scheduler.groups).map Prod.snd).subset member)
    · rcases Assoc.mem_values_put member with rfl | old
      · change 0 < missing - 1
        omega
      · exact sound.missing waiting old

end Sound

end Transport

end TerminalDock
