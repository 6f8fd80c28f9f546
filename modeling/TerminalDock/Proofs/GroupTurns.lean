import TerminalDock.Proofs.Summons

/-! Who is to arrive. Whatever tasks do in their turns, nobody loses its place among those who have asked for a turn, and
as many tasks are to arrive at a group as before; only an arrival brings a group closer to being complete. -/

namespace TerminalDock

namespace Loop.Turn

theorem resume_ne_leave (task other : TaskId) : Turn.resume task ≠ .leave other := nofun

theorem leave_ne_resume (task other : TaskId) : Turn.leave task ≠ .resume other := nofun

theorem arrive_ne_resume (group : Nat) (task : TaskId) : Turn.arrive group ≠ .resume task := nofun

private theorem resume_ne_arrive (task : TaskId) (group : Nat) : Turn.resume task ≠ .arrive group := nofun

theorem leave_ne_arrive (task : TaskId) (group : Nat) : Turn.leave task ≠ .arrive group := nofun

end Loop.Turn

namespace Loop.Scheduler
variable {α ρ : Type} {scheduler : Scheduler α ρ}

theorem due_submit (scheduler : Scheduler α ρ) (activity : α) (turn : Turn) :
    (scheduler.submit activity).due turn =
      scheduler.due turn + [.resume scheduler.fresh, .leave scheduler.fresh].count turn := by
  have started : (scheduler.started activity).due turn = scheduler.due turn + [.resume scheduler.fresh].count turn :=
    due_enqueue (scheduler.create activity).2 (.resume scheduler.fresh) turn
  have pending : ({ scheduler.started activity with pending := scheduler.pending ++ [scheduler.fresh] } :
      Scheduler α ρ).due turn = (scheduler.started activity).due turn := rfl
  rw [submit_eq, due_onFinish, pending, started, Nat.add_assoc, ← List.count_append]
  rfl

theorem due_waitFor (scheduler : Scheduler α ρ) (waiter : TaskId) (tasks : List TaskId) (turn : Turn) :
    (scheduler.waitFor waiter tasks).due turn =
      scheduler.due turn + tasks.length * [.arrive scheduler.fresh].count turn := by
  have arrivals (group : Nat) (scheduler : Scheduler α ρ) :
      (tasks.foldl (fun scheduler task => scheduler.onFinish task (.arrive group)) scheduler).due turn =
        scheduler.due turn + tasks.length * [Turn.arrive group].count turn := by
    induction tasks generalizing scheduler with
    | nil => rw [List.foldl_nil, List.length_nil, Nat.zero_mul, Nat.add_zero]
    | cons task rest ih => rw [List.foldl_cons, ih, due_onFinish, List.length_cons, Nat.succ_mul]; omega
  exact arrivals _ _

theorem due_pop {turn : Turn} {rest : List Turn} (next : scheduler.ready = turn :: rest) (other : Turn) :
    scheduler.due other = ({ scheduler with ready := rest } : Scheduler α ρ).due other + [turn].count other := by
  have ready : scheduler.ready.count other = rest.count other + [turn].count other := by
    rw [next, List.count_cons, List.count_singleton]
  simp only [due, ready]
  omega

theorem due_arrive (scheduler : Scheduler α ρ) (group : Nat) {turn : Turn} (calm : ∀ task, turn ≠ .resume task) :
    (scheduler.arrive group).due turn = scheduler.due turn := by
  unfold arrive
  split
  · rfl
  next missing waiter found =>
    split
    · rw [due_enqueue, List.count_singleton, if_neg (mt beq_iff_eq.mp (calm waiter).symm)]
      rfl
    · rfl

/-- Whoever waited for a group goes on after all who asked before. -/
theorem arrive_ready (scheduler : Scheduler α ρ) (group : Nat) : ∃ more,
    (scheduler.arrive group).ready = scheduler.ready ++ more ∧
      ∀ turn ∈ more, ∃ waiter ∈ scheduler.waiters, turn = .resume waiter := by
  unfold arrive
  split
  · exact ⟨[], (List.append_nil _).symm, List.forall_mem_nil _⟩
  next missing waiter found =>
    split
    · refine ⟨[.resume waiter], rfl, List.forall_mem_singleton.mpr ⟨waiter, ?_, rfl⟩⟩
      exact List.mem_map.mpr ⟨_, Assoc.mem_values_of_find? found, rfl⟩
    · exact ⟨[], (List.append_nil _).symm, List.forall_mem_nil _⟩

theorem fresh_arrive (scheduler : Scheduler α ρ) (group : Nat) : (scheduler.arrive group).fresh = scheduler.fresh := by
  obtain ⟨_, _, same⟩ := arrive_eq scheduler group
  rw [same]

private theorem due_of_turnsAt {task : TaskId} {turn : Turn} (member : turn ∈ scheduler.turnsAt task) :
    0 < scheduler.due turn := by
  unfold turnsAt at member
  cases found : scheduler.callbacks.find? task with
  | none => rw [found] at member; cases member
  | some turns =>
    rw [found] at member
    have inside := List.mem_flatten.mpr ⟨turns, Assoc.mem_values_of_find? found, member⟩
    exact Nat.add_pos_right _ (List.count_pos_iff.mpr inside)

theorem due_of_ready {turn : Turn} (member : turn ∈ scheduler.ready) : 0 < scheduler.due turn :=
  Nat.add_pos_left (List.count_pos_iff.mpr member) _

theorem of_due (bounded : scheduler.Bounded) {turn : Turn} (due : 0 < scheduler.due turn) :
    turn ∈ scheduler.ready ∨ ∃ task, turn ∈ scheduler.turnsAt task := by
  rcases Nat.pos_of_ne_zero (Nat.pos_iff_ne_zero.mp due) |> Nat.add_pos_iff_pos_or_pos.mp with asked | marked
  · exact .inl (List.count_pos_iff.mp asked)
  · obtain ⟨turns, member, inside⟩ := List.mem_flatten.mp (List.count_pos_iff.mp marked)
    obtain ⟨⟨task, same⟩, entry, rfl⟩ := List.mem_map.mp member
    refine .inr ⟨task, ?_⟩
    rw [turnsAt, Assoc.find?_of_mem bounded.marks entry]
    exact inside

/-- Nobody's end changes what is asked for at the end of another one. -/
theorem turnsAt_finish (bounded : scheduler.Bounded) {task other : TaskId} {result : ρ} {turn : Turn}
    (member : turn ∈ (scheduler.finish task result).turnsAt other) : other ≠ task ∧ turn ∈ scheduler.turnsAt other := by
  have member : turn ∈ ((scheduler.callbacks.remove task).find? other).getD [] := member
  by_cases here : other = task
  · rw [here, Assoc.find?_remove_self bounded.marks] at member
    cases member
  · rw [Assoc.find?_remove_of_ne here] at member
    exact ⟨here, member⟩

theorem turnsAt_onFinish {task other : TaskId} {turn added : Turn}
    (member : turn ∈ (scheduler.onFinish task added).turnsAt other) :
    turn ∈ scheduler.turnsAt other ∨ other = task ∧ task ∈ scheduler.running.keys ∧ turn = added := by
  by_cases present : task ∈ scheduler.running.keys
  · rw [onFinish_running present] at member
    by_cases here : other = task
    · rw [here, turnsAt_put_self] at member
      rcases List.mem_append.mp member with old | new
      · exact .inl (here ▸ old)
      · exact .inr ⟨here, present, List.mem_singleton.mp new⟩
    · rw [turnsAt_put_of_ne here] at member
      exact .inl member
  · rw [onFinish_gone present] at member
    exact .inl member

private theorem turnsAt_onFinish_of_mem {task : TaskId} {turn : Turn} (other : TaskId) (added : Turn)
    (marked : turn ∈ scheduler.turnsAt task) : turn ∈ (scheduler.onFinish other added).turnsAt task := by
  by_cases running : other ∈ scheduler.running.keys
  · rw [onFinish_running running]
    by_cases here : task = other
    · rw [here, turnsAt_put_self]
      exact List.mem_append_left _ (here ▸ marked)
    · rw [turnsAt_put_of_ne here]
      exact marked
  · rw [onFinish_gone running]
    exact marked

private theorem turnsAt_arrivals (scheduler : Scheduler α ρ) {other : TaskId} {group : Nat} {tasks : List TaskId}
    {turn : Turn}
    (member : turn ∈
      (tasks.foldl (fun scheduler task => scheduler.onFinish task (.arrive group)) scheduler).turnsAt other) :
    turn ∈ scheduler.turnsAt other ∨ other ∈ tasks ∧ other ∈ scheduler.running.keys := by
  induction tasks generalizing scheduler with
  | nil => exact .inl member
  | cons task rest ih =>
    rcases ih _ member with old | ⟨inside, running⟩
    · rcases turnsAt_onFinish old with older | ⟨rfl, present, -⟩
      · exact .inl older
      · exact .inr ⟨List.mem_cons_self .., present⟩
    · rw [running_onFinish] at running
      exact .inr ⟨List.mem_cons_of_mem _ inside, running⟩

private theorem turnsAt_arrival (scheduler : Scheduler α ρ) {task : TaskId} {group : Nat} {tasks : List TaskId}
    (member : task ∈ tasks)
    (present : task ∈ scheduler.running.keys) : .arrive group ∈
      (tasks.foldl (fun scheduler task => scheduler.onFinish task (.arrive group)) scheduler).turnsAt task := by
  have all (tasks : List TaskId) (scheduler : Scheduler α ρ) (marked : .arrive group ∈ scheduler.turnsAt task) :
    .arrive group ∈
      (tasks.foldl (fun scheduler task => scheduler.onFinish task (.arrive group)) scheduler).turnsAt task := by
    induction tasks generalizing scheduler with
    | nil => exact marked
    | cons other rest ih => exact ih _ (turnsAt_onFinish_of_mem other _ marked)
  induction tasks generalizing scheduler with
  | nil => cases member
  | cons other rest ih =>
    rcases List.mem_cons.mp member with rfl | later
    · have marks : .arrive group ∈ (scheduler.onFinish task (.arrive group)).turnsAt task := by
        rw [onFinish_running present, turnsAt_put_self]
        exact List.mem_append_right _ (List.mem_singleton_self _)
      exact all rest _ marks
    · exact ih (scheduler.onFinish other (.arrive group)) later (running_onFinish scheduler other _ ▸ present)

theorem turnsAt_waitFor {waiter other : TaskId} {tasks : List TaskId} {turn : Turn}
    (member : turn ∈ (scheduler.waitFor waiter tasks).turnsAt other) :
    turn ∈ scheduler.turnsAt other ∨ other ∈ tasks ∧ other ∈ scheduler.running.keys :=
  turnsAt_arrivals { scheduler with
    groups := scheduler.groups.put scheduler.fresh ⟨tasks.length, waiter⟩
    fresh := scheduler.fresh + 1 } member

/-- Turns are asked for after those that were asked for before, and only new tasks come to what is under way. -/
structure Ages (first last : Scheduler α ρ) : Prop where
  fresh : first.fresh ≤ last.fresh
  ready : ∃ more, last.ready = first.ready ++ more
  older : ∀ task ∈ last.running.keys, task < first.fresh → task ∈ first.running.keys

/-- Besides, a group waits as before, for the same tasks, apart from those that have ended. -/
structure Spares (group : Nat) (first last : Scheduler α ρ) : Prop extends Ages first last where
  groups : last.groups.find? group = first.groups.find? group
  due : last.due (.arrive group) = first.due (.arrive group)
  marked : ∀ task < first.fresh, .arrive group ∈ first.turnsAt task →
    .arrive group ∈ last.turnsAt task ∨ task ∉ last.running.keys
  owned : ∀ task, .arrive group ∈ last.turnsAt task →
    .arrive group ∈ first.turnsAt task ∧ (task ∈ first.running.keys → task ∈ last.running.keys)

namespace Ages
variable {first middle last : Scheduler α ρ}

protected theorem refl (scheduler : Scheduler α ρ) : Ages scheduler scheduler :=
  ⟨Nat.le_refl _, ⟨[], (List.append_nil _).symm⟩, fun _ member _ => member⟩

protected theorem trans (before : Ages first middle) (later : Ages middle last) : Ages first last := by
  obtain ⟨some, grown⟩ := before.ready
  obtain ⟨more, ready⟩ := later.ready
  refine ⟨Nat.le_trans before.fresh later.fresh, ⟨some ++ more, ?_⟩, fun task member old => ?_⟩
  · rw [ready, grown, List.append_assoc]
  · exact before.older task (later.older task member (Nat.lt_of_lt_of_le old before.fresh)) old

theorem arrive (scheduler : Scheduler α ρ) (group : Nat) : Ages scheduler (scheduler.arrive group) := by
  obtain ⟨more, ready, -⟩ := scheduler.arrive_ready group
  refine ⟨Nat.le_of_eq (scheduler.fresh_arrive group).symm, ⟨more, ready⟩, fun task member _ => ?_⟩
  rwa [running_arrive] at member

end Ages

namespace Spares
variable {group : Nat} {first middle last : Scheduler α ρ}

protected theorem refl (scheduler : Scheduler α ρ) : Spares group scheduler scheduler :=
  ⟨.refl scheduler, rfl, rfl, fun _ _ => .inl, fun _ member => ⟨member, id⟩⟩

protected theorem trans (before : Spares group first middle) (later : Spares group middle last) :
    Spares group first last := by
  refine ⟨before.toAges.trans later.toAges, later.groups.trans before.groups, later.due.trans before.due,
    fun task old marked => ?_, fun task marked => ?_⟩
  · have known : task < middle.fresh := Nat.lt_of_lt_of_le old before.fresh
    rcases before.marked task old marked with still | gone
    · exact later.marked task known still
    · exact .inr fun member => gone (later.older task member known)
  · obtain ⟨between, stays⟩ := later.owned task marked
    obtain ⟨early, kept⟩ := before.owned task between
    exact ⟨early, stays ∘ kept⟩

theorem enqueue (scheduler : Scheduler α ρ) {turn : Turn} (other : turn ≠ .arrive group) :
    Spares group scheduler (scheduler.enqueue turn) := by
  refine ⟨⟨Nat.le_refl _, ⟨_, rfl⟩, fun _ member _ => member⟩, rfl, ?_, fun _ _ => .inl, fun _ member => ⟨member, id⟩⟩
  rw [due_enqueue, List.count_singleton, if_neg (mt beq_iff_eq.mp other), Nat.add_zero]

theorem create (scheduler : Scheduler α ρ) (activity : α) : Spares group scheduler (scheduler.create activity).2 := by
  refine ⟨⟨Nat.le_succ _, ⟨[], (List.append_nil _).symm⟩, fun task member old => ?_⟩, rfl, rfl, fun _ _ => .inl,
    fun task member => ⟨member, fun present => Assoc.keys_subset_put _ _ _ present⟩⟩
  exact (Assoc.mem_keys_put member).resolve_left (Nat.ne_of_lt old)

theorem started (scheduler : Scheduler α ρ) (activity : α) : Spares group scheduler (scheduler.started activity) :=
  (create scheduler activity).trans (enqueue _ (Turn.resume_ne_arrive _ group))

theorem onFinish (scheduler : Scheduler α ρ) (task : TaskId) {turn : Turn} (other : turn ≠ .arrive group) :
    Spares group scheduler (scheduler.onFinish task turn) := by
  by_cases present : task ∈ scheduler.running.keys
  · have due := scheduler.due_onFinish task turn (.arrive group)
    rw [List.count_singleton, if_neg (mt beq_iff_eq.mp other), Nat.add_zero] at due
    refine ⟨⟨?_, ⟨[], ?_⟩, ?_⟩, ?_, due, fun _ _ marked => .inl (turnsAt_onFinish_of_mem task turn marked),
      fun someone marked => ?_⟩
    · exact Nat.le_of_eq (fresh_onFinish scheduler task turn).symm
    · rw [onFinish_running present, List.append_nil]
    · rw [running_onFinish]
      exact fun _ member _ => member
    · rw [groups_onFinish]
    · rw [running_onFinish]
      exact ⟨(turnsAt_onFinish marked).resolve_right fun new => other new.2.2.symm, id⟩
  · rw [onFinish_gone present]
    exact enqueue scheduler other

theorem submit (scheduler : Scheduler α ρ) (activity : α) : Spares group scheduler (scheduler.submit activity) := by
  have pending : Spares group (scheduler.started activity)
      { scheduler.started activity with pending := scheduler.pending ++ [scheduler.fresh] } :=
    { Spares.refl (scheduler.started activity) with }
  rw [submit_eq]
  exact ((started scheduler activity).trans pending).trans (onFinish _ _ (Turn.leave_ne_arrive scheduler.fresh group))

theorem suspend (scheduler : Scheduler α ρ) {task : TaskId} (present : task ∈ scheduler.running.keys) (activity : α) :
    Spares group scheduler (scheduler.suspend task activity) := by
  have keys : (scheduler.suspend task activity).running.keys = scheduler.running.keys :=
    Assoc.keys_put_of_present present activity
  refine ⟨⟨Nat.le_refl _, ⟨[], (List.append_nil _).symm⟩, ?_⟩, rfl, rfl, fun _ _ => .inl, ?_⟩
  · rw [keys]
    exact fun _ member _ => member
  · rw [keys]
    exact fun _ member => ⟨member, id⟩

theorem yield (scheduler : Scheduler α ρ) {task : TaskId} (present : task ∈ scheduler.running.keys) (activity : α) :
    Spares group scheduler (scheduler.yield task activity) :=
  (suspend scheduler present activity).trans (enqueue _ (Turn.resume_ne_arrive task group))

theorem finish (bounded : scheduler.Bounded) (task : TaskId) (result : ρ) :
    Spares group scheduler (scheduler.finish task result) := by
  refine ⟨⟨Nat.le_refl _, ⟨_, rfl⟩, fun other member _ => ?_⟩, rfl, due_finish scheduler task result _,
    fun other _ marked => ?_, fun other marked => ?_⟩
  · exact ((Assoc.remove_sublist task scheduler.running).map Prod.fst).subset member
  · by_cases here : other = task
    · exact .inr (here ▸ Assoc.find?_eq_none.mp (Assoc.find?_remove_self bounded.unique))
    · have same : (scheduler.finish task result).turnsAt other = scheduler.turnsAt other :=
        congrArg (Option.getD · []) (Assoc.find?_remove_of_ne here _)
      exact .inl (same ▸ marked)
  · obtain ⟨elsewhere, before⟩ := turnsAt_finish bounded marked
    refine ⟨before, fun present => ?_⟩
    obtain ⟨activity, found⟩ := Assoc.mem_keys_iff.mp present
    exact Assoc.mem_keys_iff.mpr ⟨activity, (Assoc.find?_remove_of_ne elsewhere _).trans found⟩

theorem waitFor (scheduler : Scheduler α ρ) (old : group < scheduler.fresh) (waiter : TaskId) (tasks : List TaskId) :
    Spares group scheduler (scheduler.waitFor waiter tasks) := by
  have elsewhere : group ≠ scheduler.fresh := Nat.ne_of_lt old
  have grouped : Spares group scheduler { scheduler with
      groups := scheduler.groups.put scheduler.fresh ⟨tasks.length, waiter⟩
      fresh := scheduler.fresh + 1 } :=
    ⟨⟨Nat.le_succ _, ⟨[], (List.append_nil _).symm⟩, fun _ member _ => member⟩, Assoc.find?_put_of_ne elsewhere _ _, rfl,
      fun _ _ => .inl, fun _ member => ⟨member, id⟩⟩
  have arrivals (other : Nat) (apart : group ≠ other) (tasks : List TaskId) (first : Scheduler α ρ) : Spares group first
      (tasks.foldl (fun scheduler task => scheduler.onFinish task (.arrive other)) first) := by
    induction tasks generalizing first with
    | nil => exact .refl first
    | cons task rest ih => exact (onFinish first task fun same => apart (Turn.arrive.inj same).symm).trans (ih _)
  exact grouped.trans (arrivals _ elsewhere tasks _)

theorem leave (scheduler : Scheduler α ρ) (task : TaskId) : Spares group scheduler (scheduler.leave task) :=
  { Spares.refl scheduler with }

theorem arrive (scheduler : Scheduler α ρ) {other : Nat} (elsewhere : other ≠ group) :
    Spares group scheduler (scheduler.arrive other) := by
  unfold Scheduler.arrive
  split
  · exact .refl scheduler
  next missing waiter found =>
    have apart : group ≠ other := elsewhere.symm
    split
    · have removed : Spares group scheduler { scheduler with groups := scheduler.groups.remove other } :=
        { Spares.refl scheduler with groups := Assoc.find?_remove_of_ne apart _ }
      exact removed.trans (enqueue _ (Turn.resume_ne_arrive waiter group))
    · exact { Spares.refl scheduler with groups := Assoc.find?_put_of_ne apart _ _ }

end Spares

/-- A task waits for others, and each of them that has not ended is to arrive. -/
structure Awaits (waiter : TaskId) (tasks : List TaskId) (group : Nat) (scheduler : Scheduler α ρ) : Prop where
  waits : ∃ missing, scheduler.groups.find? group = some ⟨missing, waiter⟩ ∧ 0 < missing ∧
    scheduler.due (.arrive group) = missing
  marked : ∀ task ∈ tasks, task ∈ scheduler.running.keys → .arrive group ∈ scheduler.turnsAt task
  owned : ∀ task, .arrive group ∈ scheduler.turnsAt task → task ∈ tasks ∧ task ∈ scheduler.running.keys
  given : ∀ task ∈ tasks, task < scheduler.fresh

namespace Awaits
variable {waiter : TaskId} {tasks : List TaskId} {group : Nat} {last : Scheduler α ρ}

theorem spares (awaits : scheduler.Awaits waiter tasks group) (spares : Spares group scheduler last) :
    last.Awaits waiter tasks group := by
  obtain ⟨missing, found, lacking, due⟩ := awaits.waits
  refine ⟨⟨missing, spares.groups.trans found, lacking, spares.due.trans due⟩, fun task member running => ?_,
    fun task marked => ?_, fun task member => Nat.lt_of_lt_of_le (awaits.given task member) spares.fresh⟩
  · have old := awaits.given task member
    have before := awaits.marked task member (spares.older task running old)
    exact (spares.marked task old before).resolve_right fun gone => gone running
  · obtain ⟨before, stays⟩ := spares.owned task marked
    exact (awaits.owned task before).imp_right stays

theorem pop (awaits : scheduler.Awaits waiter tasks group) {turn : Turn} {rest : List Turn}
    (next : scheduler.ready = turn :: rest) (other : turn ≠ .arrive group) :
    ({ scheduler with ready := rest } : Scheduler α ρ).Awaits waiter tasks group := by
  obtain ⟨missing, found, lacking, due⟩ := awaits.waits
  rw [due_pop next, List.count_singleton, if_neg (mt beq_iff_eq.mp other), Nat.add_zero] at due
  exact { awaits with waits := ⟨missing, found, lacking, due⟩ }

theorem arrive (awaits : scheduler.Awaits waiter tasks group) {rest : List Turn}
    (next : scheduler.ready = .arrive group :: rest) :
    let last := ({ scheduler with ready := rest } : Scheduler α ρ).arrive group
    last.Awaits waiter tasks group ∧ last.due (.arrive group) < scheduler.due (.arrive group) ∨
      (∀ task ∈ tasks, task ∉ last.running.keys) ∧ .resume waiter ∈ last.ready := by
  obtain ⟨missing, found, -, due⟩ := awaits.waits
  generalize popped : ({ scheduler with ready := rest } : Scheduler α ρ) = middle
  have less : middle.due (.arrive group) + 1 = missing := by
    rw [← due, due_pop next, popped, List.count_singleton_self]
  have there : middle.groups.find? group = some ⟨missing, waiter⟩ := by rw [← popped]; exact found
  have turnsAt (task : TaskId) : middle.turnsAt task = scheduler.turnsAt task := by rw [← popped]; rfl
  have running : middle.running = scheduler.running := by rw [← popped]
  dsimp only
  rw [Scheduler.arrive, there]
  dsimp only
  split
  next last =>
    refine .inr ⟨fun task member present => ?_, List.mem_append_right _ (List.mem_singleton_self _)⟩
    have present : task ∈ scheduler.running.keys := running ▸ present
    have marked : 0 < middle.due (.arrive group) := due_of_turnsAt (turnsAt task ▸ awaits.marked task member present)
    omega
  next more =>
    have left : ({ middle with groups := middle.groups.put group ⟨missing - 1, waiter⟩ } : Scheduler α ρ).due
        (.arrive group) = missing - 1 := by
      change middle.due (.arrive group) = _
      omega
    refine .inl ⟨⟨⟨missing - 1, Assoc.find?_put_self _ _ _, by omega, left⟩, fun task member present => ?_,
      fun task marked => ?_, fun task member => ?_⟩, by omega⟩
    · exact (turnsAt task).symm ▸ awaits.marked task member (running ▸ present)
    · exact (running.symm ▸ awaits.owned task ((turnsAt task) ▸ marked))
    · have same : middle.fresh = scheduler.fresh := by rw [← popped]
      exact same.symm ▸ awaits.given task member

theorem waitFor (bounded : scheduler.Bounded) (waiter : TaskId) (several : tasks ≠ [])
    (present : ∀ task ∈ tasks, task ∈ scheduler.running.keys) :
    (scheduler.waitFor waiter tasks).Awaits waiter tasks scheduler.fresh := by
  have unknown {turn : Turn} (given : turn.number < scheduler.fresh) : turn ≠ .arrive scheduler.fresh := by
    rintro rfl
    exact Nat.lt_irrefl _ given
  have nothing : scheduler.due (.arrive scheduler.fresh) = 0 := by
    by_contra due
    rcases of_due bounded (Nat.pos_of_ne_zero due) with asked | ⟨task, marked⟩
    · exact unknown (bounded.ready _ asked) rfl
    · exact unknown (bounded.turnsAt task _ marked) rfl
  refine ⟨⟨tasks.length, ?_, List.length_pos_of_ne_nil several, ?_⟩, fun task member _ => ?_, fun task marked => ?_,
    fun task member => ?_⟩
  · rw [(scheduler.waitFor_turns waiter tasks).1]
    exact Assoc.find?_put_self _ _ _
  · rw [due_waitFor, nothing, List.count_singleton_self, Nat.zero_add, Nat.mul_one]
  · exact turnsAt_arrival _ member (present task member)
  · rw [running_waitFor]
    refine (turnsAt_waitFor marked).resolve_left fun old => unknown (bounded.turnsAt task _ old) rfl
  · rw [Dock.fresh_waitFor]
    exact Nat.lt_succ_of_lt (bounded.running task (present task member))

end Awaits

end Loop.Scheduler

namespace Agenda
open Loop.Scheduler
variable {β : Type} {licence : Stage β → Prop} {who : Option Loop.TaskId} {agenda next : Agenda β} {group : Nat}

theorem Step.spares (step : Step licence who agenda next) (bounded : agenda.Bounded) (old : group < agenda.scheduler.fresh) :
    Spares group agenda.scheduler next.scheduler := by
  cases step with
  | shift => exact .refl _
  | wake waiting => exact .enqueue _ (Loop.Turn.resume_ne_arrive _ group)
  | start label fair => exact .started _ _
  | submit call => exact .submit _ _
  | suspend job mine present waits => exact .suspend _ present _
  | finish mine present => exact .finish bounded.tasks _ _
  | waitFor mine present => exact .waitFor _ old _ _

theorem Steps.spares (steps : Steps licence who agenda next) (bounded : agenda.Bounded)
    (given : ∀ task, who = some task → task < agenda.scheduler.fresh) (old : group < agenda.scheduler.fresh) :
    Spares group agenda.scheduler next.scheduler := by
  refine (steps.keep (fun middle => Spares group agenda.scheduler middle.scheduler) bounded given ?_ (.refl _)).2
  exact fun step bounded before => before.trans (step.spares bounded (Nat.lt_of_lt_of_le old before.fresh))

theorem Turned.spares (turned : Turned licence agenda next) (bounded : agenda.Bounded) (old : group < agenda.scheduler.fresh)
    {turn : Loop.Turn} {rest : List Loop.Turn} (ready : agenda.scheduler.ready = turn :: rest)
      (other : turn ≠ .arrive group) :
    Spares group (agenda.popped rest).scheduler next.scheduler := by
  have popped : (agenda.popped rest).Bounded := bounded.pop fun turn member => ready ▸ List.mem_cons_of_mem _ member
  cases turned with
  | idle calm => cases calm.symm.trans ready
  | lost next gone =>
    cases next.symm.trans ready
    exact .refl _
  | worked next found operation steps =>
    cases next.symm.trans ready
    refine steps.spares popped (fun task mine => ?_) old
    cases mine
    exact bounded.tasks.running _ (Assoc.mem_keys_iff.mpr ⟨_, found⟩)
  | called result next found =>
    cases next.symm.trans ready
    exact .finish popped.tasks _ _
  | lingered failure records next found =>
    cases next.symm.trans ready
    exact .yield (agenda.popped rest).scheduler (Assoc.mem_keys_iff.mpr ⟨_, found⟩) _
  | left next =>
    cases next.symm.trans ready
    exact .leave _ _
  | arrived next =>
    cases next.symm.trans ready
    exact .arrive _ fun same => other (congrArg Loop.Turn.arrive same)

theorem Turned.arrives (turned : Turned licence agenda next) {rest : List Loop.Turn}
    (ready : agenda.scheduler.ready = .arrive group :: rest) :
    next.scheduler = (agenda.popped rest).scheduler.arrive group := by
  cases turned with
  | idle calm => cases calm.symm.trans ready
  | lost next | worked next | called _ next | lingered _ _ next | left next => cases next.symm.trans ready
  | arrived next =>
    cases next.symm.trans ready
    rfl

theorem Turned.ages (turned : Turned licence agenda next) (bounded : agenda.Bounded) {turn : Loop.Turn}
    {rest : List Loop.Turn} (ready : agenda.scheduler.ready = turn :: rest) :
    Ages (agenda.popped rest).scheduler next.scheduler := by
  have asked : turn ∈ agenda.scheduler.ready := ready ▸ List.mem_cons_self ..
  cases turn with
  | arrive group =>
    rw [turned.arrives ready]
    exact .arrive _ group
  | resume task | leave task =>
    exact (turned.spares bounded (bounded.tasks.ready _ asked) ready Loop.Turn.noConfusion).toAges

end Agenda

end TerminalDock
