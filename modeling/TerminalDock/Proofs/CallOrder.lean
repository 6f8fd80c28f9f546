import TerminalDock.Proofs.TendedDock

/-! The order of calls. Calls begin in the order in which they were submitted: whoever is about to begin one was given its
turn when the call was submitted, and nobody gives it another. -/

namespace TerminalDock

namespace Assoc
variable {κ α γ : Type} [DecidableEq κ] {f : κ × α → Option γ}

/-- The entry that counts first is taken out, and the others stay. -/
theorem filterMap_remove_first {key : κ} {table : Assoc κ α} {item : γ} {tail : List γ}
    (first : table.filterMap f = item :: tail) (own : ∀ name value, f (name, value) = some item → name = key)
    (counts : ∀ value, table.find? key = some value → f (key, value) = some item) :
    (table.remove key).filterMap f = tail := by
  induction table with
  | nil => cases first
  | cons entry rest ih =>
    obtain ⟨name, old⟩ := entry
    simp only [remove]
    split
    next same =>
      subst same
      rw [List.filterMap_cons, counts old (by simp [find?])] at first
      exact (List.cons.inj first).2
    next different =>
      rw [List.filterMap_cons] at first ⊢
      cases before : f (name, old) with
      | none =>
        rw [before] at first
        exact ih first fun value found => counts value (by simpa [find?, different] using found)
      | some other =>
        rw [before] at first
        obtain ⟨rfl, -⟩ := List.cons.inj first
        exact absurd (own name old before) different

end Assoc

namespace Loop

def Turn.task? : Turn → Option TaskId
  | .resume task => some task
  | _ => none

namespace Scheduler
variable {α ρ : Type}

theorem ready_submit (scheduler : Scheduler α ρ) (activity : α) :
    (scheduler.submit activity).ready = scheduler.ready ++ [.resume scheduler.fresh] := by
  have present : scheduler.fresh ∈ ({ scheduler.started activity with pending := scheduler.pending ++ [scheduler.fresh] } :
      Scheduler α ρ).running.keys := fresh_running activity
  exact congrArg ready (onFinish_running present _)

theorem groups_onFinish (scheduler : Scheduler α ρ) (task : TaskId) (turn : Turn) :
    (scheduler.onFinish task turn).groups = scheduler.groups := by
  obtain ⟨_, _, same⟩ := onFinish_eq scheduler task turn
  rw [same]

/-- Whoever waits for tasks is given no turn, but they may be told at once that it waits. -/
theorem waitFor_turns (scheduler : Scheduler α ρ) (waiter : TaskId) (tasks : List TaskId) :
    (scheduler.waitFor waiter tasks).groups = scheduler.groups.put scheduler.fresh ⟨tasks.length, waiter⟩ ∧
      ∃ more, (scheduler.waitFor waiter tasks).ready = scheduler.ready ++ more ∧
        ∀ turn ∈ more, turn = .arrive scheduler.fresh := by
  have arrivals (group : Nat) (tasks : List TaskId) (scheduler : Scheduler α ρ) :
      ∃ more, (tasks.foldl (fun scheduler task => scheduler.onFinish task (.arrive group)) scheduler).ready =
        scheduler.ready ++ more ∧ ∀ turn ∈ more, turn = .arrive group := by
    induction tasks generalizing scheduler with
    | nil => exact ⟨[], (List.append_nil _).symm, List.forall_mem_nil _⟩
    | cons task rest ih =>
      obtain ⟨more, ready, arrive⟩ := ih (scheduler.onFinish task (.arrive group))
      by_cases present : task ∈ scheduler.running.keys
      · rw [onFinish_running present] at ready
        exact ⟨more, by rw [List.foldl_cons, onFinish_running present, ready], arrive⟩
      · rw [onFinish_gone present] at ready
        refine ⟨.arrive group :: more, ?_, List.forall_mem_cons.mpr ⟨rfl, arrive⟩⟩
        rw [List.foldl_cons, onFinish_gone present, ready, enqueue, List.append_assoc, List.singleton_append]
  obtain ⟨_, _, same⟩ := waitFor_eq scheduler waiter tasks
  exact ⟨congrArg Scheduler.groups same, arrivals _ _ _⟩

end Scheduler

end Loop

namespace Agenda
variable {β : Type} {licence : Stage β → Prop} {who : Option Loop.TaskId} {agenda next : Agenda β} {task : Loop.TaskId}

/-- The call that a task is about to begin, with the task. -/
def errand? (agenda : Agenda β) (task : Loop.TaskId) : Option (Loop.TaskId × BackendCall) :=
  (agenda.scheduler.running.find? task).bind fun job => job.stage.call?.map (task, ·)

/-- The calls that have not begun, in the order in which they were submitted. -/
def submitted (agenda : Agenda β) : List (Loop.TaskId × BackendCall) :=
  agenda.scheduler.running.filterMap fun (task, job) => job.stage.call?.map (task, ·)

/-- The calls that have not begun, in the order of the turns that their tasks were given. -/
def coming (agenda : Agenda β) : List (Loop.TaskId × BackendCall) :=
  agenda.scheduler.ready.filterMap fun turn => turn.task?.bind agenda.errand?

/-- Whoever waits is given another turn. -/
def Waits (agenda : Agenda β) (task : Loop.TaskId) : Prop :=
  task ∈ agenda.queue ∨ task ∈ agenda.held ∨ ∃ entry ∈ agenda.scheduler.groups, entry.2.waiter = task

theorem Bounded.waits (bounded : agenda.Bounded) (waits : agenda.Waits task) : task < agenda.scheduler.fresh := by
  rcases waits with queued | held | ⟨entry, member, rfl⟩
  · exact bounded.queue task queued
  · exact bounded.held task held
  · exact (bounded.tasks.groups entry member).2

private theorem errand_of_find {job : Job β} (found : agenda.scheduler.running.find? task = some job) :
    agenda.errand? task = job.stage.call?.map (task, ·) := by
  rw [errand?, found, Option.bind_some]

private theorem errand_of_gone (gone : task ∉ agenda.scheduler.running.keys) : agenda.errand? task = none := by
  rw [errand?, Assoc.find?_eq_none.mpr gone, Option.bind_none]

private theorem errand_task {entry : Loop.TaskId × BackendCall} (found : agenda.errand? task = some entry) :
    entry.1 = task := by
  obtain ⟨job, -, called⟩ := Option.bind_eq_some_iff.mp found
  obtain ⟨call, -, rfl⟩ := Option.map_eq_some_iff.mp called
  rfl

private theorem errand_running (same : next.scheduler.running = agenda.scheduler.running) (task : Loop.TaskId) :
    next.errand? task = agenda.errand? task := by
  rw [errand?, same, errand?]

private theorem submitted_running (same : next.scheduler.running = agenda.scheduler.running) :
    next.submitted = agenda.submitted := by
  rw [submitted, same, submitted]

/-- Turns are asked for, and calls submitted, each with a turn for it; nobody who waits is about to begin one. -/
structure Grows (agenda next : Agenda β) : Prop where
  fresh : agenda.scheduler.fresh ≤ next.scheduler.fresh
  entries : ∀ task < agenda.scheduler.fresh, next.errand? task = agenda.errand? task
  turns : ∃ more, next.scheduler.ready = agenda.scheduler.ready ++ more ∧
    next.submitted = agenda.submitted ++ more.filterMap fun turn => turn.task?.bind next.errand?
  waits : ∀ task, next.Waits task → agenda.Waits task ∨ next.errand? task = none

namespace Grows
variable {middle : Agenda β}

/-- No call is touched, and only those who begin none are given turns. -/
theorem of_alike (fresh : agenda.scheduler.fresh ≤ next.scheduler.fresh)
    (entries : ∀ task < agenda.scheduler.fresh, next.errand? task = agenda.errand? task)
    (submitted : next.submitted = agenda.submitted) {more : List Loop.Turn}
    (ready : next.scheduler.ready = agenda.scheduler.ready ++ more)
    (idle : ∀ task, .resume task ∈ more → next.errand? task = none)
    (waits : ∀ task, next.Waits task → agenda.Waits task ∨ next.errand? task = none) : agenda.Grows next := by
  refine ⟨fresh, entries, ⟨more, ready, ?_⟩, waits⟩
  have nothing : more.filterMap (fun turn => turn.task?.bind next.errand?) = [] := by
    refine List.filterMap_eq_nil_iff.mpr fun turn member => ?_
    cases turn with
    | resume task => exact idle task member
    | leave | arrive => rfl
  rw [nothing, List.append_nil, submitted]

private theorem of_started (bounded : agenda.Bounded) {job : Job β}
    (running : next.scheduler.running = agenda.scheduler.running.put agenda.scheduler.fresh job)
    (fresh : next.scheduler.fresh = agenda.scheduler.fresh + 1)
    (ready : next.scheduler.ready = agenda.scheduler.ready ++ [.resume agenda.scheduler.fresh])
    (waits : ∀ task, next.Waits task → agenda.Waits task) : agenda.Grows next := by
  have absent : agenda.scheduler.fresh ∉ agenda.scheduler.running.keys :=
    fun member => Nat.lt_irrefl _ (bounded.tasks.running _ member)
  refine ⟨by omega, fun task old => ?_, ⟨_, ready, ?_⟩, fun task waiting => .inl (waits task waiting)⟩
  · rw [errand?, running, Assoc.find?_put_of_ne (Nat.ne_of_lt old), errand?]
  · have newcomer : next.errand? agenda.scheduler.fresh = job.stage.call?.map (agenda.scheduler.fresh, ·) := by
      rw [errand?, running, Assoc.find?_put_self, Option.bind_some]
    rw [submitted, running, Assoc.filterMap_put_new absent]
    refine congrArg _ ?_
    simp only [List.filterMap_cons, List.filterMap_nil, Loop.Turn.task?, Option.bind_some, newcomer]
    cases job.stage.call?.map (agenda.scheduler.fresh, ·) <;> rfl

theorem of_still (fresh : agenda.scheduler.fresh ≤ next.scheduler.fresh)
    (entries : ∀ task < agenda.scheduler.fresh, next.errand? task = agenda.errand? task)
    (submitted : next.submitted = agenda.submitted) (ready : next.scheduler.ready = agenda.scheduler.ready)
    (waits : ∀ task, next.Waits task → agenda.Waits task ∨ next.errand? task = none) : agenda.Grows next :=
  of_alike fresh entries submitted (ready.trans (List.append_nil _).symm)
    (fun _ member => absurd member List.not_mem_nil) waits

protected theorem refl (agenda : Agenda β) : agenda.Grows agenda :=
  of_still (Nat.le_refl _) (fun _ _ => rfl) rfl rfl fun _ => .inl

protected theorem trans (bounded : middle.Bounded) (before : agenda.Grows middle) (later : middle.Grows next) :
    agenda.Grows next := by
  obtain ⟨some, grown, called⟩ := before.turns
  obtain ⟨more, ready, submitted⟩ := later.turns
  refine ⟨Nat.le_trans before.fresh later.fresh, fun task old => ?_, ⟨some ++ more, ?_, ?_⟩, fun task waits => ?_⟩
  · exact (later.entries task (Nat.lt_of_lt_of_le old before.fresh)).trans (before.entries task old)
  · rw [ready, grown, List.append_assoc]
  · have kept : some.filterMap (fun turn => turn.task?.bind next.errand?) =
        some.filterMap fun turn => turn.task?.bind middle.errand? := by
      refine List.filterMap_congr fun turn member => ?_
      cases turn with
      | resume task =>
        have asked : .resume task ∈ middle.scheduler.ready := grown ▸ List.mem_append_right _ member
        exact later.entries task (bounded.tasks.ready _ asked)
      | leave | arrive => rfl
    rw [submitted, called, List.filterMap_append, kept, List.append_assoc]
  · rcases later.waits task waits with between | none
    · refine (before.waits task between).imp_right fun none => ?_
      exact (later.entries task (bounded.waits between)).trans none
    · exact .inr none

end Grows

/-- Whoever has its turn has a number, and is not about to begin a call. -/
def Idle (who : Option Loop.TaskId) (agenda : Agenda β) : Prop :=
  ∀ task, who = some task → agenda.errand? task = none ∧ task < agenda.scheduler.fresh

theorem Idle.grows (idle : agenda.Idle who) (grows : agenda.Grows next) : next.Idle who := by
  intro task mine
  obtain ⟨none, old⟩ := idle task mine
  exact ⟨(grows.entries task old).trans none, Nat.lt_of_lt_of_le old grows.fresh⟩

/-- Nobody waits who is about to begin a call. -/
def Patient (agenda : Agenda β) : Prop :=
  ∀ task, agenda.Waits task → agenda.errand? task = none

theorem Patient.grows (patient : agenda.Patient) (bounded : agenda.Bounded) (grows : agenda.Grows next) : next.Patient := by
  intro task waits
  rcases grows.waits task waits with before | none
  · exact (grows.entries task (bounded.waits before)).trans (patient task before)
  · exact none

theorem Step.grows (step : Step Stage.Windowed who agenda next) (underway : agenda.Underway) (patient : agenda.Patient)
    (idle : agenda.Idle who) : agenda.Grows next := by
  have bounded := underway.bounded
  cases step with
  | shift queued held =>
    refine .of_still (Nat.le_refl _) (fun _ _ => rfl) rfl rfl fun task waits => ?_
    rcases waits with inQueue | inHeld | waiter
    · exact (queued task inQueue).imp .inl fun mine => (idle task mine).1
    · exact (held task inHeld).imp (.inr ∘ .inl) fun mine => (idle task mine).1
    · exact .inl (.inr (.inr waiter))
  | @wake woken waiting =>
    have ready : (agenda.onTasks (·.enqueue (.resume woken))).scheduler.ready = agenda.scheduler.ready ++
      [.resume woken] := rfl
    refine .of_alike (Nat.le_refl _) (fun _ _ => rfl) rfl ready (fun task member => ?_) fun _ => .inl
    cases List.mem_singleton.mp member
    exact patient _ (waiting.imp_right .inl)
  | start label fair => exact .of_started bounded rfl rfl rfl fun _ => id
  | submit call =>
    refine .of_started bounded (Loop.Scheduler.running_submit _ _) (Dock.fresh_submit _ _)
      (Loop.Scheduler.ready_submit _ _) fun task waits => ?_
    have groups : (agenda.onTasks (·.submit ⟨.call call, none⟩)).scheduler.groups = agenda.scheduler.groups :=
      Loop.Scheduler.groups_onFinish _ _ _
    rw [Waits, groups] at waits
    exact waits
  | @suspend sleeper job mine present waits =>
    obtain ⟨called, -⟩ := idle sleeper mine
    have operation : job.stage.call? = none := by
      cases stage : job.stage with
      | call call => rw [stage] at waits; cases waits
      | _ => rfl
    refine .of_still (Nat.le_refl _) (fun task _ => ?_) ?_ rfl fun _ => .inl
    · by_cases here : task = sleeper
      · rw [here, called, errand?, onTasks, Loop.Scheduler.suspend, Assoc.find?_put_self, Option.bind_some, operation]
        rfl
      · rw [errand?, onTasks, Loop.Scheduler.suspend, Assoc.find?_put_of_ne here, errand?]
    · refine (Assoc.filterMap_put_blank ?_).trans (Assoc.filterMap_remove_blank fun old found => ?_)
      · simp [operation]
      · exact (errand_of_find found).symm.trans called
  | @finish finished result mine present =>
    obtain ⟨called, -⟩ := idle finished mine
    refine .of_alike (Nat.le_refl _) (fun task _ => ?_) ?_ rfl (fun task member => ?_) fun _ => .inl
    · by_cases here : task = finished
      · rw [here, called, errand?, onTasks, Loop.Scheduler.finish, Assoc.find?_remove_self bounded.tasks.unique]
        rfl
      · rw [errand?, onTasks, Loop.Scheduler.finish, Assoc.find?_remove_of_ne here, errand?]
    · exact Assoc.filterMap_remove_blank fun old found => (errand_of_find found).symm.trans called
    · exact absurd member (underway.kept.leaves.calm finished task)
  | @waitFor waiter tasks mine present =>
    obtain ⟨groups, more, ready, arrive⟩ := agenda.scheduler.waitFor_turns waiter tasks
    have running := agenda.scheduler.running_waitFor waiter tasks
    refine .of_alike ?_ (fun task _ => errand_running running task) (submitted_running running) ready
      (fun task member => Loop.Turn.noConfusion (arrive _ member)) fun task waits => ?_
    · rw [onTasks, Dock.fresh_waitFor]
      exact Nat.le_succ _
    · rcases waits with queued | held | ⟨entry, member, same⟩
      · exact .inl (.inl queued)
      · exact .inl (.inr (.inl held))
      · rw [onTasks, groups] at member
        rcases Assoc.mem_put member with rfl | old
        · exact .inr (same ▸ (errand_running running waiter).trans (idle waiter mine).1)
        · exact .inl (.inr (.inr ⟨entry, old, same⟩))

theorem Steps.grows (steps : Steps Stage.Windowed who agenda next) (underway : agenda.Underway) (patient : agenda.Patient)
    (idle : agenda.Idle who) : agenda.Grows next := by
  have kept := steps.keep (fun last => last.Underway ∧ last.Patient ∧ last.Idle who ∧ agenda.Grows last) underway.bounded
    (fun task mine => (idle task mine).2) (fun step bounded ⟨underway, patient, idle, grows⟩ => ?_)
    ⟨underway, patient, idle, .refl agenda⟩
  · exact kept.2.2.2.2
  · have grown := step.grows underway patient idle
    have later := bounded.step step fun task mine => (idle task mine).2
    exact ⟨⟨later, underway.kept.step bounded step⟩, patient.grows bounded grown, idle.grows grown,
      grows.trans bounded grown⟩

/-- A call begins, and its task is given no turn but to end it. -/
structure Opens (task : Loop.TaskId) (rest : List Loop.Turn) (agenda next : Agenda β) : Prop where
  fresh : next.scheduler.fresh = agenda.scheduler.fresh
  entries : ∀ other, next.errand? other = if other = task then none else agenda.errand? other
  submitted : next.submitted = (agenda.scheduler.running.remove task).filterMap fun (task, job) =>
    job.stage.call?.map (task, ·)
  turns : ∃ more, next.scheduler.ready = rest ++ more ∧ ∀ other, .resume other ∈ more → other = task
  waits : ∀ other, next.Waits other → agenda.Waits other

/-- What a turn comes to: a call begins, or none does. -/
inductive Proceeds (agenda next : Agenda β) : Prop
  | rest (calm : agenda.scheduler.ready = []) (same : next = agenda)
  | work {turn : Loop.Turn} {rest : List Loop.Turn} (ready : agenda.scheduler.ready = turn :: rest)
      (idle : ∀ task, turn = .resume task → agenda.errand? task = none) (grows : (agenda.popped rest).Grows next)
  | call {task : Loop.TaskId} {rest : List Loop.Turn} {call : BackendCall}
      (ready : agenda.scheduler.ready = .resume task :: rest)
      (called : agenda.errand? task = some (task, call)) (opens : Opens task rest agenda next)

private theorem arrive_grows (patient : agenda.Patient) (group : Nat) :
    agenda.Grows (agenda.onTasks (·.arrive group)) := by
  have running := agenda.scheduler.running_arrive group
  have arrived : ∃ more, (agenda.scheduler.arrive group).ready = agenda.scheduler.ready ++ more ∧
      (∀ task, .resume task ∈ more → agenda.Waits task) ∧ (agenda.scheduler.arrive group).fresh = agenda.scheduler.fresh ∧
      ∀ entry ∈ (agenda.scheduler.arrive group).groups, ∃ old ∈ agenda.scheduler.groups, old.2.waiter = entry.2.waiter := by
    unfold Loop.Scheduler.arrive
    cases found : agenda.scheduler.groups.find? group with
    | none => exact ⟨[], (List.append_nil _).symm, nofun, rfl, fun entry member => ⟨entry, member, rfl⟩⟩
    | some waiting =>
      obtain ⟨missing, waiter⟩ := waiting
      have there := Assoc.mem_of_find? found
      dsimp only
      split
      · refine ⟨[.resume waiter], rfl, fun task member => ?_, rfl, fun entry member => ?_⟩
        · cases List.mem_singleton.mp member
          exact .inr (.inr ⟨_, there, rfl⟩)
        · exact ⟨entry, (Assoc.remove_sublist group _).subset member, rfl⟩
      · refine ⟨[], (List.append_nil _).symm, nofun, rfl, fun entry member => ?_⟩
        rcases Assoc.mem_put member with rfl | old
        · exact ⟨_, there, rfl⟩
        · exact ⟨entry, old, rfl⟩
  obtain ⟨more, ready, woken, fresh, older⟩ := arrived
  refine .of_alike (Nat.le_of_eq fresh.symm) (fun task _ => errand_running running task) (submitted_running running) ready
    (fun task member => ?_) fun task waits => .inl ?_
  · exact (errand_running running task).trans (patient task (woken task member))
  · rcases waits with queued | held | ⟨entry, member, same⟩
    · exact .inl queued
    · exact .inr (.inl held)
    · obtain ⟨old, before, alike⟩ := older entry member
      exact .inr (.inr ⟨old, before, alike.trans same⟩)

theorem Turned.proceeds (turned : Turned Stage.Windowed agenda next) (underway : agenda.Underway)
    (patient : agenda.Patient) :
    agenda.Proceeds next := by
  have unique := underway.bounded.tasks.unique
  -- The line moves on only when a call has its turn, which was the first; everything else adds to its end at most.
  cases turned with
  | idle calm => exact .rest calm rfl
  | @lost loser rest ready gone =>
    refine .work ready ?_ (.refl _)
    rintro task ⟨⟩
    exact errand_of_gone gone
  | @worked worker rest job _ ready found operation steps =>
    have nothing : agenda.errand? worker = none := by rw [errand_of_find found, operation]; rfl
    have older : ∀ turn ∈ rest, turn ∈ agenda.scheduler.ready := fun turn member => ready ▸ List.mem_cons_of_mem _ member
    have popped : (agenda.popped rest).Underway := ⟨underway.bounded.pop older, underway.kept.pop older⟩
    refine .work ready ?_ (steps.grows popped patient ?_)
    · rintro task ⟨⟩
      exact nothing
    · rintro task ⟨⟩
      exact ⟨nothing, underway.bounded.tasks.running _ (Assoc.mem_keys_iff.mpr ⟨_, found⟩)⟩
  | @called caller rest call label result ready found =>
    refine .call ready (errand_of_find found) ⟨rfl, fun other => ?_, rfl, ⟨_, rfl, fun other member => ?_⟩, fun _ => id⟩
    · rw [errand?, onTasks, Loop.Scheduler.finish]
      split
      next here => rw [here, popped, onTasks, Assoc.find?_remove_self unique, Option.bind_none]
      next elsewhere => rw [Assoc.find?_remove_of_ne elsewhere, popped, onTasks, errand?]
    · exact absurd member (underway.kept.leaves.calm caller other)
  | @lingered caller rest call label failure records ready found =>
    refine .call ready (errand_of_find found)
      ⟨rfl, fun other => ?_, Assoc.filterMap_put_blank rfl, ⟨_, rfl, fun other member => ?_⟩, fun _ => id⟩
    · change ((agenda.scheduler.running.put caller ⟨.callEnding call failure records, label⟩).find? other).bind _ = _
      split
      next here =>
        rw [here, Assoc.find?_put_self]
        rfl
      next elsewhere => rw [Assoc.find?_put_of_ne elsewhere, errand?]
    · cases List.mem_singleton.mp member
      rfl
  | @left task rest ready =>
    exact .work ready (fun _ mine => Loop.Turn.noConfusion mine)
      (.of_still (Nat.le_refl _) (fun _ _ => rfl) rfl rfl fun _ => .inl)
  | @arrived group rest ready =>
    have popped : (agenda.popped rest).Patient := patient
    exact .work ready (fun _ mine => Loop.Turn.noConfusion mine) (arrive_grows popped group)

/-- Calls get their turns in the order in which they were submitted. -/
structure FirstCome (agenda : Agenda β) : Prop where
  inOrder : agenda.coming = agenda.submitted
  patient : agenda.Patient

namespace FirstCome

theorem grows (come : agenda.FirstCome) (bounded : agenda.Bounded) (grows : agenda.Grows next) : next.FirstCome := by
  refine ⟨?_, come.patient.grows bounded grows⟩
  obtain ⟨more, ready, submitted⟩ := grows.turns
  have before : agenda.scheduler.ready.filterMap (fun turn => turn.task?.bind next.errand?) = agenda.coming := by
    refine List.filterMap_congr fun turn member => ?_
    cases turn with
    | resume task => exact grows.entries task (bounded.tasks.ready _ member)
    | leave | arrive => rfl
  rw [coming, ready, submitted, List.filterMap_append, before, come.inOrder]

theorem pop (come : agenda.FirstCome) {turn : Loop.Turn} {rest : List Loop.Turn}
    (ready : agenda.scheduler.ready = turn :: rest) (idle : ∀ task, turn = .resume task → agenda.errand? task = none) :
    (agenda.popped rest).FirstCome := by
  refine ⟨?_, come.patient⟩
  have order := come.inOrder
  rw [coming, ready, List.filterMap_cons] at order
  cases turn with
  | resume task =>
    rw [show (Loop.Turn.resume task).task?.bind agenda.errand? = none from idle task rfl] at order
    exact order
  | leave | arrive => exact order

/-- The call that begins is the one that was submitted first. -/
theorem opens (come : agenda.FirstCome) (bounded : agenda.Bounded) {rest : List Loop.Turn} {call : BackendCall}
    (ready : agenda.scheduler.ready = .resume task :: rest) (called : agenda.errand? task = some (task, call))
    (opens : Opens task rest agenda next) : next.FirstCome ∧ agenda.submitted = (task, call) :: next.submitted := by
  have order : agenda.submitted = (task, call) :: rest.filterMap fun turn => turn.task?.bind agenda.errand? := by
    rw [← come.inOrder, coming, ready, List.filterMap_cons,
      show (Loop.Turn.resume task).task?.bind agenda.errand? = _ from called]
  have own (name : Loop.TaskId) (job : Job β) (same : job.stage.call?.map (name, ·) = some (task, call)) : name = task := by
    obtain ⟨_, -, alike⟩ := Option.map_eq_some_iff.mp same
    exact congrArg Prod.fst alike
  have tail := Assoc.filterMap_remove_first order own fun job found => (errand_of_find found).symm.trans called
  rw [← opens.submitted] at tail
  refine ⟨⟨?_, fun other waits => ?_⟩, by rw [order, tail]⟩
  · obtain ⟨more, later, ends⟩ := opens.turns
    have ended : more.filterMap (fun turn => turn.task?.bind next.errand?) = [] := by
      refine List.filterMap_eq_nil_iff.mpr fun turn member => ?_
      cases turn with
      | resume other => exact (opens.entries other).trans (if_pos (ends other member))
      | leave | arrive => rfl
    rw [coming, later, List.filterMap_append, ended, List.append_nil, tail]
    refine List.filterMap_congr fun turn member => ?_
    cases turn with
    | leave | arrive => rfl
    | resume other =>
      refine (opens.entries other).trans (if_neg ?_)
      rintro rfl
      have again : (other, call) ∈ next.submitted := by
        rw [tail]
        exact List.mem_filterMap.mpr ⟨_, member, called⟩
      rw [opens.submitted] at again
      obtain ⟨⟨name, job⟩, inside, same⟩ := List.mem_filterMap.mp again
      have left : name ∈ (agenda.scheduler.running.remove other).keys := List.mem_map_of_mem inside
      rw [own name job same] at left
      exact Assoc.find?_eq_none.mp (Assoc.find?_remove_self bounded.tasks.unique) left
  · rw [opens.entries]
    split
    · rfl
    · exact come.patient other (opens.waits other waits)

theorem proceeds (come : agenda.FirstCome) (bounded : agenda.Bounded) (proceeds : agenda.Proceeds next) :
    next.FirstCome := by
  cases proceeds with
  | rest calm same => exact same ▸ come
  | work ready idle grows =>
    exact (come.pop ready idle).grows (bounded.pop fun turn member => ready ▸ List.mem_cons_of_mem _ member) grows
  | call ready called opens => exact (come.opens bounded ready called opens).1

end FirstCome

/-- Whoever among the first tasks is about to begin a call does so in one of the next turns. -/
def Due (mark : Loop.TaskId) (turns : Nat) (agenda : Agenda β) : Prop :=
  ∀ task < mark, agenda.errand? task ≠ none → .resume task ∈ agenda.scheduler.ready.take turns

theorem mem_submitted (unique : agenda.scheduler.running.keys.Nodup) {entry : Loop.TaskId × BackendCall} :
    entry ∈ agenda.submitted ↔ agenda.errand? entry.1 = some entry := by
  constructor
  · intro member
    obtain ⟨⟨task, job⟩, inside, called⟩ := List.mem_filterMap.mp member
    obtain ⟨call, same, rfl⟩ := Option.map_eq_some_iff.mp called
    rw [errand_of_find (Assoc.find?_of_mem unique inside), same]
    rfl
  · intro called
    obtain ⟨job, found, same⟩ := Option.bind_eq_some_iff.mp called
    exact List.mem_filterMap.mpr ⟨_, Assoc.mem_of_find? found, same⟩

/-- A call that was submitted begins in one of the turns that were asked for. -/
theorem FirstCome.due (come : agenda.FirstCome) (unique : agenda.scheduler.running.keys.Nodup) (mark : Loop.TaskId) :
    agenda.Due mark agenda.scheduler.ready.length := by
  intro task _ calls
  obtain ⟨entry, called⟩ := Option.ne_none_iff_exists'.mp calls
  cases errand_task called
  have member := (mem_submitted unique).mpr called
  rw [← come.inOrder] at member
  obtain ⟨turn, asked, same⟩ := List.mem_filterMap.mp member
  rw [List.take_length]
  cases turn with
  | resume other => exact errand_task (show agenda.errand? other = some entry from same) ▸ asked
  | leave | arrive => cases same

theorem Due.grows {mark : Loop.TaskId} {turns : Nat} (due : agenda.Due mark turns) (given : mark ≤ agenda.scheduler.fresh)
    (grows : agenda.Grows next) : next.Due mark turns := by
  intro task old calls
  rw [grows.entries task (Nat.lt_of_lt_of_le old given)] at calls
  obtain ⟨more, ready, -⟩ := grows.turns
  rw [ready, List.take_append]
  exact List.mem_append_left _ (due task old calls)

theorem Due.proceeds {mark : Loop.TaskId} {turns : Nat} (due : agenda.Due mark (turns + 1))
    (given : mark ≤ agenda.scheduler.fresh) (proceeds : agenda.Proceeds next) : next.Due mark turns := by
  cases proceeds with
  | rest calm same =>
    intro task old calls
    have asked := due task old (same ▸ calls)
    rw [calm, List.take_nil] at asked
    cases asked
  | @work turn rest ready idle grows =>
    have popped : (agenda.popped rest).Due mark turns := by
      intro task old calls
      have asked := due task old calls
      rw [ready, List.take_succ_cons] at asked
      rcases List.mem_cons.mp asked with now | later
      · exact absurd (idle task now.symm) calls
      · exact later
    exact popped.grows given grows
  | @call caller rest call ready called opens =>
    intro task old calls
    rw [opens.entries] at calls
    split at calls
    next => exact absurd rfl calls
    next other =>
      have asked := due task old calls
      rw [ready, List.take_succ_cons] at asked
      obtain ⟨more, later, -⟩ := opens.turns
      rw [later, List.take_append]
      rcases List.mem_cons.mp asked with now | after
      · exact absurd (Loop.Turn.resume.inj now) other
      · exact List.mem_append_left _ after

end Agenda

namespace Dock
variable {β : Type} {dock : Dock β} {task : Loop.TaskId}

theorem callsFrom_submitted (mark : Loop.TaskId) (dock : Dock β) :
    dock.callsFrom mark = dock.agenda.submitted.filterMap fun (task, call) => if mark ≤ task then some call else none := by
  rw [callsFrom, Agenda.submitted, List.filterMap_filterMap]
  refine List.filterMap_congr fun entry _ => ?_
  obtain ⟨task, job⟩ := entry
  dsimp only
  cases job.stage.call? with
  | none => split <;> rfl
  | some call => rfl

variable [SessionBackend β]

theorem turn_proceeds (underway : dock.agenda.Underway) (patient : dock.agenda.Patient) :
    dock.agenda.Proceeds dock.turn.agenda :=
  (turn_turned dock underway.grants).proceeds underway patient

theorem turn_opens (underway : dock.agenda.Underway) (come : dock.agenda.FirstCome) {rest : List Loop.Turn}
    (ready : dock.scheduler.ready = .resume task :: rest) {call : BackendCall} {label : Option String}
    (found : dock.scheduler.running.find? task = some ⟨.call call, label⟩) (mark : Loop.TaskId) :
    dock.callsFrom mark = (if mark ≤ task then [call] else []) ++ dock.turn.callsFrom mark := by
  have here : dock.agenda.scheduler.running.find? task = some ⟨.call call, label⟩ := found
  have called : dock.agenda.errand? task = some (task, call) := (Agenda.errand_of_find here).trans rfl
  have first : dock.agenda.submitted = (task, call) :: dock.turn.agenda.submitted := by
    cases turn_proceeds underway come.patient with
    | rest calm => cases calm.symm.trans ready
    | work asked idle =>
      cases asked.symm.trans ready
      cases (idle task rfl).symm.trans called
    | call asked other opens =>
      cases asked.symm.trans ready
      cases called.symm.trans other
      exact (come.opens underway.bounded ready called opens).2
  rw [callsFrom_submitted, first, callsFrom_submitted, List.filterMap_cons]
  by_cases later : mark ≤ task
  · simp only [later, if_true, List.singleton_append]
  · simp only [later, if_false, List.nil_append]

/-- What is asked for is begun without a turn, and calls keep their places. -/
theorem ask_grows (underway : dock.agenda.Underway) (patient : dock.agenda.Patient) {request : Request β}
    (windowed : request.only Request.windowed = true) :
    (dock.move (.ask request)).agenda.Underway ∧ dock.agenda.Grows (dock.move (.ask request)).agenda := by
  let created : Dock β := { dock with scheduler := (dock.scheduler.create ⟨.begin request, none⟩).2 }
  have present : dock.scheduler.fresh ∈ created.scheduler.running.keys :=
    Assoc.mem_keys_iff.mpr ⟨_, Assoc.find?_put_self _ _ _⟩
  have steps : Agenda.Steps Stage.Windowed dock.scheduler.fresh created.agenda (dock.move (.ask request)).agenda := by
    rw [move_ask]
    exact begin_works created (Request.windowed_grants windowed) present
  have absent : dock.agenda.scheduler.fresh ∉ dock.agenda.scheduler.running.keys :=
    fun member => Nat.lt_irrefl _ (underway.bounded.tasks.running _ member)
  have there : created.agenda.scheduler.running.find? dock.scheduler.fresh = some ⟨.begin request, none⟩ :=
    Assoc.find?_put_self _ _ _
  have newcomer : created.agenda.errand? dock.scheduler.fresh = none := (Agenda.errand_of_find there).trans rfl
  have begun : dock.agenda.Grows created.agenda := by
    refine .of_still (Nat.le_succ _) (fun other old => ?_) ?_ rfl fun _ => .inl
    · exact congrArg (Option.bind · _) (Assoc.find?_put_of_ne (Nat.ne_of_lt old) _ _)
    · exact (Assoc.filterMap_put_new absent _).trans (List.append_nil _)
  have createdUnderway : created.agenda.Underway :=
    ⟨underway.bounded.create _, underway.kept.create underway.bounded none (.inl windowed)⟩
  refine ⟨underway.asked windowed steps, begun.trans createdUnderway.bounded ?_⟩
  refine steps.grows createdUnderway (patient.grows underway.bounded begun) fun task mine => ?_
  cases mine
  exact ⟨newcomer, Nat.lt_succ_self _⟩

end Dock

end TerminalDock
