import TerminalDock.Proofs.SweepRuns

/-! The first sweep of a panel, and those that come after it. Whatever the backend makes of its calls, and whoever is told
of those that fail, the first one makes one call for each session, and ends with their number. Nothing is done by those
after it. -/

namespace TerminalDock

namespace Agenda
variable {β : Type} {who : Option Loop.TaskId} {licence : Stage β → Prop} {agenda next : Agenda β}

def Unfinished (agenda : Agenda β) : Prop :=
  ∀ task ∈ agenda.scheduler.running.keys, agenda.scheduler.results.find? task = none

namespace Unfinished

theorem finish (unfinished : agenda.Unfinished) (bounded : agenda.Bounded) (task : Loop.TaskId)
    (result : Except Failure Answer) : (agenda.onTasks (·.finish task result)).Unfinished := by
  intro other member
  have elsewhere : other ≠ task := by
    rintro rfl
    exact Assoc.find?_eq_none.mp (Assoc.find?_remove_self bounded.tasks.unique) member
  have before : other ∈ agenda.scheduler.running.keys :=
    ((Assoc.remove_sublist task agenda.scheduler.running).map Prod.fst).subset member
  exact (Assoc.find?_put_of_ne elsewhere _ _).trans (unfinished other before)

theorem newcomer (unfinished : agenda.Unfinished) (bounded : agenda.Bounded) {job : Job β}
    (running : next.scheduler.running = agenda.scheduler.running.put agenda.scheduler.fresh job)
    (results : next.scheduler.results = agenda.scheduler.results) : next.Unfinished := by
  intro task member
  rw [running] at member
  rw [results]
  rcases Assoc.mem_keys_put member with rfl | old
  · exact Assoc.find?_eq_none.mpr fun known => Nat.lt_irrefl _ (bounded.tasks.results _ known)
  · exact unfinished task old

theorem suspend (unfinished : agenda.Unfinished) {task : Loop.TaskId} (present : task ∈ agenda.scheduler.running.keys)
    (job : Job β) : (agenda.onTasks (·.suspend task job)).Unfinished := by
  intro other member
  have same : (agenda.onTasks (·.suspend task job)).scheduler.running.keys = agenda.scheduler.running.keys :=
    Assoc.keys_put_of_present present job
  exact unfinished other (same ▸ member)

theorem step (unfinished : agenda.Unfinished) (bounded : agenda.Bounded) (step : Step licence who agenda next) :
    next.Unfinished := by
  cases step with
  | shift | wake => exact unfinished
  | start label fair => exact unfinished.newcomer bounded rfl rfl
  | submit call =>
    exact unfinished.newcomer bounded (Loop.Scheduler.running_submit _ _) (Loop.Scheduler.results_submit _)
  | suspend job mine present waits => exact unfinished.suspend present job
  | finish mine present => exact unfinished.finish bounded _ _
  | waitFor mine present =>
    intro task member
    rw [onTasks, Loop.Scheduler.results_waitFor]
    rw [onTasks, Loop.Scheduler.running_waitFor] at member
    exact unfinished task member

theorem steps (unfinished : agenda.Unfinished) (bounded : agenda.Bounded)
    (given : ∀ task, who = some task → task < agenda.scheduler.fresh) (steps : Steps licence who agenda next) :
    next.Unfinished :=
  (steps.keep Unfinished bounded given (fun step bounded before => before.step bounded step) unfinished).2

theorem stirred (unfinished : agenda.Unfinished) (bounded : agenda.Bounded) (stirred : agenda.Stirred who next) :
    next.Unfinished := by
  cases stirred with
  | calm steps => exact unfinished.steps bounded (fun _ never => absurd never.symm (Option.some_ne_none _)) steps
  | begun job steps =>
    have created : (agenda.onTasks fun scheduler => (scheduler.create job).2).Unfinished :=
      unfinished.newcomer bounded rfl rfl
    exact created.steps (bounded.create job) (agenda.fresh_given job) steps

theorem turned (unfinished : agenda.Unfinished) (bounded : agenda.Bounded) (turned : Turned licence agenda next) :
    next.Unfinished := by
  have pop {turn : Loop.Turn} {rest : List Loop.Turn} (next : agenda.scheduler.ready = turn :: rest) :
      (agenda.popped rest).Bounded ∧ (agenda.popped rest).Unfinished :=
    ⟨bounded.pop fun other member => next ▸ List.mem_cons_of_mem _ member, unfinished⟩
  cases turned with
  | idle | lost | left => exact unfinished
  | worked next found operation steps =>
    refine (pop next).2.steps (pop next).1 (fun task mine => ?_) steps
    cases mine
    exact bounded.tasks.running _ (Assoc.mem_keys_iff.mpr ⟨_, found⟩)
  | called result next found => exact (pop next).2.finish (pop next).1 _ result
  | lingered failure records next found => exact (pop next).2.suspend (Assoc.mem_keys_iff.mpr ⟨_, found⟩) _
  | arrived next =>
    intro task member
    rw [onTasks, Loop.Scheduler.results_arrive]
    rw [onTasks, Loop.Scheduler.running_arrive] at member
    exact unfinished task member

end Unfinished

end Agenda

namespace Dock
variable {β : Type} {dock first last : Dock β} {sweeper : Loop.TaskId} {calls : List Loop.TaskId} {label : Option String}

theorem Fair.unfinished [SessionBackend β] (fair : dock.Fair) (unfinished : dock.agenda.Unfinished)
    (beats : List (Beat β)) : (dock.play beats).agenda.Unfinished := by
  induction beats generalizing dock with
  | nil => exact unfinished
  | cons beat rest ih =>
    refine ih (fair.beat beat) ?_
    rcases dock.stirred_or_turned beat with stirred | rfl
    · exact unfinished.stirred fair.tasks stirred
    · exact unfinished.turned fair.tasks dock.turn_steps

/-- Tasks were started, one for each of some stages, and nothing else was done. -/
structure Started (stages : List (Stage β)) (tasks : List Loop.TaskId) (first last : Dock β) : Prop where
  alike : last = { first with scheduler := last.scheduler }
  results : last.scheduler.results = first.scheduler.results
  fresh : first.scheduler.fresh ≤ last.scheduler.fresh
  given : ∀ task ∈ tasks, first.scheduler.fresh ≤ task ∧ task < last.scheduler.fresh
  distinct : tasks.Nodup
  found : List.Forall₂ (fun task stage => last.scheduler.running.find? task = some ⟨stage, none⟩) tasks stages
  present : ∀ task ∈ tasks, task ∈ last.scheduler.running.keys
  others : ∀ task ∉ tasks, last.scheduler.running.find? task = first.scheduler.running.find? task
  bounded : last.scheduler.Bounded

private theorem startAll_started (bounded : dock.scheduler.Bounded) (stages : List (Stage β)) :
    Started stages (dock.startAll stages).1 dock (dock.startAll stages).2 := by
  induction stages generalizing dock with
  | nil => exact ⟨rfl, rfl, Nat.le_refl _, List.forall_mem_nil _, List.nodup_nil, .nil,
      List.forall_mem_nil _, fun _ _ => rfl, bounded⟩
  | cons stage rest ih =>
    let next : Dock β := { dock with scheduler := (dock.scheduler.start ⟨stage, none⟩).2 }
    have later : Started rest (next.startAll rest).1 next (next.startAll rest).2 := ih (bounded.started _)
    have newer : dock.scheduler.fresh ∉ (next.startAll rest).1 :=
      fun member => absurd (later.given _ member).1 (Nat.not_succ_le_self _)
    have old : dock.scheduler.fresh < (next.startAll rest).2.scheduler.fresh := later.fresh
    have found := (later.others _ newer).trans (Assoc.find?_put_self _ _ _)
    refine ⟨later.alike, later.results, Nat.le_of_lt old, List.forall_mem_cons.mpr ⟨⟨Nat.le_refl _, old⟩, ?_⟩,
      List.nodup_cons.mpr ⟨newer, later.distinct⟩, .cons found later.found,
      List.forall_mem_cons.mpr ⟨Assoc.mem_keys_iff.mpr ⟨_, found⟩, later.present⟩, fun task other => ?_, later.bounded⟩
    · exact fun task member => (later.given task member).imp_left Nat.le_of_succ_le
    · obtain ⟨here, there⟩ := not_or.mp (mt List.mem_cons.mpr other)
      exact (later.others task there).trans (Assoc.find?_put_of_ne here _ _)

/-- A task is about to begin what it was asked for. -/
structure Asked (request : Request β) (task : Loop.TaskId) (label : Option String) (first start : Dock β) : Prop where
  bounded : start.scheduler.Bounded
  working : start.agenda.Working task ⟨.begin request, label⟩
  panel : start.panel = first.panel
  sights : start.sights = first.sights
  fresh : first.scheduler.fresh ≤ start.scheduler.fresh
  others : ∀ other, other ≠ task → start.scheduler.running.find? other = first.scheduler.running.find? other

private theorem asked_begins [SessionBackend β] {beat : Beat β} {request : Request β} {task : Loop.TaskId} (fair : dock.Fair)
    (unfinished : dock.agenda.Unfinished) (asked : dock.asked? beat = some request) (mine : dock.actor? beat = some task) :
    ∃ start label, Asked request task label dock start ∧ dock.beat beat = start.begin task request := by
  have bounded := fair.tasks.tasks
  cases beat with
  | fire place => cases asked
  | move move =>
    cases move with
    | ask same =>
      cases asked
      cases mine
      refine ⟨{ dock with scheduler := (dock.scheduler.create ⟨.begin request, none⟩).2 }, none, ?_, move_ask dock request⟩
      refine ⟨bounded.create _, ⟨Assoc.find?_put_self _ _ _, ?_⟩, rfl, rfl, Nat.le_succ _,
        fun task other => Assoc.find?_put_of_ne other _ _⟩
      exact Assoc.find?_eq_none.mpr fun known => Nat.lt_irrefl _ (bounded.results _ known)
    | turn =>
      cases ready : dock.scheduler.ready with
      | nil => simp [actor?, ready] at mine
      | cons turn rest =>
        cases turn with
        | leave | arrive => simp [actor?, ready] at mine
        | resume next =>
          simp only [actor?, ready, Option.some.injEq] at mine
          subst mine
          simp only [asked?, actor?, ready, Option.bind_some] at asked
          split at asked
          next same begins =>
            cases asked
            obtain ⟨⟨stage, label⟩, live, same⟩ := Option.map_eq_some_iff.mp begins
            obtain rfl : stage = .begin request := same
            have none_yet := unfinished next (Assoc.mem_keys_iff.mpr ⟨_, live⟩)
            have older : ∀ turn ∈ rest, turn ∈ dock.scheduler.ready :=
              fun turn member => ready ▸ List.mem_cons_of_mem _ member
            refine ⟨dock.popped rest, label, ⟨bounded.pop older, ⟨live, none_yet⟩, rfl, rfl, Nat.le_refl _,
              fun _ _ => rfl⟩, ?_⟩
            have there : (dock.popped rest).scheduler.running.find? next = some ⟨.begin request, label⟩ := live
            have turned : dock.beat (.move .turn) = (dock.popped rest).resume next := (turn_resume ready).1
            rw [turned]
            simp only [resume, there]
          next => cases asked
    | answer | announce => cases asked

/-- A sweep that does nothing, for there was one before. -/
structure Refuses [SessionBackend β] (sweeper : Loop.TaskId) (dock : Dock β) (beat : Beat β) : Prop where
  panel : (dock.beat beat).panel = dock.panel
  gone : (dock.beat beat).scheduler.running.find? sweeper = none
  others : ∀ task, task ≠ sweeper →
    (dock.beat beat).scheduler.running.find? task = dock.scheduler.running.find? task
  result : (dock.beat beat).scheduler.results.find? sweeper = some (.ok (.number 0))
  silent : ∀ call, .calling call ∉ dock.shownIn beat

private theorem sweep_refuses [SessionBackend β] {beat : Beat β} (fair : dock.Fair) (unfinished : dock.agenda.Unfinished)
    (asked : dock.asked? beat = some .closeAll) (mine : dock.actor? beat = some sweeper)
    (swept : dock.panel.registry.swept = true) : dock.Refuses sweeper beat := by
  obtain ⟨start, label, begun, begins⟩ := asked_begins fair unfinished asked mine
  have sweeps : dock.beat beat = start.sweep sweeper false := begins
  have marked : start.panel.registry.swept = true := begun.panel ▸ swept
  have ends : dock.beat beat = start.conclude sweeper (.ok (.number 0)) := by
    rw [sweeps, sweep]
    simp only [marked, if_true, Bool.false_eq_true, if_false]
  have seen : (dock.beat beat).sights = dock.sights ++ label.toList.map fun name => .done name (.ok (.number 0)) := by
    rw [ends, conclude_labelled begun.working.found, begun.sights]
  rw [conclude_labelled begun.working.found] at ends
  refine ⟨?_, ?_, fun task other => ?_, ?_, fun call member => ?_⟩
  · rw [ends]
    exact begun.panel
  · rw [ends]
    exact Assoc.find?_remove_self begun.bounded.unique
  · rw [ends]
    exact (Assoc.find?_remove_of_ne other _).trans (begun.others task other)
  · rw [ends]
    exact Assoc.find?_put_self _ _ _
  · rw [shownIn_of_sights seen] at member
    obtain ⟨name, -, same⟩ := List.mem_map.mp member
    cases same

/-- The calls of a sweep were started, one for each session, and nothing else was done by anybody but the sweeper. -/
structure Launched (sweeper : Loop.TaskId) (calls : List Loop.TaskId) (first last : Dock β) : Prop where
  panel : last.panel = first.panel.swept
  numbered : last.Numbered sweeper calls
  fresh : ∀ call ∈ calls, first.scheduler.fresh ≤ call
  distinct : calls.Nodup
  closing : List.Forall₂ (fun call id => last.scheduler.running.find? call = some ⟨.call (.close id), none⟩) calls
    first.panel.registry.sessions.keys
  unfinished : ∀ call ∈ calls, last.scheduler.results.find? call = none
  others : ∀ task, task ≠ sweeper → task ∉ calls →
    last.scheduler.running.find? task = first.scheduler.running.find? task

theorem Launched.onward {middle : Dock β} (launched : Launched sweeper calls first middle)
    (panel : last.panel = middle.panel)
    (fresh : middle.scheduler.fresh ≤ last.scheduler.fresh)
    (running : ∀ task, task ≠ sweeper → last.scheduler.running.find? task = middle.scheduler.running.find? task)
    (results : ∀ task, task ≠ sweeper → last.scheduler.results.find? task = middle.scheduler.results.find? task) :
    Launched sweeper calls first last := by
  have elsewhere {call : Loop.TaskId} (member : call ∈ calls) : call ≠ sweeper :=
    fun same => launched.numbered.apart (same ▸ member)
  refine ⟨panel.trans launched.panel, ⟨?_, fun call member => ?_, launched.numbered.apart⟩, launched.fresh,
    launched.distinct,
    ?_, fun call member => ?_, fun task other apart => ?_⟩
  · exact Nat.lt_of_lt_of_le launched.numbered.sweeper_lt fresh
  · exact Nat.lt_of_lt_of_le (launched.numbered.calls_lt call member) fresh
  · refine ((List.forall₂_and_left _ _).mpr ⟨fun call member => elsewhere member, launched.closing⟩).imp fun call id
      both => ?_
    exact (running call both.1).trans both.2
  · exact (results call (elsewhere member)).trans (launched.unfinished call member)
  · exact (running task other).trans (launched.others task other apart)

private theorem change_swept (drained : dock.panel.drained = dock.panel) :
    dock.change Panel.swept = { dock with panel := dock.panel.swept } := by
  have journal : dock.panel.registry.journal = [] := (congrArg (·.registry.journal) drained).symm
  have outbox : dock.panel.registry.outbox = [] := (congrArg (·.registry.outbox) drained).symm
  have same : dock.panel.swept.drained = dock.panel.swept := congrArg Panel.swept drained
  change ({ dock with
    sights := dock.sights ++ dock.panel.registry.journal.map .effect
    scheduler := dock.panel.registry.outbox.foldl _ dock.scheduler
    panel := dock.panel.swept.drained } : Dock β) = _
  rw [journal, outbox, same, List.map_nil, List.append_nil, List.foldl_nil]

/-- A sweep starts its calls, and waits for them if there are any. -/
theorem sweep_launches {start : Dock β} (begun : Asked .closeAll sweeper label dock start)
    (drained : dock.panel.drained = dock.panel) (unmarked : dock.panel.registry.swept = false) :
    ∃ calls, ∃ middle : Dock β, Launched sweeper calls dock middle ∧ middle.scheduler.Bounded ∧
      (∀ call ∈ calls, call ∈ middle.scheduler.running.keys) ∧ middle.sights = dock.sights ∧
      middle.agenda.Working sweeper ⟨.begin .closeAll, label⟩ ∧
      start.sweep sweeper false =
        middle.waitFor sweeper calls (.sweeping calls false) (·.endSweep sweeper calls false) := by
  let marked : Dock β := { start with panel := start.panel.swept }
  let stages : List (Stage β) := start.panel.registry.sessions.keys.map fun id => .call (.close id)
  have bounded : marked.scheduler.Bounded := begun.bounded
  have started : Started stages (marked.startAll stages).1 marked (marked.startAll stages).2 :=
    startAll_started bounded stages
  have sweeps : start.sweep sweeper false = (marked.startAll stages).2.waitFor sweeper (marked.startAll stages).1
      (.sweeping (marked.startAll stages).1 false) (·.endSweep sweeper (marked.startAll stages).1 false) := by
    have first : start.panel.registry.swept = false := begun.panel ▸ unmarked
    have same : start.change Panel.swept = marked := change_swept (begun.panel.symm ▸ drained)
    rw [← same, sweep]
    simp only [first, Bool.false_eq_true, if_false]
    rfl
  generalize (marked.startAll stages).1 = calls at started sweeps
  generalize (marked.startAll stages).2 = middle at started sweeps
  have older : sweeper < start.scheduler.fresh :=
    begun.bounded.running sweeper (Assoc.mem_keys_iff.mpr ⟨_, begun.working.found⟩)
  have apart : sweeper ∉ calls := fun member => absurd (started.given sweeper member).1 (Nat.not_le_of_lt older)
  have numbered : middle.Numbered sweeper calls :=
    ⟨Nat.lt_of_lt_of_le older started.fresh, fun call member => (started.given call member).2, apart⟩
  refine ⟨calls, middle, ⟨?_, numbered, fun call member => ?_, started.distinct, ?_, fun call member => ?_,
    fun task other there => ?_⟩, started.bounded, started.present, ?_, ⟨?_, ?_⟩, sweeps⟩
  · rw [started.alike]
    exact congrArg Panel.swept begun.panel
  · exact Nat.le_trans begun.fresh (started.given call member).1
  · rw [← begun.panel]
    exact (List.forall₂_map_right_iff (R := fun call stage =>
      middle.scheduler.running.find? call = some ⟨stage, none⟩)).mp started.found
  · rw [started.results]
    refine Assoc.find?_eq_none.mpr fun known => ?_
    exact absurd (started.given call member).1 (Nat.not_le_of_lt (begun.bounded.results call known))
  · exact (started.others task there).trans (begun.others task other)
  · rw [started.alike]
    exact begun.sights
  · exact (started.others sweeper apart).trans begun.working.found
  · change middle.scheduler.results.find? sweeper = none
    rw [started.results]
    exact begun.working.unfinished

/-- What a first sweep has done when its first turn is over. -/
theorem sweep_begins {start : Dock β} (begun : Asked .closeAll sweeper label dock start)
    (drained : dock.panel.drained = dock.panel) (unmarked : dock.panel.registry.swept = false) :
    ∃ calls, Launched sweeper calls dock (start.sweep sweeper false) ∧ ∃ group bound shown,
      (start.sweep sweeper false).sights = dock.sights ++ shown ∧
        Sweeps sweeper calls group label bound (start.sweep sweeper false) shown := by
  obtain ⟨calls, middle, launched, bounded, present, sights, working, sweeps⟩ := sweep_launches begun drained unmarked
  refine ⟨calls, ?_⟩
  rw [sweeps, waitFor]
  split
  next nobody =>
    have ended : ∀ call ∈ calls, call ∉ middle.scheduler.running.keys := by
      rw [List.isEmpty_iff.mp nobody]
      exact List.forall_mem_nil _
    obtain ⟨panel, scheduler, shown, seen, done⟩ :=
      endSweep_done 0 0 bounded.unique working.found ended launched.numbered.apart
    refine ⟨launched.onward panel ?_ (fun task other => ?_) (fun task other => ?_), 0, 0, shown, sights ▸ seen, done⟩
    · rw [scheduler]
      exact Nat.le_refl _
    · rw [scheduler]
      exact Assoc.find?_remove_of_ne other _
    · rw [scheduler]
      exact Assoc.find?_put_of_ne other _ _
  next somebody =>
    let waits : Dock β := middle.suspend sweeper (.sweeping calls false)
    have there : sweeper ∈ middle.scheduler.running.keys := Assoc.mem_keys_iff.mpr ⟨_, working.found⟩
    have put : waits.scheduler.running = middle.scheduler.running.put sweeper ⟨.sweeping calls false, label⟩ := by
      change middle.scheduler.running.put sweeper ⟨.sweeping calls false,
        (middle.scheduler.running.find? sweeper).bind Job.label⟩ = _
      rw [show middle.scheduler.running.find? sweeper = _ from working.found]
      rfl
    have running : (waits.scheduler.waitFor sweeper calls).running =
        middle.scheduler.running.put sweeper ⟨.sweeping calls false, label⟩ :=
      (Loop.Scheduler.running_waitFor _ _ _).trans put
    have results : (waits.scheduler.waitFor sweeper calls).results = middle.scheduler.results :=
      Loop.Scheduler.results_waitFor _ _
    have awaits : (waits.scheduler.waitFor sweeper calls).Awaits sweeper calls waits.scheduler.fresh := by
      refine .waitFor (bounded.suspend there _) sweeper (fun nobody => somebody (List.isEmpty_iff.mpr nobody)) ?_
      intro call member
      exact Assoc.keys_subset_put _ _ _ (present call member)
    refine ⟨launched.onward rfl ?_ (fun task other => ?_) (fun task other => ?_), _, _, [],
      sights.trans (List.append_nil _).symm, .waiting ⟨?_, ?_⟩ awaits (Nat.le_refl _)⟩
    · change middle.scheduler.fresh ≤ (waits.scheduler.waitFor sweeper calls).fresh
      rw [fresh_waitFor]
      exact Nat.le_succ _
    · change (waits.scheduler.waitFor sweeper calls).running.find? task = _
      rw [running]
      exact Assoc.find?_put_of_ne other _ _
    · change (waits.scheduler.waitFor sweeper calls).results.find? task = _
      rw [results]
    · change (waits.scheduler.waitFor sweeper calls).running.find? sweeper = _
      rw [running]
      exact Assoc.find?_put_self _ _ _
    · change (waits.scheduler.waitFor sweeper calls).results.find? sweeper = _
      rw [results]
      exact working.unfinished

variable [SessionBackend β] {beat : Beat β}

/-- A sweep that makes its calls. In every run, each call takes its course, whatever the others come to; nobody's turn
changes the panel; and the sweep ends, with the number of its calls, when all of them have ended. -/
structure ClosesAll (hook : Transport.FailureHook) (sweeper : Loop.TaskId) (calls : List Loop.TaskId) (label : Option String)
    (dock : Dock β) (beat : Beat β) : Prop where
  launched : Launched sweeper calls dock (dock.beat beat)
  courses : ∀ later, List.Forall₂ (fun call id => Course hook (.close id)
    (((dock.beat beat).play later).scheduler.running.find? call) (((dock.beat beat).play later).scheduler.results.find? call)
    ((dock.beat beat).verdicts call later) ((dock.beat beat).shownBy call later)) calls dock.panel.registry.sessions.keys
  untouched : ∀ later, ∀ task ∈ sweeper :: calls, ∀ scene ∈ (dock.beat beat).scenes task later,
    (scene.1.beat scene.2).panel = scene.1.panel
  answers : ∀ later, let last := (dock.beat beat).play later
    last.scheduler.results.find? sweeper = none ∧ dock.shownBy sweeper (beat :: later) = [] ∨
      last.scheduler.results.find? sweeper = some (.ok (.number dock.panel.registry.size)) ∧
        (∀ call ∈ calls, call ∉ last.scheduler.running.keys) ∧
        dock.shownBy sweeper (beat :: later) = summary (last.succeeded calls) dock.panel.registry.size label
  ends : ∀ later, ∃ count,
    (((dock.beat beat).play later).turns count).scheduler.results.find? sweeper =
      some (.ok (.number dock.panel.registry.size))

omit [SessionBackend β] in
theorem Launched.each (launched : Launched sweeper calls first last) : ∀ call ∈ calls, ∃ id,
    last.scheduler.running.find? call = some ⟨.call (.close id), none⟩ := by
  have both := launched.closing.imp fun _ id found => And.intro (Exists.intro id found) found
  exact ((List.forall₂_and_left _ _).mp both).1

private theorem course_along {hook : Transport.FailureHook} {call : Loop.TaskId} {order : BackendCall} (fair : dock.Fair)
    (same : dock.hook = hook) (old : call < dock.scheduler.fresh)
    (found : dock.scheduler.running.find? call = some ⟨.call order, none⟩)
    (unfinished : dock.scheduler.results.find? call = none) (later : List (Beat β)) :
    (∀ scene ∈ dock.scenes call later, (scene.1.beat scene.2).panel = scene.1.panel) ∧
      Course hook order ((dock.play later).scheduler.running.find? call) ((dock.play later).scheduler.results.find? call)
        (dock.verdicts call later) (dock.shownBy call later) := by
  have started : Course dock.hook order (dock.scheduler.running.find? call) (dock.scheduler.results.find? call) [] [] := by
    rw [found, unfinished]
    exact .waiting
  obtain ⟨-, panels, -, course⟩ := started.play fair old later
  rw [(play_lasting dock later).hook, same] at course
  exact ⟨panels, course⟩

private theorem sweep_closes {hook : Transport.FailureHook} (fair : dock.Fair) (unfinished : dock.agenda.Unfinished)
    (drained : dock.panel.drained = dock.panel) (same : dock.hook = hook) (asked : dock.asked? beat = some .closeAll)
    (mine : dock.actor? beat = some sweeper) (unmarked : dock.panel.registry.swept = false) :
    ∃ calls label, ClosesAll hook sweeper calls label dock beat := by
  obtain ⟨start, label, begun, begins⟩ := asked_begins fair unfinished asked mine
  have sweep : dock.beat beat = start.sweep sweeper false := begins
  obtain ⟨calls, launched, group, bound, shown, seen, sweeps⟩ := sweep_begins begun drained unmarked
  rw [← sweep] at launched seen sweeps
  have after := fair.beat beat
  have hooked : (dock.beat beat).hook = hook := (beat_lasting dock beat).hook.trans same
  have size : calls.length = dock.panel.registry.size := launched.closing.length_eq.trans (List.length_map ..)
  have course {call : Loop.TaskId} (member : call ∈ calls) {id : String}
      (found : (dock.beat beat).scheduler.running.find? call = some ⟨.call (.close id), none⟩) (later : List (Beat β)) :=
    course_along after hooked (launched.numbered.calls_lt call member) found (launched.unfinished call member) later
  have along (later : List (Beat β)) := sweeps.play after launched.numbered later
  refine ⟨calls, label, launched, fun later => ?_, fun later => ?_, fun later => ?_, fun later => ?_⟩
  · refine ((List.forall₂_and_left _ _).mpr ⟨fun call member => member, launched.closing⟩).imp fun call id both => ?_
    exact (course both.1 both.2 later).2
  · refine List.forall_mem_cons.mpr ⟨(along later).2.1, fun call member => ?_⟩
    obtain ⟨id, found⟩ := launched.each call member
    exact (course member found later).1
  · obtain ⟨-, -, still⟩ := along later
    have sight : dock.shownBy sweeper (beat :: later) = shown ++ (dock.beat beat).shownBy sweeper later := by
      rw [shownBy_mine mine, shownIn_of_sights seen]
    rw [← sight] at still
    rw [← size]
    generalize dock.shownBy sweeper (beat :: later) = seen at still
    cases still with
    | waiting working | called working => exact .inl ⟨working.unfinished, rfl⟩
    | done gone result ended => exact .inr ⟨result, ended, rfl⟩
  · obtain ⟨known, -, still⟩ := along later
    have fairly := after.play later
    obtain ⟨count, ended⟩ := courses_end fairly ((play_lasting _ later).hook.trans hooked) known.calls_lt fun call
      member => by
      obtain ⟨id, found⟩ := launched.each call member
      exact ⟨.close id, _, _, (course member found later).2⟩
    obtain ⟨known, -, still⟩ := still.play fairly known (List.replicate count (.move .turn))
    obtain ⟨more, gone⟩ := still.ends (fairly.play _) known ended
    obtain ⟨-, -, last⟩ := still.play (fairly.play _) known (List.replicate more (.move .turn))
    refine ⟨count + more, ?_⟩
    rw [turns_add, ← size]
    exact last.result gone

/-- A panel is swept once. Whatever its sessions are, whatever the backend makes of the calls, and whoever is told of their
failures: the first sweep makes one call for each session, of which each that fails is reported once, and answers how many
they were. The panel stays as it is, and every later sweep does nothing. -/
theorem swept_once {panel : Panel} (drained : panel.drained = panel) (backend : β)
    (hook : Transport.FailureHook) (before : List (Beat β))
    (asked : ((Dock.fresh panel backend hook).play before).asked? beat = some .closeAll)
    (mine : ((Dock.fresh panel backend hook).play before).actor? beat = some sweeper) :
    let dock := (Dock.fresh panel backend hook).play before
    (dock.panel.registry.swept = false → ∃ calls label, ClosesAll hook sweeper calls label dock beat) ∧
      (dock.panel.registry.swept = true → Refuses sweeper dock beat) ∧
      ∀ later again next, ((dock.beat beat).play later).asked? again = some .closeAll →
        ((dock.beat beat).play later).actor? again = some next → Refuses next ((dock.beat beat).play later) again := by
  intro dock
  have start : (Dock.fresh panel backend hook).agenda.Unfinished := List.forall_mem_nil _
  have fair : dock.Fair := (fair_fresh panel backend hook).play before
  have unfinished : dock.agenda.Unfinished := (fair_fresh panel backend hook).unfinished start before
  have lasting : Lasting (Dock.fresh panel backend hook) dock := play_lasting _ before
  have closes (unmarked : dock.panel.registry.swept = false) : ∃ calls label, ClosesAll hook sweeper calls label dock beat :=
    sweep_closes fair unfinished (lasting.drained drained) lasting.hook asked mine unmarked
  have refuses (swept : dock.panel.registry.swept = true) : Refuses sweeper dock beat :=
    sweep_refuses fair unfinished asked mine swept
  have marked : (dock.beat beat).panel.registry.swept = true := by
    cases swept : dock.panel.registry.swept with
    | true =>
      rw [(refuses swept).panel]
      exact swept
    | false =>
      obtain ⟨calls, label, all⟩ := closes swept
      rw [all.launched.panel]
      rfl
  refine ⟨closes, refuses, fun later again next asked mine => ?_⟩
  have later_unfinished : ((dock.beat beat).play later).agenda.Unfinished := fair.unfinished unfinished (beat :: later)
  exact sweep_refuses ((fair.beat beat).play later) later_unfinished asked mine ((play_lasting _ later).swept marked)

/-- Two sessions are left, of which one cannot be closed, and whoever is told of it fails too. -/
def deaf : Dock PuppetBackend :=
  (Dock.fresh Panel.standard { failures := [("close:term-2", .transport "close" "term-2" "gone")] } (.observer true)).play
    [.move (.ask .openPanel), .move (.ask (.add none))]

theorem swept_once_deaf : deaf.panel.registry.sessions.keys = ["term-1", "term-2"] ∧
    (∃ calls label, ClosesAll (.observer true) deaf.scheduler.fresh calls label deaf (.move (.ask .closeAll))) ∧
    Refuses (deaf.beat (.move (.ask .closeAll))).scheduler.fresh (deaf.beat (.move (.ask .closeAll)))
      (.move (.ask .closeAll)) := by
  have asked (dock : Dock PuppetBackend) : dock.asked? (.move (.ask .closeAll)) = some .closeAll := rfl
  have mine (dock : Dock PuppetBackend) : dock.actor? (.move (.ask .closeAll)) = some dock.scheduler.fresh := rfl
  have drained : Panel.standard.drained = Panel.standard := rfl
  have once := swept_once drained _ (.observer true) _ (asked deaf) (mine deaf)
  exact ⟨by decide +kernel, once.1 (by decide +kernel), once.2.2 [] _ _ (asked _) (mine _)⟩

end Dock

end TerminalDock
