import TerminalDock.Proofs.DockRuns
import TerminalDock.Proofs.Sweep

/-! The end of a panel. What is asked for at the end sweeps, and then drains. -/

namespace TerminalDock

namespace Agenda
variable {β : Type} {sweeper group : Nat} {calls : List Loop.TaskId} {agenda next : Agenda β}

theorem Asleep.step {licence : Stage β → Prop} {waited : Option Nat} (asleep : agenda.Asleep sweeper waited)
    (old : sweeper < agenda.scheduler.fresh) (step : Step licence none agenda next) : next.Asleep sweeper waited := by
  cases step with
  | shift queued waiting =>
    refine { asleep with apart := ⟨fun member => ?_, fun member => ?_⟩ }
    · exact (queued sweeper member).elim asleep.apart.1 nofun
    · exact (waiting sweeper member).elim asleep.apart.2 nofun
  | wake waiting =>
    refine asleep.enqueue fun same => ?_
    cases same
    exact waiting.elim asleep.apart.1 asleep.apart.2
  | start label fair => exact asleep.started old _
  | submit call => exact asleep.submit old _
  | suspend job mine | finish mine | waitFor mine => cases mine

/-- The tasks of a group are at work, and each of them is to arrive. -/
structure Marked (group : Nat) (tasks : List Loop.TaskId) (first last : Agenda β) : Prop where
  groups : last.scheduler.groups = first.scheduler.groups
  fresh : last.scheduler.fresh = first.scheduler.fresh
  running : last.scheduler.running = first.scheduler.running
  expected : last.scheduler.expected group = first.scheduler.expected group + tasks.length
  marked : ∀ task, task ∈ tasks ∨ .arrive group ∈ first.scheduler.turnsAt task →
    .arrive group ∈ last.scheduler.turnsAt task

theorem Marked.trans {tasks more : List Loop.TaskId} {first middle last : Agenda β}
    (before : Marked group tasks first middle) (later : Marked group more middle last) :
    Marked group (tasks ++ more) first last := by
  refine ⟨later.groups.trans before.groups, later.fresh.trans before.fresh, later.running.trans before.running, ?_,
    fun task among => ?_⟩
  · rw [later.expected, before.expected, List.length_append, Nat.add_assoc]
  · refine later.marked task ?_
    rcases among with member | old
    · exact (List.mem_append.mp member).symm.imp_right fun early => before.marked task (.inl early)
    · exact .inr (before.marked task (.inr old))

private theorem marked_arrival (group : Nat) {task : Loop.TaskId} (present : task ∈ agenda.scheduler.running.keys) :
    Marked group [task] agenda (agenda.onTasks (·.onFinish task (.arrive group))) := by
  have marks := Loop.Scheduler.onFinish_running present (.arrive group)
  have counted := agenda.scheduler.expected_onFinish task (.arrive group) group
  rw [List.count_singleton_self, marks] at counted
  rw [onTasks, marks]
  refine ⟨rfl, rfl, rfl, counted, fun other among => ?_⟩
  by_cases same : other = task
  · rw [same, Loop.Scheduler.turnsAt_put_self]
    exact List.mem_append_right _ (List.mem_singleton_self _)
  · rw [Loop.Scheduler.turnsAt_put_of_ne same]
    exact among.resolve_left fun member => same (List.mem_singleton.mp member)

private theorem marked_arrivals (agenda : Agenda β) (tasks : List Loop.TaskId)
    (present : ∀ task ∈ tasks, task ∈ agenda.scheduler.running.keys) {waited : Option Nat}
    (asleep : agenda.Asleep sweeper waited) :
    let last := agenda.onTasks fun scheduler =>
      tasks.foldl (fun scheduler task => scheduler.onFinish task (.arrive group)) scheduler
    last.Asleep sweeper waited ∧ Marked group tasks agenda last := by
  induction tasks generalizing agenda with
  | nil => exact ⟨asleep, rfl, rfl, rfl, rfl, fun task among => among.resolve_left List.not_mem_nil⟩
  | cons task rest ih =>
    have here := marked_arrival group (present task (List.mem_cons_self ..))
    have sleeps : (agenda.onTasks (·.onFinish task (.arrive group))).Asleep sweeper waited := asleep.onFinish task nofun
    have later := ih _ (fun other member => here.running ▸ present other (List.mem_cons_of_mem _ member)) sleeps
    exact ⟨later.1, here.trans later.2⟩

theorem Asleep.waitFor (asleep : agenda.Asleep sweeper none) (bounded : agenda.Bounded)
    (present : ∀ task ∈ calls, task ∈ agenda.scheduler.running.keys) :
    (agenda.onTasks (·.waitFor sweeper calls)).Guarded sweeper calls agenda.scheduler.fresh := by
  let grouped : Agenda β := agenda.onTasks fun scheduler => { scheduler with
    groups := scheduler.groups.put scheduler.fresh ⟨calls.length, sweeper⟩
    fresh := scheduler.fresh + 1 }
  have waited : grouped.Asleep sweeper (some agenda.scheduler.fresh) := by
    refine { asleep with alone := fun other missing found => ?_ }
    by_contra different
    have elsewhere : other ≠ agenda.scheduler.fresh := fun same => different (congrArg some same.symm)
    cases asleep.alone other missing ((Assoc.find?_put_of_ne elsewhere _ _).symm.trans found)
  have none_yet : grouped.scheduler.expected agenda.scheduler.fresh = 0 := by
    have absent (turns : List Loop.Turn) (older : ∀ turn ∈ turns, turn.number < agenda.scheduler.fresh) :
        turns.count (.arrive agenda.scheduler.fresh) = 0 :=
      List.count_eq_zero.mpr fun member => Nat.lt_irrefl _ (older _ member)
    have ready := absent agenda.scheduler.ready bounded.tasks.ready
    have callbacks := absent agenda.scheduler.callbacks.values.flatten fun turn member => by
      obtain ⟨turns, among, inside⟩ := List.mem_flatten.mp member
      exact bounded.tasks.callbacks turns among turn inside
    exact Nat.add_eq_zero_iff.mpr ⟨ready, callbacks⟩
  obtain ⟨sleeps, marked⟩ := marked_arrivals grouped calls present waited
  refine { sleeps with
    waits := ⟨calls.length, ?_, ?_⟩
    marked := fun task member _ => marked.marked task (.inl member)
    known := fun task member => ?_ }
  · exact (congrArg (Assoc.find? agenda.scheduler.fresh) marked.groups).trans (Assoc.find?_put_self _ _ _)
  · exact Nat.le_of_eq (marked.expected.trans (by rw [none_yet, Nat.zero_add]))
  · have older := bounded.tasks.running task (present task member)
    exact Nat.lt_of_lt_of_eq (Nat.lt_succ_of_lt older) marked.fresh.symm

end Agenda

namespace Dock
variable {β : Type} {sweeper : Loop.TaskId} {job : Job β} {extra : List Loop.TaskId}

/-- The sweeper is about to start its calls. -/
structure Opens (sweeper : Loop.TaskId) (job : Job β) (calls : List Loop.TaskId) (dock : Dock β) : Prop where
  bounded : dock.agenda.Bounded
  working : dock.agenda.Working sweeper job
  kept : dock.agenda.Kept (some sweeper) calls
  asleep : dock.agenda.Asleep sweeper none
  present : ∀ task ∈ calls, task ∈ dock.scheduler.running.keys

theorem Opens.sweeper_lt {dock : Dock β} {calls : List Loop.TaskId} (opens : dock.Opens sweeper job calls) :
    sweeper < dock.scheduler.fresh :=
  opens.bounded.tasks.running sweeper (Assoc.mem_keys_iff.mpr ⟨job, opens.working.found⟩)

private theorem startAll_opens {dock : Dock β} {calls : List Loop.TaskId} (opens : dock.Opens sweeper job calls)
    (ids : List String) : (dock.startAll (ids.map fun id => .call (.close id))).2.Opens sweeper job
      (calls ++ (dock.startAll (ids.map fun id => .call (.close id))).1) := by
  induction ids generalizing dock calls with
  | nil =>
    change dock.Opens sweeper job (calls ++ [])
    rwa [List.append_nil]
  | cons id rest ih =>
    let started : Dock β := { dock with scheduler := (dock.scheduler.start ⟨.call (.close id), none⟩).2 }
    have begun : Agenda.Step (fun _ => True) none dock.agenda started.agenda := .start none trivial
    have next : started.Opens sweeper job (calls ++ [dock.scheduler.fresh]) := by
      refine ⟨opens.bounded.step begun nofun, opens.working.step opens.bounded begun nofun, ?_,
        opens.asleep.step opens.sweeper_lt begun, fun task member => ?_⟩
      · have widened : dock.agenda.Kept (some sweeper) (calls ++ [dock.scheduler.fresh]) :=
          { opens.kept with callers := fun task job found calling =>
              (opens.kept.callers task job found calling).imp_right (List.mem_append_left _) }
        exact widened.of_put (opens.kept.leaves.started opens.bounded.tasks _) rfl (fun _ member => member)
          (fun _ => .inr (List.mem_append_right _ (List.mem_singleton_self _))) nofun
      · rcases List.mem_append.mp member with old | new
        · exact Assoc.keys_subset_put _ _ _ (opens.present task old)
        · rw [List.mem_singleton.mp new]
          exact Loop.Scheduler.fresh_running _
    have all := ih next
    rw [List.append_assoc] at all
    exact all

private theorem waitFor_sweeps {dock : Dock β} {calls : List Loop.TaskId} (opens : dock.Opens sweeper job calls) :
    (dock.waitFor sweeper calls (.sweeping calls true) (·.endSweep sweeper calls true)).agenda.Sweeping sweeper ∨
      (dock.waitFor sweeper calls (.sweeping calls true) (·.endSweep sweeper calls true)).agenda.Swept sweeper := by
  unfold waitFor
  split
  next nobody =>
    rw [List.isEmpty_iff.mp nobody] at opens
    exact drain_sweeps (dock.log _) opens.bounded opens.working opens.kept _
  next =>
    have present : sweeper ∈ dock.scheduler.running.keys := Assoc.mem_keys_iff.mpr ⟨job, opens.working.found⟩
    let label := (dock.scheduler.running.find? sweeper).bind Job.label
    let suspended : Dock β := dock.suspend sweeper (.sweeping calls true)
    have suspends : Agenda.Step Stage.Windowed (some sweeper) dock.agenda suspended.agenda :=
      .suspend ⟨.sweeping calls true, label⟩ rfl present rfl
    have mine (task : Loop.TaskId) (same : some sweeper = some task) : task < dock.scheduler.fresh :=
      Option.some.inj same ▸ opens.sweeper_lt
    have bounded := opens.bounded.step suspends mine
    have kept := opens.kept.step opens.bounded suspends
    have keys : suspended.scheduler.running.keys = dock.scheduler.running.keys := Assoc.keys_put_of_present present _
    have waits : Agenda.Step Stage.Windowed (some sweeper) suspended.agenda
        (suspended.agenda.onTasks (·.waitFor sweeper calls)) := .waitFor rfl (keys ▸ present)
    have asleep : suspended.agenda.Asleep sweeper none := { opens.asleep with }
    have guarded := asleep.waitFor bounded fun task member => keys ▸ opens.present task member
    have working : (suspended.agenda.onTasks (·.waitFor sweeper calls)).Working sweeper ⟨.sweeping calls true, label⟩ := by
      refine ⟨?_, ?_⟩
      · rw [Agenda.onTasks, Loop.Scheduler.running_waitFor]
        exact Assoc.find?_put_self _ _ _
      · rw [Agenda.onTasks, Loop.Scheduler.results_waitFor]
        exact opens.working.unfinished
    exact .inl ⟨bounded.step waits mine, ⟨_, rfl, working⟩, .inl ⟨calls, _, kept.step bounded waits, guarded⟩⟩

private theorem sweep_sweeps {dock : Dock β} (opens : dock.Opens sweeper job []) :
    (dock.sweep sweeper true).agenda.Sweeping sweeper ∨ (dock.sweep sweeper true).agenda.Swept sweeper := by
  unfold sweep
  dsimp only
  split
  · exact drain_sweeps dock opens.bounded opens.working opens.kept _
  · have changed : (dock.change Panel.swept).Opens sweeper job [] := by
      have steps : Agenda.Steps Stage.Windowed none dock.agenda (dock.change Panel.swept).agenda :=
        (change_stays dock Panel.swept).steps
      have both := steps.keep
        (fun agenda => agenda.Working sweeper job ∧ agenda.Kept (some sweeper) [] ∧ agenda.Asleep sweeper none)
        opens.bounded nofun (fun step bounded all => ⟨all.1.step bounded step nofun, all.2.1.step bounded step,
          all.2.2.step (bounded.tasks.running sweeper (Assoc.mem_keys_iff.mpr ⟨job, all.1.found⟩)) step⟩)
        ⟨opens.working, opens.kept, opens.asleep⟩
      exact ⟨both.1, both.2.1, both.2.2.1, both.2.2.2, List.forall_mem_nil _⟩
    exact waitFor_sweeps (startAll_opens changed dock.panel.registry.sessions.keys)

variable [SessionBackend β]

theorem shutdown_sweeps {dock : Dock β} (bounded : dock.agenda.Bounded) (kept : dock.agenda.Kept none []) :
    (dock.move (.ask .shutdown)).agenda.Sweeping dock.scheduler.fresh ∨
      (dock.move (.ask .shutdown)).agenda.Swept dock.scheduler.fresh := by
  let created : Dock β := { dock with scheduler := (dock.scheduler.create ⟨.begin .shutdown, none⟩).2 }
  have begins : dock.move (.ask .shutdown) = created.sweep dock.scheduler.fresh true := move_ask dock .shutdown
  have mine : dock.agenda.Kept (some dock.scheduler.fresh) [] :=
    { kept with begins := fun task label request found => .inl ((kept.begins task label request found).resolve_right nofun) }
  have opens : created.Opens dock.scheduler.fresh ⟨.begin .shutdown, none⟩ [] := by
    refine ⟨bounded.create _, ⟨Assoc.find?_put_self _ _ _, ?_⟩, mine.create bounded none (.inr rfl),
      ⟨fun member => ?_, fun other missing found => ?_, fun member => ?_, fun member => ?_⟩, List.forall_mem_nil _⟩
    · refine Assoc.find?_eq_none.mpr fun member => ?_
      exact Nat.lt_irrefl _ (bounded.tasks.results _ member)
    · exact Nat.lt_irrefl _ (bounded.tasks.ready _ member)
    · exact absurd (bounded.tasks.groups _ (Assoc.mem_of_find? found)).2 (Nat.lt_irrefl _)
    · exact Nat.lt_irrefl _ (bounded.queue _ member)
    · exact Nat.lt_irrefl _ (bounded.held _ member)
  rw [begins]
  exact sweep_sweeps opens

end Dock

end TerminalDock
