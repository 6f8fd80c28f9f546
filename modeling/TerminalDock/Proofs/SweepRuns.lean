import TerminalDock.Proofs.CallCourses
import TerminalDock.Proofs.Teardown

/-! The sweep at the end. It makes one call for each session that is left and waits for all of them, whatever becomes of
them; then it answers how many there were. It changes nothing in the panel but the mark that it was made, and a sweep that
comes later does nothing. -/

namespace TerminalDock

namespace Dock
variable {β : Type} {dock : Dock β} {sweeper group : Nat} {calls : List Loop.TaskId} {label : Option String}

def succeeded (dock : Dock β) (calls : List Loop.TaskId) : Nat :=
  calls.countP fun call =>
    match dock.scheduler.results.find? call with
    | some (.ok (.flag ok)) => ok
    | _ => false

/-- What is seen of the end of a sweep. -/
def summary (succeeded all : Nat) (label : Option String) : List (Sight Answer) :=
  .effect (.logged (.info s!"[SESSION] close_all | closed={succeeded} failed={all - succeeded}")) ::
    label.toList.map fun name => .done name (.ok (.number all))

/-- How far a sweep has come: it waits for its calls, of which as many as `bound` may still arrive; it was given its turn,
for all of them have ended; or it has ended itself. -/
inductive Sweeps (sweeper : Loop.TaskId) (calls : List Loop.TaskId) (group : Nat) (label : Option String) (bound : Nat)
    (dock : Dock β) : List (Sight Answer) → Prop
  | waiting (working : dock.agenda.Working sweeper ⟨.sweeping calls false, label⟩)
      (awaits : dock.scheduler.Awaits sweeper calls group) (due : dock.scheduler.due (.arrive group) ≤ bound) :
    Sweeps sweeper calls group label bound dock []
  | called (working : dock.agenda.Working sweeper ⟨.sweeping calls false, label⟩)
      (ended : ∀ call ∈ calls, call ∉ dock.scheduler.running.keys) (asked : .resume sweeper ∈ dock.scheduler.ready) :
    Sweeps sweeper calls group label bound dock []
  | done (gone : dock.scheduler.running.find? sweeper = none)
      (result : dock.scheduler.results.find? sweeper = some (.ok (.number calls.length)))
      (ended : ∀ call ∈ calls, call ∉ dock.scheduler.running.keys) :
    Sweeps sweeper calls group label bound dock (summary (dock.succeeded calls) calls.length label)

theorem Sweeps.result {bound : Nat} {shown : List (Sight Answer)}
    (sweeps : Sweeps sweeper calls group label bound dock shown) (gone : dock.scheduler.running.find? sweeper = none) :
    dock.scheduler.results.find? sweeper = some (.ok (.number calls.length)) := by
  cases sweeps with
  | waiting working | called working => cases gone.symm.trans working.found
  | done gone result ended => exact result

theorem conclude_labelled {task : Loop.TaskId} {stage : Stage β}
    (found : dock.scheduler.running.find? task = some ⟨stage, label⟩) (result : Except Failure Answer) :
    dock.conclude task result = { dock with
      scheduler := dock.scheduler.finish task result
      sights := dock.sights ++ label.toList.map fun name => .done name result } := by
  unfold conclude
  rw [found]
  cases label with
  | none => simp only [Option.bind_some, Option.toList_none, List.map_nil, List.append_nil]
  | some name => rfl

theorem endSweep_done (group bound : Nat) {stage : Stage β} (unique : dock.scheduler.running.keys.Nodup)
    (found : dock.scheduler.running.find? sweeper = some ⟨stage, label⟩)
    (ended : ∀ call ∈ calls, call ∉ dock.scheduler.running.keys) (apart : sweeper ∉ calls) :
    let last := dock.endSweep sweeper calls false
    last.panel = dock.panel ∧ last.scheduler = dock.scheduler.finish sweeper (.ok (.number calls.length)) ∧
      ∃ shown, last.sights = dock.sights ++ shown ∧ Sweeps sweeper calls group label bound last shown := by
  let logged := dock.log [.info
    s!"[SESSION] close_all | closed={dock.succeeded calls} failed={calls.length - dock.succeeded calls}"]
  have there : logged.scheduler.running.find? sweeper = some ⟨stage, label⟩ := found
  have ends : dock.endSweep sweeper calls false = logged.conclude sweeper (.ok (.number calls.length)) := rfl
  rw [ends, conclude_labelled there]
  generalize final : ({ logged with
    scheduler := logged.scheduler.finish sweeper (.ok (.number calls.length))
    sights := logged.sights ++ label.toList.map fun name => .done name (.ok (.number calls.length)) } : Dock β) = last
  have scheduler : last.scheduler = dock.scheduler.finish sweeper (.ok (.number calls.length)) := by rw [← final]; rfl
  have same : last.succeeded calls = dock.succeeded calls := by
    refine List.countP_congr fun call member => ?_
    have elsewhere : call ≠ sweeper := fun same => apart (same ▸ member)
    have kept : last.scheduler.results.find? call = dock.scheduler.results.find? call := by
      rw [scheduler]
      exact Assoc.find?_put_of_ne elsewhere _ _
    rw [kept]
  refine ⟨by rw [← final]; rfl, scheduler, summary (dock.succeeded calls) calls.length label, ?_, ?_⟩
  · rw [← final]
    simp only [logged, log, see, summary, List.map_cons, List.map_nil, List.append_assoc, List.cons_append, List.nil_append]
  · rw [← same]
    refine .done ?_ ?_ fun call member present => ?_
    · rw [scheduler]
      exact Assoc.find?_remove_self unique
    · rw [scheduler]
      exact Assoc.find?_put_self _ _ _
    · rw [scheduler] at present
      exact ended call member (((Assoc.remove_sublist sweeper dock.scheduler.running).map Prod.fst).subset present)

theorem Fair.sleeps (fair : dock.Fair) (awaits : dock.scheduler.Awaits sweeper calls group) (rest : List Loop.Turn) :
    dock.scheduler.ready ≠ .resume sweeper :: rest := by
  intro ready
  obtain ⟨owner, gated⟩ := fair
  obtain ⟨missing, found, -⟩ := awaits.waits
  have waits : sweeper ∈ dock.scheduler.waiters := List.mem_map.mpr ⟨_, Assoc.mem_values_of_find? found, rfl⟩
  have once := gated.once sweeper
  rw [summons, Loop.Scheduler.summons, ready, List.count_cons_self] at once
  have some := List.count_pos_iff.mpr waits
  split at once <;> omega

variable [SessionBackend β] {beat : Beat β} {bound : Nat} {shown : List (Sight Answer)}

theorem Fair.settled (fair : dock.Fair) {task : Loop.TaskId} (old : task < dock.scheduler.fresh)
    (gone : dock.scheduler.running.find? task = none) (beat : Beat β) :
    (dock.beat beat).scheduler.running.find? task = none ∧
      (dock.beat beat).scheduler.results.find? task = dock.scheduler.results.find? task := by
  by_cases mine : dock.actor? beat = some task
  · obtain ⟨rfl, rest, ready⟩ := actor_of_old old mine
    rw [turn_lost ready gone]
    exact ⟨gone, rfl⟩
  · obtain ⟨found, results⟩ := fair.aside old mine
    exact ⟨found.trans gone, results⟩

theorem Fair.succeeded (fair : dock.Fair) (ended : ∀ call ∈ calls, call ∉ dock.scheduler.running.keys)
    (old : ∀ call ∈ calls, call < dock.scheduler.fresh) (beat : Beat β) :
    (dock.beat beat).succeeded calls = dock.succeeded calls := by
  refine List.countP_congr fun call member => ?_
  rw [(fair.settled (old call member) (Assoc.find?_eq_none.mpr (ended call member)) beat).2]

theorem Fair.works (fair : dock.Fair) {task : Loop.TaskId} (old : task < dock.scheduler.fresh)
    (other : dock.actor? beat ≠ some task) {job : Job β} (working : dock.agenda.Working task job) :
    (dock.beat beat).agenda.Working task job := by
  obtain ⟨found, results⟩ := fair.aside old other
  exact ⟨found.trans working.found, results.trans working.unfinished⟩

theorem Fair.gone (fair : dock.Fair) {task : Loop.TaskId} (old : task < dock.scheduler.fresh)
    (gone : dock.scheduler.running.find? task = none) (beats : List (Beat β)) :
    (dock.play beats).scheduler.running.find? task = none := by
  induction beats generalizing dock with
  | nil => exact gone
  | cons beat rest ih => exact ih (fair.beat beat) (fair.older old beat).1 (fair.settled old gone beat).1

theorem Fair.ended (fair : dock.Fair) (ended : ∀ call ∈ calls, call ∉ dock.scheduler.running.keys)
    (old : ∀ call ∈ calls, call < dock.scheduler.fresh) (beat : Beat β) :
    ∀ call ∈ calls, call ∉ (dock.beat beat).scheduler.running.keys :=
  fun call member present => ended call member ((fair.older (old call member) beat).2 present)

omit [SessionBackend β] in
theorem Fair.group_lt (fair : dock.Fair) (awaits : dock.scheduler.Awaits sweeper calls group) :
    group < dock.scheduler.fresh := by
  obtain ⟨missing, found, -⟩ := awaits.waits
  exact (fair.tasks.tasks.groups _ (Assoc.mem_of_find? found)).1

theorem Fair.waits (fair : dock.Fair) (awaits : dock.scheduler.Awaits sweeper calls group)
    (calm : ∀ rest, beat = .move .turn → dock.scheduler.ready ≠ .arrive group :: rest) :
    (dock.beat beat).scheduler.Awaits sweeper calls group ∧
      (dock.beat beat).scheduler.due (.arrive group) = dock.scheduler.due (.arrive group) := by
  have given := fair.group_lt awaits
  rcases dock.stirred_or_turned beat with stirred | rfl
  · have spares := stirred.spares fair.tasks given
    exact ⟨awaits.spares spares, spares.due⟩
  · cases ready : dock.scheduler.ready with
    | nil =>
      rw [turn_idle ready]
      exact ⟨awaits, rfl⟩
    | cons turn rest =>
      have other : turn ≠ .arrive group := fun same => calm rest rfl (same ▸ ready)
      have spares := dock.turn_steps.spares fair.tasks given ready other
      have popped := Loop.Scheduler.due_pop ready (.arrive group)
      rw [List.count_singleton, if_neg (mt beq_iff_eq.mp other), Nat.add_zero] at popped
      exact ⟨(awaits.pop ready other).spares spares, spares.due.trans popped.symm⟩

private theorem turn_arrives (awaits : dock.scheduler.Awaits sweeper calls group) {rest : List Loop.Turn}
    (ready : dock.scheduler.ready = .arrive group :: rest) :
    let last := dock.beat (.move .turn)
    last.scheduler.Awaits sweeper calls group ∧ last.scheduler.due (.arrive group) < dock.scheduler.due (.arrive group) ∨
      (∀ call ∈ calls, call ∉ last.scheduler.running.keys) ∧ .resume sweeper ∈ last.scheduler.ready := by
  have arrived : (dock.beat (.move .turn)).scheduler = (dock.popped rest).scheduler.arrive group :=
    dock.turn_steps.arrives ready
  dsimp only
  rw [arrived]
  exact awaits.arrive ready

/-- A sweep is made, whose tasks have numbers of their own. -/
structure Numbered (sweeper : Loop.TaskId) (calls : List Loop.TaskId) (dock : Dock β) : Prop where
  sweeper_lt : sweeper < dock.scheduler.fresh
  calls_lt : ∀ call ∈ calls, call < dock.scheduler.fresh
  apart : sweeper ∉ calls

theorem Numbered.later (numbered : dock.Numbered sweeper calls) (fair : dock.Fair) (beat : Beat β) :
    (dock.beat beat).Numbered sweeper calls :=
  ⟨(fair.older numbered.sweeper_lt beat).1, fun call member => (fair.older (numbered.calls_lt call member) beat).1,
    numbered.apart⟩

theorem Sweeps.aside (sweeps : Sweeps sweeper calls group label bound dock shown) (fair : dock.Fair)
    (numbered : dock.Numbered sweeper calls) (other : dock.actor? beat ≠ some sweeper) :
    Sweeps sweeper calls group label bound (dock.beat beat) shown := by
  have works {job : Job β} (working : dock.agenda.Working sweeper job) : (dock.beat beat).agenda.Working sweeper job :=
    fair.works numbered.sweeper_lt other working
  cases sweeps with
  | waiting working awaits due =>
    by_cases arrives : beat = .move .turn ∧ ∃ rest, dock.scheduler.ready = .arrive group :: rest
    · obtain ⟨rfl, rest, ready⟩ := arrives
      rcases turn_arrives awaits ready with ⟨still, less⟩ | ⟨ended, asked⟩
      · exact .waiting (works working) still (Nat.le_trans (Nat.le_of_lt less) due)
      · exact .called (works working) ended asked
    · obtain ⟨still, same⟩ := fair.waits awaits fun rest turn ready => arrives ⟨turn, rest, ready⟩
      exact .waiting (works working) still (same ▸ due)
  | called working ended asked =>
    have next := (fair.ready beat asked).resolve_right ?_
    · exact .called (works working) (fair.ended ended numbered.calls_lt beat) next
    · rintro ⟨rfl, rest, ready⟩
      exact other (turn_resume ready).2
  | done gone result ended =>
    obtain ⟨found, results⟩ := fair.aside numbered.sweeper_lt other
    rw [← fair.succeeded ended numbered.calls_lt beat]
    exact .done (found.trans gone) (results.trans result) (fair.ended ended numbered.calls_lt beat)

theorem Sweeps.turn (sweeps : Sweeps sweeper calls group label bound dock shown) (fair : dock.Fair)
    (numbered : dock.Numbered sweeper calls) (mine : dock.actor? beat = some sweeper) :
    let last := dock.beat beat
    last.panel = dock.panel ∧ last.scheduler.running.find? sweeper = none ∧
      Sweeps sweeper calls group label bound last (shown ++ dock.shownIn beat) := by
  obtain ⟨rfl, rest, ready⟩ := actor_of_old numbered.sweeper_lt mine
  let popped := dock.popped rest
  have turned : dock.beat (.move .turn) = popped.resume sweeper := (turn_resume ready).1
  dsimp only
  cases sweeps with
  | waiting working awaits due => exact absurd ready (fair.sleeps awaits rest)
  | called working ended asked =>
    have there : popped.scheduler.running.find? sweeper = some ⟨.sweeping calls false, label⟩ := working.found
    have ends : dock.beat (.move .turn) = popped.endSweep sweeper calls false := by
      rw [turned]
      simp only [resume, there]
    have unique : popped.scheduler.running.keys.Nodup := fair.tasks.tasks.unique
    obtain ⟨panel, scheduler, shown, sights, done⟩ := endSweep_done group bound unique there ended numbered.apart
    rw [← ends] at panel scheduler sights done
    rw [shownIn_of_sights sights, scheduler]
    exact ⟨panel, Assoc.find?_remove_self unique, done⟩
  | done gone result ended =>
    have idle : dock.beat (.move .turn) = popped := turn_lost ready gone
    have nothing : dock.shownIn (.move .turn) = [] := shownIn_of_sights (by rw [idle]; exact (List.append_nil _).symm)
    rw [nothing, idle, List.append_nil]
    exact ⟨rfl, gone, .done gone result ended⟩

/-- How far a sweep comes in a run. -/
theorem Sweeps.play (sweeps : Sweeps sweeper calls group label bound dock shown) (fair : dock.Fair)
    (numbered : dock.Numbered sweeper calls) (beats : List (Beat β)) :
    (dock.play beats).Numbered sweeper calls ∧
      (∀ scene ∈ dock.scenes sweeper beats, (scene.1.beat scene.2).panel = scene.1.panel) ∧
      Sweeps sweeper calls group label bound (dock.play beats) (shown ++ dock.shownBy sweeper beats) := by
  induction beats generalizing dock shown with
  | nil =>
    rw [shownBy, scenes, List.flatMap_nil, List.append_nil]
    exact ⟨numbered, List.forall_mem_nil _, sweeps⟩
  | cons beat rest ih =>
    have known := numbered.later fair beat
    by_cases mine : dock.actor? beat = some sweeper
    · obtain ⟨panel, -, next⟩ := sweeps.turn fair numbered mine
      obtain ⟨last, panels, later⟩ := ih next (fair.beat beat) known
      rw [shownBy_mine mine, scenes_mine mine, List.forall_mem_cons, ← List.append_assoc]
      exact ⟨last, ⟨panel, panels⟩, later⟩
    · rw [shownBy, scenes_other mine]
      exact ih (sweeps.aside fair numbered mine) (fair.beat beat) known

theorem courses_end {hook : Transport.FailureHook} (fair : dock.Fair) (same : dock.hook = hook)
    (old : ∀ call ∈ calls, call < dock.scheduler.fresh)
    (courses : ∀ call ∈ calls, ∃ order verdicts shown, Course hook order (dock.scheduler.running.find? call)
      (dock.scheduler.results.find? call) verdicts shown) :
    ∃ count, ∀ call ∈ calls, (dock.turns count).scheduler.running.find? call = none := by
  subst same
  induction calls with
  | nil => exact ⟨0, List.forall_mem_nil _⟩
  | cons first rest ih =>
    rw [List.forall_mem_cons] at old courses
    obtain ⟨count, ended⟩ := ih old.2 courses.2
    obtain ⟨order, verdicts, shown, course⟩ := courses.1
    let beats : List (Beat β) := List.replicate count (.move .turn)
    obtain ⟨given, -, -, later⟩ := course.play fair old.1 beats
    have still : (dock.turns count).Fair := fair.play _
    obtain ⟨more, gone⟩ := later.ends still given
    refine ⟨count + more, List.forall_mem_cons.mpr ⟨?_, fun call member => ?_⟩⟩
    · rw [turns_add]
      exact gone
    · have known : call < (dock.turns count).scheduler.fresh := by
        obtain ⟨order, verdicts, shown, course⟩ := courses.2 call member
        exact (course.play fair (old.2 call member) beats).1
      rw [turns_add]
      exact still.gone known (ended call member) _

theorem Sweeps.called_ends (sweeps : Sweeps sweeper calls group label bound dock shown) (fair : dock.Fair)
    (numbered : dock.Numbered sweeper calls) (asked : .resume sweeper ∈ dock.scheduler.ready) :
    ∃ count, (dock.turns count).scheduler.running.find? sweeper = none := by
  obtain ⟨count, rest, ready⟩ := turn_comes fair.tasks asked
  obtain ⟨known, -, later⟩ := sweeps.play fair numbered (List.replicate count (.move .turn))
  have still : (dock.turns count).Fair := fair.play _
  obtain ⟨-, gone, -⟩ := later.turn still known (turn_resume ready).2
  refine ⟨count + 1, ?_⟩
  rw [turns_add]
  exact gone

theorem Sweeps.nears (sweeps : Sweeps sweeper calls group label bound dock shown) (fair : dock.Fair)
    (numbered : dock.Numbered sweeper calls) (ended : ∀ call ∈ calls, dock.scheduler.running.find? call = none) :
    ∃ count, (dock.turns count).scheduler.running.find? sweeper = none ∨
      .resume sweeper ∈ (dock.turns count).scheduler.ready ∨
      ∃ less < bound, Sweeps sweeper calls group label less (dock.turns count) [] := by
  cases sweeps with
  | done gone => exact ⟨0, .inl gone⟩
  | called working _ asked => exact ⟨0, .inr (.inl asked)⟩
  | waiting working awaits due =>
    have arrives : .arrive group ∈ dock.scheduler.ready := by
      obtain ⟨missing, -, positive, same⟩ := awaits.waits
      refine (Loop.Scheduler.of_due fair.tasks.tasks (same ▸ positive)).resolve_right ?_
      rintro ⟨call, marked⟩
      obtain ⟨member, running⟩ := awaits.owned call marked
      exact Assoc.find?_eq_none.mp (ended call member) running
    obtain ⟨count, rest, ready⟩ := turn_comes fair.tasks arrives
    let beats : List (Beat β) := List.replicate count (.move .turn)
    obtain ⟨known, -, later⟩ := (Sweeps.waiting working awaits due).play fair numbered beats
    have still : (dock.turns count).Fair := fair.play beats
    change Sweeps sweeper calls group label bound (dock.turns count) _ at later
    generalize [] ++ dock.shownBy sweeper beats = seen at later
    cases later with
    | done gone => exact ⟨count, .inl gone⟩
    | called working _ asked => exact ⟨count, .inr (.inl asked)⟩
    | waiting working awaits due =>
      have calm : (dock.turns count).actor? (.move .turn) ≠ some sweeper := by
        intro mine
        obtain ⟨-, more, next⟩ := actor_of_old known.sweeper_lt mine
        cases ready.symm.trans next
      have works := still.works known.sweeper_lt calm working
      refine ⟨count + 1, .inr ?_⟩
      rw [turns_add]
      rcases turn_arrives awaits ready with ⟨again, less⟩ | ⟨all, asked⟩
      · exact .inr ⟨_, Nat.lt_of_lt_of_le less due, .waiting works again (Nat.le_refl _)⟩
      · exact .inl asked

/-- A sweep whose calls have ended ends. -/
theorem Sweeps.ends (sweeps : Sweeps sweeper calls group label bound dock shown) (fair : dock.Fair)
    (numbered : dock.Numbered sweeper calls) (ended : ∀ call ∈ calls, dock.scheduler.running.find? call = none) :
    ∃ count, (dock.turns count).scheduler.running.find? sweeper = none := by
  -- The arrivals that may still come are the bound: a sweep whose calls have ended is called, or one of them is used
  -- up.
  induction bound using Nat.strongRecOn generalizing dock shown with
  | ind bound ih =>
    obtain ⟨count, nearer⟩ := sweeps.nears fair numbered ended
    let beats : List (Beat β) := List.replicate count (.move .turn)
    have still : (dock.turns count).Fair := fair.play beats
    obtain ⟨known, -, later⟩ := sweeps.play fair numbered beats
    have gone_there : ∀ call ∈ calls, (dock.turns count).scheduler.running.find? call = none :=
      fun call member => fair.gone (numbered.calls_lt call member) (ended call member) beats
    rcases nearer with gone | asked | ⟨less, fewer, closer⟩
    · exact ⟨count, gone⟩
    · obtain ⟨more, gone⟩ := later.called_ends still known asked
      exact ⟨count + more, by rw [turns_add]; exact gone⟩
    · obtain ⟨more, gone⟩ := ih less fewer closer still known gone_there
      exact ⟨count + more, by rw [turns_add]; exact gone⟩

end Dock

end TerminalDock
