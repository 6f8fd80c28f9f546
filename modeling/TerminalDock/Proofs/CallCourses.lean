import TerminalDock.Proofs.FailureReports
import TerminalDock.Proofs.LockTurns
import TerminalDock.Proofs.MarkedRuns

/-! The course of a call. Whatever else happens in a run, a call that was started is begun once, is told of to the hook if
the backend says that it failed, and ends; its turns come, and they do nothing to the panel. -/

namespace TerminalDock

def Progress.failure : Progress → Option Failure
  | .ended failure | .later failure _ => failure

/-- The turns that a call takes from some stage on. -/
def Stage.turnsLeft {β : Type} : Stage β → Nat
  | .call _ => 2
  | .callEnding .. => 1
  | _ => 0

namespace Dock
variable {β : Type} [SessionBackend β] {dock : Dock β} {task : Loop.TaskId} {beat : Beat β}

/-- The moments of a run at which a task has its turn, with the beats that it is then. -/
def scenes (task : Loop.TaskId) (dock : Dock β) : List (Beat β) → List (Dock β × Beat β)
  | [] => []
  | beat :: rest => (if dock.actor? beat = some task then [(dock, beat)] else []) ++ scenes task (dock.beat beat) rest

def shownIn (dock : Dock β) (beat : Beat β) : List (Sight Answer) :=
  (dock.beat beat).sights.drop dock.sights.length

/-- What is seen in the turns of a task. -/
def shownBy (task : Loop.TaskId) (dock : Dock β) (beats : List (Beat β)) : List (Sight Answer) :=
  (dock.scenes task beats).flatMap fun scene => scene.1.shownIn scene.2

/-- What the backend answers to the call that a beat begins, if it does. -/
def verdict? (dock : Dock β) (beat : Beat β) : Option (Option Failure) :=
  match (dock.actor? beat).bind dock.stageOf? with
  | some (.call call) => some (SessionBackend.begin call dock.backend).1.failure
  | _ => none

/-- What the backend answers to the calls that a task begins. -/
def verdicts (task : Loop.TaskId) (dock : Dock β) (beats : List (Beat β)) : List (Option Failure) :=
  (dock.scenes task beats).filterMap fun scene => scene.1.verdict? scene.2

theorem scenes_mine (mine : dock.actor? beat = some task) (rest : List (Beat β)) :
    dock.scenes task (beat :: rest) = (dock, beat) :: (dock.beat beat).scenes task rest := by
  rw [scenes, if_pos mine]
  rfl

theorem scenes_other (other : dock.actor? beat ≠ some task) (rest : List (Beat β)) :
    dock.scenes task (beat :: rest) = (dock.beat beat).scenes task rest := by
  rw [scenes, if_neg other]
  rfl

theorem shownBy_mine (mine : dock.actor? beat = some task) (rest : List (Beat β)) :
    dock.shownBy task (beat :: rest) = dock.shownIn beat ++ (dock.beat beat).shownBy task rest := by
  rw [shownBy, scenes_mine mine, List.flatMap_cons]
  rfl

private theorem verdicts_mine (mine : dock.actor? beat = some task) (rest : List (Beat β)) :
    dock.verdicts task (beat :: rest) = (dock.verdict? beat).toList ++ (dock.beat beat).verdicts task rest := by
  rw [verdicts, scenes_mine mine, List.filterMap_cons]
  cases dock.verdict? beat <;> rfl

theorem shownIn_of_sights {shown : List (Sight Answer)} (seen : (dock.beat beat).sights = dock.sights ++ shown) :
    dock.shownIn beat = shown := by
  rw [shownIn, seen, List.drop_left]

theorem turn_idle (calm : dock.scheduler.ready = []) : dock.beat (.move .turn) = dock := by
  simp only [Dock.beat, Dock.move, Dock.turn, Loop.Scheduler.next?, calm]

theorem turn_lost {rest : List Loop.Turn} (ready : dock.scheduler.ready = .resume task :: rest)
    (gone : dock.scheduler.running.find? task = none) : dock.beat (.move .turn) = dock.popped rest := by
  have there : (dock.popped rest).scheduler.running.find? task = none := gone
  have turned : dock.beat (.move .turn) = (dock.popped rest).resume task := (turn_resume ready).1
  rw [turned]
  simp only [resume, there]

omit [SessionBackend β] in
/-- Whoever was started before has its turns one by one. -/
theorem actor_of_old (old : task < dock.scheduler.fresh) (mine : dock.actor? beat = some task) :
    beat = .move .turn ∧ ∃ rest, dock.scheduler.ready = .resume task :: rest := by
  cases beat with
  | fire place => cases mine
  | move move =>
    cases move with
    | ask request =>
      cases mine
      exact absurd old (Nat.lt_irrefl _)
    | turn =>
      refine ⟨rfl, ?_⟩
      simp only [actor?] at mine
      split at mine
      next someone rest ready =>
        cases mine
        exact ⟨rest, ready⟩
      next => cases mine
    | answer task => cases mine
    | announce event payload => cases mine

/-- No number is taken back, and nobody comes back. -/
theorem Fair.older (fair : dock.Fair) (old : task < dock.scheduler.fresh) (beat : Beat β) :
    task < (dock.beat beat).scheduler.fresh ∧
      (task ∈ (dock.beat beat).scheduler.running.keys → task ∈ dock.scheduler.running.keys) := by
  rcases dock.stirred_or_turned beat with stirred | rfl
  · have spares := stirred.spares fair.tasks old
    exact ⟨Nat.lt_of_lt_of_le old spares.fresh, fun present => spares.older task present old⟩
  · cases ready : dock.scheduler.ready with
    | nil =>
      rw [turn_idle ready]
      exact ⟨old, id⟩
    | cons turn rest =>
      have ages := dock.turn_steps.ages fair.tasks ready
      exact ⟨Nat.lt_of_lt_of_le old ages.fresh, fun present => ages.older task present old⟩

/-- Whoever has asked for a turn waits for it, until it comes. -/
theorem Fair.ready (fair : dock.Fair) (beat : Beat β) {turn : Loop.Turn} (asked : turn ∈ dock.scheduler.ready) :
    turn ∈ (dock.beat beat).scheduler.ready ∨ beat = .move .turn ∧ ∃ rest, dock.scheduler.ready = turn :: rest := by
  rcases dock.stirred_or_turned beat with stirred | rfl
  · obtain ⟨more, ready⟩ := (stirred.spares fair.tasks (fair.tasks.tasks.ready turn asked)).ready
    exact .inl (ready ▸ List.mem_append_left _ asked)
  · cases ready : dock.scheduler.ready with
    | nil => rw [ready] at asked; cases asked
    | cons first rest =>
      rw [ready] at asked
      rcases List.mem_cons.mp asked with rfl | later
      · exact .inr ⟨rfl, rest, rfl⟩
      · obtain ⟨more, next⟩ := turn_ready fair.tasks ready
        exact .inl (show turn ∈ dock.turn.scheduler.ready from next ▸ List.mem_append_left _ later)

omit [SessionBackend β] in
/-- Whoever makes a call, or is about to, has asked for a turn. -/
theorem Fair.asks (fair : dock.Fair) {job : Job β} (found : dock.scheduler.running.find? task = some job)
    (calling : job.stage.calling = true) : .resume task ∈ dock.scheduler.ready := by
  obtain ⟨owner, gated⟩ := fair
  have apart {kind : Stage β → Bool} (other : ∀ stage : Stage β, stage.calling = true → kind stage = false) :
      ¬dock.During kind task := by
    rw [during_of_found found, other job.stage calling]
    exact Bool.false_ne_true
  have once := gated.once task
  rw [if_pos ⟨Assoc.mem_keys_iff.mpr ⟨job, found⟩, (Option.some_ne_none task).symm⟩, summons, Loop.Scheduler.summons] at once
  have alone : dock.scheduler.waiters.count task = 0 :=
    List.count_eq_zero.mpr fun member => apart (fun stage _ => by cases stage <;> first | rfl | contradiction)
      (gated.waiters task member)
  have free : dock.held.count task = 0 :=
    List.count_eq_zero.mpr fun member => apart (fun stage _ => by cases stage <;> first | rfl | contradiction)
      (gated.held task member)
  have unlocked : dock.lock.parked.count task = 0 := by
    refine List.count_eq_zero.mpr fun member => apart (fun stage _ => by cases stage <;> first | rfl | contradiction)
      ((gated.queued task).mp ?_).2
    unfold OpenLock.parked at member
    split at member
    · exact member
    · exact List.mem_of_mem_tail member
  exact List.count_pos_iff.mp (by omega)

/-- How far a call has come that was started: what its task does, its result, what the backend said when it began, and
what was seen of it. -/
inductive Course (hook : Transport.FailureHook) (call : BackendCall) : Option (Job β) → Option (Except Failure Answer) →
    List (Option Failure) → List (Sight Answer) → Prop
  | waiting : Course hook call (some ⟨.call call, none⟩) none [] []
  | begun (failure : Option Failure) (records logged : List LogRecord) :
    Course hook call (some ⟨.callEnding call failure records, none⟩) none [failure]
      (.calling call :: logged.map fun record => .effect (.logged record))
  | ended (failure : Option Failure) (logged : List LogRecord) {notices : List Transport.Notice}
    (told : hook.Told call.name call.session failure notices) :
    Course hook call none (some (.ok (.flag failure.isNone))) [failure]
      (.calling call :: logged.map (fun record => .effect (.logged record)) ++ notices.map .noticed)

def turnsLeft (dock : Dock β) (task : Loop.TaskId) : Nat :=
  ((dock.stageOf? task).map Stage.turnsLeft).getD 0

omit [SessionBackend β] in
private theorem turnsLeft_of_found {job : Job β} (found : dock.scheduler.running.find? task = some job) :
    dock.turnsLeft task = job.stage.turnsLeft := by
  rw [turnsLeft, stageOf?, found]
  rfl

omit [SessionBackend β] in
private theorem turnsLeft_of_gone (gone : dock.scheduler.running.find? task = none) : dock.turnsLeft task = 0 := by
  rw [turnsLeft, stageOf?, gone]
  rfl

section Turns
variable {call : BackendCall} {stage : Stage β}

omit [SessionBackend β] in
private theorem conclude_unlabelled (found : dock.scheduler.running.find? task = some ⟨stage, none⟩)
    (result : Except Failure Answer) :
    dock.conclude task result = { dock with scheduler := dock.scheduler.finish task result } := by
  unfold conclude
  rw [found]
  rfl

omit [SessionBackend β] in
private theorem concludeCall_unlabelled (found : dock.scheduler.running.find? task = some ⟨stage, none⟩)
    (failure : Option Failure) (records : List LogRecord) :
    dock.concludeCall task call failure records = { dock with
      sights := dock.sights ++ records.map (fun record => .effect (.logged record)) ++
        (dock.hook.conclude call.name call.session failure).map .noticed
      scheduler := dock.scheduler.finish task (.ok (.flag failure.isNone)) } := by
  have seen : ((dock.log records).see ((dock.hook.conclude call.name call.session failure).map
      .noticed)).scheduler.running.find? task = some ⟨stage, none⟩ := found
  exact conclude_unlabelled seen _

private theorem beginCall_course (unique : dock.scheduler.running.keys.Nodup)
    (found : dock.scheduler.running.find? task = some ⟨.call call, none⟩)
    (unfinished : dock.scheduler.results.find? task = none) :
    let last := dock.beginCall task call
    last.panel = dock.panel ∧ last.turnsLeft task < 2 ∧ ∃ shown, last.sights = dock.sights ++ shown ∧
      Course dock.hook call (last.scheduler.running.find? task) (last.scheduler.results.find? task)
        [(SessionBackend.begin call dock.backend).1.failure] shown := by
  rcases answer : SessionBackend.begin call dock.backend with ⟨progress, records, backend⟩
  let seen : Dock β := { dock.see [.calling call] with backend := backend }.log records
  have there : seen.scheduler.running.find? task = some ⟨.call call, none⟩ := found
  cases progress with
  | ended failure =>
    have ends : dock.beginCall task call = seen.concludeCall task call failure [] := by
      simp only [beginCall, show (dock.see [.calling call]).backend = dock.backend from rfl, answer, seen]
    have gone : (dock.scheduler.running.remove task).find? task = none := Assoc.find?_remove_self unique
    rw [ends, concludeCall_unlabelled there]
    refine ⟨rfl, ?_, .calling call :: records.map (fun record => .effect (.logged record)) ++
      (dock.hook.conclude call.name call.session failure).map .noticed, ?_, ?_⟩
    · refine Nat.lt_of_le_of_lt (Nat.le_of_eq (turnsLeft_of_gone ?_)) Nat.zero_lt_two
      exact gone
    · simp only [seen, see, log, List.map_nil, List.append_nil, List.append_assoc, List.cons_append, List.nil_append]
    · change Course dock.hook call ((dock.scheduler.running.remove task).find? task)
        ((dock.scheduler.results.put task _).find? task) _ _
      rw [gone, Assoc.find?_put_self]
      exact .ended failure records (dock.hook.conclude_told call.name call.session failure)
  | later failure more =>
    let waits := seen.suspend task (.callEnding call failure more)
    have lingers : dock.beginCall task call = { waits with scheduler := waits.scheduler.enqueue (.resume task) } := by
      simp only [beginCall, show (dock.see [.calling call]).backend = dock.backend from rfl, answer, waits, seen]
    have label : (seen.scheduler.running.find? task).bind Job.label = none := by rw [there]; rfl
    have put : waits.scheduler.running.find? task = some ⟨.callEnding call failure more, none⟩ := by
      rw [← label]
      exact Assoc.find?_put_self _ _ _
    rw [lingers]
    refine ⟨rfl, ?_, .calling call :: records.map fun record => .effect (.logged record), ?_, ?_⟩
    · have left : waits.turnsLeft task = 1 := turnsLeft_of_found put
      exact Nat.lt_of_le_of_lt (Nat.le_of_eq left) Nat.one_lt_two
    · exact List.append_assoc ..
    · change Course dock.hook call (waits.scheduler.running.find? task) (dock.scheduler.results.find? task) _ _
      rw [put, unfinished]
      exact .begun failure more records

omit [SessionBackend β] in
private theorem concludeCall_course {failure : Option Failure} {records : List LogRecord} (logged : List LogRecord)
    (unique : dock.scheduler.running.keys.Nodup)
    (found : dock.scheduler.running.find? task = some ⟨.callEnding call failure records, none⟩) :
    let last := dock.concludeCall task call failure records
    last.panel = dock.panel ∧ last.turnsLeft task = 0 ∧ ∃ shown, last.sights = dock.sights ++ shown ∧
      Course dock.hook call (last.scheduler.running.find? task) (last.scheduler.results.find? task) [failure]
        (.calling call :: logged.map (fun record => .effect (.logged record)) ++ shown) := by
  have gone : (dock.scheduler.running.remove task).find? task = none := Assoc.find?_remove_self unique
  rw [concludeCall_unlabelled found]
  refine ⟨rfl, turnsLeft_of_gone gone, _, List.append_assoc .., ?_⟩
  change Course dock.hook call ((dock.scheduler.running.remove task).find? task)
    ((dock.scheduler.results.put task _).find? task) _ _
  rw [gone, Assoc.find?_put_self, ← List.append_assoc, List.cons_append, ← List.map_append]
  exact .ended failure (logged ++ records) (dock.hook.conclude_told call.name call.session failure)

/-- What somebody else does leaves a call where it is. -/
theorem Fair.aside (fair : dock.Fair) (old : task < dock.scheduler.fresh) (other : dock.actor? beat ≠ some task) :
    (dock.beat beat).scheduler.running.find? task = dock.scheduler.running.find? task ∧
      (dock.beat beat).scheduler.results.find? task = dock.scheduler.results.find? task := by
  refine ⟨?_, results_kept dock other⟩
  cases found : dock.scheduler.running.find? task with
  | some job => exact fair.stays other found
  | none =>
    refine Assoc.find?_eq_none.mpr fun present => ?_
    exact Assoc.find?_eq_none.mp found ((fair.older old beat).2 present)

/-- A call has its turn: it begins or ends, and does nothing else. -/
theorem Course.turn {verdicts : List (Option Failure)} {shown : List (Sight Answer)} (fair : dock.Fair)
    (old : task < dock.scheduler.fresh) (mine : dock.actor? beat = some task)
    (course : Course dock.hook call (dock.scheduler.running.find? task) (dock.scheduler.results.find? task) verdicts
      shown) :
    let last := dock.beat beat
    last.panel = dock.panel ∧ last.turnsLeft task ≤ dock.turnsLeft task - 1 ∧
      Course last.hook call (last.scheduler.running.find? task) (last.scheduler.results.find? task)
        (verdicts ++ (dock.verdict? beat).toList) (shown ++ dock.shownIn beat) := by
  have hook := (beat_lasting dock beat).hook
  have asked : dock.verdict? beat = match dock.stageOf? task with
      | some (.call call) => some (SessionBackend.begin call dock.backend).1.failure
      | _ => none := by rw [verdict?, mine, Option.bind_some]
  obtain ⟨rfl, rest, ready⟩ := actor_of_old old mine
  let popped := dock.popped rest
  have unique : popped.scheduler.running.keys.Nodup := fair.tasks.tasks.unique
  have turned : dock.beat (.move .turn) = popped.resume task := (turn_resume ready).1
  generalize job : dock.scheduler.running.find? task = found at course
  generalize result : dock.scheduler.results.find? task = answer at course
  have there : popped.scheduler.running.find? task = found := job
  have unfinished : popped.scheduler.results.find? task = answer := result
  rw [stageOf?, job] at asked
  dsimp only
  rw [hook, asked]
  cases course with
  | waiting =>
    have begins : dock.beat (.move .turn) = popped.beginCall task call := by
      rw [turned]
      simp only [resume, there]
    have left : dock.turnsLeft task = 2 := turnsLeft_of_found job
    obtain ⟨panel, fewer, shown, sights, course⟩ := beginCall_course unique there unfinished
    rw [← begins] at panel fewer sights course
    rw [shownIn_of_sights sights]
    exact ⟨panel, by omega, course⟩
  | begun failure records logged =>
    have ends : dock.beat (.move .turn) = popped.concludeCall task call failure records := by
      rw [turned]
      simp only [resume, there]
    have left : dock.turnsLeft task = 1 := turnsLeft_of_found job
    obtain ⟨panel, none, shown, sights, course⟩ := concludeCall_course logged unique there
    rw [← ends] at panel none sights course
    rw [shownIn_of_sights sights]
    exact ⟨panel, by omega, course⟩
  | ended failure logged told =>
    have idle : dock.beat (.move .turn) = popped := turn_lost ready job
    have nothing : dock.shownIn (.move .turn) = [] := shownIn_of_sights (by rw [idle]; exact (List.append_nil _).symm)
    have left : popped.turnsLeft task = 0 := turnsLeft_of_gone there
    rw [nothing, idle, there, unfinished, List.append_nil, left]
    exact ⟨rfl, Nat.zero_le _, .ended failure logged told⟩

theorem Course.play {verdicts : List (Option Failure)} {shown : List (Sight Answer)} (fair : dock.Fair)
    (old : task < dock.scheduler.fresh)
    (course : Course dock.hook call (dock.scheduler.running.find? task) (dock.scheduler.results.find? task) verdicts
      shown) (beats : List (Beat β)) :
    let last := dock.play beats
    task < last.scheduler.fresh ∧ (∀ scene ∈ dock.scenes task beats, (scene.1.beat scene.2).panel = scene.1.panel) ∧
      last.turnsLeft task ≤ dock.turnsLeft task ∧
      Course last.hook call (last.scheduler.running.find? task) (last.scheduler.results.find? task)
        (verdicts ++ dock.verdicts task beats) (shown ++ dock.shownBy task beats) := by
  induction beats generalizing dock verdicts shown with
  | nil =>
    refine ⟨old, List.forall_mem_nil _, Nat.le_refl _, ?_⟩
    rw [Dock.verdicts, shownBy, scenes, List.filterMap_nil, List.flatMap_nil, List.append_nil, List.append_nil]
    exact course
  | cons beat rest ih =>
    have known := (fair.older old beat).1
    by_cases mine : dock.actor? beat = some task
    · obtain ⟨panel, fewer, next⟩ := course.turn fair old mine
      obtain ⟨given, panels, left, later⟩ := ih (fair.beat beat) known next
      rw [verdicts_mine mine, shownBy_mine mine, scenes_mine mine, List.forall_mem_cons, ← List.append_assoc,
        ← List.append_assoc]
      exact ⟨given, ⟨panel, panels⟩, by dsimp only [Dock.play, List.foldl_cons] at *; omega, later⟩
    · obtain ⟨found, results⟩ := fair.aside old mine
      have hook := (beat_lasting dock beat).hook
      have left : (dock.beat beat).turnsLeft task = dock.turnsLeft task := by
        rw [turnsLeft, turnsLeft, stageOf?, stageOf?, found]
      rw [← found, ← results, ← hook] at course
      rw [Dock.verdicts, shownBy, scenes_other mine, ← left]
      exact ih (fair.beat beat) known course

theorem Course.ends {verdicts : List (Option Failure)} {shown : List (Sight Answer)} (fair : dock.Fair)
    (old : task < dock.scheduler.fresh)
    (course : Course dock.hook call (dock.scheduler.running.find? task) (dock.scheduler.results.find? task) verdicts
      shown) : ∃ count, (dock.turns count).scheduler.running.find? task = none := by
  generalize left : dock.turnsLeft task = bound
  -- The turns that are left bound the induction. A turn of the call is always to come, and takes one off.
  induction bound using Nat.strongRecOn generalizing dock verdicts shown with
  | ind bound ih =>
    cases found : dock.scheduler.running.find? task with
    | none => exact ⟨0, found⟩
    | some job =>
      have calling : job.stage.calling = true ∧ 0 < job.stage.turnsLeft := by
        rw [found] at course
        generalize dock.scheduler.results.find? task = result at course
        cases course with
        | waiting => exact ⟨rfl, Nat.zero_lt_two⟩
        | begun => exact ⟨rfl, Nat.one_pos⟩
      rw [turnsLeft_of_found found] at left
      obtain ⟨count, rest, ready⟩ := turn_comes fair.tasks (fair.asks found calling.1)
      obtain ⟨known, -, fewer, later⟩ := course.play fair old (List.replicate count (.move .turn))
      have still : (dock.turns count).Fair := fair.play _
      have mine := (turn_resume ready).2
      obtain ⟨-, less, next⟩ := later.turn still known mine
      have given := (still.older known (.move .turn)).1
      have smaller : (Dock.beat (dock.turns count) (.move .turn)).turnsLeft task < bound := by
        have before := turnsLeft_of_found found
        have positive := calling.2
        change (dock.turns count).turnsLeft task ≤ _ at fewer
        change _ ≤ (dock.turns count).turnsLeft task - 1 at less
        omega
      obtain ⟨more, gone⟩ := ih _ smaller (still.beat (.move .turn)) given next rfl
      refine ⟨count + (1 + more), ?_⟩
      rw [turns_add, turns_add]
      exact gone

end Turns

end Dock

end TerminalDock
