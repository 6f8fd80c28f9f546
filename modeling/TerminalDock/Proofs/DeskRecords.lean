import TerminalDock.Proofs.DeskTurns
import TerminalDock.Proofs.FailureReports

/-! What becomes of the calls of a transport. They are recorded as they are submitted or run, with what was seen and what
was submitted in the turns of each, while anything may be done with the transport in between. -/

namespace TerminalDock.Transport
open Loop

/-- What is done with a transport. -/
inductive Move
  | submit (program : Program)
  /-- A call is run, or the pending ones are waited for, by somebody who does this at once as far as it goes. -/
  | run (program : Program)
  | drain
  | turn

/-- What is seen of a move: who was at work, and which calls came into being. -/
structure Beat where
  worker : Option TaskId
  seen : List Sight
  /-- The call that was run at once, and those that were submitted. -/
  direct : List (TaskId × Program)
  submitted : List (TaskId × Program)

namespace Beat

def begins : Beat → Option TaskId
  | ⟨some task, .called _ _ :: _, _, _⟩ => some task
  | _ => none

def toldOf (task : TaskId) (beat : Beat) : List Sight :=
  if beat.worker = some task then beat.seen else []

def handedOf (task : TaskId) (beat : Beat) : List (List Program) :=
  if beat.worker = some task then [beat.submitted.map Prod.snd] else []

/-- Something is seen, or is submitted by somebody who is at work. -/
def Speaks (beat : Beat) : Prop :=
  beat.seen ≠ [] ∨ beat.worker ≠ none ∧ beat.submitted ≠ []

end Beat

section Records
variable (beats : List Beat)

/-- All that was seen while a task was at work. -/
def told (task : TaskId) : List Sight :=
  beats.flatMap (Beat.toldOf task)

/-- What a task submitted in each of its turns. -/
def handed (task : TaskId) : List (List Program) :=
  beats.flatMap (Beat.handedOf task)

def submissions : List (TaskId × Program) :=
  beats.flatMap Beat.submitted

def calls : List (TaskId × Program) :=
  beats.flatMap fun beat => beat.direct ++ beat.submitted

def begun : List TaskId :=
  beats.filterMap Beat.begins

end Records

def Activity.program? : Activity → Option Program
  | .begin program => some program
  | _ => none

/-- What a call submits in each of its turns to come, with what the hook submits in the last one if it has failed. -/
def Program.stintsFrom (program : Program) (submits : List Program) : List (List Program) → List (List Program)
  | [] => [submits ++ if program.failure.isSome then program.onFailure else []]
  | next :: later => submits :: program.stintsFrom next later

/-- What a call submits from its beginning to its end. -/
def Program.stints (program : Program) : List (List Program) :=
  program.stintsFrom program.submits program.later

namespace Desk

def unused (hook : FailureHook) : Desk :=
  { hook := hook }

/-- Somebody comes into being, and is at work. -/
def opened (desk : Desk) (activity : Activity) : Desk :=
  { desk with scheduler := (desk.scheduler.create activity).2 }

/-- Begins something, and does it as far as it goes. -/
def undertake (desk : Desk) (activity : Activity) : Desk :=
  (desk.opened activity).resume desk.scheduler.fresh

def move (desk : Desk) : Move → Desk
  | .submit program => desk.submit program
  | .run program => desk.undertake (.begin program)
  | .drain => desk.undertake .drain
  | .turn => desk.turn

def play (desk : Desk) (moves : List Move) : Desk :=
  moves.foldl move desk

def worker? (desk : Desk) : Move → Option TaskId
  | .run _ | .drain => some desk.scheduler.fresh
  | .turn =>
    match desk.scheduler.ready with
    | .resume task :: _ => some task
    | _ => none
  | .submit _ => none

/-- The calls that are pending now, and were not there before. -/
def newcomers (before after : Desk) : List (TaskId × Program) :=
  after.scheduler.pending.filterMap fun task =>
    if before.scheduler.fresh ≤ task then
      ((after.scheduler.running.find? task).bind Activity.program?).map (task, ·)
    else none

def between (first last : Desk) (who : Option TaskId) (direct : List (TaskId × Program)) : Beat where
  worker := who
  seen := last.sights.drop first.sights.length
  direct := direct
  submitted := newcomers first last

def direct (desk : Desk) : Move → List (TaskId × Program)
  | .run program => [(desk.scheduler.fresh, program)]
  | .submit _ | .drain | .turn => []

def beat (desk : Desk) (move : Move) : Beat :=
  between desk (desk.move move) (desk.worker? move) (desk.direct move)

def history (desk : Desk) : List Move → List Beat
  | [] => []
  | move :: later => desk.beat move :: history (desk.move move) later

def beginner? (desk : Desk) : Turn → Option TaskId
  | .resume task => ((desk.scheduler.running.find? task).bind Activity.program?).map fun _ => task
  | _ => none

/-- Those who have still to begin, in the order of their turns. -/
def waiting (desk : Desk) : List TaskId :=
  desk.scheduler.ready.filterMap desk.beginner?

/-- How far a call has come, what was seen of it so far, and what it has submitted, where somebody is informed of
failures. -/
inductive Life (informed : FailureHook) (desk : Desk) (task : TaskId) (program : Program) :
    List Sight → List (List Program) → Prop
  | waiting (found : desk.scheduler.running.find? task = some (.begin program)) : Life informed desk task program [] []
  | resting {submits : List Program} {later given : List (List Program)}
    (found : desk.scheduler.running.find? task = some (.rest program submits later))
    (owed : given ++ program.stintsFrom submits later = program.stints) :
    Life informed desk task program [.called program.call program.session] given
  | ended {notices : List Notice} (gone : desk.scheduler.running.find? task = none)
    (result : desk.scheduler.results.find? task = some program.failure.isNone)
    (told : informed.Told program.call program.session program.failure notices) :
    Life informed desk task program (.called program.call program.session :: notices.map .noticed) program.stints

def Calls (desk : Desk) (task : TaskId) : Prop :=
  ∃ activity, desk.scheduler.running.find? task = some activity ∧ activity.calls = true

/-- Somebody drains still, or has just found that nothing is pending. -/
def Drains (desk : Desk) (task : TaskId) : Prop :=
  desk.scheduler.running.find? task = some .drain ∨ desk.scheduler.running.find? task = none ∧
    desk.scheduler.results.find? task = some true ∧ desk.scheduler.pending = []

end Desk

def numbered : Nat → List Program → List (Nat × Program)
  | _, [] => []
  | first, program :: rest => (first, program) :: numbered (first + 1) rest

private theorem numbered_append (first : Nat) (programs more : List Program) :
    numbered first (programs ++ more) = numbered first programs ++ numbered (first + programs.length) more := by
  induction programs generalizing first with
  | nil => rfl
  | cons program rest ih =>
    rw [List.cons_append, numbered, ih, numbered, List.cons_append, List.length_cons, Nat.add_right_comm, Nat.add_assoc]

theorem numbered_bounds {first : Nat} {programs : List Program} {entry : Nat × Program}
    (member : entry ∈ numbered first programs) : first ≤ entry.1 ∧ entry.1 < first + programs.length := by
  induction programs generalizing first with
  | nil => cases member
  | cons program rest ih =>
    rw [List.length_cons]
    rcases List.mem_cons.mp member with rfl | later
    · exact ⟨Nat.le_refl _, Nat.lt_add_of_pos_right (Nat.succ_pos _)⟩
    · obtain ⟨above, below⟩ := ih later
      omega

theorem mem_numbered {first : Nat} {programs : List Program} {task : Nat} (above : first ≤ task)
    (below : task < first + programs.length) : task ∈ (numbered first programs).map Prod.fst := by
  induction programs generalizing first with
  | nil => exact absurd below (Nat.not_lt.mpr above)
  | cons program rest ih =>
    rw [List.length_cons] at below
    rcases Nat.eq_or_lt_of_le above with rfl | later
    · exact List.mem_cons_self ..
    · exact List.mem_cons_of_mem _ (ih later (by omega))

theorem numbered_programs (first : Nat) (programs : List Program) : (numbered first programs).map Prod.snd = programs := by
  induction programs generalizing first with
  | nil => rfl
  | cons program rest ih => exact congrArg (program :: ·) (ih (first + 1))

theorem numbered_nodup (first : Nat) (programs : List Program) : ((numbered first programs).map Prod.fst).Nodup := by
  induction programs generalizing first with
  | nil => exact .nil
  | cons program rest ih =>
    refine List.nodup_cons.mpr ⟨fun member => ?_, ih (first + 1)⟩
    obtain ⟨entry, inside, same⟩ := List.mem_map.mp member
    have above := (numbered_bounds inside).1
    have same : entry.1 = first := same
    omega

section Submitted
variable {first middle last : Scheduler Activity Bool} {programs more : List Program}

/-- Calls were submitted, each of which has a turn at the end. -/
structure Submitted (first : Scheduler Activity Bool) (programs : List Program) (last : Scheduler Activity Bool) :
    Prop where
  fresh : last.fresh = first.fresh + programs.length
  running : last.running = first.running ++ (numbered first.fresh programs).map fun entry => (entry.1, .begin entry.2)
  ready : last.ready = first.ready ++ (numbered first.fresh programs).map fun entry => .resume entry.1
  pending : last.pending = first.pending ++ (numbered first.fresh programs).map Prod.fst
  results : last.results = first.results

namespace Submitted

theorem none (scheduler : Scheduler Activity Bool) : Submitted scheduler [] scheduler :=
  ⟨rfl, (List.append_nil _).symm, (List.append_nil _).symm, (List.append_nil _).symm, rfl⟩

theorem trans (before : Submitted first programs middle) (later : Submitted middle more last) :
    Submitted first (programs ++ more) last where
  fresh := by rw [later.fresh, before.fresh, List.length_append, Nat.add_assoc]
  running := by
    rw [later.running, before.running, before.fresh, numbered_append, List.map_append, List.append_assoc]
  ready := by rw [later.ready, before.ready, before.fresh, numbered_append, List.map_append, List.append_assoc]
  pending := by rw [later.pending, before.pending, before.fresh, numbered_append, List.map_append, List.append_assoc]
  results := later.results.trans before.results

theorem one (bounded : first.Bounded) (program : Program) : Submitted first [program] (first.submit (.begin program)) where
  fresh := Scheduler.fresh_onFinish _ _ _
  running := by
    have absent : first.running.find? first.fresh = Option.none :=
      Assoc.find?_eq_none.mpr fun old => Nat.lt_irrefl _ (bounded.running _ old)
    exact (Scheduler.running_submit _ _).trans (Assoc.put_of_absent absent _)
  ready := Scheduler.ready_submit _ _
  pending := Scheduler.pending_submit _
  results := Scheduler.results_submit _

theorem found_old (submitted : Submitted first programs last) {task : TaskId} (old : task < first.fresh) :
    last.running.find? task = first.running.find? task := by
  rw [submitted.running]
  refine Assoc.find?_append_absent fun member => ?_
  obtain ⟨_, inside, rfl⟩ := List.mem_map.mp member
  obtain ⟨entry, numbered, rfl⟩ := List.mem_map.mp inside
  exact Nat.lt_irrefl _ (Nat.lt_of_lt_of_le old (numbered_bounds numbered).1)

theorem found_new (submitted : Submitted first programs last) (bounded : first.Bounded) :
    ∀ entry ∈ numbered first.fresh programs, last.running.find? entry.1 = some (.begin entry.2) := by
  intro entry member
  have new : entry.1 ∉ first.running.keys := fun old =>
    Nat.lt_irrefl _ (Nat.lt_of_lt_of_le (bounded.running _ old) (numbered_bounds member).1)
  rw [submitted.running, Assoc.find?_append_new new]
  refine Assoc.find?_of_mem ?_ (List.mem_map_of_mem member)
  rw [Assoc.keys, List.map_map]
  exact numbered_nodup _ _

end Submitted

end Submitted

namespace Desk
variable {first middle last : Desk}

theorem submitAll_submitted {who : Option TaskId} (desk : Desk) (sound : Sound who desk.scheduler)
    (programs : List Program) : Sound who (desk.submitAll programs).scheduler ∧
      Submitted desk.scheduler programs (desk.submitAll programs).scheduler ∧
      (desk.submitAll programs).sights = desk.sights ∧ (desk.submitAll programs).hook = desk.hook := by
  induction programs generalizing desk with
  | nil => exact ⟨sound, .none _, rfl, rfl⟩
  | cons program rest ih =>
    have next : Sound who (desk.submit program).scheduler := sound.submit program
    obtain ⟨kept, later, sights, hook⟩ := ih (desk.submit program) next
    exact ⟨kept, (Submitted.one sound.bounded program).trans later, sights, hook⟩

/-- Whoever goes on in a turn that was asked for does there what it would have done before. -/
theorem filterMap_beginner {turns : List Turn} (same : ∀ task, .resume task ∈ turns →
    last.scheduler.running.find? task = first.scheduler.running.find? task) :
    turns.filterMap last.beginner? = turns.filterMap first.beginner? := by
  refine List.filterMap_congr fun turn member => ?_
  cases turn with
  | resume task => rw [beginner?, same task member, beginner?]
  | leave | arrive => rfl

theorem beginner?_calm {desk : Desk} {turn : Turn} (calm : ∀ task, turn ≠ .resume task) : desk.beginner? turn = none := by
  cases turn with
  | resume task => exact absurd rfl (calm task)
  | leave | arrive => rfl

theorem waiting_submitted {programs : List Program} (submitted : Submitted first.scheduler programs last.scheduler)
    (bounded : first.scheduler.Bounded) :
    last.waiting = first.waiting ++ (numbered first.scheduler.fresh programs).map Prod.fst := by
  rw [waiting, submitted.ready, List.filterMap_append,
    filterMap_beginner fun task member => submitted.found_old (bounded.ready _ member), waiting, List.filterMap_map,
    ← List.filterMap_eq_map]
  congr 1
  refine List.filterMap_congr fun entry member => ?_
  change ((last.scheduler.running.find? entry.1).bind Activity.program?).map _ = some entry.1
  rw [submitted.found_new bounded entry member]
  rfl

/-- A call has worked and has told and submitted something: it has still to go on, or it has ended. -/
structure Worked (informed : FailureHook) (task : TaskId) (program : Program) (before said : List Sight)
    (owed : List (List Program)) (notices : List Notice) (programs : List Program) (first last : Desk) : Prop where
  sound : Sound none last.scheduler
  hook : last.hook = first.hook
  sights : last.sights = first.sights ++ (said ++ notices.map .noticed)
  life : ∀ given, given ++ owed = program.stints →
    last.Life informed task program (before ++ (said ++ notices.map .noticed)) (given ++ [programs])
  /-- Nobody else went on. -/
  others : ∀ other, other ≠ task → other < first.scheduler.fresh →
    last.scheduler.running.find? other = first.scheduler.running.find? other ∧
      last.scheduler.results.find? other = first.scheduler.results.find? other
  fresh : last.scheduler.fresh = first.scheduler.fresh + programs.length
  pending : last.scheduler.pending = first.scheduler.pending ++ (numbered first.scheduler.fresh programs).map Prod.fst
  entered : ∀ entry ∈ numbered first.scheduler.fresh programs,
    last.scheduler.running.find? entry.1 = some (.begin entry.2)
  waiting : last.waiting = first.waiting ++ (numbered first.scheduler.fresh programs).map Prod.fst

section Work
variable {informed : FailureHook} {task : TaskId} {program : Program} {before said : List Sight}
  {programs : List Program}

/-- Whoever is at work is nobody who has still to begin, however it goes on. -/
theorem waiting_after (kept : Sound (some task) middle.scheduler) {scheduler : Scheduler Activity Bool} {more : List Turn}
    (ready : scheduler.ready = middle.scheduler.ready ++ more)
    (found : ∀ other, other ≠ task → scheduler.running.find? other = middle.scheduler.running.find? other)
    (begun : ∀ other ∈ more, ({ middle with scheduler := scheduler } : Desk).beginner? other = none) :
    ({ middle with scheduler := scheduler } : Desk).waiting = middle.waiting := by
  rw [waiting, ready, List.filterMap_append, List.filterMap_eq_nil_iff.mpr begun, List.append_nil]
  exact filterMap_beginner fun other member => found other fun same => kept.unasked (same ▸ member)

private theorem worked_yield (sound : Sound (some task) first.scheduler) (kept : Sound (some task) middle.scheduler)
    (submitted : Submitted first.scheduler programs middle.scheduler) (sights : middle.sights = first.sights ++ said)
    (hook : middle.hook = first.hook) (began : before ++ said = [.called program.call program.session])
    (submits : List Program) (later : List (List Program)) :
    Worked informed task program before said (program.stintsFrom programs (submits :: later)) [] programs first
      { middle with scheduler := middle.scheduler.yield task (.rest program submits later) } := by
  have found {other : TaskId} (different : other ≠ task) :
      (middle.scheduler.running.put task (.rest program submits later)).find? other =
        middle.scheduler.running.find? other := Assoc.find?_put_of_ne different _ _
  have itself : (middle.scheduler.running.put task (.rest program submits later)).find? task =
      some (.rest program submits later) := Assoc.find?_put_self _ _ _
  have old := sound.bounded.running task (sound.atWork task rfl).1
  refine {
    sound := kept.yield rfl
    hook := hook
    sights := ?_
    life := fun given owed => ?_
    others := fun other different older => ⟨(found different).trans (submitted.found_old older), ?_⟩
    fresh := submitted.fresh
    pending := submitted.pending
    entered := fun entry member => ?_
    waiting := ?_ }
  · rw [List.map_nil, List.append_nil, ← sights]
  · rw [List.map_nil, List.append_nil, began]
    exact .resting itself ((List.append_assoc given [programs] _).trans owed)
  · exact congrArg (Assoc.find? other) submitted.results
  · have new : entry.1 ≠ task := (Nat.ne_of_lt (Nat.lt_of_lt_of_le old (numbered_bounds member).1)).symm
    exact (found new).trans (submitted.found_new sound.bounded entry member)
  · rw [← waiting_submitted submitted sound.bounded]
    refine waiting_after kept rfl (fun other => found) (List.forall_mem_singleton.mpr ?_)
    change ((Assoc.find? task (middle.scheduler.running.put task _)).bind Activity.program?).map _ = none
    rw [itself]
    rfl

/-- A call comes to its end: its failure is told, and the hook may submit others. -/
theorem conclude_submitted (kept : Sound (some task) middle.scheduler) (program : Program) :
    ∃ closing : Desk, Sound (some task) closing.scheduler ∧
      Submitted middle.scheduler (if program.failure.isSome then program.onFailure else []) closing.scheduler ∧
      closing.sights =
        middle.sights ++ (middle.hook.conclude program.call program.session program.failure).map .noticed ∧
      closing.hook = middle.hook ∧ middle.conclude task program =
        { closing with scheduler := closing.scheduler.finish task program.failure.isNone } := by
  rw [conclude]
  generalize (middle.hook.conclude program.call program.session program.failure).map Sight.noticed = notices
  by_cases fails : program.failure.isSome = true
  · obtain ⟨still, later, seen, same⟩ := submitAll_submitted (middle.see notices) kept program.onFailure
    rw [if_pos fails, if_pos fails]
    exact ⟨_, still, later, seen, same, rfl⟩
  · rw [if_neg fails, if_neg fails]
    exact ⟨middle.see notices, kept, .none _, rfl, rfl, rfl⟩

private theorem worked_conclude (sound : Sound (some task) first.scheduler) (kept : Sound (some task) middle.scheduler)
    (submitted : Submitted first.scheduler programs middle.scheduler) (sights : middle.sights = first.sights ++ said)
    (hook : middle.hook = first.hook) (began : before ++ said = [.called program.call program.session])
    (known : first.hook = informed) : ∃ notices more, Worked informed task program before said
      (program.stintsFrom programs []) notices more first (middle.conclude task program) := by
  obtain ⟨closing, still, later, seen, same, ends⟩ := conclude_submitted kept program
  have all := submitted.trans later
  have old := sound.bounded.running task (sound.atWork task rfl).1
  have found {other : TaskId} (different : other ≠ task) :
      (closing.scheduler.running.remove task).find? other = closing.scheduler.running.find? other :=
    Assoc.find?_remove_of_ne different _
  have told := informed.conclude_told program.call program.session program.failure
  rw [hook, known] at seen
  rw [ends]
  refine ⟨informed.conclude program.call program.session program.failure, _, {
    sound := still.finish _
    hook := same.trans hook
    sights := ?_
    life := fun given owed => ?_
    others := fun other different older => ⟨(found different).trans (all.found_old older), ?_⟩
    fresh := all.fresh
    pending := all.pending
    entered := fun entry member => ?_
    waiting := ?_ }⟩
  · rw [seen, sights, List.append_assoc]
  · have whole : given ++ [programs ++ if program.failure.isSome then program.onFailure else []] = program.stints := owed
    rw [← List.append_assoc, began, whole]
    exact .ended (Assoc.find?_remove_self still.bounded.unique) (Assoc.find?_put_self _ _ _) told
  · exact (Assoc.find?_put_of_ne different _ _).trans (congrArg (Assoc.find? other) all.results)
  · have new : entry.1 ≠ task := (Nat.ne_of_lt (Nat.lt_of_lt_of_le old (numbered_bounds member).1)).symm
    exact (found new).trans (all.found_new sound.bounded entry member)
  · rw [← waiting_submitted all sound.bounded]
    refine waiting_after still rfl (fun other => found) fun turn member => beginner?_calm fun other resumed => ?_
    exact still.leaves.calm task other (resumed ▸ member)

private theorem rest_worked (sound : Sound (some task) first.scheduler) (submits : List Program)
    (later : List (List Program))
    (began : before ++ said = [.called program.call program.session]) (known : first.hook = informed) :
    ∃ notices more, Worked informed task program before said (program.stintsFrom submits later) notices more first
      (((first.see said).submitAll submits).rest task program later) := by
  obtain ⟨kept, submitted, sights, hook⟩ := submitAll_submitted (first.see said) sound submits
  cases later with
  | nil => exact worked_conclude sound kept submitted sights hook began known
  | cons next later => exact ⟨_, _, worked_yield sound kept submitted sights hook began next later⟩

theorem resume_worked (sound : Sound (some task) first.scheduler) (known : first.hook = informed) {activity : Activity}
    (found : first.scheduler.running.find? task = some activity) (calls : activity.calls = true) :
    ∃ program before said owed notices programs,
      Worked informed task program before said owed notices programs first (first.resume task) ∧
      (activity = .begin program ∧ before = [] ∧ said = [.called program.call program.session] ∧ owed = program.stints ∨
        (∃ submits later, activity = .rest program submits later ∧ owed = program.stintsFrom submits later) ∧
          before = [.called program.call program.session] ∧ said = []) := by
  cases activity with
  | begin program =>
    obtain ⟨notices, programs, works⟩ := rest_worked sound program.submits program.later
      (List.nil_append [Sight.called program.call program.session]) known
    refine ⟨program, [], _, _, notices, programs, ?_, .inl ⟨rfl, rfl, rfl, rfl⟩⟩
    rw [resume, found]
    exact works
  | rest program submits later =>
    obtain ⟨notices, programs, works⟩ :=
      rest_worked sound submits later (List.append_nil [Sight.called program.call program.session]) known
    have same : first.see [] = first := by rw [see, List.append_nil]
    rw [same] at works
    refine ⟨program, _, [], _, notices, programs, ?_, .inr ⟨⟨submits, later, rfl, rfl⟩, rfl, rfl⟩⟩
    rw [resume, found]
    exact works
  | drain => cases calls

end Work

end Desk

/-- What happens to the calls in a move. -/
structure Passage (informed : FailureHook) (first last : Desk) (beat : Beat) : Prop where
  sound : Sound none last.scheduler
  hook : last.hook = informed
  sights : last.sights = first.sights ++ beat.seen
  fresh : first.scheduler.fresh ≤ last.scheduler.fresh
  worker : ∀ task, beat.worker = some task → task < last.scheduler.fresh
  numbers : ∀ entry ∈ beat.direct ++ beat.submitted,
    first.scheduler.fresh ≤ entry.1 ∧ entry.1 < last.scheduler.fresh
  distinct : ((beat.direct ++ beat.submitted).map Prod.fst).Nodup
  /-- The calls that were there go on, and new ones begin their lives. -/
  old : ∀ task program before given, task < first.scheduler.fresh → first.Life informed task program before given →
    last.Life informed task program (before ++ beat.toldOf task) (given ++ beat.handedOf task)
  new : ∀ entry ∈ beat.direct ++ beat.submitted,
    last.Life informed entry.1 entry.2 (beat.toldOf entry.1) (beat.handedOf entry.1)
  /-- Only the first one of those who wait may begin, and whoever was submitted comes last. -/
  order : ∃ rest, last.waiting = rest ++ beat.submitted.map Prod.fst ∧
    (first.waiting = beat.begins.toList ++ rest ∨ first.waiting = rest ∧ ∃ task, beat.begins = some task ∧
      first.scheduler.fresh ≤ task ∧ task ∉ beat.submitted.map Prod.fst)
  pending : last.scheduler.pending.Sublist (first.scheduler.pending ++ beat.submitted.map Prod.fst)
  kept : ∀ task ∈ first.scheduler.pending ++ beat.submitted.map Prod.fst,
    task ∈ last.scheduler.running.keys → task ∈ last.scheduler.pending
  /-- Whoever has ended stays so. -/
  gone : ∀ task < first.scheduler.fresh, first.scheduler.running.find? task = none →
    last.scheduler.running.find? task = none ∧ last.scheduler.results.find? task = first.scheduler.results.find? task
  /-- Whoever drains goes on to do so, or finds that nothing is pending. -/
  drains : ∀ task < first.scheduler.fresh, first.scheduler.running.find? task = some .drain → last.Drains task
  /-- Only calls are seen, and only they submit others. -/
  speaks : beat.Speaks → ∃ task, beat.worker = some task ∧ (task ∈ beat.direct.map Prod.fst ∨ first.Calls task)
  callers : ∀ task, last.Calls task → first.Calls task ∨ task ∈ (beat.direct ++ beat.submitted).map Prod.fst

/-- What is recorded of the calls is how it is with them. -/
structure Records (informed : FailureHook) (beats : List Beat) (desk : Desk) : Prop where
  sound : Sound none desk.scheduler
  hook : desk.hook = informed
  sights : desk.sights = beats.flatMap Beat.seen
  known : ∀ entry ∈ calls beats, entry.1 < desk.scheduler.fresh
  distinct : ((calls beats).map Prod.fst).Nodup
  workers : ∀ beat ∈ beats, ∀ task, beat.worker = some task → task < desk.scheduler.fresh
  lives : ∀ entry ∈ calls beats, desk.Life informed entry.1 entry.2 (told beats entry.1) (handed beats entry.1)
  /-- Those who were submitted have begun in their order, or wait in it. -/
  order : (submissions beats).map Prod.fst =
    (begun beats).filter (· ∈ (submissions beats).map Prod.fst) ++ desk.waiting
  pending : desk.scheduler.pending.Sublist ((submissions beats).map Prod.fst)
  kept : ∀ task ∈ (submissions beats).map Prod.fst, task ∈ desk.scheduler.running.keys →
    task ∈ desk.scheduler.pending
  speakers : ∀ beat ∈ beats, beat.Speaks → ∃ entry ∈ calls beats, beat.worker = some entry.1
  callers : ∀ task, desk.Calls task → task ∈ (calls beats).map Prod.fst

section Snoc
variable (beats : List Beat) (beat : Beat)

private theorem told_snoc (task : TaskId) : told (beats ++ [beat]) task = told beats task ++ beat.toldOf task := by
  rw [told, List.flatMap_append, List.flatMap_singleton, told]

private theorem handed_snoc (task : TaskId) : handed (beats ++ [beat]) task = handed beats task ++ beat.handedOf task := by
  rw [handed, List.flatMap_append, List.flatMap_singleton, handed]

private theorem submissions_snoc : submissions (beats ++ [beat]) = submissions beats ++ beat.submitted := by
  rw [submissions, List.flatMap_append, List.flatMap_singleton, submissions]

private theorem calls_snoc : calls (beats ++ [beat]) = calls beats ++ (beat.direct ++ beat.submitted) := by
  rw [calls, List.flatMap_append, List.flatMap_singleton, calls]

private theorem begun_snoc : begun (beats ++ [beat]) = begun beats ++ beat.begins.toList := by
  rw [begun, List.filterMap_append, begun]
  cases begins : beat.begins <;> simp [begins]

end Snoc

private theorem mem_calls_of_submissions {beats : List Beat} {entry : TaskId × Program}
    (member : entry ∈ submissions beats) :
    entry ∈ calls beats := by
  obtain ⟨beat, there, inside⟩ := List.mem_flatMap.mp member
  exact List.mem_flatMap.mpr ⟨beat, there, List.mem_append_right _ inside⟩

private theorem told_nil {beats : List Beat} {task : TaskId} (never : ∀ beat ∈ beats, beat.worker ≠ some task) :
    told beats task = [] :=
  List.flatMap_eq_nil_iff.mpr fun beat member => if_neg (never beat member)

private theorem handed_nil {beats : List Beat} {task : TaskId} (never : ∀ beat ∈ beats, beat.worker ≠ some task) :
    handed beats task = [] :=
  List.flatMap_eq_nil_iff.mpr fun beat member => if_neg (never beat member)

theorem Beat.worker_of_begins {beat : Beat} {task : TaskId} (begins : beat.begins = some task) :
    beat.worker = some task := by
  unfold Beat.begins at begins
  split at begins
  · exact begins
  · cases begins

namespace Records
variable {informed : FailureHook} {beats : List Beat} {first last : Desk} {beat : Beat}

theorem older (records : Records informed beats first) {task : TaskId}
    (member : task ∈ (submissions beats).map Prod.fst) : task < first.scheduler.fresh := by
  obtain ⟨entry, inside, rfl⟩ := List.mem_map.mp member
  exact records.known entry (mem_calls_of_submissions inside)

/-- What began before was not submitted afterwards. -/
theorem begun_submissions (records : Records informed beats first) (passage : Passage informed first last beat) :
    (begun beats).filter (· ∈ (submissions beats).map Prod.fst ++ beat.submitted.map Prod.fst) =
      (begun beats).filter (· ∈ (submissions beats).map Prod.fst) := by
  refine List.filter_congr fun task member => ?_
  obtain ⟨old, there, begins⟩ := List.mem_filterMap.mp member
  have before := records.workers old there task (Beat.worker_of_begins begins)
  have apart : task ∉ beat.submitted.map Prod.fst := by
    intro new
    obtain ⟨entry, inside, rfl⟩ := List.mem_map.mp new
    exact Nat.lt_irrefl _ (Nat.lt_of_lt_of_le before (passage.numbers entry (List.mem_append_right _ inside)).1)
  simp only [List.mem_append, apart, or_false]

private theorem order_snoc (records : Records informed beats first) (passage : Passage informed first last beat) :
    (submissions (beats ++ [beat])).map Prod.fst =
      (begun (beats ++ [beat])).filter (· ∈ (submissions (beats ++ [beat])).map Prod.fst) ++ last.waiting := by
  obtain ⟨rest, waits, goes⟩ := passage.order
  rw [submissions_snoc, begun_snoc, List.map_append, List.filter_append, records.begun_submissions passage, waits]
  rcases goes with next | ⟨next, task, begins, above, apart⟩
  · have chosen : beat.begins.toList.filter
        (· ∈ (submissions beats).map Prod.fst ++ beat.submitted.map Prod.fst) = beat.begins.toList := by
      refine List.filter_eq_self.mpr fun task member => decide_eq_true (List.mem_append_left _ ?_)
      rw [records.order, next]
      exact List.mem_append_right _ (List.mem_append_left _ member)
    rw [chosen, ← List.append_assoc, List.append_assoc _ beat.begins.toList, ← next, ← records.order]
  · have nobody : beat.begins.toList.filter
        (· ∈ (submissions beats).map Prod.fst ++ beat.submitted.map Prod.fst) = [] := by
      refine List.filter_eq_nil_iff.mpr fun other member => ?_
      rw [begins, Option.toList_some, List.mem_singleton] at member
      subst member
      refine fun either => (List.mem_append.mp (of_decide_eq_true either)).elim (fun old => ?_) apart
      exact Nat.lt_irrefl _ (Nat.lt_of_lt_of_le (records.older old) above)
    rw [nobody, List.append_nil, ← List.append_assoc, ← next, ← records.order]

private theorem kept_snoc (records : Records informed beats first) (passage : Passage informed first last beat)
    {task : TaskId}
    (member : task ∈ (submissions (beats ++ [beat])).map Prod.fst) (running : task ∈ last.scheduler.running.keys) :
    task ∈ last.scheduler.pending := by
  refine passage.kept task ?_ running
  rw [submissions_snoc, List.map_append] at member
  rcases List.mem_append.mp member with old | new
  · refine List.mem_append_left _ (records.kept task old ?_)
    by_contra ended
    have gone := (passage.gone task (records.older old) (Assoc.find?_eq_none.mpr ended)).1
    exact Assoc.find?_eq_none.mp gone running
  · exact List.mem_append_right _ new

theorem snoc (records : Records informed beats first) (passage : Passage informed first last beat) :
    Records informed (beats ++ [beat]) last := by
  have early {entry : TaskId × Program} (member : entry ∈ calls beats) : entry.1 < first.scheduler.fresh :=
    records.known entry member
  -- Tasks are numbered as they come: those of the record are below the next number, and those of the beat are not.
  -- That keeps the two apart in every field.
  refine {
    sound := passage.sound
    hook := passage.hook
    sights := ?_
    known := ?_
    distinct := ?_
    workers := ?_
    lives := ?_
    order := records.order_snoc passage
    pending := ?_
    kept := fun task => records.kept_snoc passage
    speakers := ?_
    callers := fun task calling => ?_ }
  · rw [passage.sights, records.sights, List.flatMap_append, List.flatMap_singleton]
  · rw [calls_snoc]
    refine List.forall_mem_append.mpr ⟨fun entry member => ?_, fun entry member => (passage.numbers entry member).2⟩
    exact Nat.lt_of_lt_of_le (early member) passage.fresh
  · rw [calls_snoc, List.map_append]
    refine records.distinct.append passage.distinct fun task old new => ?_
    obtain ⟨entry, member, rfl⟩ := List.mem_map.mp old
    obtain ⟨other, inside, same⟩ := List.mem_map.mp new
    exact Nat.lt_irrefl _ (Nat.lt_of_lt_of_le (early member) (same ▸ (passage.numbers other inside).1))
  · refine List.forall_mem_append.mpr ⟨fun old member task works => ?_, List.forall_mem_singleton.mpr passage.worker⟩
    exact Nat.lt_of_lt_of_le (records.workers old member task works) passage.fresh
  · rw [calls_snoc]
    refine List.forall_mem_append.mpr ⟨fun entry member => ?_, fun entry member => ?_⟩
    · rw [told_snoc, handed_snoc]
      exact passage.old _ _ _ _ (early member) (records.lives entry member)
    · have never : ∀ old ∈ beats, old.worker ≠ some entry.1 := fun old there works =>
        Nat.lt_irrefl _ (Nat.lt_of_lt_of_le (records.workers old there _ works) (passage.numbers entry member).1)
      rw [told_snoc, told_nil never, List.nil_append, handed_snoc, handed_nil never, List.nil_append]
      exact passage.new entry member
  · rw [submissions_snoc, List.map_append]
    exact passage.pending.trans (records.pending.append (List.Sublist.refl _))
  · rw [calls_snoc]
    refine List.forall_mem_append.mpr ⟨fun old member seen => ?_, List.forall_mem_singleton.mpr fun seen => ?_⟩
    · obtain ⟨entry, inside, works⟩ := records.speakers old member seen
      exact ⟨entry, List.mem_append_left _ inside, works⟩
    · obtain ⟨task, works, new | calling⟩ := passage.speaks seen
      · obtain ⟨entry, inside, rfl⟩ := List.mem_map.mp new
        exact ⟨entry, List.mem_append_right _ (List.mem_append_left _ inside), works⟩
      · obtain ⟨entry, inside, rfl⟩ := List.mem_map.mp (records.callers task calling)
        exact ⟨entry, List.mem_append_left _ inside, works⟩
  · rw [calls_snoc, List.map_append]
    rcases passage.callers task calling with old | new
    · exact List.mem_append_left _ (records.callers task old)
    · exact List.mem_append_right _ new

end Records

end TerminalDock.Transport
