import TerminalDock.Proofs.DeskMoves

/-! How long it takes until all is quiet at a transport. Turns are served in the order in which they were asked for, so in
each round whoever can go on does so; the calls that are under way have fewer and fewer turns to come, and whoever waits
for them goes on at last. -/

namespace TerminalDock

def Loop.Turn.leaves : Loop.Turn → Bool
  | .leave _ => true
  | .resume _ | .arrive _ => false

namespace Transport
open Loop

/-- The turns that are to come of what is under way. -/
def toilOf (running : Assoc TaskId Activity) : Nat :=
  running.values.foldr (fun activity turns => activity.toil + turns) 0

private theorem toilOf_cons (task : TaskId) (activity : Activity) (rest : Assoc TaskId Activity) :
    toilOf ((task, activity) :: rest) = activity.toil + toilOf rest := rfl

private theorem toilOf_append (running more : Assoc TaskId Activity) :
    toilOf (running ++ more) = toilOf running + toilOf more := by
  induction running with
  | nil => exact (Nat.zero_add _).symm
  | cons entry rest ih =>
    have whole : toilOf (entry :: rest ++ more) = entry.2.toil + toilOf (rest ++ more) := rfl
    rw [whole, ih, ← Nat.add_assoc, toilOf_cons]

private theorem toilOf_numbered (first : Nat) (programs : List Program) :
    toilOf ((numbered first programs).map fun entry => (entry.1, .begin entry.2)) = Program.toils programs := by
  induction programs generalizing first with
  | nil => rfl
  | cons program rest ih =>
    rw [numbered, List.map_cons, toilOf_cons, ih, Activity.toil, Program.toils]

section Table
variable {running : Assoc TaskId Activity} {task : TaskId} {activity : Activity}

private theorem toilOf_remove (found : running.find? task = some activity) :
    toilOf running = activity.toil + toilOf (running.remove task) := by
  induction running with
  | nil => cases found
  | cons entry rest ih =>
    obtain ⟨name, job⟩ := entry
    by_cases here : name = task
    · rw [Assoc.find?, if_pos here] at found
      cases found
      rw [Assoc.remove, if_pos here, toilOf_cons]
    · rw [Assoc.find?, if_neg here] at found
      rw [Assoc.remove, if_neg here, toilOf_cons, toilOf_cons, ih found]
      omega

private theorem toilOf_put (found : running.find? task = some activity) (next : Activity) :
    toilOf (running.put task next) + activity.toil = toilOf running + next.toil := by
  induction running with
  | nil => cases found
  | cons entry rest ih =>
    obtain ⟨name, job⟩ := entry
    by_cases here : name = task
    · rw [Assoc.find?, if_pos here] at found
      cases found
      rw [Assoc.put, if_pos here, toilOf_cons, toilOf_cons]
      omega
    · rw [Assoc.find?, if_neg here] at found
      have less := ih found
      rw [Assoc.put, if_neg here, toilOf_cons, toilOf_cons]
      omega

private theorem toilOf_pos (busy : 0 < toilOf running) :
    ∃ task activity, (task, activity) ∈ running ∧ 0 < activity.toil := by
  induction running with
  | nil => cases busy
  | cons entry rest ih =>
    rcases Nat.add_pos_iff_pos_or_pos.mp busy with here | later
    · exact ⟨entry.1, entry.2, List.mem_cons_self .., here⟩
    · obtain ⟨task, activity, member, positive⟩ := ih later
      exact ⟨task, activity, List.mem_cons_of_mem _ member, positive⟩

end Table

/-- Nothing is to come of nobody but those who drain. -/
theorem Activity.toil_pos {activity : Activity} (calls : activity.calls = true) : 2 ≤ activity.toil := by
  cases activity with
  | begin program =>
    obtain ⟨call, session, submits, later, failure, onFailure⟩ := program
    rw [toil, Program.toil]
    omega
  | rest program submits later =>
    rw [toil]
    omega
  | drain => cases calls

theorem Activity.toil_begin (program : Program) :
    (Activity.begin program).toil = (Activity.rest program program.submits program.later).toil := by
  obtain ⟨call, session, submits, later, failure, onFailure⟩ := program
  rfl

namespace Sound
variable {who : Option TaskId} {task : TaskId} {scheduler : Scheduler Activity Bool}

private theorem leaves_once (sound : Sound who scheduler) (task : TaskId) :
    (scheduler.turnsAt task).countP Turn.leaves ≤ 1 := by
  have own : (scheduler.turnsAt task).countP Turn.leaves = (scheduler.turnsAt task).count (.leave task) := by
    refine List.countP_congr fun turn member => ?_
    cases turn with
    | leave other =>
      rw [sound.leaves.own task other member, beq_self_eq_true]
      rfl
    | resume other | arrive group => exact ⟨nofun, fun same => absurd (beq_iff_eq.mp same) nofun⟩
  have due : (scheduler.turnsAt task).count (.leave task) ≤ scheduler.due (.leave task) := by
    unfold Scheduler.turnsAt Scheduler.due
    cases found : scheduler.callbacks.find? task with
    | none => exact Nat.zero_le _
    | some turns =>
      have inside := List.sublist_flatten_of_mem (Assoc.mem_values_of_find? found)
      exact Nat.le_trans (inside.count_le _) (Nat.le_add_left _ _)
  have once := sound.departs task
  split at once <;> omega

private theorem turnsAt_drain (sound : Sound who scheduler) (drains : scheduler.running.find? task = some .drain) :
    scheduler.turnsAt task = [] := by
  refine List.eq_nil_iff_forall_not_mem.mpr fun turn member => ?_
  obtain ⟨job, found, calls⟩ := sound.marked task turn member
  cases drains.symm.trans found
  cases calls

end Sound

namespace Desk
variable {desk first last : Desk} {task : TaskId} {rest : List Turn}

/-- The turns that are to come of the calls under way and of those that have ended. -/
def load (desk : Desk) : Nat :=
  toilOf desk.scheduler.running + desk.scheduler.ready.countP Turn.leaves

private theorem load_pos {desk : Desk} (calling : desk.Calls task) : 0 < desk.load := by
  obtain ⟨activity, found, calls⟩ := calling
  have positive := Activity.toil_pos calls
  rw [load, toilOf_remove found]
  omega

private theorem load_submitted {programs : List Program} (submitted : Submitted first.scheduler programs last.scheduler) :
    last.load = first.load + Program.toils programs := by
  have nobody : ((numbered first.scheduler.fresh programs).map fun entry => Turn.resume entry.1).countP Turn.leaves = 0 := by
    refine List.countP_eq_zero.mpr fun turn member => ?_
    obtain ⟨entry, -, rfl⟩ := List.mem_map.mp member
    exact Bool.false_ne_true
  rw [load, submitted.running, submitted.ready, toilOf_append, toilOf_numbered, List.countP_append, nobody, load]
  omega

/-- A call that goes on has a turn less to come. -/
theorem rest_load (sound : Sound (some task) first.scheduler) {activity : Activity}
    (found : first.scheduler.running.find? task = some activity) {program : Program} {submits : List Program}
    {later : List (List Program)} (same : activity.toil = (Activity.rest program submits later).toil) (said : List Sight) :
    (((first.see said).submitAll submits).rest task program later).load < first.load := by
  obtain ⟨kept, submitted, -, -⟩ := submitAll_submitted (first.see said) sound submits
  have old := sound.bounded.running task (sound.atWork task rfl).1
  have grown : ((first.see said).submitAll submits).load = first.load + Program.toils submits := load_submitted submitted
  have there := (submitted.found_old old).trans found
  generalize (first.see said).submitAll submits = middle at kept submitted grown there ⊢
  rw [Activity.toil] at same
  cases later with
  | nil =>
    obtain ⟨closing, still, last, -, -, ends⟩ := conclude_submitted kept program
    have few : Program.toils (if program.failure.isSome then program.onFailure else []) ≤
        Program.toils program.onFailure := by
      split
      · exact Nat.le_refl _
      · exact Nat.zero_le _
    have older : task < middle.scheduler.fresh := kept.bounded.running task (kept.atWork task rfl).1
    have removed := toilOf_remove ((last.found_old older).trans there)
    have grown : closing.load =
        middle.load + Program.toils (if program.failure.isSome then program.onFailure else []) := load_submitted last
    have leaving := still.leaves_once task
    have load : (middle.conclude task program).load =
        toilOf (closing.scheduler.running.remove task) +
          (closing.scheduler.ready ++ closing.scheduler.turnsAt task).countP Turn.leaves := by
      rw [ends]
      rfl
    rw [Program.toilsLater] at same
    rw [rest, load, List.countP_append]
    unfold Desk.load at *
    omega
  | cons next later =>
    have put := toilOf_put there (.rest program next later)
    have load : (middle.rest task program (next :: later)).load =
        toilOf (middle.scheduler.running.put task (.rest program next later)) +
          (middle.scheduler.ready ++ [Turn.resume task]).countP Turn.leaves := rfl
    rw [Program.toilsLater] at same
    rw [Activity.toil] at put
    have nobody : [Turn.resume task].countP Turn.leaves = 0 := rfl
    rw [load, List.countP_append, nobody]
    unfold Desk.load at *
    omega

private theorem resume_load (sound : Sound (some task) first.scheduler) {activity : Activity}
    (found : first.scheduler.running.find? task = some activity) (calls : activity.calls = true) :
    (first.resume task).load < first.load := by
  cases activity with
  | begin program =>
    rw [resume, found]
    exact rest_load sound found (Activity.toil_begin program) _
  | rest program submits later =>
    have same : first.see [] = first := by rw [see, List.append_nil]
    have toil : (Activity.rest program submits later).toil = _ := rfl
    have less := rest_load sound found toil []
    rw [same] at less
    rw [resume, found]
    exact less
  | drain => cases calls

private theorem resume_drain_load (sound : Sound (some task) first.scheduler)
    (drains : first.scheduler.running.find? task = some .drain) : (first.resume task).load = first.load := by
  rw [resume, drains]
  dsimp only
  split
  · have removed := toilOf_remove drains
    have ready : (first.scheduler.finish task true).ready = first.scheduler.ready := by
      rw [Scheduler.finish, ← Scheduler.turnsAt, sound.turnsAt_drain drains, List.append_nil]
    rw [Activity.toil, Nat.zero_add] at removed
    rw [load, ready, load, removed]
    rfl
  · obtain ⟨-, more, ready, arrives⟩ := first.scheduler.waitFor_turns task first.scheduler.pending
    have nobody : more.countP Turn.leaves = 0 := List.countP_eq_zero.mpr fun turn member => by
      rw [arrives turn member]
      exact Bool.false_ne_true
    rw [load, Scheduler.running_waitFor, ready, List.countP_append, nobody, load]
    rfl

/-- A turn in which a call goes on or leaves. -/
def Active (desk : Desk) : Turn → Prop
  | .leave _ => True
  | .resume task => desk.Calls task
  | .arrive _ => False

private theorem rest_ready (sound : Sound (some task) first.scheduler) (program : Program) (submits : List Program)
    (later : List (List Program)) (said : List Sight) : ∃ more,
    (((first.see said).submitAll submits).rest task program later).scheduler.ready = first.scheduler.ready ++ more := by
  obtain ⟨kept, submitted, -, -⟩ := submitAll_submitted (first.see said) sound submits
  have ready : ((first.see said).submitAll submits).scheduler.ready = first.scheduler.ready ++ _ := submitted.ready
  cases later with
  | nil =>
    obtain ⟨closing, -, last, -, -, ends⟩ := conclude_submitted kept program
    have asks : (((first.see said).submitAll submits).conclude task program).scheduler.ready =
        closing.scheduler.ready ++ closing.scheduler.turnsAt task := by
      rw [ends]
      rfl
    rw [rest, asks, last.ready, ready, List.append_assoc, List.append_assoc]
    exact ⟨_, rfl⟩
  | cons next later =>
    have asks : (((first.see said).submitAll submits).rest task program (next :: later)).scheduler.ready =
        ((first.see said).submitAll submits).scheduler.ready ++ [.resume task] := rfl
    rw [asks, ready, List.append_assoc]
    exact ⟨_, rfl⟩

private theorem resume_ready (sound : Sound (some task) first.scheduler) :
    ∃ more, (first.resume task).scheduler.ready = first.scheduler.ready ++ more := by
  obtain ⟨activity, found⟩ := Assoc.mem_keys_iff.mp (sound.atWork task rfl).1
  cases activity with
  | begin program =>
    rw [resume, found]
    exact rest_ready sound _ _ _ _
  | rest program submits later =>
    have same : first.see [] = first := by rw [see, List.append_nil]
    have ready := rest_ready sound program submits later []
    rw [same] at ready
    rw [resume, found]
    exact ready
  | drain =>
    rw [resume, found]
    dsimp only
    split
    · exact ⟨_, rfl⟩
    · obtain ⟨-, more, ready, -⟩ := first.scheduler.waitFor_turns task first.scheduler.pending
      exact ⟨more, ready⟩

/-- Turns are served in the order in which they were asked for. -/
theorem turn_ready (sound : Sound none first.scheduler) {turn : Turn} (next : first.scheduler.ready = turn :: rest) :
    ∃ more, first.turn.scheduler.ready = rest ++ more := by
  cases turn with
  | resume task =>
    have working : Sound (some task) (first.popped rest).scheduler := sound.pop next
    rw [turn_resume next]
    exact resume_ready working
  | leave task =>
    rw [turn_leave next]
    exact ⟨[], (List.append_nil _).symm⟩
  | arrive group =>
    obtain ⟨more, ready, -⟩ := (first.popped rest).scheduler.arrive_ready group
    rw [turn_arrive next]
    exact ⟨more, ready⟩

/-- In a turn in which a call goes on or leaves there is less to come afterwards. -/
theorem turn_load_active (sound : Sound none first.scheduler) {turn : Turn} (next : first.scheduler.ready = turn :: rest)
    (active : first.Active turn) : first.turn.load < first.load := by
  cases turn with
  | resume task =>
    obtain ⟨activity, found, calls⟩ := active
    have working : Sound (some task) (first.popped rest).scheduler := sound.pop next
    have less := resume_load working found calls
    have same : (first.popped rest).load = first.load := by
      rw [load, load, next, List.countP_cons_of_neg fun leaves => Bool.noConfusion leaves]
      rfl
    rw [turn_resume next]
    exact same ▸ less
  | leave task =>
    have load : first.turn.load = toilOf first.scheduler.running + rest.countP Turn.leaves := by
      rw [turn_leave next]
      rfl
    rw [load, Desk.load, next, List.countP_cons_of_pos rfl]
    omega
  | arrive group => cases active

private theorem turn_calm (sound : Sound none first.scheduler) {turn : Turn} (next : first.scheduler.ready = turn :: rest)
    (calm : ¬ first.Active turn) : first.turn.load = first.load ∧
      ∀ other activity, activity.calls = true → first.scheduler.running.find? other = some activity →
        first.turn.scheduler.running.find? other = some activity := by
  cases turn with
  | resume task =>
    obtain ⟨job, found⟩ := Assoc.mem_keys_iff.mp (sound.present next)
    obtain rfl : job = .drain := by
      cases job with
      | drain => rfl
      | begin | rest => exact absurd ⟨_, found, rfl⟩ calm
    have working : Sound (some task) (first.popped rest).scheduler := sound.pop next
    have same : (first.popped rest).load = first.load := by
      rw [load, load, next, List.countP_cons_of_neg fun leaves => Bool.noConfusion leaves]
      rfl
    rw [turn_resume next]
    refine ⟨(resume_drain_load working found).trans same, fun other activity calls there => ?_⟩
    refine ((resume_drain_calm working found).found other fun same => ?_).1.trans there
    cases Option.some.inj same
    cases found.symm.trans there
    cases calls
  | leave task => exact absurd trivial calm
  | arrive group =>
    obtain ⟨more, ready, woken⟩ := (first.popped rest).scheduler.arrive_ready group
    have running := (first.popped rest).scheduler.running_arrive group
    have nobody : more.countP Turn.leaves = 0 := List.countP_eq_zero.mpr fun turn member => by
      obtain ⟨waiter, -, rfl⟩ := woken turn member
      exact Bool.false_ne_true
    rw [turn_arrive next]
    refine ⟨?_, fun other activity _ there => (congrArg (Assoc.find? other) running).trans there⟩
    rw [load, running, ready, List.countP_append, nobody, load, next,
      List.countP_cons_of_neg fun leaves => Bool.noConfusion leaves]
    rfl

theorem turn_sound (sound : Sound none first.scheduler) : Sound none first.turn.scheduler :=
  (turn_passage sound rfl).sound

private theorem turn_load_le (sound : Sound none first.scheduler) : first.turn.load ≤ first.load := by
  cases next : first.scheduler.ready with
  | nil => exact Nat.le_of_eq (congrArg load (turn_nil next))
  | cons turn rest =>
    by_cases active : first.Active turn
    · exact Nat.le_of_lt (turn_load_active sound next active)
    · exact Nat.le_of_eq (turn_calm sound next active).1

def turns : Nat → Desk → Desk
  | 0, desk => desk
  | count + 1, desk => turns count desk.turn

theorem turns_add (made more : Nat) (desk : Desk) : turns (made + more) desk = turns more (turns made desk) := by
  induction made generalizing desk with
  | zero => rw [Nat.zero_add, turns]
  | succ made ih => rw [Nat.succ_add, turns, ih, turns]

theorem turns_eq_play (count : Nat) (desk : Desk) : turns count desk = desk.play (List.replicate count .turn) := by
  induction count generalizing desk with
  | zero => rfl
  | succ count ih => rw [turns, ih, List.replicate_succ, play, play, List.foldl_cons, move]

theorem turns_sound (sound : Sound none first.scheduler) (count : Nat) : Sound none (turns count first).scheduler := by
  induction count generalizing first with
  | zero => exact sound
  | succ count ih => exact ih (turn_sound sound)

theorem turns_fresh (sound : Sound none first.scheduler) (count : Nat) :
    first.scheduler.fresh ≤ (turns count first).scheduler.fresh := by
  induction count generalizing first with
  | zero => exact Nat.le_refl _
  | succ count ih => exact Nat.le_trans (turn_passage sound rfl).fresh (ih (turn_sound sound))

private theorem turns_load_le (sound : Sound none first.scheduler) (count : Nat) :
    (turns count first).load ≤ first.load := by
  induction count generalizing first with
  | zero => exact Nat.le_refl _
  | succ count ih => exact Nat.le_trans (ih (turn_sound sound)) (turn_load_le sound)

private theorem served_load (sound : Sound none first.scheduler) {before after : List Turn} {turn : Turn}
    (next : first.scheduler.ready = before ++ turn :: after) (active : first.Active turn) :
    (turns (before.length + 1) first).load < first.load := by
  induction before generalizing first after with
  | nil => exact turn_load_active sound next active
  | cons head before ih =>
    change (turns (before.length + 1) first.turn).load < first.load
    by_cases sooner : first.Active head
    · exact Nat.lt_of_le_of_lt (turns_load_le (turn_sound sound) _) (turn_load_active sound next sooner)
    · obtain ⟨same, kept⟩ := turn_calm sound next sooner
      obtain ⟨more, ready⟩ := turn_ready sound next
      have still : first.turn.Active turn := by
        cases turn with
        | resume task =>
          obtain ⟨activity, found, calls⟩ := active
          exact ⟨activity, kept task activity calls found, calls⟩
        | leave task => trivial
        | arrive group => exact active
      exact same ▸ ih (turn_sound sound) (ready.trans (List.append_assoc _ _ _)) still

/-- The turns that have been asked for now. -/
def round (desk : Desk) : Desk :=
  turns desk.scheduler.ready.length desk

def rounds : Nat → Desk → Desk
  | 0, desk => desk
  | count + 1, desk => rounds count desk.round

private theorem rounds_add (made more : Nat) (desk : Desk) : rounds (made + more) desk = rounds more (rounds made desk) := by
  induction made generalizing desk with
  | zero => rw [Nat.zero_add, rounds]
  | succ made ih => rw [Nat.succ_add, rounds, ih, rounds]

private theorem round_sound (sound : Sound none first.scheduler) : Sound none first.round.scheduler :=
  turns_sound sound _

private theorem rounds_sound (sound : Sound none first.scheduler) (count : Nat) :
    Sound none (rounds count first).scheduler := by
  induction count generalizing first with
  | zero => exact sound
  | succ count ih => exact ih (round_sound sound)

/-- As long as a call is under way, or has still to leave, one has asked for a turn in which it goes on or leaves. -/
theorem exists_active (sound : Sound none first.scheduler) (busy : 0 < first.load) :
    ∃ turn ∈ first.scheduler.ready, first.Active turn := by
  rcases Nat.add_pos_iff_pos_or_pos.mp busy with calling | leaving
  · obtain ⟨task, job, entry, positive⟩ := toilOf_pos calling
    have found := Assoc.find?_of_mem sound.bounded.unique entry
    have calls : job.calls = true := by
      cases job with
      | drain => cases positive
      | begin | rest => rfl
    have given := sound.idle task (Assoc.mem_keys_iff.mpr ⟨job, found⟩) (Option.some_ne_none _).symm
    have waits : task ∉ first.scheduler.waiters := fun waits => by
      cases found.symm.trans (sound.waiters task waits)
      cases calls
    rw [Scheduler.summons, List.count_eq_zero.mpr waits] at given
    exact ⟨.resume task, List.count_pos_iff.mp (by omega), job, found, calls⟩
  · obtain ⟨turn, member, leaves⟩ := List.countP_pos_iff.mp leaving
    cases turn with
    | leave task => exact ⟨_, member, trivial⟩
    | resume | arrive => cases leaves

/-- In each round there is less to come, as long as there is something. -/
theorem round_load (sound : Sound none first.scheduler) (busy : 0 < first.load) : first.round.load < first.load := by
  obtain ⟨turn, member, active⟩ := exists_active sound busy
  obtain ⟨before, after, next⟩ := List.append_of_mem member
  have length : first.scheduler.ready.length = before.length + 1 + after.length := by
    rw [next, List.length_append, List.length_cons]
    omega
  rw [round, length, turns_add]
  exact Nat.lt_of_le_of_lt (turns_load_le (turns_sound sound _) _) (served_load sound next active)

private theorem rounds_load (sound : Sound none first.scheduler) {count : Nat} (enough : first.load ≤ count) :
    (rounds count first).load = 0 := by
  induction count generalizing first with
  | zero => exact Nat.le_zero.mp enough
  | succ count ih =>
    refine ih (round_sound sound) ?_
    rcases Nat.eq_zero_or_pos first.load with none | busy
    · exact Nat.le_trans (turns_load_le sound _) (none ▸ Nat.zero_le _)
    · have less := round_load sound busy
      omega

/-- Nobody is there any more. -/
structure Quiet (desk : Desk) : Prop where
  ready : desk.scheduler.ready = []
  running : desk.scheduler.running = []
  pending : desk.scheduler.pending = []

private theorem still_running (still : first.load = 0) {activity : Activity}
    (found : first.scheduler.running.find? task = some activity) :
    activity = .drain := by
  cases activity with
  | drain => rfl
  | begin | rest => exact absurd (load_pos ⟨_, found, rfl⟩) (still ▸ Nat.lt_irrefl 0)

private theorem still_ends (sound : Sound none first.scheduler) (still : first.load = 0) (task : TaskId) :
    first.scheduler.turnsAt task = [] := by
  refine List.eq_nil_iff_forall_not_mem.mpr fun turn member => ?_
  obtain ⟨job, found, calls⟩ := sound.marked task turn member
  exact absurd (load_pos ⟨job, found, calls⟩) (still ▸ Nat.lt_irrefl 0)

private theorem still_leaves (still : first.load = 0) : .leave task ∉ first.scheduler.ready := fun member => by
  have positive : 0 < first.scheduler.ready.countP Turn.leaves := List.countP_pos_iff.mpr ⟨_, member, rfl⟩
  rw [load] at still
  omega

private theorem still_pending (sound : Sound none first.scheduler) (still : first.load = 0) :
    first.scheduler.pending = [] := by
  refine List.eq_nil_iff_forall_not_mem.mpr fun task member => ?_
  have due : 0 < first.scheduler.due (.leave task) := by
    rw [sound.departs, if_pos member]
    exact Nat.one_pos
  rcases Scheduler.of_due sound.bounded due with asked | ⟨other, marked⟩
  · exact still_leaves still asked
  · rw [still_ends sound still] at marked
    cases marked

private theorem still_turn (sound : Sound none first.scheduler) (still : first.load = 0) {turn : Turn}
    (next : first.scheduler.ready = turn :: rest) : ∃ more, first.turn.scheduler.ready = rest ++ more ∧
      (∀ other ∈ more, ∃ task, other = .resume task) ∧ ((∃ task, turn = .resume task) → more = []) := by
  cases turn with
  | resume task =>
    obtain ⟨activity, found⟩ := Assoc.mem_keys_iff.mp (sound.present next)
    obtain rfl := still_running still found
    have none := still_pending sound still
    have ends : ((first.popped rest).resume task).scheduler.ready = rest ++ first.scheduler.turnsAt task := by
      have nobody : (first.popped rest).scheduler.pending.isEmpty = true := List.isEmpty_iff.mpr none
      have there : (first.popped rest).scheduler.running.find? task = some .drain := found
      rw [resume, there]
      dsimp only
      rw [if_pos nobody]
      rfl
    rw [turn_resume next]
    exact ⟨_, ends, still_ends sound still task ▸ List.forall_mem_nil _, fun _ => still_ends sound still task⟩
  | leave task => exact absurd (next ▸ List.mem_cons_self ..) (still_leaves still)
  | arrive group =>
    obtain ⟨more, ready, woken⟩ := (first.popped rest).scheduler.arrive_ready group
    rw [turn_arrive next]
    refine ⟨more, ready, fun other member => ?_, ?_⟩
    · obtain ⟨waiter, -, same⟩ := woken other member
      exact ⟨waiter, same⟩
    · rintro ⟨task, same⟩
      cases same

private theorem still_kept (sound : Sound none first.scheduler) (still : first.load = 0) : first.turn.load = 0 :=
  Nat.le_zero.mp (still ▸ turn_load_le sound)

private theorem still_arrived (sound : Sound none first.scheduler) (still : first.load = 0) {before after : List Turn}
    (next : first.scheduler.ready = before ++ after) (woken : ∀ turn ∈ after, ∃ task, turn = .resume task) :
    ∀ turn ∈ (turns before.length first).scheduler.ready, ∃ task, turn = .resume task := by
  induction before generalizing first after with
  | nil => exact next ▸ woken
  | cons turn before ih =>
    obtain ⟨more, ready, resumes, -⟩ := still_turn sound still next
    refine ih (turn_sound sound) (still_kept sound still) (ready.trans (List.append_assoc _ _ _)) ?_
    exact List.forall_mem_append.mpr ⟨woken, resumes⟩

private theorem still_served (sound : Sound none first.scheduler) (still : first.load = 0) {asked : List Turn}
    (next : first.scheduler.ready = asked) (woken : ∀ turn ∈ asked, ∃ task, turn = .resume task) :
    (turns asked.length first).scheduler.ready = [] := by
  induction asked generalizing first with
  | nil => exact next
  | cons turn rest ih =>
    obtain ⟨here, later⟩ := List.forall_mem_cons.mp woken
    obtain ⟨more, ready, -, nobody⟩ := still_turn sound still next
    rw [nobody here, List.append_nil] at ready
    exact ih (turn_sound sound) (still_kept sound still) ready later

private theorem quiet_of_served (sound : Sound none first.scheduler) (still : first.load = 0)
    (served : first.scheduler.ready = []) : first.Quiet := by
  refine ⟨served, List.eq_nil_iff_forall_not_mem.mpr fun ⟨task, job⟩ member => ?_, still_pending sound still⟩
  have found := Assoc.find?_of_mem sound.bounded.unique member
  have given := sound.idle task (Assoc.mem_keys_iff.mpr ⟨job, found⟩) (Option.some_ne_none _).symm
  rw [Scheduler.summons, served, List.count_nil, Nat.zero_add] at given
  obtain ⟨group, inside, same⟩ := List.mem_map.mp (List.count_pos_iff.mp (given ▸ Nat.one_pos))
  obtain ⟨⟨name, waiting⟩, entry, rfl⟩ := List.mem_map.mp inside
  have due := sound.arrives name
  rw [Assoc.find?_of_mem sound.bounded.distinct entry] at due
  have missing : 0 < first.scheduler.due (.arrive name) := due ▸ sound.missing waiting inside
  rcases Scheduler.of_due sound.bounded missing with asked | ⟨other, marked⟩
  · rw [served] at asked
    cases asked
  · rw [still_ends sound still] at marked
    cases marked

/-- All is quiet two rounds after the last call has left. -/
theorem rounds_quiet (sound : Sound none first.scheduler) {count : Nat} (enough : first.load + 2 ≤ count) :
    (rounds count first).Quiet := by
  obtain ⟨more, rfl⟩ := Nat.exists_eq_add_of_le' (Nat.le_trans (Nat.le_add_left _ _) enough)
  have none := rounds_load sound (Nat.le_of_add_le_add_right enough)
  have sound := rounds_sound sound more
  rw [rounds_add]
  generalize rounds more first = last at sound none ⊢
  have none' : last.round.load = 0 := Nat.le_zero.mp (none ▸ turns_load_le sound _)
  have arrived := still_arrived sound none (List.append_nil _).symm (List.forall_mem_nil _)
  have sound' := round_sound sound
  have served := still_served sound' none' rfl arrived
  exact quiet_of_served (round_sound sound') (Nat.le_zero.mp (none' ▸ turns_load_le sound' _)) served

theorem serveTurns_turns (task : TaskId) (count : Nat) (desk : Desk) : ∃ made,
    serveTurns task count desk = turns made desk ∧
      ((serveTurns task count desk).scheduler.results.has task = true ∨ made = count) := by
  induction count generalizing desk with
  | zero => exact ⟨0, rfl, .inr rfl⟩
  | succ count ih =>
    by_cases ended : desk.scheduler.results.has task = true
    · have same : serveTurns task (count + 1) desk = desk := by rw [serveTurns, if_pos ended]
      rw [same]
      exact ⟨0, rfl, .inl ended⟩
    · have same : serveTurns task (count + 1) desk = serveTurns task count desk.turn := by rw [serveTurns, if_neg ended]
      obtain ⟨made, turned, found⟩ := ih desk.turn
      rw [same]
      exact ⟨made + 1, turned, found.imp_right (congrArg (· + 1))⟩

private theorem serve_ended {result : Bool} (ended : desk.scheduler.results.find? task = some result) (count : Nat) :
    serve task count desk = (result, desk) := by
  cases count with
  | zero => rw [serve, ended, Option.getD_some]
  | succ count => rw [serve, ended]

private theorem serve_turns (task : TaskId) (count : Nat) (desk : Desk) :
    ∃ made, (serve task count desk).2 = turns made desk ∧
    ((serve task count desk).2.scheduler.results.find? task = some (serve task count desk).1 ∨
      (serve task count desk).2 = rounds count desk ∧ (rounds count desk).scheduler.results.find? task = none) := by
  induction count generalizing desk with
  | zero =>
    refine ⟨0, rfl, ?_⟩
    cases ended : desk.scheduler.results.find? task with
    | none => exact .inr ⟨rfl, ended⟩
    | some result =>
      rw [serve_ended ended]
      exact .inl ended
  | succ count ih =>
    cases ended : desk.scheduler.results.find? task with
    | some result =>
      rw [serve_ended ended]
      exact ⟨0, rfl, .inl ended⟩
    | none =>
      have next : serve task (count + 1) desk = serve task count (desk.serveTurns task desk.scheduler.ready.length) := by
        rw [serve, ended]
      obtain ⟨made, turned, found | all⟩ := serveTurns_turns task desk.scheduler.ready.length desk
      · obtain ⟨result, found⟩ := Assoc.has_iff.mp found
        rw [next, serve_ended found]
        exact ⟨made, turned, .inl found⟩
      · obtain ⟨more, turned_on, found⟩ := ih (desk.serveTurns task desk.scheduler.ready.length)
        have whole : desk.serveTurns task desk.scheduler.ready.length = desk.round := by rw [turned, all, round]
        rw [next, rounds, ← whole]
        refine ⟨made + more, ?_, found⟩
        rw [turned_on, turned, turns_add]

/-- Somebody makes a call, or drains, or has done so and has a result. -/
def Settles (informed : FailureHook) (desk : Desk) (task : TaskId) : Prop :=
  (∃ program seen given, desk.Life informed task program seen given) ∨ desk.scheduler.running.find? task = some .drain ∨
    desk.scheduler.running.find? task = none ∧ desk.scheduler.results.find? task = some true

namespace Settles
variable {informed : FailureHook}

theorem of_drains (drains : desk.Drains task) : desk.Settles informed task :=
  .inr (drains.imp_right fun ⟨gone, result, _⟩ => ⟨gone, result⟩)

theorem turn (settles : first.Settles informed task) (sound : Sound none first.scheduler) (hook : first.hook = informed)
    (old : task < first.scheduler.fresh) : first.turn.Settles informed task := by
  have passage := turn_passage sound hook
  rcases settles with ⟨program, seen, given, life⟩ | drains | ⟨gone, result⟩
  · exact .inl ⟨program, _, _, passage.old task program seen given old life⟩
  · exact .of_drains (passage.drains task old drains)
  · obtain ⟨gone, same⟩ := passage.gone task old gone
    exact .inr (.inr ⟨gone, same.trans result⟩)

theorem turns (settles : first.Settles informed task) (sound : Sound none first.scheduler) (hook : first.hook = informed)
    (old : task < first.scheduler.fresh) (count : Nat) : (turns count first).Settles informed task := by
  induction count generalizing first with
  | zero => exact settles
  | succ count ih =>
    have passage := turn_passage sound hook
    exact ih (settles.turn sound hook old) passage.sound passage.hook (Nat.lt_of_lt_of_le old passage.fresh)

theorem result (settles : desk.Settles informed task) (quiet : desk.Quiet) :
    ∃ result, desk.scheduler.results.find? task = some result := by
  have gone : desk.scheduler.running.find? task = none := quiet.running ▸ rfl
  rcases settles with ⟨program, seen, given, life⟩ | drains | ⟨-, result⟩
  · cases life with
    | waiting found | resting found => cases gone.symm.trans found
    | ended _ result => exact ⟨_, result⟩
  · cases gone.symm.trans drains
  · exact ⟨true, result⟩

end Settles

/-- Whoever waits for the end of a task has its result after finitely many turns. -/
theorem serve_result {informed : FailureHook} (sound : Sound none first.scheduler) (hook : first.hook = informed)
    (old : task < first.scheduler.fresh) (settles : first.Settles informed task) {count : Nat}
    (enough : first.load + 2 ≤ count) : ∃ made, (serve task count first).2 = turns made first ∧
      (serve task count first).2.scheduler.results.find? task = some (serve task count first).1 := by
  obtain ⟨made, turned, found | ⟨whole, missing⟩⟩ := serve_turns task count first
  · exact ⟨made, turned, found⟩
  · have quiet := rounds_quiet sound enough
    rw [← whole, turned] at quiet missing
    obtain ⟨result, found⟩ := (settles.turns sound hook old made).result quiet
    cases missing.symm.trans found

private theorem load_patience (desk : Desk) : desk.load + 2 ≤ desk.patience := by
  have few := List.countP_le_length (p := Turn.leaves) (l := desk.scheduler.ready)
  have same : desk.patience = toilOf desk.scheduler.running + desk.scheduler.ready.length + 2 := rfl
  rw [load, same]
  omega

theorem await_result {informed : FailureHook} (sound : Sound none first.scheduler) (activity : Activity)
    (settles : (first.undertake activity).Settles informed first.scheduler.fresh)
    (passage : ∃ beat, Passage informed first (first.undertake activity) beat ∧ beat.worker = some first.scheduler.fresh) :
    ∃ made, (first.await activity).2 = turns made (first.undertake activity) ∧
      (first.await activity).2.scheduler.results.find? first.scheduler.fresh = some (first.await activity).1 := by
  obtain ⟨beat, passage, worker⟩ := passage
  have working : Sound (some first.scheduler.fresh) (first.opened activity).scheduler := sound.create activity
  have found : (first.opened activity).scheduler.running.find? first.scheduler.fresh = some activity :=
    Assoc.find?_put_self _ _ _
  have less : (first.undertake activity).load ≤ (first.opened activity).load := by
    by_cases calls : activity.calls = true
    · exact Nat.le_of_lt (resume_load working found calls)
    · cases activity with
      | drain => exact Nat.le_of_eq (resume_drain_load working found)
      | begin | rest => exact absurd rfl calls
  have enough := (first.opened activity).load_patience
  exact serve_result passage.sound passage.hook (passage.worker _ worker) settles
    (Nat.le_trans (Nat.add_le_add_right less 2) enough)

end Desk
end Transport
end TerminalDock
