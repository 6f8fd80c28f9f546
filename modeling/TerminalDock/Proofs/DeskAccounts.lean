import TerminalDock.Proofs.DeskRounds

/-! What a transport owes to its calls. Each of them is made once, in the order of the submissions, and its failure is
reported once; it is pending until it has left, one turn after its end, and whoever drains goes on when nobody is pending
any more. -/

namespace TerminalDock

namespace Transport
open Loop

/-- What is kept of the calls of a transport, and of who is pending. -/
structure Accounts (hook : FailureHook) (beats : List Beat) (desk : Desk) : Prop where
  seen : desk.sights = beats.flatMap Beat.seen
  /-- Only calls are seen, and only they submit others. -/
  speakers : ∀ beat ∈ beats, beat.Speaks → ∃ entry ∈ calls beats, beat.worker = some entry.1
  distinct : ((calls beats).map Prod.fst).Nodup
  /-- Nothing was seen of a call so far, or that it was made, or that and at its end the report of its failure. -/
  lives : ∀ entry ∈ calls beats, desk.Life hook entry.1 entry.2 (told beats entry.1) (handed beats entry.1)
  /-- Those who have begun are the first ones who were submitted. -/
  order : (begun beats).filter (· ∈ (submissions beats).map Prod.fst) <+: (submissions beats).map Prod.fst
  /-- Those are pending who were submitted and are under way, or have still to leave after their end. -/
  pending : desk.scheduler.pending = ((submissions beats).map Prod.fst).filter fun task =>
    task ∈ desk.scheduler.running.keys ∨ .leave task ∈ desk.scheduler.ready
  /-- Whoever has still to leave does so within the turns that have been asked for. -/
  leaves : ∀ task, .leave task ∈ desk.scheduler.ready → task ∉ desk.round.scheduler.pending

namespace Desk
variable {informed : FailureHook} {first desk : Desk} {task : TaskId}

private theorem turns_absent (sound : Sound none first.scheduler) (old : task < first.scheduler.fresh)
    (absent : task ∉ first.scheduler.pending) (count : Nat) : task ∉ (turns count first).scheduler.pending := by
  induction count generalizing first with
  | zero => exact absent
  | succ count ih =>
    have passage := turn_passage sound rfl
    refine ih passage.sound (Nat.lt_of_lt_of_le old passage.fresh) fun member => ?_
    rcases List.mem_append.mp (passage.pending.subset member) with before | new
    · exact absent before
    · obtain ⟨entry, inside, rfl⟩ := List.mem_map.mp new
      exact Nat.lt_irrefl _ (Nat.lt_of_lt_of_le old (passage.numbers entry (List.mem_append_right _ inside)).1)

private theorem turns_leave (sound : Sound none first.scheduler) {before after : List Turn}
    (next : first.scheduler.ready = before ++ .leave task :: after) :
    task ∉ (turns (before.length + 1) first).scheduler.pending := by
  induction before generalizing first after with
  | nil =>
    have left : (turns 1 first).scheduler.pending = first.scheduler.pending.erase task := by
      rw [turns, turns, turn_leave next]
      rfl
    rw [List.length_nil, left]
    exact sound.unique.not_mem_erase
  | cons head before ih =>
    obtain ⟨more, ready⟩ := turn_ready sound next
    exact ih (turn_sound sound) (ready.trans (List.append_assoc _ _ _))

private theorem round_leaves (sound : Sound none first.scheduler) (asked : .leave task ∈ first.scheduler.ready) :
    task ∉ first.round.scheduler.pending := by
  obtain ⟨before, after, next⟩ := List.append_of_mem asked
  have length : first.scheduler.ready.length = before.length + 1 + after.length := by
    rw [next, List.length_append, List.length_cons]
    omega
  have old : task < first.scheduler.fresh := sound.bounded.ready _ asked
  rw [round, length, turns_add]
  exact turns_absent (turns_sound sound _) (Nat.lt_of_lt_of_le old (turns_fresh sound _)) (turns_leave sound next) _

end Desk

private theorem submissions_sublist (beats : List Beat) : (submissions beats).Sublist (calls beats) := by
  induction beats with
  | nil => exact .slnil
  | cons beat later ih => exact (List.sublist_append_right _ _).append ih

theorem Records.accounts {hook : FailureHook} {beats : List Beat} {desk : Desk} (records : Records hook beats desk) :
    Accounts hook beats desk where
  seen := records.sights
  speakers := records.speakers
  distinct := records.distinct
  lives := records.lives
  order := ⟨desk.waiting, records.order.symm⟩
  pending := by
    have stays : ∀ task ∈ desk.scheduler.pending,
        task ∈ desk.scheduler.running.keys ∨ .leave task ∈ desk.scheduler.ready := by
      intro task member
      have due : 0 < desk.scheduler.due (.leave task) := by
        rw [records.sound.departs, if_pos member]
        exact Nat.one_pos
      rcases Scheduler.of_due records.sound.bounded due with asked | ⟨other, marked⟩
      · exact .inr asked
      · obtain ⟨activity, found, -⟩ := records.sound.marked other _ marked
        have own := records.sound.leaves.own other task marked
        exact .inl (Assoc.mem_keys_iff.mpr ⟨activity, own ▸ found⟩)
    have fewer := records.pending.filter fun task =>
      decide (task ∈ desk.scheduler.running.keys ∨ .leave task ∈ desk.scheduler.ready)
    rw [List.filter_eq_self.mpr fun task member => decide_eq_true (stays task member)] at fewer
    have distinct := records.distinct.sublist ((submissions_sublist beats).map Prod.fst)
    refine fewer.eq_of_length (((List.perm_ext_iff_of_nodup records.sound.unique (distinct.filter _)).mpr
      fun task => ⟨fun member => fewer.subset member, fun member => ?_⟩).length_eq)
    obtain ⟨submitted, running | leaving⟩ := by simpa only [List.mem_filter, decide_eq_true_eq] using member
    · exact records.kept task submitted running
    · have due := Scheduler.due_of_ready leaving
      rw [records.sound.departs] at due
      split at due
      · assumption
      · cases due
  leaves _ := Desk.round_leaves records.sound

/-- All was said of the calls: each was made once and submitted what it had to, and the report of its failure followed. -/
def Settled (hook : FailureHook) (beats : List Beat) : Prop :=
  ∀ entry ∈ calls beats, handed beats entry.1 = entry.2.stints ∧
    ∃ notices, hook.Told entry.2.call entry.2.session entry.2.failure notices ∧
      told beats entry.1 = .called entry.2.call entry.2.session :: notices.map .noticed

namespace Desk
variable {hook : FailureHook} {moves : List Move} {first desk : Desk} {task : TaskId}

/-- Whoever waits for somebody who drains goes on as soon as nobody is pending. -/
theorem serveTurns_drains (sound : Sound none first.scheduler) (old : task < first.scheduler.fresh)
    (drains : first.Drains task) (count : Nat) : (serveTurns task count first).Drains task := by
  induction count generalizing first with
  | zero => exact drains
  | succ count ih =>
    rw [serveTurns]
    split
    · exact drains
    next unfinished =>
      have passage := turn_passage sound rfl
      refine ih passage.sound (Nat.lt_of_lt_of_le old passage.fresh) (passage.drains task old (drains.resolve_right ?_))
      rintro ⟨-, result, -⟩
      exact unfinished (Assoc.has_iff.mpr ⟨true, result⟩)

private theorem serve_drains (sound : Sound none first.scheduler) (old : task < first.scheduler.fresh)
    (drains : first.Drains task) (count : Nat) : (serve task count first).2.Drains task := by
  induction count generalizing first with
  | zero => exact drains
  | succ count ih =>
    rw [serve]
    split
    · exact drains
    · obtain ⟨made, turned, -⟩ := serveTurns_turns task first.scheduler.ready.length first
      have still := serveTurns_drains sound old drains first.scheduler.ready.length
      rw [turned] at still ⊢
      exact ih (turns_sound sound made) (Nat.lt_of_lt_of_le old (turns_fresh sound made)) still

private theorem turns_life {program : Program} {seen : List Sight} {given : List (List Program)}
    (life : first.Life hook task program seen given) (sound : Sound none first.scheduler) (known : first.hook = hook)
    (old : task < first.scheduler.fresh) (count : Nat) :
    ∃ seen given, (turns count first).Life hook task program seen given := by
  induction count generalizing first seen given with
  | zero => exact ⟨seen, given, life⟩
  | succ count ih =>
    have passage := turn_passage sound known
    exact ih (passage.old task program seen given old life) passage.sound passage.hook
      (Nat.lt_of_lt_of_le old passage.fresh)

theorem Life.result {program : Program} {seen : List Sight} {given : List (List Program)} {result : Bool}
    (life : desk.Life hook task program seen given) (sound : Sound none desk.scheduler)
      (found : desk.scheduler.results.find? task = some result) :
    result = program.failure.isNone := by
  cases life with
  | waiting there | resting there =>
    cases (sound.unfinished task (Assoc.mem_keys_iff.mpr ⟨_, there⟩)).symm.trans found
  | ended _ same => exact Option.some.inj (found.symm.trans same)

/-- Whoever drains waits until nobody is pending. -/
theorem drain_turns (sound : Sound none desk.scheduler) : ∃ made,
    desk.drain = desk.play (.drain :: List.replicate made .turn) ∧ desk.drain.scheduler.pending = [] := by
  have passage := drain_passage sound rfl
  have drains := undertake_drains sound
  have old := passage.worker _ rfl
  obtain ⟨made, turned, found⟩ := await_result sound .drain (Settles.of_drains drains) ⟨_, passage, rfl⟩
  refine ⟨made, turned.trans (turns_eq_play made _), ?_⟩
  have still : (desk.await .drain).2.Drains desk.scheduler.fresh := serve_drains passage.sound old drains _
  rcases still with drains | ⟨-, -, nobody⟩
  · have ended : Sound none (desk.await .drain).2.scheduler := turned ▸ turns_sound passage.sound made
    cases (ended.unfinished _ (Assoc.mem_keys_iff.mpr ⟨_, drains⟩)).symm.trans found
  · exact nobody

/-- Whoever runs a call waits until it has ended. -/
theorem run_turns (sound : Sound none desk.scheduler) (program : Program) : ∃ made,
    desk.run program = (program.failure.isNone, desk.play (.run program :: List.replicate made .turn)) := by
  have passage := run_passage sound rfl program
  have life := passage.new (desk.scheduler.fresh, program) (List.mem_cons_self ..)
  have old := passage.worker _ rfl
  obtain ⟨made, turned, found⟩ := await_result sound (.begin program) (.inl ⟨program, _, _, life⟩) ⟨_, passage, rfl⟩
  obtain ⟨seen, given, later⟩ := turns_life life passage.sound passage.hook old made
  rw [← turned] at later
  have ended : Sound none (desk.await (.begin program)).2.scheduler := turned ▸ turns_sound passage.sound made
  exact ⟨made, Prod.ext (later.result ended found) (turned.trans (turns_eq_play made _))⟩

theorem play_append (moves more : List Move) (desk : Desk) : desk.play (moves ++ more) = (desk.play moves).play more :=
  List.foldl_append

private theorem turns_quiet (sound : Sound none desk.scheduler) : ∃ count, (turns count desk).Quiet := by
  have rounded (count : Nat) (desk : Desk) : ∃ made, rounds count desk = turns made desk := by
    induction count generalizing desk with
    | zero => exact ⟨0, rfl⟩
    | succ count ih =>
      obtain ⟨made, same⟩ := ih desk.round
      exact ⟨desk.scheduler.ready.length + made, by rw [rounds, same, turns_add, round]⟩
  obtain ⟨made, same⟩ := rounded (desk.load + 2) desk
  exact ⟨made, same ▸ rounds_quiet sound (Nat.le_refl _)⟩

/-- Nothing is left to be said of the calls when all is quiet. -/
theorem Quiet.settled {beats : List Beat} (quiet : desk.Quiet) (accounts : Accounts hook beats desk) :
    Settled hook beats := by
  intro entry member
  have gone : desk.scheduler.running.find? entry.1 = none := quiet.running ▸ rfl
  have life := accounts.lives entry member
  generalize told beats entry.1 = seen, handed beats entry.1 = given at life
  cases life with
  | waiting found | resting found => cases gone.symm.trans found
  | ended _ _ told => exact ⟨rfl, _, told, rfl⟩

/-- What holds of a transport whatever was done with it, and how it goes on. -/
structure Accountable (hook : FailureHook) (moves : List Move) : Prop where
  /-- What is submitted or run is a call of the records. -/
  entrusted : List.Forall₂ Move.Entrusts moves ((unused hook).history moves)
  accounts : Accounts hook ((unused hook).history moves) ((unused hook).play moves)
  /-- Whoever drains, and waits now, goes on to do so until nobody is pending. -/
  drains : ∀ move task, ((unused hook).play moves).scheduler.running.find? task = some .drain →
    (((unused hook).play moves).move move).Drains task
  /-- Whoever drains next waits for finitely many turns, after which nobody is pending. -/
  drained : ∃ turns, ((unused hook).play moves).drain =
      (unused hook).play (moves ++ .drain :: List.replicate turns .turn) ∧
    ((unused hook).play moves).drain.scheduler.pending = []
  /-- Whoever runs a call waits for finitely many turns, and is told whether it has succeeded. -/
  ran : ∀ program : Program, ∃ turns, ((unused hook).play moves).run program =
    (program.failure.isNone, (unused hook).play (moves ++ .run program :: List.replicate turns .turn))
  /-- All calls have ended after finitely many turns. -/
  settles : ∃ turns, ((unused hook).play (moves ++ List.replicate turns .turn)).Quiet ∧
    Settled hook ((unused hook).history (moves ++ List.replicate turns .turn))

/-- Whatever is done with a transport, where calls and hooks may submit other calls, and calls are run and waited for. -/
theorem accountable (hook : FailureHook) (moves : List Move) : Accountable hook moves := by
  have records := play_records hook moves
  refine ⟨history_entrusts .empty moves, records.accounts, fun move task drains => ?_, ?_, fun program => ?_, ?_⟩
  · have old := records.sound.bounded.running task (Assoc.mem_keys_iff.mpr ⟨_, drains⟩)
    exact (move_passage records.sound records.hook move).drains task old drains
  · obtain ⟨made, played, nobody⟩ := drain_turns records.sound
    exact ⟨made, played.trans (play_append _ _ _).symm, nobody⟩
  · obtain ⟨made, played⟩ := run_turns records.sound program
    exact ⟨made, played.trans (congrArg _ (play_append _ _ _).symm)⟩
  · obtain ⟨made, quiet⟩ := turns_quiet records.sound
    rw [turns_eq_play, ← play_append] at quiet
    exact ⟨made, quiet, quiet.settled (play_records hook _).accounts⟩

/-- A call that has ended is still pending until it has left: here another one is run meanwhile. -/
theorem pending_unfinished_fails : ¬ ∀ (hook : FailureHook) (moves : List Move),
    ((unused hook).play moves).scheduler.pending.length =
      ((submissions ((unused hook).history moves)).filter fun entry =>
        !((unused hook).play moves).scheduler.results.has entry.1).length := by
  intro always
  have counted := always .log
    [.submit (.mk "close" "A" [] 0 none []), .run (.mk "close" "B" [] 1 none []), .turn, .turn]
  exact absurd counted (by decide)

end Desk

end Transport
end TerminalDock
