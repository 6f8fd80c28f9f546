import TerminalDock.Proofs.DeskRecords

/-! What a move means for the calls of a transport: each is submitted, goes on or leaves, and the records stay right. -/

namespace TerminalDock.Transport
open Loop

namespace Desk
variable {informed : FailureHook} {first last : Desk} {task : TaskId} {rest : List Turn}

private theorem newcomers_eq (kept : List TaskId) (base : Nat) (programs : List Program)
    (old : ∀ task ∈ kept, task < first.scheduler.fresh)
    (pending : last.scheduler.pending = kept ++ (numbered base programs).map Prod.fst)
    (above : first.scheduler.fresh ≤ base)
    (found : ∀ entry ∈ numbered base programs, last.scheduler.running.find? entry.1 = some (.begin entry.2)) :
    newcomers first last = numbered base programs := by
  rw [newcomers, pending, List.filterMap_append]
  have nobody : kept.filterMap (fun task =>
      if first.scheduler.fresh ≤ task then
        ((last.scheduler.running.find? task).bind Activity.program?).map (task, ·)
      else none) = [] :=
    List.filterMap_eq_nil_iff.mpr fun task member => if_neg (Nat.not_le.mpr (old task member))
  rw [nobody, List.nil_append, List.filterMap_map]
  refine (List.filterMap_congr fun entry member => ?_).trans List.filterMap_some
  change (if first.scheduler.fresh ≤ entry.1 then _ else none) = some entry
  rw [if_pos (Nat.le_trans above (numbered_bounds member).1), found entry member]
  rfl

section Lives
variable {program : Program} {before : List Sight} {given : List (List Program)} {beat : Beat}

theorem Life.keep (life : first.Life informed task program before given)
    (running : last.scheduler.running.find? task = first.scheduler.running.find? task)
    (results : last.scheduler.results.find? task = first.scheduler.results.find? task) :
    last.Life informed task program before given := by
  cases life with
  | waiting found => exact .waiting (running.trans found)
  | resting found owed => exact .resting (running.trans found) owed
  | ended gone result told => exact .ended (running.trans gone) (results.trans result) told

theorem Life.apart (life : first.Life informed task program before given)
    (running : last.scheduler.running.find? task = first.scheduler.running.find? task)
    (results : last.scheduler.results.find? task = first.scheduler.results.find? task)
    (different : beat.worker ≠ some task) :
    last.Life informed task program (before ++ beat.toldOf task) (given ++ beat.handedOf task) := by
  rw [Beat.toldOf, if_neg different, List.append_nil, Beat.handedOf, if_neg different, List.append_nil]
  exact life.keep running results

theorem Life.told (life : last.Life informed task program (before ++ beat.seen) (given ++ [beat.submitted.map Prod.snd]))
    (same : beat.worker = some task) :
    last.Life informed task program (before ++ beat.toldOf task) (given ++ beat.handedOf task) := by
  rwa [Beat.toldOf, if_pos same, Beat.handedOf, if_pos same]

theorem Life.later (found : last.scheduler.running.find? task = some (.begin program))
    (different : beat.worker ≠ some task) :
    last.Life informed task program (beat.toldOf task) (beat.handedOf task) := by
  rw [Beat.toldOf, if_neg different, Beat.handedOf, if_neg different]
  exact .waiting found

end Lives

def popped (desk : Desk) (rest : List Turn) : Desk :=
  { desk with scheduler := { desk.scheduler with ready := rest } }

theorem turn_nil (next : first.scheduler.ready = []) : first.turn = first := by
  simp only [turn, Scheduler.next?, next]

theorem turn_resume (next : first.scheduler.ready = .resume task :: rest) :
    first.turn = (first.popped rest).resume task := by
  simp only [turn, Scheduler.next?, next, popped]

theorem turn_leave (next : first.scheduler.ready = .leave task :: rest) :
    first.turn = { first with scheduler := (first.popped rest).scheduler.leave task } := by
  simp only [turn, Scheduler.next?, next, popped]

theorem turn_arrive {group : Nat} (next : first.scheduler.ready = .arrive group :: rest) :
    first.turn = { first with scheduler := (first.popped rest).scheduler.arrive group } := by
  simp only [turn, Scheduler.next?, next, popped]

/-- No call has gone on. -/
structure Calm (who : Option TaskId) (first last : Desk) : Prop where
  sound : Sound none last.scheduler
  hook : last.hook = first.hook
  sights : last.sights = first.sights
  fresh : first.scheduler.fresh ≤ last.scheduler.fresh
  found : ∀ other, who ≠ some other → last.scheduler.running.find? other = first.scheduler.running.find? other ∧
    last.scheduler.results.find? other = first.scheduler.results.find? other
  waiting : last.waiting = first.waiting
  pending : last.scheduler.pending.Sublist first.scheduler.pending
  kept : ∀ task ∈ first.scheduler.pending, task ∈ last.scheduler.running.keys → task ∈ last.scheduler.pending

/-- Somebody who makes no call. -/
def Apart (desk : Desk) (who : Option TaskId) : Prop :=
  ∀ task, who = some task →
    desk.scheduler.fresh ≤ task ∨ desk.scheduler.running.find? task = some .drain

theorem Calm.beat {who : Option TaskId} (calm : Calm who first last) (sound : Sound none first.scheduler) :
    between first last who [] = ⟨who, [], [], []⟩ := by
  have nobody : newcomers first last = [] :=
    newcomers_eq last.scheduler.pending first.scheduler.fresh []
      (fun task member => sound.pending_old (calm.pending.subset member)) (List.append_nil _).symm (Nat.le_refl _)
      (List.forall_mem_nil _)
  rw [between, nobody, calm.sights, List.drop_length]

theorem Calm.passage {who : Option TaskId} (calm : Calm who first last) (sound : Sound none first.scheduler)
    (hook : first.hook = informed) (apart : first.Apart who)
    (known : ∀ task, who = some task → task < last.scheduler.fresh ∧ last.Drains task) :
    Passage informed first last (between first last who []) := by
  rw [calm.beat sound]
  refine {
    sound := calm.sound
    hook := calm.hook.trans hook
    fresh := calm.fresh
    worker := fun task same => (known task same).1
    numbers := List.forall_mem_nil _
    distinct := .nil
    old := fun task program before given older life => ?_
    new := List.forall_mem_nil _
    order := ⟨first.waiting, calm.waiting.trans (List.append_nil _).symm, .inl ?_⟩
    pending := calm.pending.trans (List.sublist_append_left _ _)
    kept := fun task member running => calm.kept task ?_ running
    gone := fun task older ended => (calm.found task fun same => ?_).imp_left (·.trans ended)
    drains := fun task older drains => ?_
    sights := calm.sights.trans (List.append_nil _).symm
    speaks := fun speaks => (speaks.elim (absurd rfl) fun submits => absurd rfl submits.2)
    callers := fun task calling => .inl ?_ }
  · have different : who ≠ some task := by
      intro same
      rcases apart task same with above | drains
      · exact Nat.lt_irrefl _ (Nat.lt_of_lt_of_le older above)
      · cases life with
        | waiting found | resting found => cases drains.symm.trans found
        | ended gone => cases drains.symm.trans gone
    obtain ⟨running, results⟩ := calm.found task different
    exact life.apart running results different
  · cases who <;> rfl
  · rwa [List.map_nil, List.append_nil] at member
  · rcases apart task same with above | drains
    · exact Nat.lt_irrefl _ (Nat.lt_of_lt_of_le older above)
    · cases drains.symm.trans ended
  · by_cases same : who = some task
    · exact (known task same).2
    · exact .inl ((calm.found task same).1.trans drains)
  · obtain ⟨job, found, calls⟩ := calling
    by_cases same : who = some task
    · rcases (known task same).2 with drains | ⟨gone, -⟩
      · cases found.symm.trans drains
        cases calls
      · cases found.symm.trans gone
    · exact ⟨job, (calm.found task same).1.symm.trans found, calls⟩

private theorem calm_refl (sound : Sound none first.scheduler) : Calm none first first :=
  ⟨sound, rfl, rfl, Nat.le_refl _, fun _ _ => ⟨rfl, rfl⟩, rfl, .refl _, fun _ member _ => member⟩

private theorem leave_calm (sound : Sound none first.scheduler) (next : first.scheduler.ready = .leave task :: rest) :
    Calm none first
      { first with scheduler := (first.popped rest).scheduler.leave task } where
  sound := sound.leave next
  hook := rfl
  sights := rfl
  fresh := Nat.le_refl _
  found _ _ := ⟨rfl, rfl⟩
  waiting := by
    rw [waiting, waiting, next]
    rfl
  pending := List.erase_sublist
  kept other member running := by
    have ended : task ∉ first.scheduler.running.keys :=
      sound.leaves.ended task (next ▸ List.mem_cons_self ..)
    exact (List.mem_erase_of_ne (ne_of_mem_of_not_mem running ended)).mpr member

private theorem arrive_calm (sound : Sound none first.scheduler) {group : Nat}
    (next : first.scheduler.ready = .arrive group :: rest) :
    Calm none first
      { first with scheduler := (first.popped rest).scheduler.arrive group } := by
  have running := (first.popped rest).scheduler.running_arrive group
  have results := (first.popped rest).scheduler.results_arrive group
  have pending := (first.popped rest).scheduler.pending_arrive group
  obtain ⟨more, ready, woken⟩ := (first.popped rest).scheduler.arrive_ready group
  refine {
    sound := sound.arrive next
    hook := rfl
    sights := rfl
    fresh := Nat.le_of_eq ((first.popped rest).scheduler.fresh_arrive group).symm
    found := fun other _ => ⟨congrArg (Assoc.find? other) running, congrArg (Assoc.find? other) results⟩
    waiting := ?_
    pending := pending ▸ .refl _
    kept := fun other member _ => pending.symm ▸ member }
  have same : ∀ turn, beginner? { first with scheduler := (first.popped rest).scheduler.arrive group } turn =
      first.beginner? turn := by
    intro turn
    cases turn with
    | resume other => rw [beginner?, running, beginner?, popped]
    | leave | arrive => rfl
  have nobody : more.filterMap first.beginner? = [] := by
    refine List.filterMap_eq_nil_iff.mpr fun turn member => ?_
    obtain ⟨waiter, waits, rfl⟩ := woken turn member
    rw [beginner?, sound.waiters waiter waits]
    rfl
  have kept : (first.popped rest).scheduler.ready = rest := rfl
  change ((first.popped rest).scheduler.arrive group).ready.filterMap _ = _
  rw [ready, List.filterMap_congr fun turn _ => same turn, List.filterMap_append, nobody, List.append_nil, kept, waiting,
    next]
  rfl

theorem resume_drain_calm (sound : Sound (some task) first.scheduler)
    (drains : first.scheduler.running.find? task = some .drain) : Calm (some task) first (first.resume task) := by
  rw [resume, drains]
  dsimp only
  split
  · have found {other : TaskId} (different : some task ≠ some other) :
        (first.scheduler.running.remove task).find? other = first.scheduler.running.find? other :=
      Assoc.find?_remove_of_ne (fun same => different (congrArg some same.symm)) _
    refine {
      sound := sound.finish true
      hook := rfl
      sights := rfl
      fresh := Nat.le_refl _
      found := fun other different => ⟨found different,
        Assoc.find?_put_of_ne (fun same => different (congrArg some same.symm)) _ _⟩
      waiting := ?_
      pending := .refl _
      kept := fun other member _ => member }
    refine waiting_after sound rfl (fun other different => found fun same => different (Option.some.inj same).symm)
      fun turn member => beginner?_calm fun other resumed => ?_
    exact sound.leaves.calm task other (resumed ▸ member)
  next some_left =>
    have pending : first.scheduler.pending ≠ [] := fun none => some_left (List.isEmpty_iff.mpr none)
    have running := first.scheduler.running_waitFor task first.scheduler.pending
    have results : (first.scheduler.waitFor task first.scheduler.pending).results = first.scheduler.results :=
      Scheduler.results_waitFor _ _
    have same : (first.scheduler.waitFor task first.scheduler.pending).pending = first.scheduler.pending :=
      Scheduler.pending_waitFor _ _
    obtain ⟨-, more, ready, arrives⟩ := first.scheduler.waitFor_turns task first.scheduler.pending
    refine {
      sound := sound.waitFor drains pending
      hook := rfl
      sights := rfl
      fresh := ?_
      found := fun other _ => ⟨congrArg (Assoc.find? other) running, congrArg (Assoc.find? other) results⟩
      waiting := ?_
      pending := ?_
      kept := fun other member _ => same.symm ▸ member }
    · rw [Dock.fresh_waitFor]
      exact Nat.le_succ _
    · refine waiting_after sound ready (fun other _ => congrArg (Assoc.find? other) running)
        fun turn member => beginner?_calm fun other resumed => ?_
      cases resumed.symm.trans (arrives turn member)
    · rw [same]

private theorem resume_drains (sound : Sound (some task) first.scheduler)
    (drains : first.scheduler.running.find? task = some .drain) : (first.resume task).Drains task := by
  rw [resume, drains]
  dsimp only
  split
  next nobody =>
    exact .inr ⟨Assoc.find?_remove_self sound.bounded.unique, Assoc.find?_put_self _ _ _, List.isEmpty_iff.mp nobody⟩
  · exact .inl ((congrArg (Assoc.find? task) (Scheduler.running_waitFor _ _ _)).trans drains)

/-- Notices alone do not begin a call. -/
theorem begins_noticed (who : Option TaskId) (notices : List Notice) (direct submitted : List (TaskId × Program)) :
    Beat.begins ⟨who, notices.map .noticed, direct, submitted⟩ = none := by
  cases who with
  | none => rfl
  | some task => cases notices <;> rfl

private theorem popped_waiting {turn : Turn} (next : first.scheduler.ready = turn :: rest) :
    first.waiting = (first.beginner? turn).toList ++
      (first.popped rest).waiting := by
  rw [waiting, next, List.filterMap_cons]
  cases first.beginner? turn <;> rfl

private theorem call_passage (sound : Sound none first.scheduler) (hook : first.hook = informed)
    (next : first.scheduler.ready = .resume task :: rest) {activity : Activity}
    (found : first.scheduler.running.find? task = some activity) (calls : activity.calls = true)
    (turned : last = (first.popped rest).resume task) :
    Passage informed first last (between first last (some task) []) := by
  have working : Sound (some task) (first.popped rest).scheduler := sound.pop next
  obtain ⟨program, before, said, owed, notices, programs, works, began⟩ := resume_worked working hook found calls
  rw [← turned] at works
  have sights : last.sights = first.sights ++ (said ++ notices.map .noticed) := works.sights
  have fresh : last.scheduler.fresh = first.scheduler.fresh + programs.length := works.fresh
  have pending : last.scheduler.pending = first.scheduler.pending ++
    (numbered first.scheduler.fresh programs).map Prod.fst :=
    works.pending
  have seen : last.sights.drop first.sights.length = said ++ notices.map .noticed := by
    rw [sights]
    exact List.drop_left
  have newcomers : newcomers first last = numbered first.scheduler.fresh programs :=
    newcomers_eq first.scheduler.pending _ programs (fun _ => sound.pending_old) pending (Nat.le_refl _) works.entered
  have older := sound.bounded.running task (sound.present next)
  have apart {entry : Nat × Program} (member : entry ∈ numbered first.scheduler.fresh programs) : task ≠ entry.1 :=
    Nat.ne_of_lt (Nat.lt_of_lt_of_le older (numbered_bounds member).1)
  rw [between, seen, newcomers]
  refine {
    sound := works.sound
    hook := works.hook.symm ▸ hook
    fresh := fresh ▸ Nat.le_add_right _ _
    worker := fun other same => ?_
    numbers := fun entry member => ?_
    distinct := numbered_nodup _ _
    old := fun other program' before' given old lives => ?_
    new := fun entry member => ?_
    order := ⟨_, works.waiting, .inl ?_⟩
    pending := pending ▸ .refl _
    kept := fun other member _ => pending ▸ member
    gone := fun other old ended => (works.others other ?_ old).imp_left (·.trans ended)
    drains := fun other old drains => .inl ((works.others other ?_ old).1.trans drains)
    sights := sights
    speaks := fun _ => ⟨task, rfl, .inr ⟨activity, found, calls⟩⟩
    callers := fun other calling => ?_ }
  · cases same
    exact fresh ▸ Nat.lt_of_lt_of_le older (Nat.le_add_right _ _)
  · exact fresh ▸ numbered_bounds member
  · by_cases here : other = task
    · subst here
      obtain ⟨rfl, rfl, whole⟩ : program' = program ∧ before' = before ∧ given ++ owed = program.stints := by
        rcases began with ⟨rfl, rfl, -, rfl⟩ | ⟨⟨submits, later, rfl, rfl⟩, rfl, -⟩ <;> cases lives with
          | waiting there => cases found.symm.trans there <;> exact ⟨rfl, rfl, rfl⟩
          | resting there owed => cases found.symm.trans there <;> exact ⟨rfl, rfl, owed⟩
          | ended gone => cases found.symm.trans gone
      have life := works.life given whole
      rw [← numbered_programs first.scheduler.fresh programs] at life
      exact life.told rfl
    · obtain ⟨running, results⟩ := works.others other here old
      exact lives.apart running results fun same => here (Option.some.inj same).symm
  · exact Life.later (works.entered entry member) fun same => apart member (Option.some.inj same)
  · rw [popped_waiting next, beginner?, found]
    rcases began with ⟨rfl, -, rfl, -⟩ | ⟨⟨submits, later, rfl, -⟩, -, rfl⟩
    · rfl
    · rw [List.nil_append, begins_noticed]
      rfl
  · rintro rfl
    cases found.symm.trans ended
  · rintro rfl
    cases found.symm.trans drains
    cases calls
  · obtain ⟨job, there, calling⟩ := calling
    by_cases here : other = task
    · exact .inl (here ▸ ⟨activity, found, calls⟩)
    · by_cases old : other < first.scheduler.fresh
      · exact .inl ⟨job, (works.others other here old).1.symm.trans there, calling⟩
      · have below := works.sound.bounded.running other (Assoc.mem_keys_iff.mpr ⟨job, there⟩)
        exact .inr (mem_numbered (Nat.not_lt.mp old) (fresh ▸ below))

theorem run_passage (sound : Sound none first.scheduler) (hook : first.hook = informed) (program : Program) :
    Passage informed first (first.undertake (.begin program))
      (between first (first.undertake (.begin program)) (some first.scheduler.fresh)
        [(first.scheduler.fresh, program)]) := by
  have working : Sound (some first.scheduler.fresh) (first.opened (.begin program)).scheduler := sound.create _
  have found : (first.opened (.begin program)).scheduler.running.find? first.scheduler.fresh = some (.begin program) :=
    Assoc.find?_put_self _ _ _
  have others {other : TaskId} (old : other < first.scheduler.fresh) :
      (first.opened (.begin program)).scheduler.running.find? other = first.scheduler.running.find? other :=
    Assoc.find?_put_of_ne (Nat.ne_of_lt old) _ _
  obtain ⟨_, before, said, owed, notices, programs, works, ⟨same, rfl, rfl, rfl⟩ | ⟨⟨submits, later, same, -⟩, -⟩⟩ :=
    resume_worked working hook found rfl
  case inr => cases same
  cases same
  change Worked _ _ _ _ _ _ _ _ _ (first.undertake (.begin program)) at works
  generalize first.undertake (.begin program) = last at works ⊢
  have sights : last.sights = first.sights ++ ([.called program.call program.session] ++ notices.map .noticed) :=
    works.sights
  have fresh : last.scheduler.fresh = first.scheduler.fresh + 1 + programs.length := works.fresh
  have pending : last.scheduler.pending =
      first.scheduler.pending ++ (numbered (first.scheduler.fresh + 1) programs).map Prod.fst := works.pending
  have seen : last.sights.drop first.sights.length =
      [.called program.call program.session] ++ notices.map .noticed := by
    rw [sights]
    exact List.drop_left
  have newcomers : newcomers first last = numbered (first.scheduler.fresh + 1) programs :=
    newcomers_eq first.scheduler.pending _ programs (fun _ => sound.pending_old) pending (Nat.le_succ _) works.entered
  have waited : (first.opened (.begin program)).waiting = first.waiting :=
    filterMap_beginner fun task member => others (sound.bounded.ready _ member)
  have grown : first.scheduler.fresh < last.scheduler.fresh :=
    fresh ▸ Nat.lt_of_lt_of_le (Nat.lt_succ_self _) (Nat.le_add_right _ _)
  rw [between, seen, newcomers]
  refine {
    sound := works.sound
    hook := works.hook.symm ▸ hook
    fresh := Nat.le_of_lt grown
    worker := fun other same => Option.some.inj same ▸ grown
    numbers := List.forall_mem_cons.mpr ⟨⟨Nat.le_refl _, grown⟩, fun entry member => ?_⟩
    distinct := List.nodup_cons.mpr ⟨fun member => ?_, numbered_nodup _ _⟩
    old := fun other program' before' given old lives => ?_
    new := List.forall_mem_cons.mpr ⟨?_, fun entry member => ?_⟩
    order := ⟨_, works.waiting, .inr ⟨waited.symm, first.scheduler.fresh, rfl, Nat.le_refl _, fun member => ?_⟩⟩
    pending := pending ▸ .refl _
    kept := fun other member _ => pending ▸ member
    gone := fun other old ended => ?_
    drains := fun other old drains => ?_
    sights := sights
    speaks := fun _ => ⟨_, rfl, .inl (List.mem_singleton_self _)⟩
    callers := fun other calling => ?_ }
  · obtain ⟨above, below⟩ := numbered_bounds member
    exact ⟨Nat.le_trans (Nat.le_succ _) above, fresh ▸ below⟩
  · obtain ⟨entry, inside, same⟩ := List.mem_map.mp member
    exact Nat.not_succ_le_self _ (same ▸ (numbered_bounds inside).1)
  · have different : other ≠ first.scheduler.fresh := Nat.ne_of_lt old
    obtain ⟨running, results⟩ := works.others other different (Nat.lt_succ_of_lt old)
    exact lives.apart (running.trans (others old)) results fun same => different (Option.some.inj same).symm
  · have life := works.life [] rfl
    rw [← numbered_programs (first.scheduler.fresh + 1) programs] at life
    rw [← List.nil_append (Beat.toldOf _ _), ← List.nil_append (Beat.handedOf _ _)]
    exact life.told rfl
  · have above := (numbered_bounds member).1
    exact Life.later (works.entered entry member) fun same => Nat.not_succ_le_self _ ((Option.some.inj same).symm ▸ above)
  · obtain ⟨entry, inside, same⟩ := List.mem_map.mp member
    exact Nat.not_succ_le_self _ (same ▸ (numbered_bounds inside).1)
  · obtain ⟨running, results⟩ := works.others other (Nat.ne_of_lt old) (Nat.lt_succ_of_lt old)
    exact ⟨running.trans ((others old).trans ended), results⟩
  · have running := (works.others other (Nat.ne_of_lt old) (Nat.lt_succ_of_lt old)).1
    exact .inl (running.trans ((others old).trans drains))
  · obtain ⟨job, there, calling⟩ := calling
    rcases Nat.lt_trichotomy other first.scheduler.fresh with old | rfl | new
    · have running := (works.others other (Nat.ne_of_lt old) (Nat.lt_succ_of_lt old)).1
      exact .inl ⟨job, (running.trans (others old)).symm.trans there, calling⟩
    · exact .inr (List.mem_cons_self ..)
    · have below := works.sound.bounded.running other (Assoc.mem_keys_iff.mpr ⟨job, there⟩)
      exact .inr (List.mem_cons_of_mem _ (mem_numbered new (fresh ▸ below)))

private theorem submit_beat (sound : Sound none first.scheduler) (program : Program) :
    between first (first.submit program) none [] = ⟨none, [], [], [(first.scheduler.fresh, program)]⟩ := by
  have submitted : Submitted first.scheduler [program] (first.submit program).scheduler := .one sound.bounded program
  have silent : (first.submit program).sights = first.sights := rfl
  have newcomers : newcomers first (first.submit program) = numbered first.scheduler.fresh [program] :=
    newcomers_eq first.scheduler.pending _ _ (fun _ => sound.pending_old) submitted.pending (Nat.le_refl _)
      (submitted.found_new sound.bounded)
  rw [between, newcomers, silent, List.drop_length]
  rfl

private theorem submit_passage (sound : Sound none first.scheduler) (hook : first.hook = informed) (program : Program) :
    Passage informed first (first.submit program) (between first (first.submit program) none []) := by
  have kept : Sound none (first.submit program).scheduler := sound.submit program
  have submitted : Submitted first.scheduler [program] (first.submit program).scheduler := .one sound.bounded program
  have same : (first.submit program).hook = first.hook := rfl
  have silent : (first.submit program).sights = first.sights := rfl
  rw [submit_beat sound program]
  generalize first.submit program = last at kept submitted same silent ⊢
  refine {
    sound := kept
    hook := same.symm ▸ hook
    fresh := submitted.fresh ▸ Nat.le_add_right _ _
    worker := nofun
    numbers := fun entry member => submitted.fresh ▸ numbered_bounds member
    distinct := numbered_nodup first.scheduler.fresh [program]
    old := fun other program' before given older lives => ?_
    new := fun entry member => Life.later (submitted.found_new sound.bounded entry member) nofun
    order := ⟨first.waiting, waiting_submitted submitted sound.bounded, .inl rfl⟩
    pending := submitted.pending ▸ .refl _
    kept := fun other member _ => submitted.pending ▸ member
    gone := fun other older ended =>
      ⟨(submitted.found_old older).trans ended, congrArg (Assoc.find? other) submitted.results⟩
    drains := fun other older drains => .inl ((submitted.found_old older).trans drains)
    sights := silent.trans (List.append_nil _).symm
    speaks := fun speaks => (speaks.elim (absurd rfl) fun submits => absurd rfl submits.1)
    callers := fun other ⟨job, there, calling⟩ => ?_ }
  · exact lives.apart (submitted.found_old older) (congrArg (Assoc.find? other) submitted.results) nofun
  · by_cases old : other < first.scheduler.fresh
    · exact .inl ⟨job, (submitted.found_old old).symm.trans there, calling⟩
    · have below := kept.bounded.running other (Assoc.mem_keys_iff.mpr ⟨job, there⟩)
      have new : other ∈ (numbered first.scheduler.fresh [program]).map Prod.fst :=
        mem_numbered (Nat.not_lt.mp old) (submitted.fresh ▸ below)
      exact .inr new

theorem undertake_drains (sound : Sound none first.scheduler) :
    (first.undertake .drain).Drains first.scheduler.fresh := by
  have working : Sound (some first.scheduler.fresh) (first.opened .drain).scheduler := sound.create _
  exact resume_drains working (Assoc.find?_put_self _ _ _)

private theorem undertake_drain_calm (sound : Sound none first.scheduler) :
    Calm (some first.scheduler.fresh) first (first.undertake .drain) := by
  have working : Sound (some first.scheduler.fresh) (first.opened .drain).scheduler := sound.create _
  have calm := resume_drain_calm working (Assoc.find?_put_self _ _ _)
  have others {other : TaskId} (different : some first.scheduler.fresh ≠ some other) :
      (first.opened .drain).scheduler.running.find? other = first.scheduler.running.find? other :=
    Assoc.find?_put_of_ne (fun same => different (congrArg some same.symm)) _ _
  have waited : (first.opened .drain).waiting = first.waiting :=
    filterMap_beginner fun task member =>
      others fun same => Nat.lt_irrefl _ (Option.some.inj same ▸ sound.bounded.ready _ member)
  have grown := calm.fresh
  exact {
    sound := calm.sound
    hook := calm.hook
    sights := calm.sights
    fresh := Nat.le_trans (Nat.le_succ _) grown
    found := fun other different => ⟨(calm.found other different).1.trans (others different), (calm.found other different).2⟩
    waiting := calm.waiting.trans waited
    pending := calm.pending
    kept := calm.kept }

theorem drain_passage (sound : Sound none first.scheduler) (hook : first.hook = informed) :
    Passage informed first (first.undertake .drain)
      (between first (first.undertake .drain) (some first.scheduler.fresh) []) := by
  have calm := undertake_drain_calm sound
  refine calm.passage sound hook (fun task same => .inl (Option.some.inj same ▸ Nat.le_refl _)) fun task same => ?_
  cases same
  have working : Sound (some first.scheduler.fresh) (first.opened .drain).scheduler := sound.create _
  exact ⟨(resume_drain_calm working (Assoc.find?_put_self _ _ _)).fresh, undertake_drains sound⟩

private theorem turn_idle_calm (sound : Sound none first.scheduler) (nobody : first.worker? .turn = none) :
    Calm none first first.turn := by
  cases next : first.scheduler.ready with
  | nil =>
    rw [turn_nil next]
    exact calm_refl sound
  | cons turn rest =>
    cases turn with
    | leave task =>
      rw [turn_leave next]
      exact leave_calm sound next
    | arrive group =>
      rw [turn_arrive next]
      exact arrive_calm sound next
    | resume task =>
      simp only [worker?, next] at nobody
      cases nobody

theorem turn_passage (sound : Sound none first.scheduler) (hook : first.hook = informed) :
    Passage informed first first.turn (between first first.turn (first.worker? .turn) []) := by
  have nobody (who : first.worker? .turn = none) :
      Passage informed first first.turn (between first first.turn (first.worker? .turn) []) :=
    who ▸ (turn_idle_calm sound who).passage sound hook nofun nofun
  cases next : first.scheduler.ready with
  | nil => exact nobody (by simp only [worker?, next])
  | cons turn rest =>
    cases turn with
    | leave | arrive => exact nobody (by simp only [worker?, next])
    | resume task =>
      have who : first.worker? .turn = some task := by simp only [worker?, next]
      obtain ⟨activity, found⟩ := Assoc.mem_keys_iff.mp (sound.present next)
      rw [who]
      by_cases calls : activity.calls = true
      · exact call_passage sound hook next found calls (turn_resume next)
      · obtain rfl : activity = .drain := by
          cases activity with
          | drain => rfl
          | begin | rest => exact absurd rfl calls
        have working : Sound (some task) (first.popped rest).scheduler := sound.pop next
        have calm := resume_drain_calm working found
        have drained := resume_drains working found
        have waited : (first.popped rest).waiting = first.waiting := by
          rw [popped_waiting next, beginner?, found]
          rfl
        rw [← turn_resume next] at calm drained
        have calm : Calm (some task) first first.turn := { calm with waiting := calm.waiting.trans waited }
        refine calm.passage sound hook (fun other same => .inr (Option.some.inj same ▸ found)) fun other same => ?_
        cases same
        exact ⟨Nat.lt_of_lt_of_le (sound.bounded.running task (sound.present next)) calm.fresh, drained⟩

/-- Whatever is done, the calls go on as the records say. -/
theorem move_passage (sound : Sound none first.scheduler) (hook : first.hook = informed) (move : Move) :
    Passage informed first (first.move move) (first.beat move) := by
  cases move with
  | submit program => exact submit_passage sound hook program
  | run program => exact run_passage sound hook program
  | drain => exact drain_passage sound hook
  | turn => exact turn_passage sound hook

end Desk

/-- What a move gives to be done: a call that is submitted, or one that is run. All else is submitted by those who are at
work. -/
inductive Move.Entrusts : Move → Beat → Prop
  | submit (task : TaskId) (program : Program) : Entrusts (.submit program) ⟨none, [], [], [(task, program)]⟩
  | run (task : TaskId) (program : Program) (seen : List Sight) (submitted : List (TaskId × Program)) :
    Entrusts (.run program) ⟨some task, seen, [(task, program)], submitted⟩
  | drain (task : TaskId) : Entrusts .drain ⟨some task, [], [], []⟩
  | idle : Entrusts .turn ⟨none, [], [], []⟩
  | turn (task : TaskId) (seen : List Sight) (submitted : List (TaskId × Program)) :
    Entrusts .turn ⟨some task, seen, [], submitted⟩

namespace Desk
variable {first : Desk}

private theorem beat_entrusts (sound : Sound none first.scheduler) (move : Move) : move.Entrusts (first.beat move) := by
  cases move with
  | submit program =>
    rw [beat, worker?, direct]
    exact submit_beat sound program ▸ .submit ..
  | run program => exact .run ..
  | drain =>
    rw [beat, worker?, direct]
    exact (undertake_drain_calm sound).beat sound ▸ .drain ..
  | turn =>
    rw [beat, direct]
    cases who : first.worker? .turn with
    | none => exact (turn_idle_calm sound who).beat sound ▸ .idle
    | some task => exact .turn ..

theorem history_entrusts (sound : Sound none first.scheduler) (moves : List Move) :
    List.Forall₂ Move.Entrusts moves (first.history moves) := by
  induction moves generalizing first with
  | nil => exact .nil
  | cons move later ih => exact .cons (beat_entrusts sound move) (ih (move_passage sound rfl move).sound)

end Desk

namespace Records
variable {informed : FailureHook} {beats : List Beat} {desk : Desk}

theorem empty (hook : FailureHook) : Records hook [] (.unused hook) where
  sound := .empty
  hook := rfl
  sights := rfl
  known := List.forall_mem_nil _
  distinct := .nil
  workers := List.forall_mem_nil _
  lives := List.forall_mem_nil _
  order := rfl
  pending := List.Sublist.refl _
  kept := List.forall_mem_nil _
  speakers := List.forall_mem_nil _
  callers _ calling := absurd calling.choose_spec.1 nofun

theorem play (records : Records informed beats desk) (moves : List Move) :
    Records informed (beats ++ desk.history moves) (desk.play moves) := by
  induction moves generalizing beats desk with
  | nil => exact (List.append_nil beats).symm ▸ records
  | cons move later ih =>
    have rest := ih (records.snoc (Desk.move_passage records.sound records.hook move))
    rwa [List.append_assoc] at rest

end Records

theorem Desk.play_records (hook : FailureHook) (moves : List Move) :
    Records hook ((unused hook).history moves) ((unused hook).play moves) :=
  (Records.empty hook).play moves

end TerminalDock.Transport
