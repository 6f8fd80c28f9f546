import TerminalDock.Proofs.BeatSteps
import TerminalDock.Proofs.OpenLock

/-! Turns and the lock of opening. Whatever is asked for, and whoever goes on, between turns the lock is as it should be:
at most one task waits for the first process of the panel, and nobody is forgotten who waits for the lock. -/

namespace TerminalDock
open Proofs.Steps

namespace Dock
variable {β : Type} {who owner : Option Loop.TaskId} {task : Loop.TaskId} {dock : Dock β}

namespace Gated

theorem rules (task : Loop.TaskId) (owner : Option Loop.TaskId) :
    EndRules (fun stage : Stage β => stage.waiting = false) task
      (fun first last => first.Gated (some task) owner → last.Gated (some task) owner)
      fun first last => first.Gated (some task) owner → owner ≠ some task → last.Fair where
  refl _ := id
  trans before later := later ∘ before
  follow before later gated := later (before gated)
  see _ _ _ gated := gated.see _
  start _ _ label eager gated := gated.start label eager
  conclude _ result gated apart := (gated.conclude apart result).fair
  await _ tasks _ gathers gated apart := (gated.gather apart gathers tasks).fair

theorem sweep (gated : dock.Gated (some task) owner) (apart : owner ≠ some task) (drainAfter : Bool) :
    (dock.sweep task drainAfter).Fair := by
  unfold Dock.sweep
  dsimp only
  split
  · split
    · exact (rules task owner).drain dock _ gated apart
    · exact (gated.conclude apart _).fair
  · have eager : ∀ stage ∈ dock.panel.registry.sessions.keys.map fun id => (Stage.call (.close id) : Stage β),
        stage.waiting = false :=
      List.forall_mem_map.mpr fun _ _ => rfl
    have started := (rules task owner).startAll _ eager (gated.change Panel.swept)
    exact (rules task owner).waitFor _ rfl ((rules task owner).endSweep _ _ _) started apart

private theorem release_works (gated : dock.Gated (some task) owner) (apart : owner ≠ some task) :
    (dock.release task).Fair := by
  unfold Dock.release
  split
  · exact (gated.conclude apart _).fair
  next first rest held => exact ((gated.release (held ▸ .refl _)).conclude apart _).fair

theorem followUp (gated : dock.Gated (some task) owner) {cwd : String} {purpose : Purpose}
    (owns : (Stage.spawning cwd purpose : Stage β).flies = true ↔ owner = some task) (made : Except Failure Session) :
    (dock.followUp task purpose made).Fair := by
  have apart (plain : (Stage.spawning cwd purpose : Stage β).flies = false) : owner ≠ some task := by
    intro mine
    rw [owns.mpr mine] at plain
    cases plain
  cases purpose with
  | create => exact (gated.conclude (apart rfl) _).fair
  | addTab previous => exact ((gated.settle made previous).conclude (apart rfl) _).fair
  | addSession previous =>
    have settled := gated.settle made previous
    cases made with
    | ok session => exact (settled.conclude (apart rfl) _).fair
    | error failure =>
      cases failure with
      | spawn place reason => exact ((settled.log _).conclude (apart rfl) _).fair
      | _ => exact (settled.conclude (apart rfl) _).fair
  | openPanel previous =>
    obtain rfl : owner = some task := owns.mp rfl
    have settled := gated.settle made previous
    cases made with
    | ok session => exact (settled.change _).concludeOpen _
    | error failure =>
      cases failure with
      | spawn place reason => exact (settled.log _).concludeOpen _
      | _ => exact settled.concludeOpen _

variable [SessionBackend β]

theorem beginCall (gated : dock.Gated (some task) owner) (apart : owner ≠ some task) (call : BackendCall) :
    (dock.beginCall task call).Fair := by
  rcases answer : SessionBackend.begin call dock.backend with ⟨progress, records, backend⟩
  have begun : ({ dock.see [.calling call] with backend := backend }.log records : Dock β).Gated (some task) owner :=
    gated.of_alike rfl rfl rfl
  simp only [Dock.beginCall, show (dock.see [.calling call]).backend = dock.backend from rfl, answer]
  cases progress with
  | ended failure => exact (rules task owner).concludeCall _ call failure [] begun apart
  | later failure more => exact (begun.linger apart call failure more).fair

theorem endSpawn (gated : dock.Gated (some task) owner) {cwd : String} {purpose : Purpose}
    (owns : (Stage.spawning cwd purpose : Stage β).flies = true ↔ owner = some task) :
    (dock.endSpawn task cwd purpose).Fair := by
  rcases answer : SessionBackend.spawn cwd dock.backend with ⟨spawned, records, backend⟩
  have asked : ({ dock with backend := backend }.log records : Dock β).Gated (some task) owner := gated.of_alike rfl rfl rfl
  simp only [Dock.endSpawn, answer]
  exact (asked.onPanel _).followUp owns _

theorem beginSpawn (gated : dock.Gated (some task) owner) (cwd : String) {purpose : Purpose}
    (owns : (Stage.spawning cwd purpose : Stage β).flies = true ↔ owner = some task) :
    (dock.beginSpawn task cwd purpose).Fair := by
  rcases answer : SessionBackend.ask cwd dock.backend with ⟨wait, records, backend⟩
  have asked : ({ dock.see [.spawning cwd] with backend := backend }.log records : Dock β).Gated (some task) owner :=
    gated.of_alike rfl rfl rfl
  simp only [Dock.beginSpawn, show (dock.see [.spawning cwd]).backend = dock.backend from rfl, answer]
  split
  · exact (asked.hold cwd purpose owns).fair
  · exact asked.endSpawn owns

theorem openLocked (gated : dock.Gated (some task) (some task)) : (dock.openLocked task).Fair := by
  unfold Dock.openLocked
  split
  · exact gated.concludeOpen _
  · split
    · exact gated.beginSpawn _ ⟨fun _ => rfl, fun _ => rfl⟩
    · exact (gated.onPanel Panel.reveal).concludeOpen _

theorem beginOpen (gated : dock.Gated (some task) owner) (apart : owner ≠ some task) : (dock.beginOpen task).Fair := by
  unfold Dock.beginOpen
  split
  next busy =>
    refine (gated.queue apart ?_).fair
    rw [Bool.or_eq_true, Bool.not_eq_true', List.isEmpty_eq_false_iff] at busy
    exact busy
  next idle =>
    rw [Bool.or_eq_true, Bool.not_eq_true', List.isEmpty_eq_false_iff, not_or, not_not, Bool.not_eq_true] at idle
    exact (gated.take idle.1 idle.2).openLocked

theorem begins (gated : dock.Gated (some task) owner) (apart : owner ≠ some task) (request : Request β) :
    (dock.begin task request).Fair := by
  have performed {act : PanelStep Answer} (_ : Panel.perform? request = some act) :
      ((dock.onPanel act).2.conclude task (dock.onPanel act).1).Fair :=
    ((gated.onPanel act).conclude apart _).fair
  have spawns (cwd : String) {purpose : Purpose} (plain : (Stage.spawning cwd purpose : Stage β).flies = false) :
      (dock.beginSpawn task cwd purpose).Fair := by
    refine gated.beginSpawn cwd ⟨fun flies => ?_, fun mine => absurd mine apart⟩
    rw [plain] at flies
    cases flies
  cases request with
  | openPanel => exact gated.beginOpen apart
  | toggle =>
    simp only [Dock.begin]
    split
    · exact ((gated.change Panel.hide).conclude apart _).fair
    · exact gated.beginOpen apart
  | add cwd => exact spawns _ rfl
  | addTab cwd => exact spawns cwd rfl
  | create cwd => exact spawns cwd rfl
  | closeAll => exact gated.sweep apart false
  | shutdown => exact gated.sweep apart true
  | drain => exact (rules task owner).drain dock _ gated apart
  | release => exact gated.release_works apart
  | adjust change =>
    have adjusted : ({ dock with backend := change dock.backend } : Dock β).Gated (some task) owner :=
      gated.of_alike rfl rfl rfl
    exact (adjusted.conclude apart _).fair
  | background name request =>
    have eager : (Stage.begin request).waiting = false := rfl
    exact ((gated.start (some name) eager).conclude apart _).fair
  | gather requests =>
    have eager : ∀ stage ∈ requests.map Stage.begin, stage.waiting = false :=
      List.forall_mem_map.mpr fun _ _ => rfl
    have started := (rules task owner).startAll dock eager gated
    simp only [Dock.begin]
    exact (rules task owner).waitFor _ rfl ((rules task owner).conclude _ _) started apart
  | _ =>
    have gated := performed rfl
    exact gated

theorem resume (gated : dock.Gated none owner) {rest : List Loop.Turn} {job : Job β}
    (ready : dock.scheduler.ready = .resume task :: rest) (found : dock.scheduler.running.find? task = some job) :
    ((dock.popped rest).resume task).Fair := by
  obtain ⟨stage, label⟩ := job
  have during (kind : Stage β → Bool) : dock.During kind task ↔ kind stage = true := during_of_found found
  have goes (plain : stage.queues = false) : (dock.popped rest).Gated (some task) owner := by
    refine gated.resumes ready fun queues => ?_
    rw [during, plain] at queues
    cases queues
  have apart (calm : stage.flies = false) : owner ≠ some task := by
    refine gated.apart fun flies => ?_
    rw [during, calm] at flies
    cases flies
  have turned : (dock.popped rest).scheduler.running.find? task = some ⟨stage, label⟩ := found
  simp only [Dock.resume, turned]
  cases stage with
  | begin request => exact (goes rfl).begins (apart rfl) request
  | call call => exact (goes rfl).beginCall (apart rfl) call
  | callEnding call failure records => exact (rules task owner).concludeCall _ call failure records (goes rfl) (apart rfl)
  | spawning cwd purpose =>
    exact (goes rfl).endSpawn ((during Stage.flies).symm.trans (gated.owns task (Option.some_ne_none task).symm))
  | queued => exact (gated.enters ready ((during Stage.queues).mpr rfl)).2.openLocked
  | sweeping calls drainAfter => exact (rules task owner).endSweep _ calls drainAfter (goes rfl) (apart rfl)
  | draining answer => exact (rules task owner).drain _ answer (goes rfl) (apart rfl)
  | gathering tasks => exact ((goes rfl).conclude (apart rfl) _).fair

omit [SessionBackend β] in
theorem created (gated : dock.Gated none owner) (job : Job β) :
    ({ dock with scheduler := (dock.scheduler.create job).2 } : Dock β).Gated (some dock.scheduler.fresh) owner ∧
      owner ≠ some dock.scheduler.fresh := by
  have fresh := gated.fresh
  have unowned : owner ≠ some dock.scheduler.fresh :=
    gated.apart fun flies => fresh flies.running
  have keys (other : Loop.TaskId) : other ∈ (dock.scheduler.create job).2.running.keys ↔
      other = dock.scheduler.fresh ∨ other ∈ dock.scheduler.running.keys := by
    refine ⟨Assoc.mem_keys_put, fun member => ?_⟩
    rcases member with rfl | old
    · exact Assoc.mem_keys_iff.mpr ⟨job, Assoc.find?_put_self _ _ _⟩
    · exact Assoc.keys_subset_put _ _ _ old
  have during {kind : Stage β → Bool} (other : Loop.TaskId) (older : some dock.scheduler.fresh ≠ some other) :
      ({ dock with scheduler := (dock.scheduler.create job).2 } : Dock β).During kind other ↔ dock.During kind other := by
    have put : (dock.scheduler.create job).2.running = dock.scheduler.running.put dock.scheduler.fresh job := rfl
    rw [during_put put, if_neg fun same => older (congrArg some same.symm)]
  have apart {other : Loop.TaskId} (member : other ∈ dock.scheduler.running.keys) :
      some dock.scheduler.fresh ≠ some other := fun same => fresh (Option.some.inj same ▸ member)
  refine ⟨⟨gated.bounded.create job, gated.leaves.create gated.bounded job, fun other mine => ?_, fun other => ?_,
    gated.distinct, fun other => ?_, fun other member => ?_, fun other member => ?_, gated.taken,
      fun other older => ?_⟩, unowned⟩
  · exact (keys other).mpr (.inl (Option.some.inj mine).symm)
  · refine (gated.once other).trans (if_congr ?_ rfl rfl)
    change _ ↔ other ∈ (dock.scheduler.create job).2.running.keys ∧ _
    rw [keys]
    constructor
    · exact fun there => ⟨.inr there.1, apart there.1⟩
    · exact fun there => ⟨there.1.resolve_left fun same => there.2 (congrArg some same.symm),
        (Option.some_ne_none other).symm⟩
  · refine (gated.queued other).trans ⟨fun waits => ?_, fun waits => ?_⟩
    · have older := apart waits.2.running
      exact ⟨older, (during other older).mpr waits.2⟩
    · exact ⟨(Option.some_ne_none other).symm, (during other waits.1).mp waits.2⟩
  · have waits := gated.held other member
    exact (during other (apart waits.running)).mpr waits
  · have waits := gated.waiters other member
    exact (during other (apart waits.running)).mpr waits
  · exact (during other older).trans (gated.owns other (Option.some_ne_none other).symm)

end Gated

namespace Fair

theorem arrive (fair : dock.Fair) (group : Nat) :
    ({ dock with scheduler := dock.scheduler.arrive group } : Dock β).Fair := by
  obtain ⟨owner, gated⟩ := fair
  have running := dock.scheduler.running_arrive group
  have during {kind : Stage β → Bool} (task : Loop.TaskId) :
      ({ dock with scheduler := dock.scheduler.arrive group } : Dock β).During kind task ↔ dock.During kind task :=
    during_alike running task
  refine ⟨owner, ⟨gated.bounded.arrive group, gated.leaves.arrive group, running.symm ▸ gated.working, fun task => ?_,
    gated.distinct, fun task => ?_, fun task member => ?_, fun task member => ?_, gated.taken, fun task mine => ?_⟩⟩
  · change (dock.scheduler.arrive group).summons task + _ + _ = if task ∈ (dock.scheduler.arrive group).running.keys ∧
      _ then _ else _
    rw [Loop.Scheduler.summons_arrive, running]
    exact gated.once task
  · rw [during]
    exact gated.queued task
  · exact (during task).mpr (gated.held task member)
  · exact (during task).mpr (gated.waiters task (Loop.Scheduler.waiters_arrive _ _ task member))
  · rw [during]
    exact gated.owns task mine

variable [SessionBackend β]

theorem turn (fair : dock.Fair) : dock.turn.Fair := by
  obtain ⟨owner, gated⟩ := fair
  unfold Dock.turn Loop.Scheduler.next?
  cases ready : dock.scheduler.ready with
  | nil => exact gated.fair
  | cons turn rest =>
    cases turn with
    | resume task =>
      obtain ⟨job, found⟩ := Assoc.mem_keys_iff.mp (gated.summoned ready)
      exact gated.resume ready found
    | leave task =>
      have popped := gated.pop ready fun _ => Loop.Turn.noConfusion
      exact ⟨owner, { popped with bounded := { popped.bounded with }, leaves := { popped.leaves with } }⟩
    | arrive group => exact (gated.pop ready fun _ => Loop.Turn.noConfusion).fair.arrive group

/-- Whatever is next, the lock of opening is as it should be. -/
theorem beat (fair : dock.Fair) (beat : Beat β) : (dock.beat beat).Fair := by
  obtain ⟨owner, gated⟩ := fair
  cases beat with
  | fire place => exact (gated.onPanel _).fair
  | move move =>
    cases move with
    | ask request =>
      obtain ⟨created, apart⟩ := gated.created ⟨.begin request, none⟩
      rw [Dock.beat, move_ask]
      exact created.begins apart request
    | turn => exact gated.fair.turn
    | answer task =>
      unfold Dock.beat Dock.move
      dsimp only
      split
      next member => exact (gated.release (List.perm_cons_erase member)).fair
      next => exact gated.fair
    | announce event payload => exact (gated.change _).fair

theorem play (fair : dock.Fair) (beats : List (Beat β)) : (dock.play beats).Fair := by
  induction beats generalizing dock with
  | nil => exact fair
  | cons first rest ih => exact ih (fair.beat first)

end Fair

theorem fair_fresh (panel : Panel) (backend : β) (hook : Transport.FailureHook) : (Dock.fresh panel backend hook).Fair := by
  have nobody {kind : Stage β → Bool} (task : Loop.TaskId) : ¬(Dock.fresh panel backend hook).During kind task :=
    fun during => List.not_mem_nil during.running
  refine ⟨none, ⟨.empty, .empty, fun _ never => absurd never.symm (Option.some_ne_none _), fun task => ?_, List.nodup_nil,
    fun task => ?_, List.forall_mem_nil _, List.forall_mem_nil _, rfl, fun task _ => ?_⟩⟩
  · exact (if_neg fun there => List.not_mem_nil there.1).symm
  · exact ⟨fun member => absurd member List.not_mem_nil, fun waits => absurd waits.2 (nobody task)⟩
  · exact ⟨fun flies => absurd flies (nobody task), fun never => absurd never.symm (Option.some_ne_none _)⟩

def flights (dock : Dock β) : Nat :=
  dock.jobs.countP (·.stage.flies)

/-- A task waits for the first process of the panel exactly if the lock of opening is taken, and no other one does. -/
theorem Fair.flights (fair : dock.Fair) : dock.flights = dock.lock.taken.toNat := by
  obtain ⟨owner, gated⟩ := fair
  have unique := gated.bounded.unique
  have nobody {table : Assoc Loop.TaskId (Job β)} (unique : table.keys.Nodup)
      (grounded : ∀ task job, table.find? task = some job → job.stage.flies = false) :
      table.values.countP (·.stage.flies) = 0 := by
    refine List.countP_eq_zero.mpr fun job member => ?_
    obtain ⟨⟨task, other⟩, inside, rfl⟩ := List.mem_map.mp member
    exact Bool.eq_false_iff.mp (grounded task other (Assoc.find?_of_mem unique inside))
  have owns {task : Loop.TaskId} {job : Job β} (found : dock.scheduler.running.find? task = some job) :
      job.stage.flies = true ↔ owner = some task :=
    (during_of_found found).symm.trans (gated.owns task (Option.some_ne_none task).symm)
  rw [gated.taken]
  cases owner with
  | none =>
    refine nobody unique fun task job found => Bool.eq_false_iff.mpr fun flies => ?_
    cases (owns found).mp flies
  | some task =>
    have flies := (gated.owns task (Option.some_ne_none task).symm).mpr rfl
    obtain ⟨job, found⟩ := Assoc.mem_keys_iff.mp flies.running
    -- With the owner taken out of the table nobody is left who waits for the first process.
    have others : (dock.scheduler.running.remove task).values.countP (·.stage.flies) = 0 := by
      refine nobody (Assoc.keys_remove_nodup unique task) fun other job there => Bool.eq_false_iff.mpr fun flies => ?_
      have mine := (owns (Assoc.find?_of_remove unique there)).mp flies
      rw [← Option.some.inj mine, Assoc.find?_remove_self unique] at there
      cases there
    have split : dock.jobs.Perm (job :: (dock.scheduler.running.remove task).values) :=
      (Assoc.perm_remove found).map Prod.snd
    rw [Dock.flights, split.countP_eq, List.countP_cons, others, (owns found).mpr rfl]
    rfl

theorem Fair.quiet (fair : dock.Fair) (ready : dock.scheduler.ready = []) (held : dock.held = [])
    (present : task ∈ dock.scheduler.running.keys) : dock.During Stage.gathers task := by
  obtain ⟨owner, gated⟩ := fair
  have waits {task : Loop.TaskId} (present : task ∈ dock.scheduler.running.keys) :
      task ∈ dock.lock.parked ∨ dock.During Stage.gathers task := by
    have once := gated.once task
    rw [if_pos ⟨present, (Option.some_ne_none task).symm⟩, summons, Loop.Scheduler.summons, ready, held, List.count_nil,
      List.count_nil, Nat.zero_add, Nat.add_zero] at once
    by_cases parked : task ∈ dock.lock.parked
    · exact .inl parked
    · rw [List.count_eq_zero.mpr parked] at once
      refine .inr (gated.waiters task (List.count_pos_iff.mp ?_))
      omega
  have apart {task : Loop.TaskId} {kind : Stage β → Bool}
    (other : ∀ stage : Stage β, kind stage = true → stage.gathers = false)
      (during : dock.During kind task) : ¬dock.During Stage.gathers task := by
    obtain ⟨job, found⟩ := Assoc.mem_keys_iff.mp during.running
    rw [during_of_found found] at during ⊢
    rw [other job.stage during]
    exact Bool.false_ne_true
  have queued {task : Loop.TaskId} (member : task ∈ dock.lock.waiting) :
      dock.During Stage.queues task ∧ task ∈ dock.lock.parked := by
    have queues := ((gated.queued task).mp member).2
    refine ⟨queues, (waits queues.running).resolve_right (apart (fun stage queues => ?_) queues)⟩
    cases stage <;> first | rfl | cases queues
  have untaken : dock.lock.taken = false := by
    refine Bool.eq_false_iff.mpr fun taken => ?_
    obtain ⟨owner, rfl⟩ := Option.isSome_iff_exists.mp (gated.taken.symm.trans taken)
    have flies := (gated.owns owner (Option.some_ne_none owner).symm).mpr rfl
    rcases waits flies.running with parked | gathers
    · rw [OpenLock.parked, taken, if_pos rfl] at parked
      have queues := (queued parked).1
      obtain ⟨⟨stage, label⟩, found⟩ := Assoc.mem_keys_iff.mp flies.running
      rw [during_of_found found] at flies queues
      cases stage with
      | queued => cases flies
      | _ => cases queues
    · refine apart (fun stage flies => ?_) flies gathers
      cases stage <;> first | rfl | cases flies
  have nobody : dock.lock.waiting = [] := by
    cases waiting : dock.lock.waiting with
    | nil => rfl
    | cons first rest =>
      have parked := (queued (waiting ▸ List.mem_cons_self .. : first ∈ dock.lock.waiting)).2
      have distinct := gated.distinct
      rw [OpenLock.parked, untaken, if_neg Bool.false_ne_true, waiting] at parked
      rw [waiting, List.nodup_cons] at distinct
      exact absurd parked distinct.1
  refine (waits present).resolve_left fun parked => ?_
  rw [OpenLock.parked, untaken, nobody] at parked
  exact List.not_mem_nil parked

theorem Fair.tasks (fair : dock.Fair) : dock.agenda.Bounded := by
  obtain ⟨owner, gated⟩ := fair
  refine ⟨gated.bounded, fun task member => ?_, fun task member => ?_⟩
  · exact gated.bounded.running task ((gated.queued task).mp member).2.running
  · exact gated.bounded.running task (gated.held task member).running

variable [SessionBackend β]

theorem Fair.stays (fair : dock.Fair) {beat : Beat β} (other : dock.actor? beat ≠ some task) {job : Job β}
    (found : dock.scheduler.running.find? task = some job) : (dock.beat beat).scheduler.running.find? task = some job := by
  rcases dock.stirred_or_turned beat with stirred | rfl
  · exact stirred.found fair.tasks found other
  · refine dock.turn_steps.found fair.tasks found fun rest ready => other ?_
    simp only [actor?, show dock.scheduler.ready = _ from ready]

end Dock

end TerminalDock
