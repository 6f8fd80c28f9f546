import TerminalDock.Proofs.MarkedRuns
import TerminalDock.Proofs.OpenDeeds
import TerminalDock.Proofs.PanelInvariant

/-! One session. However often a panel without sessions is opened and hidden, and however long its processes take: one
process at a time is asked for until one is of use, and every operation that opens the panel tells whether there is a
session, unless it cannot fit the one that it shows again. -/

namespace TerminalDock
open Proofs.Steps

def Beat.opens {β : Type} : Beat β → Bool
  | .move (.ask request) => request.only Request.opens
  | .move (.announce ..) => false
  | _ => true

theorem Beat.panelwise_of_opens {β : Type} {beat : Beat β} (opens : beat.opens = true) : beat.panelwise = true := by
  cases beat with
  | fire place => rfl
  | move move =>
    cases move with
    | announce event payload => cases opens
    | turn | answer task => rfl
    | ask request =>
      refine Request.only_mono (fun request opens => ?_) request opens
      cases request <;> first | rfl | cases opens

namespace Dock
variable {β : Type} [SessionBackend β] {task : Loop.TaskId}

/-- A task is opening the panel, or begins to do so in this beat. -/
def Opening (dock : Dock β) (beat : Beat β) (task : Loop.TaskId) : Prop :=
  dock.During Stage.opening task ∨ dock.actor? beat = some task ∧ beat = .move (.ask .openPanel)

variable {dock : Dock (Ledger β)} {beat : Beat (Ledger β)}

/-- What holds of a panel, which had no session at first, while it is opened and hidden. -/
structure Hosts (dock : Dock (Ledger β)) : Prop where
  steady : dock.Steady
  fair : dock.Fair
  modest : ∀ job ∈ dock.jobs, job.stage.plain = true ∨ job.stage.Opens
  sound : dock.standing.Sound

omit [SessionBackend β] in
theorem Hosts.ready (hosts : dock.Hosts) : dock.panel.Ready :=
  ⟨hosts.steady.valid.registry, hosts.steady.attached, hosts.steady.sane.pliable⟩

structure Unfolds (dock : Dock (Ledger β)) (beat : Beat (Ledger β)) : Prop where
  deed : ∃ answer, Standing.Deed dock.panel.registry.obstacle? answer dock.standing (dock.beat beat).standing ∧
    ∀ task, dock.actor? beat = some task → dock.Opening beat task → (dock.beat beat).Ends task answer
  jobs : ∀ job ∈ (dock.beat beat).jobs, job ∈ dock.jobs ∨ job.stage.plain = true ∨ job.stage.Opens

theorem Does.unfolds {opens : Prop} (does : Does Standing.Deed opens task dock (dock.beat beat))
    (mine : ∀ other, dock.actor? beat = some other → dock.Opening beat other → other = task ∧ opens) :
    dock.Unfolds beat := by
  obtain ⟨⟨answer, deed, ends⟩, jobs⟩ := does
  refine ⟨⟨answer, deed, fun other actor opening => ?_⟩, jobs⟩
  obtain ⟨rfl, opens⟩ := mine other actor opening
  exact ends opens

private theorem unfolds_calm (actor : dock.actor? beat = none) (calm : Calm Stage.Opens dock (dock.beat beat))
    (lock : (dock.beat beat).lock = dock.lock) : dock.Unfolds beat := by
  have does : Does Standing.Deed False 0 dock (dock.beat beat) := .of_calm calm lock id
  refine does.unfolds fun other mine => ?_
  rw [actor] at mine
  cases mine

theorem Hosts.turn_unfolds (hosts : dock.Hosts) : dock.Unfolds (.move .turn) := by
  obtain ⟨owner, gated⟩ := hosts.fair
  cases ready : dock.scheduler.ready with
  | nil =>
    have turned : dock.beat (.move .turn) = dock := by
      simp only [Dock.beat, Dock.move, turn, Loop.Scheduler.next?, ready]
    refine unfolds_calm (by simp only [actor?, ready]) ?_ (by rw [turned])
    rw [turned]
    exact .refl dock
  | cons turn rest =>
    cases turn with
    | resume task =>
      obtain ⟨job, found⟩ := Assoc.mem_keys_iff.mp (gated.summoned ready)
      obtain ⟨turned, actor⟩ := turn_resume ready
      have does := resume_does gated ready found hosts.ready (hosts.modest job (Assoc.mem_values_of_find? found)) hosts.sound
      rw [show (dock.popped rest).resume task = dock.beat (.move .turn) from turned.symm] at does
      refine does.unfolds fun other mine opening => ?_
      obtain rfl : task = other := Option.some.inj (actor.symm.trans mine)
      exact ⟨rfl, opening.resolve_right fun never => by cases never.2⟩
    | leave task =>
      have turned : dock.beat (.move .turn) = { dock with scheduler := (dock.popped rest).scheduler.leave task } := by
        simp only [Dock.beat, Dock.move, Dock.turn, Loop.Scheduler.next?, ready]
        rfl
      refine unfolds_calm (by simp only [actor?, ready]) ?_ (by rw [turned])
      rw [turned]
      exact .of_running rfl rfl rfl
    | arrive group =>
      have turned : dock.beat (.move .turn) = { dock with scheduler := (dock.popped rest).scheduler.arrive group } := by
        simp only [Dock.beat, Dock.move, Dock.turn, Loop.Scheduler.next?, ready]
        rfl
      refine unfolds_calm (by simp only [actor?, ready]) ?_ (by rw [turned])
      rw [turned]
      exact .of_running rfl rfl (Loop.Scheduler.running_arrive _ group)

/-- Whatever is next, it is one deed. -/
theorem Hosts.unfolds (hosts : dock.Hosts) (allowed : beat.opens = true) : dock.Unfolds beat := by
  cases beat with
  | fire place =>
    have yields : Yields Stage.Opens dock (after (Panel.fire place) dock.panel).drained dock.backend
      (dock.beat (.fire place)) :=
      onPanel_yields dock (Panel.fire place)
    have front : (dock.beat (.fire place)).panel.front = dock.panel.front := by
      rw [yields.panel]
      exact Panel.fire_front place hosts.steady.valid.registry
    refine ⟨⟨none, ?_, fun task mine => by cases mine⟩, yields.jobs⟩
    rw [standing_of_front yields.backend (onPanel_lock dock _) front]
    exact .rest _
  | move move =>
    cases move with
    | announce event payload => cases allowed
    | turn => exact hosts.turn_unfolds
    | answer task =>
      refine unfolds_calm rfl (answer_calm dock task) ?_
      unfold Dock.beat Dock.move
      dsimp only
      split <;> rfl
    | ask request =>
      let start : Dock (Ledger β) := { dock with scheduler := (dock.scheduler.create ⟨.begin request, none⟩).2 }
      have does : Does Standing.Deed (request = .openPanel) dock.scheduler.fresh start
        (start.begin dock.scheduler.fresh request) := begin_does start _ hosts.ready allowed
      have asked : start.begin dock.scheduler.fresh request = dock.beat (.move (.ask request)) :=
        (move_ask dock request).symm
      rw [asked] at does
      obtain ⟨deed, jobs⟩ := does
      have started : Does Standing.Deed (request = .openPanel) dock.scheduler.fresh dock
        (dock.beat (.move (.ask request))) := by
        refine ⟨deed, fun job member => ?_⟩
        rcases jobs job member with old | novel
        · rcases Assoc.mem_values_put old with rfl | older
          · exact .inr (.inr allowed)
          · exact .inl older
        · exact .inr novel
      refine started.unfolds fun other mine opening => ?_
      obtain rfl : dock.scheduler.fresh = other := Option.some.inj mine
      obtain ⟨owner, gated⟩ := hosts.fair
      refine ⟨rfl, ?_⟩
      rcases opening with during | ⟨-, same⟩
      · exact absurd during.running gated.fresh
      · cases same
        rfl

theorem Hosts.next (hosts : dock.Hosts) (allowed : beat.opens = true) : (dock.beat beat).Hosts := by
  have panelwise := Beat.panelwise_of_opens allowed
  obtain ⟨⟨answer, deed, -⟩, jobs⟩ := hosts.unfolds allowed
  refine ⟨hosts.steady.next panelwise, hosts.fair.beat beat, fun job member => ?_, (deed.sound hosts.sound).1⟩
  rcases jobs job member with old | novel
  · exact hosts.modest job old
  · exact novel

/-- What an operation answers that opens the panel and comes to its end in a beat: if the panel was hidden and had a session,
the failure of the fit of the active one, if it fails; otherwise whether there is a session now. -/
def verdict (first last : Dock (Ledger β)) : Except Failure Answer :=
  if first.panel.isOpen = false ∧ 0 < first.backend.made then
    first.panel.registry.obstacle?.elim (.ok (.flag true)) .error
  else .ok (.flag (decide (0 < last.backend.made)))

/-- How far things have come after a beat, in which some tasks are opening the panel. At most one process is awaited for
it; there is one session at most; whoever is done has told whether there is one, or why it cannot be fitted; and nobody is
left behind. -/
structure OpensOnce (opening : Loop.TaskId → Prop) (first last : Dock (Ledger β)) : Prop where
  single : last.flights ≤ 1
  spawned : last.backend.asked = last.backend.failed + last.backend.made + last.flights
  once : last.backend.made ≤ 1
  sessions : last.panel.registry.size = last.backend.made
  answered : ∀ task, opening task → last.During Stage.opening task ∨
    last.scheduler.results.find? task = some (verdict first last) ∧ last.panel.isOpen = decide (0 < last.backend.made)
  settled : 0 < first.backend.made → last.backend.asked = first.backend.asked
  finished : last.scheduler.ready = [] → last.held = [] → ∀ task, ¬last.During Stage.opening task

omit [SessionBackend β] in
private theorem verdict_map (first last : Dock (Ledger β)) : verdict first last =
    (Standing.verdict first.panel.registry.obstacle? first.standing last.standing).map .flag := by
  unfold verdict Standing.verdict
  change ite (first.panel.isOpen = false ∧ 0 < first.backend.made) _ _ =
    (ite (first.panel.isOpen = false ∧ 0 < first.backend.made) _ _ : Except Failure Bool).map Answer.flag
  split
  · cases first.panel.registry.obstacle? <;> rfl
  · rfl

theorem Hosts.opens_once (hosts : dock.Hosts) (allowed : beat.opens = true) :
    OpensOnce (dock.Opening beat) dock (dock.beat beat) := by
  obtain ⟨⟨answer, deed, ends⟩, -⟩ := hosts.unfolds allowed
  obtain ⟨sound, answers, settled⟩ := deed.sound hosts.sound
  have fair := hosts.fair.beat beat
  have flights := fair.flights
  refine ⟨?_, ?_, sound.single, sound.size, fun task opening => ?_, settled, fun ready held task during => ?_⟩
  · rw [flights]
    exact Bool.toNat_le _
  · rw [flights]
    exact sound.spawned
  · by_cases mine : dock.actor? beat = some task
    · have told := ends task mine opening
      cases answer with
      | none => exact .inl told
      | some answer =>
        have right := answers answer rfl
        refine .inr ⟨?_, right.shown⟩
        rw [verdict_map, ← right.told]
        exact told
    · have during := opening.resolve_right fun begins => mine begins.1
      obtain ⟨job, found⟩ := Assoc.mem_keys_iff.mp during.running
      rw [during_of_found found] at during
      exact .inl ((during_of_found (hosts.fair.stays mine found)).mpr during)
  · obtain ⟨⟨stage, label⟩, found⟩ := Assoc.mem_keys_iff.mp during.running
    have gathers := fair.quiet ready held during.running
    rw [during_of_found found] at during gathers
    cases stage with
    | sweeping | draining | gathering => cases during
    | _ => cases gathers

theorem Hosts.along {beats : List (Beat (Ledger β))} (hosts : dock.Hosts)
    (allowed : ∀ beat ∈ beats, beat.opens = true) :
    dock.Along (fun dock beat => OpensOnce (dock.Opening beat) dock (dock.beat beat)) beats := by
  induction beats generalizing dock with
  | nil => trivial
  | cons first rest ih =>
    have now := allowed first (List.mem_cons_self ..)
    exact ⟨hosts.opens_once now, ih (hosts.next now) fun beat member => allowed beat (List.mem_cons_of_mem _ member)⟩

end Dock

namespace Dock
variable {β : Type} [SessionBackend β]

private theorem run_lasting (dock : Dock β) (moves : List (Move β)) : Lasting dock (dock.run moves) := by
  induction moves generalizing dock with
  | nil => exact .refl dock
  | cons first rest ih => exact (beat_lasting dock (.move first)).trans (ih _)

theorem Fair.run {dock : Dock β} (fair : dock.Fair) (moves : List (Move β)) : (dock.run moves).Fair := by
  induction moves generalizing dock with
  | nil => exact fair
  | cons first rest ih => exact ih (fair.beat (.move first))

def recount (dock : Dock (Ledger β)) : Dock (Ledger β) :=
  { dock with backend := { inner := dock.backend.inner } }

/-- A panel that is hidden and has no session, while nobody opens it. -/
structure Vacant (dock : Dock β) : Prop where
  valid : dock.panel.registry.WellFormed
  drained : dock.panel.drained = dock.panel
  nobody : dock.panel.registry.sessions = []
  hidden : dock.panel.isOpen = false
  unfit : dock.panel.fitting = false
  fair : dock.Fair
  plain : ∀ job ∈ dock.jobs, job.stage.plain = true

omit [SessionBackend β] in
theorem Vacant.hosts {dock : Dock (Ledger β)} (vacant : dock.Vacant) (asked : dock.backend.asked = 0)
    (failed : dock.backend.failed = 0) (made : dock.backend.made = 0)
    (rows : 1 ≤ dock.panel.registry.factory.minRows) (columns : 1 ≤ dock.panel.registry.factory.minColumns) :
    dock.Hosts := by
  obtain ⟨owner, gated⟩ := vacant.fair
  have absent (id : String) : dock.panel.scale.registry.gauges.find? id = none := by
    rw [show dock.panel.scale.registry = dock.panel.registry.scale from rfl, Registry.find?_scale, Registry.session?,
      vacant.nobody]
    rfl
  have nobody {id : String} {gauge : Session.Gauge} {holds : Prop}
      (found : dock.panel.scale.registry.gauges.find? id = some gauge) : holds := by
    rw [absent] at found
    cases found
  have free : dock.lock.taken = false := by
    have none : dock.flights = 0 := by
      refine List.countP_eq_zero.mpr fun job member flies => ?_
      obtain ⟨stage, label⟩ := job
      have plain := vacant.plain _ member
      cases stage with
      | spawning => cases plain
      | _ => cases flies
    rw [vacant.fair.flights] at none
    exact Bool.toNat_eq_zero.mp none
  refine ⟨⟨⟨vacant.valid, fun job member => ?_⟩, ⟨gated.bounded.unique, gated.bounded.running, vacant.drained⟩,
    ⟨⟨fun _ _ => nobody, rows, columns, rfl, beq_self_eq_true _⟩, vacant.hidden.trans vacant.unfit.symm⟩,
      fun name session member => ?_⟩,
    vacant.fair, fun job member => .inl (vacant.plain job member), ⟨?_, ?_, ?_, ?_, ?_⟩⟩
  · have plain := vacant.plain job member
    cases stage : job.stage with
    | begin | spawning => rw [stage] at plain; cases plain
    | _ => trivial
  · obtain ⟨entry, there, -⟩ := List.mem_map.mp member
    rw [vacant.nobody] at there
    cases there
  · change dock.panel.registry.size = dock.backend.made
    rw [made, Registry.size, vacant.nobody]
    rfl
  · change dock.backend.made ≤ 1
    omega
  · change dock.backend.asked = dock.backend.failed + dock.backend.made + dock.lock.taken.toNat
    rw [asked, failed, made, free]
    rfl
  · intro shown
    cases vacant.hidden.symm.trans shown
  · exact fun _ => made

/-- Whatever was done to a panel and its tabs: if no session is left, and nobody opens the panel, it is hidden. -/
theorem run_vacant {config : PanelConfig} {scheme : String} {font : Font} {height : Json} {panel : Panel}
    (created : Panel.create config scheme font height = .ok panel) (backend : β) (hook : Transport.FailureHook)
    {moves : List (Move β)} (allowed : ∀ move ∈ moves, move.only (Request.tabbed false) = true)
    (empty : ((Dock.fresh panel backend hook).run moves).panel.registry.isEmpty = true)
    (plain : ∀ job ∈ ((Dock.fresh panel backend hook).run moves).jobs, job.stage.plain = true) :
    ((Dock.fresh panel backend hook).run moves).Vacant := by
  have fresh : (Dock.fresh panel backend hook).Valid (Request.tabbed false) :=
    valid_fresh (Panel.create_blank created) backend hook
  have firm : ((Dock.fresh panel backend hook).run moves).panel.face.base.Firm :=
    run_faces (fun _ firm step => step.firm firm) fresh allowed Bool.noConfusion (Panel.create_firm created).1
  have hidden : ((Dock.fresh panel backend hook).run moves).panel.isOpen = false :=
    Bool.eq_false_iff.mpr fun shown => firm.peopled shown ((Panel.roll_isEmpty _).mpr empty)
  exact ⟨(fresh.run allowed).registry, run_drained fresh allowed (Panel.create_drained created), List.isEmpty_iff.mp empty,
    hidden, firm.fitted.symm.trans hidden, (fair_fresh panel backend hook).run moves, plain⟩

/-- However a panel without sessions is opened and hidden, with whatever answers to its questions for processes, and
however late: at most one process is awaited at a time, as many were asked for as failed, and one more once there is a
session; whoever opens the panel tells whether there is one, or why it cannot be fitted; and when there is, no other process
is asked for. -/
theorem one_session {given : List (String × Json)} {config : PanelConfig} (valid : Config.validate given = .ok config)
    {scheme : String} {font : Font} {height : Json} {panel : Panel}
    (created : Panel.create config scheme font height = .ok panel) (backend : Ledger β) (hook : Transport.FailureHook)
    {before : List (Move (Ledger β))} (allowed : ∀ move ∈ before, move.only (Request.tabbed false) = true)
    {start : Dock (Ledger β)} (begun : ((Dock.fresh panel backend hook).run before).recount = start)
    (empty : start.panel.registry.isEmpty = true) (plain : ∀ job ∈ start.jobs, job.stage.plain = true)
    {beats : List (Beat (Ledger β))} (opens : ∀ beat ∈ beats, beat.opens = true) :
    start.Along (fun dock beat => OpensOnce (dock.Opening beat) dock (dock.beat beat)) beats := by
  subst begun
  have vacant := run_vacant created backend hook allowed empty plain
  obtain ⟨owner, gated⟩ := vacant.fair
  have recounted : ((Dock.fresh panel backend hook).run before).recount.Vacant :=
    { vacant with fair := ⟨owner, gated.of_alike rfl rfl rfl⟩ }
  have new := Panel.create_new valid created
  have least : ((Dock.fresh panel backend hook).run before).panel.registry.least = panel.registry.least :=
    (run_lasting _ before).least
  have rows : 1 ≤ ((Dock.fresh panel backend hook).run before).panel.registry.factory.minRows :=
    Int.le_trans new.rows (Int.le_of_eq (congrArg Prod.fst least).symm)
  have columns : 1 ≤ ((Dock.fresh panel backend hook).run before).panel.registry.factory.minColumns :=
    Int.le_trans new.columns (Int.le_of_eq (congrArg Prod.snd least).symm)
  exact (recounted.hosts rfl rfl rfl rows columns).along opens

/-- The only session of a panel was closed, and its calls are still to be made. Whoever asks for a process waits from now
on, and no session can be made of the next one. -/
def deserted : List (Move (Ledger PuppetBackend)) :=
  [.ask .openPanel, .ask (.closeSession "term-1"), .ask (.adjust fun ledger => { ledger with
    inner := { ledger.inner with hold := true, failures := [("subscribe_exit:term-2", .fault .runtime "")] } })]

/-- The panel is opened twice at once and hidden meanwhile; it is opened again before the second process comes, and once
more after it was hidden. -/
def insistent : List (Beat (Ledger PuppetBackend)) :=
  [.move (.ask .openPanel), .move (.ask (.gather [.openPanel, .hide]))] ++ List.replicate 3 (.move .turn) ++
    [.move (.answer 4)] ++ List.replicate 5 (.move .turn) ++ [.move (.ask .openPanel), .move (.answer 6)] ++
    List.replicate 4 (.move .turn) ++ [.move (.ask .hide), .move (.ask .openPanel)]

def told? (dock : Dock β) (task : Loop.TaskId) : Option Bool :=
  match dock.scheduler.results.find? task with
  | some (.ok (.flag answer)) => some answer
  | _ => none

theorem one_session_insistent : ∃ panel start, Panel.create {} "dark" (.measured "Menlo" 13) .null = .ok panel ∧
    ((Dock.fresh panel ({ inner := {} } : Ledger PuppetBackend) .log).run deserted).recount = start ∧
    start.jobs.length = 1 ∧ [4, 6, 10, 12].map (start.play insistent).told? = [some false, some true, some true, some true] ∧
    (start.play insistent).backend.asked = 2 ∧ (start.play insistent).backend.failed = 1 ∧
    (start.play insistent).backend.made = 1 ∧
    start.Along (fun dock beat => OpensOnce (dock.Opening beat) dock (dock.beat beat)) insistent := by
  have valid : Config.validate [] = .ok {} := by decide +kernel
  have created : Panel.create {} "dark" (.measured "Menlo" 13) .null = .ok _ := rfl
  have allowed : ∀ move ∈ deserted, move.only (Request.tabbed false) = true := by decide +kernel
  have opens : ∀ beat ∈ insistent, beat.opens = true := by decide +kernel
  refine ⟨_, _, created, rfl, by decide +kernel, by decide +kernel, by decide +kernel, by decide +kernel,
    by decide +kernel, ?_⟩
  exact one_session valid created ({ inner := {} } : Ledger PuppetBackend) .log allowed rfl (by decide +kernel)
    (by decide +kernel) opens

/-- The font has no width, so that the session cannot be fitted as the panel is opened again. -/
theorem one_session_fails : ∃ panel, Panel.create {} "dark" .flat .null = .ok panel ∧
    let start := Dock.fresh panel ({ inner := {} } : Ledger PuppetBackend) .log
    let hidden := start.play [.move (.ask .openPanel), .move (.ask .hide)]
    start.panel.registry.isEmpty = true ∧ hidden.backend.made = 1 ∧
      hidden.failure? (.move (.ask .openPanel)) = some (.fault .zeroDivision "division by zero") ∧
      (hidden.beat (.move (.ask .openPanel))).panel.isOpen = true := by
  exact ⟨_, rfl, by decide +kernel, by decide +kernel, by decide +kernel, by decide +kernel⟩

end Dock

end TerminalDock
