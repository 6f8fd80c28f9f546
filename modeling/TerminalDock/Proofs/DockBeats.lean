import TerminalDock.Proofs.DockDeals

/-! Runs of a panel beat by beat: its surroundings ask for operations of the panel and its tabs, tasks take their turns,
processes are answered for in any order, and so is the work fired that waits for a frame. The account of a beat tells
what was done to the panel and which calls were submitted; every call that was submitted begins once. -/

namespace TerminalDock
open Proofs.Steps

/-- What happens next: a move, or one piece of the work that waits for a frame is fired. -/
inductive Beat (β : Type)
  | move (move : Move β)
  | fire (place : Nat)

/-- Beats that leave the surfaces and the selection to the panel. -/
def Beat.panelwise {β : Type} : Beat β → Bool
  | .move (.announce _ _) => false
  | .move next => next.only Request.panelwise
  | .fire _ => true

namespace Dock
variable {β : Type}

/-- The calls that were submitted, whether they have begun or not. -/
def issued (dock : Dock β) : List BackendCall :=
  dock.begun ++ dock.callsFrom 0

def actor? (dock : Dock β) : Beat β → Option Loop.TaskId
  | .move (.ask _) => some dock.scheduler.fresh
  | .move .turn =>
    match dock.scheduler.ready with
    | .resume task :: _ => some task
    | _ => none
  | _ => none

variable [SessionBackend β]

def beat (dock : Dock β) : Beat β → Dock β
  | .move move => dock.move move
  | .fire place => (dock.onPanel (Panel.fire place)).2

def play (dock : Dock β) (beats : List (Beat β)) : Dock β :=
  beats.foldl beat dock

def failure? (dock : Dock β) : Beat β → Option Failure
  | .fire place =>
    match (dock.onPanel (Panel.fire place)).1 with
    | .error failure => some failure
    | .ok _ => none
  | .move move =>
    match (dock.actor? (.move move)).bind (dock.move move).scheduler.results.find? with
    | some (.error failure) => some failure
    | _ => none

def asked? (dock : Dock β) : Beat β → Option (Request β)
  | .move (.ask request) => some request
  | .move .turn =>
    match ((dock.actor? (.move .turn)).bind dock.scheduler.running.find?).map Job.stage with
    | some (.begin request) => some request
    | _ => none
  | _ => none

structure Account (who : Option Loop.TaskId) (given : List String) (ended : Ending Failure Panel) (first last : Dock β) :
    Prop where
  deal : Deal first.panel first.backend given ended last.backend
  panel : last.panel = ended.state.drained
  orderly : last.Orderly
  fresh : first.scheduler.fresh ≤ last.scheduler.fresh
  tasks : ∀ task ∈ last.scheduler.running.keys, task ∈ first.scheduler.running.keys ∨ first.scheduler.fresh ≤ task
  submitted : first.submitted last = ended.state.registry.outbox
  issued : last.issued.Perm (first.issued ++ ended.state.registry.outbox)
  shown : Shows ended.state.registry.journal first last
  gone : ∀ call ∈ ended.state.registry.outbox, call.isResize = true →
    ∀ task, who = some task → task ∉ last.scheduler.running.keys
  /-- Whoever submits calls in its turn was at work before, or begins with it. -/
  working : ended.state.registry.outbox ≠ [] → ∀ task, who = some task →
    (task ∈ first.scheduler.running.keys ∨ first.scheduler.fresh ≤ task) ∧ task < last.scheduler.fresh

omit [SessionBackend β] in
theorem callsFrom_fresh {dock : Dock β} {mark : Loop.TaskId}
    (old : ∀ task ∈ dock.scheduler.running.keys, task < mark) : dock.callsFrom mark = [] := by
  refine List.filterMap_eq_nil_iff.mpr fun entry member => ?_
  have before : entry.1 < mark := old entry.1 (List.mem_map_of_mem member)
  dsimp only
  rw [if_neg (Nat.not_le_of_lt before)]

section Beats
variable {task : Loop.TaskId} {first start last : Dock β}

/-- A task is about to have its turn, if it is the turn of a task, and nothing else has changed. -/
structure Readied (who : Option Loop.TaskId) (first start : Dock β) : Prop where
  panel : start.panel = first.panel
  backend : start.backend = first.backend
  orderly : start.Orderly
  attends : start.Attends who
  fresh : first.scheduler.fresh ≤ start.scheduler.fresh
  tasks : ∀ other ∈ start.scheduler.running.keys, other ∈ first.scheduler.running.keys ∨ who = some other
  working : ∀ task, who = some task → task ∈ first.scheduler.running.keys ∨ first.scheduler.fresh ≤ task
  waiting : ∀ mark ≤ first.scheduler.fresh, start.callsFrom mark = first.callsFrom mark
  sights : start.sights = first.sights

theorem Posted.account {who : Option Loop.TaskId} {given : List String} {ended : Ending Failure Panel}
    (posted : Posted who ended.state.registry.outbox ended.state.registry.journal start last)
    (deal : Deal start.panel start.backend given ended last.backend) (panel : last.panel = ended.state.drained)
    (gone : ∀ call ∈ ended.state.registry.outbox, call.isResize = true →
      ∀ task, who = some task → task ∉ last.scheduler.running.keys)
    (orderly : first.Orderly) (readied : Readied who first start) : Account who given ended first last := by
  refine ⟨readied.panel ▸ readied.backend ▸ deal, panel, posted.orderly, Nat.le_trans readied.fresh posted.fresh,
    fun other member => ?_, ?_, ?_, ?_, gone,
    fun _ task mine => ⟨readied.working task mine, posted.attends.given task mine⟩⟩
  · rcases posted.tasks other member with old | mine | new
    · exact (readied.tasks other old).elim .inl (readied.working other)
    · exact readied.working other mine
    · exact .inr (Nat.le_trans readied.fresh new)
  · rw [Dock.submitted, posted.waiting _ readied.fresh, readied.waiting _ (Nat.le_refl _), callsFrom_fresh orderly.fresh,
      List.nil_append]
  · rw [Dock.issued, posted.begun, posted.waiting 0 (Nat.zero_le _), readied.waiting 0 (Nat.zero_le _), Dock.begun,
      readied.sights, ← List.append_assoc]
    exact .refl _
  · obtain ⟨seen, sights, among⟩ := posted.shown
    exact ⟨seen, readied.sights ▸ sights, among⟩

theorem Dealt.account {given : List String} {ended : Ending Failure Panel} (dealt : Dealt task given ended start last)
    (orderly : first.Orderly) (readied : Readied task first start) : Account (some task) given ended first last := by
  refine dealt.posted.account dealt.deal dealt.panel ?_ orderly readied
  rintro call member told task ⟨⟩
  exact dealt.gone call member told

theorem Account.of_alike (orderly : first.Orderly) (who : Option Loop.TaskId) (panel : last.panel = first.panel)
    (backend : last.backend = first.backend) (running : last.scheduler.running = first.scheduler.running)
    (fresh : last.scheduler.fresh = first.scheduler.fresh) (sights : last.sights = first.sights) :
    Account who [] ⟨first.panel, none⟩ first last := by
  have silent := orderly.silent
  have waiting (mark : Loop.TaskId) : last.callsFrom mark = first.callsFrom mark :=
    congrArg (List.filterMap _) running
  refine ⟨.rest (backend ▸ .rest), panel.trans orderly.drained.symm, ⟨?_, ?_, ?_⟩,
    Nat.le_of_eq fresh.symm, ?_, ?_, ?_, ?_, ?_, ?_⟩
  · rw [running]
    exact orderly.unique
  · rw [running, fresh]
    exact orderly.fresh
  · rw [panel]
    exact orderly.drained
  · rw [running]
    exact fun _ => .inl
  · rw [Dock.submitted, silent.1, waiting]
    exact callsFrom_fresh orderly.fresh
  · rw [silent.1, List.append_nil, Dock.issued, waiting, begun, sights]
    exact .refl _
  · rw [silent.2]
    exact .of_same sights
  · rw [silent.1]
    exact List.forall_mem_nil _
  · exact fun busy => absurd silent.1 busy

/-- More may be seen, but no call that begins. -/
def Mute (first last : Dock β) : Prop :=
  ∃ more : List (Sight Answer), more.filterMap Sight.call? = [] ∧ last.sights = first.sights ++ more

omit [SessionBackend β] in
theorem Mute.trans (before : Mute first start) (later : Mute start last) : Mute first last := by
  obtain ⟨some, silent, shown⟩ := before
  obtain ⟨more, quiet, sights⟩ := later
  exact ⟨some ++ more, by rw [List.filterMap_append, silent, quiet]; rfl, by rw [sights, shown, List.append_assoc]⟩

omit [SessionBackend β] in
private theorem see_mute {α : Type} (dock : Dock β) (items : List α) {sight : α → Sight Answer}
    (quiet : ∀ item, (sight item).call? = none) : Mute dock (dock.see (items.map sight)) := by
  refine ⟨items.map sight, ?_, rfl⟩
  rw [List.filterMap_map]
  exact List.filterMap_eq_nil_iff.mpr fun item _ => quiet item

omit [SessionBackend β] in
private theorem conclude_mute (dock : Dock β) (result : Except Failure Answer) : Mute dock (dock.conclude task result) := by
  unfold conclude
  dsimp only
  split
  · exact ⟨[], rfl, (List.append_nil _).symm⟩
  · exact ⟨_, rfl, rfl⟩

omit [SessionBackend β] in
theorem conclude_running (dock : Dock β) (task : Loop.TaskId) (result : Except Failure Answer) :
    (dock.conclude task result).scheduler.running = dock.scheduler.running.remove task ∧
      (dock.conclude task result).scheduler.fresh = dock.scheduler.fresh := by
  unfold conclude
  dsimp only
  split <;> exact ⟨rfl, rfl⟩

/-- A call begins, and waits under its task no longer. -/
structure Begins (task : Loop.TaskId) (call : BackendCall) (first last : Dock β) : Prop where
  running : last.scheduler.running = first.scheduler.running.remove task ∨
    ∃ job : Job β, job.stage.call? = none ∧ last.scheduler.running = first.scheduler.running.put task job
  fresh : last.scheduler.fresh = first.scheduler.fresh
  begun : last.begun = first.begun ++ [call]
  shown : Shows [] first last

theorem beginCall_begins (dock : Dock β) (call : BackendCall) : Begins task call dock (dock.beginCall task call) := by
  rcases answer : SessionBackend.begin call dock.backend with ⟨progress, records, backend⟩
  let seen : Dock β := { dock.see [.calling call] with backend := backend }
  have shown (last : Dock β) (mute : Mute seen last) :
      last.begun = dock.begun ++ [call] ∧ Shows [] dock last := by
    obtain ⟨more, quiet, sights⟩ := mute
    refine ⟨?_, .trans ⟨_, rfl, List.forall_mem_nil _⟩ ⟨more, sights, List.forall_mem_nil _⟩⟩
    rw [begun, sights, List.filterMap_append, quiet, List.append_nil]
    exact List.filterMap_append
  have logged : Mute seen (seen.log records) := see_mute seen records fun _ => rfl
  simp only [beginCall, show (dock.see [.calling call]).backend = dock.backend from rfl, answer]
  cases progress with
  | ended failure =>
    let noticed := ((seen.log records).log []).see ((dock.hook.conclude call.name call.session failure).map .noticed)
    have mute : Mute seen noticed :=
      (logged.trans (see_mute _ [] fun _ => rfl)).trans (see_mute _ _ fun _ => rfl)
    obtain ⟨running, fresh⟩ := conclude_running noticed task (.ok (.flag failure.isNone))
    obtain ⟨begun, kept⟩ := shown _ (mute.trans (conclude_mute noticed _))
    exact ⟨.inl running, fresh, begun, kept⟩
  | later failure more =>
    let waiting := (seen.log records).suspend task (.callEnding call failure more)
    obtain ⟨begun, kept⟩ := shown { waiting with scheduler := waiting.scheduler.enqueue (.resume task) } logged
    exact ⟨.inr ⟨_, rfl, rfl⟩, rfl, begun, kept⟩

/-- The turn in which a call begins: it is one of those that were submitted, and is no longer among those that wait. -/
theorem Begins.account {call : BackendCall} {label : Option String} (begins : Begins task call first last)
    (orderly : first.Orderly) (found : first.scheduler.running.find? task = some ⟨.call call, label⟩)
    (panel : last.panel = first.panel) (served : Served Request.panelwise first.backend last.backend) :
    Account (some task) [] ⟨first.panel, none⟩ first last := by
  have silent := orderly.silent
  have present : task ∈ first.scheduler.running.keys := Assoc.mem_keys_iff.mpr ⟨_, found⟩
  have keys : ∀ other ∈ last.scheduler.running.keys, other ∈ first.scheduler.running.keys := by
    rcases begins.running with gone | ⟨job, -, put⟩
    · rw [gone]
      exact ((Assoc.remove_sublist task first.scheduler.running).map Prod.fst).subset
    · rw [put]
      intro other member
      rcases Assoc.mem_keys_put member with rfl | old
      · exact present
      · exact old
  have unique : last.scheduler.running.keys.Nodup := by
    rcases begins.running with gone | ⟨job, -, put⟩
    · rw [gone]
      exact Assoc.keys_remove_nodup orderly.unique task
    · rw [put]
      exact Assoc.keys_put_nodup orderly.unique job
  have old : ∀ other ∈ last.scheduler.running.keys, other < first.scheduler.fresh :=
    fun other member => orderly.fresh other (keys other member)
  have taken : (first.callsFrom 0).Perm (call :: last.callsFrom 0) := by
    have rest : last.callsFrom 0 = (first.scheduler.running.remove task).filterMap fun entry =>
        if 0 ≤ entry.1 then entry.2.stage.call? else none := by
      rcases begins.running with gone | ⟨job, idle, put⟩
      · rw [callsFrom, gone]
      · rw [callsFrom, put]
        exact Assoc.filterMap_put_blank (by simp [idle])
    rw [rest]
    exact (Assoc.perm_remove found).filterMap _
  refine ⟨.rest served, panel.trans orderly.drained.symm, ⟨unique, begins.fresh ▸ old, panel ▸ orderly.drained⟩,
    Nat.le_of_eq begins.fresh.symm, fun other member => .inl (keys other member), ?_, ?_, ?_, ?_,
    fun busy => absurd silent.1 busy⟩
  · rw [Dock.submitted, silent.1]
    exact callsFrom_fresh old
  · rw [silent.1, List.append_nil, Dock.issued, Dock.issued, begins.begun, List.append_assoc]
    exact taken.symm.append_left _
  · rw [silent.2]
    exact begins.shown
  · rw [silent.1]
    exact List.forall_mem_nil _

private theorem resume_dealt (licensed : ∀ job ∈ start.jobs, Licensed Request.panelwise start.panel.registry job.stage)
    (orderly : start.Orderly) (attends : start.Attends task) :
      ∃ given ended, Dealt task given ended start (start.resume task) := by
  refine (?_ : Deals task start (start.resume task)) orderly attends
  unfold resume
  split
  · exact .calm (.refl start) (.refl start)
  next stage label found =>
    have allowed := licensed _ (Assoc.mem_values_of_find? found)
    cases stage with
    | begin request => exact begin_deals start allowed
    | call call => cases attends.operation task rfl _ found
    | callEnding call failure records =>
      exact .calm ((posts_rules task).concludeCall start call failure records)
        ((calm_rules task).concludeCall start call failure records)
    | spawning cwd purpose => exact endSpawn_deals cwd (Purpose.Known.tabbed allowed) (.refl start) rfl .rest
    | queued => exact enter_deals start
    | sweeping calls drainAfter =>
      exact .calm ((posts_rules task).endSweep start calls drainAfter) ((calm_rules task).endSweep start calls drainAfter)
    | draining answer => exact .calm ((posts_rules task).drain start answer) ((calm_rules task).drain start answer)
    | gathering tasks => exact .calm (conclude_posts start _) (conclude_calm start task _)

omit [SessionBackend β] in
theorem readied_ask (dock : Dock β) (request : Request β) (orderly : dock.Orderly) :
    Readied dock.scheduler.fresh dock { dock with scheduler := (dock.scheduler.create ⟨.begin request, none⟩).2 } := by
  have absent : dock.scheduler.fresh ∉ dock.scheduler.running.keys :=
    fun member => absurd (orderly.fresh _ member) (Nat.lt_irrefl _)
  refine ⟨rfl, rfl, ⟨Assoc.keys_put_nodup orderly.unique _, fun other member => ?_, orderly.drained⟩,
    ⟨?_, ?_⟩, Nat.le_succ _, fun other member => ?_, ?_, fun mark _ => ?_, rfl⟩
  · rcases Assoc.mem_keys_put member with rfl | old
    · exact Nat.lt_succ_self _
    · exact Nat.lt_succ_of_lt (orderly.fresh other old)
  · rintro task ⟨⟩
    exact Nat.lt_succ_self _
  · rintro task ⟨⟩ job found
    rw [show (dock.scheduler.create ⟨.begin request, none⟩).2.running.find? dock.scheduler.fresh = some _ from
      Assoc.find?_put_self _ _ _] at found
    cases found
    rfl
  · exact (Assoc.mem_keys_put member).symm.imp_right fun same => congrArg some same.symm
  · rintro task ⟨⟩
    exact .inr (Nat.le_refl _)
  · refine (Assoc.filterMap_put_new absent _).trans ?_
    simp [callsFrom, Stage.call?]

omit [SessionBackend β] in
theorem readied_turn {dock : Dock β} {rest : List Loop.Turn} (orderly : dock.Orderly) {job : Job β}
    (found : dock.scheduler.running.find? task = some job) (operation : job.stage.call? = none) :
    Readied task dock { dock with scheduler := { dock.scheduler with ready := rest } } := by
  have present : task ∈ dock.scheduler.running.keys := Assoc.mem_keys_iff.mpr ⟨_, found⟩
  refine ⟨rfl, rfl, ⟨orderly.unique, orderly.fresh, orderly.drained⟩, ⟨?_, ?_⟩, Nat.le_refl _, fun _ => .inl, ?_,
    fun _ _ => rfl, rfl⟩
  · rintro task ⟨⟩
    exact orderly.fresh task present
  · rintro task ⟨⟩ other same
    cases found.symm.trans same
    exact operation
  · rintro task ⟨⟩
    exact .inl present

theorem settled {move : Move β} {given : List String} {ended : Ending Failure Panel}
    (mine : first.actor? (.move move) = some task) (dealt : Dealt task given ended start (first.move move)) :
    ∀ failure, ended.failure = some failure → first.failure? (.move move) = some failure := by
  intro failure raised
  simp only [failure?, mine, Option.bind_some, dealt.failed failure raised]

theorem turn_resume {dock : Dock β} {rest : List Loop.Turn} (ready : dock.scheduler.ready = .resume task :: rest) :
    dock.turn = Dock.resume { dock with scheduler := { dock.scheduler with ready := rest } } task ∧
      dock.actor? (.move .turn) = some task := by
  simp only [turn, actor?, Loop.Scheduler.next?, ready, and_self]

private theorem resume_account {dock : Dock β} {rest : List Loop.Turn} (orderly : dock.Orderly)
    (licensed : ∀ job ∈ dock.jobs, Licensed Request.panelwise dock.panel.registry job.stage)
    (ready : dock.scheduler.ready = .resume task :: rest) :
    ∃ given ended, Account (some task) given ended dock dock.turn ∧
      ∀ failure, ended.failure = some failure → dock.failure? (.move .turn) = some failure := by
  let start : Dock β := { dock with scheduler := { dock.scheduler with ready := rest } }
  obtain ⟨turned, mine⟩ : dock.turn = start.resume task ∧ dock.actor? (.move .turn) = some task := turn_resume ready
  cases found : dock.scheduler.running.find? task with
  | none =>
    have stays : start.resume task = start := by
      simp only [resume, show start.scheduler.running = dock.scheduler.running from rfl, found]
    rw [turned, stays]
    exact ⟨_, _, .of_alike orderly _ rfl rfl rfl rfl rfl, fun _ raised => Ending.unfailing raised⟩
  | some job =>
    cases operation : job.stage.call? with
    | none =>
      have readied : Readied task dock start := readied_turn orderly found operation
      have known : ∀ job ∈ start.jobs, Licensed Request.panelwise start.panel.registry job.stage := licensed
      obtain ⟨given, ended, dealt⟩ := resume_dealt known readied.orderly readied.attends
      rw [← turned] at dealt
      exact ⟨given, ended, dealt.account orderly readied, settled mine dealt⟩
    | some call =>
      obtain ⟨stage, label⟩ := job
      obtain rfl : stage = .call call := by
        cases stage with
        | call submitted => exact congrArg Stage.call (Option.some.inj operation)
        | _ => cases operation
      have begun : start.resume task = start.beginCall task call := by
        simp only [resume, show start.scheduler.running = dock.scheduler.running from rfl, found]
      have yields : Yields (fun _ => True) start _ _ (start.beginCall task call) := beginCall_yields start task call
      have begins : Begins task call start (start.beginCall task call) := beginCall_begins start call
      have same : Begins task call dock (start.beginCall task call) :=
        ⟨begins.running, begins.fresh, begins.begun, begins.shown⟩
      rw [turned, begun]
      refine ⟨_, _, same.account orderly found yields.panel ?_, fun _ raised => Ending.unfailing raised⟩
      rw [yields.backend]
      exact .call call

theorem turn_account {dock : Dock β} (orderly : dock.Orderly)
    (licensed : ∀ job ∈ dock.jobs, Licensed Request.panelwise dock.panel.registry job.stage) :
    ∃ given ended, Account (dock.actor? (.move .turn)) given ended dock dock.turn ∧
      ∀ failure, ended.failure = some failure → dock.failure? (.move .turn) = some failure := by
  cases ready : dock.scheduler.ready with
  | nil =>
    have turned : dock.turn = dock := by simp only [turn, Loop.Scheduler.next?, ready]
    rw [turned]
    exact ⟨_, _, .of_alike orderly _ rfl rfl rfl rfl rfl, fun _ raised => Ending.unfailing raised⟩
  | cons turn rest =>
    cases turn with
    | resume task =>
      exact (turn_resume ready).2 ▸ resume_account orderly licensed ready
    | leave task =>
      simp only [Dock.turn, Loop.Scheduler.next?, ready]
      exact ⟨_, _, .of_alike orderly _ rfl rfl rfl rfl rfl, fun _ raised => Ending.unfailing raised⟩
    | arrive group =>
      simp only [Dock.turn, Loop.Scheduler.next?, ready]
      have arrived (scheduler : Loop.Scheduler (Job β) (Except Failure Answer)) :
          (scheduler.arrive group).fresh = scheduler.fresh := by
        unfold Loop.Scheduler.arrive
        split
        · rfl
        · split <;> rfl
      exact ⟨_, _, .of_alike orderly _ rfl rfl (Loop.Scheduler.running_arrive _ group) (arrived _) rfl,
        fun _ raised => Ending.unfailing raised⟩

theorem fire_account (dock : Dock β) (orderly : dock.Orderly) (place : Nat) :
    Account none [] (ending (Panel.fire place) dock.panel) dock (dock.beat (.fire place)) := by
  have posts : Posts none _ _ dock (dock.onPanel (Panel.fire place)).2 := onPanel_posts dock (Panel.fire place)
  have yields : Yields (fun _ => True) dock _ _ (dock.onPanel (Panel.fire place)).2 := onPanel_yields dock (Panel.fire place)
  have attends : dock.Attends none := ⟨by simp, by simp⟩
  have readied : Readied none dock dock :=
    ⟨rfl, rfl, orderly, attends, Nat.le_refl _, fun _ => .inl, by simp, fun _ _ => rfl, rfl⟩
  have posted := posts orderly attends
  rw [← state_ending] at posted
  have deal : Deal dock.panel dock.backend [] (ending (Panel.fire place) dock.panel)
      (dock.onPanel (Panel.fire place)).2.backend := by
    rw [yields.backend]
    exact .fire place
  refine posted.account deal ?_ (by simp) orderly readied
  rw [state_ending]
  exact yields.panel

/-- Whatever the next beat is, it has an account, and a failure that something comes to shows. -/
theorem beat_account (dock : Dock β) {beat : Beat β} (orderly : dock.Orderly)
    (licensed : ∀ job ∈ dock.jobs, Licensed Request.panelwise dock.panel.registry job.stage)
    (allowed : beat.panelwise = true) : ∃ given ended, Account (dock.actor? beat) given ended dock (dock.beat beat) ∧
      ∀ failure, ended.failure = some failure → dock.failure? beat = some failure := by
  cases beat with
  | fire place =>
    refine ⟨_, _, fire_account dock orderly place, fun failure raised => ?_⟩
    simp only [failure?, onPanel]
    unfold ending at raised
    cases ran : Panel.fire place dock.panel with
    | ok value panel => rw [ran] at raised; cases raised
    | error reason panel => rw [ran] at raised; cases raised; rfl
  | move move =>
    cases move with
    | announce event payload => cases allowed
    | answer task =>
      refine ⟨_, _, .of_alike orderly _ ?_ ?_ ?_ ?_ ?_, fun _ raised => Ending.unfailing raised⟩
      all_goals
        simp only [beat, Dock.move]
        split <;> rfl
    | ask request =>
      have readied := readied_ask dock request orderly
      have novel : ∀ job ∈ ({ dock with scheduler := (dock.scheduler.create ⟨.begin request, none⟩).2 } : Dock β).jobs,
          Licensed Request.panelwise dock.panel.registry job.stage := by
        intro job member
        rcases Assoc.mem_values_put member with rfl | old
        · exact allowed
        · exact licensed job old
      obtain ⟨given, ended, dealt⟩ := resume_dealt novel readied.orderly readied.attends
      exact ⟨given, ended, dealt.account orderly readied, settled rfl dealt⟩
    | turn => exact turn_account orderly licensed

theorem Readied.performed {request : Request β} {act : PanelStep Answer} {label : Option String}
    (readied : Readied task first start) (orderly : first.Orderly)
    (begins : start.scheduler.running.find? task = some ⟨.begin request, label⟩) (allowed : request.panelwise = true)
    (found : Panel.perform? request = some act) :
    Account (some task) [] (ending act first.panel) first (start.resume task) := by
  have begun : start.resume task = (start.onPanel act).2.conclude task (start.onPanel act).1 := by
    simp only [resume, begins]
    cases request <;> cases found <;> rfl
  have dealt := performed_dealt allowed found readied.orderly readied.attends
  rw [begun, ← readied.panel]
  exact dealt.account orderly readied

theorem asked_account {dock : Dock β} {beat : Beat β} {request : Request β} {act : PanelStep Answer}
    (orderly : dock.Orderly) (asked : dock.asked? beat = some request) (allowed : request.panelwise = true)
    (found : Panel.perform? request = some act) :
    Account (dock.actor? beat) [] (ending act dock.panel) dock (dock.beat beat) := by
  cases beat with
  | fire place => cases asked
  | move move =>
    cases move with
    | announce event payload => cases asked
    | answer task => cases asked
    | ask other =>
      cases asked
      exact (readied_ask dock request orderly).performed orderly (Assoc.find?_put_self _ _ _) allowed found
    | turn =>
      cases ready : dock.scheduler.ready with
      | nil => simp [asked?, actor?, ready] at asked
      | cons turn rest =>
        cases turn with
        | leave | arrive => simp [asked?, actor?, ready] at asked
        | resume task =>
          simp only [asked?, actor?, ready, Option.bind_some] at asked
          split at asked
          next other begins =>
            cases asked
            obtain ⟨⟨stage, label⟩, live, rfl⟩ := Option.map_eq_some_iff.mp begins
            obtain ⟨turned, mine⟩ := turn_resume ready
            rw [mine, show dock.beat (.move .turn) = _ from turned]
            exact (readied_turn orderly live rfl).performed orderly live allowed found
          next => cases asked

end Beats

end Dock

theorem Panel.create_drained {config : PanelConfig} {scheme : String} {font : Font} {height : Json} {panel : Panel}
    (created : Panel.create config scheme font height = .ok panel) : panel.drained = panel := by
  simp only [create, bind, Except.bind] at created
  split at created
  · cases created
  · cases created
    rfl

/-- The surroundings have taken over everything that a stroke let be seen. -/
theorem Stroke.drained {β : Type} [SessionBackend β] {simple : Request β → Bool} {landing : Option (String × Purpose)}
    {panel next : Panel} {backend other : β} (stroke : Stroke simple landing panel backend next other)
    (drained : panel.drained = panel) : next.drained = next := by
  cases stroke with
  | rest | ask | call | adjust => exact drained
  | perform | hide | reveal | sweep => rfl
  | land | landAtOnce => exact Panel.landed_drained

namespace Dock
variable {β : Type} [SessionBackend β] {simple : Request β → Bool} {dock : Dock β}

theorem move_drained {move : Move β} (valid : dock.Valid simple) (allowed : move.only simple = true)
    (drained : dock.panel.drained = dock.panel) : (dock.move move).panel.drained = (dock.move move).panel := by
  cases move with
  | ask request =>
    have strikes : Strikes simple none dock (dock.move (.ask request)) := ask_strikes dock allowed
    obtain ⟨panel, backend, stroke, yields⟩ := strikes
    rw [yields.panel]
    exact stroke.drained drained
  | turn =>
    obtain ⟨panel, backend, stroke, yields⟩ := turn_strikes dock valid.licensed
    rw [show (dock.move .turn).panel = panel from yields.panel]
    exact stroke.drained drained
  | answer task =>
    have calm : Calm (fun _ => False) dock (dock.move (.answer task)) := answer_calm dock task
    rw [calm.panel]
    exact drained
  | announce event payload => rfl

theorem run_drained {moves : List (Move β)} (valid : dock.Valid simple) (allowed : ∀ move ∈ moves, move.only simple = true)
    (drained : dock.panel.drained = dock.panel) : (dock.run moves).panel.drained = (dock.run moves).panel := by
  induction moves generalizing dock with
  | nil => exact drained
  | cons first rest ih =>
    have now := allowed first (List.mem_cons_self ..)
    exact ih (valid.move now) (fun move member => allowed move (List.mem_cons_of_mem _ member))
      (move_drained valid now drained)

end Dock

end TerminalDock
