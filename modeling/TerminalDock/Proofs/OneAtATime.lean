import TerminalDock.Proofs.LivelyRuns
import TerminalDock.Proofs.LockTurns
import TerminalDock.Proofs.PanelInvariant

/-! Operations that are run one at a time: each is asked for once the one before it has ended. Calls to the backend may
still be under way, events arrive and frames come all the same. Whoever goes on with a process then remembers the session
that is active, so only the active session has the focus, and it alone is shown while the panel is. -/

namespace TerminalDock
open Proofs.Steps

def Stage.posted {β : Type} : Stage β → Bool
  | .call _ | .callEnding .. => true
  | _ => false

/-- Whoever waits for a process remembers the active session; nothing else has still to begin. -/
def Stage.Recalls {β : Type} (registry : Registry) : Stage β → Prop
  | .begin _ => False
  | .spawning _ purpose => purpose.Recalls registry
  | _ => True

def Request.lone {β : Type} : Request β → Bool
  | .background .. | .gather _ => false
  | _ => true

theorem Stage.Recalls.of_posted {β : Type} {stage : Stage β} (posted : stage.posted = true) (registry : Registry) :
    stage.Recalls registry := by
  cases stage with
  | call | callEnding => trivial
  | _ => cases posted

theorem Request.grants_of_lone {β : Type} {request : Request β} (lone : request.lone = true) :
    request.Grants (·.posted = true) := by
  cases request with
  | closeAll | shutdown => exact fun _ => rfl
  | background | gather => cases lone
  | _ => trivial

theorem Purpose.Recalls.of_face {first last : Registry} (same : last.face = first.face)
    {purpose : Purpose} (recalls : purpose.Recalls first) : purpose.Recalls last := by
  have remembers (previous : Option Session)
      (before : ∀ session, first.activeSession? = some session →
        session.surface.focused = true ∨ session.view.visible = true → previous.map Session.serial = some session.serial) :
      ∀ session, last.activeSession? = some session →
        session.surface.focused = true ∨ session.view.visible = true →
          previous.map Session.serial = some session.serial := by
    intro session active front
    obtain ⟨id, chosen, live⟩ := Registry.live_of_active active
    have found : Assoc.find? id last.face.sessions = some session.face := by
      rw [Registry.find?_face, live]
      rfl
    rw [same, Registry.find?_face] at found
    obtain ⟨old, there, alike⟩ := Option.map_eq_some_iff.mp found
    have focused : old.surface.focused = session.surface.focused := congrArg Session.Face.focused alike
    have visible : old.view.visible = session.view.visible := congrArg Session.Face.visible alike
    have serial : old.serial = session.serial := congrArg (·.tag.1) alike
    have now : first.activeSession? = some old := by
      rw [Registry.activeSession?, show first.active = some id from (congrArg Registry.Face.active same).symm.trans chosen]
      exact there
    rw [← serial]
    exact before old now (by rwa [focused, visible])
  cases purpose with
  | create => trivial
  | addTab previous | addSession previous | openPanel previous => exact remembers previous recalls

theorem Stage.Recalls.of_face {β : Type} {first last : Registry} (same : last.face = first.face)
    {stage : Stage β} (recalls : stage.Recalls first) : stage.Recalls last := by
  cases stage with
  | spawning cwd purpose => exact Purpose.Recalls.of_face same recalls
  | _ => exact recalls

namespace Agenda
variable {β : Type} {who : Option Loop.TaskId} {agenda next : Agenda β}

/-- Apart from the task that has its turn, nothing is under way that was not before, but calls. -/
def Adds (who : Option Loop.TaskId) (agenda next : Agenda β) : Prop :=
  ∀ task job, next.scheduler.running.find? task = some job → who ≠ some task →
    agenda.scheduler.running.find? task = some job ∨ job.stage.posted = true

theorem Adds.trans {middle : Agenda β} (before : Adds who agenda middle) (later : Adds who middle next) :
    Adds who agenda next := by
  intro task job found other
  rcases later task job found other with old | posted
  · exact before task job old other
  · exact .inr posted

theorem Adds.of_put {task : Loop.TaskId} {job : Job β} (fair : who = some task ∨ job.stage.posted = true)
    (put : next.scheduler.running = agenda.scheduler.running.put task job) : Adds who agenda next := by
  intro other found there elsewhere
  rw [put] at there
  by_cases same : other = task
  · subst same
    rw [Assoc.find?_put_self] at there
    cases there
    exact .inr (fair.resolve_left elsewhere)
  · rw [Assoc.find?_put_of_ne same] at there
    exact .inl there

theorem Adds.of_remove {task : Loop.TaskId} (unique : agenda.scheduler.running.keys.Nodup)
    (removed : next.scheduler.running = agenda.scheduler.running.remove task) : Adds who agenda next := by
  intro other found there _
  rw [removed] at there
  exact .inl (Assoc.find?_of_remove unique there)

theorem Adds.of_running (running : next.scheduler.running = agenda.scheduler.running) : Adds who agenda next := by
  intro other found there _
  rw [running] at there
  exact .inl there

theorem Step.adds (step : Step (·.posted = true) who agenda next) (bounded : agenda.Bounded) : Adds who agenda next := by
  cases step with
  | shift | wake => exact .of_running rfl
  | start label fair => exact .of_put (.inr fair) rfl
  | submit call => exact .of_put (.inr rfl) (Loop.Scheduler.running_submit ..)
  | suspend job mine present waits => exact .of_put (.inl mine) rfl
  | finish mine present => exact .of_remove bounded.tasks.unique rfl
  | waitFor mine present => exact .of_running (Loop.Scheduler.running_waitFor ..)

theorem Steps.adds (steps : Steps (·.posted = true) who agenda next) (bounded : agenda.Bounded)
    (given : ∀ task, who = some task → task < agenda.scheduler.fresh) : Adds who agenda next :=
  (steps.keep (Adds who agenda) bounded given (fun step before added => added.trans (step.adds before)) (.of_running rfl)).2

end Agenda

namespace Dock
variable {β : Type}

def Recalls (task : Loop.TaskId) (dock : Dock β) : Prop :=
  ∀ job, dock.scheduler.running.find? task = some job → job.stage.Recalls dock.panel.registry

/-- A part of the turn of a task that ends in this way. -/
def Leaves (task : Loop.TaskId) (first last : Dock β) : Prop :=
  first.agenda.Bounded → task ∈ first.scheduler.running.keys → last.Recalls task

section Leaving
variable {task : Loop.TaskId} {first middle last : Dock β}

theorem Stays.andLeaves (stays : Stays (·.posted = true) task first middle) (leaves : Leaves task middle last) :
    Leaves task first last := by
  intro bounded present
  have given : ∀ who, some task = some who → who < first.agenda.scheduler.fresh := by
    rintro who ⟨⟩
    exact bounded.tasks.running task present
  exact leaves (stays.steps.keep (fun _ => True) bounded given (fun _ _ _ => trivial) trivial).1
    (stays.kept task present)

theorem conclude_gone {dock : Dock β} (unique : dock.scheduler.running.keys.Nodup) (result : Except Failure Answer) :
    (dock.conclude task result).scheduler.running.find? task = none := by
  rw [(conclude_running dock task result).1]
  exact Assoc.find?_remove_self unique

private theorem conclude_leaves (dock : Dock β) (result : Except Failure Answer) :
    Leaves task dock (dock.conclude task result) := by
  intro bounded _ job found
  cases (conclude_gone bounded.tasks.unique result).symm.trans found

private theorem suspend_recalls (dock : Dock β) {stage : Stage β} (recalls : stage.Recalls dock.panel.registry) :
    (dock.suspend task stage).Recalls task := by
  intro job found
  rw [show (dock.suspend task stage).scheduler.running = dock.scheduler.running.put task _ from rfl,
    Assoc.find?_put_self] at found
  cases found
  exact recalls

/-- Whoever has to wait for a process has done nothing to the panel yet. -/
theorem leaves_rules (task : Loop.TaskId) :
    TurnRules (fun stage : Stage β => stage.posted = true) task (Stays (·.posted = true) task) (Leaves task) where
  toPartRules := stays_rules
  follow := Stays.andLeaves
  conclude := conclude_leaves
  await dock tasks stage gathers := by
    intro _ _ job found
    rw [Loop.Scheduler.running_waitFor] at found
    refine suspend_recalls dock ?_ job found
    cases stage with
    | sweeping | draining | gathering => trivial
    | _ => cases gathers
  hold dock cwd purpose fresh := by
    have recalls : (Stage.spawning cwd purpose : Stage β).Recalls dock.panel.registry := fresh.recalls
    exact fun _ _ => suspend_recalls dock recalls
  queue dock := by
    have recalls : (Stage.queued : Stage β).Recalls dock.panel.registry := trivial
    exact fun _ _ => suspend_recalls dock recalls

variable [SessionBackend β]

private theorem begin_leaves (dock : Dock β) {request : Request β} (lone : request.lone = true) :
    Leaves task dock (dock.begin task request) := by
  cases found : Panel.perform? request with
  | none => exact (leaves_rules task).begin dock (Request.grants_of_lone lone) found
  | some act =>
    rw [begin_performs found]
    exact (onPanel_stays dock act).andLeaves (conclude_leaves _ _)

private theorem resume_leaves (dock : Dock β) {job : Job β} (found : dock.scheduler.running.find? task = some job)
    (engaged : job.stage.posted = false) (recalls : job.stage.Recalls dock.panel.registry) :
    Leaves task dock (dock.resume task) := by
  refine (leaves_rules task).resume dock found (fun request begun => ?_) fun call begun => ?_
  · rw [begun] at recalls
    cases recalls
  · rw [begun] at engaged
    cases engaged

theorem resume_adds {dock : Dock β} (bounded : dock.agenda.Bounded) {job : Job β}
    (found : dock.scheduler.running.find? task = some job) (recalls : job.stage.Recalls dock.panel.registry) :
    Agenda.Adds task dock.agenda (dock.resume task).agenda := by
  have present : task ∈ dock.scheduler.running.keys := Assoc.mem_keys_iff.mpr ⟨job, found⟩
  have worked (operation : job.stage.call? = none) : Agenda.Adds task dock.agenda (dock.resume task).agenda := by
    have steps : Agenda.Steps (·.posted = true) task dock.agenda (dock.resume task).agenda := by
      refine resume_works dock found operation fun request begins => ?_
      rw [begins] at recalls
      cases recalls
    refine steps.adds bounded ?_
    rintro who ⟨⟩
    exact bounded.tasks.running task present
  obtain ⟨stage, label⟩ := job
  cases stage with
  | call call =>
    have goes : dock.resume task = dock.beginCall task call := by simp only [resume, found]
    rw [goes]
    rcases beginCall_agenda dock found with ⟨result, ends⟩ | ⟨failure, records, lingers⟩
    · rw [ends]
      exact .of_remove bounded.tasks.unique rfl
    · rw [lingers]
      exact .of_put (.inl rfl) rfl
  | _ => exact worked rfl

theorem resume_posted {dock : Dock β} (bounded : dock.agenda.Bounded) {job : Job β}
    (found : dock.scheduler.running.find? task = some job) (posted : job.stage.posted = true) :
    (dock.resume task).panel = dock.panel ∧
      (∀ job, (dock.resume task).scheduler.running.find? task = some job → job.stage.posted = true) ∧
      ∀ other ∈ (dock.resume task).scheduler.running.keys, other ∈ dock.scheduler.running.keys := by
  have unique : dock.scheduler.running.keys.Nodup := bounded.tasks.unique
  have fewer {table : Assoc Loop.TaskId (Job β)} (removed : table = dock.scheduler.running.remove task) :
      ∀ other ∈ table.keys, other ∈ dock.scheduler.running.keys := by
    rw [removed]
    exact ((Assoc.remove_sublist task dock.scheduler.running).map Prod.fst).subset
  have present : task ∈ dock.scheduler.running.keys := Assoc.mem_keys_iff.mpr ⟨job, found⟩
  obtain ⟨stage, label⟩ := job
  simp only [resume, found]
  cases stage with
  | call call =>
    have yields : Yields (fun _ => True) dock _ _ (dock.beginCall task call) := beginCall_yields dock task call
    rcases beginCall_agenda dock found with ⟨result, ends⟩ | ⟨failure, records, lingers⟩
    · have running : (dock.beginCall task call).scheduler.running = dock.scheduler.running.remove task :=
        congrArg (·.scheduler.running) ends
      refine ⟨yields.panel, fun job there => ?_, fewer running⟩
      rw [running, Assoc.find?_remove_self unique] at there
      cases there
    · have running : (dock.beginCall task call).scheduler.running = dock.scheduler.running.put task _ :=
        congrArg (·.scheduler.running) lingers
      refine ⟨yields.panel, fun job there => ?_, fun other member => ?_⟩
      · rw [running, Assoc.find?_put_self] at there
        cases there
        rfl
      · rw [running] at member
        rcases Assoc.mem_keys_put member with rfl | old
        · exact present
        · exact old
  | callEnding call failure records =>
    have calm : Calm (fun _ => True) dock (dock.concludeCall task call failure records) :=
      (calm_rules task).concludeCall dock call failure records
    let noticed : Dock β :=
      (dock.log records).see ((dock.hook.conclude call.name call.session failure).map .noticed)
    have same : noticed.scheduler.running.keys.Nodup := unique
    refine ⟨calm.panel, fun job there => ?_, fewer (conclude_running noticed task _).1⟩
    have gone : (dock.concludeCall task call failure records).scheduler.running.find? task = none :=
      conclude_gone same _
    cases gone.symm.trans there
  | _ => cases posted

end Leaving

def AtRest (dock : Dock β) : Prop :=
  ∀ job ∈ dock.jobs, job.stage.posted = true

instance (dock : Dock β) : Decidable dock.AtRest :=
  inferInstanceAs (Decidable (∀ job ∈ dock.jobs, job.stage.posted = true))

/-- Whoever asks for an operation waits until the one before it has ended. -/
def Single (dock : Dock β) : Beat β → Prop
  | .move (.ask request) => request.lone = true ∧ dock.AtRest
  | _ => True

instance (dock : Dock β) (beat : Beat β) : Decidable (dock.Single beat) :=
  match beat with
  | .move (.ask request) => inferInstanceAs (Decidable (request.lone = true ∧ dock.AtRest))
  | .move .turn | .move (.answer _) | .move (.announce ..) | .fire _ => .isTrue trivial

/-- One operation at most is under way, and it remembers the active session while it waits for a process. -/
structure Solo (dock : Dock β) : Prop where
  alone : ∀ task other job second, dock.scheduler.running.find? task = some job →
    dock.scheduler.running.find? other = some second → job.stage.posted = false → second.stage.posted = false → task = other
  recalls : ∀ task, dock.Recalls task

namespace Solo
variable {first last : Dock β} {task : Loop.TaskId}

theorem of_adds (solo : first.Solo) (adds : Agenda.Adds none first.agenda last.agenda)
    (same : last.panel.face = first.panel.face) : last.Solo := by
  have faces : last.panel.registry.face = first.panel.registry.face := congrArg Panel.Face.registry same
  refine ⟨fun task other job second found there engaged busy => ?_, fun task job found => ?_⟩
  · have old := (adds task job found (Option.some_ne_none task).symm).resolve_right (by simp [engaged])
    have older := (adds other second there (Option.some_ne_none other).symm).resolve_right (by simp [busy])
    exact solo.alone task other job second old older engaged busy
  · rcases adds task job found (Option.some_ne_none task).symm with old | posted
    · exact (solo.recalls task job old).of_face faces
    · exact .of_posted posted _

private theorem of_engaged (adds : Agenda.Adds task first.agenda last.agenda) (recalls : last.Recalls task)
    (others : ∀ other job, first.scheduler.running.find? other = some job → other ≠ task → job.stage.posted = true) :
    last.Solo := by
  have posted {other : Loop.TaskId} {job : Job β} (found : last.scheduler.running.find? other = some job)
      (elsewhere : other ≠ task) : job.stage.posted = true := by
    rcases adds other job found (fun same => elsewhere (Option.some.inj same).symm) with old | posted
    · exact others other job old elsewhere
    · exact posted
  have mine {other : Loop.TaskId} {job : Job β} (found : last.scheduler.running.find? other = some job)
      (engaged : job.stage.posted = false) : other = task := by
    by_contra elsewhere
    cases engaged.symm.trans (posted found elsewhere)
  refine ⟨fun one other job second found there engaged busy => (mine found engaged).trans (mine there busy).symm,
    fun other job found => ?_⟩
  by_cases here : other = task
  · subst here
    exact recalls job found
  · exact .of_posted (posted found here) _

theorem of_posted (solo : first.Solo) (adds : Agenda.Adds task first.agenda last.agenda) (same : last.panel = first.panel)
    (posted : ∀ job, last.scheduler.running.find? task = some job → job.stage.posted = true) : last.Solo := by
  have old {other : Loop.TaskId} {job : Job β} (found : last.scheduler.running.find? other = some job)
      (engaged : job.stage.posted = false) : first.scheduler.running.find? other = some job := by
    have elsewhere : other ≠ task := by
      rintro rfl
      cases engaged.symm.trans (posted job found)
    refine (adds other job found fun same => elsewhere (Option.some.inj same).symm).resolve_right ?_
    simp [engaged]
  refine ⟨fun one other job second found there engaged busy =>
    solo.alone one other job second (old found engaged) (old there busy) engaged busy, fun other job found => ?_⟩
  cases kind : job.stage.posted with
  | true => exact .of_posted kind _
  | false =>
    rw [same]
    exact solo.recalls other job (old found kind)

end Solo

variable [SessionBackend β] {dock : Dock β}

theorem Solo.turn (solo : dock.Solo) (bounded : dock.agenda.Bounded) : dock.turn.Solo := by
  have adds (running : dock.turn.scheduler.running = dock.scheduler.running) :
      Agenda.Adds none dock.agenda dock.turn.agenda := .of_running running
  cases ready : dock.scheduler.ready with
  | nil =>
    have idle : dock.turn = dock := by simp only [Dock.turn, Loop.Scheduler.next?, ready]
    rwa [idle]
  | cons turn rest =>
    cases turn with
    | leave task =>
      refine solo.of_adds (adds ?_) ?_ <;> simp only [Dock.turn, Loop.Scheduler.next?, ready]
      rfl
    | arrive group =>
      refine solo.of_adds (adds ?_) ?_ <;> simp only [Dock.turn, Loop.Scheduler.next?, ready]
      exact Loop.Scheduler.running_arrive _ group
    | resume task =>
      let start : Dock β := { dock with scheduler := { dock.scheduler with ready := rest } }
      have popped : start.agenda.Bounded := bounded.pop fun other member => ready ▸ List.mem_cons_of_mem _ member
      have begun : start.Solo := ⟨solo.alone, solo.recalls⟩
      rw [(turn_resume ready).1]
      change (start.resume task).Solo
      cases found : start.scheduler.running.find? task with
      | none =>
        have lost : start.resume task = start := by simp only [resume, found]
        rwa [lost]
      | some job =>
        have recalls := begun.recalls task job found
        have adds := resume_adds popped found recalls
        cases kind : job.stage.posted with
        | true =>
          obtain ⟨same, posted, -⟩ := resume_posted popped found kind
          exact begun.of_posted adds same posted
        | false =>
          have present : task ∈ start.scheduler.running.keys := Assoc.mem_keys_iff.mpr ⟨job, found⟩
          refine .of_engaged adds (resume_leaves start found kind recalls popped present) fun other second there
            elsewhere => ?_
          by_contra busy
          exact elsewhere (begun.alone other task second job there found (Bool.eq_false_iff.mpr busy) kind)

theorem AtRest.ask (rest : dock.AtRest) (bounded : dock.agenda.Bounded) {request : Request β}
    (lone : request.lone = true) : (dock.move (.ask request)).Solo := by
  let start : Dock β := { dock with scheduler := (dock.scheduler.create ⟨.begin request, none⟩).2 }
  have put : start.scheduler.running = dock.scheduler.running.put dock.scheduler.fresh ⟨.begin request, none⟩ := rfl
  have present : dock.scheduler.fresh ∈ start.scheduler.running.keys :=
    Assoc.mem_keys_iff.mpr ⟨_, Assoc.find?_put_self _ _ _⟩
  have created : start.agenda.Bounded := bounded.create ⟨.begin request, none⟩
  rw [move_ask]
  have steps : Agenda.Steps (·.posted = true) (some dock.scheduler.fresh) start.agenda
      (start.begin dock.scheduler.fresh request).agenda := begin_works start (Request.grants_of_lone lone) present
  refine .of_engaged (steps.adds created ?_) (begin_leaves start lone created present) fun other job found elsewhere => ?_
  · rintro who ⟨⟩
    exact created.tasks.running _ present
  · rw [put, Assoc.find?_put_of_ne elsewhere] at found
    exact rest job (Assoc.mem_values_of_find? found)

theorem Solo.beat (solo : dock.Solo) (fair : dock.Fair) (valid : dock.panel.registry.WellFormed) {beat : Beat β}
    (single : dock.Single beat) : (dock.beat beat).Solo := by
  have bounded := fair.tasks
  have nobody (who : Loop.TaskId) (never : none = some who) : who < dock.agenda.scheduler.fresh :=
    absurd never.symm (Option.some_ne_none _)
  cases beat with
  | fire place =>
    have stays : Stays (·.posted = true) none dock (dock.onPanel (Panel.fire place)).2 := onPanel_stays dock _
    refine solo.of_adds (stays.steps.adds bounded nobody) ?_
    have yields : Yields (fun _ => True) dock _ _ (dock.onPanel (Panel.fire place)).2 :=
      onPanel_yields dock (Panel.fire place)
    rw [show (dock.beat (.fire place)).panel = _ from yields.panel, Panel.drained_face]
    exact Panel.face_of_stance (Panel.Mild.rules.fire place dock.panel valid)
  | move move =>
    cases move with
    | ask request => exact single.2.ask bounded single.1
    | turn => exact solo.turn bounded
    | answer task =>
      unfold Dock.beat Dock.move
      dsimp only
      split
      · exact ⟨solo.alone, solo.recalls⟩
      · exact solo
    | announce event payload =>
      have stays : Stays (·.posted = true) none dock (dock.change fun panel => (panel.emit event payload).2) :=
        change_stays dock _
      refine solo.of_adds (stays.steps.adds bounded nobody) ?_
      have yields : Yields (fun _ => True) dock _ _ (dock.move (.announce event payload)) :=
        announce_yields dock event payload
      rw [show (dock.beat (.move (.announce event payload))).panel = _ from yields.panel, Panel.drained_face]
      exact Panel.tellAll_face valid event payload _

theorem Solo.timely {β : Type} {dock : Dock β} (solo : dock.Solo) : dock.Timely := by
  rintro ⟨cwd, purpose⟩ waited
  obtain ⟨task, job, found, stage⟩ : ∃ task job, dock.scheduler.running.find? task = some job ∧
      job.stage = .spawning cwd purpose := by
    unfold landing? at waited
    split at waited
    next task rest ready =>
      split at waited
      next cwd purpose spawns =>
        cases waited
        obtain ⟨job, found, stage⟩ := Option.map_eq_some_iff.mp spawns
        exact ⟨task, job, found, stage⟩
      next => cases waited
    next => cases waited
  have recalls := solo.recalls task job found
  rwa [stage] at recalls

/-- What holds of a panel whose operations are run one at a time. -/
structure Untangled (dock : Dock β) : Prop where
  steady : dock.Steady
  fair : dock.Fair
  solo : dock.Solo
  staged : dock.panel.face.Staged
  firm : dock.panel.face.base.Firm
  occupied : dock.panel.registry.active = none → dock.panel.face.base.roll = []

namespace Untangled

theorem beat (untangled : dock.Untangled) {beat : Beat β} (allowed : beat.lively = true) (single : dock.Single beat) :
    (dock.beat beat).Untangled := by
  have step : Panel.Face.Step true dock.panel.face (dock.beat beat).panel.face :=
    untangled.steady.step allowed fun _ => untangled.solo.timely
  have valid := untangled.steady.valid.registry
  exact ⟨untangled.steady.beat allowed, untangled.fair.beat beat, untangled.solo.beat untangled.fair valid single,
    untangled.staged.step (Panel.keys_unique valid) step, step.firm untangled.firm, step.occupied untangled.occupied⟩

theorem play {beats : List (Beat β)} (untangled : dock.Untangled) (allowed : ∀ beat ∈ beats, beat.lively = true)
    (singly : dock.Along Single beats) : (dock.play beats).Untangled := by
  induction beats generalizing dock with
  | nil => exact untangled
  | cons first rest ih =>
    have now := allowed first (List.mem_cons_self ..)
    exact ih (untangled.beat now singly.1) (fun beat member => allowed beat (List.mem_cons_of_mem _ member)) singly.2

end Untangled

theorem untangled_fresh {panel : Panel} (new : panel.New) (firm : panel.face.base.Firm) (empty : panel.face.base.roll = [])
    (backend : β) (hook : Transport.FailureHook) : (Dock.fresh panel backend hook).Untangled := by
  have nobody (task : Loop.TaskId) (job : Job β) :
      (Dock.fresh panel backend hook).scheduler.running.find? task ≠ some job := nofun
  refine ⟨steady_fresh new backend hook, fair_fresh panel backend hook, ⟨?_, ?_⟩, ⟨?_, ?_⟩, firm, fun _ => empty⟩
  · exact fun task other job second found => absurd found (nobody task job)
  · exact fun task job found => absurd found (nobody task job)
  · exact new.blank.hidden.trans new.blank.unfit.symm
  · intro name session member
    have none_yet : panel.face.registry.sessions = [] := Panel.Face.roll_nil.mp empty
    rw [show (Dock.fresh panel backend hook).panel = panel from rfl, none_yet] at member
    cases member

end Dock

end TerminalDock
