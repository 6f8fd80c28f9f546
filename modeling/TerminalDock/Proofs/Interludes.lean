import TerminalDock.Proofs.Drags
import TerminalDock.Proofs.Forefront
import TerminalDock.Proofs.OneAtATime
import TerminalDock.Proofs.OutputOrder
import TerminalDock.Proofs.Titles

/-! While nobody asks the panel for anything, calls come to their end, frames come, the layout changes, and the backend
announces what it will. The sessions stay as they are presented and named through all of it, and what they hear depends
on nothing but what they heard before; if the panel is hidden meanwhile, the backend is told nothing. -/

namespace TerminalDock
open Proofs.Steps

theorem Registry.Wired.of_hearing {first last : Registry} (wired : first.Wired) (valid : last.WellFormed)
    (same : last.hearing = first.hearing) : last.Wired := by
  have accounts : last.seen Session.account = first.seen Session.account := congrArg Hearing.sessions same
  have tags : last.seen Session.tag = first.seen Session.tag := seen_comp Prod.fst accounts
  exact wired.of_live valid (session?_seen tags) (congrArg Hearing.serial same) (congrArg Hearing.bus same)

namespace Panel

/-- A step after which every session is told of its own output and its own end, if that was so before. -/
def Wires (first last : Panel) : Prop :=
  first.registry.Wired → last.registry.Wired

private theorem wires_lenient : Lenient Wires where
  trans before later wired := later (before wired)
  quiet quiet wired := by
    obtain ⟨valid, same⟩ := quiet wired.valid
    exact wired.of_hearing valid same

private theorem remove_wires (id : String) : Moves Wires (onRegistry (Registry.remove id {})) := by
  intro panel wired
  rw [after_onRegistry]
  rcases Registry.after_remove id panel.registry with ⟨-, same⟩ | ⟨session, record, found, removed⟩
  · rw [same]
    exact wired
  · rw [removed]
    have apart := Registry.wired_apart wired found
    exact apart.of_hearing (apart.valid.of_stance rfl) rfl

private theorem markExited_wires (id : String) (panel : Panel) :
    Wires panel { panel with registry := (panel.registry.markExited id).2 } := by
  intro wired
  have valid := (Registry.markExited_sound panel.registry id wired.valid).1
  rcases Registry.markExited_cases panel.registry id with same | ⟨serial, same⟩
  · rw [same]
    exact wired
  · rw [same] at valid ⊢
    have tags : ∀ session : Session, ({ session with exited := true } : Session).tag = session.tag := fun _ => rfl
    exact wired.of_live valid (Registry.session?_seen (Registry.seen_change tags panel.registry serial)) rfl rfl

private theorem create_wires (cwd : String) (spawned : Except Failure String) (faults : String → WiringFaults)
    (panel : Panel) :
    Wires panel { panel with registry := after (Registry.create cwd spawned faults) panel.registry } := by
  intro wired
  have ends := Registry.create_ends cwd spawned faults panel.registry
  unfold after
  generalize Registry.create cwd spawned faults panel.registry = result at ends
  cases ends with
  | refused answered record => exact wired.of_hearing (wired.valid.of_stance rfl) rfl
  | taken answered live reason => exact wired
  | spoiled answered free failed built => exact Registry.wired_abandoned wired built
  | made answered free built made => exact Registry.wired_register wired free made

private theorem perform_wires {β : Type} {request : Request β} {act : PanelStep Answer} (allowed : request.panelwise = true)
    (found : perform? request = some act) (loud : quietly? request = false) : Moves Wires act := by
  cases request with
  | markExited id =>
    cases found
    exact fun panel => markExited_wires id panel
  | emit _ _ | surface _ _ => cases allowed
  | _ => exact Request.ordinary_moves wires_lenient remove_wires rfl found loud

/-- Which sessions there are and what they are called, which one is active, which one is being renamed, and who is told
of what. -/
structure Lineup where
  roster : Roster
  active : Option String
  bus : Event.Bus Subscriber

def lineup (panel : Panel) : Lineup where
  roster := panel.roster
  active := panel.registry.active
  bus := panel.registry.bus

/-- The sessions stay as they are presented, named and told of what is theirs. -/
structure Lasts (first last : Panel) : Prop where
  wired : last.registry.Wired
  face : last.face = first.face
  lineup : last.lineup = first.lineup

section Lasting
variable {first middle last panel : Panel}

protected theorem Lasts.trans (before : Lasts first middle) (later : Lasts middle last) : Lasts first last :=
  ⟨later.wired, later.face.trans before.face, later.lineup.trans before.lineup⟩

theorem lineup_same (active : last.registry.active = first.registry.active) (plain : Plain first last)
    (bus : last.registry.bus = first.registry.bus) : last.lineup = first.lineup := by
  have roster : last.roster = first.roster := plain
  rw [lineup, lineup, roster, active, bus]

theorem Lasts.of_mild (wired : first.registry.Wired) (mild : Mild first last) (plain : Plain first last) :
    Lasts first last := by
  have stance := mild wired.valid
  have face := face_of_stance stance
  obtain ⟨-, same⟩ := mild.quiet wired.valid
  have bus : last.registry.bus = first.registry.bus := congrArg Registry.Hearing.bus same
  exact ⟨wires_lenient.quiet mild.quiet wired, face, lineup_same (congrArg (·.registry.active) face) plain bus⟩

private theorem drained_lasts (wired : panel.registry.Wired) : Lasts panel panel.drained :=
  .of_mild wired (.of_stance rfl) rfl

private theorem announced_lasts (wired : panel.registry.Wired) (event : String) (payload : Event.Payload) :
    Lasts panel (panel.emit event payload).2 := by
  have sound := (tellAll_sound event payload (panel.registry.bus.handlers event) panel wired.valid).1
  obtain ⟨bus, number⟩ : Registry.Framed panel.registry (panel.emit event payload).2.registry :=
    tellAll_framed event payload (panel.registry.bus.handlers event) panel
  have face : (panel.emit event payload).2.face = panel.face := tellAll_face wired.valid event payload _
  have plain : Plain panel (panel.emit event payload).2 := tellAll_plain event payload _ panel
  refine ⟨?_, face, lineup_same (congrArg (·.registry.active) face) plain bus⟩
  exact wired.of_live sound (Registry.session?_seen (emit_tags event payload wired)) number bus

private theorem announced_hearing (wired : first.registry.Wired) (alike : last.registry.Wired)
    (same : last.registry.hearing = first.registry.hearing) (event : String) (payload : Event.Payload) :
    (last.emit event payload).2.registry.hearing = (first.emit event payload).2.registry.hearing := by
  have framed (panel : Panel) : Registry.Framed panel.registry (panel.emit event payload).2.registry :=
    tellAll_framed event payload (panel.registry.bus.handlers event) panel
  have bus : last.registry.bus = first.registry.bus := congrArg Registry.Hearing.bus same
  have number : last.registry.serial = first.registry.serial := congrArg Registry.Hearing.serial same
  have heard : (last.emit event payload).2.registry.seen Session.account =
      (first.emit event payload).2.registry.seen Session.account := by
    rw [emit_account event payload alike, emit_account event payload wired, bus]
    exact Registry.seen_comp (Registry.impressed payload (first.registry.bus.handlers event))
      (congrArg Registry.Hearing.sessions same)
  rw [Registry.hearing, Registry.hearing, heard, (framed last).1, (framed last).2, (framed first).1, (framed first).2,
    bus, number]

end Lasting

end Panel

/-- Nobody asks for anything but a look at the layout. -/
def Beat.idle {β : Type} : Beat β → Bool
  | .move (.ask .layoutChanged) => true
  | .move (.ask _) => false
  | _ => true

/-- What an idle beat does to the panel while nothing is under way but calls. -/
def Beat.upon {β : Type} (panel : Panel) : Beat β → Panel
  | .move (.ask .layoutChanged) => (after Panel.layoutChanged panel).drained
  | .move (.announce event payload) => (panel.emit event payload).2.drained
  | .fire place => (after (Panel.fire place) panel).drained
  | _ => panel

namespace Beat
variable {β : Type} {beat : Beat β}

theorem lively_of_idle (idle : beat.idle = true) : beat.lively = true := by
  cases beat with
  | fire place => rfl
  | move move =>
    cases move with
    | ask request => cases request <;> first | rfl | cases idle
    | turn | answer _ | announce _ _ => rfl

end Beat

namespace Panel
variable {β : Type}

private theorem upon_cases (beat : Beat β) : (∃ event payload, beat = .move (.announce event payload)) ∨
    ∀ panel, Mild panel (beat.upon panel) ∧ Plain panel (beat.upon panel) := by
  have emptied (panel : Panel) : Mild panel panel.drained ∧ Plain panel panel.drained := ⟨.of_stance rfl, rfl⟩
  have still : ∀ panel, Mild panel panel ∧ Plain panel panel := fun panel => ⟨.refl panel, .refl panel⟩
  cases beat with
  | fire place =>
    refine .inr fun panel => ?_
    obtain ⟨mild, plain⟩ := emptied (after (fire place) panel)
    exact ⟨(Mild.rules.fire place panel).trans mild, (Plain.rules.fire place panel).trans plain⟩
  | move move =>
    cases move with
    | announce event payload => exact .inl ⟨event, payload, rfl⟩
    | turn | answer _ => exact .inr still
    | ask request =>
      cases request with
      | layoutChanged =>
        refine .inr fun panel => ?_
        obtain ⟨mild, plain⟩ := emptied (after layoutChanged panel)
        exact ⟨(Mild.rules.layoutChanged panel).trans mild, (Plain.rules.layoutChanged panel).trans plain⟩
      | _ => exact .inr still

theorem upon_lasts {panel : Panel} (wired : panel.registry.Wired) (beat : Beat β) : Lasts panel (beat.upon panel) := by
  rcases upon_cases beat with ⟨event, payload, rfl⟩ | calm
  · have told := announced_lasts wired event payload
    exact told.trans (drained_lasts told.wired)
  · exact .of_mild wired (calm panel).1 (calm panel).2

theorem uponAll_lasts {panel : Panel} (wired : panel.registry.Wired) (beats : List (Beat β)) :
    Lasts panel (beats.foldl Beat.upon panel) := by
  induction beats generalizing panel with
  | nil => exact ⟨wired, rfl, rfl⟩
  | cons first rest ih =>
    have now := upon_lasts wired first
    exact now.trans (ih now.wired)

/-- What the sessions hear meanwhile depends on what they heard, and not on how the panel presents them. -/
theorem uponAll_hearing {first last : Panel} (wired : first.registry.Wired) (alike : last.registry.Wired)
    (same : last.registry.hearing = first.registry.hearing) (beats : List (Beat β)) :
    (beats.foldl Beat.upon last).registry.hearing = (beats.foldl Beat.upon first).registry.hearing := by
  induction beats generalizing first last with
  | nil => exact same
  | cons beat rest ih =>
    refine ih (upon_lasts wired beat).wired (upon_lasts alike beat).wired ?_
    rcases upon_cases beat with ⟨event, payload, rfl⟩ | calm
    · exact announced_hearing wired alike same event payload
    · have before := ((calm first).1.quiet wired.valid).2
      have later := ((calm last).1.quiet alike.valid).2
      exact later.trans (same.trans before.symm)

end Panel

namespace Dock
variable {β : Type} [SessionBackend β] {dock : Dock β} {beat : Beat β}

private theorem strikes_wired {landing : Option (String × Purpose)} {last : Dock β}
    (strikes : Strikes Request.panelwise landing dock last) (wired : dock.panel.registry.Wired) :
      last.panel.registry.Wired := by
  obtain ⟨panel, backend, stroke, yields⟩ := strikes
  have wires : Panel.Wires dock.panel panel :=
    stroke.moves Panel.wires_lenient Panel.perform_wires fun cwd spawned faults => Panel.create_wires cwd spawned faults _
  rw [yields.panel]
  exact wires wired

theorem Steady.wired_beat (steady : dock.Steady) (allowed : beat.lively = true) (wired : dock.panel.registry.Wired) :
    (dock.beat beat).panel.registry.Wired := by
  cases beat with
  | fire place =>
    have yields : Yields (fun _ => True) dock _ _ (dock.beat (.fire place)) := onPanel_yields dock (Panel.fire place)
    rw [yields.panel]
    have quiet := (Panel.Mild.rules.fire place dock.panel).quiet.trans (Panel.drained_quiet _)
    exact Panel.wires_lenient.quiet quiet wired
  | move move =>
    cases move with
    | ask request =>
      have strikes : Strikes Request.panelwise none dock (dock.move (.ask request)) := ask_strikes dock allowed
      exact strikes_wired strikes wired
    | turn => exact strikes_wired (turn_strikes dock steady.valid.licensed) wired
    | answer task =>
      have calm : Calm (fun _ => False) dock (dock.move (.answer task)) := answer_calm dock task
      change (dock.move (.answer task)).panel.registry.Wired
      rwa [calm.panel]
    | announce event payload =>
      have yields : Yields (fun _ => False) dock _ _ (dock.move (.announce event payload)) :=
        announce_yields dock event payload
      change (dock.move (.announce event payload)).panel.registry.Wired
      rw [yields.panel]
      exact (Panel.upon_lasts wired (.move (.announce event payload) : Beat β)).wired

theorem Steady.wired {beats : List (Beat β)} (steady : dock.Steady) (wired : dock.panel.registry.Wired)
    (allowed : ∀ beat ∈ beats, beat.lively = true) : (dock.play beats).panel.registry.Wired := by
  induction beats generalizing dock with
  | nil => exact wired
  | cons first rest ih =>
    have now := allowed first (List.mem_cons_self ..)
    exact ih (steady.beat now) (steady.wired_beat now wired) fun beat member => allowed beat (List.mem_cons_of_mem _ member)

end Dock

def Sight.spawn? {α : Type} : Sight α → Option String
  | .spawning cwd => some cwd
  | _ => none

namespace Dock
variable {β : Type}

def spawned (dock : Dock β) : List String :=
  dock.sights.filterMap Sight.spawn?

section Spawns
variable (dock : Dock β)

private theorem spawned_see {sights : List (Sight Answer)} (quiet : sights.filterMap Sight.spawn? = []) :
    (dock.see sights).spawned = dock.spawned := by
  simp only [spawned, see, List.filterMap_append, quiet, List.append_nil]

private theorem spawned_see_map {α : Type} (items : List α) {sight : α → Sight Answer}
    (quiet : ∀ item, (sight item).spawn? = none) :
    (dock.see (items.map sight)).spawned = dock.spawned := by
  apply spawned_see
  rw [List.filterMap_map]
  exact List.filterMap_eq_nil_iff.mpr fun item _ => quiet item

private theorem spawned_conclude (task : Loop.TaskId) (result : Except Failure Answer) :
    (dock.conclude task result).spawned = dock.spawned := by
  unfold conclude
  dsimp only
  split
  · rfl
  · exact spawned_see _ rfl

theorem spawned_concludeOpen (task : Loop.TaskId) (result : Except Failure Answer) :
    (dock.concludeOpen task result).spawned = dock.spawned := by
  unfold concludeOpen unlock
  dsimp only
  rw [spawned_conclude]
  split <;> rfl

private theorem spawned_change (f : Panel → Panel) : (dock.change f).spawned = dock.spawned :=
  spawned_see_map dock (f dock.panel).registry.journal fun _ => rfl

theorem spawned_onPanel {α : Type} (act : PanelStep α) : (dock.onPanel act).2.spawned = dock.spawned := by
  rw [onPanel_change]
  exact spawned_change dock (after act)

private theorem spawned_concludeCall (task : Loop.TaskId) (call : BackendCall) (failure : Option Failure)
    (records : List LogRecord) :
    (dock.concludeCall task call failure records).spawned = dock.spawned := by
  unfold concludeCall
  dsimp only
  rw [spawned_conclude, spawned_see_map _ _ fun _ => rfl]
  exact spawned_see_map dock records fun _ => rfl

private theorem spawned_beginCall [SessionBackend β] (task : Loop.TaskId) (call : BackendCall) :
    (dock.beginCall task call).spawned = dock.spawned := by
  have begun : ({ dock.see [.calling call] with backend := (SessionBackend.begin call dock.backend).2.2 }.log
      (SessionBackend.begin call dock.backend).2.1).spawned = dock.spawned :=
    (spawned_see_map _ _ fun _ => rfl).trans (spawned_see dock rfl)
  unfold beginCall
  dsimp only
  split
  · rw [spawned_concludeCall]
    exact begun
  · exact begun

end Spawns

section Rest
variable {first last dock : Dock β}

theorem AtRest.of_adds {who : Option Loop.TaskId} (rest : first.AtRest) (unique : last.scheduler.running.keys.Nodup)
    (adds : Agenda.Adds who first.agenda last.agenda)
    (mine : ∀ task job, who = some task → last.scheduler.running.find? task = some job → job.stage.posted = true) :
    last.AtRest := by
  intro job member
  obtain ⟨⟨task, other⟩, inside, rfl⟩ := List.mem_map.mp member
  have found := Assoc.find?_of_mem unique inside
  by_cases same : who = some task
  · exact mine task other same found
  · rcases adds task other found same with old | posted
    · exact rest other (Assoc.mem_values_of_find? old)
    · exact posted

theorem AtRest.unlocked (rest : dock.AtRest) (fair : dock.Fair) : dock.lock.taken = false ∧ dock.lock.waiting = [] := by
  have grounded {kind : Stage β → Bool} (other : ∀ stage : Stage β, stage.posted = true → kind stage = false)
      {task : Loop.TaskId} (during : dock.During kind task) : False := by
    obtain ⟨job, found⟩ := Assoc.mem_keys_iff.mp during.running
    rw [during_of_found found, other job.stage (rest job (Assoc.mem_values_of_find? found))] at during
    cases during
  constructor
  · have nobody : dock.flights = 0 := by
      apply List.countP_eq_zero.mpr
      intro job member flies
      have posted := rest job member
      cases stage : job.stage with
      | spawning cwd purpose => rw [stage] at posted; cases posted
      | _ => rw [stage] at flies; cases flies
    have taken := fair.flights
    rw [nobody] at taken
    cases held : dock.lock.taken with
    | false => rfl
    | true => rw [held] at taken; cases taken
  · obtain ⟨owner, gated⟩ := fair
    apply List.eq_nil_iff_forall_not_mem.mpr
    intro task member
    refine grounded (fun stage posted => ?_) ((gated.queued task).mp member).2
    cases stage <;> first | rfl | cases posted

end Rest

variable [SessionBackend β] {first last dock : Dock β}

/-- Of what is under way nothing is left but calls, nothing is new, and the panel is as it was. -/
structure Dozes (first last : Dock β) : Prop where
  panel : last.panel = first.panel
  rest : last.AtRest
  spawned : last.spawned = first.spawned
  tasks : ∀ task ∈ last.scheduler.running.keys, task ∈ first.scheduler.running.keys

omit [SessionBackend β] in
theorem AtRest.dozes (rest : first.AtRest) (panel : last.panel = first.panel)
    (running : last.scheduler.running = first.scheduler.running) (sights : last.sights = first.sights) :
      Dozes first last := by
  refine ⟨panel, ?_, congrArg (List.filterMap _) sights, fun task member => running ▸ member⟩
  intro job member
  rw [jobs, running] at member
  exact rest job member

theorem AtRest.turn (rest : dock.AtRest) (fair : dock.Fair) : Dozes dock dock.turn := by
  have unique : dock.turn.scheduler.running.keys.Nodup := fair.turn.tasks.tasks.unique
  cases ready : dock.scheduler.ready with
  | nil =>
    have idle : dock.turn = dock := by simp only [Dock.turn, Loop.Scheduler.next?, ready]
    rw [idle]
    exact rest.dozes rfl rfl rfl
  | cons turn others =>
    cases turn with
    | leave task =>
      have left : dock.turn = { dock with scheduler := { dock.scheduler with ready := others }.leave task } := by
        simp only [Dock.turn, Loop.Scheduler.next?, ready]
      rw [left]
      exact rest.dozes rfl rfl rfl
    | arrive group =>
      have running := Loop.Scheduler.running_arrive { dock.scheduler with ready := others } group
      have arrived : dock.turn = { dock with scheduler := { dock.scheduler with ready := others }.arrive group } := by
        simp only [Dock.turn, Loop.Scheduler.next?, ready]
      rw [arrived]
      exact rest.dozes rfl running rfl
    | resume task =>
      let start : Dock β := { dock with scheduler := { dock.scheduler with ready := others } }
      have popped : start.agenda.Bounded := fair.tasks.pop fun other member => ready ▸ List.mem_cons_of_mem _ member
      have turned : dock.turn = start.resume task := (turn_resume ready).1
      rw [turned] at unique ⊢
      cases found : start.scheduler.running.find? task with
      | none =>
        have lost : start.resume task = start := by simp only [resume, found]
        rw [lost]
        exact rest.dozes rfl rfl rfl
      | some job =>
        have posted := rest job (Assoc.mem_values_of_find? found)
        obtain ⟨panel, left, tasks⟩ := resume_posted popped found posted
        have adds := resume_adds popped found (.of_posted posted _)
        refine ⟨panel, rest.of_adds unique adds ?_, ?_, tasks⟩
        · rintro other job ⟨⟩ there
          exact left job there
        · obtain ⟨stage, label⟩ := job
          simp only [resume, found]
          cases stage with
          | call call => exact spawned_beginCall start task call
          | callEnding call failure records => exact spawned_concludeCall start task call failure records
          | _ => cases posted

theorem AtRest.performed (rest : dock.AtRest) (fair : dock.Fair) {request : Request β} {act : PanelStep Answer}
    (found : Panel.perform? request = some act) : (dock.beat (.move (.ask request))).AtRest ∧
      (dock.beat (.move (.ask request))).spawned = dock.spawned := by
  let start : Dock β := { dock with scheduler := (dock.scheduler.create ⟨.begin request, none⟩).2 }
  have ends : dock.beat (.move (.ask request)) =
      (start.onPanel act).2.conclude dock.scheduler.fresh (start.onPanel act).1 :=
    (move_ask dock request).trans (begin_performs found _ _)
  have unique := (fair.beat (.move (.ask request))).tasks.tasks.unique
  have created : start.agenda.Bounded := fair.tasks.create ⟨.begin request, none⟩
  have stays : Stays (·.posted = true) dock.scheduler.fresh start (start.onPanel act).2 := onPanel_stays start act
  have given (who : Loop.TaskId) (mine : some dock.scheduler.fresh = some who) : who < start.agenda.scheduler.fresh :=
    Option.some.inj mine ▸ Nat.lt_succ_self _
  have bounded : (start.onPanel act).2.agenda.Bounded :=
    (stays.steps.keep (fun _ => True) created given (fun _ _ _ => trivial) trivial).1
  rw [ends] at unique ⊢
  constructor
  · have begun : Agenda.Adds dock.scheduler.fresh dock.agenda start.agenda := .of_put (.inl rfl) rfl
    have ended : Agenda.Adds dock.scheduler.fresh (start.onPanel act).2.agenda
        ((start.onPanel act).2.conclude dock.scheduler.fresh (start.onPanel act).1).agenda :=
      .of_remove bounded.tasks.unique (conclude_running _ _ _).1
    refine rest.of_adds unique ((begun.trans (stays.steps.adds created given)).trans ended) ?_
    rintro task job ⟨⟩ found
    cases (conclude_gone bounded.tasks.unique _).symm.trans found
  · rw [spawned_conclude, spawned_onPanel]
    rfl

/-- What an idle beat comes to while nothing is under way but calls. -/
structure Coasts (beat : Beat β) (first last : Dock β) : Prop where
  panel : last.panel = beat.upon first.panel
  rest : last.AtRest
  spawned : last.spawned = first.spawned

theorem AtRest.coasts (rest : dock.AtRest) (fair : dock.Fair) {beat : Beat β} (idle : beat.idle = true) :
    Coasts beat dock (dock.beat beat) := by
  have unique := (fair.beat beat).tasks.tasks.unique
  have nobody (who : Loop.TaskId) (never : none = some who) : who < dock.agenda.scheduler.fresh :=
    absurd never.symm (Option.some_ne_none _)
  have changed {last : Dock β} (stays : Stays (·.posted = true) none dock last)
      (unique : last.scheduler.running.keys.Nodup) : last.AtRest :=
    rest.of_adds unique (stays.steps.adds fair.tasks nobody) fun task _ never => absurd never (Option.some_ne_none task).symm
  cases beat with
  | fire place =>
    have yields : Yields (fun _ => True) dock _ _ (dock.onPanel (Panel.fire place)).2 :=
      onPanel_yields dock (Panel.fire place)
    have stays : Stays (·.posted = true) none dock (dock.onPanel (Panel.fire place)).2 := onPanel_stays dock _
    exact ⟨yields.panel, changed stays unique, spawned_onPanel dock (Panel.fire place)⟩
  | move move =>
    cases move with
    | turn =>
      have dozes := rest.turn fair
      exact ⟨dozes.panel, dozes.rest, dozes.spawned⟩
    | answer task =>
      have calm : Calm (fun _ => False) dock (dock.move (.answer task)) := answer_calm dock task
      refine ⟨calm.panel, ?_, ?_⟩
      · unfold Dock.beat Dock.move
        dsimp only
        split
        · exact rest
        · exact rest
      · unfold Dock.beat Dock.move
        dsimp only
        split <;> rfl
    | announce event payload =>
      have yields : Yields (fun _ => True) dock _ _ (dock.move (.announce event payload)) :=
        announce_yields dock event payload
      have stays : Stays (·.posted = true) none dock (dock.change fun panel => (panel.emit event payload).2) :=
        change_stays dock _
      exact ⟨yields.panel, changed stays unique, spawned_change dock fun panel => (panel.emit event payload).2⟩
    | ask request =>
      cases request with
      | layoutChanged =>
        have found : Panel.perform? (.layoutChanged : Request β) =
            some (do Panel.layoutChanged; return .nothing) := rfl
        have asked : dock.asked? (.move (.ask .layoutChanged)) = some .layoutChanged := asked_ask dock _
        obtain ⟨left, spawned⟩ := rest.performed fair found
        refine ⟨?_, left, spawned⟩
        rw [asked_panel asked found, after_bind_view Panel.drained fun _ _ => rfl]
        rfl
      | _ => cases idle

theorem AtRest.play {beats : List (Beat β)} (rest : dock.AtRest) (fair : dock.Fair)
    (idle : ∀ beat ∈ beats, beat.idle = true) :
    (dock.play beats).panel = beats.foldl Beat.upon dock.panel ∧ (dock.play beats).AtRest ∧
      (dock.play beats).spawned = dock.spawned := by
  induction beats generalizing dock with
  | nil => exact ⟨rfl, rest, rfl⟩
  | cons first others ih =>
    have now := rest.coasts fair (idle first (List.mem_cons_self ..))
    obtain ⟨panel, left, spawned⟩ := ih now.rest (fair.beat first) fun beat member => idle beat
      (List.mem_cons_of_mem _ member)
    refine ⟨?_, left, spawned.trans now.spawned⟩
    rw [List.foldl_cons, ← now.panel]
    exact panel

end Dock

end TerminalDock
