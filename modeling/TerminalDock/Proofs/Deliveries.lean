import TerminalDock.Proofs.ClericalDock

/-! What a turn of a panel does that is asked about its sessions only. What is typed in it is submitted, the call that
begins in it was the first of those that wait, and all that was typed and all calls that have ended stay accounted for. -/

namespace TerminalDock
open Pty Proofs.Steps

namespace Dock
variable {δ : Type} {typed : List (String × List UInt8)} {ended : List (BackendCall × Option Failure)}

/-- All that was typed into live sessions and all calls that have ended are accounted for. -/
structure Accounted (typed : List (String × List UInt8)) (ended : List (BackendCall × Option Failure))
    (dock : Dock (Racing (Penned δ))) : Prop where
  valid : dock.panel.registry.WellFormed
  attentive : dock.panel.registry.Attentive
  orderly : dock.Orderly
  clerical : ∀ job ∈ dock.jobs, job.stage.Clerical
  blank : dock.backend.host.fresh.script = []
  told : dock.notices = ended.flatMap dock.hook.conclusion
  ledger : Ledger (dock.panel.registry.has · = true) (dock.callsFrom 0) typed ended dock.backend.spawner.books

variable {first last dock : Dock (Racing (Penned δ))} {who : Option Loop.TaskId} {task : Loop.TaskId}

namespace Accounted

theorem advance {panel : Panel} {backend : Racing (Penned δ)} {calls : List BackendCall} {told : List Transport.Notice}
    {typed' : List (String × List UInt8)} {ended' : List (BackendCall × Option Failure)}
    (accounted : first.Accounted typed ended) (attends : first.Attends who) (posts : Posts who calls [] first last)
    (serves : Serves first panel backend told last) (valid : panel.registry.WellFormed)
    (attentive : panel.registry.Attentive) (blank : backend.host.fresh.script = [])
    (said : ended'.flatMap first.hook.conclusion = ended.flatMap first.hook.conclusion ++ told)
    (ledger : Ledger (panel.registry.has · = true) (first.callsFrom 0 ++ calls) typed' ended' backend.spawner.books) :
    last.Accounted typed' ended' := by
  have posted := posts accounted.orderly attends
  refine ⟨serves.panel ▸ valid, serves.panel ▸ attentive, posted.orderly, fun job member => ?_,
    serves.backend ▸ blank, ?_, ?_⟩
  · exact (serves.jobs job member).elim (accounted.clerical job) id
  · rw [serves.notices, accounted.told, serves.hook, said]
  · rw [posted.waiting 0 (Nat.zero_le _), serves.panel, serves.backend]
    exact ledger

theorem idly (accounted : first.Accounted typed ended) (attends : first.Attends who) (posts : Posts who [] [] first last)
    (serves : Idly first last) : last.Accounted typed ended := by
  have ledger := accounted.ledger
  rw [← List.append_nil (first.callsFrom 0)] at ledger
  exact accounted.advance attends posts serves accounted.valid accounted.attentive accounted.blank
    (List.append_nil _).symm ledger

theorem readied (accounted : first.Accounted typed ended) (readied : Readied who first last) (hook : last.hook = first.hook)
    (jobs : ∀ job ∈ last.jobs, job ∈ first.jobs ∨ job.stage.Clerical) : last.Accounted typed ended := by
  obtain ⟨panel, backend, orderly, -, -, -, -, waiting, sights⟩ := readied
  refine ⟨panel ▸ accounted.valid, panel ▸ accounted.attentive, orderly, fun job member => ?_,
    backend ▸ accounted.blank, ?_, ?_⟩
  · exact (jobs job member).elim (accounted.clerical job) id
  · rw [notices, sights, hook]
    exact accounted.told
  · rw [waiting 0 (Nat.zero_le _), panel, backend]
    exact accounted.ledger

end Accounted

/-- In a part of a turn these were typed and these calls ended. The calls that were submitted pass on just what was typed,
and all is accounted for. -/
def Carries (who : Option Loop.TaskId) (typing : List (String × List UInt8)) (ending : List (BackendCall × Option Failure))
    (first last : Dock (Racing (Penned δ))) : Prop :=
  ∀ ⦃typed ended⦄, first.Accounted typed ended → first.Attends who →
    (∃ calls, Posts who calls [] first last ∧ ∀ id, calls.filterMap (·.input? id) = typedInto id typing) ∧
      last.Accounted (typed ++ typing) (ended ++ ending)

namespace Carries
variable {middle : Dock (Racing (Penned δ))} {typing : List (String × List UInt8)}
variable {ending : List (BackendCall × Option Failure)}

theorem idly (posts : Posts who [] [] first last) (serves : Idly first last) : Carries who [] [] first last := by
  intro typed ended accounted attends
  rw [List.append_nil, List.append_nil]
  exact ⟨⟨[], posts, fun _ => rfl⟩, accounted.idly attends posts serves⟩

theorem after (carries : Carries who typing ending middle last) (posts : Posts who [] [] first middle)
    (serves : Idly first middle) : Carries who typing ending first last := by
  intro typed ended accounted attends
  have start := posts accounted.orderly attends
  obtain ⟨⟨calls, later, inputs⟩, last⟩ := carries (accounted.idly attends posts serves) start.attends
  exact ⟨⟨calls, posts.trans later, inputs⟩, last⟩

private theorem andIdly (carries : Carries who typing ending first middle) (posts : Posts who [] [] middle last)
    (serves : Idly middle last) : Carries who typing ending first last := by
  intro typed ended accounted attends
  obtain ⟨⟨calls, before, inputs⟩, middle⟩ := carries accounted attends
  exact ⟨⟨calls, before.quietly posts, inputs⟩, middle.idly (before accounted.orderly attends).attends posts serves⟩

end Carries

private theorem calls_typing {β : Type} (request : Request β) (registry : Registry) (id : String) :
    (request.calls registry).filterMap (·.input? id) = typedInto id (request.typing registry) := by
  cases request with
  | type name bytes =>
    simp only [Request.calls, Request.typing, typedInto]
    split <;> rfl
  | remove name =>
    simp only [Request.calls, Request.typing, typedInto]
    split <;> rfl
  | _ => rfl

private theorem onPanel_carries {request : Request (Racing (Penned δ))} {act : PanelStep Answer}
    (found : Panel.perform? request = some act) (clerical : request.clerical = true) (dock : Dock (Racing (Penned δ))) :
    Carries who (request.typing dock.panel.registry) [] dock (dock.onPanel act).2 := by
  intro typed ended accounted attends
  have heeds := Panel.perform_heeds found clerical accounted.valid accounted.attentive
  have sound := (Panel.perform_sound found dock.panel accounted.valid).1
  have ledger := accounted.ledger.ask request heeds
  have posts : Posts who (Proofs.Steps.after act dock.panel).registry.outbox [] dock (dock.onPanel act).2 :=
    (onPanel_posts dock act).unnoted
  rw [heeds.outbox, accounted.orderly.silent.1, List.nil_append] at posts
  rw [List.append_nil ended]
  refine ⟨⟨_, posts, calls_typing request _⟩, ?_⟩
  exact accounted.advance attends posts (onPanel_serves dock act) (sound.of_stance rfl)
    ⟨heeds.attentive.live, heeds.attentive.gone⟩ accounted.blank (List.append_nil _).symm ledger

variable [PtyDevice δ]

private theorem endSpawn_carries (dock : Dock (Racing (Penned δ))) (cwd : String) :
    Carries task [] [] dock (dock.endSpawn task cwd .create) := by
  intro typed ended accounted attends
  have books := Racing.spawn_books accounted.blank cwd
  rcases answer : SessionBackend.spawn cwd dock.backend with ⟨spawned, records, backend⟩
  rw [answer] at books
  let act : PanelStep Session := Panel.onRegistry (Registry.create cwd spawned (SessionBackend.wiring backend))
  let changed : Dock (Racing (Penned δ)) := { dock with backend := backend }
  let placed := changed.log records
  have ends : dock.endSpawn task cwd .create =
      (placed.onPanel act).2.conclude task ((placed.onPanel act).1.map .ofSession) := by
    simp only [endSpawn, answer]
    rfl
  have acted : Proofs.Steps.after act dock.panel =
      { dock.panel with registry :=
          Proofs.Steps.after (Registry.create cwd spawned (SessionBackend.wiring backend)) dock.panel.registry } :=
    Panel.after_onRegistry _ dock.panel
  have sound := (Registry.create_sound cwd spawned (SessionBackend.wiring backend) dock.panel.registry accounted.valid).1
  have greets := Registry.create_greets accounted.attentive cwd spawned (SessionBackend.wiring backend)
  obtain ⟨calls, outbox, mute, attentive, ledger⟩ := accounted.ledger.greet books.2 greets
  have posts : Posts task calls [] dock (dock.endSpawn task cwd .create) := by
    have asked : Posts task [] [] dock changed := .of_running id rfl (Nat.le_refl _) (List.append_nil _).symm rfl
    have made : Posts task (Proofs.Steps.after act dock.panel).registry.outbox [] placed (placed.onPanel act).2 :=
      (onPanel_posts placed act).unnoted
    rw [acted, outbox, accounted.orderly.silent.1, List.nil_append] at made
    rw [ends]
    exact ((asked.quietly (log_posts _ records)).trans made).quietly (conclude_posts _ _)
  have serves : Serves dock (Proofs.Steps.after act dock.panel).drained backend [] (dock.endSpawn task cwd .create) := by
    have asked : Serves dock dock.panel backend [] changed := .of_running rfl rfl rfl rfl (List.append_nil _).symm rfl
    rw [ends]
    exact ((asked.idly (log_idly _ records)).trans (onPanel_serves placed act)).idly (conclude_idly _ task _)
  rw [acted] at serves
  rw [List.append_nil, List.append_nil]
  refine ⟨⟨calls, posts, mute⟩, accounted.advance attends posts serves
    (sound.of_stance rfl) ⟨attentive.live, attentive.gone⟩ ?_
    (List.append_nil _).symm ledger⟩
  exact (congrArg Penned.script books.1).trans accounted.blank

theorem begin_carries (dock : Dock (Racing (Penned δ))) {request : Request (Racing (Penned δ))}
    (clerical : request.only Request.clerical = true) :
    Carries task (request.typing dock.panel.registry) [] dock (dock.begin task request) := by
  have performed {act : PanelStep Answer} (found : Panel.perform? request = some act) (plain : request.clerical = true) :
      Carries task (request.typing dock.panel.registry) [] dock ((dock.onPanel act).2.conclude task (dock.onPanel act).1) :=
    (onPanel_carries found plain dock).andIdly (conclude_posts _ _) (conclude_idly _ task _)
  cases request with
  | create cwd =>
    have goes : dock.begin task (.create cwd) = ((dock.see [.spawning cwd]).log []).endSpawn task cwd .create := rfl
    have seen : Idly dock (dock.see [.spawning cwd]) := see_serves dock [.spawning cwd]
    rw [goes]
    exact ((endSpawn_carries _ cwd).after (log_posts _ []) (log_idly _ [])).after (see_posts dock rfl) seen
  | drain => exact .idly ((posts_rules task).drain dock _) (drain_idly dock task _)
  | background name request =>
    let begun : Dock (Racing (Penned δ)) :=
      { dock with scheduler := (dock.scheduler.start ⟨.begin request, some name⟩).2 }
    have posts : Posts task (Stage.begin request).call?.toList [] dock begun := .of_start rfl rfl rfl rfl
    have started : Carries task [] [] dock begun := .idly posts (.of_put rfl rfl rfl rfl rfl clerical)
    exact started.andIdly (conclude_posts _ _) (conclude_idly _ task _)
  | gather requests =>
    let begun := dock.startAll (requests.map .begin)
    have stages : (requests.map Stage.begin).filterMap (Stage.call? : Stage (Racing (Penned δ)) → _) = [] := by
      rw [List.filterMap_map]
      exact List.filterMap_eq_nil_iff.mpr fun _ _ => rfl
    have fair : ∀ stage ∈ requests.map Stage.begin, stage.Clerical :=
      List.forall_mem_map.mpr fun inner inside => Request.only_of_mem clerical inner inside
    have posts : Posts task _ [] dock begun.2 := startAll_posts dock _
    rw [stages] at posts
    have started : Carries task [] [] dock begun.2 := .idly posts (startAll_idly dock _ fair)
    have goes : dock.begin task (.gather requests) =
        begun.2.waitFor task begun.1 (.gathering begun.1) (·.conclude task (.ok (.all []))) := rfl
    have gathers : (Stage.gathering begun.1 : Stage (Racing (Penned δ))).Clerical := trivial
    rw [goes]
    exact started.andIdly ((posts_rules task).waitFor _ rfl (conclude_posts _ _))
      (waitFor_idly _ task _ gathers (conclude_idly _ task _))
  | type | remove | rename | setActive | get | mostRecent | contains | list | markExited | recordGeometry | text
  | listeners =>
    have carries := performed rfl rfl
    exact carries
  | _ => cases clerical

omit [PtyDevice δ] in
private theorem concludeCall_carries (dock : Dock (Racing (Penned δ))) {call : BackendCall}
    (mute : ∀ id, call.input? id = none)
    (failure : Option Failure) (records : List LogRecord) :
    Carries task [] [(call, failure)] dock (dock.concludeCall task call failure records) := by
  intro typed ended accounted attends
  have posts : Posts task [] [] dock (dock.concludeCall task call failure records) :=
    (posts_rules task).concludeCall dock call failure records
  have ledger := accounted.ledger.conclude failure mute
  rw [← List.append_nil (dock.callsFrom 0)] at ledger
  have said : (ended ++ [(call, failure)]).flatMap dock.hook.conclusion =
      ended.flatMap dock.hook.conclusion ++ dock.hook.conclusion (call, failure) := by
    rw [List.flatMap_append, List.flatMap_singleton]
  rw [List.append_nil]
  exact ⟨⟨[], posts, fun _ => rfl⟩, accounted.advance attends posts (concludeCall_serves dock task call failure records)
    accounted.valid accounted.attentive accounted.blank said ledger⟩

/-- While these were typed, calls began in the order in which they wait, and just what was typed was submitted. -/
structure Passes (typing : List (String × List UInt8)) (first last : Dock (Racing (Penned δ))) : Prop where
  fresh : first.scheduler.fresh ≤ last.scheduler.fresh
  waiting : ∀ mark ≤ first.scheduler.fresh, ∃ gone calls, first.callsFrom mark ++ calls = gone ++ last.callsFrom mark ∧
    ∀ id, calls.filterMap (·.input? id) = typedInto id typing

omit [PtyDevice δ] in
theorem Passes.of_alike (fresh : first.scheduler.fresh ≤ last.scheduler.fresh)
    (running : last.scheduler.running = first.scheduler.running) : Passes [] first last := by
  refine ⟨fresh, fun mark _ => ⟨[], [], ?_, fun _ => rfl⟩⟩
  rw [callsFrom, callsFrom, running, List.append_nil, List.nil_append]

omit [PtyDevice δ] in
theorem Carries.passes {start : Dock (Racing (Penned δ))} {typing : List (String × List UInt8)}
    {ending : List (BackendCall × Option Failure)} (carries : Carries who typing ending start last)
    (accounted : start.Accounted typed ended) (readied : Readied who first start) :
    last.Accounted (typed ++ typing) (ended ++ ending) ∧ Passes typing first last := by
  obtain ⟨⟨calls, posts, inputs⟩, last⟩ := carries accounted readied.attends
  have posted := posts readied.orderly readied.attends
  refine ⟨last, Nat.le_trans readied.fresh posted.fresh, fun mark old => ⟨[], calls, ?_, inputs⟩⟩
  rw [posted.waiting mark (Nat.le_trans old readied.fresh), readied.waiting mark old, List.nil_append]

omit [PtyDevice δ] in
theorem Accounted.alike (accounted : dock.Accounted typed ended)
    {scheduler : Loop.Scheduler (Job (Racing (Penned δ))) (Except Failure Answer)}
    (running : scheduler.running = dock.scheduler.running) (fresh : scheduler.fresh = dock.scheduler.fresh) :
    ({ dock with scheduler := scheduler } : Dock (Racing (Penned δ))).Accounted typed ended ∧
      Passes [] dock { dock with scheduler := scheduler } := by
  have attends : dock.Attends none := ⟨nofun, nofun⟩
  have posts : Posts none [] [] dock { dock with scheduler := scheduler } :=
    .of_running id running (Nat.le_of_eq fresh.symm) (List.append_nil _).symm rfl
  have serves : Idly dock { dock with scheduler := scheduler } :=
    .of_running rfl rfl rfl running (List.append_nil _).symm rfl
  exact ⟨accounted.idly attends posts serves, .of_alike (Nat.le_of_eq fresh.symm) running⟩

/-- The turn of a call: it was the first of those that wait, and may end at once. -/
theorem Accounted.call (accounted : dock.Accounted typed ended) (underway : dock.agenda.Underway)
    (come : dock.agenda.FirstCome) {rest : List Loop.Turn} {call : BackendCall} {label : Option String}
    (ready : dock.scheduler.ready = .resume task :: rest)
    (found : dock.scheduler.running.find? task = some ⟨.call call, label⟩) :
    dock.turn.Accounted typed (ended ++ (Stage.call call).ending dock.backend) ∧ Passes [] dock dock.turn := by
  let start : Dock (Racing (Penned δ)) := { dock with scheduler := { dock.scheduler with ready := rest } }
  have begun : dock.turn = start.beginCall task call := by
    rw [(turn_resume ready).1]
    simp only [resume, found]
    rfl
  have begins : Begins task call start (start.beginCall task call) := beginCall_begins start call
  have line (mark : Loop.TaskId) := turn_opens underway come ready found mark
  have passes : Passes [] dock dock.turn := by
    refine ⟨?_, fun mark _ => ⟨if mark ≤ task then [call] else [], [], ?_, fun _ => rfl⟩⟩
    · rw [begun]
      exact Nat.le_of_eq begins.fresh.symm
    · rw [List.append_nil]
      exact line mark
  have ledger := accounted.ledger
  rw [line 0, if_pos (Nat.zero_le task), List.singleton_append] at ledger
  obtain ⟨atOnce, lingers⟩ := Racing.begin_ledger ledger
  have orderly : dock.turn.Orderly := by
    have yields : Yields (fun _ => True) start _ _ (start.beginCall task call) := beginCall_yields start task call
    have same : Begins task call dock (start.beginCall task call) :=
      ⟨begins.running, begins.fresh, begins.begun, begins.shown⟩
    have served : Served Request.panelwise dock.backend (start.beginCall task call).backend := yields.backend ▸ .call call
    rw [begun]
    exact (same.account accounted.orderly found yields.panel served).orderly
  have finish {told : List Transport.Notice} {ended' : List (BackendCall × Option Failure)}
      (serves : Serves start start.panel (SessionBackend.begin call dock.backend).2.2 told (start.beginCall task call))
      (said : ended'.flatMap dock.hook.conclusion = ended.flatMap dock.hook.conclusion ++ told)
      (ledger : Ledger (dock.panel.registry.has · = true) (dock.turn.callsFrom 0) typed ended'
        (SessionBackend.begin call dock.backend).2.2.spawner.books) : dock.turn.Accounted typed ended' := by
    rw [← begun] at serves
    refine ⟨serves.panel ▸ accounted.valid, serves.panel ▸ accounted.attentive, orderly, fun job member => ?_, ?_, ?_, ?_⟩
    · exact (serves.jobs job member).elim (accounted.clerical job) id
    · rw [serves.backend, Racing.begin_fresh]
      exact accounted.blank
    · rw [serves.notices, serves.hook, said, ← accounted.told]
      rfl
    · rw [serves.panel, serves.backend]
      exact ledger
  refine ⟨?_, passes⟩
  rcases beginCall_serves start task fun _ _ => Racing.begin_lingers with
    ⟨failure, ends, serves⟩ | ⟨failure, records, later, serves⟩
  · have one : (Stage.call call).ending dock.backend = [(call, failure)] := by
      simp only [Stage.ending, show (SessionBackend.begin call dock.backend).1 = _ from ends]
    rw [one]
    exact finish serves (by rw [List.flatMap_append, List.flatMap_singleton]) (atOnce failure ends)
  · have none : (Stage.call call).ending dock.backend = [] := by
      simp only [Stage.ending, show (SessionBackend.begin call dock.backend).1 = _ from later]
    rw [none, List.append_nil]
    exact finish serves (List.append_nil _).symm (lingers failure records later)

theorem Accounted.resume (accounted : dock.Accounted typed ended) (underway : dock.agenda.Underway)
    (come : dock.agenda.FirstCome) {rest : List Loop.Turn} {stage : Stage (Racing (Penned δ))} {label : Option String}
    (ready : dock.scheduler.ready = .resume task :: rest)
    (found : dock.scheduler.running.find? task = some ⟨stage, label⟩) :
    dock.turn.Accounted (typed ++ stage.typing dock.panel.registry) (ended ++ stage.ending dock.backend) ∧
      Passes (stage.typing dock.panel.registry) dock dock.turn := by
  let start : Dock (Racing (Penned δ)) := { dock with scheduler := { dock.scheduler with ready := rest } }
  have clerical : stage.Clerical := accounted.clerical _ (Assoc.mem_values_of_find? found)
  have goes : dock.turn = start.resume task := (turn_resume ready).1
  simp only [Dock.resume, show start.scheduler.running.find? task = _ from found] at goes
  have works {typing : List (String × List UInt8)} {ending : List (BackendCall × Option Failure)}
      (operation : stage.call? = none) (carries : Carries task typing ending start dock.turn) :
      dock.turn.Accounted (typed ++ typing) (ended ++ ending) ∧ Passes typing dock dock.turn := by
    have readied : Readied task dock start := readied_turn accounted.orderly found operation
    exact carries.passes (accounted.readied readied rfl fun _ => .inl) readied
  cases stage with
  | begin request => exact works rfl (goes ▸ begin_carries start clerical)
  | call call =>
    have none : (Stage.call call : Stage (Racing (Penned δ))).typing dock.panel.registry = [] := rfl
    rw [none, List.append_nil]
    exact accounted.call underway come ready found
  | callEnding call failure records => exact works rfl (goes ▸ concludeCall_carries start clerical failure records)
  | draining answer => exact works rfl (goes ▸ .idly ((posts_rules task).drain start answer) (drain_idly start task answer))
  | gathering tasks => exact works rfl (goes ▸ .idly (conclude_posts start _) (conclude_idly start task _))
  | spawning | queued | sweeping => exact clerical.elim

theorem Accounted.turn (accounted : dock.Accounted typed ended) (underway : dock.agenda.Underway)
    (come : dock.agenda.FirstCome) :
    dock.turn.Accounted (typed ++ dock.typedNext) (ended ++ dock.endedNext) ∧ Passes dock.typedNext dock dock.turn := by
  have resting (nobody : dock.nextStage? = none) (alike : dock.turn.Accounted typed ended ∧ Passes [] dock dock.turn) :
      dock.turn.Accounted (typed ++ dock.typedNext) (ended ++ dock.endedNext) ∧ Passes dock.typedNext dock dock.turn := by
    rw [typedNext, endedNext, nobody, Option.elim_none, Option.elim_none, List.append_nil, List.append_nil]
    exact alike
  cases ready : dock.scheduler.ready with
  | nil =>
    have same : dock.turn = dock := by simp only [Dock.turn, Loop.Scheduler.next?, ready]
    refine resting (by rw [nextStage?, ready]) ?_
    rw [same]
    exact accounted.alike rfl rfl
  | cons turn rest =>
    cases turn with
    | leave left =>
      refine resting (by rw [nextStage?, ready]) ?_
      simp only [Dock.turn, Loop.Scheduler.next?, ready]
      exact accounted.alike rfl rfl
    | arrive group =>
      have fresh (scheduler : Loop.Scheduler (Job (Racing (Penned δ))) (Except Failure Answer)) :
          (scheduler.arrive group).fresh = scheduler.fresh := by
        unfold Loop.Scheduler.arrive
        split
        · rfl
        · split <;> rfl
      refine resting (by rw [nextStage?, ready]) ?_
      simp only [Dock.turn, Loop.Scheduler.next?, ready]
      exact accounted.alike (Loop.Scheduler.running_arrive _ group) (fresh _)
    | resume task =>
      cases found : dock.scheduler.running.find? task with
      | none =>
        have lost : dock.turn = { dock with scheduler := { dock.scheduler with ready := rest } } := by
          rw [(turn_resume ready).1]
          simp only [Dock.resume, found]
        refine resting (by rw [nextStage?, ready]; exact congrArg (Option.map Job.stage) found) ?_
        rw [lost]
        exact accounted.alike rfl rfl
      | some job =>
        have next : dock.nextStage? = some job.stage := by
          rw [nextStage?, ready]
          exact congrArg (Option.map Job.stage) found
        rw [typedNext, endedNext, next]
        exact accounted.resume underway come ready found

end Dock

end TerminalDock
