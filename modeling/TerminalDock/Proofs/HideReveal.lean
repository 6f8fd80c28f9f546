import TerminalDock.Proofs.Interludes

/-! A panel that is hidden and shown again. Meanwhile the sessions go on as they would have anyway: they hear what they
would have heard, and are told nothing. When the panel is shown again, its active session is fitted anew and comes to the
front. -/

namespace TerminalDock
open Proofs.Steps

namespace Panel
variable {panel : Panel}

private theorem fire_hidden (hidden : panel.fitting = false) (place : Nat) :
    (after (fire place) panel).registry.outbox = panel.registry.outbox := by
  unfold fire
  rw [after_get_bind]
  split
  · rfl
  next job _ =>
    rw [after_set_bind]
    unfold firstFit
    rw [after_get_bind]
    dsimp only
    split
    · rw [after_bind, refit_hidden (by exact hidden)]
      rfl
    · rfl

private theorem layoutChanged_hidden (hidden : panel.isOpen = false) : after layoutChanged panel = panel := by
  unfold layoutChanged
  rw [after_get_bind, hidden, if_neg Bool.false_ne_true]
  rfl

private theorem announced_silent (valid : panel.registry.WellFormed) (pliable : panel.scale.registry.Pliable)
    (event : String)
    (payload : Event.Payload) : (panel.emit event payload).2.registry.outbox = panel.registry.outbox := by
  have printed : (panel.emit event payload).2.registry.scale.gridless = panel.registry.scale.gridless :=
    (tellAll_prints event payload _ panel valid pliable).2
  exact congrArg (·.outbox) printed

/-- The sessions as they are presented once the panel was hidden and is shown again: the active one is the only one to
be seen, and has the focus unless it could not be fitted. -/
theorem Face.returned {face : Face} (attached : face.registry.Attached) {id : String}
    (active : face.registry.active = some id)
    {clear : Bool} {name : String} {session : Session.Face}
    (member : (name, session) ∈ (((face.unfocus.exhibit false).exhibit true).spotlight clear).registry.sessions) :
    session.visible = (name == id) ∧ (name = id → session.focused = clear) := by
  have chosen : ((face.unfocus.exhibit false).exhibit true).registry.active = some id := (active_unfocus face).trans active
  have unfocused : face.unfocus = face.onRegistry (·.alter id fun session => { session with focused := false }) := by
    rw [unfocus, active]
  rw [spotlight, chosen] at member
  obtain ⟨shown, exhibited, lit⟩ := Registry.Face.mem_alter member
  obtain ⟨hidden, inside, rfl⟩ := Registry.Face.mem_each exhibited
  obtain ⟨blurred, before, rfl⟩ := Registry.Face.mem_each inside
  rw [unfocused] at before
  obtain ⟨old, there, dimmed⟩ := Registry.Face.mem_alter before
  have hung := attached name old there
  rcases lit with ⟨rfl, rfl⟩ | ⟨other, rfl⟩
  · obtain ⟨-, rfl⟩ := dimmed.resolve_right fun elsewhere => elsewhere.1 rfl
    simp [Session.Face.lit, Session.Face.focus, Session.Face.shown, hung]
  · obtain ⟨-, rfl⟩ := dimmed.resolve_left fun here => other here.1
    refine ⟨?_, fun here => absurd here other⟩
    have away : (name == id) = false := beq_eq_false_iff_ne.mpr other
    have apart : (id == name) = false := beq_eq_false_iff_ne.mpr (Ne.symm other)
    simp [Session.Face.shown, active, away, apart]

end Panel

namespace Dock
variable {β : Type} [SessionBackend β] {dock : Dock β} {beat : Beat β}

theorem AtRest.hushed_beat (rest : dock.AtRest) (fair : dock.Fair) (steady : dock.Steady)
    (hidden : dock.panel.isOpen = false)
    (idle : beat.idle = true) : (dock.beat beat).issued.Perm dock.issued := by
  obtain ⟨silent, -⟩ := steady.orderly.silent
  have unfit : dock.panel.fitting = false := steady.sane.shown.symm.trans hidden
  have nothing {who : Option Loop.TaskId} {given : List String} {ended : Ending Failure Panel}
      (account : Account who given ended dock (dock.beat beat)) (empty : ended.state.registry.outbox = []) :
      (dock.beat beat).issued.Perm dock.issued := by
    have issued := account.issued
    rwa [empty, List.append_nil] at issued
  cases beat with
  | fire place =>
    refine nothing (fire_account dock steady.orderly place) ?_
    rw [state_ending, Panel.fire_hidden unfit]
    exact silent
  | move move =>
    cases move with
    | ask request =>
      cases request with
      | layoutChanged =>
        have found : Panel.perform? (.layoutChanged : Request β) = some (do Panel.layoutChanged; return .nothing) := rfl
        have asked : dock.asked? (.move (.ask .layoutChanged)) = some .layoutChanged := asked_ask dock _
        refine nothing (asked_account steady.orderly asked rfl found) ?_
        rw [state_ending]
        refine (after_bind_view (fun panel : Panel => panel.registry.outbox) (fun _ _ => rfl) dock.panel).trans ?_
        rw [Panel.layoutChanged_hidden hidden]
        exact silent
      | _ => cases idle
    | turn =>
      obtain ⟨given, ended, account, -⟩ := turn_account steady.orderly steady.valid.licensed
      refine nothing account ?_
      rw [← account.submitted]
      exact callsFrom_fresh fun task member => steady.orderly.fresh task ((rest.turn fair).tasks task member)
    | answer task =>
      unfold Dock.beat Dock.move
      dsimp only
      split <;> exact .refl _
    | announce event payload =>
      have posts : Posts none _ _ dock (dock.beat (.move (.announce event payload))) :=
        change_posts dock fun panel => (panel.emit event payload).2
      have posted := posts steady.orderly ⟨by simp, by simp⟩
      have empty := Panel.announced_silent steady.valid.registry steady.sane.pliable event payload
      rw [Dock.issued, posted.begun, posted.waiting 0 (Nat.zero_le _), empty, silent, List.append_nil]
      exact .refl _

theorem AtRest.hushed {beats : List (Beat β)} (rest : dock.AtRest) (fair : dock.Fair) (steady : dock.Steady)
    (wired : dock.panel.registry.Wired) (hidden : dock.panel.isOpen = false) (idle : ∀ beat ∈ beats, beat.idle = true) :
    (dock.play beats).issued.Perm dock.issued := by
  induction beats generalizing dock with
  | nil => exact .refl _
  | cons first others ih =>
    have quiet := idle first (List.mem_cons_self ..)
    have now := rest.coasts fair quiet
    have lasts := Panel.upon_lasts wired first
    rw [← now.panel] at lasts
    have still : (dock.beat first).panel.isOpen = false := (congrArg Panel.Face.isOpen lasts.face).trans hidden
    have later := ih now.rest (fair.beat first) (steady.beat (Beat.lively_of_idle quiet)) lasts.wired still
      fun beat member => idle beat (List.mem_cons_of_mem _ member)
    exact later.trans (rest.hushed_beat fair steady hidden quiet)

/-- The panel is shown again at once if nothing is under way but calls. -/
theorem AtRest.reveals (rest : dock.AtRest) (fair : dock.Fair) (orderly : dock.Orderly) (hidden : dock.panel.isOpen = false)
    (peopled : dock.panel.registry.isEmpty = false) :
    let opened := dock.beat (.move (.ask .openPanel))
    let failure := (ending Panel.reveal dock.panel).failure
    Account (some dock.scheduler.fresh) [] (ending Panel.reveal dock.panel) dock opened ∧ opened.spawned = dock.spawned ∧
      opened.scheduler.results.find? dock.scheduler.fresh = some (failure.elim (.ok (.flag true)) .error) := by
  intro opened failure
  obtain ⟨free, nobody⟩ := rest.unlocked fair
  let asked : Dock β := { dock with scheduler := (dock.scheduler.create ⟨.begin .openPanel, none⟩).2 }
  let locked : Dock β := { asked with lock := { asked.lock with taken := true } }
  let shown := locked.onPanel Panel.reveal
  have goes : opened = shown.2.concludeOpen dock.scheduler.fresh (shown.1.map fun _ => .flag true) := by
    have begun : opened = asked.beginOpen dock.scheduler.fresh := move_ask dock .openPanel
    have entered : asked.beginOpen dock.scheduler.fresh = locked.openLocked dock.scheduler.fresh := by
      unfold beginOpen
      rw [show asked.lock = dock.lock from rfl, free, nobody]
      rfl
    rw [begun, entered, openLocked, show locked.panel = dock.panel from rfl, hidden, peopled]
    rfl
  have readied := readied_ask dock .openPanel orderly
  have taken : Readied dock.scheduler.fresh dock locked :=
    ⟨rfl, rfl, ⟨readied.orderly.unique, readied.orderly.fresh, readied.orderly.drained⟩,
      ⟨readied.attends.given, readied.attends.operation⟩, readied.fresh, readied.tasks, readied.working,
        readied.waiting, rfl⟩
  have dealt := reveal_dealt taken.orderly taken.attends
  refine ⟨?_, ?_, ?_⟩
  · rw [goes]
    exact dealt.account orderly taken
  · rw [goes, spawned_concludeOpen, spawned_onPanel]
    rfl
  · rw [goes]
    have result : (shown.2.concludeOpen dock.scheduler.fresh (shown.1.map fun _ => .flag true)).scheduler.results.find?
        dock.scheduler.fresh = some (shown.1.map fun _ => .flag true) := conclude_result _ _
    have ends : shown.1.map (fun _ => Answer.flag true) = failure.elim (.ok (.flag true)) .error := by
      change (locked.onPanel Panel.reveal).1.map _ = (ending Panel.reveal dock.panel).failure.elim _ _
      unfold onPanel ending
      rw [show locked.panel = dock.panel from rfl]
      cases Panel.reveal dock.panel <;> rfl
    rw [result, ends]

structure Hidden (first last : Dock β) : Prop where
  rest : last.AtRest
  spawned : last.spawned = first.spawned
  issued : last.issued.Perm first.issued
  face : last.panel.face = first.panel.face.unfocus.exhibit false
  lineup : last.panel.lineup = first.panel.lineup
  hearing : last.panel.registry.hearing = first.panel.registry.hearing

theorem AtRest.hides (rest : dock.AtRest) (fair : dock.Fair) (steady : dock.Steady) (shown : dock.panel.isOpen = true) :
    Hidden dock (dock.beat (.move (.ask .hide))) := by
  have valid := steady.valid.registry
  have found : Panel.perform? (.hide : Request β) = some (Panel.quietly Panel.hide) := rfl
  have asked : dock.asked? (.move (.ask .hide)) = some .hide := asked_ask dock _
  have account := asked_account steady.orderly asked rfl found
  obtain ⟨left, spawned⟩ := rest.performed fair found
  have panel : (dock.beat (.move (.ask .hide))).panel = dock.panel.hide.drained := account.panel
  have silent : dock.panel.hide.registry.outbox = [] :=
    (congrArg (·.registry.outbox) (Panel.scale_hide shown)).trans steady.orderly.silent.1
  have face : dock.panel.hide.drained.face = dock.panel.face.unfocus.exhibit false :=
    (Panel.drained_face _).trans (Panel.hide_face valid shown)
  have heard : dock.panel.hide.drained.registry.hearing = dock.panel.registry.hearing :=
    ((Panel.Quiet.rules.hide dock.panel).trans (Panel.drained_quiet _) valid).2
  refine ⟨left, spawned, ?_, panel ▸ face, ?_, panel ▸ heard⟩
  · have issued := account.issued
    rwa [show (ending (Panel.quietly Panel.hide) dock.panel).state.registry.outbox = [] from silent, List.append_nil]
      at issued
  · rw [panel]
    have active : dock.panel.hide.drained.registry.active = dock.panel.registry.active :=
      (congrArg (·.registry.active) face).trans (Panel.Face.active_unfocus _)
    exact Panel.lineup_same active (Panel.Plain.shows.hide dock.panel) (congrArg Registry.Hearing.bus heard)

/-- A panel that was hidden for a while is shown again: nothing was spawned or closed, and the sessions are as they were.
The active one is fitted and brought to the front, and no other one is to be seen. -/
structure Returned (first later last : Dock β) : Prop where
  hidden : later.panel.isOpen = false
  shown : last.panel.isOpen = true
  spawned : last.spawned = first.spawned
  issued : last.issued.Perm (first.issued ++ later.submitted last)
  lineup : last.panel.lineup = first.panel.lineup
  front : ∃ id session failure clear, first.panel.registry.active = some id ∧
    later.panel.registry.session? id = some session ∧ session.Fronted true (later.submitted last) failure clear ∧
    last.scheduler.results.find? later.scheduler.fresh = some (failure.elim (.ok (.flag true)) .error) ∧
    ∀ name other, last.panel.registry.session? name = some other →
      other.view.visible = (name == id) ∧ (name = id → other.surface.focused = clear)

theorem AtRest.resurfaces (rest : dock.AtRest) (fair : dock.Fair) (steady : dock.Steady) (hidden : dock.panel.isOpen = false)
    {id : String} {session : Session} (active : dock.panel.registry.active = some id)
    (live : dock.panel.registry.session? id = some session) :
    let opened := dock.beat (.move (.ask .openPanel))
    let failure := Prospect.failure? session.room
    opened.spawned = dock.spawned ∧ opened.issued.Perm (dock.issued ++ dock.submitted opened) ∧
      session.Fronted true (dock.submitted opened) failure failure.isNone ∧
      opened.scheduler.results.find? dock.scheduler.fresh = some (failure.elim (.ok (.flag true)) .error) ∧
      opened.panel.face = (dock.panel.face.exhibit true).spotlight failure.isNone ∧
      opened.panel.lineup = dock.panel.lineup ∧ opened.panel.registry.hearing = dock.panel.registry.hearing := by
  intro opened failure
  have valid := steady.valid.registry
  have peopled : dock.panel.registry.isEmpty = false := by
    apply Bool.eq_false_iff.mpr
    intro empty
    rw [Registry.session?, List.isEmpty_iff.mp empty] at live
    cases live
  obtain ⟨account, spawned, result⟩ := rest.reveals fair steady.orderly hidden peopled
  have hung : session.view.attached = true :=
    steady.attached id session.face (Assoc.mem_of_find? (Panel.live_face live))
  have settles : Panel.Settles Panel.reveal id session.room dock.panel (dock.panel.scale.exhibit true) :=
    Panel.reveal_settles valid (steady.sane.pliable.live id session.gauge (Registry.live_scale live)) active live hung
  have panel : opened.panel = (after Panel.reveal dock.panel).drained := by
    rw [account.panel, state_ending]
  have submitted : dock.submitted opened = Prospect.calls id session.room := by
    have outbox := congrArg (·.registry.outbox) settles.scale
    rw [Panel.Scale.outbox_settle] at outbox
    rw [account.submitted, state_ending]
    exact outbox.trans (congrArg (· ++ Prospect.calls id session.room) steady.orderly.silent.1)
  have face : opened.panel.face = (dock.panel.face.exhibit true).spotlight failure.isNone := by
    rw [panel, Panel.drained_face, Panel.reveal_face valid, settles.failure]
  have heard : opened.panel.registry.hearing = dock.panel.registry.hearing := by
    rw [panel]
    exact ((Panel.Quiet.rules.reveal dock.panel).trans (Panel.drained_quiet _) valid).2
  have plain : Panel.Plain dock.panel opened.panel := by
    rw [panel]
    exact Panel.Plain.shows.reveal dock.panel
  have chosen : opened.panel.registry.active = dock.panel.registry.active :=
    (congrArg (·.registry.active) face).trans (Panel.Face.active_spotlight _ _)
  refine ⟨spawned, ?_, ?_, ?_, face, Panel.lineup_same chosen plain (congrArg Registry.Hearing.bus heard), heard⟩
  · have issued := account.issued
    rwa [← account.submitted] at issued
  · have fronted := Session.Fronted.of_room session
    rw [valid.named id session live] at fronted
    rw [submitted]
    exact fronted
  · rw [settles.failure] at result
    exact result

theorem AtRest.returns {beats : List (Beat β)} (rest : dock.AtRest) (fair : dock.Fair) (steady : dock.Steady)
    (wired : dock.panel.registry.Wired) (proper : dock.panel.Proper) (shown : dock.panel.isOpen = true)
    (idle : ∀ beat ∈ beats, beat.idle = true) :
    let later := (dock.beat (.move (.ask .hide))).play beats
    let opened := later.beat (.move (.ask .openPanel))
    Returned dock later opened ∧ opened.panel.registry.hearing = (dock.play beats).panel.registry.hearing := by
  intro later opened
  have hides := rest.hides fair steady shown
  let hidden := dock.beat (.move (.ask .hide))
  have fairly : hidden.Fair := fair.beat _
  have hiddenSteady : hidden.Steady := steady.beat rfl
  have hiddenWired : hidden.panel.registry.Wired := steady.wired_beat rfl wired
  have hiddenFace : hidden.panel.isOpen = false := congrArg Panel.Face.isOpen hides.face
  have lively : ∀ beat ∈ beats, beat.lively = true := fun beat member => Beat.lively_of_idle (idle beat member)
  obtain ⟨panel, laterRest, spawned⟩ : later.panel = beats.foldl Beat.upon hidden.panel ∧ later.AtRest ∧
      later.spawned = hidden.spawned := hides.rest.play fairly idle
  have hushed : later.issued.Perm hidden.issued := hides.rest.hushed fairly hiddenSteady hiddenWired hiddenFace idle
  have laterSteady : later.Steady := hiddenSteady.lively lively
  have lasts : Panel.Lasts hidden.panel later.panel := panel ▸ Panel.uponAll_lasts hiddenWired beats
  have laterFace : later.panel.face = dock.panel.face.unfocus.exhibit false := lasts.face.trans hides.face
  have lineup : later.panel.lineup = dock.panel.lineup := lasts.lineup.trans hides.lineup
  have shut : later.panel.isOpen = false := congrArg Panel.Face.isOpen laterFace
  obtain ⟨id, active⟩ : ∃ id, dock.panel.registry.active = some id := by
    apply Option.ne_none_iff_exists'.mp
    intro nobody
    exact Bool.noConfusion ((proper.chosen.mp nobody).symm.trans (proper.peopled shown))
  have chosen : later.panel.registry.active = some id := (congrArg Panel.Lineup.active lineup).trans active
  obtain ⟨session, live⟩ := Assoc.has_iff.mp (laterSteady.valid.registry.chosen id chosen)
  obtain ⟨asked, issued, fronted, result, face, kept, heard⟩ :=
    laterRest.resurfaces (fairly.play beats) laterSteady shut chosen live
  refine ⟨⟨shut, ?_, ?_, ?_, kept.trans lineup, id, session, _, _, active, live, fronted, result,
    fun name other there => ?_⟩, ?_⟩
  · exact (congrArg Panel.Face.isOpen face).trans (Panel.Face.isOpen_spotlight _ _)
  · exact asked.trans (spawned.trans hides.spawned)
  · exact issued.trans ((hushed.trans hides.issued).append_right _)
  · have member := Assoc.mem_of_find? (Panel.live_face there)
    rw [face, laterFace] at member
    exact Panel.Face.returned steady.attached active member
  · rw [heard, (rest.play fair idle).1, panel]
    exact Panel.uponAll_hearing wired hiddenWired hides.hearing beats

theorem Steady.proper {beats : List (Beat β)} (steady : dock.Steady) (firm : dock.panel.face.base.Firm)
    (occupied : dock.panel.registry.active = none → dock.panel.face.base.roll = [])
    (allowed : ∀ beat ∈ beats, beat.lively = true) : (dock.play beats).panel.Proper := by
  induction beats generalizing dock with
  | nil => exact .of_face steady.valid.registry firm occupied
  | cons first rest ih =>
    have now := allowed first (List.mem_cons_self ..)
    have step : Panel.Face.Step false dock.panel.face (dock.beat first).panel.face := steady.step now Bool.noConfusion
    exact ih (steady.beat now) (step.firm firm) (step.occupied occupied) fun beat member =>
      allowed beat (List.mem_cons_of_mem _ member)

/-- Whatever was done before, in whatever order: when the panel is shown and nothing is under way but calls, it may be
hidden, and shown again after a while. The sessions are then as they were but for what they heard meanwhile, which is what
they would have heard anyway. -/
theorem hide_and_reveal {given : List (String × Json)} {config : PanelConfig} (valid : Config.validate given = .ok config)
    {scheme : String} {font : Font} {height : Json} {panel : Panel}
    (created : Panel.create config scheme font height = .ok panel) (backend : β) (hook : Transport.FailureHook)
    {before meanwhile : List (Beat β)} (allowed : ∀ beat ∈ before, beat.lively = true)
    (shown : ((Dock.fresh panel backend hook).play before).panel.isOpen = true)
    (rest : ((Dock.fresh panel backend hook).play before).AtRest) (idle : ∀ beat ∈ meanwhile, beat.idle = true) :
    let dock := (Dock.fresh panel backend hook).play before
    let later := (dock.beat (.move (.ask .hide))).play meanwhile
    let opened := later.beat (.move (.ask .openPanel))
    Returned dock later opened ∧ opened.panel.registry.hearing = (dock.play meanwhile).panel.registry.hearing := by
  have new := Panel.create_new valid created
  obtain ⟨firm, empty⟩ := Panel.create_firm created
  have fresh : (Dock.fresh panel backend hook).Steady := steady_fresh new backend hook
  have fair : (Dock.fresh panel backend hook).Fair := fair_fresh panel backend hook
  have wired : (Dock.fresh panel backend hook).panel.registry.Wired := new.blank.wired
  exact rest.returns (fair.play before) (fresh.lively allowed) (fresh.wired wired allowed)
    (fresh.proper firm (fun _ => empty) allowed) shown idle

/-- Two sessions, one of them in the background. -/
def couple : List (Beat PuppetBackend) :=
  [.move (.ask .openPanel), .fire 0, .move (.ask (.add none)), .move .turn, .move (.ask (.beginRename "term-1"))]

/-- One of them goes on, the other one ends, and the layout changes. -/
def interlude : List (Beat PuppetBackend) :=
  [.move (.announce "terminal-output-term-1" (.chunk "QQ==")), .move (.ask .layoutChanged), .fire 0,
    .move (.announce "terminal-exit-term-2" .nothing), .move .turn]

theorem hide_and_reveal_couple : ∃ config panel, Config.validate [] = .ok config ∧
    Panel.create config "dark" (.measured "Menlo" 13) .null = .ok panel ∧
    let dock := (Dock.fresh panel ({} : PuppetBackend) .log).play couple
    let later := (dock.beat (.move (.ask .hide))).play interlude
    let opened := later.beat (.move (.ask .openPanel))
    later.submitted opened = [.resize "term-2" ⟨8, 60⟩] ∧
      (opened.panel.registry.session? "term-1").map (·.surface.written) = some [[65]] ∧
      Returned dock later opened ∧ opened.panel.registry.hearing = (dock.play interlude).panel.registry.hearing := by
  have valid : Config.validate [] = .ok {} := by decide +kernel
  have created : Panel.create {} "dark" (.measured "Menlo" 13) .null = .ok _ := rfl
  have allowed : ∀ beat ∈ couple, beat.lively = true := by decide +kernel
  have returns := hide_and_reveal valid created ({} : PuppetBackend) .log allowed (by decide +kernel) (by decide +kernel)
    (by decide +kernel : ∀ beat ∈ interlude, beat.idle = true)
  exact ⟨_, _, valid, created, by decide +kernel, by decide +kernel, returns⟩

/-- A session that cannot be fitted does not get the focus back. -/
theorem hide_and_reveal_fails : ∃ panel, Panel.create {} "dark" .flat .null = .ok panel ∧
    let dock := (Dock.fresh panel ({} : PuppetBackend) .log).play [.move (.ask .openPanel)]
    let hidden := dock.beat (.move (.ask .hide))
    let opened := hidden.beat (.move (.ask .openPanel))
    dock.panel.isOpen = true ∧ dock.AtRest ∧ dock.panel.registry.active = some "term-1" ∧
      (opened.panel.registry.session? "term-1").map (fun session => (session.laidOut, session.surface.focused)) =
        some (true, false) ∧
      hidden.submitted opened = [] ∧
      hidden.failure? (.move (.ask .openPanel)) = some (.fault .zeroDivision "division by zero") := by
  refine ⟨_, rfl, by decide +kernel, by decide +kernel, by decide +kernel, by decide +kernel, by decide +kernel,
    by decide +kernel⟩

end Dock

end TerminalDock
