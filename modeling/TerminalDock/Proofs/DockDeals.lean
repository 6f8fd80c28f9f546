import TerminalDock.Proofs.DockCalls

/-! What a task deals out in its turn. Whatever the task is about, it does one thing to the panel, submits what that
asks for, and a fit that fails shows in what the task has come to. -/

namespace TerminalDock
open Proofs.Steps

section Tabbed
variable {β : Type} {registry : Registry} {purpose : Purpose}

theorem Purpose.Known.tabbed (known : purpose.Known (Request.panelwise : Request β → Bool) registry) :
    purpose ≠ .create := by
  rintro rfl
  obtain ⟨_, allowed⟩ := known
  cases allowed

end Tabbed

theorem Panel.landed_drained {cwd : String} {spawned : Except Failure String} {faults : String → WiringFaults}
    {purpose : Purpose} {panel : Panel} :
    (panel.landed cwd spawned faults purpose).drained = panel.landed cwd spawned faults purpose := by
  unfold landed
  split
  · cases purpose <;> rfl
  · rfl

/-- What is done to the panel in one go, with the identifiers that the backend gave meanwhile and how it ends before
the calls that were submitted are taken over. -/
inductive Deal {β : Type} [SessionBackend β] (panel : Panel) (backend : β) :
    List String → Ending Failure Panel → β → Prop
  | rest {other : β} (served : Served Request.panelwise backend other) : Deal panel backend [] ⟨panel, none⟩ other
  | perform {request : Request β} {act : PanelStep Answer} (allowed : request.panelwise = true)
      (found : Panel.perform? request = some act) : Deal panel backend [] (ending act panel) backend
  | reveal : Deal panel backend [] (ending Panel.reveal panel) backend
  | fire (place : Nat) : Deal panel backend [] (ending (Panel.fire place) panel) backend
  | sweep (first : panel.registry.swept = false) :
    Deal panel backend []
      ⟨panel.swept.posting (panel.registry.outbox ++ panel.registry.sessions.keys.map .close), none⟩ backend
  | land {cwd : String} {purpose : Purpose} {asked : β} (served : Served Request.panelwise backend asked)
      (tabbed : purpose ≠ .create) :
    Deal panel backend (SessionBackend.spawn cwd asked).1.toOption.toList
      ⟨(panel.landed cwd (SessionBackend.spawn cwd asked).1
        (SessionBackend.wiring (SessionBackend.spawn cwd asked).2.2) purpose).posting
        (after (Registry.create cwd (SessionBackend.spawn cwd asked).1
          (SessionBackend.wiring (SessionBackend.spawn cwd asked).2.2)) panel.registry).outbox, none⟩
      (SessionBackend.spawn cwd asked).2.2

theorem Deal.step {β : Type} [SessionBackend β] {panel : Panel} {backend other : β} {given : List String}
    {ended : Ending Failure Panel} (deal : Deal panel backend given ended other) (valid : panel.registry.WellFormed)
    (pliable : panel.scale.registry.Pliable)
    (attached : ∀ id session, panel.registry.session? id = some session → session.view.attached = true) :
    Panel.Scale.Step ended panel.scale given ended.state.scale := by
  cases deal with
  | rest => exact .still
  | perform allowed found =>
    rw [state_ending]
    exact Panel.perform_scaled allowed found valid pliable
  | reveal =>
    rw [state_ending]
    exact .revealed (Panel.reveal_fits valid pliable)
  | fire place =>
    rw [state_ending]
    exact Panel.fire_step place valid pliable attached
  | sweep first =>
    have scaled : (panel.swept.posting (panel.registry.outbox ++ panel.registry.sessions.keys.map .close)).scale =
        panel.scale.onRegistry fun registry =>
          { registry.submit (registry.gauges.keys.map .close) with swept := true } := by
      rw [← Registry.keys_scale]
      rfl
    exact scaled ▸ .swept first
  | land served tabbed => exact Panel.landed_scaled _ tabbed

namespace Dock
variable {β : Type} [SessionBackend β] {task : Loop.TaskId} {first middle last : Dock β}

/-- A part of the turn of a task, with what it deals out. -/
structure Dealt (task : Loop.TaskId) (given : List String) (ended : Ending Failure Panel) (first last : Dock β) : Prop where
  deal : Deal first.panel first.backend given ended last.backend
  panel : last.panel = ended.state.drained
  posted : Posted task ended.state.registry.outbox ended.state.registry.journal first last
  /-- Whoever tells the backend a size has nothing left to do. -/
  gone : ∀ call ∈ ended.state.registry.outbox, call.isResize = true → task ∉ last.scheduler.running.keys
  failed : ∀ failure, ended.failure = some failure → last.scheduler.results.find? task = some (.error failure)

def Deals (task : Loop.TaskId) (first last : Dock β) : Prop :=
  first.Orderly → first.Attends task → ∃ given ended, Dealt task given ended first last

namespace Deals

theorem rest (posts : Posts task [] [] first last) (panel : last.panel = first.panel)
    (served : Served Request.panelwise first.backend last.backend) : Deals task first last := by
  intro orderly attends
  have silent := orderly.silent
  refine ⟨[], ⟨first.panel, none⟩, .rest served, panel.trans orderly.drained.symm, ?_, ?_,
    fun _ raised => Ending.unfailing raised⟩
  · rw [silent.1, silent.2]
    exact posts orderly attends
  · rw [silent.1]
    exact List.forall_mem_nil _

theorem calm (posts : Posts task [] [] first last) (calm : Calm (fun _ => True) first last) : Deals task first last :=
  rest posts calm.panel (calm.backend ▸ .rest)

theorem after (deals : Deals task middle last) (before : Posts task [] [] first middle)
    (panel : middle.panel = first.panel) (backend : middle.backend = first.backend) : Deals task first last := by
  intro orderly attends
  have before := before
  have start := before orderly attends
  obtain ⟨given, ended, dealt⟩ := deals start.orderly start.attends
  refine ⟨given, ended, panel ▸ backend ▸ dealt.deal, dealt.panel, ?_, dealt.gone, dealt.failed⟩
  have both := before.trans (fun _ _ => dealt.posted)
  exact both orderly attends

end Deals

theorem Closes.dealt {α : Type} {dock : Dock β} {act : PanelStep α}
    (deal : Deal dock.panel dock.backend [] (ending act dock.panel) dock.backend)
    (closes : Closes task (Proofs.Steps.after act dock.panel).registry.outbox
      (Proofs.Steps.after act dock.panel).registry.journal dock last)
    (shown : last.panel = (dock.onPanel act).2.panel) (served : last.backend = dock.backend)
    (failed : ∀ failure, (dock.onPanel act).1 = .error failure →
      last.scheduler.results.find? task = some (.error failure))
    (orderly : dock.Orderly) (attends : dock.Attends task) : Dealt task [] (ending act dock.panel) dock last := by
  have yields : Yields (fun _ => True) dock (Proofs.Steps.after act dock.panel).drained dock.backend (dock.onPanel act).2 :=
    onPanel_yields dock act
  refine ⟨served ▸ deal, ?_, ?_, fun _ _ _ => closes.2 orderly attends, fun failure raised => failed failure ?_⟩
  · rw [state_ending, shown, yields.panel]
  · rw [state_ending]
    exact closes.1 orderly attends
  · unfold ending at raised
    unfold onPanel
    cases ran : act dock.panel with
    | ok value panel => rw [ran] at raised; cases raised
    | error reason panel => rw [ran] at raised; cases raised; rfl

theorem performed_dealt {dock : Dock β} {request : Request β} {act : PanelStep Answer} (allowed : request.panelwise = true)
    (found : Panel.perform? request = some act) (orderly : dock.Orderly) (attends : dock.Attends task) :
    Dealt task [] (ending act dock.panel) dock ((dock.onPanel act).2.conclude task (dock.onPanel act).1) := by
  have yields : Yields (fun _ => True) dock (Proofs.Steps.after act dock.panel).drained dock.backend
      ((dock.onPanel act).2.conclude task (dock.onPanel act).1) :=
    (onPanel_yields dock act).calmly (conclude_calm _ task _)
  have calm : Calm (fun _ => True) (dock.onPanel act).2 ((dock.onPanel act).2.conclude task (dock.onPanel act).1) :=
    conclude_calm _ task _
  refine Closes.dealt (.perform allowed found) ((onPanel_posts dock act).conclude _) calm.panel yields.backend ?_
    orderly attends
  exact fun failure raised => raised ▸ conclude_result _ _

private theorem sweep_deals (dock : Dock β) (drainAfter : Bool) : Deals task dock (dock.sweep task drainAfter) := by
  unfold sweep
  dsimp only
  split
  · split
    · exact .calm ((posts_rules task).drain dock _) ((calm_rules task).drain dock _)
    · exact .calm (conclude_posts dock _) (conclude_calm dock task _)
  next first =>
    intro orderly attends
    have closing : (dock.panel.registry.sessions.keys.map fun id => (Stage.call (.close id) : Stage β)).filterMap
        Stage.call? = dock.panel.registry.sessions.keys.map .close := by
      rw [List.filterMap_map]
      exact congrFun List.filterMap_eq_map _
    have fair : ∀ stage ∈ dock.panel.registry.sessions.keys.map fun id => (Stage.call (.close id) : Stage β),
        stage.plain = true ∨ (fun _ => True) stage := fun _ _ => .inr trivial
    let ended : Ending Failure Panel := ⟨dock.panel.swept.posting
      (dock.panel.registry.outbox ++ dock.panel.registry.sessions.keys.map .close), none⟩
    let closed := (dock.change Panel.swept).startAll (dock.panel.registry.sessions.keys.map fun id => .call (.close id))
    let last := closed.2.waitFor task closed.1 (.sweeping closed.1 drainAfter) (·.endSweep task closed.1 drainAfter)
    have yields : Yields (fun _ => True) dock dock.panel.swept.drained dock.backend last :=
      (change_yields dock Panel.swept).calmly
        (((calm_rules task).startAll _ fair).calmly ((calm_rules task).waitFor _ rfl
          ((calm_rules task).endSweep _ _ drainAfter)))
    have started : Posts task _ _ dock closed.2 := (change_posts dock Panel.swept).trans (startAll_posts _ _)
    rw [closing, List.append_nil] at started
    have posts : Posts task _ _ dock last := started.quietly
      ((posts_rules task).waitFor _ rfl ((posts_rules task).endSweep _ _ drainAfter))
    have deal : Deal dock.panel dock.backend [] ended dock.backend := .sweep (Bool.eq_false_iff.mpr first)
    refine ⟨[], ended, yields.backend.symm ▸ deal, yields.panel, posts orderly attends, fun call member told => ?_,
      fun _ raised => Ending.unfailing raised⟩
    change call ∈ dock.panel.registry.outbox ++ _ at member
    rw [orderly.silent.1, List.nil_append] at member
    obtain ⟨id, _, rfl⟩ := List.mem_map.mp member
    cases told

theorem endSpawn_deals {dock : Dock β} (cwd : String) {purpose : Purpose} (tabbed : purpose ≠ .create)
    (before : Posts task [] [] first dock) (shown : dock.panel = first.panel)
    (served : Served Request.panelwise first.backend dock.backend) :
    Deals task first (dock.endSpawn task cwd purpose) := by
  intro orderly attends
  have yields : Yields (fun _ => True) dock _ _ (dock.endSpawn task cwd purpose) := endSpawn_yields dock task cwd purpose
  have closes : Closes task (Proofs.Steps.after (Registry.create cwd (SessionBackend.spawn cwd dock.backend).1
      (SessionBackend.wiring (SessionBackend.spawn cwd dock.backend).2.2)) dock.panel.registry).outbox [] dock
      (dock.endSpawn task cwd purpose) := by
    rcases answer : SessionBackend.spawn cwd dock.backend with ⟨spawned, records, backend⟩
    let asked : Dock β := { dock with backend := backend }.log records
    have placed : Posts task [] [] dock { dock with backend := backend } :=
      .of_running id rfl (Nat.le_refl _) (List.append_nil _).symm rfl
    have logged : Posts task [] [] dock asked := placed.trans (log_posts _ records)
    let act : PanelStep Session := Panel.onRegistry (Registry.create cwd spawned (SessionBackend.wiring backend))
    have made := logged.trans (onPanel_posts asked act).unnoted
    rw [Panel.after_onRegistry] at made
    have ended : dock.endSpawn task cwd purpose = (asked.onPanel act).2.followUp task purpose (asked.onPanel act).1 := by
      simp only [endSpawn, answer]
      rfl
    rw [ended]
    cases (asked.onPanel act).1 with
    | error failure => exact (followUp_closes_failed _ purpose failure).after made
    | ok session => exact (followUp_closes_made _ purpose session).after made
  let ended : Ending Failure Panel := ⟨(dock.panel.landed cwd (SessionBackend.spawn cwd dock.backend).1
    (SessionBackend.wiring (SessionBackend.spawn cwd dock.backend).2.2) purpose).posting
    (Proofs.Steps.after (Registry.create cwd (SessionBackend.spawn cwd dock.backend).1
      (SessionBackend.wiring (SessionBackend.spawn cwd dock.backend).2.2)) dock.panel.registry).outbox, none⟩
  have deal : Deal dock.panel first.backend _ ended (SessionBackend.spawn cwd dock.backend).2.2 := .land served tabbed
  have quiet : ended.state.registry.journal = [] :=
    congrArg (fun panel : Panel => panel.registry.journal) Panel.landed_drained.symm
  have last : (dock.endSpawn task cwd purpose).panel = ended.state.drained := yields.panel.trans Panel.landed_drained.symm
  have both := before.trans_closes closes
  refine ⟨_, ended, shown ▸ yields.backend.symm ▸ deal, last, ?_, fun _ _ _ => both.2 orderly attends,
    fun _ raised => Ending.unfailing raised⟩
  rw [quiet]
  exact both.1 orderly attends

private theorem beginSpawn_deals (dock : Dock β) (cwd : String) {purpose : Purpose} (tabbed : purpose ≠ .create) :
    Deals task dock (dock.beginSpawn task cwd purpose) := by
  rcases answer : SessionBackend.ask cwd dock.backend with ⟨wait, records, backend⟩
  let asked : Dock β := { dock.see [.spawning cwd] with backend := backend }.log records
  have served : Served Request.panelwise dock.backend asked.backend := by
    have same : asked.backend = (SessionBackend.ask cwd dock.backend).2.2 := by rw [answer]; rfl
    exact same ▸ .ask cwd
  have placed : Posts task [] [] dock { dock.see [.spawning cwd] with backend := backend } :=
    .of_running id rfl (Nat.le_refl _) (show _ = dock.sights ++ [.spawning cwd] from rfl) rfl
  have posts : Posts task [] [] dock asked := placed.trans (log_posts _ records)
  simp only [beginSpawn, show (dock.see [.spawning cwd]).backend = dock.backend from rfl, answer]
  split
  · have waiting : Posts task [] [] dock (asked.suspend task (.spawning cwd purpose)) := posts.trans (suspend_posts _ rfl)
    refine .rest (waiting.trans ?_) rfl served
    exact .of_running id rfl (Nat.le_refl _) (List.append_nil _).symm rfl
  · exact endSpawn_deals cwd tabbed posts rfl served

theorem reveal_dealt {dock : Dock β} (orderly : dock.Orderly) (attends : dock.Attends task) :
    Dealt task [] (ending Panel.reveal dock.panel) dock
      ((dock.onPanel Panel.reveal).2.concludeOpen task ((dock.onPanel Panel.reveal).1.map fun _ => .flag true)) := by
  let shown := dock.onPanel Panel.reveal
  let last := shown.2.concludeOpen task (shown.1.map fun _ => .flag true)
  have calm : Calm (fun _ => True) shown.2 last := concludeOpen_calm _ task _
  have yields : Yields (fun _ => True) dock _ _ last := (onPanel_yields dock Panel.reveal).calmly calm
  have closes : Closes task _ _ dock last := (onPanel_posts dock Panel.reveal).concludeOpen _
  refine closes.dealt .reveal calm.panel yields.backend ?_ orderly attends
  intro failure raised
  have result : last.scheduler.results.find? task = _ := conclude_result shown.2.unlock _
  rw [result, raised]
  rfl

private theorem openLocked_deals (dock : Dock β) : Deals task dock (dock.openLocked task) := by
  unfold openLocked
  split
  · exact .calm ((Posts.refl dock).concludeOpen _).1 (concludeOpen_calm dock task _)
  · split
    · exact beginSpawn_deals dock _ (by simp)
    · exact fun orderly attends => ⟨_, _, reveal_dealt orderly attends⟩

private theorem beginOpen_deals (dock : Dock β) : Deals task dock (dock.beginOpen task) := by
  unfold beginOpen
  split
  · have waiting : Posts task [] [] dock (dock.suspend task .queued) := suspend_posts dock rfl
    refine .rest (waiting.trans ?_) rfl .rest
    exact .of_running id rfl (Nat.le_refl _) (List.append_nil _).symm rfl
  · refine (openLocked_deals _).after ?_ rfl rfl
    exact .of_running id rfl (Nat.le_refl _) (List.append_nil _).symm rfl

theorem enter_deals (dock : Dock β) : Deals task dock (dock.enter task) := by
  refine (openLocked_deals _).after ?_ rfl rfl
  exact .of_running id rfl (Nat.le_refl _) (List.append_nil _).symm rfl

private theorem release_deals (dock : Dock β) : Deals task dock (dock.release task) := by
  unfold release
  split
  · exact .calm (conclude_posts dock _) (conclude_calm dock task _)
  next first rest _ =>
    let freed : Dock β := { dock with held := rest, scheduler := dock.scheduler.enqueue (.resume first) }
    have posts : Posts task [] [] dock freed := .of_running id rfl (Nat.le_refl _) (List.append_nil _).symm rfl
    have calm : Calm (fun _ => True) dock freed := .of_running rfl rfl rfl
    exact .calm (posts.trans (conclude_posts freed _)) (calm.calmly (conclude_calm freed task _))

theorem begin_deals (dock : Dock β) {request : Request β} (allowed : request.only Request.panelwise = true) :
    Deals task dock (dock.begin task request) := by
  have performed {act : PanelStep Answer} (found : Panel.perform? request = some act)
      (simple : request.panelwise = true) :
      Deals task dock ((dock.onPanel act).2.conclude task (dock.onPanel act).1) :=
    fun orderly attends => ⟨[], _, performed_dealt simple found orderly attends⟩
  cases request with
  | openPanel => exact beginOpen_deals dock
  | toggle =>
    simp only [begin]
    split
    · let act : PanelStep Answer := Panel.quietly Panel.hide
      let last := (dock.change Panel.hide).conclude task (.ok (.flag false))
      have calm : Calm (fun _ => True) (dock.onPanel act).2 last := conclude_calm _ task _
      have found : Panel.perform? (.hide : Request β) = some act := rfl
      have closes : Closes task _ _ dock last := (onPanel_posts dock act).conclude _
      exact fun orderly attends => ⟨_, _, closes.dealt (.perform rfl found) calm.panel calm.backend
        (fun _ raised => by cases raised) orderly attends⟩
    · exact beginOpen_deals dock
  | add cwd => exact beginSpawn_deals dock _ (by simp)
  | addTab cwd => exact beginSpawn_deals dock _ (by simp)
  | closeAll => exact sweep_deals dock _
  | shutdown => exact sweep_deals dock _
  | drain => exact .calm ((posts_rules task).drain dock _) ((calm_rules task).drain dock _)
  | release => exact release_deals dock
  | background name request =>
    let started : Dock β := { dock with scheduler := (dock.scheduler.start ⟨.begin request, some name⟩).2 }
    have posts : Posts task (Stage.begin request).call?.toList [] dock started := .of_start rfl rfl rfl rfl
    have calm : Calm (fun _ => True) dock started := .of_put rfl rfl rfl (.inr trivial)
    exact .calm (posts.trans (conclude_posts started _)) (calm.calmly (conclude_calm started task _))
  | gather requests =>
    let started := dock.startAll (requests.map .begin)
    have silent : (requests.map (Stage.begin : Request β → Stage β)).filterMap Stage.call? = [] := by
      rw [List.filterMap_map]
      exact List.filterMap_eq_nil_iff.mpr fun _ _ => rfl
    have posts : Posts task _ _ dock started.2 := startAll_posts dock _
    rw [silent] at posts
    have calm : Calm (fun _ => True) dock started.2 := (calm_rules task).startAll dock fun _ _ => .inr trivial
    let last := started.2.waitFor task started.1 (.gathering started.1) (·.conclude task (.ok (.all [])))
    have waiting : Posts task [] [] started.2 last := (posts_rules task).waitFor _ rfl (conclude_posts _ _)
    have still : Calm (fun _ => True) started.2 last := (calm_rules task).waitFor _ rfl (conclude_calm _ task _)
    simp only [begin]
    exact .calm (posts.trans waiting) (calm.calmly still)
  | create _ | adjust _ => cases allowed
  | _ =>
    have deals := performed rfl allowed
    exact deals

end Dock

end TerminalDock
