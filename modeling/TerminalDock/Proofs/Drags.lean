import TerminalDock.Proofs.PanelEdge
import TerminalDock.Proofs.ScaleRuns

/-! The height of the panel along a run. The edge after a run is what the operations that were begun make of it, one
after another; so the height stays within its bounds, and a drag goes by where it began, however it got there. -/

namespace TerminalDock
open Proofs.Steps

namespace Panel.Edge

/-- The edge, if other heights were kept before. -/
def since (earlier : List Int) (edge : Edge) : Edge :=
  { edge with kept := earlier ++ edge.kept }

variable {edge : Edge}

private theorem since_resize (earlier : List Int) (wanted : Json) :
    (edge.since earlier).resize wanted = (edge.resize wanted).since earlier := by
  unfold resize since
  dsimp only
  split <;> rfl

private theorem since_keep (edge : Edge) (earlier : List Int) : (edge.since earlier).keep = edge.keep.since earlier := by
  simp only [keep, since, List.append_assoc]

private theorem since_follow {β : Type} (earlier : List Int) (request : Request β) :
    (edge.since earlier).follow request = (edge.follow request).since earlier := by
  have drags : (edge.since earlier).drag = edge.drag := rfl
  have config : (edge.since earlier).config = edge.config := rfl
  cases request with
  | dragTo y =>
    simp only [follow, drags]
    cases edge.drag with
    | none => rfl
    | some drag => exact since_resize earlier (dragHeight drag y)
  | endDrag =>
    simp only [follow, drags]
    cases edge.drag with
    | none => rfl
    | some drag => exact since_keep { edge with drag := none } earlier
  | setHeight wanted =>
    simp only [follow, config]
    cases edge.config.clampHeight wanted with
    | error error => rfl
    | ok height => exact since_keep { edge with height := height } earlier
  | _ => rfl

end Panel.Edge

def Sight.kept? {α : Type} : Sight α → Option Int
  | .effect shown => shown.kept?
  | _ => none

namespace Dock
variable {β : Type}

def kept (dock : Dock β) : List Int :=
  dock.sights.filterMap Sight.kept?

/-- The edge of the panel, with all the heights that ever were kept. -/
def edge (dock : Dock β) : Panel.Edge :=
  dock.panel.edge.since dock.kept

private theorem edge_see {sights : List (Sight Answer)} (quiet : sights.filterMap Sight.kept? = []) (dock : Dock β) :
    (dock.see sights).edge = dock.edge := by
  simp only [edge, kept, see, List.filterMap_append, quiet, List.append_nil]

theorem edge_log (records : List LogRecord) (dock : Dock β) : (dock.log records).edge = dock.edge := by
  apply edge_see
  rw [List.filterMap_map]
  exact List.filterMap_eq_nil_iff.mpr fun _ _ => rfl

private theorem edge_conclude (task : Loop.TaskId) (result : Except Failure Answer) (dock : Dock β) :
    (dock.conclude task result).edge = dock.edge := by
  unfold conclude
  dsimp only
  split
  · rfl
  · exact edge_see rfl _

private theorem edge_absorb (dock : Dock β) : dock.absorb.edge = dock.edge := by
  have seen (effects : List Effect) : (effects.map (Sight.effect (α := Answer))).filterMap Sight.kept? =
      effects.filterMap Effect.kept? := by
    rw [List.filterMap_map]
    rfl
  simp [edge, absorb, kept, Panel.edge, Panel.Edge.since, Registry.kept, seen]

private theorem edge_change (f : Panel → Panel) (dock : Dock β) :
    (dock.change f).edge = (f dock.panel).edge.since dock.kept :=
  edge_absorb { dock with panel := f dock.panel }

private theorem edge_change_same {f : Panel → Panel} (same : ∀ panel, (f panel).edge = panel.edge) (dock : Dock β) :
    (dock.change f).edge = dock.edge := by
  rw [edge_change, same]
  rfl

private theorem edge_onPanel {α : Type} (act : PanelStep α) (dock : Dock β) :
    (dock.onPanel act).2.edge = (after act dock.panel).edge.since dock.kept := by
  rw [onPanel_change, edge_change]

/-- Nothing that turns do to the panel of their own accord moves its edge. -/
theorem edge_rules (task : Loop.TaskId) : TurnRules (fun _ : Stage β => True) task (fun first last => last.edge = first.edge)
    fun first last => last.edge = first.edge where
  refl _ := rfl
  trans before later := later.trans before
  follow before later := later.trans before
  see dock sights aside := by
    refine edge_see (List.filterMap_eq_nil_iff.mpr fun sight member => ?_) dock
    have aside := aside sight member
    cases sight with
    | effect shown =>
      cases shown with
      | logged => rfl
      | _ => cases aside
    | _ => rfl
  start _ _ _ _ := rfl
  conclude dock result := edge_conclude task result dock
  await _ _ _ _ := rfl
  serve _ _ := rfl
  change dock _ chore := by
    refine edge_change_same (fun panel => ?_) dock
    cases chore with
    | sweep => rfl
    | create cwd spawned faults => exact Panel.Flush.onRegistry (Registry.create_unkept cwd spawned faults) panel
    | settle previous session => exact Panel.Flush.rules.settleTab previous session panel
    | revealFirst => exact Panel.Flush.rules.revealFirst panel
    | reveal => exact Panel.Flush.rules.reveal panel
    | hide => exact Panel.Flush.rules.hide panel
  unlock dock := by
    unfold unlock
    dsimp only
    split <;> rfl
  take _ _ _ := rfl
  free _ _ _ _ := rfl
  hold _ _ _ _ := rfl
  queue _ := rfl

variable [SessionBackend β]

private theorem edge_beginCall (task : Loop.TaskId) (call : BackendCall) (dock : Dock β) :
    (dock.beginCall task call).edge = dock.edge := by
  have begun : ({ dock.see [.calling call] with backend := (SessionBackend.begin call dock.backend).2.2 }.log
      (SessionBackend.begin call dock.backend).2.1).edge = dock.edge := by
    rw [edge_log]
    exact edge_see rfl dock
  unfold beginCall
  dsimp only
  split
  · exact ((edge_rules task).concludeCall _ call _ _).trans begun
  · exact begun

private theorem edge_begin (task : Loop.TaskId) (request : Request β) (dock : Dock β) :
    (dock.begin task request).edge = dock.edge.follow request := by
  cases found : Panel.perform? request with
  | some act =>
    rw [begin_performs found, edge_conclude, edge_onPanel, Panel.perform_edge found, ← Panel.Edge.since_follow]
    rfl
  | none =>
    have still : dock.edge.follow request = dock.edge := by
      cases request <;> first | rfl | cases found
    exact ((edge_rules task).begin dock request.grants_all found).trans still.symm

private theorem edge_resume (task : Loop.TaskId) (dock : Dock β) : (dock.resume task).edge =
    match dock.stageOf? task with
    | some (.begin request) => dock.edge.follow request
    | _ => dock.edge := by
  unfold stageOf?
  cases found : dock.scheduler.running.find? task with
  | none =>
    simp only [resume, found]
    rfl
  | some job =>
    obtain ⟨stage, label⟩ := job
    cases stage with
    | begin request =>
      simp only [resume, found]
      exact edge_begin task request dock
    | call call =>
      simp only [resume, found]
      exact edge_beginCall task call dock
    | _ => exact (edge_rules task).resume dock found (by simp) (by simp)

/-- A beat moves the edge as the operation does that begins with it, if one does. -/
theorem edge_beat (beat : Beat β) (dock : Dock β) :
    (dock.beat beat).edge = (dock.asked? beat).toList.foldl Panel.Edge.follow dock.edge := by
  cases beat with
  | fire place =>
    have flush : Panel.Flush (Panel.fire place) := Panel.Flush.rules.fire place
    change (dock.onPanel (Panel.fire place)).2.edge = dock.edge
    rw [edge_onPanel, flush]
    rfl
  | move move =>
    cases move with
    | ask request =>
      change (dock.move (.ask request)).edge = dock.edge.follow request
      rw [move_ask, edge_begin]
      rfl
    | turn =>
      change dock.turn.edge = _
      unfold turn Loop.Scheduler.next?
      cases ready : dock.scheduler.ready with
      | nil => simp [asked?, actor?, ready]
      | cons turn rest =>
        cases turn with
        | resume task =>
          rw [edge_resume]
          simp only [asked?, actor?, ready, Option.bind_some, stageOf?]
          cases (dock.scheduler.running.find? task).map Job.stage with
          | none => rfl
          | some stage => cases stage <;> rfl
        | leave task => simp [asked?, actor?, ready, edge, kept]
        | arrive group => simp [asked?, actor?, ready, edge, kept]
    | answer task =>
      change (dock.move (.answer task)).edge = dock.edge
      unfold move
      dsimp only
      split <;> rfl
    | announce event payload => exact edge_change_same (fun panel => Panel.edge_tellAll event payload _ panel) dock

/-- The operations that begin in a run, in the order in which they do. -/
def asks (dock : Dock β) : List (Beat β) → List (Request β)
  | [] => []
  | beat :: rest => (dock.asked? beat).toList ++ (dock.beat beat).asks rest

/-- Nothing moves the edge but the operations that begin, one after another. -/
theorem edge_play (beats : List (Beat β)) (dock : Dock β) :
    (dock.play beats).edge = (dock.asks beats).foldl Panel.Edge.follow dock.edge := by
  induction beats generalizing dock with
  | nil => rfl
  | cons beat rest ih =>
    change ((dock.beat beat).play rest).edge = _
    rw [ih, edge_beat, asks, List.foldl_append]

end Dock

theorem PanelConfig.clamp_within {config : PanelConfig} (ordered : config.minHeight ≤ config.maxHeight) (height : Int) :
    config.minHeight ≤ config.clamp height ∧ config.clamp height ≤ config.maxHeight := by
  unfold clamp
  omega

namespace Panel.Edge
variable {β : Type} {edge : Edge}

def Within (edge : Edge) : Prop :=
  edge.config.minHeight ≤ edge.height ∧ edge.height ≤ edge.config.maxHeight

private theorem within_of_clampHeight {config : PanelConfig} (ordered : config.minHeight ≤ config.maxHeight) {wanted : Json}
    {height : Int} (told : config.clampHeight wanted = .ok height) :
    config.minHeight ≤ height ∧ height ≤ config.maxHeight := by
  unfold PanelConfig.clampHeight at told
  cases read : wanted.toHeight with
  | error error => rw [read] at told; cases told
  | ok asked =>
    rw [read] at told
    cases told
    exact PanelConfig.clamp_within ordered asked

private theorem config_follow (request : Request β) : (edge.follow request).config = edge.config := by
  unfold follow
  split
  · rfl
  · split
    · rfl
    · unfold resize
      split <;> rfl
  · split <;> rfl
  · split <;> rfl
  · rfl

theorem Within.resize (within : edge.Within) (ordered : edge.config.minHeight ≤ edge.config.maxHeight) (wanted : Json) :
    (edge.resize wanted).Within := by
  unfold Edge.resize
  split
  next height told => exact within_of_clampHeight ordered told
  next => exact within

theorem Within.follow (within : edge.Within) (ordered : edge.config.minHeight ≤ edge.config.maxHeight)
    (request : Request β) : (edge.follow request).Within := by
  unfold Edge.follow
  split
  · exact within
  · split
    · exact within
    · exact within.resize ordered _
  · split <;> exact within
  · split
    next height told => exact within_of_clampHeight ordered told
    next => exact within
  · exact within

private theorem config_foldl (requests : List (Request β)) (edge : Edge) :
    (requests.foldl Edge.follow edge).config = edge.config := by
  induction requests generalizing edge with
  | nil => rfl
  | cons request rest ih => exact (ih _).trans (config_follow request)

theorem Within.foldl (within : edge.Within) (ordered : edge.config.minHeight ≤ edge.config.maxHeight)
    (requests : List (Request β)) : (requests.foldl Edge.follow edge).Within := by
  induction requests generalizing edge with
  | nil => exact within
  | cons request rest ih => exact ih (within.follow ordered request) ((config_follow request).symm ▸ ordered)

end Panel.Edge

def Request.grips {β : Type} : Request β → Bool
  | .beginDrag _ | .endDrag => true
  | _ => false

namespace Panel.Edge
variable {β : Type} {edge : Edge}

private theorem drag_resize (wanted : Json) : (edge.resize wanted).drag = edge.drag := by
  unfold resize
  split <;> rfl

private theorem drag_follow {request : Request β} (loose : request.grips = false) :
    (edge.follow request).drag = edge.drag := by
  cases request with
  | beginDrag y => cases loose
  | endDrag => cases loose
  | dragTo y =>
    unfold follow
    dsimp only
    split
    · rfl
    · exact drag_resize _
  | setHeight wanted =>
    unfold follow
    dsimp only
    split <;> rfl
  | _ => rfl

private theorem drag_foldl {requests : List (Request β)} (loose : ∀ request ∈ requests, request.grips = false) :
    (requests.foldl Edge.follow edge).drag = edge.drag := by
  induction requests generalizing edge with
  | nil => rfl
  | cons request rest ih =>
    rw [List.foldl_cons, ih fun other member => loose other (List.mem_cons_of_mem _ member)]
    exact drag_follow (loose request (List.mem_cons_self ..))

/-- Where the pointer is decides how high the panel is, however high it was before. -/
theorem height_dragTo {start height y : Int} (dragged : edge.drag = some ⟨.whole start, height⟩) :
    (edge.follow (.dragTo (.whole y) : Request β)).height = edge.config.clamp (height + start - y) := by
  have wanted : height + (start - y) = height + start - y := by omega
  simp [follow, dragged, resize, dragHeight, PanelConfig.clampHeight, Json.toHeight, Except.map, wanted]

private theorem kept_dragTo (y : Decimal.Quantity) : (edge.follow (.dragTo y : Request β)).kept = edge.kept := by
  unfold follow
  dsimp only
  split
  · rfl
  · unfold resize
    split <;> rfl

end Panel.Edge

mutual

theorem Request.only_any {β : Type} (request : Request β) : request.only (fun _ => true) = true := by
  cases request with
  | background name request => exact Request.only_any request
  | gather requests => exact Request.onlyAll_any requests
  | _ => rfl

theorem Request.onlyAll_any {β : Type} : ∀ requests : List (Request β), Request.onlyAll (fun _ => true) requests = true
  | [] => rfl
  | request :: rest => by rw [Request.onlyAll, Request.only_any request, Request.onlyAll_any rest]; rfl

end

theorem Panel.create_within {config : PanelConfig} (ordered : config.minHeight ≤ config.maxHeight) (scheme : String)
    (font : Font) (height : Option Int) : ∃ panel, Panel.create config scheme font (height.elim .null .int) = .ok panel ∧
      panel.config = config ∧ panel.edge.Within := by
  have made (wanted : Int) : ∃ panel, Panel.create config scheme font (.int wanted) = .ok panel ∧
      panel.config = config ∧ panel.edge.Within :=
    ⟨_, rfl, rfl, PanelConfig.clamp_within ordered wanted⟩
  cases height with
  | none => exact made config.defaultHeight
  | some wanted => exact made wanted

namespace Dock
variable {β : Type} [SessionBackend β] {dock : Dock β} {beat : Beat β}

/-- An operation that is done at once is all that happens to the panel in its beat. -/
theorem asked_panel {request : Request β} {act : PanelStep Answer} (asked : dock.asked? beat = some request)
    (found : Panel.perform? request = some act) : (dock.beat beat).panel = (after act dock.panel).drained := by
  have performed (task : Loop.TaskId) (start : Dock β) (same : start.panel = dock.panel) :
      (start.begin task request).panel = (after act dock.panel).drained := by
    have yields : Yields (fun _ => True) start _ _ ((start.onPanel act).2.conclude task (start.onPanel act).1) :=
      (onPanel_yields start act).calmly (conclude_calm _ task _)
    rw [begin_performs found, yields.panel, same]
  cases beat with
  | fire place => cases asked
  | move move =>
    cases move with
    | ask other =>
      cases asked
      change (dock.move (.ask request)).panel = _
      rw [move_ask]
      exact performed _ _ rfl
    | turn =>
      cases ready : dock.scheduler.ready with
      | nil => simp [asked?, actor?, ready] at asked
      | cons turn rest =>
        cases turn with
        | leave | arrive => simp [asked?, actor?, ready] at asked
        | resume task =>
          simp only [asked?, actor?, ready, Option.bind_some] at asked
          split at asked
          next other begins =>
            cases asked
            obtain ⟨⟨stage, label⟩, live, rfl⟩ := Option.map_eq_some_iff.mp begins
            change dock.turn.panel = _
            rw [(turn_resume ready).1]
            simp only [resume, live]
            exact performed _ _ rfl
          next => cases asked
    | answer | announce => cases asked

/-- Nothing is mixed up, and nothing is held back. -/
structure Whole (dock : Dock β) : Prop where
  valid : dock.Valid fun _ => true
  drained : dock.panel.drained = dock.panel

theorem Whole.next (whole : dock.Whole) (beat : Beat β) : (dock.beat beat).Whole := by
  cases beat with
  | fire place =>
    have yields : Yields (Novel (fun _ => true) dock.panel.registry) dock _ _ (dock.beat (.fire place)) :=
      onPanel_yields dock (Panel.fire place)
    have quiet := (Panel.Mild.rules.fire place dock.panel).quiet.trans (Panel.drained_quiet _)
    refine ⟨whole.valid.of_yields yields quiet.sound, ?_⟩
    rw [yields.panel]
    rfl
  | move move =>
    have allowed : move.only (fun _ => true) = true := by
      cases move with
      | ask request => exact request.only_any
      | _ => rfl
    exact ⟨whole.valid.move allowed, move_drained whole.valid allowed whole.drained⟩

theorem Whole.play (whole : dock.Whole) (beats : List (Beat β)) : (dock.play beats).Whole := by
  induction beats generalizing dock with
  | nil => exact whole
  | cons beat rest ih => exact ih (whole.next beat)

omit [SessionBackend β] in
theorem Whole.kept (whole : dock.Whole) : dock.edge.kept = dock.kept := by
  have silent : dock.panel.registry.kept = [] := by
    rw [← whole.drained]
    rfl
  simp only [edge, Panel.Edge.since, Panel.edge, silent, List.append_nil]

/-- How the panel's height and its drag go on from a state, in which no height was kept but these. -/
structure Poised (config : PanelConfig) (dock : Dock β) : Prop where
  within : config.minHeight ≤ dock.panel.height ∧ dock.panel.height ≤ config.maxHeight
  /-- While one drag lasts, the pointer alone decides on the height. -/
  drawn : ∀ {grip pull : Beat β} {between : List (Beat β)} {start y : Int},
    dock.asked? grip = some (.beginDrag (.whole start)) →
    (∀ request ∈ (dock.beat grip).asks between, request.grips = false) →
    ((dock.beat grip).play between).asked? pull = some (.dragTo (.whole y)) →
    (((dock.beat grip).play between).beat pull).panel.height = config.clamp (dock.panel.height + start - y)
  previewed : ∀ {pull : Beat β} {y : Decimal.Quantity}, dock.asked? pull = some (.dragTo y) →
    (dock.beat pull).kept = dock.kept
  released : ∀ {release : Beat β}, dock.asked? release = some .endDrag → dock.panel.drag.isSome = true →
    (dock.beat release).kept = dock.kept ++ [dock.panel.height] ∧ (dock.beat release).panel.drag = none
  idle : ∀ {beat : Beat β} {y : Decimal.Quantity},
    dock.asked? beat = some (.dragTo y) ∨ dock.asked? beat = some .endDrag → dock.panel.drag = none →
    (dock.beat beat).panel = dock.panel ∧ (dock.beat beat).kept = dock.kept

omit [SessionBackend β] in
theorem asked_ask (dock : Dock β) (request : Request β) : dock.asked? (.move (.ask request)) = some request := rfl

private theorem edge_asked {request : Request β} (asked : dock.asked? beat = some request) :
    (dock.beat beat).edge = dock.edge.follow request := by
  rw [edge_beat, asked]
  rfl

theorem Whole.poised {config : PanelConfig} (whole : dock.Whole) (within : dock.edge.Within)
    (same : dock.edge.config = config) :
    dock.Poised config where
  within := same ▸ within
  drawn := by
    intro grip pull between start y gripped loose pulled
    let held := (dock.beat grip).play between
    have gripping : (dock.beat grip).edge = { dock.edge with drag := some ⟨.whole start, dock.panel.height⟩ } :=
      edge_asked gripped
    have holding : held.edge.drag = some ⟨.whole start, dock.panel.height⟩ := by
      rw [edge_play, Panel.Edge.drag_foldl loose, gripping]
    have bounds : held.edge.config = config := by
      rw [edge_play, Panel.Edge.config_foldl, gripping]
      exact same
    change (held.beat pull).edge.height = _
    rw [edge_asked pulled, Panel.Edge.height_dragTo holding, bounds]
  previewed := by
    intro pull y pulled
    rw [← whole.kept, ← (whole.next pull).kept, edge_asked pulled, Panel.Edge.kept_dragTo]
  released := by
    intro release released dragging
    have ended : (dock.beat release).edge = Panel.Edge.keep { dock.edge with drag := none } := by
      rw [edge_asked released]
      exact if_pos dragging
    refine ⟨?_, congrArg (·.drag) ended⟩
    rw [← whole.kept, ← (whole.next release).kept, ended]
    rfl
  idle := by
    intro beat y asked idle
    have still {request : Request β} {act : PanelStep Answer} (asked : dock.asked? beat = some request)
        (found : Panel.perform? request = some act) (nothing : after act dock.panel = dock.panel)
        (unmoved : dock.edge.follow request = dock.edge) :
        (dock.beat beat).panel = dock.panel ∧ (dock.beat beat).kept = dock.kept := by
      refine ⟨?_, ?_⟩
      · rw [asked_panel asked found, nothing, whole.drained]
      · rw [← whole.kept, ← (whole.next beat).kept, edge_asked asked, unmoved]
    have untouched : dock.edge.drag = none := idle
    rcases asked with pulled | released
    · apply still pulled rfl
      · have nothing : Panel.dragTo y dock.panel = .ok dock.panel.height dock.panel := by
          unfold Panel.dragTo
          rw [get_bind, idle]
          rfl
        rw [after_bind, nothing]
        rfl
      · simp only [Panel.Edge.follow, untouched]
    · apply still released rfl
      · simp [Panel.endDrag, idle]
      · simp [Panel.Edge.follow, untouched]

omit [SessionBackend β] in
private theorem whole_fresh {panel : Panel} {config : PanelConfig} {scheme : String} {font : Font} {height : Json}
    (created : Panel.create config scheme font height = .ok panel) (backend : β) (hook : Transport.FailureHook) :
    (Dock.fresh panel backend hook).Whole :=
  ⟨valid_fresh (Panel.create_blank created) backend hook, Panel.create_drained created⟩

/-- Whatever configuration is accepted, and whatever height is asked for, a panel can be made. Its height stays within
the bounds whatever happens; a drag goes by where it began and where the pointer is, and each drag that ends keeps one
height. -/
theorem heights_and_drags {given : List (String × Json)} {config : PanelConfig} (valid : Config.validate given = .ok config)
    (scheme : String) (font : Font) (height : Option Int) (backend : β) (hook : Transport.FailureHook) :
    ∃ panel, Panel.create config scheme font (height.elim .null .int) = .ok panel ∧
      ∀ beats : List (Beat β), ((Dock.fresh panel backend hook).play beats).Poised config := by
  have ordered := (Config.validate_sound valid).heights
  obtain ⟨panel, created, same, within⟩ := Panel.create_within ordered scheme font height
  refine ⟨panel, created, fun beats => ?_⟩
  have bounds : (Dock.fresh panel backend hook).edge.config = config := same
  have whole := (whole_fresh created backend hook).play beats
  have start : (Dock.fresh panel backend hook).edge.Within := within
  apply whole.poised
  · rw [edge_play]
    exact start.foldl (bounds ▸ ordered) _
  · rw [edge_play, Panel.Edge.config_foldl, bounds]

/-- The default height is beyond the bounds. -/
def lofty : List (String × Json) :=
  [("min_height", .int 120), ("max_height", .int 500), ("default_height", .int 5000)]

/-- In the middle of a drag another height is set, and the panel is hidden. -/
def interrupted : List (Beat PuppetBackend) :=
  [.move (.ask (.dragTo (.whole 0))), .move (.ask (.setHeight (.int 200))), .move (.ask .hide)]

theorem heights_and_drags_interrupted : ∃ config panel, Config.validate lofty = .ok config ∧
    Panel.create config "dark" (.measured "Menlo" 13) .null = .ok panel ∧ panel.height = 500 ∧
    let start := ((Dock.fresh panel ({} : PuppetBackend) .log).play [.move (.ask .openPanel)]).beat
      (.move (.ask (.beginDrag (.whole 600))))
    (start.play interrupted).panel.height = 200 ∧ (start.play interrupted).kept = [200] ∧
      ((start.play interrupted).beat (.move (.ask (.dragTo (.whole 750))))).panel.height = 350 := by
  have valid : Config.validate lofty = .ok { minHeight := 120, maxHeight := 500, defaultHeight := 5000 } := by
    decide +kernel
  obtain ⟨panel, created, poised⟩ := heights_and_drags valid "dark" (.measured "Menlo" 13) none ({} : PuppetBackend) .log
  refine ⟨_, panel, valid, created, ?_⟩
  cases created
  refine ⟨rfl, ?_⟩
  intro start
  have loose : ∀ request ∈ start.asks interrupted, request.grips = false := by decide +kernel
  have drawn := (poised [.move (.ask .openPanel)]).drawn (asked_ask _ (.beginDrag (.whole 600))) loose
    (asked_ask _ (.dragTo (.whole 750)))
  refine ⟨by decide +kernel, by decide +kernel, ?_⟩
  rw [drawn]
  decide +kernel

end Dock

end TerminalDock
