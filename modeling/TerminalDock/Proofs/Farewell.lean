import TerminalDock.Proofs.TendedDock
import TerminalDock.Window.Bench

/-! The end of a window. Whatever was done in it, when it is gone, the process of every terminal was ended once. -/

namespace TerminalDock
open Pty Proofs.Steps

namespace Window
variable {δ : Type}

/-- What the window shows changes, and the panel goes on as it would have. -/
structure Shows (first last : Window δ) : Prop where
  agenda : last.dock.agenda = first.dock.agenda
  backend : last.dock.backend = first.dock.backend
  sound : Panel.Sound first.dock.panel last.dock.panel

namespace Shows
variable {first middle last : Window δ}

private theorem of_dock (same : last.dock = first.dock) : Shows first last := by
  refine ⟨congrArg Dock.agenda same, congrArg Dock.backend same, ?_⟩
  rw [same]
  exact Registry.Sound.refl _

protected theorem refl (window : Window δ) : Shows window window := .of_dock rfl

protected theorem trans (before : Shows first middle) (later : Shows middle last) : Shows first last :=
  ⟨later.agenda.trans before.agenda, later.backend.trans before.backend, Registry.Sound.trans before.sound later.sound⟩

theorem foldl {α : Type} {act : Window δ → α → Window δ} (each : ∀ window item, Shows window (act window item))
    (items : List α) (window : Window δ) : Shows window (items.foldl act window) := by
  induction items generalizing window with
  | nil => exact .refl window
  | cons item rest ih => exact (each window item).trans (ih _)

end Shows

private theorem keepViewer_shows (window : Window δ) (serial : Nat) (viewer : Viewer) :
    Shows window (window.keepViewer serial viewer) := by
  have kept (session : Session) : ({ session with surface := viewer.surface } : Session).tag = session.tag := rfl
  exact ⟨rfl, rfl, Registry.Sound.of_change kept window.dock.panel.registry serial⟩

private theorem onViewer_shows {α : Type} (window : Window δ) (serial : Nat) (act : ViewerStep α) :
    Shows window (window.onViewer serial act).2 := by
  unfold onViewer
  split
  · exact .refl window
  · split
    · exact keepViewer_shows window serial _
    · exact keepViewer_shows window serial _

private theorem changeViewer_shows (window : Window δ) (serial : Nat) (f : Viewer → Viewer) :
    Shows window (window.changeViewer serial f) := by
  unfold changeViewer
  split
  · exact .refl window
  · exact keepViewer_shows window serial _

private theorem addTab_shows (window : Window δ) (tab : Tab) : Shows window (window.addTab tab) := by
  unfold addTab
  split
  · exact .of_dock rfl
  · exact .of_dock rfl

private theorem showEffect_shows (window : Window δ) (effect : Effect) : Shows window (window.showEffect effect) := by
  cases effect with
  | tabsDrawn tabs =>
    have emptied : Shows window { window with strip := [] } := .of_dock rfl
    exact emptied.trans (.foldl addTab_shows tabs _)
  | viewAttached serial =>
    unfold showEffect openCanvas
    dsimp only
    split
    · exact .refl window
    · refine Shows.trans ?_ (changeViewer_shows _ serial Viewer.setTimer)
      exact .of_dock rfl
  | viewShown serial visible => exact changeViewer_shows window serial _
  | viewDetached serial => exact changeViewer_shows window serial _
  | _ => exact .of_dock rfl

private theorem showSight_shows (window : Window δ) (sight : Sight Answer) : Shows window (window.showSight sight) := by
  cases sight with
  | effect effect => exact showEffect_shows window effect
  | noticed notice =>
    cases notice with
    | logged record => exact .of_dock rfl
    | observed text => exact .refl window
  | _ => exact .refl window

private theorem absorb_shows (window : Window δ) : Shows window window.absorb := by
  have forgotten : Shows window { window with dock := { window.dock with sights := [] } } :=
    ⟨rfl, rfl, Registry.Sound.refl _⟩
  exact forgotten.trans (.foldl showSight_shows window.dock.sights _)

private theorem tickAll_shows (window : Window δ) (serials : List Nat) : Shows window (window.tickAll serials).2 := by
  induction serials generalizing window with
  | nil => exact .refl window
  | cons serial rest ih => exact (onViewer_shows window serial Viewer.tick).trans (ih _)

private theorem startTimers_shows (window : Window δ) : Shows window window.startTimers.2 :=
  ⟨rfl, rfl, Registry.Sound.refl _⟩

end Window

namespace Window
variable {known : Agenda (Host PuppetPty) → Prop} {window first last : Window PuppetPty}

/-- The processes behind a window are tended, and this is known of the work under way. -/
abbrev Tended (known : Agenda (Host PuppetPty) → Prop) (window : Window PuppetPty) : Prop :=
  window.dock.Tended known

/-- No user may ask to sweep. -/
abbrev Busy (window : Window PuppetPty) : Prop :=
  window.Tended Agenda.Underway

theorem Shows.tended (shows : Shows first last) (tended : first.Tended known) : last.Tended known :=
  tended.of_alike shows.agenda shows.sound (shows.backend ▸ tended.host)

private theorem change_tended (tended : window.Tended known) (lasting : Agenda.Lasting known) {f : Panel → Panel}
    (sound : Panel.Sound window.dock.panel (f window.dock.panel)) : (window.change f).Tended known := by
  have changed : Tended known { window with dock := window.dock.change f } := Dock.Tended.change tended lasting sound
  exact (absorb_shows _).tended changed

private theorem deliver_tended (tended : window.Tended known) (lasting : Agenda.Lasting known)
    (event : String × Event.Payload) : (window.deliver event).Tended known :=
  change_tended tended lasting (Panel.tellAll_sound event.1 event.2 _ window.dock.panel)

private theorem keepDraft_tended (tended : window.Tended known) (lasting : Agenda.Lasting known) (field : RenameField) :
    (window.keepDraft field).Tended known := by
  unfold keepDraft
  split
  · exact change_tended tended lasting (Registry.Sound.refl _)
  · exact tended

private theorem runTimers_tended (tended : window.Tended known) (lasting : Agenda.Lasting known) :
    window.runTimers.2.Tended known := by
  have ran : Tended known { window with
      dock := (window.dock.onPanel (Panel.runFrames window.timers)).2, timers := [] } := by
    rw [Tended, Dock.onPanel_change]
    exact Dock.Tended.change tended lasting (Panel.Mild.rules.runFrames window.timers window.dock.panel).quiet.sound
  exact (absorb_shows _).tended ran

private theorem await_busy (busy : window.Busy) {request : Request (Host PuppetPty)}
    (windowed : request.only Request.windowed = true) : (window.await request).2.Busy := by
  have served : Busy { window with dock := (window.dock.await request).2 } := Dock.Tended.await busy windowed
  exact (absorb_shows _).tended served

private theorem ask_busy (busy : window.Busy) {request : Request (Host PuppetPty)}
    (windowed : request.only Request.windowed = true) : (window.ask request).2.Busy :=
  await_busy busy windowed

private theorem start_busy (busy : window.Busy) {request : Request (Host PuppetPty)}
    (windowed : request.only Request.windowed = true) : (window.start request).2.Busy := by
  have background : (Request.background "" request).only Request.windowed = true := windowed
  exact ask_busy busy background

private theorem press_busy (busy : window.Busy) (action : ButtonAction) : (window.press action).2.Busy := by
  cases action with
  | togglePanel => exact start_busy busy rfl
  | addSession => exact start_busy busy rfl
  | toggleScheme =>
    change (window.toggleScheme).2.Busy
    unfold toggleScheme
    dsimp only
    split
    · exact busy
    next settings file updated =>
      have kept : Busy { window with settings := settings, file := file } := busy
      exact ask_busy kept rfl

private theorem stop_busy {outcome : Except Failure WindowAnswer × Window PuppetPty} (busy : outcome.2.Busy) :
    (stop outcome).2.Busy :=
  busy

private theorem fieldEvent_busy (busy : window.Busy) (index : Nat) (event : String) :
    (window.fieldEvent index event).2.Busy := by
  unfold fieldEvent
  split
  · exact busy
  · exact busy
  next field action _ _ =>
    have drafted : (window.keepDraft field).Busy := keepDraft_tended busy Agenda.Underway.lasting field
    cases action with
    | keep => exact drafted
    | commit => exact ask_busy drafted rfl
    | cancel => exact ask_busy busy rfl
    | leave =>
      unfold useField
      dsimp only
      split
      · exact ask_busy drafted rfl
      · exact busy

private theorem tabEvent_busy (busy : window.Busy) (index : Nat) (event : String) :
    (window.tabEvent index event).2.Busy := by
  unfold tabEvent
  split
  · exact busy
  · exact fieldEvent_busy busy _ event
  · split
    · exact busy
    next action _ =>
      cases action with
      | select => exact ask_busy busy rfl
      | rename => exact ask_busy busy rfl

private theorem closeTab_busy (busy : window.Busy) (index : Nat) : (window.closeTab index).2.Busy := by
  unfold closeTab
  split
  · exact busy
  · exact ask_busy busy rfl

private theorem useHandle_busy (busy : window.Busy) (y : Decimal.Quantity) (action : HandleAction) :
    (window.useHandle y action).2.Busy := by
  cases action with
  | beginDrag => exact ask_busy busy rfl
  | drag => exact ask_busy busy rfl
  | endDrag => exact ask_busy busy rfl

private theorem viewEvent_busy (busy : window.Busy) (id event : String) (occurrence : Occurrence) :
    (window.viewEvent id event occurrence).2.Busy := by
  unfold viewEvent
  split
  · exact busy
  · exact busy
  next action session _ _ =>
    have acted := (onViewer_shows window session.serial (action.perform occurrence)).tended busy
    split
    next failure later answer =>
      rw [answer] at acted
      exact acted
    next later answer =>
      rw [answer] at acted
      exact acted
    next response later answer =>
      rw [answer] at acted
      cases response.typed with
      | none =>
        dsimp only
        split
        · exact stop_busy acted
        · exact acted
      | some bytes =>
        have typed : (later.ask (.type id bytes)).2.Busy := ask_busy acted rfl
        dsimp only
        split
        · exact stop_busy typed
        · exact typed

end Window

/-- A terminal may not be kept from ending its process, and its process is not ended behind its back. -/
def WindowRequest.Fair : WindowRequest → Prop
  | .device _ change => ∀ pty : PuppetPty, pty.GoesOn (change pty)
  | _ => True

/-- What nobody does in the window, which befalls the terminals. -/
def WindowRequest.unattended : WindowRequest → Bool
  | .device .. | .spawnFailure _ | .wiringFaults _ => true
  | _ => false

/-- What happens to a window at work. -/
inductive WindowEvent
  /-- Something is done in it, or to its terminals. -/
  | perform (request : WindowRequest)
  /-- The event loop serves the next turn of an operation or a call. -/
  | turn
  /-- The window shows what happened since it did so last. -/
  | absorb
  /-- A reader makes its next step. -/
  | read (place : Nat)
  /-- The event loop delivers the oldest event that a reader posted. -/
  | deliver

def WindowEvent.Fair : WindowEvent → Prop
  | .perform request => request.Fair
  | _ => True

def WindowEvent.unattended : WindowEvent → Bool
  | .perform request => request.unattended
  | _ => true

namespace PuppetWindow
variable {known : Agenda (Host PuppetPty) → Prop} {window : PuppetWindow}

def onSpawner (window : PuppetWindow) (spawner : Spawner PuppetPty) : PuppetWindow :=
  changeHost window fun host => { host with spawner := spawner }

def happen (window : PuppetWindow) : WindowEvent → PuppetWindow
  | .perform request => (perform window request).2
  | .turn => { window with dock := window.dock.turn }
  | .absorb => window.absorb
  | .read place =>
    let spawner := window.dock.backend.spawner
    onSpawner window ((spawner.readerStep? place).getD spawner)
  | .deliver =>
    let spawner := window.dock.backend.spawner
    match spawner.posted with
    | [] => window
    | event :: rest => (onSpawner window { spawner with posted := rest }).deliver event

def course (window : PuppetWindow) (events : List WindowEvent) : PuppetWindow :=
  events.foldl happen window

private theorem changeHost_tended (tended : window.Tended known) {f : Host PuppetPty → Host PuppetPty}
    (host : (f window.dock.backend).Tended) : (changeHost window f).Tended known :=
  Dock.Tended.of_alike tended rfl (Registry.Sound.refl _) host

private theorem onSpawner_tended (tended : window.Tended known) {spawner : Spawner PuppetPty}
    (goes : window.dock.backend.spawner.GoesOn spawner) : (onSpawner window spawner).Tended known :=
  changeHost_tended tended (tended.host.onSpawner (tended.host.spawner.goOn goes))

private theorem perform_tended (tended : window.Tended known) {request : WindowRequest}
    (unattended : request.unattended = true)
    (fair : request.Fair) : (perform window request).2.Tended known := by
  cases request with
  | device index change =>
    exact onSpawner_tended tended (.of_change fun slot _ => ⟨rfl, fair slot.device⟩)
  | spawnFailure failure => exact changeHost_tended tended ⟨tended.host.spawner, rfl, rfl⟩
  | wiringFaults faults => exact changeHost_tended tended { tended.host with }
  | _ => cases unattended

private theorem happen_tended (tended : window.Tended known) (lasting : Agenda.Lasting known) {event : WindowEvent}
    (unattended : event.unattended = true) (fair : event.Fair) (turnless : event ≠ .turn) :
    (happen window event).Tended known := by
  cases event with
  | perform request => exact perform_tended tended unattended fair
  | turn => exact absurd rfl turnless
  | absorb => exact (Window.absorb_shows window).tended tended
  | read place =>
    refine onSpawner_tended tended ?_
    cases step : window.dock.backend.spawner.readerStep? place with
    | none => exact .refl _
    | some next => exact Spawner.readerStep_goesOn step
  | deliver =>
    unfold happen
    dsimp only
    split
    · exact tended
    next event rest posted =>
      have taken : (onSpawner window { window.dock.backend.spawner with posted := rest }).Tended known :=
        onSpawner_tended tended (.of_alike rfl rfl rfl)
      exact Window.deliver_tended taken lasting event

private theorem perform_busy (busy : window.Busy) {request : WindowRequest} (fair : request.Fair) :
    (perform window request).2.Busy := by
  cases request with
  | press text =>
    unfold perform
    dsimp only
    split
    · exact busy
    · exact Window.press_busy busy _
  | tabEvent index event => exact Window.tabEvent_busy busy index event
  | closeTab index => exact Window.closeTab_busy busy index
  | field index text event =>
    unfold perform
    dsimp only
    split
    · have written : (setFieldText window (index.getD (window.fields.length - 1)) text).Busy := busy
      split
      · exact written
      · exact Window.fieldEvent_busy written _ _
    · exact busy
  | handle event y =>
    unfold perform
    dsimp only
    split
    · exact busy
    · exact Window.useHandle_busy busy y _
  | content event =>
    unfold perform
    dsimp only
    split
    · exact Window.ask_busy busy rfl
    · exact busy
  | window event =>
    unfold perform
    dsimp only
    split
    · exact Window.start_busy busy rfl
    · exact busy
  | quit => exact busy
  | fail message => exact busy
  | startTimers => exact (Window.startTimers_shows window).tended busy
  | runTimers => exact Window.runTimers_tended busy Agenda.Underway.lasting
  | tick => exact (Window.tickAll_shows window window.canvases.keys).tended busy
  | screen id => exact busy
  | viewEvent id event occurrence => exact Window.viewEvent_busy busy id event occurrence
  | resizeView id width height => exact Window.ask_busy busy rfl
  | device index change => exact perform_tended busy rfl fair
  | spawnFailure failure => exact perform_tended busy rfl fair
  | wiringFaults faults => exact perform_tended busy rfl fair

private theorem happen_busy (busy : window.Busy) {event : WindowEvent} (fair : event.Fair) : (happen window event).Busy := by
  cases event with
  | perform request => exact perform_busy busy fair
  | turn => exact Dock.Tended.turn busy
  | absorb | read | deliver => exact happen_tended busy Agenda.Underway.lasting rfl trivial nofun

private theorem course_busy (busy : window.Busy) {events : List WindowEvent} (fair : ∀ event ∈ events, event.Fair) :
    (course window events).Busy := by
  induction events generalizing window with
  | nil => exact busy
  | cons event rest ih =>
    exact ih (happen_busy busy (fair event (List.mem_cons_self ..))) fun other member =>
      fair other (List.mem_cons_of_mem _ member)

/-- What happens while a task is awaited, up to its end. -/
def linger (task : Loop.TaskId) : List WindowEvent → PuppetWindow → PuppetWindow
  | [], window => window
  | event :: rest, window =>
    if window.dock.scheduler.results.has task then window else linger task rest (happen window event)

/-- The processes that are left are ended, and the window is gone. -/
def depart (window : PuppetWindow) : Except Failure Unit × PuppetWindow :=
  let (outcome, spawner) := window.dock.backend.spawner.shutdown
  let (records, host) := { window.dock.backend with spawner := spawner }.takeJournal
  let window := { window with dock := { window.dock with backend := host } }.log records
  match outcome with
  | .ok () => (.ok (), window.see .destroyed)
  | .error failure => (.error failure, window)

/-- Ends everything, and this happens while the end is awaited; none if that is not enough for it. -/
def leave? (window : PuppetWindow) (later : List WindowEvent) : Option (Except Failure Unit × PuppetWindow) :=
  let task := window.dock.scheduler.fresh
  let last := linger task later { window with dock := window.dock.move (.ask .shutdown) }
  if last.dock.scheduler.results.has task then some (depart last.absorb) else none

private theorem serve_linger (task : Loop.TaskId) (fuel : Nat) (window : PuppetWindow) :
    linger task (List.replicate fuel .turn) window = { window with dock := window.dock.serve task fuel } := by
  induction fuel generalizing window with
  | zero => rfl
  | succ fuel ih =>
    rw [List.replicate_succ, linger, Dock.serve]
    by_cases ended : window.dock.scheduler.results.has task = true
    · rw [if_pos ended, if_pos (by rw [ended, Bool.true_or])]
    · rw [if_neg ended, ih]
      cases ready : window.dock.scheduler.ready with
      -- Once nobody asks for a turn, more turns change nothing, and both ways of serving stop.
      | nil =>
        have still : window.dock.turn = window.dock := by simp only [Dock.turn, Loop.Scheduler.next?, ready]
        have served : window.dock.serve task fuel = window.dock := by
          cases fuel with
          | zero => rfl
          | succ fuel => rw [Dock.serve, ready, if_pos (by simp)]
        simp only [happen, still, served, List.isEmpty_nil, Bool.or_true, if_true]
      | cons turn rest =>
        rw [if_neg (by simp [ended])]
        rfl

/-- A window to which nothing happens at the end but turns is left as it ends by itself. -/
theorem leave_finish (window : PuppetWindow)
    (ended : (window.dock.await .shutdown).2.scheduler.results.has window.dock.scheduler.fresh = true) :
    ∃ turns, window.leave? (List.replicate turns .turn) = some window.finish := by
  let created := { window.dock with scheduler := (window.dock.scheduler.create ⟨.begin .shutdown, none⟩).2 }
  let asked : PuppetWindow := { window with dock := window.dock.move (.ask .shutdown) }
  let task := window.dock.scheduler.fresh
  have served : { asked with dock := asked.dock.serve task created.patience } =
      { window with dock := (window.dock.await .shutdown).2 } := rfl
  have last := (serve_linger task created.patience asked).trans served
  refine ⟨created.patience, ?_⟩
  have left : window.leave? (List.replicate created.patience .turn) =
      if (linger task (List.replicate created.patience .turn) asked).dock.scheduler.results.has task then
        some (depart (linger task (List.replicate created.patience .turn) asked).absorb) else none := rfl
  have gone : window.finish = depart (window.await .shutdown).2 := rfl
  rw [left, last, if_pos ended, gone]
  rfl

private theorem linger_ending {task : Loop.TaskId} (tended : window.Tended (Agenda.Ending task)) {later : List WindowEvent}
    (unattended : ∀ event ∈ later, event.unattended = true) (fair : ∀ event ∈ later, event.Fair) :
    (linger task later window).Tended (Agenda.Ending task) := by
  induction later generalizing window with
  | nil => exact tended
  | cons event rest ih =>
    unfold linger
    split
    · exact tended
    next unfinished =>
      have sweeping : window.Tended (Agenda.Sweeping task) :=
        { tended with known := tended.known.sweeping (Bool.eq_false_iff.mpr unfinished) }
      have next : (happen window event).Tended (Agenda.Ending task) := by
        by_cases turns : event = .turn
        · rw [turns]
          exact Dock.Tended.turn_sweeping sweeping
        · have goes := happen_tended sweeping (fun _ _ step sweeping => sweeping.step step)
            (unattended event (List.mem_cons_self ..)) (fair event (List.mem_cons_self ..)) turns
          exact { goes with known := .inl goes.known }
      exact ih next (fun other member => unattended other (List.mem_cons_of_mem _ member))
        fun other member => fair other (List.mem_cons_of_mem _ member)

/-- Whatever was done in a window, the process of every terminal was ended once when it is gone, and no call is made. -/
theorem leave_ends (busy : window.Busy) {later : List WindowEvent} (unattended : ∀ event ∈ later, event.unattended = true)
    (fair : ∀ event ∈ later, event.Fair) {outcome : Except Failure Unit} {last : PuppetWindow}
    (gone : window.leave? later = some (outcome, last)) :
    outcome = .ok () ∧ (∀ slot ∈ last.dock.backend.spawner.slots, slot.started = true → slot.device.ends = 1) ∧
      last.dock.agenda.Silent := by
  let task := window.dock.scheduler.fresh
  let leaving := linger task later { window with dock := window.dock.move (.ask .shutdown) }
  have asked : Window.Tended (Agenda.Ending task) { window with dock := window.dock.move (.ask .shutdown) } :=
    Dock.Tended.shutdown busy
  have ending : leaving.Tended (Agenda.Ending task) := linger_ending asked unattended fair
  have shown : leaving.absorb.Tended (Agenda.Ending task) := (Window.absorb_shows leaving).tended ending
  obtain ⟨succeeds, ended⟩ := shown.host.spawner.shutdown
  unfold leave? at gone
  dsimp only at gone
  split at gone
  next finished =>
    have silent : leaving.dock.agenda.Silent := ending.known.silent finished
    have departs : (depart leaving.absorb).1 = .ok () ∧
        (depart leaving.absorb).2.dock.backend.spawner.slots = leaving.absorb.dock.backend.spawner.shutdown.2.slots ∧
        (depart leaving.absorb).2.dock.agenda = leaving.absorb.dock.agenda := by
      rcases answer : leaving.absorb.dock.backend.spawner.shutdown with ⟨result, spawner⟩
      rw [answer] at succeeds
      cases (show result = .ok () from succeeds)
      unfold depart
      dsimp only
      rw [answer]
      exact ⟨rfl, rfl, rfl⟩
    obtain ⟨result, slots, agenda⟩ := departs
    rw [show depart leaving.absorb = (outcome, last) from Option.some.inj gone] at result slots agenda
    refine ⟨result, fun slot member => ended slot (slots ▸ member), ?_⟩
    rw [agenda, (Window.absorb_shows leaving).agenda]
    exact silent
  next => cases gone

private theorem create_busy {config : PanelConfig} {settings : PanelSettings} {file : Config.File} {cwd : String}
    {environment : Environment} {failure : Option Failure}
    (created : Window.create config settings file cwd environment (device failure) = .ok window) : window.Busy := by
  simp only [Window.create, bind, Except.bind] at created
  split at created
  · cases created
  next panel made =>
    cases created
    have blank := Panel.create_blank made
    let shown : Panel := { panel with
      registry := { panel.registry with viewWidth := 640, viewHeight := 200 }
      cwd := cwd }
    have unused : shown.Blank := { blank with }
    exact ⟨Dock.valid_fresh unused _ .log, ⟨.of_unused rfl rfl, rfl, rfl⟩, .idle⟩

/-- No process survives a window. It opens its panel, whatever happens to it happens, and it is left, while whatever does not
need its user goes on until the end has come; then every process that was started was ended once. -/
theorem every_process_ended_once {config : PanelConfig} {settings : PanelSettings} {file : Config.File} {cwd : String}
    {environment : Environment} {failure : Option Failure}
    (created : Window.create config settings file cwd environment (device failure) = .ok window)
    {events later : List WindowEvent} (fair : ∀ event ∈ events ++ later, event.Fair)
    (unattended : ∀ event ∈ later, event.unattended = true) {outcome : Except Failure Unit} {last : PuppetWindow}
    (gone : (course window.openPanel events).leave? later = some (outcome, last)) :
    outcome = .ok () ∧ (∀ slot ∈ last.dock.backend.spawner.slots, slot.started = true → slot.device.ends = 1) ∧
      last.dock.agenda.Silent := by
  obtain ⟨before, after⟩ := List.forall_mem_append.mp fair
  have opened : window.openPanel.Busy := Window.await_busy (create_busy created) rfl
  exact leave_ends (course_busy opened before) unattended after gone

/-- Sessions come and go: the first one is closed while its process has ended by itself, the view of the second cannot
be made, and at last the window vanishes while one session is being closed and another is about to be added. -/
def bustle : List WindowEvent := [
  .perform (.device 0 (·.feed .ended)), .read 0, .deliver,
  .perform (.wiringFaults { view := some (.fault .runtime "no view") }), .perform (.press "+"), .turn, .turn, .turn,
  .perform (.wiringFaults {}), .perform (.press "+"), .turn, .turn, .absorb, .perform (.closeTab 0), .turn,
  .perform (.press "+"), .perform (.fail "gone")]

def farewell : List WindowEvent :=
  List.replicate 16 .turn

theorem every_process_ended_once_vanishing : ∃ window last,
    Window.create {} {} none "/tmp" [] (device none) = .ok window ∧
      (course window.openPanel bustle).leave? farewell = some (.ok (), last) ∧
      last.dock.backend.spawner.slots.map Slot.session = ["term-1", "term-2", "term-3", "term-4"] ∧
      ∀ slot ∈ last.dock.backend.spawner.slots, slot.device.ends = 1 := by
  have seen : (((Window.create {} {} none "/tmp" [] (device none)).toOption.bind fun window =>
      (course window.openPanel bustle).leave? farewell).map fun left =>
        (left.2.dock.backend.spawner.slots.map Slot.session, left.2.dock.backend.spawner.slots.all Slot.started)) =
      some (["term-1", "term-2", "term-3", "term-4"], true) := by decide +kernel
  obtain ⟨⟨outcome, last⟩, left, slots⟩ := Option.map_eq_some_iff.mp seen
  obtain ⟨sessions, started⟩ := Prod.mk.inj slots
  obtain ⟨window, made, gone⟩ := Option.bind_eq_some_iff.mp left
  have created : Window.create {} {} none "/tmp" [] (device none) = .ok window := by
    cases answer : Window.create {} {} none "/tmp" [] (device none) with
    | error failure =>
      rw [answer] at made
      cases made
    | ok other =>
      rw [answer] at made
      cases made
      rfl
  have fair : ∀ event ∈ bustle ++ farewell, event.Fair := by
    simp only [bustle, List.forall_mem_append, List.forall_mem_cons]
    refine ⟨⟨fun pty => ⟨rfl, id⟩, ?_⟩, fun event member => List.eq_of_mem_replicate member ▸ trivial⟩
    simp [WindowEvent.Fair, WindowRequest.Fair]
  have unattended : ∀ event ∈ farewell, event.unattended = true := by decide
  obtain ⟨rfl, ended, -⟩ := every_process_ended_once created fair unattended gone
  exact ⟨window, last, created, gone, sessions,
    fun slot member => ended slot member (List.all_eq_true.mp started slot member)⟩

end PuppetWindow

end TerminalDock
