import TerminalDock.Page.Input
import TerminalDock.Window.Basic

/-! What the user does in the window, and what its timers do. -/

namespace TerminalDock

inductive WindowAnswer
  | nothing
  | number (value : Int)
  /-- Nobody else gets the event. -/
  | stopped
  /-- The element is not bound to the event. -/
  | unbound
  | noTab
  | noField
  | segments (segments : List Segment)

namespace Window

variable {δ : Type}

/-- What a window answers where the panel answers with a value. -/
def answerOf : Answer → WindowAnswer
  | .number value => .number value
  | _ => .nothing

/-- Work that waits for the next frame waits for a timer from now on; the answer is how much there is. -/
def startTimers (window : Window δ) : WindowAnswer × Window δ :=
  let panel := window.dock.panel
  (.number panel.frames.length, { window with
    dock := { window.dock with panel := { panel with frames := [] } }
    timers := window.timers ++ panel.frames })

def runTimers (window : Window δ) : Except Failure WindowAnswer × Window δ :=
  let (outcome, dock) := window.dock.onPanel (Panel.runFrames window.timers)
  (outcome.map fun _ => .number window.timers.length, { window with dock := dock, timers := [] }.absorb)

def tickAll (window : Window δ) : List Nat → Nat × Window δ
  | [] => (0, window)
  | serial :: rest =>
    let (outcome, window) := window.onViewer serial Viewer.tick
    let count :=
      match outcome with
      | .ok (some count) => count
      | _ => 0
    let (more, window) := window.tickAll rest
    (count + more, window)

def tick (window : Window δ) : WindowAnswer × Window δ :=
  let (count, window) := window.tickAll window.canvases.keys
  (.number count, window)

def screen (window : Window δ) (id : String) : WindowAnswer :=
  let canvas := (window.dock.panel.surfaceOwner? id).bind fun session => window.canvases.find? session.serial
  match canvas with
  | none => .nothing
  | some canvas => .segments canvas.page.segments

variable [Pty.PtyDevice δ]

def ask (window : Window δ) (request : Request (Host δ)) : Except Failure WindowAnswer × Window δ :=
  let (answer, window) := window.await request
  (answer.map answerOf, window)

/-- Asks the panel for something to be done beside everything else. -/
def start (window : Window δ) (request : Request (Host δ)) : Except Failure WindowAnswer × Window δ :=
  window.ask (.background "" request)

def otherScheme (settings : PanelSettings) : String :=
  if schemeOf settings == "dark" then "light" else "dark"

/-- Changes the scheme and remembers it. -/
def toggleScheme (window : Window δ) : Except Failure WindowAnswer × Window δ :=
  let scheme := otherScheme window.settings
  match PanelSettings.update window.file "color_scheme" (.str scheme) with
  | (.error error, _) => (.error error.failure, window)
  | (.ok settings, file) => { window with settings := settings, file := file }.ask (.applyTheme scheme)

def press (window : Window δ) : ButtonAction → Except Failure WindowAnswer × Window δ
  | .togglePanel => window.start .toggle
  | .toggleScheme => window.toggleScheme
  | .addSession => window.start (.add none)

def useHandle (window : Window δ) (y : Decimal.Quantity) :
    HandleAction → Except Failure WindowAnswer × Window δ
  | .beginDrag => window.ask (.beginDrag y)
  | .drag => window.ask (.dragTo y)
  | .endDrag => window.ask .endDrag

def useLabel (window : Window δ) (session : String) : LabelAction → Except Failure WindowAnswer × Window δ
  | .select => window.ask (.click session)
  | .rename => window.ask (.beginRename session)

def isEditing (window : Window δ) (field : RenameField) : Bool :=
  window.dock.panel.editing.any (·.session == field.session)

/-- Keeps the text of a field as the draft of its rename, without drawing the strip anew, which would take
the field away. -/
def keepDraft (window : Window δ) (field : RenameField) : Window δ :=
  if window.isEditing field then window.change (Panel.keepDraft field.text) else window

def stop (outcome : Except Failure WindowAnswer × Window δ) : Except Failure WindowAnswer × Window δ :=
  (outcome.1.map fun _ => .stopped, outcome.2)

def useField (window : Window δ) (field : RenameField) : FieldAction → Except Failure WindowAnswer × Window δ
  | .keep => (.ok .nothing, window.keepDraft field)
  | .commit => stop ((window.keepDraft field).ask (.keyRename "Return"))
  | .cancel => stop (window.ask (.keyRename "Escape"))
  | .leave =>
    if window.isEditing field then (window.keepDraft field).ask .blurRename else (.ok .nothing, window)

/-- An event in a field; one to which it is not bound does nothing. -/
def fieldEvent (window : Window δ) (index : Nat) (event : String) : Except Failure WindowAnswer × Window δ :=
  match window.fields[index]?, Binding.ofField.find? event with
  | none, _ => (.ok .noField, window)
  | some _, none => (.ok .unbound, window)
  | some field, some action => window.useField field action

/-- An event in the first element of a tab, which is its label or its field. -/
def tabEvent (window : Window δ) (index : Nat) (event : String) : Except Failure WindowAnswer × Window δ :=
  match window.strip[index]? with
  | none => (.ok .noTab, window)
  | some { field := some field, .. } => window.fieldEvent field event
  | some { tab, field := none } =>
    match Binding.ofLabel.find? event with
    | none => (.ok .unbound, window)
    | some action => window.useLabel tab.session action

def closeTab (window : Window δ) (index : Nat) : Except Failure WindowAnswer × Window δ :=
  match window.strip[index]? with
  | none => (.ok .noTab, window)
  | some { tab, .. } => window.ask (.closeSession tab.session)

def viewEvent (window : Window δ) (id event : String) (occurrence : Occurrence) :
    Except Failure WindowAnswer × Window δ :=
  match ViewAction.bindings.find? event, window.dock.panel.surfaceOwner? id with
  | none, _ => (.ok .unbound, window)
  | _, none => (.ok .nothing, window)
  | some action, some session =>
    match window.onViewer session.serial (action.perform occurrence) with
    | (.error failure, window) => (.error failure, window)
    | (.ok none, window) => (.ok .nothing, window)
    | (.ok (some response), window) =>
      let outcome :=
        match response.typed with
        | none => (.ok .nothing, window)
        | some bytes => window.ask (.type id bytes)
      if response.stops then stop outcome else outcome

/-- The window is gone, whoever took it away. -/
def fail (window : Window δ) (message : String) : Window δ :=
  { window with running := false }.log [.info s!"[PANEL] window gone | error={message}"]

def openPanel (window : Window δ) : Window δ :=
  (window.await .openPanel).2

/-- Ends everything: the sessions, their processes, and the window itself. -/
def finish (window : Window δ) : Except Failure Unit × Window δ :=
  let window := (window.await .shutdown).2
  let (outcome, spawner) := window.dock.backend.spawner.shutdown
  let (records, host) := { window.dock.backend with spawner := spawner }.takeJournal
  let window := { window with dock := { window.dock with backend := host } }.log records
  match outcome with
  | .ok () => (.ok (), window.see .destroyed)
  | .error failure => (.error failure, window)

end Window

end TerminalDock
