import TerminalDock.Window.Action

/-! A window over pseudo terminals that answer as they are told, driven by requests. Everything settles after
each of them. -/

namespace TerminalDock

inductive WindowRequest
  | press (text : String)
  | tabEvent (index : Nat) (event : String)
  | closeTab (index : Nat)
  /-- Sets the text of a field, if one is given, and lets an event happen in it, if there is one; without a
  number it is the newest field. -/
  | field (index : Option Nat) (text event : Option String)
  | handle (event : String) (y : Decimal.Quantity)
  | content (event : String)
  | window (event : String)
  | quit
  /-- The window goes away by itself. -/
  | fail (message : String)
  | startTimers
  | runTimers
  | tick
  | screen (id : String)
  | viewEvent (id event : String) (occurrence : Occurrence)
  | resizeView (id : String) (width height : Int)
  /-- Changes a terminal by its number among all that were made. -/
  | device (index : Nat) (change : Pty.PuppetPty → Pty.PuppetPty)
  /-- What becomes of the sessions that are started from now on. -/
  | spawnFailure (failure : Option Failure)
  /-- What fails in wiring up the sessions that are started from now on. -/
  | wiringFaults (faults : WiringFaults)

/-- A window over terminals that answer as they are told. -/
abbrev PuppetWindow := Window Pty.PuppetPty

namespace PuppetWindow

/-- The terminal of the next session; ending its process does not bring the end of its output. -/
def device (failure : Option Failure) : Pty.PuppetPty where
  endsOutput := false
  spawnFailure := failure

def patience (window : PuppetWindow) : Nat :=
  window.dock.backend.spawner.slots.foldl (fun steps slot => steps + 2 * slot.device.arrivals.length + 4) 0

def rest (window : PuppetWindow) : PuppetWindow :=
  window.settle window.patience

def setFieldText (window : PuppetWindow) (index : Nat) (text : Option String) : PuppetWindow :=
  { window with fields := window.fields.modify index fun field => { field with text := text.getD field.text } }

def changeHost (window : PuppetWindow) (f : Host Pty.PuppetPty → Host Pty.PuppetPty) : PuppetWindow :=
  { window with dock := { window.dock with backend := f window.dock.backend } }

def perform (window : PuppetWindow) : WindowRequest → Except Failure WindowAnswer × PuppetWindow
  | .press text =>
    match Binding.ofButton.find? text with
    | none => (.ok .unbound, window)
    | some action => window.press action
  | .tabEvent index event => window.tabEvent index event
  | .closeTab index => window.closeTab index
  | .field index text event =>
    let index := index.getD (window.fields.length - 1)
    if index < window.fields.length then
      let window := setFieldText window index text
      match event with
      | none => (.ok .nothing, window)
      | some event => window.fieldEvent index event
    else (.ok .noField, window)
  | .handle event y =>
    match Binding.ofHandle.find? event with
    | none => (.ok .unbound, window)
    | some action => window.useHandle y action
  | .content event =>
    if Binding.ofContent.contains event then window.ask .layoutChanged else (.ok .unbound, window)
  | .window event =>
    if Binding.ofWindow.contains event then window.start .toggle else (.ok .unbound, window)
  | .quit => (.ok .nothing, { window with running := false })
  | .fail message => (.ok .nothing, window.fail message)
  | .startTimers =>
    let (answer, window) := window.startTimers
    (.ok answer, window)
  | .runTimers => window.runTimers
  | .tick =>
    let (answer, window) := window.tick
    (.ok answer, window)
  | .screen id => (.ok (window.screen id), window)
  | .viewEvent id event occurrence => window.viewEvent id event occurrence
  | .resizeView id width height => window.ask (.resizeView id width height)
  | .device index change =>
    (.ok .nothing, changeHost window fun host =>
      { host with spawner := host.spawner.changeSlot index fun slot => { slot with device := change slot.device } })
  | .spawnFailure failure => (.ok .nothing, changeHost window fun host => { host with fresh := device failure })
  | .wiringFaults faults => (.ok .nothing, changeHost window fun host => { host with faults := fun _ => faults })

def clear (window : PuppetWindow) : PuppetWindow :=
  { changeHost window fun host => { host with spawner := { host.spawner with
      slots := host.spawner.slots.map fun slot => { slot with device := { slot.device with calls := [] } } } } with
    sights := [] }

/-- Answers requests one after the other until the window is gone. The first part is what each answered, and
the window after it; the second is the window at the end. -/
def play (window : PuppetWindow) :
    List WindowRequest → List (Except Failure WindowAnswer × PuppetWindow) × PuppetWindow
  | [] => ([], clear window)
  | request :: rest =>
    let (answer, window) := perform (clear window) request
    if window.running then
      let window := PuppetWindow.rest window
      let (more, last) := play window rest
      ((answer, window) :: more, last)
    else ([], window)

end PuppetWindow

end TerminalDock
