import TerminalDock.Config.Basic
import TerminalDock.Panel.Registry

/-! The panel: its registry, whether it is shown, its height, and the rename in progress. Only the active
session is ever fitted to its view, and only while the panel is shown; the backend is told the new size. -/

namespace TerminalDock

/-- A rename in progress: the session, the text so far, and what is selected in it. -/
structure RenameEdit where
  session : String
  text : String
  selection : Nat × Nat
  deriving DecidableEq, Repr

/-- A drag of the panel's edge: where it began, and the height then. -/
structure Drag where
  start : Decimal.Quantity
  height : Int

/-- The first fit of a session, which waits for the next frame. -/
structure FrameJob where
  serial : Nat
  session : String
  deriving DecidableEq, Repr

structure Panel where
  registry : Registry
  config : PanelConfig := {}
  /-- The directory of new sessions. -/
  cwd : String := ""
  isOpen : Bool := false
  /-- Whether views have a size that can be trusted. -/
  fitting : Bool := false
  height : Int
  drag : Option Drag := none
  editing : Option RenameEdit := none
  /-- Work for the next frame, oldest first. -/
  frames : List FrameJob := []

/-- A step of the panel; a failure leaves the changes that were made before it. -/
abbrev PanelStep := EStateM Failure Panel

namespace Panel

/-- A panel with no sessions. Without a height of its own it has the default height of the
configuration. -/
def create (config : PanelConfig) (scheme : String) (font : Font) (height : Json) : Except Failure Panel := do
  let wanted := match height with
    | .null => .int config.defaultHeight
    | height => height
  let height ← (config.clampHeight wanted).mapError HeightError.failure
  let factory : SurfaceFactory := {
    theme := Theme.ofScheme scheme
    font := font
    scrollback := config.scrollback.toNat
    padding := config.padding
    minRows := config.minRows
    minColumns := config.minCols }
  return { registry := { factory := factory }, config := config, height := height }

/-- The font that is assumed where none was measured. -/
def estimatedFont (config : PanelConfig) : Font :=
  Font.estimate config.fontFamily (.whole config.fontSize)

def changeRegistry (panel : Panel) (f : Registry → Registry) : Panel :=
  { panel with registry := f panel.registry }

def note (panel : Panel) (effect : Effect) : Panel :=
  panel.changeRegistry (·.note effect)

def log (panel : Panel) (record : LogRecord) : Panel :=
  panel.changeRegistry (·.log record)

def onRegistry {α : Type} (act : RegistryStep α) : PanelStep α := fun panel =>
  match act panel.registry with
  | .ok answer registry => .ok answer { panel with registry := registry }
  | .error failure registry => .error failure { panel with registry := registry }

/-- One tab for each session, in the order of their numbers. A tab that is being renamed shows the text
so far. -/
def tabs (panel : Panel) : List Tab :=
  panel.registry.ordered.map fun session =>
    let draft := panel.editing.filter (·.session == session.id)
    { session := session.id
      label := draft.elim session.name RenameEdit.text
      active := panel.registry.active == some session.id
      editing := draft.isSome
      exited := session.exited }

def drawTabs (panel : Panel) : Panel :=
  panel.note (.tabsDrawn panel.tabs)

def notifySize (session : Session) (size : Geometry) (registry : Registry) : Registry :=
  (registry.recordGeometry session.id size).submit (.resize session.id size)

/-- Fits the active session to its view, if it is the one that is meant and the panel is shown. The
backend is told if `notify` is set. -/
def refit (id : Option String) (notify : Bool) : PanelStep (Option Geometry) := do
  let panel ← get
  match panel.registry.activeSession? with
  | none => return none
  | some session =>
    if id.any (· != session.id) || !panel.fitting then return none
    let (width, height) := session.view.measure
    match ← onRegistry (Registry.onSurface session (Surface.fit (.whole width) (.whole height))) with
    | none =>
      modify (·.log (.debug s!"[PANEL] fit skipped, view not laid out | id={session.id}"))
      return none
    | some size =>
      if notify then modify (·.changeRegistry (notifySize session size))
      return some size

/-- Puts off the first fit of a session to the next frame. -/
def scheduleFit (panel : Panel) (session : Session) : Panel :=
  { panel with frames := panel.frames ++ [⟨session.serial, session.id⟩] }

/-- The first fit of a session, unless it is gone by now. -/
def firstFit (job : FrameJob) : PanelStep Unit := do
  let panel ← get
  let attached := (panel.registry.bySerial? job.serial).any (·.view.attached)
  if panel.registry.has job.session && attached then
    let _ ← refit (some job.session) true

def runFrames : List FrameJob → PanelStep Unit
  | [] => pure ()
  | job :: rest => do
    firstFit job
    runFrames rest

/-- Runs all work that was put off to this frame; the answer is how much there was. -/
def frame : PanelStep Nat := do
  let panel ← get
  set { panel with frames := [] }
  runFrames panel.frames
  return panel.frames.length

/-- Tells those who subscribed to an event, each in turn; the answer is how many there are. One that fails
is noted in the log and does not stop the others. -/
def tellAll (event : String) (payload : Event.Payload) : List Subscriber → Panel → Panel
  | [], panel => panel
  | subscriber :: rest, panel =>
    let panel :=
      match Registry.tell subscriber payload panel.registry with
      | .ok redraw registry =>
        let panel := { panel with registry := registry }
        if redraw then panel.drawTabs else panel
      | .error _ registry =>
        { panel with registry := registry }.log (.error s!"[EVENTS] handler failed | event={event}")
    tellAll event payload rest panel

/-- Announces an event; the answer is how many were told. -/
def emit (panel : Panel) (event : String) (payload : Event.Payload) : Nat × Panel :=
  let subscribers := panel.registry.bus.handlers event
  (subscribers.length, tellAll event payload subscribers panel)

/-- Shows or hides the panel. Only the active session is visible, and only in a panel that is shown. -/
def setVisible (panel : Panel) (visible : Bool) : Panel :=
  let panel := { panel with isOpen := visible, fitting := visible }
  let active := panel.registry.active
  let panel := panel.registry.ordered.foldl (fun panel session =>
    panel.changeRegistry (·.showView session (visible && active == some session.id))) panel
  panel.note (.panelShown visible panel.height)

/-- Gives all sessions, and those to come, the theme of a scheme. -/
def applyTheme (panel : Panel) (scheme : String) : Panel :=
  let theme := Theme.ofScheme scheme
  let registry := { panel.registry with factory := { panel.registry.factory with theme := theme } }
  { panel with registry := registry.ordered.foldl (fun registry session =>
      registry.changeSurface session (·.setTheme theme)) registry }

end Panel

end TerminalDock
