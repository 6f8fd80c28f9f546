import TerminalDock.Page.Viewer
import TerminalDock.Panel.Dock
import TerminalDock.Settings
import TerminalDock.Window.Host
import TerminalDock.Window.Layout

/-! The window: a panel at work with its backend, the pages of its views, and the elements around them. What
the panel does shows in the window in the order in which it happened. -/

namespace TerminalDock

structure Canvas where
  page : Page
  ticker : Ticker := {}

/-- What can be seen of a window, in the order in which it happens. -/
inductive WindowSight
  | logged (record : LogRecord)
  | viewer (sight : ViewerSight)
  /-- The panel and the handle above it were packed or taken out. -/
  | panelPacked (packed : Bool)
  | destroyed
  deriving DecidableEq, Repr

structure Window (δ : Type) where
  dock : Dock (Host δ)
  settings : PanelSettings
  file : Config.File
  colors : WindowColors
  running : Bool := true
  strip : List StripTab := []
  /-- All fields for renaming that there ever were. -/
  fields : List RenameField := []
  /-- The height that the panel's frame was given. -/
  height : Option Int := none
  packed : Bool := false
  /-- First fits that wait for a timer. -/
  timers : List FrameJob := []
  /-- The pages by the serial numbers of their sessions. -/
  canvases : Assoc Nat Canvas := []
  sights : List WindowSight := []

namespace Window

variable {δ : Type}

/-- The scheme that settings name; what is no text names none. -/
def schemeOf (settings : PanelSettings) : String :=
  match settings.colorScheme with
  | .str scheme => scheme
  | _ => ""

/-- A window whose panel is hidden. -/
def create (config : PanelConfig) (settings : PanelSettings) (file : Config.File) (cwd : String)
    (environment : Environment) (device : δ) : Except Failure (Window δ) := do
  let scheme := schemeOf settings
  let font := Font.measured config.fontFamily config.fontSize
  let panel ← Panel.create config scheme font settings.panelHeight
  let registry := { panel.registry with viewWidth := 640, viewHeight := 200 }
  let spawner : Pty.Spawner δ := {
    command := environment.shellCommand .unix .basic config.shell config.loginShell
    environment := environment.forTerminal []
    home := environment.home }
  return {
    dock := {
      panel := { panel with registry := registry, cwd := cwd }
      backend := { spawner := spawner, fresh := device }
      hook := .log }
    settings := settings
    file := file
    colors := WindowColors.ofScheme scheme }

def see (window : Window δ) (sight : WindowSight) : Window δ :=
  { window with sights := window.sights ++ [sight] }

def log (window : Window δ) (records : List LogRecord) : Window δ :=
  { window with sights := window.sights ++ records.map .logged }

def tabs (window : Window δ) : List Widget :=
  window.strip.map (Layout.tab window.colors window.fields)

def panelFrame (window : Window δ) : Widget :=
  Layout.panelFrame window.colors window.height window.packed

def layout (window : Window δ) : Widget :=
  Layout.window window.colors window.height window.packed window.tabs

/-- The viewer of a session, live or gone. -/
def viewer? (window : Window δ) (serial : Nat) : Option Viewer := do
  let session ← window.dock.panel.registry.bySerial? serial
  let canvas ← window.canvases.find? serial
  return {
    session := session.id
    surface := session.surface
    view := session.view
    page := canvas.page
    ticker := canvas.ticker }

def keepViewer (window : Window δ) (serial : Nat) (viewer : Viewer) : Window δ :=
  let dock := window.dock
  let registry := dock.panel.registry.change serial fun session => { session with surface := viewer.surface }
  { window with
    dock := { dock with panel := { dock.panel with registry := registry } }
    canvases := window.canvases.put serial ⟨viewer.page, viewer.ticker⟩
    sights := window.sights ++ viewer.sights.map .viewer }

def onViewer {α : Type} (window : Window δ) (serial : Nat) (act : ViewerStep α) :
    Except Failure (Option α) × Window δ :=
  match window.viewer? serial with
  | none => (.ok none, window)
  | some viewer =>
    match act viewer with
    | .ok answer viewer => (.ok (some answer), window.keepViewer serial viewer)
    | .error failure viewer => (.error failure, window.keepViewer serial viewer)

def changeViewer (window : Window δ) (serial : Nat) (f : Viewer → Viewer) : Window δ :=
  match window.viewer? serial with
  | none => window
  | some viewer => window.keepViewer serial (f viewer)

/-- Gives a session that was just attached its page, and sets its timer. -/
def openCanvas (window : Window δ) (serial : Nat) : Window δ :=
  match window.dock.panel.registry.bySerial? serial with
  | none => window
  | some { surface, .. } =>
    let page := Page.create surface.theme surface.font surface.padding
    { window with canvases := window.canvases.put serial { page := page } }.changeViewer serial Viewer.setTimer

/-- A field to rename the session of a tab; it has room for a short name at least. -/
def fieldFor (tab : Tab) : RenameField where
  session := tab.session
  width := max 8 (tab.label.length + 2)
  text := tab.label

/-- Puts another tab into the strip, with a field of its own if it is being renamed. -/
def addTab (window : Window δ) (tab : Tab) : Window δ :=
  if tab.editing then
    { window with
      strip := window.strip ++ [⟨tab, some window.fields.length⟩]
      fields := window.fields ++ [fieldFor tab] }
  else { window with strip := window.strip ++ [⟨tab, none⟩] }

def showEffect (window : Window δ) : Effect → Window δ
  | .logged record => window.log [record]
  | .tabsDrawn tabs => tabs.foldl addTab { window with strip := [] }
  | .panelShown visible height =>
    { window with
      packed := visible
      height := if visible then some height else window.height }.see (.panelPacked visible)
  | .heightChanged height => { window with height := some height }
  | .heightKept height =>
    { window with file := (PanelSettings.update window.file "panel_height" (.int height)).2 }
  | .viewAttached serial => window.openCanvas serial
  | .viewShown serial visible => window.changeViewer serial (·.announce visible)
  | .viewDetached serial => window.changeViewer serial Viewer.retire

def showSight (window : Window δ) : Sight Answer → Window δ
  | .effect effect => window.showEffect effect
  | .noticed (.logged record) => window.log [record]
  | .noticed (.observed _) | .spawning _ | .calling _ | .done .. => window

/-- Shows all that happened since it was shown last. -/
def absorb (window : Window δ) : Window δ :=
  window.dock.sights.foldl showSight { window with dock := { window.dock with sights := [] } }

def change (window : Window δ) (f : Panel → Panel) : Window δ :=
  { window with dock := window.dock.change f }.absorb

variable [Pty.PtyDevice δ]

def await (window : Window δ) (request : Request (Host δ)) : Except Failure Answer × Window δ :=
  let (answer, dock) := window.dock.await request
  (answer, { window with dock := dock }.absorb)

/-- Lets all operations go on until nobody asks for a turn. -/
def quiet (window : Window δ) : Window δ :=
  { window with dock := window.dock.quiet }.absorb

def deliver (window : Window δ) (event : String × Event.Payload) : Window δ :=
  window.change fun panel => (panel.emit event.1 event.2).2

/-- Lets everything settle: operations and calls end, readers read what there is, for so many steps at most,
and what they post is delivered. -/
def settle (steps : Nat) (window : Window δ) : Window δ :=
  let window := window.quiet
  let (events, records, host) := window.dock.backend.collect steps
  let window := { window with dock := { window.dock with backend := host } }.log records
  (events.foldl deliver window).quiet

end Window

end TerminalDock
