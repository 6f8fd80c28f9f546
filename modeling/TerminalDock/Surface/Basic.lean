import TerminalDock.Emulator.Display
import TerminalDock.Font
import TerminalDock.Theme.Basic

/-! The surface of one session: a terminal with a theme and a font, the focus, and those who listen to
what is typed. A surface that was disposed of takes nothing in and gives nothing out any more. -/

namespace TerminalDock

structure Geometry where
  rows : Int
  columns : Int
  deriving DecidableEq, Repr, Inhabited

structure Surface where
  theme : Theme
  font : Font
  padding : Int := 8
  minRows : Int := 1
  minColumns : Int := 2
  terminal : Emulator.Terminal
  /-- Who listens to what is typed, by number; the same one may listen twice. -/
  listeners : List Nat := []
  focused : Bool := false
  disposed : Bool := false
  /-- Set on every change that a view has to redraw. -/
  dirty : Bool := true
  /-- The output that was ever written to it, oldest first, taken in or not. -/
  written : List (List UInt8) := []

/-- A step of a surface; a failure leaves the changes that were made before it. -/
abbrev SurfaceStep := EStateM Failure Surface

namespace Surface

def screen (surface : Surface) : Emulator.Screen :=
  surface.terminal.screen

def rows (surface : Surface) : Int :=
  surface.screen.lines

def columns (surface : Surface) : Int :=
  surface.screen.columns

def geometry (surface : Surface) : Geometry :=
  ⟨surface.rows, surface.columns⟩

def onTerminal {α : Type} (act : EStateM FaultKind Emulator.Terminal α) : SurfaceStep α := fun surface =>
  match act surface.terminal with
  | .ok answer terminal => .ok answer { surface with terminal := terminal }
  | .error kind terminal => .error (.fault kind "") { surface with terminal := terminal }

def onScreen {α : Type} (act : Emulator.Term α) : SurfaceStep α := fun surface =>
  match act surface.terminal.screen with
  | .ok answer screen => .ok answer { surface with terminal := { surface.terminal with screen := screen } }
  | .error kind screen =>
    .error (.fault kind "") { surface with terminal := { surface.terminal with screen := screen } }

/-- Notes that a view has to redraw. -/
def touch : SurfaceStep Unit :=
  modify fun surface => { surface with dirty := true }

/-- Takes in output of the session. -/
def write (bytes : List UInt8) : SurfaceStep Unit := do
  modify fun surface => { surface with written := surface.written ++ [bytes] }
  if (← get).disposed then throw .disposed
  onTerminal (Emulator.Terminal.write bytes)
  touch

/-- The grid that fits into so many pixels, if there is room for one at all. -/
def proposed (surface : Surface) (width height : Decimal.Quantity) : Except Failure (Option Geometry) := do
  let width := width.minus surface.padding
  let height := height.minus surface.padding
  if width.isPositive && height.isPositive then
    let columns ← width.floorDiv surface.font.cellWidth
    let rows ← height.floorDiv surface.font.cellHeight
    return some ⟨max surface.minRows rows, max surface.minColumns columns⟩
  else return none

def resize (size : Geometry) : SurfaceStep Unit := do
  let surface ← get
  if !surface.disposed && size != surface.geometry then
    onScreen (Emulator.resize size.rows size.columns)
    touch

/-- Fits the grid into so many pixels; the answer is the new size, if there is one. -/
def fit (width height : Decimal.Quantity) : SurfaceStep (Option Geometry) := do
  let surface ← get
  match surface.proposed width height with
  | .error failure => throw failure
  | .ok none => return none
  | .ok (some size) =>
    if surface.disposed then return none
    resize size
    return some size

def listen (surface : Surface) (listener : Nat) : Surface :=
  { surface with listeners := surface.listeners ++ [listener] }

/-- Ends the oldest registration of a listener. -/
def unlisten (surface : Surface) (listener : Nat) : Surface :=
  { surface with listeners := surface.listeners.erase listener }

def inputListeners (surface : Surface) : List Nat :=
  if surface.disposed then [] else surface.listeners

def focus (surface : Surface) : Surface :=
  { surface with focused := true, dirty := true }

def blur (surface : Surface) : Surface :=
  { surface with focused := false, dirty := true }

def setTheme (surface : Surface) (theme : Theme) : Surface :=
  { surface with theme := theme, dirty := true }

def turnPages (page : Emulator.Term Unit) : Nat → SurfaceStep Unit
  | 0 => pure ()
  | pages + 1 => do
    onScreen page
    turnPages page pages

/-- Moves through the lines that are kept; a negative number of pages goes up. -/
def scroll (pages : Int) : SurfaceStep Unit := do
  turnPages (if pages < 0 then Emulator.prevPage else Emulator.nextPage) pages.natAbs
  touch

def historyLines (surface : Surface) : List (List Char) :=
  surface.screen.historyLines

def lines : SurfaceStep (List (List Char)) :=
  onScreen Emulator.textLines

/-- All lines as one text, without empty lines at its end. -/
def text : SurfaceStep (List Char) := do
  let lines ← lines
  return Text.dropRightWhile (· == '\n') (List.intercalate ['\n'] lines)

def links : SurfaceStep (List Emulator.RowLink) :=
  onScreen Emulator.linksOnScreen

def dispose (surface : Surface) : Surface :=
  { surface with listeners := [], focused := false, disposed := true }

end Surface

/-- What all new surfaces have in common. -/
structure SurfaceFactory where
  theme : Theme
  font : Font
  scrollback : Nat := 10000
  padding : Int := 8
  minRows : Int := 1
  minColumns : Int := 2

namespace SurfaceFactory

def makeSized (factory : SurfaceFactory) (size : Geometry) : Surface where
  theme := factory.theme
  font := factory.font
  padding := factory.padding
  minRows := factory.minRows
  minColumns := factory.minColumns
  terminal := Emulator.Terminal.create size.rows size.columns factory.scrollback

/-- A new surface has the size of a classic terminal. -/
def make (factory : SurfaceFactory) : Surface :=
  factory.makeSized ⟨24, 80⟩

end SurfaceFactory

end TerminalDock
