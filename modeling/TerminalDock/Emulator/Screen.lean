import TerminalDock.Emulator.Cell
import TerminalDock.Emulator.Charset

/-! The state of a terminal: the grid, the cursor with the style that it writes in, modes and margins, and
the lines that scrolled out at the top and at the bottom. -/

namespace TerminalDock.Emulator

structure Cursor where
  x : Int := 0
  y : Int := 0
  style : Cell := {}
  hidden : Bool := false
  deriving DecidableEq, Repr, Inhabited

structure Margins where
  top : Int
  bottom : Int
  deriving DecidableEq, Repr

structure Savepoint where
  cursor : Cursor
  first : Charset
  second : Charset
  shifted : Bool
  origin : Bool
  wrap : Bool
  deriving DecidableEq, Repr

/-- The modes that have an effect here, by number. Private ones are shifted by five bits. -/
def insertMode : Nat := 4
def newLineMode : Nat := 20
def columnMode : Nat := 3 * 32
def reverseMode : Nat := 5 * 32
def originMode : Nat := 6 * 32
def wrapMode : Nat := 7 * 32
def cursorMode : Nat := 25 * 32

structure Screen where
  lines : Int
  columns : Int
  /-- Lines by row; a row that is missing is blank. -/
  buffer : Assoc Int Line := []
  cursor : Cursor := {}
  modes : List Nat := [wrapMode, cursorMode]
  margins : Option Margins := none
  tabStops : List Int := []
  savepoints : List Savepoint := []
  savedColumns : Option Int := none
  /-- The character sets of the two slots, and whether the second one is in use. -/
  first : Charset := .latin
  second : Charset := .graphics
  shifted : Bool := false
  /-- How many lines are kept at most above the screen, and below it while it is scrolled back. -/
  scrollback : Nat := 0
  /-- The lines above the screen, oldest first. -/
  above : Array Line := #[]
  /-- The lines below the screen, nearest first. -/
  below : List Line := []
  /-- The page position: equal to `scrollback` unless the screen is scrolled back. -/
  position : Nat := 0
  deriving Repr, Inhabited

namespace Screen

def hasMode (screen : Screen) (mode : Nat) : Bool :=
  screen.modes.contains mode

/-- The blank of new lines: reversed while the whole screen is. -/
def blank (screen : Screen) : Cell :=
  { reverse := screen.hasMode reverseMode }

def row (screen : Screen) (y : Int) : Line :=
  (screen.buffer.find? y).getD { blank := screen.blank }

def touch (screen : Screen) (y : Int) : Screen :=
  if screen.buffer.has y then screen
  else { screen with buffer := screen.buffer.put y { blank := screen.blank } }

def putRow (screen : Screen) (y : Int) (line : Line) : Screen :=
  { screen with buffer := screen.buffer.put y line }

def dropRow (screen : Screen) (y : Int) : Screen :=
  { screen with buffer := screen.buffer.remove y }

/-- Changes the line of a row, which comes into being if it is missing. -/
def changeRow (screen : Screen) (y : Int) (change : Line → Line) : Screen :=
  screen.putRow y (change (screen.row y))

/-- The whole numbers from the first up to the second, the second left out. -/
def span (first stop : Int) : List Int :=
  (List.range (stop - first).toNat).map fun (offset : Nat) => first + Int.ofNat offset

def region (screen : Screen) : Margins :=
  screen.margins.getD ⟨0, screen.lines - 1⟩

def moveTo (screen : Screen) (x y : Int) : Screen :=
  { screen with cursor := { screen.cursor with x := x, y := y } }

def setX (screen : Screen) (x : Int) : Screen :=
  { screen with cursor := { screen.cursor with x := x } }

def setY (screen : Screen) (y : Int) : Screen :=
  { screen with cursor := { screen.cursor with y := y } }

/-- Brings the cursor's column within the screen. -/
def boundX (screen : Screen) : Screen :=
  screen.setX (min (max 0 screen.cursor.x) (screen.columns - 1))

/-- Brings the cursor's row within the screen, or within the margins where they hold it. -/
def boundY (screen : Screen) (useMargins : Bool := false) : Screen :=
  let region : Margins :=
    if useMargins || screen.hasMode originMode then screen.region else ⟨0, screen.lines - 1⟩
  screen.setY (min (max region.top screen.cursor.y) region.bottom)

/-- A count that is zero means one. -/
def orOne (count : Nat) : Int :=
  if count == 0 then 1 else count

def cursorUp (screen : Screen) (count : Nat) : Screen :=
  screen.setY (max (screen.cursor.y - orOne count) screen.region.top)

def cursorDown (screen : Screen) (count : Nat) : Screen :=
  screen.setY (min (screen.cursor.y + orOne count) screen.region.bottom)

/-- From behind the last column the cursor first steps onto it. -/
def cursorBack (screen : Screen) (count : Nat) : Screen :=
  let x := if screen.cursor.x == screen.columns then screen.cursor.x - 1 else screen.cursor.x
  (screen.setX (x - orOne count)).boundX

def cursorForward (screen : Screen) (count : Nat) : Screen :=
  (screen.setX (screen.cursor.x + orOne count)).boundX

def carriageReturn (screen : Screen) : Screen :=
  screen.setX 0

def toColumn (screen : Screen) (column : Nat) : Screen :=
  (screen.setX (orOne column - 1)).boundX

/-- Goes to a line and a column. Where lines are counted from the margin, a line outside the margins is
refused. -/
def toPosition (screen : Screen) (line column : Nat) : Screen :=
  let y := orOne line - 1
  let x := orOne column - 1
  match screen.margins with
  | some margins =>
    if screen.hasMode originMode then
      let y := y + margins.top
      if margins.top ≤ y && y ≤ margins.bottom then ((screen.moveTo x y).boundX).boundY else screen
    else ((screen.moveTo x y).boundX).boundY
  | none => ((screen.moveTo x y).boundX).boundY

/-- Goes to the next tab stop, or to the last column. -/
def tab (screen : Screen) : Screen :=
  let stops := screen.tabStops.filter (screen.cursor.x < ·)
  match stops with
  | [] => screen.setX (screen.columns - 1)
  | stop :: rest => screen.setX (rest.foldl min stop)

def setTabStop (screen : Screen) : Screen :=
  { screen with tabStops := screen.cursor.x :: screen.tabStops }

/-- Clears the tab stop at the cursor, or all of them. -/
def clearTabStop (screen : Screen) (how : Nat) : Screen :=
  if how == 0 then { screen with tabStops := screen.tabStops.filter (· != screen.cursor.x) }
  else if how == 3 then { screen with tabStops := [] }
  else screen

/-- Keeps a line that leaves the screen at the top; the oldest one gives way. -/
def keepAbove (screen : Screen) (line : Line) : Screen :=
  let above := screen.above.push line
  { screen with above := if screen.scrollback < above.size then above.extract 1 above.size else above }

/-- Keeps a line that leaves the screen at the bottom; the nearest one gives way. -/
def keepBelow (screen : Screen) (line : Line) : Screen :=
  let below := screen.below ++ [line]
  { screen with below := if screen.scrollback < below.length then below.drop 1 else below }

/-- Goes down a line; at the bottom of the region its lines move up instead. -/
def index (screen : Screen) : Screen :=
  let region := screen.region
  if screen.cursor.y == region.bottom then
    let screen := (screen.touch region.top).keepAbove (screen.row region.top)
    let screen := (span region.top region.bottom).foldl (fun screen y =>
      let screen := screen.touch (y + 1)
      screen.putRow y (screen.row (y + 1))) screen
    screen.dropRow region.bottom
  else screen.cursorDown 1

/-- Goes up a line; at the top of the region its lines move down instead. -/
def reverseIndex (screen : Screen) : Screen :=
  let region := screen.region
  if screen.cursor.y == region.top then
    let screen := (screen.touch region.bottom).keepBelow (screen.row region.bottom)
    let screen := (span region.top region.bottom).reverse.foldl (fun screen y =>
      let screen := screen.touch y
      screen.putRow (y + 1) (screen.row y)) screen
    screen.dropRow region.top
  else screen.cursorUp 1

def lineFeed (screen : Screen) : Screen :=
  let screen := screen.index
  if screen.hasMode newLineMode then screen.carriageReturn else screen

end Screen

end TerminalDock.Emulator
