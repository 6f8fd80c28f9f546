import TerminalDock.Emulator.Edit
import TerminalDock.Emulator.Style
import TerminalDock.Failure

/-! Scrolling back and forth through the lines above the screen. Whatever a program sends first brings the
screen back to its last page, and then leaves the cursor shown exactly there. -/

namespace TerminalDock.Emulator

/-- A step of the emulator: it changes the screen and may stop with a fault, which leaves the changes
that were made before it. -/
abbrev Term := EStateM FaultKind Screen

namespace Screen

def halfPage (screen : Screen) : Nat :=
  ((screen.lines + 1) / 2).toNat

/-- The lines of some rows, which come into being if they are missing. -/
def takeRows (screen : Screen) (rows : List Int) : Screen × List Line :=
  let screen := rows.foldl touch screen
  (screen, rows.map screen.row)

/-- Copies rows to others; each pair is a target and a source, which comes into being if it is missing. -/
def copyRows (screen : Screen) (pairs : List (Int × Int)) : Screen :=
  pairs.foldl (fun screen (target, source) =>
    let screen := screen.touch source
    screen.putRow target (screen.row source)) screen

/-- Goes up half a page, or as far as there are lines above. -/
def pageUp (screen : Screen) : Screen :=
  if screen.lines < screen.position && !screen.above.isEmpty then
    let size := min screen.above.size screen.halfPage
    let (screen, leaving) := screen.takeRows (span (screen.lines - size) screen.lines)
    let screen := { screen with
      below := (leaving ++ screen.below).take screen.scrollback
      position := screen.position - size }
    let screen := screen.copyRows ((span size screen.lines).reverse.map fun y => (y, y - size))
    let entering := (screen.above.extract (screen.above.size - size) screen.above.size).toList
    let screen := ((span 0 size).zip entering).reverse.foldl (fun screen (y, line) => screen.putRow y line) screen
    { screen with above := screen.above.extract 0 (screen.above.size - size) }
  else screen

/-- Goes down half a page, or as far as there are lines below. -/
def pageDown (screen : Screen) : Screen :=
  if screen.position < screen.scrollback && !screen.below.isEmpty then
    let size := min screen.below.length screen.halfPage
    let (screen, leaving) := screen.takeRows (span 0 size)
    let above := screen.above ++ leaving.toArray
    let screen := { screen with
      above := above.extract (above.size - screen.scrollback) above.size
      position := screen.position + size }
    let screen := screen.copyRows ((span 0 (screen.lines - size)).map fun y => (y, y + size))
    let screen := ((span (screen.lines - size) screen.lines).zip screen.below).foldl
      (fun screen (y, line) => screen.putRow y line) screen
    { screen with below := screen.below.drop size }
  else screen

/-- The first cell that lies beyond the column after the last one. -/
def strayCell? (screen : Screen) : Option (Int × Int) :=
  screen.buffer.findSome? fun (y, line) =>
    (line.cells.keys.find? fun x => screen.columns < x).map fun x => (y, x)

/-- Shows the cursor on the last page, unless it is switched off. -/
def showCursor (screen : Screen) : Screen :=
  let shown := screen.position == screen.scrollback && screen.hasMode cursorMode
  { screen with cursor := { screen.cursor with hidden := !shown } }

/-- After turning a page no cell may lie beyond the column after the last one: such a cell is removed,
and that is a fault. -/
def afterPage (screen : Screen) : EStateM.Result FaultKind Screen Unit :=
  match screen.strayCell? with
  | some (y, x) => .error .runtime (screen.changeRow y fun line => line.drop x)
  | none => .ok () screen.showCursor

end Screen

def prevPage : Term Unit := fun screen => screen.pageUp.afterPage

def nextPage : Term Unit := fun screen => screen.pageDown.afterPage

/-- Turns pages down until the last one is shown; `pages` bounds their number. -/
def toLastPage : Nat → Term Unit
  | 0 => pure ()
  | pages + 1 => do
    let screen ← get
    if screen.position < screen.scrollback && !screen.below.isEmpty then
      nextPage
      toLastPage pages

/-- What a program sends: it acts on the last page and leaves the cursor shown there. -/
def event (handler : Term Unit) : Term Unit := do
  let screen ← get
  toLastPage (screen.scrollback - screen.position)
  handler
  modify Screen.showCursor

def pureEvent (change : Screen → Screen) : Term Unit :=
  event (modify change)

end TerminalDock.Emulator
