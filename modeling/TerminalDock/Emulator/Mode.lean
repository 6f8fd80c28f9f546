import TerminalDock.Emulator.History

/-! Modes, margins, saved cursors, and the size of the screen, which a mode may change. -/

namespace TerminalDock.Emulator

namespace Screen

/-- A margin by its line number, brought within the screen. -/
def marginAt (screen : Screen) (line : Nat) : Int :=
  max 0 (min ((line : Int) - 1) (screen.lines - 1))

/-- Sets the region that scrolls, if it has at least two lines, and goes to its start. Without numbers
the whole screen scrolls again. -/
def setMargins (screen : Screen) (top : Nat) (bottom : Option Nat) : Screen :=
  match bottom with
  | none =>
    if top == 0 then { screen with margins := none }
    else
      let top := screen.marginAt top
      let bottom := screen.region.bottom
      if 1 ≤ bottom - top then { screen with margins := some ⟨top, bottom⟩ }.toPosition 0 0 else screen
  | some bottom =>
    let top := screen.marginAt top
    let bottom := screen.marginAt bottom
    if 1 ≤ bottom - top then { screen with margins := some ⟨top, bottom⟩ }.toPosition 0 0 else screen

def addMode (screen : Screen) (mode : Nat) : Screen :=
  if screen.hasMode mode then screen else { screen with modes := mode :: screen.modes }

def removeMode (screen : Screen) (mode : Nat) : Screen :=
  { screen with modes := screen.modes.filter (· != mode) }

/-- Saves the cursor, the character sets and two modes. -/
def saveCursor (screen : Screen) : Screen :=
  let saved : Savepoint := {
    cursor := screen.cursor, first := screen.first, second := screen.second, shifted := screen.shifted
    origin := screen.hasMode originMode, wrap := screen.hasMode wrapMode }
  { screen with savepoints := saved :: screen.savepoints }

/-- Restores what was saved last. The modes are only ever switched on by it; if nothing was saved, lines
are counted from the top again and the cursor goes there. -/
def restoreCursor (screen : Screen) : Screen :=
  match screen.savepoints with
  | saved :: rest =>
    let screen := { screen with
      savepoints := rest, first := saved.first, second := saved.second, shifted := saved.shifted }
    let screen := if saved.origin then screen.addMode originMode else screen
    let screen := if saved.wrap then screen.addMode wrapMode else screen
    ({ screen with cursor := saved.cursor }.boundX).boundY true
  | [] => (screen.removeMode originMode).toPosition 0 0

/-- Puts everything back to the start but the size and what was saved. -/
def reset (screen : Screen) : Screen :=
  { lines := screen.lines
    columns := screen.columns
    tabStops := (span 1 screen.columns).filter fun x => x % 8 == 0
    savepoints := screen.savepoints
    scrollback := screen.scrollback
    position := screen.scrollback }

/-- Fills what was written to some rows with cells in the style of the cursor. -/
def eraseRows (screen : Screen) (rows : List Int) : Screen :=
  let style := screen.cursor.style
  rows.foldl (fun screen y => screen.changeRow y fun line => line.mapCells fun _ => style) screen

/-- Reverses all cells that were written, or sets them upright, and renews the blanks of all lines. -/
def reverseCells (screen : Screen) (reverse : Bool) : Screen :=
  let blank := screen.blank
  { screen with buffer := screen.buffer.map fun (y, line) =>
      (y, { line.mapCells fun cell => { cell with reverse := reverse } with blank := blank }) }

end Screen

/-- Erases part of the cursor's line: from the cursor on, up to it, or all. -/
def eraseInLine (how : Nat) : Term Unit := do
  let screen ← get
  let y := screen.cursor.y
  match how with
  | 0 => set (screen.fillRow y (Screen.span screen.cursor.x screen.columns))
  | 1 => set (screen.fillRow y (Screen.span 0 (screen.cursor.x + 1)))
  | 2 => set (screen.fillRow y (Screen.span 0 screen.columns))
  | _ =>
    set (screen.touch y)
    throw .unbound

/-- Erases part of the screen: below the cursor, above it, all, or all with the history. -/
def eraseInDisplay (how : Nat) : Term Unit := do
  let screen ← get
  match how with
  | 0 =>
    set (screen.eraseRows (Screen.span (screen.cursor.y + 1) screen.lines))
    eraseInLine 0
  | 1 =>
    set (screen.eraseRows (Screen.span 0 screen.cursor.y))
    eraseInLine 1
  | 2 => set (screen.eraseRows (Screen.span 0 screen.lines))
  | 3 =>
    let screen := screen.eraseRows (Screen.span 0 screen.lines)
    set { screen with above := #[], below := [], position := screen.scrollback }
  | _ => throw .unbound

/-- Goes to a line; lines are counted from the margin where that mode is on, which takes margins. -/
def toLine (line : Nat) : Term Unit := do
  modify fun screen => screen.setY (Screen.orOne line - 1)
  let screen ← get
  if screen.hasMode originMode then
    match screen.margins with
    | none => throw .assertion
    | some margins => set ((screen.setY (screen.cursor.y + margins.top)).boundY)
  else set screen.boundY

/-- Gives the screen another size; zero keeps what is. Lines are lost at the top, columns at the right. -/
def resize (lines columns : Int) : Term Unit := do
  let screen ← get
  let lines := if lines == 0 then screen.lines else lines
  let columns := if columns == 0 then screen.columns else columns
  if lines == screen.lines && columns == screen.columns then return
  if lines < screen.lines then
    pureEvent Screen.saveCursor
    pureEvent (·.toPosition 0 0)
    pureEvent (·.deleteLines (screen.lines - lines))
    pureEvent Screen.restoreCursor
  if columns < screen.columns then
    modify fun current => { current with buffer := current.buffer.map fun (y, line) =>
      (y, { line with cells := line.cells.filter fun (x, _) => !(columns ≤ x && x < screen.columns) }) }
  modify fun current => { current with lines := lines, columns := columns }
  pureEvent (·.setMargins 0 none)

/-- Numbers of modes as they are kept: private ones are shifted. -/
def modeNumbers (isPrivate : Bool) (modes : List Nat) : List Nat :=
  if isPrivate then modes.map (· * 32) else modes

/-- Erases the screen and goes to its start, as a change of the number of columns does. -/
def clearAndHome : Term Unit := do
  eraseInDisplay 2
  modify (·.toPosition 0 0)

/-- Switches modes on. -/
def setModes (isPrivate : Bool) (modes : List Nat) : Term Unit := do
  let modes := modeNumbers isPrivate modes
  modify fun screen => modes.foldl Screen.addMode screen
  if modes.contains columnMode then
    modify fun screen => { screen with savedColumns := some screen.columns }
    resize 0 132
    clearAndHome
  if modes.contains originMode then modify (·.toPosition 0 0)
  if modes.contains reverseMode then modify fun screen => (screen.reverseCells true).chooseStyle [7]

/-- Switches modes off. -/
def resetModes (isPrivate : Bool) (modes : List Nat) : Term Unit := do
  let modes := modeNumbers isPrivate modes
  modify fun screen => modes.foldl Screen.removeMode screen
  if modes.contains columnMode then
    let screen ← get
    match screen.savedColumns with
    | some columns =>
      if screen.columns == 132 then
        resize 0 columns
        modify fun screen => { screen with savedColumns := none }
    | none => pure ()
    clearAndHome
  if modes.contains originMode then modify (·.toPosition 0 0)
  if modes.contains reverseMode then modify fun screen => (screen.reverseCells false).chooseStyle [27]

end TerminalDock.Emulator
