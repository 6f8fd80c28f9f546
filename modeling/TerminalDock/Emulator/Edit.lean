import TerminalDock.Emulator.Screen
import TerminalDock.Text.Width

/-! Writing to the grid: drawing text, inserting and deleting characters and lines, and erasing. -/

namespace TerminalDock.Emulator.Screen

/-- Opens a gap at the cursor; what is pushed past the end of the line is lost. -/
def insertCharacters (screen : Screen) (count : Int) : Screen :=
  screen.changeRow screen.cursor.y fun line =>
    (span screen.cursor.x (screen.columns + 1)).reverse.foldl (fun line x =>
      let line := if x + count ≤ screen.columns then line.put (x + count) (line.cell x) else line
      line.drop x) line

/-- Closes up over characters at the cursor; the end of the line becomes blank. -/
def deleteCharacters (screen : Screen) (count : Int) : Screen :=
  let blank := screen.blank
  screen.changeRow screen.cursor.y fun line =>
    (span screen.cursor.x screen.columns).foldl (fun line x =>
      if x + count ≤ screen.columns then
        let moved := (line.cells.find? (x + count)).getD blank
        (line.drop (x + count)).put x moved
      else line.drop x) line

def fillRow (screen : Screen) (y : Int) (columns : List Int) : Screen :=
  screen.changeRow y fun line => columns.foldl (fun line x => line.put x screen.cursor.style) line

def eraseCharacters (screen : Screen) (count : Int) : Screen :=
  screen.fillRow screen.cursor.y
    (span screen.cursor.x (min (screen.cursor.x + count) screen.columns))

def inRegion (screen : Screen) : Bool :=
  screen.region.top ≤ screen.cursor.y && screen.cursor.y ≤ screen.region.bottom

/-- Moves the lines from the cursor on down within the region. -/
def insertLines (screen : Screen) (count : Int) : Screen :=
  if screen.inRegion then
    let bottom := screen.region.bottom
    let screen := (span screen.cursor.y (bottom + 1)).reverse.foldl (fun screen y =>
      let screen :=
        match screen.buffer.find? y with
        | some line => if y + count ≤ bottom then screen.putRow (y + count) line else screen
        | none => screen
      screen.dropRow y) screen
    screen.carriageReturn
  else screen

/-- Moves the lines below the cursor up within the region. A line that has no successor on the grid
stays as it is. -/
def deleteLines (screen : Screen) (count : Int) : Screen :=
  if screen.inRegion then
    let bottom := screen.region.bottom
    let screen := (span screen.cursor.y (bottom + 1)).foldl (fun screen y =>
      if y + count ≤ bottom then
        match screen.buffer.find? (y + count) with
        | some line => (screen.dropRow (y + count)).putRow y line
        | none => screen
      else screen.dropRow y) screen
    screen.carriageReturn
  else screen

def addAccent (screen : Screen) (x y : Int) (mark : Char) : Screen :=
  screen.changeRow y fun line =>
    let last := line.cell x
    line.put x { last with data := Text.accent last.data mark }

/-- Before a character is drawn behind the last column, the cursor goes to the next line, or back onto
the line if lines are not wrapped. -/
def wrapBefore (screen : Screen) (width : Option Nat) : Screen :=
  if screen.cursor.x == screen.columns then
    if screen.hasMode wrapMode then screen.carriageReturn.lineFeed
    else screen.setX (screen.cursor.x - (width.getD 0 : Nat))
  else screen

/-- Draws one character. The second part tells whether drawing goes on: a character that has no width
and is no accent ends it. -/
def drawChar (screen : Screen) (c : Char) : Screen × Bool :=
  let width := Text.cellWidth? c
  let screen := screen.wrapBefore width
  match width with
  | some 0 =>
    let screen := screen.touch screen.cursor.y
    if !Text.isAccent c then (screen, false)
    else if screen.cursor.x != 0 then (screen.addAccent (screen.cursor.x - 1) screen.cursor.y c, true)
    else if screen.cursor.y != 0 then
      (screen.addAccent (screen.columns - 1) (screen.cursor.y - 1) c, true)
    else (screen, true)
  | some width =>
    let screen := if screen.hasMode insertMode then screen.insertCharacters width else screen
    let x := screen.cursor.x
    let screen := screen.changeRow screen.cursor.y fun line =>
      let line := line.put x { screen.cursor.style with data := [c] }
      if width == 2 && x + 1 < screen.columns then
        line.put (x + 1) { screen.cursor.style with data := [] }
      else line
    (screen.setX (min (x + width) screen.columns), true)
  | none => (screen.touch screen.cursor.y, false)

/-- Draws characters up to the first that ends it. -/
def drawChars (screen : Screen) : List Char → Screen
  | [] => screen
  | c :: rest =>
    match screen.drawChar c with
    | (screen, true) => screen.drawChars rest
    | (screen, false) => screen

def draw (screen : Screen) (text : List Char) : Screen :=
  screen.drawChars (text.map (if screen.shifted then screen.second else screen.first).translate)

/-- Fills every cell of the screen with the letter E, keeping the styles. -/
def alignmentPattern (screen : Screen) : Screen :=
  (span 0 screen.lines).foldl (fun screen y =>
    screen.changeRow y fun line =>
      (span 0 screen.columns).foldl (fun line x => line.put x { line.cell x with data := ['E'] }) line) screen

end TerminalDock.Emulator.Screen
