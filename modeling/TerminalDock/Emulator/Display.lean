import TerminalDock.Emulator.Sequence
import TerminalDock.Link
import TerminalDock.Text.Blank

/-! What a screen shows: lines of text, links, and runs of cells of one style. Reading a row that was
never written brings its line into being. -/

namespace TerminalDock.Emulator

namespace Line

/-- The text of cells in a row. The cell after a wide character is passed over; any other cell without
text has nothing to show, which is a fault. -/
def show? (afterWide : Bool) : List Cell → Option (List Char)
  | [] => some []
  | cell :: rest =>
    if afterWide then show? false rest
    else
      match cell.data with
      | [] => none
      | c :: marks => (show? (Text.cellWidth? c == some 2) rest).map ((c :: marks) ++ ·)

/-- The text of a line that left the screen, with all cells taken as they are. -/
def plainText (line : Line) (columns : Nat) : List Char :=
  Text.stripRight ((line.firstCells columns).flatMap Cell.data)

/-- The text of a line with one character at least for each cell. -/
def spacedText (line : Line) (columns : Nat) : List Char :=
  (line.firstCells columns).flatMap fun cell => if cell.data.isEmpty then [' '] else cell.data

end Line

/-- A link and the row that it is in. -/
structure RowLink where
  row : Int
  link : Link
  deriving DecidableEq, Repr

/-- Cells next to each other that look alike: where they start, their cells, and the style. -/
structure CellRun where
  start : Nat
  cells : List Cell
  deriving DecidableEq, Repr

/-- Whether two cells look alike but for their text. -/
def Cell.alike (first second : Cell) : Bool :=
  { first with data := [] } == { second with data := [] }

/-- The style of a cell but for its colours, a letter for each mark that is set. -/
def Cell.flags (cell : Cell) : List Char :=
  let marks := [
    (cell.bold, 'B'), (cell.italics, 'I'), (cell.underscore, 'U'), (cell.strikethrough, 'S'),
    (cell.reverse, 'R'), (cell.blink, 'K')]
  (marks.filter Prod.fst).map Prod.snd

/-- Groups cells that look alike; `start` is the column of the first. -/
def cellRuns (start : Nat) : List Cell → List CellRun
  | [] => []
  | cell :: rest =>
    match cellRuns (start + 1) rest with
    | [] => [⟨start, [cell]⟩]
    | run :: runs =>
      if run.cells.head?.any cell.alike then ⟨start, cell :: run.cells⟩ :: runs
      else ⟨start, [cell]⟩ :: run :: runs

namespace Screen

def rowNumbers (screen : Screen) : List Int :=
  span 0 screen.lines

/-- The lines that left the screen at the top. -/
def historyLines (screen : Screen) : List (List Char) :=
  screen.above.toList.map fun line => line.plainText screen.columns.toNat

/-- Reads the rows of the screen in turn. -/
def showRows (screen : Screen) : List Int → EStateM.Result FaultKind Screen (List (List Char))
  | [] => .ok [] screen
  | y :: rest =>
    let screen := screen.touch y
    match Line.show? false ((screen.row y).firstCells screen.columns.toNat) with
    | none => .error .index screen
    | some text =>
      match screen.showRows rest with
      | .ok texts screen => .ok (Text.stripRight text :: texts) screen
      | .error fault screen => .error fault screen

end Screen

/-- The lines above the screen and then those on it, without the blanks at their ends. -/
def textLines : Term (List (List Char)) := fun screen =>
  match screen.showRows screen.rowNumbers with
  | .ok shown screen => .ok (screen.historyLines ++ shown) screen
  | .error fault screen => .error fault screen

/-- The links on the screen, by row. -/
def linksOnScreen : Term (List RowLink) := fun screen =>
  let screen := screen.rowNumbers.foldl Screen.touch screen
  let links := screen.rowNumbers.flatMap fun y =>
    (Link.findLinks ((screen.row y).spacedText screen.columns.toNat)).map fun link => ⟨y, link⟩
  .ok links screen

/-- The cells of a row, in runs that look alike. -/
def runsOfRow (y : Int) : Term (List CellRun) := fun screen =>
  let screen := screen.touch y
  .ok (cellRuns 0 ((screen.row y).firstCells screen.columns.toNat)) screen

end TerminalDock.Emulator
