import TerminalDock.Assoc

/-! Cells and lines of a terminal's grid. A line stores only the cells that were written; every other
column shows the blank that was current when the line came into being. -/

namespace TerminalDock.Emulator

/-- One cell: the text in it and its style. The second cell of a wide character holds no text; an accent
is kept in the cell of the character that it is put over. -/
structure Cell where
  data : List Char := [' ']
  fg : String := "default"
  bg : String := "default"
  bold : Bool := false
  italics : Bool := false
  underscore : Bool := false
  strikethrough : Bool := false
  reverse : Bool := false
  blink : Bool := false
  deriving DecidableEq, Repr, Inhabited

/-- A line: the cells that were written, by column, and the blank for all others. -/
structure Line where
  blank : Cell := {}
  cells : Assoc Int Cell := []
  deriving DecidableEq, Repr, Inhabited

namespace Line

def cell (line : Line) (x : Int) : Cell :=
  (line.cells.find? x).getD line.blank

def put (line : Line) (x : Int) (cell : Cell) : Line :=
  { line with cells := line.cells.put x cell }

def drop (line : Line) (x : Int) : Line :=
  { line with cells := line.cells.remove x }

def mapCells (line : Line) (change : Cell → Cell) : Line :=
  { line with cells := line.cells.map fun (x, cell) => (x, change cell) }

def firstCells (line : Line) (columns : Nat) : List Cell :=
  (List.range columns).map fun (x : Nat) => line.cell (Int.ofNat x)

end Line

end TerminalDock.Emulator
