import TerminalDock.Page.Input

/-! Which link is under the pointer. Characters of the page that are linked and stand next to each other in
a row make up a range; a click on a character opens the text of the last range that begins no later. -/

namespace TerminalDock.Page

def text (page : Page) : List Char :=
  page.segments.flatMap Segment.text

/-- The text of the page, row by row: whatever was put there, a row ends where the text breaks the line. -/
def rows (page : Page) : List (List Char) :=
  page.text.splitOn '\n'

/-- Whether a character of the page is part of a link. -/
def isLinked (page : Page) (row : Int) (column : Nat) : Bool :=
  page.links.any fun span => span.row == row && span.start ≤ column && column < span.stop

/-- The ranges of characters that are marked; `column` is the place of the first one. -/
def markedRanges (row : Int) (column : Nat) : List Bool → List Span
  | [] => []
  | false :: rest => markedRanges row (column + 1) rest
  | true :: rest =>
    match markedRanges row (column + 1) rest with
    | [] => [⟨row, column, column + 1⟩]
    | range :: ranges =>
      if range.start == column + 1 then ⟨row, column, range.stop⟩ :: ranges
      else ⟨row, column, column + 1⟩ :: range :: ranges

/-- The ranges of linked characters of a row. -/
def rangesOfRow (page : Page) (row : Nat) (text : List Char) : List Span :=
  markedRanges row 0 ((List.range text.length).map (page.isLinked row))

/-- The ranges of linked characters of the page, from its beginning. -/
def linkRanges (page : Page) : List Span :=
  (page.rows.zipIdx.map fun (text, row) => page.rangesOfRow row text).flatten

def textOf (page : Page) (span : Span) : List Char :=
  ((page.rows[span.row.toNat]?.getD []).take span.stop).drop span.start

/-- The link that a click on a character opens. -/
def linkAt (page : Page) (row column : Nat) : Option (List Char) :=
  let row : Int := row
  let before := page.linkRanges.filter fun range =>
    range.row < row || (range.row == row && range.start ≤ column)
  before.getLast?.map page.textOf

/-- What the window reports when a character of the page is clicked on, with the pointer at some place. -/
def clickOn (page : Page) (row column : Nat) (x y : Int) : Occurrence where
  x := x
  y := y
  link := (page.linkAt row column).map String.ofList

end TerminalDock.Page
