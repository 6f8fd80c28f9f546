import TerminalDock.Console.Markup
import TerminalDock.Console.Wrap

/-! What a console prints: lines of marked-up text, and tables of two columns with a title. A plain one has
eighty columns. -/

namespace TerminalDock

namespace Console

def columns : Nat := 80

def printLine (markup : String) : Except Failure String :=
  (plainText markup.toList).map fun text =>
    String.ofList ((wrap columns text).flatMap (· ++ ['\n']))

def padTo (width : Nat) (line : List Char) : List Char :=
  line ++ List.replicate (width - Text.textWidth line) ' '

/-- A line in the middle of a width; an odd blank goes to the right. -/
def center (width : Nat) (line : List Char) : List Char :=
  let line := truncateTo width (Text.stripRight line)
  padTo width (List.replicate ((width - Text.textWidth line) / 2) ' ' ++ line)

def naturalWidth (text : List Char) : Nat :=
  (splitLines text).foldl (fun width line => max width (Text.textWidth line)) 0

/-- A rule of a table: its ends, its joint and the lines over the two columns. -/
def rule (left joint right line : Char) (first second : Nat) : List Char :=
  left :: (List.replicate (first + 2) line ++ joint :: (List.replicate (second + 2) line ++ [right]))

/-- The lines of a row; the shorter cell is filled up with empty lines. -/
def rowLines (bar : Char) (first second : Nat) (key value : List Char) : List (List Char) :=
  let keys := wrap first key
  let values := wrap second value
  (List.range (max keys.length values.length)).map fun i =>
    let cell (width : Nat) (lines : List (List Char)) := ' ' :: (padTo width (lines[i]?.getD []) ++ [' '])
    bar :: (cell first keys ++ bar :: (cell second values ++ [bar]))

/-- The widths of the two columns: as wide as their widest cells, but the wider one gives way until the
table fits on the console. -/
def fitWidths (first second : Nat) : Nat × Nat :=
  let room := columns - 7
  if first + second ≤ room then (first, second)
  else if first ≤ second then
    let second' := max first (room - first)
    if first + second' ≤ room then (first, second') else (room - room / 2, room / 2)
  else
    let first' := max second (room - second)
    if first' + second ≤ room then (first', second) else (room - room / 2, room / 2)

/-- The output for a table: the title, the header and the rows. -/
def printTable (title : String) (header : String × String) (rows : List (String × String)) :
    Except Failure String := do
  let read (text : String) := plainText text.toList
  let title ← read title
  let rows ← rows.mapM fun (key, value) => do return (← read key, ← read value)
  let key := header.1.toList
  let value := header.2.toList
  let widest (width : Nat) (cells : List (List Char)) :=
    cells.foldl (fun width cell => max width (naturalWidth cell)) width
  let (first, second) := fitWidths (widest key.length (rows.map Prod.fst)) (widest value.length (rows.map Prod.snd))
  let width := first + second + 7
  let lines :=
    (wrap width title).map (center width)
      ++ [rule '┏' '┳' '┓' '━' first second]
      ++ rowLines '┃' first second key value
      ++ [rule '┡' '╇' '┩' '━' first second]
      ++ rows.flatMap (fun (key, value) => rowLines '│' first second key value)
      ++ [rule '└' '┴' '┘' '─' first second]
  return String.ofList (lines.flatMap (· ++ ['\n']))

end Console

/-- What prints. It takes texts as markup, of which it may refuse some. -/
structure Console where
  line : String → Except Failure String
  table : String → String × String → List (String × String) → Except Failure String

def Console.plain : Console :=
  ⟨printLine, printTable⟩

end TerminalDock
