import TerminalDock.Page.Basic
import TerminalDock.Surface.Basic
import TerminalDock.Theme.Color

/-! Drawing the screen of a surface on a page. Cells next to each other with the same tag are put down in
one piece. The name of a tag says all that it is made of, so that a tag is defined once and kept. -/

namespace TerminalDock

/-- The colours of a cell, the background only where it has one of its own. -/
structure CellColors where
  foreground : String
  background : Option String
  deriving DecidableEq, Repr

namespace CellColors

/-- The colours that a theme gives to a cell; a cell in reverse has them swapped. -/
def ofCell (theme : Theme) (cell : Emulator.Cell) : Except Theme.ColorError CellColors := do
  let foreground := (← theme.color (.named cell.fg) (some theme.foreground)).getD theme.foreground
  let background ← theme.color (.named cell.bg) none
  if cell.reverse then return ⟨background.getD theme.background, some foreground⟩
  else return ⟨foreground, background⟩

/-- A colour without the sign in front of it. -/
def digits (color : String) : String :=
  String.ofList (color.toList.drop 1)

/-- The name of the tag of a cell with these colours. -/
def tagName (colors : CellColors) (cell : Emulator.Cell) : String :=
  "_".intercalate (
    ["c" ++ digits colors.foreground]
    ++ (colors.background.map fun color => "b" ++ digits color).toList
    ++ (if cell.bold then ["B"] else [])
    ++ (if cell.italics then ["I"] else [])
    ++ (if cell.underscore then ["U"] else []))

/-- How a cell with these colours is drawn; the background of the theme is left to the page. -/
def style (colors : CellColors) (theme : Theme) (cell : Emulator.Cell) : TagStyle where
  foreground := some colors.foreground
  background := colors.background.filter (· != theme.background)
  bold := cell.bold
  italic := cell.italics
  underline := cell.underscore

end CellColors

/-- A surface and the page that it is drawn on. -/
structure Painting where
  surface : Surface
  page : Page

/-- A step of drawing; a failure leaves the page as far as it was drawn. -/
abbrev PaintStep := EStateM Failure Painting

namespace Painting

def change (f : Page → Page) : PaintStep Unit :=
  modify fun painting => { painting with page := f painting.page }

/-- The tag of a cell, which is defined if it was not drawn with before. -/
def tagFor (cell : Emulator.Cell) : PaintStep String := do
  let theme := (← get).surface.theme
  match CellColors.ofCell theme cell with
  | .error error => throw error.failure
  | .ok colors =>
    let tag := colors.tagName cell
    change (·.define tag (colors.style theme cell))
    return tag

/-- The text of a cell; an empty one is a blank. -/
def textOf (cell : Emulator.Cell) : List Char :=
  if cell.data.isEmpty then [' '] else cell.data

/-- Puts cells on the page, after text that waits to see whether it is continued in the same tag. -/
def paintCells (text : List Char) (tag : String) : List Emulator.Cell → PaintStep Unit
  | [] => change (·.put text tag)
  | cell :: rest => do
    let next ← tagFor cell
    if next == tag then paintCells (text ++ textOf cell) tag rest
    else
      change (·.put text tag)
      paintCells (textOf cell) next rest

def paintRow : List Emulator.Cell → PaintStep Unit
  | [] => pure ()
  | cell :: rest => do
    let tag ← tagFor cell
    paintCells (textOf cell) tag rest

/-- The cells of a row of the screen. Reading the row brings its line into being. -/
def readRow (y : Int) : PaintStep (List Emulator.Cell) := do
  let painting ← get
  let screen := painting.surface.screen.touch y
  let terminal := { painting.surface.terminal with screen := screen }
  set { painting with surface := { painting.surface with terminal := terminal } }
  return (screen.row y).firstCells screen.columns.toNat

/-- Puts rows of the screen on the page, with a line break between any two. -/
def paintRows : List Int → PaintStep Unit
  | [] => pure ()
  | y :: rest => do
    paintRow (← readRow y)
    if !rest.isEmpty then change Page.breakLine
    paintRows rest

def paintLinks : PaintStep Unit := do
  let painting ← get
  match Surface.links painting.surface with
  | .error failure _ => throw failure
  | .ok links surface =>
    set { painting with surface := surface }
    change fun page => links.foldl (fun page link => page.link ⟨link.row, link.link.start, link.link.stop⟩) page

/-- Sets the mark of the page to the cursor of the screen. -/
def paintCursor : PaintStep Unit := do
  let cursor := (← get).surface.screen.cursor
  change fun page => { page with mark := some (cursor.y, cursor.x) }

/-- Draws the whole screen anew. The mark stays where it was if the page takes none. -/
def paint (takesMark : Bool) : PaintStep Unit := do
  let surface := (← get).surface
  modify fun painting => { painting with surface := { surface with dirty := false } }
  change fun page => (page.recolor surface.theme).clear
  paintRows surface.screen.rowNumbers
  paintLinks
  if takesMark then paintCursor

end Painting

end TerminalDock
