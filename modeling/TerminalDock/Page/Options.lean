import TerminalDock.Json.Value
import TerminalDock.Page.Basic

/-! The page and its tags as the options by which a window toolkit knows them. -/

namespace TerminalDock

/-- A number of any kind, as an option. -/
def Decimal.Quantity.option : Decimal.Quantity → Json
  | .whole value => .int value
  | .real value => .float value

namespace Page

def fontOption (font : Font) : List Json :=
  [.str font.family, font.size.option]

/-- The options of the text widget of a page. -/
def options (page : Page) : List (String × Json) := [
  ("bg", .str page.background),
  ("fg", .str page.foreground),
  ("font", .arr (fontOption page.font)),
  ("insertbackground", .str page.caret),
  ("selectbackground", .str page.selection),
  ("wrap", .str "none"),
  ("undo", .bool false),
  ("padx", .int page.margin),
  ("pady", .int page.margin),
  ("relief", .str "flat"),
  ("borderwidth", .int 0),
  ("highlightthickness", .int 0),
  ("cursor", .str page.pointer.name)]

/-- The weight and the slant of a style in words. -/
def weight (style : TagStyle) : String :=
  " ".intercalate ((if style.bold then ["bold"] else []) ++ (if style.italic then ["italic"] else []))

/-- The options of a tag, which are only those that its style sets. -/
def styleOptions (page : Page) (style : TagStyle) : List (String × Json) :=
  (style.foreground.map fun color => ("foreground", Json.str color)).toList
  ++ (style.background.map fun color => ("background", Json.str color)).toList
  ++ (if style.bold || style.italic then
      [("font", Json.arr (fontOption page.font ++ [.str (weight style)]))] else [])
  ++ (if style.underline then [("underline", Json.bool true)] else [])

def tagOptions (page : Page) : List (String × Json) :=
  page.styles.map fun (tag, style) => (tag, .obj (page.styleOptions style))

/-- A place in the text, with rows counted from one. -/
def place (row column : Int) : String :=
  s!"{row + 1}.{column}"

end Page

end TerminalDock
