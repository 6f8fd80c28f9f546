import TerminalDock.Assoc
import TerminalDock.Font
import TerminalDock.Theme.Basic

/-! The page that a terminal is drawn on: text in tagged pieces, how each tag is drawn, which spans of the
text are links, and where the cursor stands. -/

namespace TerminalDock

/-- How text of a tag is drawn. What a tag leaves open is drawn as the page is. -/
structure TagStyle where
  foreground : Option String := none
  background : Option String := none
  bold : Bool := false
  italic : Bool := false
  underline : Bool := false
  deriving DecidableEq, Repr

/-- Text that was put on the page in one piece, and its tag; line breaks have none. -/
structure Segment where
  text : List Char
  tag : Option String
  deriving DecidableEq, Repr

/-- A span of characters in a row of the page; the end is not part of it. -/
structure Span where
  row : Int
  start : Nat
  stop : Nat
  deriving DecidableEq, Repr

/-- The shape of the mouse pointer over the page. -/
inductive Pointer
  | text
  | hand
  deriving DecidableEq, Repr

def Pointer.name : Pointer → String
  | .text => "xterm"
  | .hand => "hand2"

structure Page where
  background : String
  foreground : String
  /-- The colour of the cursor. -/
  caret : String
  selection : String
  font : Font
  /-- Blank pixels on each side of the text. -/
  margin : Int
  pointer : Pointer := .text
  /-- The tags that were ever drawn with, and how. -/
  styles : Assoc String TagStyle
  segments : List Segment := []
  links : List Span := []
  /-- The row and the column of the cursor, as far as it could be set. -/
  mark : Option (Int × Int) := none

namespace Page

/-- The tag of links, which are underlined. -/
def linkTag : String := "link"

/-- An empty page in the colours of a theme. -/
def create (theme : Theme) (font : Font) (padding : Int) : Page where
  background := theme.background
  foreground := theme.foreground
  caret := theme.cursor
  selection := theme.selection
  font := font
  margin := padding.fdiv 2
  styles := [(linkTag, { underline := true })]

/-- Takes on the colours of a theme; the selection keeps its colour. -/
def recolor (page : Page) (theme : Theme) : Page :=
  { page with background := theme.background, foreground := theme.foreground, caret := theme.cursor }

def clear (page : Page) : Page :=
  { page with segments := [], links := [] }

def put (page : Page) (text : List Char) (tag : String) : Page :=
  { page with segments := page.segments ++ [⟨text, some tag⟩] }

def breakLine (page : Page) : Page :=
  { page with segments := page.segments ++ [⟨['\n'], none⟩] }

def link (page : Page) (span : Span) : Page :=
  { page with links := page.links ++ [span] }

/-- Says how a tag is drawn. A tag that has a style already keeps it. -/
def define (page : Page) (tag : String) (style : TagStyle) : Page :=
  if page.styles.has tag then page else { page with styles := page.styles.put tag style }

end Page

end TerminalDock
