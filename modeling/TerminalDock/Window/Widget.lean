import TerminalDock.Json.Value
import TerminalDock.Panel.Session

/-! What a window is made of: elements inside each other, with their options, how they are packed into their
parent, and the events that they are bound to. -/

namespace TerminalDock

inductive WidgetKind
  | window
  | frame
  | label
  | button
  | field
  deriving DecidableEq, Repr

abbrev Options := List (String × Json)

structure Widget where
  kind : WidgetKind
  options : Options
  /-- How it is packed, if it is. -/
  packed : Option Options := none
  bindings : List String := []
  /-- The text of a field for input. -/
  text : Option String := none
  children : List Widget := []

/-- A field in which a session is renamed. It stays what it is when it is no longer on the screen. -/
structure RenameField where
  session : String
  width : Nat
  text : String
  deriving DecidableEq, Repr

/-- A tab as it was drawn, with the number of its field if it is being renamed. -/
structure StripTab where
  tab : Tab
  field : Option Nat
  deriving DecidableEq, Repr

/-- The colours of the window around the terminals. They are those of the scheme that the window was made
with, and stay. -/
structure WindowColors where
  background : String
  foreground : String
  bar : String
  deriving DecidableEq, Repr

namespace WindowColors

/-- The bars of the window are dark in the dark scheme only, also where the theme is dark. -/
def ofScheme (scheme : String) : WindowColors where
  background := (Theme.ofScheme scheme).background
  foreground := (Theme.ofScheme scheme).foreground
  bar := if scheme == "dark" then "#161b22" else "#f6f8fa"

end WindowColors

end TerminalDock
