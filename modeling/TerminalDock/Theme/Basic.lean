/-! Colour schemes of the panel: the colours of a terminal's page, cursor and selection, and the sixteen
colours that programs choose by name or number. -/

namespace TerminalDock

structure Theme where
  name : String
  background : String
  foreground : String
  cursor : String
  selection : String
  /-- Eight normal colours and eight bright ones, in the order of `ansiNames`. -/
  ansi : List String
  deriving DecidableEq, Repr

namespace Theme

def ansiNames : List String :=
  ["black", "red", "green", "brown", "blue", "magenta", "cyan", "white"]

def dark : Theme where
  name := "dark"
  background := "#0d1117"
  foreground := "#e6edf3"
  cursor := "#e6edf3"
  selection := "#264f78"
  ansi := [
    "#484f58", "#ff7b72", "#7ee787", "#e3b341", "#79c0ff", "#d2a8ff", "#56d4dd", "#e6edf3",
    "#6e7681", "#ffa198", "#aff5b4", "#f8e3a1", "#a5d6ff", "#edc4ff", "#a5f3fc", "#ffffff"]

def light : Theme where
  name := "light"
  background := "#ffffff"
  foreground := "#1f2328"
  cursor := "#1f2328"
  selection := "#b6d4f7"
  ansi := [
    "#24292f", "#cf222e", "#116329", "#4d2d00", "#0969da", "#8250df", "#1b7c83", "#6e7781",
    "#57606a", "#a40e26", "#1a7f37", "#633c01", "#218bff", "#a475f9", "#3192aa", "#8c959f"]

/-- The theme of a scheme: every scheme but the light one is dark. -/
def ofScheme (scheme : String) : Theme :=
  if scheme == "light" then light else dark

end Theme

end TerminalDock
