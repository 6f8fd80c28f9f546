import TerminalDock.Text.Accent

/-! How many cells a character takes up on a terminal: two for the characters of East Asian scripts and
for pictures, none for what is put over another character or not shown, and one for all others. -/

namespace TerminalDock.Text

/-- Blocks of characters that take up two cells, as inclusive ranges of codes. -/
def wideRanges : List (Nat × Nat) := [
  (0x1100, 0x115F), (0x2E80, 0x303E), (0x3041, 0x33FF), (0x3400, 0x4DBF), (0x4E00, 0x9FFF),
  (0xA000, 0xA4CF), (0xA960, 0xA97F), (0xAC00, 0xD7A3), (0xF900, 0xFAFF), (0xFE30, 0xFE6F),
  (0xFF01, 0xFF60), (0xFFE0, 0xFFE6), (0x1F300, 0x1F64F), (0x1F680, 0x1F6FF), (0x1F900, 0x1F9FF),
  (0x20000, 0x3FFFD)]

def isInvisible (c : Char) : Bool :=
  let code := c.toNat
  code == 0 || (0x200B ≤ code && code ≤ 0x200F) || (0x2028 ≤ code && code ≤ 0x202E)
    || (0x2060 ≤ code && code ≤ 0x2063)

/-- The width of a character in cells; control characters have none at all. -/
def cellWidth? (c : Char) : Option Nat :=
  let code := c.toNat
  if isInvisible c || isAccent c || code == 0x34F then some 0
  else if code < 0x20 || (0x7F ≤ code && code < 0xA0) then none
  else if wideRanges.any fun (first, last) => first ≤ code && code ≤ last then some 2
  else some 1

/-- The cells that a text takes up; control characters take none. -/
def textWidth (text : List Char) : Nat :=
  text.foldl (fun width c => width + (cellWidth? c).getD 0) 0

end TerminalDock.Text
