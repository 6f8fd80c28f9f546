/-! White space of Unicode text, and trimming by it. The set is the one of the characters that a
terminal user sees as empty: the zero-width space and the byte-order mark are not in it. -/

namespace TerminalDock.Text

/-- The characters that separate words: the ASCII blanks with the four information separators,
the next-line control, and the space separators and line breaks of Unicode. -/
def isBlank (c : Char) : Bool :=
  let code := c.toNat
  (9 ≤ code && code ≤ 13) || (28 ≤ code && code ≤ 32) || code == 0x85 || code == 0xA0
    || code == 0x1680 || (0x2000 ≤ code && code ≤ 0x200A) || code == 0x2028 || code == 0x2029
    || code == 0x202F || code == 0x205F || code == 0x3000

def dropRightWhile (test : Char → Bool) (text : List Char) : List Char :=
  text.foldr (fun c kept => if kept.isEmpty && test c then [] else c :: kept) []

def strip (text : List Char) : List Char :=
  dropRightWhile isBlank (text.dropWhile isBlank)

def stripRight (text : List Char) : List Char :=
  dropRightWhile isBlank text

def stripped (text : String) : String :=
  String.ofList (strip text.toList)

end TerminalDock.Text
