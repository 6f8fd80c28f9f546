/-! Lower-case text as far as it can matter to names and numbers written in ASCII. -/

namespace TerminalDock.Text

/-- The lower-case form of a character. Outside ASCII only two characters have an ASCII letter in their
lower-case form: the Kelvin sign, and the capital I with a dot, which becomes two characters. All
others are left alone, for no name or number that is recognised contains them in either case. -/
def lowerChar (c : Char) : List Char :=
  if c == '\u212a' then ['k']
  else if c == '\u0130' then ['i', '\u0307']
  else [c.toLower]

def lower (text : List Char) : List Char :=
  text.flatMap lowerChar

end TerminalDock.Text
