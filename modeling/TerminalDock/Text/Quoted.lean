import TerminalDock.Text.Digit
import TerminalDock.Text.Printable

/-! Text in quotes, as log records and error messages show it. The quotes are single unless the text
holds a single quote and no double one; what has no printed form is written as an escape. -/

namespace TerminalDock.Text

/-- An escape by code: two hexadecimal digits after `x`, four after `u`, eight after `U`. -/
def codeEscape (code : Nat) : List Char :=
  let digits := hexDigits code
  if code ≤ 0xFF then '\\' :: 'x' :: padZeros 2 digits
  else if code ≤ 0xFFFF then '\\' :: 'u' :: padZeros 4 digits
  else '\\' :: 'U' :: padZeros 8 digits

def quotedChar (quote c : Char) : List Char :=
  if c == quote || c == '\\' then ['\\', c]
  else if c == '\n' then ['\\', 'n']
  else if c == '\r' then ['\\', 'r']
  else if c == '\t' then ['\\', 't']
  else if isPrintable c then [c]
  else codeEscape c.toNat

def quoteFor (text : List Char) : Char :=
  if text.contains '\'' && !text.contains '"' then '"' else '\''

def quotedChars (text : List Char) : List Char :=
  let quote := quoteFor text
  quote :: (text.flatMap (quotedChar quote) ++ [quote])

def quoted (text : String) : String :=
  String.ofList (quotedChars text.toList)

end TerminalDock.Text
