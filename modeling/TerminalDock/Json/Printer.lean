import TerminalDock.Json.Value
import TerminalDock.Text.Digit

/-! Writing values, on one line or spread over lines, with all characters as they are or with everything
outside printable ASCII escaped. -/

namespace TerminalDock.Json

/-- An escape by code unit: four hexadecimal digits. -/
def unitEscape (unit : Nat) : List Char :=
  '\\' :: 'u' :: Text.padZeros 4 (Text.hexDigits unit)

/-- Escapes of a code; above the first plane it takes two code units. -/
def codeEscapes (code : Nat) : List Char :=
  if code < 0x10000 then unitEscape code
  else unitEscape (0xD800 + (code - 0x10000) / 0x400) ++ unitEscape (0xDC00 + (code - 0x10000) % 0x400)

/-- One character inside quotes. With `ascii` everything outside printable ASCII is escaped, without it
only the control characters below the space. -/
def escaped (ascii : Bool) (c : Char) : List Char :=
  if c == '"' || c == '\\' then ['\\', c]
  else if c == '\n' then ['\\', 'n']
  else if c == '\r' then ['\\', 'r']
  else if c == '\t' then ['\\', 't']
  else if c == '\x08' then ['\\', 'b']
  else if c == '\x0c' then ['\\', 'f']
  else if c.toNat < 0x20 then unitEscape c.toNat
  else if ascii && 0x7F ≤ c.toNat then codeEscapes c.toNat
  else [c]

def quote (ascii : Bool) (text : List Char) : List Char :=
  '"' :: (text.flatMap (escaped ascii) ++ ['"'])

/-- Codes in quotes; a surrogate is always escaped. -/
def quoteCodes (codes : List Nat) : List Char :=
  '"' :: (codes.flatMap (fun code =>
    if 0xD800 ≤ code && code ≤ 0xDFFF then unitEscape code else escaped true (Char.ofNat code)) ++ ['"'])

/-- A value that holds no others. -/
def scalarText (ascii : Bool) : Json → List Char
  | .null => "null".toList
  | .bool value => (if value then "true" else "false").toList
  | .int value => (toString value).toList
  | .float value => (Decimal.floatText "NaN" "Infinity" value).toList
  | .str text => quote ascii text.toList
  | .units codes => quoteCodes codes
  | .arr _ => ['[', ']']
  | .obj _ => ['\x7b', '\x7d']

/-- How the parts of a value are set apart: the indentation of a level, or none on one line. -/
structure Layout where
  ascii : Bool
  indent : Option Nat

def Layout.lineBreak (layout : Layout) (depth : Nat) : List Char :=
  match layout.indent with
  | none => []
  | some width => '\n' :: List.replicate (width * depth) ' '

def Layout.comma (layout : Layout) : List Char :=
  if layout.indent.isNone then [',', ' '] else [',']

mutual

def render (layout : Layout) (depth : Nat) : Json → List Char
  | .arr (item :: items) =>
    '[' :: layout.lineBreak (depth + 1) ++ render layout (depth + 1) item
      ++ renderItems layout (depth + 1) items ++ layout.lineBreak depth ++ [']']
  | .obj ((key, value) :: fields) =>
    '\x7b' :: layout.lineBreak (depth + 1) ++ quote layout.ascii key.toList ++ [':', ' ']
      ++ render layout (depth + 1) value ++ renderFields layout (depth + 1) fields
      ++ layout.lineBreak depth ++ ['\x7d']
  | value => scalarText layout.ascii value

def renderItems (layout : Layout) (depth : Nat) : List Json → List Char
  | [] => []
  | item :: items =>
    layout.comma ++ layout.lineBreak depth ++ render layout depth item ++ renderItems layout depth items

def renderFields (layout : Layout) (depth : Nat) : List (String × Json) → List Char
  | [] => []
  | (key, value) :: fields =>
    layout.comma ++ layout.lineBreak depth ++ quote layout.ascii key.toList ++ [':', ' ']
      ++ render layout depth value ++ renderFields layout depth fields

end

/-- Spread over lines, two blanks to a level, ASCII only. -/
def pretty (value : Json) : List Char :=
  render ⟨true, some 2⟩ 0 value

/-- Spread over lines, two blanks to a level, with all characters but the control ones as they are. -/
def prettyUnescaped (value : Json) : List Char :=
  render ⟨false, some 2⟩ 0 value

/-- On one line, ASCII only. -/
def compact (value : Json) : List Char :=
  render ⟨true, none⟩ 0 value

end TerminalDock.Json
