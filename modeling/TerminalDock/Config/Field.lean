import TerminalDock.Json.Value
import TerminalDock.Text.Blank
import TerminalDock.Text.Utf8

/-! Reading one field of the configuration. Values of a related kind are accepted where nothing is lost:
a whole number may be written as a text or with an empty fraction, a truth value as a word. -/

namespace TerminalDock.Config

/-- What is wrong with the value of a field. -/
inductive FieldFault
  | integerKind
  | integerText
  | integerSize
  | fraction
  | notFinite
  | atLeast (bound : Int)
  | atMost (bound : Int)
  | boolKind
  | boolText
  | stringKind
  | brokenText
  deriving DecidableEq, Repr

/-- The short name of a fault. -/
def FieldFault.code : FieldFault → String
  | .integerKind => "int_type"
  | .integerText => "int_parsing"
  | .integerSize => "int_parsing_size"
  | .fraction => "int_from_float"
  | .notFinite => "finite_number"
  | .atLeast _ => "greater_than_equal"
  | .atMost _ => "less_than_equal"
  | .boolKind => "bool_type"
  | .boolText => "bool_parsing"
  | .stringKind => "string_type"
  | .brokenText => "string_unicode"

def FieldFault.message : FieldFault → String
  | .integerKind => "Input should be a valid integer"
  | .integerText => "Input should be a valid integer, unable to parse string as an integer"
  | .integerSize => "Unable to parse input string as an integer, exceeded maximum size"
  | .fraction => "Input should be a valid integer, got a number with a fractional part"
  | .notFinite => "Input should be a finite number"
  | .atLeast bound => s!"Input should be greater than or equal to {bound}"
  | .atMost bound => s!"Input should be less than or equal to {bound}"
  | .boolKind => "Input should be a valid boolean"
  | .boolText => "Input should be a valid boolean, unable to interpret input"
  | .stringKind => "Input should be a valid string"
  | .brokenText => "Input should be a valid string, unable to parse raw data as a unicode string"

/-- White space, which may stand around a number; the information separators are none here. -/
def isSpace (c : Char) : Bool :=
  Text.isBlank c && !(28 ≤ c.toNat && c.toNat ≤ 31)

def isDigit (c : Char) : Bool := '0' ≤ c && c ≤ '9'

/-- Reads ASCII digits with single underscores between them; after a digit an end or a fraction of
zeros may follow. -/
def digitsFrom (value : Nat) : List Char → Option Nat
  | [] => some value
  | '.' :: zeros => if !zeros.isEmpty && zeros.all (· == '0') then some value else none
  | '_' :: c :: rest => if isDigit c then digitsFrom (value * 10 + (c.toNat - 48)) rest else none
  | c :: rest => if isDigit c then digitsFrom (value * 10 + (c.toNat - 48)) rest else none

def unsigned? : List Char → Option Nat
  | c :: rest => if isDigit c then digitsFrom (c.toNat - 48) rest else none
  | [] => none

def trim (text : List Char) : List Char :=
  ((text.dropWhile isSpace).reverse.dropWhile isSpace).reverse

/-- The longest text that is read as a number at all, in bytes. -/
def textLimit : Nat := 4300

/-- A whole number from its text. -/
def integerOfText (text : List Char) : Except FieldFault Int :=
  let text := trim text
  if textLimit < (Text.Utf8.encode text).length then .error .integerSize
  else
    let value :=
      match text with
      | '-' :: rest => (unsigned? rest).map fun value => -(value : Int)
      | '+' :: rest => (unsigned? rest).map Int.ofNat
      | rest => (unsigned? rest).map Int.ofNat
    match value with
    | some value => .ok value
    | none => .error .integerText

def integer : Json → Except FieldFault Int
  | .int value => .ok value
  | .bool value => .ok (if value then 1 else 0)
  | .float value =>
    if !value.isFinite then .error .notFinite
    else if !Decimal.isWhole value then .error .fraction
    else
      match Decimal.truncate? value with
      | some whole => if whole.natAbs < Nat.pow 2 63 then .ok whole else .error .integerSize
      | none => .error .notFinite
  | .str text => integerOfText text.toList
  | .units _ => .error .brokenText
  | _ => .error .integerKind

def bounded (low : Option Int) (high : Option Int) (value : Json) : Except FieldFault Int := do
  let value ← integer value
  match low with
  | some low => if value < low then throw (.atLeast low)
  | none => pure ()
  match high with
  | some high => if high < value then throw (.atMost high)
  | none => pure ()
  return value

/-- The words for yes and no. -/
def trueWords : List String := ["true", "t", "yes", "y", "on", "1"]
def falseWords : List String := ["false", "f", "no", "n", "off", "0"]

def truth : Json → Except FieldFault Bool
  | .bool value => .ok value
  | .int value => if value == 0 then .ok false else if value == 1 then .ok true else .error .boolText
  | .float value => if value == 0 then .ok false else if value == 1 then .ok true else .error .boolKind
  | .str text =>
    let word := String.ofList (text.toList.map Char.toLower)
    if trueWords.contains word then .ok true
    else if falseWords.contains word then .ok false
    else .error .boolText
  | .units _ => .error .brokenText
  | _ => .error .boolKind

def text : Json → Except FieldFault String
  | .str text => .ok text
  | .units _ => .error .brokenText
  | _ => .error .stringKind

def textOrNone : Json → Except FieldFault (Option String)
  | .null => .ok none
  | value => (text value).map some

end TerminalDock.Config
