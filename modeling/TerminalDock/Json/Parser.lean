import TerminalDock.Assoc
import TerminalDock.Json.Value
import TerminalDock.Text.Digit

/-! Reading values. Besides the standard grammar the reader takes the names of the not-a-number and the
infinities; of two fields with one key the later value counts. A fault tells its cause and place. -/

namespace TerminalDock.Json

inductive Cause
  | byteOrderMark
  | value
  | propertyName
  | colon
  | comma
  | extraData
  | unterminated
  | controlCharacter
  | escape
  | unicodeEscape
  | hugeNumber (digits : Nat)
  deriving DecidableEq, Repr

/-- A cause, and how many characters were left where it arose. -/
structure Stop where
  cause : Cause
  remaining : Nat
  deriving DecidableEq, Repr

/-- The outcome of reading a piece: what was read and the characters after it. -/
abbrev Read (α : Type) := Except Stop (α × List Char)

/-- A fault at the front of the given characters. -/
def stopAt {α : Type} (cause : Cause) (rest : List Char) : Except Stop α :=
  .error ⟨cause, rest.length⟩

def isSpace (c : Char) : Bool :=
  c == ' ' || c == '\t' || c == '\n' || c == '\r'

def skipSpace (text : List Char) : List Char :=
  text.dropWhile isSpace

def fourDigits? : List Char → Option (Nat × List Char)
  | a :: b :: c :: d :: rest => do
    let a ← Text.hexValue? a
    let b ← Text.hexValue? b
    let c ← Text.hexValue? c
    let d ← Text.hexValue? d
    return (((a * 16 + b) * 16 + c) * 16 + d, rest)
  | _ => none

def isHighSurrogate (unit : Nat) : Bool := 0xD800 ≤ unit && unit ≤ 0xDBFF

def isLowSurrogate (unit : Nat) : Bool := 0xDC00 ≤ unit && unit ≤ 0xDFFF

/-- The second half of a surrogate pair, if one follows the first half and more text follows it. A
broken escape in its place is a fault. -/
def lowHalf (rest : List Char) : Except Stop (Option (Nat × List Char)) :=
  match rest with
  | '\\' :: 'u' :: digits =>
    if (digits.drop 4).isEmpty then .ok none
    else
      match fourDigits? digits with
      | none => stopAt .unicodeEscape ('u' :: digits)
      | some (low, after) => .ok (if isLowSurrogate low then some (low, after) else none)
  | _ => .ok none

def shortEscape? : Char → Option Char
  | '"' => some '"'
  | '\\' => some '\\'
  | '/' => some '/'
  | 'b' => some '\x08'
  | 'f' => some '\x0c'
  | 'n' => some '\n'
  | 'r' => some '\r'
  | 't' => some '\t'
  | _ => none

/-- The codes of a text up to the closing quote, last code first; `opening` is the text from its opening
quote on. The fuel bounds the characters that are left. -/
def stringCodes (opening : List Char) : Nat → List Char → List Nat → Read (List Nat)
  | 0, _, _ => stopAt .unterminated opening
  | _ + 1, [], _ => stopAt .unterminated opening
  | _ + 1, '"' :: rest, codes => .ok (codes, rest)
  | _ + 1, ['\\'], _ => stopAt .unterminated opening
  | fuel + 1, '\\' :: 'u' :: digits, codes =>
    if (digits.drop 4).isEmpty then stopAt .unicodeEscape ('u' :: digits)
    else
      match fourDigits? digits with
      | none => stopAt .unicodeEscape ('u' :: digits)
      | some (unit, rest) =>
        if isHighSurrogate unit then
          match lowHalf rest with
          | .error stop => .error stop
          | .ok (some (low, after)) =>
            stringCodes opening fuel after
              ((0x10000 + (unit - 0xD800) * 0x400 + (low - 0xDC00)) :: codes)
          | .ok none => stringCodes opening fuel rest (unit :: codes)
        else stringCodes opening fuel rest (unit :: codes)
  | fuel + 1, '\\' :: c :: rest, codes =>
    match shortEscape? c with
    | some meaning => stringCodes opening fuel rest (meaning.toNat :: codes)
    | none => stopAt .escape ('\\' :: c :: rest)
  | fuel + 1, c :: rest, codes =>
    if c.toNat < 0x20 then stopAt .controlCharacter (c :: rest)
    else stringCodes opening fuel rest (c.toNat :: codes)

def readCodes (body : List Char) : Read (List Nat) :=
  (stringCodes ('"' :: body) (body.length + 1) body []).map fun (codes, rest) => (codes.reverse, rest)

/-- Text of codes, if none of them is a surrogate. -/
def ofCodes (codes : List Nat) : Json :=
  if codes.any fun code => isHighSurrogate code || isLowSurrogate code then .units codes
  else .str (String.ofList (codes.map Char.ofNat))

/-- A key of codes; a surrogate in a key becomes the replacement character. -/
def keyOfCodes (codes : List Nat) : String :=
  String.ofList (codes.map fun code =>
    if isHighSurrogate code || isLowSurrogate code then '\ufffd' else Char.ofNat code)

def isDigit (c : Char) : Bool := '0' ≤ c && c ≤ '9'

def natOfDigits (digits : List Char) : Nat :=
  digits.foldl (fun value c => value * 10 + (c.toNat - '0'.toNat)) 0

/-- The fraction of a number: a point with at least one digit after it. -/
def fraction : List Char → List Char × List Char
  | '.' :: c :: rest =>
    if isDigit c then (c :: rest.takeWhile isDigit, rest.dropWhile isDigit) else ([], '.' :: c :: rest)
  | rest => ([], rest)

/-- The exponent of a number: a mark, an optional sign and at least one digit. -/
def exponent? : List Char → Option (Int × List Char)
  | mark :: rest =>
    if mark == 'e' || mark == 'E' then
      let (negative, digits) :=
        match rest with
        | '-' :: digits => (true, digits)
        | '+' :: digits => (false, digits)
        | digits => (false, digits)
      let size := digits.takeWhile isDigit
      if size.isEmpty then none
      else
        let value : Int := natOfDigits size
        some (if negative then -value else value, digits.dropWhile isDigit)
    else none
  | [] => none

/-- A whole number may have this many digits. -/
def digitLimit : Nat := 4300

/-- A number: no leading zeros, and a fraction or an exponent makes it one with a fraction. -/
def readNumber (start : List Char) : Read Json :=
  let (negative, body) :=
    match start with
    | '-' :: body => (true, body)
    | body => (false, body)
  let digits :=
    match body with
    | '0' :: _ => ['0']
    | body => body.takeWhile isDigit
  if digits.isEmpty then stopAt .value start
  else
    let (places, rest) := fraction (body.drop digits.length)
    match exponent? rest, places.isEmpty with
    | none, true =>
      if digitLimit < digits.length then stopAt (.hugeNumber digits.length) start
      else
        let value : Int := natOfDigits digits
        .ok (.int (if negative then -value else value), rest)
    | none, false =>
      .ok (.float (Decimal.floatOfDecimal negative (natOfDigits (digits ++ places)) (-(places.length : Int))), rest)
    | some (size, rest), _ =>
      .ok (.float (Decimal.floatOfDecimal negative (natOfDigits (digits ++ places)) (size - places.length)), rest)

/-- The words of the format and their values. -/
def words : List (List Char × Json) := [
  ("null".toList, .null), ("true".toList, .bool true), ("false".toList, .bool false),
  ("NaN".toList, .float (0.0 / 0.0)), ("Infinity".toList, .float (1.0 / 0.0)),
  ("-Infinity".toList, .float (-1.0 / 0.0))]

def word? (text : List Char) : Option (Json × List Char) :=
  words.findSome? fun (word, value) => if word.isPrefixOf text then some (value, text.drop word.length) else none

mutual

/-- A value at the front of the text. The fuel bounds the nesting and the items: two for each character and one more
are enough. -/
def readValue : Nat → List Char → Read Json
  | 0, text => stopAt .value text
  | fuel + 1, text =>
    match text with
    | '"' :: body => (readCodes body).map fun (codes, rest) => (ofCodes codes, rest)
    | '[' :: rest =>
      match skipSpace rest with
      | ']' :: after => .ok (.arr [], after)
      | rest => (readItems fuel rest []).map fun (items, after) => (.arr items, after)
    | '\x7b' :: rest =>
      match skipSpace rest with
      | '\x7d' :: after => .ok (.obj [], after)
      | rest => (readFields fuel rest []).map fun (fields, after) => (.obj fields, after)
    | text =>
      match word? text with
      | some found => .ok found
      | none => readNumber text

def readItems : Nat → List Char → List Json → Read (List Json)
  | 0, text, _ => stopAt .value text
  | fuel + 1, text, done =>
    match readValue fuel text with
    | .error stop => .error stop
    | .ok (item, rest) =>
      match skipSpace rest with
      | ']' :: after => .ok ((item :: done).reverse, after)
      | ',' :: after => readItems fuel (skipSpace after) (item :: done)
      | rest => stopAt .comma rest

def readFields : Nat → List Char → List (String × Json) → Read (List (String × Json))
  | 0, text, _ => stopAt .value text
  | fuel + 1, text, done =>
    match text with
    | '"' :: body =>
      match readCodes body with
      | .error stop => .error stop
      | .ok (codes, rest) =>
        match skipSpace rest with
        | ':' :: rest =>
          match readValue fuel (skipSpace rest) with
          | .error stop => .error stop
          | .ok (value, rest) =>
            let done := Assoc.put (keyOfCodes codes) value done
            match skipSpace rest with
            | '\x7d' :: after => .ok (done, after)
            | ',' :: after => readFields fuel (skipSpace after) done
            | rest => stopAt .comma rest
        | rest => stopAt .colon rest
    | text => stopAt .propertyName text

end

def readAll (text : List Char) : Except Stop Json :=
  if text.head? == some '\ufeff' then stopAt .byteOrderMark text
  else
    match readValue (2 * text.length + 1) (skipSpace text) with
    | .error stop => .error stop
    | .ok (value, rest) =>
      match skipSpace rest with
      | [] => .ok value
      | rest => stopAt .extraData rest

structure Fault where
  cause : Cause
  line : Nat
  column : Nat
  position : Nat
  deriving DecidableEq, Repr

/-- The place in the text at which so many characters are left. -/
def Stop.locate (stop : Stop) (text : List Char) : Fault :=
  let before := text.take (text.length - stop.remaining)
  { cause := stop.cause
    line := before.count '\n' + 1
    column := (before.reverse.takeWhile (· != '\n')).length + 1
    position := before.length }

def parse (text : List Char) : Except Fault Json :=
  (readAll text).mapError (·.locate text)

def Cause.text : Cause → String
  | .byteOrderMark => "Unexpected UTF-8 BOM (decode using utf-8-sig)"
  | .value => "Expecting value"
  | .propertyName => "Expecting property name enclosed in double quotes"
  | .colon => "Expecting ':' delimiter"
  | .comma => "Expecting ',' delimiter"
  | .extraData => "Extra data"
  | .unterminated => "Unterminated string starting at"
  | .controlCharacter => "Invalid control character at"
  | .escape => "Invalid \\escape"
  | .unicodeEscape => "Invalid \\uXXXX escape"
  | .hugeNumber digits =>
    s!"Exceeds the limit ({digitLimit} digits) for integer string conversion: " ++
      s!"value has {digits} digits; use sys.set_int_max_str_digits() to increase the limit"

/-- The wording of a fault; a number that is too long is refused without its place. -/
def Fault.message (fault : Fault) : String :=
  match fault.cause with
  | .hugeNumber _ => fault.cause.text
  | cause => s!"{cause.text}: line {fault.line} column {fault.column} (char {fault.position})"

end TerminalDock.Json
