import TerminalDock.Text.Blank
import TerminalDock.Text.Digit

/-! Whole numbers as people type them: blanks around, a sign, decimal digits of any script with single
underscores between them, and in base sixteen an optional `0x` in front. -/

namespace TerminalDock.Text

/-- The blanks that may stand around a number: all but the four information separators. -/
def isNumberBlank (c : Char) : Bool :=
  isBlank c && !(28 ≤ c.toNat && c.toNat ≤ 31)

/-- The value of a digit in the given base: a decimal digit of any script or an ASCII letter. -/
def digitIn? (base : Nat) (c : Char) : Option Nat :=
  let value :=
    match digitValue? c with
    | some value => some value
    | none =>
      if 'a' ≤ c && c ≤ 'z' then some (c.toNat - 'a'.toNat + 10)
      else if 'A' ≤ c && c ≤ 'Z' then some (c.toNat - 'A'.toNat + 10)
      else none
  value.filter (· < base)

/-- Reads digits after the first one: an underscore has to stand between two digits. -/
def moreDigits? (base : Nat) (value : Nat) : List Char → Option Nat
  | [] => some value
  | '_' :: c :: rest => (digitIn? base c).bind fun digit => moreDigits? base (value * base + digit) rest
  | c :: rest => (digitIn? base c).bind fun digit => moreDigits? base (value * base + digit) rest

def digits? (base : Nat) : List Char → Option Nat
  | [] => none
  | c :: rest => (digitIn? base c).bind fun digit => moreDigits? base digit rest

/-- Reads the digits after an optional base mark, which one underscore may follow. -/
def unsigned? (base : Nat) : List Char → Option Nat
  | lead :: mark :: rest =>
    if base == 16 && digitValue? lead == some 0 && (mark == 'x' || mark == 'X') then
      match rest with
      | '_' :: digits => digits? base digits
      | digits => digits? base digits
    else digits? base (lead :: mark :: rest)
  | digits => digits? base digits

def numberBody (text : List Char) : List Char :=
  dropRightWhile isNumberBlank (text.dropWhile isNumberBlank)

def integer? (base : Nat) (text : List Char) : Option Int :=
  match numberBody text with
  | '-' :: rest => (unsigned? base rest).map fun value => -(value : Int)
  | '+' :: rest => (unsigned? base rest).map Int.ofNat
  | digits => (unsigned? base digits).map Int.ofNat

/-- The longest decimal number that is read at all, in digits. -/
def digitLimit : Nat := 4300

def digitCount (text : List Char) : Nat :=
  text.countP fun c => (digitValue? c).isSome

end TerminalDock.Text
