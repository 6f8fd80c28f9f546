/-! Binary data as text in the standard alphabet of sixty-four characters. Writing pads to whole groups of
four; reading is strict about stray characters and about the place and number of the padding. -/

namespace TerminalDock.Codec.Base64

/-- The character for six bits. -/
def symbol (value : Nat) : Char :=
  if value < 26 then Char.ofNat ('A'.toNat + value)
  else if value < 52 then Char.ofNat ('a'.toNat + (value - 26))
  else if value < 62 then Char.ofNat ('0'.toNat + (value - 52))
  else if value == 62 then '+'
  else '/'

/-- The six bits of a character of the alphabet. -/
def value? (c : Char) : Option Nat :=
  if 'A' ≤ c && c ≤ 'Z' then some (c.toNat - 'A'.toNat)
  else if 'a' ≤ c && c ≤ 'z' then some (c.toNat - 'a'.toNat + 26)
  else if '0' ≤ c && c ≤ '9' then some (c.toNat - '0'.toNat + 52)
  else if c == '+' then some 62
  else if c == '/' then some 63
  else none

/-- Each three bytes become four characters; a shorter last group is padded. -/
def encode : List UInt8 → List Char
  | [] => []
  | [a] => [symbol (a.toNat / 4), symbol (a.toNat % 4 * 16), '=', '=']
  | [a, b] =>
    [symbol (a.toNat / 4), symbol (a.toNat % 4 * 16 + b.toNat / 16), symbol (b.toNat % 16 * 4), '=']
  | a :: b :: c :: rest =>
    symbol (a.toNat / 4) :: symbol (a.toNat % 4 * 16 + b.toNat / 16)
      :: symbol (b.toNat % 16 * 4 + c.toNat / 64) :: symbol (c.toNat % 64) :: encode rest

/-- Why a text is no encoded data. -/
inductive Fault
  | notAscii
  | leadingPadding
  | strayCharacter
  | interruptedPadding
  | excessData
  | missingPadding
  | loneCharacter (count : Nat)
  deriving DecidableEq, Repr

def Fault.message : Fault → String
  | .notAscii => "string argument should contain only ASCII characters"
  | .leadingPadding => "Leading padding not allowed"
  | .strayCharacter => "Only base64 data is allowed"
  | .interruptedPadding => "Discontinuous padding not allowed"
  | .excessData => "Excess data after padding"
  | .missingPadding => "Incorrect padding"
  | .loneCharacter count =>
    s!"Invalid base64-encoded string: number of data characters ({count}) cannot be 1 more than a multiple of 4"

/-- Where a reader stands: how many characters of the current group it has read and what is left of
their bits, how many paddings in a row, whether it has seen any padding, and the bytes, last first. -/
structure Reader where
  place : Nat := 0
  carry : Nat := 0
  paddings : Nat := 0
  padded : Bool := false
  bytes : List UInt8 := []
  deriving DecidableEq, Repr

/-- Takes in six bits: every character of a group but the first completes a byte. -/
def Reader.push (reader : Reader) (value : Nat) : Reader :=
  match reader.place with
  | 0 => { reader with place := 1, carry := value, paddings := 0 }
  | 1 => { reader with place := 2, carry := value % 16, paddings := 0,
                       bytes := UInt8.ofNat (reader.carry * 4 + value / 16) :: reader.bytes }
  | 2 => { reader with place := 3, carry := value % 4, paddings := 0,
                       bytes := UInt8.ofNat (reader.carry * 16 + value / 4) :: reader.bytes }
  | _ => { reader with place := 0, carry := 0, paddings := 0,
                       bytes := UInt8.ofNat (reader.carry * 64 + value) :: reader.bytes }

/-- How many characters of the alphabet were read. -/
def Reader.count (reader : Reader) : Nat :=
  reader.bytes.length / 3 * 4 + reader.place

/-- Reads from a given state. Padding that completes a group ends the data. -/
def Reader.run (reader : Reader) : List Char → Except Fault (List UInt8)
  | [] =>
    if reader.place == 0 then .ok reader.bytes.reverse
    else if reader.place == 1 then .error (.loneCharacter reader.count)
    else .error .missingPadding
  | c :: rest =>
    if c == '=' then
      if reader.place < 2 then { reader with padded := true }.run rest
      else if 4 ≤ reader.place + (reader.paddings + 1) then
        if rest.isEmpty then .ok reader.bytes.reverse else .error .excessData
      else { reader with padded := true, paddings := reader.paddings + 1 }.run rest
    else
      match value? c with
      | none => .error .strayCharacter
      | some value => if reader.padded then .error .interruptedPadding else (reader.push value).run rest

/-- Reads encoded data, or tells the first fault. -/
def decode (text : List Char) : Except Fault (List UInt8) :=
  if text.any fun c => 128 ≤ c.toNat then .error .notAscii
  else if text.head? == some '=' then .error .leadingPadding
  else ({} : Reader).run text

end TerminalDock.Codec.Base64
