import TerminalDock.Text.Digit

/-! Bytes written as pairs of hexadecimal digits. -/

namespace TerminalDock.Text

/-- The two digits of a byte, high half first. -/
def byteDigits (byte : UInt8) : List Char :=
  [hexDigit (byte.toNat / 16), hexDigit (byte.toNat % 16)]

def hexOfBytes (bytes : List UInt8) : String :=
  String.ofList (bytes.flatMap byteDigits)

/-- Reads pairs of hexadecimal digits; an odd digit at the end is dropped. -/
def bytesOfDigits? : List Char → Option (List UInt8)
  | high :: low :: rest => do
    let high ← hexValue? high
    let low ← hexValue? low
    return UInt8.ofNat (16 * high + low) :: (← bytesOfDigits? rest)
  | _ => some []

/-- The bytes of a hexadecimal text, none if it holds anything but digits. -/
def bytesOfHex (text : String) : List UInt8 :=
  (bytesOfDigits? text.toList).getD []

end TerminalDock.Text
