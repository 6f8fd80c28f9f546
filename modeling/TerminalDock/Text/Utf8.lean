import TerminalDock.Text.Digit

/-! Text as UTF-8 bytes. Reading is strict, with the place and the cause of the first fault, or replacing,
with one replacement character for each longest faulty piece and a memory for a character that is cut. -/

namespace TerminalDock.Text.Utf8

def encode (text : List Char) : List UInt8 :=
  text.flatMap String.utf8EncodeChar

def ofString (text : String) : List UInt8 :=
  encode text.toList

inductive Cause
  | start
  | continuation
  | ending
  deriving DecidableEq, Repr

/-- What stands at the front of a byte sequence: a character, a piece that no character starts with, or
a proper beginning of a character at which the sequence ends. The first two give their size. -/
inductive Front
  | char (c : Char) (size : Nat)
  | invalid (cause : Cause) (size : Nat)
  | unfinished
  deriving DecidableEq, Repr

/-- Reads the continuation bytes of a character. Only the first of them may have narrower bounds. -/
def finish (value size low high : Nat) : Nat → List UInt8 → Front
  | 0, _ => .char (Char.ofNat value) size
  | _ + 1, [] => .unfinished
  | needed + 1, byte :: rest =>
    if low ≤ byte.toNat && byte.toNat ≤ high then
      finish (value * 64 + byte.toNat % 64) (size + 1) 0x80 0xBF needed rest
    else .invalid .continuation size

def front (byte : UInt8) (rest : List UInt8) : Front :=
  let lead := byte.toNat
  if lead < 0x80 then .char (Char.ofNat lead) 1
  else if lead < 0xC2 then .invalid .start 1
  else if lead < 0xE0 then finish (lead - 0xC0) 1 0x80 0xBF 1 rest
  else if lead == 0xE0 then finish 0 1 0xA0 0xBF 2 rest
  else if lead == 0xED then finish 0xD 1 0x80 0x9F 2 rest
  else if lead < 0xF0 then finish (lead - 0xE0) 1 0x80 0xBF 2 rest
  else if lead == 0xF0 then finish 0 1 0x90 0xBF 3 rest
  else if lead < 0xF4 then finish (lead - 0xF0) 1 0x80 0xBF 3 rest
  else if lead == 0xF4 then finish 4 1 0x80 0x8F 3 rest
  else .invalid .start 1

structure Fault where
  cause : Cause
  position : Nat
  size : Nat
  byte : UInt8
  deriving DecidableEq, Repr

def Cause.text : Cause → String
  | .start => "invalid start byte"
  | .continuation => "invalid continuation byte"
  | .ending => "unexpected end of data"

/-- The wording of a fault: the byte itself is shown if it stands alone. -/
def Fault.message (fault : Fault) : String :=
  let place :=
    if fault.size == 1 then
      "byte 0x" ++ String.ofList (padZeros 2 (hexDigits fault.byte.toNat)) ++ " in position "
        ++ toString fault.position
    else s!"bytes in position {fault.position}-{fault.position + fault.size - 1}"
  "'utf-8' codec can't decode " ++ place ++ ": " ++ fault.cause.text

/-- Strict reading from a position, with as much fuel as there are bytes. -/
def decodeFrom (position : Nat) : Nat → List UInt8 → Except Fault (List Char)
  | _, [] => .ok []
  | 0, _ => .ok []
  | fuel + 1, byte :: rest =>
    match front byte rest with
    | .char c size =>
      match decodeFrom (position + size) fuel (rest.drop (size - 1)) with
      | .ok text => .ok (c :: text)
      | .error fault => .error fault
    | .invalid cause size => .error ⟨cause, position, size, byte⟩
    | .unfinished => .error ⟨.ending, position, rest.length + 1, byte⟩

/-- Strict reading: the text, or the first fault. -/
def decode (bytes : List UInt8) : Except Fault (List Char) :=
  decodeFrom 0 bytes.length bytes

/-- Replacing reading: the text so far, last character first, and the bytes of a character that is cut. -/
def replaceFrom : Nat → List UInt8 → List Char → List Char × List UInt8
  | _, [], done => (done, [])
  | 0, bytes, done => (done, bytes)
  | fuel + 1, byte :: rest, done =>
    match front byte rest with
    | .char c size => replaceFrom fuel (rest.drop (size - 1)) (c :: done)
    | .invalid _ size => replaceFrom fuel (rest.drop (size - 1)) ('\ufffd' :: done)
    | .unfinished => (done, byte :: rest)

/-- Reads what is there and gives back the bytes of a character that is cut at the end. -/
def decodeSome (bytes : List UInt8) : List Char × List UInt8 :=
  let (done, cut) := replaceFrom bytes.length bytes []
  (done.reverse, cut)

/-- Reads everything; a cut character at the end is replaced too. -/
def decodeReplacing (bytes : List UInt8) : List Char :=
  let (text, cut) := decodeSome bytes
  if cut.isEmpty then text else text ++ ['\ufffd']

end TerminalDock.Text.Utf8
