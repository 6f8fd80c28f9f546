import TerminalDock.Emulator.Control
import TerminalDock.Text.IntegerLiteral
import TerminalDock.Text.Utf8

/-! Control sequences in a stream of characters. A reader is either in plain text or at some place in a
sequence; one character takes it on, and may make the screen do something. -/

namespace TerminalDock.Emulator

inductive Reader
  | plain
  /-- After the escape character. -/
  | escape
  /-- Before the letter of a test, of an encoding, or of a character set. -/
  | test
  | encoding
  | charset (second : Bool)
  /-- Among the numbers of a call by letter: those that are complete, and the digits of the next. -/
  | call (isPrivate : Bool) (numbers : List Nat) (digits : List Char)
  /-- Before a character that is passed over. -/
  | skip
  /-- Before the first character of a command to the window, in its text, and after an escape there. -/
  | command
  | commandText (code : Char)
  | commandEscape (code : Char)
  deriving DecidableEq, Repr, Inhabited

/-- A change of the encoding that takes effect with the next write. -/
inductive Encoding
  | utf8
  | latin
  deriving DecidableEq, Repr

/-- A terminal: the screen, the reader of its stream, and how bytes become characters. -/
structure Terminal where
  screen : Screen
  reader : Reader := .plain
  encoding : Encoding := .utf8
  /-- The bytes of a character that is not complete yet. -/
  pending : List UInt8 := []
  deriving Repr, Inhabited

/-- A step of a terminal. -/
abbrev Feed := EStateM FaultKind Terminal

namespace Terminal

def onScreen (act : Term Unit) : Feed Unit := fun terminal =>
  match act terminal.screen with
  | .ok () screen => .ok () { terminal with screen := screen }
  | .error fault screen => .error fault { terminal with screen := screen }

def goTo (reader : Reader) : Feed Unit :=
  modify fun terminal => { terminal with reader := reader }

/-- The control characters that act at once, also within the numbers of a call. -/
def immediate? : Char → Option (Screen → Screen)
  | '\x07' => some id
  | '\x08' => some fun screen => screen.cursorBack 1
  | '\x09' => some Screen.tab
  | '\x0a' | '\x0b' | '\x0c' => some Screen.lineFeed
  | '\x0d' => some Screen.carriageReturn
  | _ => none

/-- The characters that interrupt plain text. -/
def isSpecial (c : Char) : Bool :=
  (immediate? c).isSome
    || ['\x00', '\x0e', '\x0f', '\x1b', '\x7f', '\u009b', '\u009d'].contains c

/-- A special character in plain text. The two shifts pick a character set for eight-bit text only. -/
def plainStep (c : Char) : Feed Unit := do
  match c with
  | '\x1b' => goTo .escape
  | '\u009b' => goTo (.call false [] [])
  | '\u009d' => goTo .command
  | '\x0e' | '\x0f' =>
    if (← get).encoding == .latin then
      onScreen (pureEvent fun screen => { screen with shifted := c == '\x0e' })
  | _ =>
    match immediate? c with
    | some change => onScreen (pureEvent change)
    | none => pure ()

/-- What an escape and a letter do. -/
def escapeAction (c : Char) (screen : Screen) : Screen :=
  match c with
  | 'c' => screen.reset
  | 'D' => screen.index
  | 'E' => screen.lineFeed
  | 'M' => screen.reverseIndex
  | 'H' => screen.setTabStop
  | '7' => screen.saveCursor
  | '8' => screen.restoreCursor
  | _ => screen

/-- The character after an escape. -/
def escapeStep (c : Char) : Feed Unit :=
  match c with
  | '[' => goTo (.call false [] [])
  | ']' => goTo .command
  | '#' => goTo .test
  | '%' => goTo .encoding
  | '(' => goTo (.charset false)
  | ')' => goTo (.charset true)
  | _ => do
    goTo .plain
    onScreen (pureEvent (escapeAction c))

def chooseEncoding (c : Char) (terminal : Terminal) : Terminal :=
  match c with
  | '@' => { terminal with encoding := .latin, pending := [] }
  | 'G' | '8' => { terminal with encoding := .utf8 }
  | _ => terminal

def putCharset (second : Bool) (c : Char) (screen : Screen) : Screen :=
  match Charset.ofLetter? c with
  | none => screen
  | some charset =>
    if second then { screen with second := charset } else { screen with first := charset }

/-- The largest number that a call is given. -/
def numberLimit : Nat := 9999

/-- The number that digits stand for, at most the limit; none if a digit has no place in a number. -/
def numberOf? (digits : List Char) : Option Nat :=
  if digits.isEmpty then some 0
  else if Text.digitLimit < digits.length then none
  else (Text.digits? 10 digits).map (min numberLimit)

/-- A character among the numbers of a call. The digits of a number stay until a semicolon. -/
def callStep (isPrivate : Bool) (numbers : List Nat) (digits : List Char) (c : Char) : Feed Unit :=
  match immediate? c with
  | some change => onScreen (pureEvent change)
  | none =>
    match c with
    | '?' => goTo (.call true numbers digits)
    | ' ' | '>' => pure ()
    | '\x18' | '\x1a' => do
      goTo .plain
      onScreen (pureEvent (·.draw [c]))
    | '$' => goTo .skip
    | _ =>
      if Text.isDigitLike c then goTo (.call isPrivate numbers (digits ++ [c]))
      else
        match numberOf? digits with
        | none => throw .value
        | some number =>
          if c == ';' then goTo (.call isPrivate (numbers ++ [number]) [])
          else do
            goTo .plain
            onScreen (callLetter c isPrivate (numbers ++ [number]))

/-- At the end of a command to the window: a title is taken note of, all else is passed over. -/
def endCommand (code : Char) : Feed Unit := do
  goTo .plain
  if ['0', '1', '2'].contains code then onScreen (pureEvent id)

/-- One character, other than plain text. -/
def step (c : Char) : Feed Unit := do
  match (← get).reader with
  | .plain => plainStep c
  | .escape => escapeStep c
  | .test =>
    goTo .plain
    onScreen (pureEvent fun screen => if c == '8' then screen.alignmentPattern else screen)
  | .encoding =>
    goTo .plain
    modify (chooseEncoding c)
  | .charset second =>
    goTo .plain
    if (← get).encoding == .latin then onScreen (pureEvent (putCharset second c))
  | .call isPrivate numbers digits => callStep isPrivate numbers digits c
  | .skip => goTo .plain
  | .command => goTo (if c == 'R' || c == 'P' then .plain else .commandText c)
  | .commandText code =>
    if c == '\x1b' then goTo (.commandEscape code)
    else if c == '\x07' || c == '\u009c' then endCommand code
    else pure ()
  | .commandEscape code => if c == '\\' then endCommand code else goTo (.commandText code)

/-- Draws a run of plain text, if there is one; the run is given from its end. -/
def drawRun (run : List Char) : Feed Unit :=
  if run.isEmpty then pure () else onScreen (pureEvent (·.draw run.reverse))

/-- Reads characters. Plain text is drawn in runs as long as possible; `run` is the one under way, from
its end. -/
def feed (run : List Char) : List Char → Feed Unit
  | [] => drawRun run
  | c :: rest => do
    if (← get).reader == .plain && !isSpecial c then feed (c :: run) rest
    else
      drawRun run
      step c
      feed [] rest

/-- The characters of the next bytes, and what is left of them for later. -/
def decode (terminal : Terminal) (bytes : List UInt8) : List Char × List UInt8 :=
  match terminal.encoding with
  | .utf8 => Text.Utf8.decodeSome (terminal.pending ++ bytes)
  | .latin => (bytes.map fun byte => Char.ofNat byte.toNat, terminal.pending)

/-- Reads bytes. A fault ends the reading there, and the reader is back in plain text. -/
def write (bytes : List UInt8) : Feed Unit := fun terminal =>
  let (text, pending) := terminal.decode bytes
  match feed [] text { terminal with pending := pending } with
  | .ok () terminal => .ok () terminal
  | .error fault terminal => .error fault { terminal with reader := .plain }

/-- A terminal of some size that keeps so many lines. -/
def create (lines columns : Int) (scrollback : Nat) : Terminal where
  screen := Screen.reset { lines := lines, columns := columns, scrollback := scrollback }

end Terminal

end TerminalDock.Emulator
