import TerminalDock.Emulator.Mode

/-! The functions that a program calls by a letter after numbers. Each takes so many numbers and no more,
and only some have a private form; a function that is not known does nothing. -/

namespace TerminalDock.Emulator

/-- A call by letter: the function, how many numbers it takes at most (any, if none is given), and whether
it has a private form. -/
structure Control where
  run : Bool → List Nat → Term Unit
  limit : Option Nat := some 1
  privately : Bool := false

namespace Control

/-- A function of one number that cannot fail. -/
def simple (change : Nat → Screen → Screen) : Control where
  run := fun _ numbers => modify (change (numbers.headD 0))

/-- A function of two numbers that cannot fail. -/
def double (change : Nat → Nat → Screen → Screen) : Control where
  run := fun _ numbers => modify (change (numbers.headD 0) (numbers.getD 1 0))
  limit := some 2

/-- A report of the cursor's place needs margins where lines are counted from them; other reports and
their texts have no effect on the screen. -/
def report (mode : Nat) : Term Unit := do
  let screen ← get
  if mode == 6 && screen.hasMode originMode && screen.margins.isNone then throw .assertion

/-- Erases in the line. A second number says what the private form says, so that form takes one only. -/
def eraseLine (isPrivate : Bool) (numbers : List Nat) : Term Unit :=
  if isPrivate && 1 < numbers.length then throw .type else eraseInLine (numbers.headD 0)

def ofLetter? : Char → Option Control
  | '@' => some (simple fun n screen => screen.insertCharacters (Screen.orOne n))
  | 'A' => some (simple fun n screen => screen.cursorUp n)
  | 'B' | 'e' => some (simple fun n screen => screen.cursorDown n)
  | 'C' | 'a' => some (simple fun n screen => screen.cursorForward n)
  | 'D' => some (simple fun n screen => screen.cursorBack n)
  | 'E' => some (simple fun n screen => (screen.cursorDown n).carriageReturn)
  | 'F' => some (simple fun n screen => (screen.cursorUp n).carriageReturn)
  | 'G' | '\'' => some (simple fun n screen => screen.toColumn n)
  | 'H' | 'f' => some (double fun line column screen => screen.toPosition line column)
  | 'J' => some { run := fun _ numbers => eraseInDisplay (numbers.headD 0), limit := none, privately := true }
  | 'K' => some { run := eraseLine, limit := some 2, privately := true }
  | 'L' => some (simple fun n screen => screen.insertLines (Screen.orOne n))
  | 'M' => some (simple fun n screen => screen.deleteLines (Screen.orOne n))
  | 'P' => some (simple fun n screen => screen.deleteCharacters (Screen.orOne n))
  | 'X' => some (simple fun n screen => screen.eraseCharacters (Screen.orOne n))
  | 'c' => some { run := fun _ _ => pure (), privately := true }
  | 'd' => some { run := fun _ numbers => toLine (numbers.headD 0) }
  | 'g' => some (simple fun n screen => screen.clearTabStop n)
  | 'h' => some { run := setModes, limit := none, privately := true }
  | 'l' => some { run := resetModes, limit := none, privately := true }
  | 'm' => some { run := fun _ numbers => modify (·.chooseStyle numbers), limit := none }
  | 'n' => some { run := fun _ numbers => report (numbers.headD 0) }
  | 'r' => some { run := fun _ numbers => modify (·.setMargins (numbers.headD 0) numbers[1]?), limit := some 2 }
  | _ => none

/-- Calls a function; too many numbers, or a private form that it does not have, are a fault. -/
def call (control : Control) (isPrivate : Bool) (numbers : List Nat) : Term Unit :=
  if (isPrivate && !control.privately) || control.limit.any (· < numbers.length) then throw .type
  else control.run isPrivate numbers

end Control

def callLetter (letter : Char) (isPrivate : Bool) (numbers : List Nat) : Term Unit :=
  event ((Control.ofLetter? letter).elim (pure ()) fun control => control.call isPrivate numbers)

end TerminalDock.Emulator
