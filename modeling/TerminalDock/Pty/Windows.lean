import TerminalDock.Host.Environment
import TerminalDock.LogRecord
import TerminalDock.Surface.Basic
import TerminalDock.Text.Utf8

/-! A pseudo terminal that a library for text provides: output arrives as text, and input has to be
text too. -/

namespace TerminalDock.Pty

/-- What is asked of the library, and what the log gets. -/
inductive WindowsSight
  | spawn (command cwd : String) (environment : Option Environment) (size : Geometry)
  | write (text : List Char)
  | resize (size : Geometry)
  | terminate
  | killTree (pid : Int)
  | logged (record : LogRecord)

/-- A pseudo terminal over a library that answers as it is told. -/
structure WindowsPty where
  installed : Bool := true
  number : Int := 77
  /-- Texts that arrive; nothing stands for the end. -/
  arrivals : List (Option (List Char)) := []
  terminateFailure : Option Failure := none
  running : Bool := false
  sights : List WindowsSight := []

abbrev WindowsStep := EStateM Failure WindowsPty

namespace WindowsPty

def see (sight : WindowsSight) : WindowsStep Unit :=
  modify fun pty => { pty with sights := pty.sights ++ [sight] }

def pid (pty : WindowsPty) : Option Int :=
  if pty.running then some pty.number else none

def spawn (command : List String) (cwd : String) (size : Geometry) (environment : Option Environment) :
    WindowsStep Unit := do
  if !(← get).installed then
    throw (.fault .missingModule "pywinpty is required on Windows. Install with: pip install pywinpty")
  let line := String.intercalate " " command
  see (.spawn line cwd environment size)
  modify fun pty => { pty with running := true }
  see (.logged (.info s!"[TERMINAL] WindowsPTY spawned: {line}"))

/-- Reads at most so many characters as bytes; nothing at the end. -/
def read (size : Nat) : WindowsStep (Option (List UInt8)) := do
  let pty ← get
  if !pty.running then return none
  match pty.arrivals with
  | [] => return none
  | text :: rest =>
    set { pty with arrivals := rest }
    return text.map fun text => Text.Utf8.encode (text.take size)

/-- Writes bytes as text; what is no text is replaced. -/
def write (bytes : List UInt8) : WindowsStep Unit := do
  if (← get).running then see (.write (Text.Utf8.decodeReplacing bytes))

def resize (size : Geometry) : WindowsStep Unit := do
  if (← get).running then see (.resize size)

def isAlive (pty : WindowsPty) : Bool :=
  pty.running

/-- Ends the process; if the library cannot, everything under it is killed. -/
def terminate : WindowsStep Unit := do
  let pty ← get
  if pty.running then
    see .terminate
    if let some failure := pty.terminateFailure then
      see (.logged (.debug s!"[TERMINAL] WindowsPTY terminate | pid={pty.number} error={failure.text}"))
      see (.killTree pty.number)
    modify fun pty => { pty with running := false }

end WindowsPty

end TerminalDock.Pty
