import TerminalDock.Host.Environment
import TerminalDock.Surface.Basic

/-! Pseudo terminals as those who use them see them, and one that answers as it is told. -/

namespace TerminalDock.Pty

/-- What a read brings: bytes, which may be none if nothing came in time; the end; a failure; or that it
is still waiting. -/
inductive ReadOutcome
  | data (bytes : List UInt8)
  | ended
  | failed (failure : Failure)
  | waiting
  deriving DecidableEq, Repr

/-- A pseudo terminal. Every operation gives its outcome and the terminal afterwards. -/
class PtyDevice (δ : Type) where
  pid : δ → Int
  spawn : List String → String → Geometry → Environment → δ → Except Failure Unit × δ
  read : δ → ReadOutcome × δ
  isAlive : δ → Bool × δ
  write : List UInt8 → δ → Except Failure Unit × δ
  resize : Geometry → δ → Except Failure Unit × δ
  terminate : δ → Except Failure Unit × δ
  close : δ → δ

inductive DeviceCall
  | spawn (command : List String) (cwd : String) (size : Geometry) (environment : Environment)
  | write (bytes : List UInt8)
  | resize (size : Geometry)
  | terminate
  deriving DecidableEq, Repr

/-- A pseudo terminal that answers as it is told. -/
structure PuppetPty where
  arrivals : List ReadOutcome := []
  alive : Bool := true
  /-- Whether ending the process brings the end of its output. -/
  endsOutput : Bool := true
  spawnFailure : Option Failure := none
  writeFailure : Option Failure := none
  resizeFailure : Option Failure := none
  terminateFailure : Option Failure := none
  /-- What was asked of it, oldest first, and how often it was closed. -/
  calls : List DeviceCall := []
  closed : Nat := 0

namespace PuppetPty

def note (pty : PuppetPty) (call : DeviceCall) : PuppetPty :=
  { pty with calls := pty.calls ++ [call] }

def outcome : Option Failure → Except Failure Unit
  | none => .ok ()
  | some failure => .error failure

def feed (pty : PuppetPty) (arrival : ReadOutcome) : PuppetPty :=
  { pty with arrivals := pty.arrivals ++ [arrival] }

instance : PtyDevice PuppetPty where
  pid _ := 4242
  spawn command cwd size environment pty :=
    (outcome pty.spawnFailure, pty.note (.spawn command cwd size environment))
  read pty :=
    match pty.arrivals with
    | [] => (.waiting, pty)
    | first :: rest => (first, { pty with arrivals := rest })
  isAlive pty := (pty.alive, pty)
  write bytes pty := (outcome pty.writeFailure, pty.note (.write bytes))
  resize size pty := (outcome pty.resizeFailure, pty.note (.resize size))
  terminate pty :=
    let pty := pty.note .terminate
    (outcome pty.terminateFailure,
      if pty.endsOutput then { pty with alive := false }.feed .ended else pty)
  close pty := { pty with closed := pty.closed + 1 }

end PuppetPty

end TerminalDock.Pty
