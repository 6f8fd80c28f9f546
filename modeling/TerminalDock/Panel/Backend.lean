import TerminalDock.Panel.Session
import TerminalDock.Panel.Registry
import TerminalDock.Transport.Report

/-! What the panel needs from whoever runs the sessions, and a backend whose answers are set beforehand. -/

namespace TerminalDock

/-- What can be seen of a panel at work with its backend, in the order in which it happens; `α` is what
operations answer. -/
inductive Sight (α : Type)
  | effect (effect : Effect)
  | spawning (cwd : String)
  | calling (call : BackendCall)
  | noticed (notice : Transport.Notice)
  /-- An operation that ran beside the others has ended. -/
  | done (operation : String) (result : Except Failure α)

/-- How far a call got at once: it has ended, or it ends in a turn to come. -/
inductive Progress
  | ended (failure : Option Failure)
  | later (failure : Option Failure) (records : List LogRecord)

/-- Whoever runs the sessions. -/
class SessionBackend (β : Type) where
  /-- Asks for a process; the answer is what the log gets, and whether the asker has to wait. -/
  ask : String → β → Bool × List LogRecord × β
  /-- Ends a process that was asked for: its identifier, or why there is none. -/
  spawn : String → β → Except Failure String × List LogRecord × β
  /-- Begins a call. -/
  begin : BackendCall → β → Progress × List LogRecord × β
  /-- What fails in wiring up a session. -/
  wiring : β → String → WiringFaults

/-- A backend that answers as it is told. -/
structure PuppetBackend where
  /-- Whether those who ask for a process have to wait. -/
  hold : Bool := false
  /-- Why the next processes do not start. -/
  spawnFailure : Option Failure := none
  /-- The identifier of the next process, used once. -/
  nextId : Option String := none
  /-- How many processes have got an identifier of its own making. -/
  count : Nat := 0
  /-- Why calls fail, by the name of the call alone or with the session. -/
  failures : Assoc String Failure := []
  buildFailure : Option Failure := none
  attachFailure : Option Failure := none

namespace PuppetBackend

def failureOf? (backend : PuppetBackend) (call session : String) : Option Failure :=
  match backend.failures.find? (call ++ ":" ++ session) with
  | some failure => some failure
  | none => backend.failures.find? call

def answerSpawn (backend : PuppetBackend) : Except Failure String × PuppetBackend :=
  match backend.spawnFailure, backend.nextId with
  | some failure, _ => (.error failure, backend)
  | none, some id => (.ok id, { backend with nextId := none })
  | none, none =>
    (.ok ("term-" ++ toString (backend.count + 1)), { backend with count := backend.count + 1 })

instance : SessionBackend PuppetBackend where
  ask _ backend := (backend.hold, [], backend)
  spawn _ backend :=
    let (answer, backend) := backend.answerSpawn
    (answer, [], backend)
  begin call backend := (.ended (backend.failureOf? call.name call.session), [], backend)
  wiring backend id :=
    { view := backend.buildFailure
      output := backend.failureOf? "subscribe_output" id
      exit := backend.failureOf? "subscribe_exit" id
      attach := backend.attachFailure }

end PuppetBackend

end TerminalDock
