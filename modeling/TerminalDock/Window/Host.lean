import TerminalDock.Panel.Backend
import TerminalDock.Pty.Spawner

/-! Pseudo terminals as the backend of the panel. -/

namespace TerminalDock

/-- A spawner, the terminal that the next session gets, and what fails when a session is wired up to its terminal. -/
structure Host (δ : Type) where
  spawner : Pty.Spawner δ
  fresh : δ
  faults : String → WiringFaults := fun _ => {}

namespace Host

variable {δ : Type}

def takeJournal (host : Host δ) : List LogRecord × Host δ :=
  (host.spawner.journal, { host with spawner := { host.spawner with journal := [] } })

variable [Pty.PtyDevice δ]

def spawn (cwd : String) (host : Host δ) : Except Failure String × List LogRecord × Host δ :=
  let (answer, spawner) := host.spawner.spawn host.fresh cwd
  (answer, { host with spawner := spawner }.takeJournal)

/-- Ends a session. Its process is ended beside everything else, so that the call ends later. -/
def beginClose (session : String) (host : Host δ) : Progress × List LogRecord × Host δ :=
  let (outcome, spawner) := host.spawner.terminate session
  let host := { host with spawner := spawner }
  match outcome with
  | none => (.ended none, [], host)
  | some (.ok ()) => (.later none [.info s!"[TERMINAL] closed | id={session}"], [], host)
  | some (.error failure) => (.later (some failure) [], [], host)

def finish (host : Host δ) (outcome : Except Failure Unit × Pty.Spawner δ) :
    Progress × List LogRecord × Host δ :=
  let failure :=
    match outcome.1 with
    | .ok () => none
    | .error failure => some failure
  (.ended failure, { host with spawner := outcome.2 }.takeJournal)

def begin (call : BackendCall) (host : Host δ) : Progress × List LogRecord × Host δ :=
  match call with
  | .close session => host.beginClose session
  | .resize session size => host.finish (host.spawner.resize session size)
  | .sendInput session bytes => host.finish (host.spawner.sendInput session bytes)

instance : SessionBackend (Host δ) where
  ask _ host := (false, [], host)
  spawn := spawn
  begin := begin
  wiring := faults

/-- Lets the readers go on, each for so many steps at most, and takes out the events that they posted. -/
def collect (host : Host δ) (steps : Nat) : List (String × Event.Payload) × List LogRecord × Host δ :=
  let (events, spawner) := (host.spawner.runReaders steps).takePosted
  (events, { host with spawner := spawner }.takeJournal)

end Host

end TerminalDock
