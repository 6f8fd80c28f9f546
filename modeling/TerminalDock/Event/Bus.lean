import TerminalDock.Assoc

/-! A channel of named events. Each event has a list of handlers in the order of their registration; a
handler that is registered twice is in it twice. Events without handlers are not kept. -/

namespace TerminalDock.Event

structure Bus (η : Type) where
  table : Assoc String (List η) := []
  deriving Repr

namespace Bus

variable {η : Type}

def handlers (bus : Bus η) (event : String) : List η :=
  (bus.table.find? event).getD []

def count (bus : Bus η) (event : String) : Nat :=
  (bus.handlers event).length

/-- Registers a handler behind all others. -/
def listen (bus : Bus η) (event : String) (handler : η) : Bus η :=
  { table := bus.table.put event (bus.handlers event ++ [handler]) }

/-- Withdraws the oldest registration of a handler, if there is one. -/
def unlisten [DecidableEq η] (bus : Bus η) (event : String) (handler : η) : Bus η :=
  match (bus.handlers event).erase handler with
  | [] => { table := bus.table.remove event }
  | rest => { table := bus.table.put event rest }

end Bus

end TerminalDock.Event
