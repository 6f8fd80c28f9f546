import TerminalDock.Decimal.Quantity
import TerminalDock.Failure

/-! Work that waits for the next frame. A view that was just put into the layout has no size yet, so the
first fit of a session is put off by the time of a frame. -/

namespace TerminalDock

/-- A clock that runs work after a delay in seconds, in the order in which it was asked for. -/
structure FrameClock (α : Type) where
  delay : Decimal.Quantity := .real (1.0 / 60.0)
  /-- Whether there is an event loop to wait on. -/
  running : Bool := true
  queue : List (Decimal.Quantity × α) := []

namespace FrameClock

variable {α : Type}

def request (clock : FrameClock α) (work : α) : Except Failure (FrameClock α) :=
  if clock.running then .ok { clock with queue := clock.queue ++ [(clock.delay, work)] }
  else .error (.fault .runtime "no running event loop")

def fire (clock : FrameClock α) : List α × FrameClock α :=
  (clock.queue.map Prod.snd, { clock with queue := [] })

end FrameClock

end TerminalDock
