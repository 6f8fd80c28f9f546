import TerminalDock.Event.Bus
import TerminalDock.Event.Chunk
import TerminalDock.LogRecord
import TerminalDock.Surface.Basic
import TerminalDock.View.Headless

/-! Sessions of the panel, the calls that the panel makes to their backend, and what it lets its
surroundings see. -/

namespace TerminalDock

/-- A terminal session. Its serial number tells it from every other session there ever was, also from one
whose identifier the backend used again. -/
structure Session where
  serial : Nat
  id : String
  name : String
  /-- The place in the order of creation, from one. -/
  number : Nat
  surface : Surface
  view : View
  exited : Bool := false
  /-- The size that the backend was told last. -/
  geometry : Option Geometry := none

namespace Session

/-- The number under which a session listens to its own surface. -/
def inputListener : Nat := 0

def defaultName (number : Nat) : String :=
  "Terminal " ++ toString number

def build (serial : Nat) (id : String) (number : Nat) (surface : Surface) (view : View) : Session where
  serial := serial
  id := id
  name := defaultName number
  number := number
  surface := surface
  view := view

/-- A session that is gone: nothing reaches its surface any more, and its view is out of the layout. -/
def retire (session : Session) : Session :=
  { session with surface := session.surface.dispose, view := session.view.detach }

end Session

/-- Who listens to the events of a session, by the session's serial number. -/
inductive Subscriber
  | output (serial : Nat)
  | exit (serial : Nat)
  deriving DecidableEq, Repr

/-- A call to the backend that nobody waits for. -/
inductive BackendCall
  | close (session : String)
  | resize (session : String) (size : Geometry)
  | sendInput (session : String) (bytes : List UInt8)
  deriving DecidableEq, Repr

namespace BackendCall

def name : BackendCall → String
  | .close _ => "close"
  | .resize .. => "resize"
  | .sendInput .. => "send_input"

def session : BackendCall → String
  | .close session => session
  | .resize session _ => session
  | .sendInput session _ => session

end BackendCall

/-- What the tab strip draws for one session. -/
structure Tab where
  session : String
  label : String
  active : Bool
  editing : Bool
  exited : Bool
  deriving DecidableEq, Repr

/-- What the surroundings of the panel get to see, in the order in which it happens. -/
inductive Effect
  | logged (record : LogRecord)
  | tabsDrawn (tabs : List Tab)
  | panelShown (visible : Bool) (height : Int)
  | heightChanged (height : Int)
  | heightKept (height : Int)
  | viewAttached (serial : Nat)
  | viewShown (serial : Nat) (visible : Bool)
  | viewDetached (serial : Nat)
  deriving DecidableEq, Repr

end TerminalDock
