import TerminalDock.Panel.Session

/-! The live sessions in the order of their creation, and which of them is active. Sessions are made and
ended here only. A session that cannot be wired up completely leaves nothing behind but a call that closes
its process. -/

namespace TerminalDock

structure Registry where
  /-- How surfaces are made, and the size of new views. -/
  factory : SurfaceFactory
  viewWidth : Int := 800
  viewHeight : Int := 300
  sessions : Assoc String Session := []
  active : Option String := none
  /-- The number of the newest session there ever was; it never goes back. -/
  counter : Nat := 0
  /-- The serial number of the next session that is built. -/
  serial : Nat := 0
  bus : Event.Bus Subscriber := {}
  /-- Sessions that are gone, newest first; whoever still holds one may ask it. -/
  retired : List Session := []
  /-- Whether the sweep at the end was made. -/
  swept : Bool := false
  /-- The calls to the backend that were submitted, oldest first. -/
  outbox : List BackendCall := []
  /-- What happened, oldest first. -/
  journal : List Effect := []

/-- A step of the registry; a failure leaves the changes that were made before it. -/
abbrev RegistryStep := EStateM Failure Registry

/-- The steps of wiring up a session that fail, if any do. -/
structure WiringFaults where
  surface : Option Failure := none
  view : Option Failure := none
  output : Option Failure := none
  exit : Option Failure := none
  input : Option Failure := none
  attach : Option Failure := none

/-- The steps of taking a session apart that fail, if any do. -/
structure RemovalFaults where
  output : Option Failure := none
  exit : Option Failure := none
  input : Option Failure := none
  detach : Option Failure := none

/-- What became of a removal. -/
structure Removal where
  removed : Bool
  nowEmpty : Bool
  wasActive : Bool := false
  deriving DecidableEq, Repr

namespace Registry

def note (registry : Registry) (effect : Effect) : Registry :=
  { registry with journal := registry.journal ++ [effect] }

def log (registry : Registry) (record : LogRecord) : Registry :=
  registry.note (.logged record)

def submit (registry : Registry) (call : BackendCall) : Registry :=
  { registry with outbox := registry.outbox ++ [call] }

def size (registry : Registry) : Nat :=
  registry.sessions.length

def isEmpty (registry : Registry) : Bool :=
  registry.sessions.isEmpty

def has (registry : Registry) (id : String) : Bool :=
  registry.sessions.has id

def session? (registry : Registry) (id : String) : Option Session :=
  registry.sessions.find? id

/-- Puts a session where its number belongs among sessions in the order of their numbers. -/
def insertByNumber (session : Session) : List Session → List Session
  | [] => [session]
  | first :: rest =>
    if session.number < first.number then session :: first :: rest
    else first :: insertByNumber session rest

/-- The live sessions in the order of their numbers. -/
def ordered (registry : Registry) : List Session :=
  registry.sessions.values.foldl (fun sorted session => insertByNumber session sorted) []

def activeSession? (registry : Registry) : Option Session :=
  registry.active.bind registry.session?

def mostRecent? (registry : Registry) : Option Session :=
  registry.sessions.values.foldl (fun best session =>
    match best with
    | none => some session
    | some newest => if newest.number < session.number then some session else best) none

/-- A session by its serial number, live or gone. -/
def bySerial? (registry : Registry) (serial : Nat) : Option Session :=
  (registry.sessions.values ++ registry.retired).find? (·.serial == serial)

def change (registry : Registry) (serial : Nat) (f : Session → Session) : Registry :=
  let changed (session : Session) : Session := if session.serial == serial then f session else session
  { registry with
    sessions := registry.sessions.map fun (id, session) => (id, changed session)
    retired := registry.retired.map changed }

def onSurface {α : Type} (session : Session) (act : SurfaceStep α) : RegistryStep α := fun registry =>
  match act session.surface with
  | .ok answer surface => .ok answer (registry.change session.serial fun old => { old with surface := surface })
  | .error failure surface =>
    .error failure (registry.change session.serial fun old => { old with surface := surface })

/-- A change of a surface that cannot fail. -/
def changeSurface (registry : Registry) (session : Session) (f : Surface → Surface) : Registry :=
  registry.change session.serial fun old => { old with surface := f old.surface }

def showView (registry : Registry) (session : Session) (visible : Bool) : Registry :=
  let view := session.view.setVisible visible
  if view.visible == session.view.visible then registry
  else
    (registry.change session.serial fun old => { old with view := view }).note
      (.viewShown session.serial view.visible)

def setActive (id : String) : RegistryStep Session := do
  match (← get).session? id with
  | none => throw (.fault .key id)
  | some session =>
    modify fun registry => { registry with active := some id }
    return session

/-- Gives a session another name, which must not be blank. -/
def rename (id name : String) : RegistryStep Session := do
  match (← get).session? id with
  | none => throw (.fault .key id)
  | some session =>
    let name := Text.stripped name
    if name.isEmpty then throw (.fault .value "display name must not be blank")
    let renamed := { session with name := name }
    modify fun registry => (registry.change session.serial fun old => { old with name := name }).log
      (.info s!"[SESSION] renamed | id={id} name={name}")
    return renamed

/-- Notes that the process of a session is gone; the answer is whether that is news. -/
def markExited (registry : Registry) (id : String) : Bool × Registry :=
  match registry.session? id with
  | none => (false, registry)
  | some session =>
    if session.exited then (false, registry)
    else (true, registry.change session.serial fun old => { old with exited := true })

/-- Remembers the size that the backend was told. -/
def recordGeometry (registry : Registry) (id : String) (size : Geometry) : Registry :=
  match registry.session? id with
  | none => registry
  | some session => registry.change session.serial fun old => { old with geometry := some size }

/-- What is shown in a terminal when its process has ended. -/
def exitMarker : List UInt8 :=
  Text.Utf8.ofString "\r\n\x1b[90m[Process exited]\x1b[0m\r\n"

def subscribe (registry : Registry) (event : String) (subscriber : Subscriber) : Registry :=
  { registry with bus := registry.bus.listen event subscriber }

def unsubscribe (registry : Registry) (event : String) (subscriber : Subscriber) : Registry :=
  { registry with bus := registry.bus.unlisten event subscriber }

/-- Writes output to the surface of a session; what is no chunk is dropped. -/
def deliver (session : Session) (payload : Event.Payload) : RegistryStep Unit :=
  match Event.decodeChunk payload with
  | .error error =>
    modify fun registry => registry.log
      (.warning s!"[SESSION] dropped output chunk | id={session.id} error={error.message}")
  | .ok bytes => onSurface session (Surface.write bytes)

/-- Notes the end of a session's process and marks it in the terminal, the first time it is told of. The
answer is whether it was the first time. -/
def noteExit (session : Session) : RegistryStep Bool := do
  let (first, registry) := (← get).markExited session.id
  set registry
  if first then
    onSurface session (Surface.write exitMarker)
    modify fun registry => registry.log (.info s!"[SESSION] process exited | id={session.id}")
  return first

/-- Tells a subscriber of an event; the answer is whether the tab strip has to be drawn again. -/
def tell (subscriber : Subscriber) (payload : Event.Payload) : RegistryStep Bool := do
  match subscriber with
  | .output serial =>
    match (← get).bySerial? serial with
    | none => return false
    | some session =>
      deliver session payload
      return false
  | .exit serial =>
    match (← get).bySerial? serial with
    | none => return false
    | some session => noteExit session

/-- Passes on what was typed into the surface of a session. -/
def typed (session : Session) (bytes : List UInt8) (registry : Registry) : Registry :=
  session.surface.inputListeners.foldl (fun registry listener =>
    if listener == Session.inputListener then registry.submit (.sendInput session.id bytes)
    else registry) registry

/-- Gives up a session whose process runs already: what was built of it is taken apart, and the process is
closed, for nobody else ever would. -/
def giveUp (cwd id : String) (failure : Failure) (built : Option Session) : RegistryStep Session := do
  modify fun registry =>
    let retired := (built.map Session.retire).toList ++ registry.retired
    { registry with retired := retired }.submit (.close id)
  throw (.spawn cwd failure.reason)

def noteGivenUp (id : String) (failure : Failure) : RegistryStep Unit :=
  modify fun registry => registry.log
    (.warning s!"[SESSION] create failed after spawn | id={id} error={failure.text}")

def buildSession (id : String) : RegistryStep Session := do
  let registry ← get
  set { registry with serial := registry.serial + 1 }
  let view : View := { width := registry.viewWidth, height := registry.viewHeight }
  return Session.build registry.serial id (registry.counter + 1) registry.factory.make view

/-- Wires up a session for a process that runs: its surface and view, the subscriptions to its output and
to its end, and the place in the layout. -/
def wire (cwd id : String) (faults : WiringFaults) : RegistryStep Session := do
  let abandon (failure : Failure) (built : Option Session) : RegistryStep Session := do
    noteGivenUp id failure
    giveUp cwd id failure built
  if let some failure := faults.surface then return ← abandon failure none
  let session ← buildSession id
  if let some failure := faults.view then return ← abandon failure (some session)
  if let some failure := faults.output then return ← abandon failure (some session)
  modify (·.subscribe (Event.outputOf id) (.output session.serial))
  if let some failure := faults.exit then return ← abandon failure (some session)
  modify (·.subscribe (Event.exitOf id) (.exit session.serial))
  let undo (failure : Failure) (session : Session) : RegistryStep Session := do
    noteGivenUp id failure
    modify (·.unsubscribe (Event.outputOf id) (.output session.serial))
    modify (·.unsubscribe (Event.exitOf id) (.exit session.serial))
    giveUp cwd id failure (some session)
  if let some failure := faults.input then return ← undo failure session
  let session := { session with surface := session.surface.listen Session.inputListener }
  if let some failure := faults.attach then return ← undo failure session
  modify (·.note (.viewAttached session.serial))
  return { session with view := session.view.attach }

/-- Registers a session that was wired up, and makes it the active one. -/
def register (cwd : String) (session : Session) (registry : Registry) : Registry :=
  { registry with
    counter := session.number
    sessions := registry.sessions.put session.id session
    active := some session.id }.log
      (.info s!"[SESSION] created | id={session.id} name={session.name} cwd={Text.quoted cwd}")

/-- Makes a session of a process that was asked for, or tells why there is none. -/
def create (cwd : String) (spawned : Except Failure String) (faults : String → WiringFaults) :
    RegistryStep Session := do
  match spawned with
  | .error (.spawn place reason) =>
    modify fun registry => registry.log
      (.warning s!"[SESSION] create failed | cwd={Text.quoted cwd} reason={reason}")
    throw (.spawn place reason)
  | .error failure =>
    modify fun registry => registry.log
      (.warning s!"[SESSION] create failed | cwd={Text.quoted cwd} error={failure.text}")
    throw (.spawn cwd failure.text)
  | .ok id =>
    if (← get).has id then throw (.spawn cwd s!"backend reused live session id {id}")
    let session ← wire cwd id (faults id)
    modify (register cwd session)
    return session

def failOn (failure : Option Failure) : RegistryStep Unit :=
  match failure with
  | none => pure ()
  | some failure => throw failure

/-- Ends a session. It hears nothing any more before its surface goes, so that output which comes late
never reaches a surface that is gone. -/
def remove (id : String) (faults : RemovalFaults) : RegistryStep Removal := do
  match (← get).session? id with
  | none => return { removed := false, nowEmpty := (← get).isEmpty }
  | some session =>
    failOn faults.output
    modify (·.unsubscribe (Event.outputOf id) (.output session.serial))
    failOn faults.exit
    modify (·.unsubscribe (Event.exitOf id) (.exit session.serial))
    failOn faults.input
    modify (·.changeSurface session fun surface => (surface.unlisten Session.inputListener).dispose)
    failOn faults.detach
    let wasActive := (← get).active == some id
    modify fun registry =>
      let gone := ((registry.bySerial? session.serial).getD session).retire
      { registry with
        sessions := registry.sessions.remove id
        retired := gone :: registry.retired
        active := if wasActive then none else registry.active
      }.note (.viewDetached session.serial)
    modify fun registry => (registry.submit (.close id)).log
      (.info s!"[SESSION] removed | id={id} remaining={registry.size}")
    return { removed := true, nowEmpty := (← get).isEmpty, wasActive := wasActive }

end Registry

end TerminalDock
