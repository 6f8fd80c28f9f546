import TerminalDock.Event.Chunk
import TerminalDock.LogRecord
import TerminalDock.Pty.Device

/-! Sessions that run in pseudo terminals. Each has a reader that posts what the terminal brings, in order,
and at last that the process is gone; the posted events wait for the event loop to deliver them. -/

namespace TerminalDock.Pty

/-- What a reader is about to do: to read, to see whether the process still runs after a read that brought
nothing, or nothing any more. One that never started is idle. -/
inductive ReaderPhase
  | idle
  | reading
  | checking
  | finished
  deriving DecidableEq, Repr

/-- A pseudo terminal that was made for a session, with its reader. -/
structure Slot (δ : Type) where
  session : String
  device : δ
  phase : ReaderPhase := .idle

structure Spawner (δ : Type) where
  /-- The command and the environment of every session, and the size that it starts with. -/
  command : List String
  environment : Environment
  initialSize : Geometry := ⟨24, 80⟩
  /-- The directory of sessions that are given none, if it is known. -/
  home : Except Failure Path
  files : FileSystem := .basic
  counter : Nat := 0
  /-- The sessions that are registered, each with the place of its terminal among all. -/
  sessions : Assoc String Nat := []
  slots : List (Slot δ) := []
  /-- Events that wait to be delivered, oldest first; none are taken once the event loop is gone. -/
  posted : List (String × Event.Payload) := []
  loopClosed : Bool := false
  journal : List LogRecord := []

namespace Spawner

variable {δ : Type}

def log (spawner : Spawner δ) (record : LogRecord) : Spawner δ :=
  { spawner with journal := spawner.journal ++ [record] }

def has (spawner : Spawner δ) (session : String) : Bool :=
  spawner.sessions.has session

def changeSlot (spawner : Spawner δ) (place : Nat) (f : Slot δ → Slot δ) : Spawner δ :=
  { spawner with slots := spawner.slots.modify place f }

/-- Posts an event to the event loop, if it still runs. -/
def post (spawner : Spawner δ) (event : String) (payload : Event.Payload) : Spawner δ :=
  if spawner.loopClosed then spawner
  else { spawner with posted := spawner.posted ++ [(event, payload)] }

variable [PtyDevice δ]

/-- Starts a session in a directory, in a terminal that is given. -/
def spawn (spawner : Spawner δ) (device : δ) (cwd : String) : Except Failure String × Spawner δ :=
  let path := if cwd.isEmpty then spawner.home.map Path.text else .ok cwd
  match path with
  | .error failure => (.error failure, spawner)
  | .ok path =>
    if !spawner.files.isDirectory (Path.ofText path) then
      (.error (.spawn cwd "working directory does not exist"), spawner)
    else
      let number := spawner.counter + 1
      let session := "term-" ++ toString number
      let (outcome, device) :=
        PtyDevice.spawn spawner.command path spawner.initialSize spawner.environment device
      let place := spawner.slots.length
      let add (slot : Slot δ) : Spawner δ :=
        { spawner with counter := number, slots := spawner.slots ++ [slot] }
      match outcome with
      | .ok () =>
        let spawner := add { session := session, device := device, phase := .reading }
        (.ok session, { spawner with sessions := spawner.sessions.put session place }.log
          (.info s!"[TERMINAL] spawned | id={session} cwd={path} pid={PtyDevice.pid device}"))
      | .error failure =>
        match failure with
        | .fault kind _ =>
          if kind.isSystem || kind == .missingModule then
            ((.error (.spawn cwd failure.text)),
              (add { session := session, device := PtyDevice.close device }).log
                (.warning s!"[TERMINAL] spawn failed | id={session} cwd={path} error={failure.text}"))
          else (.error failure, add { session := session, device := device })
        | failure => (.error failure, add { session := session, device := device })

/-- Takes a session out and ends its process; the answer is how that went. A session that is not
registered is not there to be ended. -/
def terminate (spawner : Spawner δ) (session : String) : Option (Except Failure Unit) × Spawner δ :=
  match spawner.sessions.find? session with
  | none => (none, spawner)
  | some place =>
    let spawner := { spawner with sessions := spawner.sessions.remove session }
    match spawner.slots[place]? with
    | none => (none, spawner)
    | some slot =>
      let (outcome, device) := PtyDevice.terminate slot.device
      (some outcome, spawner.changeSlot place fun slot => { slot with device := device })

def close (spawner : Spawner δ) (session : String) : Except Failure Unit × Spawner δ :=
  match spawner.terminate session with
  | (none, spawner) => (.ok (), spawner)
  | (some (.error failure), spawner) => (.error failure, spawner)
  | (some (.ok ()), spawner) => (.ok (), spawner.log (.info s!"[TERMINAL] closed | id={session}"))

def onDevice (spawner : Spawner δ) (call session : String) (act : δ → Except Failure Unit × δ) :
    Except Failure Unit × Spawner δ :=
  match (spawner.sessions.find? session).bind fun place => spawner.slots[place]?.map fun slot => (place, slot) with
  | none => (.error (.transport call session s!"Terminal {session} not found"), spawner)
  | some (place, slot) =>
    let (outcome, device) := act slot.device
    let spawner := spawner.changeSlot place fun slot => { slot with device := device }
    match outcome with
    | .ok () => (.ok (), spawner)
    | .error failure =>
      (.error (if failure.isSystem then .transport call session failure.text else failure), spawner)

def resize (spawner : Spawner δ) (session : String) (size : Geometry) : Except Failure Unit × Spawner δ :=
  match spawner.onDevice "resize" session (PtyDevice.resize size) with
  | (.ok (), spawner) =>
    (.ok (), spawner.log
      (.debug s!"[TERMINAL] resized | id={session} rows={size.rows} cols={size.columns}"))
  | failed => failed

def sendInput (spawner : Spawner δ) (session : String) (bytes : List UInt8) :
    Except Failure Unit × Spawner δ :=
  spawner.onDevice "send_input" session (PtyDevice.write bytes)

/-- Ends the processes of some sessions. A fault of the system is noted; any other failure stops it. -/
def endAll (spawner : Spawner δ) : List String → Except Failure Unit × Spawner δ
  | [] => (.ok (), spawner)
  | session :: rest =>
    match spawner.terminate session with
    | (some (.error failure), spawner) =>
      if failure.isSystem then
        (spawner.log
          (.warning s!"[TERMINAL] shutdown terminate failed | id={session} error={failure.text}")).endAll rest
      else (.error failure, spawner)
    | (_, spawner) => spawner.endAll rest

def shutdown (spawner : Spawner δ) : Except Failure Unit × Spawner δ :=
  spawner.endAll spawner.sessions.keys

/-- The reader of a terminal gives up: the terminal is closed and the end is posted. -/
def endReader (spawner : Spawner δ) (place : Nat) (session : String) : Spawner δ :=
  let spawner := spawner.changeSlot place fun slot =>
    { slot with device := PtyDevice.close slot.device, phase := .finished }
  (spawner.post (Event.exitOf session) .nothing).log (.debug s!"[TERMINAL] reader done | id={session}")

/-- One step of a reader; none if it waits or has nothing to do. -/
def readerStep? (spawner : Spawner δ) (place : Nat) : Option (Spawner δ) :=
  match spawner.slots[place]? with
  | none => none
  | some slot =>
    match slot.phase with
    | .idle | .finished => none
    | .reading =>
      let (outcome, device) := PtyDevice.read slot.device
      let go (phase : ReaderPhase) : Spawner δ :=
        spawner.changeSlot place fun slot => { slot with device := device, phase := phase }
      match outcome with
      | .waiting => none
      | .data [] => some (go .checking)
      | .data bytes => some ((go .reading).post (Event.outputOf slot.session) (Event.encodeChunk bytes))
      | .ended => some ((go .reading).endReader place slot.session)
      | .failed failure =>
        some (((go .reading).log
          (.warning s!"[TERMINAL] reader failed | id={slot.session} error={failure.text}")).endReader
            place slot.session)
    | .checking =>
      let (alive, device) := PtyDevice.isAlive slot.device
      let spawner := spawner.changeSlot place fun slot => { slot with device := device, phase := .reading }
      some (if alive then spawner else spawner.endReader place slot.session)

def runReader (place : Nat) : Nat → Spawner δ → Spawner δ
  | 0, spawner => spawner
  | steps + 1, spawner =>
    match spawner.readerStep? place with
    | none => spawner
    | some spawner => runReader place steps spawner

def runReaders (spawner : Spawner δ) (steps : Nat) : Spawner δ :=
  (List.range spawner.slots.length).foldl (fun spawner place => runReader place steps spawner) spawner

def takePosted (spawner : Spawner δ) : List (String × Event.Payload) × Spawner δ :=
  (spawner.posted, { spawner with posted := [] })

end Spawner

end TerminalDock.Pty
