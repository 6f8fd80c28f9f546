import TerminalDock.Event.Bus
import TerminalDock.Pty.Spawner

/-! A spawner over pseudo terminals that answer as they are told, with named subscribers that note what
they hear. After every request all readers go on until they wait, and what they posted is delivered. -/

namespace TerminalDock.Pty

inductive SpawnerRequest
  | spawn (cwd : String) (failure : Option Failure)
  /-- More arrives at the terminal of a session, which need not be registered any more. -/
  | arrive (session : String) (outcome : ReadOutcome)
  | adjust (session : String) (change : PuppetPty → PuppetPty)
  | resize (session : String) (size : Geometry)
  | sendInput (session : String) (bytes : List UInt8)
  | close (session : String)
  | contains (session : String)
  | shutdown
  | subscribe (event name : String)
  | unsubscribe (name : String)

inductive SpawnerAnswer
  | nothing
  | flag (value : Bool)
  | session (id : String)

structure SpawnerBench where
  spawner : Spawner PuppetPty
  bus : Event.Bus Nat := {}
  /-- The subscriptions made so far: who, and to which event. -/
  subscriptions : List (String × String) := []
  delivered : List (String × Event.Payload) := []

namespace SpawnerBench

/-- A bound for the steps of one reader. -/
def patience (bench : SpawnerBench) : Nat :=
  bench.spawner.slots.foldl (fun steps slot => steps + 2 * slot.device.arrivals.length + 4) 0

def deliver (bench : SpawnerBench) (event : String) (payload : Event.Payload) : SpawnerBench :=
  let heard := (bench.bus.handlers event).filterMap fun subscription =>
    bench.subscriptions[subscription]?.map fun (name, _) => (name, payload)
  { bench with delivered := bench.delivered ++ heard }

/-- Lets all readers go on, and delivers what they posted. -/
def settle (bench : SpawnerBench) : SpawnerBench :=
  let (events, spawner) := (bench.spawner.runReaders bench.patience).takePosted
  events.foldl (fun bench (event, payload) => bench.deliver event payload) { bench with spawner := spawner }

def changeDevice (bench : SpawnerBench) (session : String) (f : PuppetPty → PuppetPty) : SpawnerBench :=
  let slots := bench.spawner.slots.map fun slot =>
    if slot.session == session && slot.phase != .idle then { slot with device := f slot.device } else slot
  { bench with spawner := { bench.spawner with slots := slots } }

def run (bench : SpawnerBench) (outcome : Except Failure Unit × Spawner PuppetPty) :
    Except Failure SpawnerAnswer × SpawnerBench :=
  (outcome.1.map fun _ => .nothing, { bench with spawner := outcome.2 })

def act (bench : SpawnerBench) : SpawnerRequest → Except Failure SpawnerAnswer × SpawnerBench
  | .spawn cwd failure =>
    let (answer, spawner) := bench.spawner.spawn { spawnFailure := failure } cwd
    (answer.map .session, { bench with spawner := spawner })
  | .arrive session outcome => (.ok .nothing, bench.changeDevice session (·.feed outcome))
  | .adjust session change => (.ok .nothing, bench.changeDevice session change)
  | .resize session size => bench.run (bench.spawner.resize session size)
  | .sendInput session bytes => bench.run (bench.spawner.sendInput session bytes)
  | .close session => bench.run (bench.spawner.close session)
  | .contains session => (.ok (.flag (bench.spawner.has session)), bench)
  | .shutdown => bench.run bench.spawner.shutdown
  | .subscribe event name =>
    (.ok .nothing, { bench with
      bus := bench.bus.listen event bench.subscriptions.length
      subscriptions := bench.subscriptions ++ [(name, event)] })
  | .unsubscribe name =>
    let newest := bench.subscriptions.zipIdx.reverse.find? fun ((who, _), _) => who == name
    match newest with
    | none => (.ok .nothing, bench)
    | some ((_, event), subscription) =>
      (.ok .nothing, { bench with bus := bench.bus.unlisten event subscription })

/-- Does what is asked for and lets everything settle. -/
def perform (bench : SpawnerBench) (request : SpawnerRequest) : Except Failure SpawnerAnswer × SpawnerBench :=
  let (answer, bench) := bench.act request
  (answer, bench.settle)

/-- Forgets what was noted so far, and keeps how often terminals were closed. -/
def clear (bench : SpawnerBench) : SpawnerBench :=
  let slots := bench.spawner.slots.map fun slot => { slot with device := { slot.device with calls := [] } }
  { bench with spawner := { bench.spawner with slots := slots, journal := [] }, delivered := [] }

/-- The event loop is gone while readers still run; then output and the end arrive at every terminal. -/
def outlive (bench : SpawnerBench) (late : List UInt8) : SpawnerBench :=
  let slots := bench.spawner.slots.map fun slot =>
    if slot.phase == .idle then slot
    else { slot with device := (slot.device.feed (.data late)).feed .ended }
  { bench with spawner := { bench.spawner with slots := slots, loopClosed := true } }.settle

end SpawnerBench

end TerminalDock.Pty
