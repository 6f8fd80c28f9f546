import TerminalDock.Loop.Scheduler
import TerminalDock.Panel.Request

/-! A panel at work with its backend. Operations that have to wait, for a process, for the lock of opening,
or for other operations, are tasks that take turns with the calls to the backend. -/

namespace TerminalDock

/-- What a process that was asked for will be used for; the session is the one that was active when it was
asked for. -/
inductive Purpose
  | create
  | addTab (previous : Option Session)
  | addSession (previous : Option Session)
  | openPanel (previous : Option Session)

inductive Stage (β : Type)
  | begin (request : Request β)
  | call (call : BackendCall)
  | callEnding (call : BackendCall) (failure : Option Failure) (records : List LogRecord)
  | spawning (cwd : String) (purpose : Purpose)
  /-- Waiting for the lock that lets one operation at a time open the panel. -/
  | queued
  | sweeping (calls : List Loop.TaskId) (drain : Bool)
  | draining (answer : Answer)
  | gathering (tasks : List Loop.TaskId)

/-- A task: where it is, and the name under which its end is announced, if it is. -/
structure Job (β : Type) where
  stage : Stage β
  label : Option String := none

/-- The lock of opening, with those who wait for it in order. Whoever is let in is still among them until
it goes on. -/
structure OpenLock where
  taken : Bool := false
  waiting : List Loop.TaskId := []
  deriving DecidableEq, Repr

structure Dock (β : Type) where
  panel : Panel
  backend : β
  hook : Transport.FailureHook
  scheduler : Loop.Scheduler (Job β) (Except Failure Answer) := {}
  lock : OpenLock := {}
  /-- The tasks that have to wait for a process, oldest first. -/
  held : List Loop.TaskId := []
  sights : List (Sight Answer) := []

namespace Dock

variable {β : Type}

def see (dock : Dock β) (sights : List (Sight Answer)) : Dock β :=
  { dock with sights := dock.sights ++ sights }

def log (dock : Dock β) (records : List LogRecord) : Dock β :=
  dock.see (records.map fun record => .effect (.logged record))

/-- Takes over what the panel let be seen, and starts the calls that it submitted. -/
def absorb (dock : Dock β) : Dock β :=
  let registry := dock.panel.registry
  { dock with
    sights := dock.sights ++ registry.journal.map .effect
    scheduler := registry.outbox.foldl (fun scheduler call => scheduler.submit ⟨.call call, none⟩) dock.scheduler
    panel := { dock.panel with registry := { registry with journal := [], outbox := [] } } }

def onPanel {α : Type} (dock : Dock β) (act : PanelStep α) : Except Failure α × Dock β :=
  match act dock.panel with
  | .ok answer panel => (.ok answer, { dock with panel := panel }.absorb)
  | .error failure panel => (.error failure, { dock with panel := panel }.absorb)

/-- A change of the panel that cannot fail. -/
def change (dock : Dock β) (f : Panel → Panel) : Dock β :=
  { dock with panel := f dock.panel }.absorb

def conclude (dock : Dock β) (task : Loop.TaskId) (result : Except Failure Answer) : Dock β :=
  let label := (dock.scheduler.running.find? task).bind Job.label
  let dock := { dock with scheduler := dock.scheduler.finish task result }
  match label with
  | none => dock
  | some name => dock.see [.done name result]

/-- Leaves a task at a stage, to go on when it is given a turn. -/
def suspend (dock : Dock β) (task : Loop.TaskId) (stage : Stage β) : Dock β :=
  let label := (dock.scheduler.running.find? task).bind Job.label
  { dock with scheduler := dock.scheduler.suspend task ⟨stage, label⟩ }

/-- Gives the lock back; the first of those who wait gets a turn. -/
def unlock (dock : Dock β) : Dock β :=
  let dock := { dock with lock := { dock.lock with taken := false } }
  match dock.lock.waiting with
  | [] => dock
  | task :: _ => { dock with scheduler := dock.scheduler.enqueue (.resume task) }

def concludeOpen (dock : Dock β) (task : Loop.TaskId) (result : Except Failure Answer) : Dock β :=
  dock.unlock.conclude task result

/-- Waits for tasks, if there are any; otherwise goes on at once. -/
def waitFor (dock : Dock β) (task : Loop.TaskId) (tasks : List Loop.TaskId) (stage : Stage β)
    (goOn : Dock β → Dock β) : Dock β :=
  if tasks.isEmpty then goOn dock
  else
    let dock := dock.suspend task stage
    { dock with scheduler := dock.scheduler.waitFor task tasks }

/-- Waits until no call is pending. -/
def drain (dock : Dock β) (task : Loop.TaskId) (answer : Answer) : Dock β :=
  dock.waitFor task dock.scheduler.pending (.draining answer) (·.conclude task (.ok answer))

/-- The sweep has ended: counts the calls that succeeded. -/
def endSweep (dock : Dock β) (task : Loop.TaskId) (calls : List Loop.TaskId) (drainAfter : Bool) : Dock β :=
  let closed := calls.countP fun call =>
    match dock.scheduler.results.find? call with
    | some (.ok (.flag ok)) => ok
    | _ => false
  let dock := dock.log
    [.info s!"[SESSION] close_all | closed={closed} failed={calls.length - closed}"]
  let answer : Answer := .number calls.length
  if drainAfter then dock.drain task answer else dock.conclude task (.ok answer)

def startAll (dock : Dock β) : List (Stage β) → List Loop.TaskId × Dock β
  | [] => ([], dock)
  | stage :: rest =>
    let (task, scheduler) := dock.scheduler.start ⟨stage, none⟩
    let (tasks, dock) := { dock with scheduler := scheduler }.startAll rest
    (task :: tasks, dock)

/-- The sweep at the end: one call for each session that is left to close its process, once and for all.
The panel stays as it is. -/
def sweep (dock : Dock β) (task : Loop.TaskId) (drainAfter : Bool) : Dock β :=
  let registry := dock.panel.registry
  if registry.swept then
    if drainAfter then dock.drain task (.number 0) else dock.conclude task (.ok (.number 0))
  else
    let dock := dock.change (·.changeRegistry fun registry => { registry with swept := true })
    let (calls, dock) := dock.startAll (registry.sessions.keys.map fun id => .call (.close id))
    dock.waitFor task calls (.sweeping calls drainAfter) fun dock => dock.endSweep task calls drainAfter

def concludeCall (dock : Dock β) (task : Loop.TaskId) (call : BackendCall) (failure : Option Failure)
    (records : List LogRecord) : Dock β :=
  let dock := dock.log records
  let dock := dock.see ((dock.hook.conclude call.name call.session failure).map .noticed)
  dock.conclude task (.ok (.flag failure.isNone))

/-- A session for a process that was asked for, as a tab. -/
def settle (dock : Dock β) (made : Except Failure Session) (previous : Option Session) : Dock β :=
  match made with
  | .error _ => dock
  | .ok session => dock.change (·.settleTab previous session)

/-- Ends an operation that asked for a process, once there is a session for it or none. -/
def followUp (dock : Dock β) (task : Loop.TaskId) (purpose : Purpose) (made : Except Failure Session) : Dock β :=
  match purpose with
  | .create => dock.conclude task (made.map .ofSession)
  | .addTab previous => (dock.settle made previous).conclude task (made.map .ofSession)
  | .addSession previous =>
    let dock := dock.settle made previous
    match made with
    | .error (.spawn _ reason) =>
      (dock.log [.warning s!"[PANEL] new session failed | reason={reason}"]).conclude task (.ok .nothing)
    | made => dock.conclude task (made.map .ofSession)
  | .openPanel previous =>
    let dock := dock.settle made previous
    match made with
    | .error (.spawn _ reason) =>
      (dock.log [.warning s!"[PANEL] open aborted, no session | reason={reason}"]).concludeOpen task
        (.ok (.flag false))
    | .error failure => dock.concludeOpen task (.error failure)
    | .ok _ => (dock.change Panel.revealFirst).concludeOpen task (.ok (.flag true))

variable [SessionBackend β]

/-- Begins a call that nobody waits for. -/
def beginCall (dock : Dock β) (task : Loop.TaskId) (call : BackendCall) : Dock β :=
  let dock := dock.see [.calling call]
  let (progress, records, backend) := SessionBackend.begin call dock.backend
  let dock := { dock with backend := backend }.log records
  match progress with
  | .ended failure => dock.concludeCall task call failure []
  | .later failure records =>
    let dock := dock.suspend task (.callEnding call failure records)
    { dock with scheduler := dock.scheduler.enqueue (.resume task) }

/-- Goes on when a process was asked for and there is an answer. -/
def endSpawn (dock : Dock β) (task : Loop.TaskId) (cwd : String) (purpose : Purpose) : Dock β :=
  let (spawned, records, backend) := SessionBackend.spawn cwd dock.backend
  let dock := { dock with backend := backend }.log records
  let wiring := SessionBackend.wiring dock.backend
  let (made, dock) := dock.onPanel (Panel.onRegistry (Registry.create cwd spawned wiring))
  dock.followUp task purpose made

def beginSpawn (dock : Dock β) (task : Loop.TaskId) (cwd : String) (purpose : Purpose) : Dock β :=
  let dock := dock.see [.spawning cwd]
  let (wait, records, backend) := SessionBackend.ask cwd dock.backend
  let dock := { dock with backend := backend }.log records
  if wait then
    let dock := dock.suspend task (.spawning cwd purpose)
    { dock with held := dock.held ++ [task] }
  else dock.endSpawn task cwd purpose

def openLocked (dock : Dock β) (task : Loop.TaskId) : Dock β :=
  if dock.panel.isOpen then dock.concludeOpen task (.ok (.flag true))
  else if dock.panel.registry.isEmpty then
    dock.beginSpawn task dock.panel.cwd (.openPanel dock.panel.registry.activeSession?)
  else
    let (shown, dock) := dock.onPanel Panel.reveal
    dock.concludeOpen task (shown.map fun _ => .flag true)

/-- Opens the panel once the lock is free and nobody else waits for it. -/
def beginOpen (dock : Dock β) (task : Loop.TaskId) : Dock β :=
  if dock.lock.taken || !dock.lock.waiting.isEmpty then
    let dock := dock.suspend task .queued
    { dock with lock := { dock.lock with waiting := dock.lock.waiting ++ [task] } }
  else { dock with lock := { dock.lock with taken := true } }.openLocked task

/-- Takes the lock after waiting for it. -/
def enter (dock : Dock β) (task : Loop.TaskId) : Dock β :=
  { dock with lock := { taken := true, waiting := dock.lock.waiting.erase task } }.openLocked task

/-- Lets the one who has waited longest for a process go on. -/
def release (dock : Dock β) (task : Loop.TaskId) : Dock β :=
  match dock.held with
  | [] => dock.conclude task (.ok (.flag false))
  | first :: rest =>
    let dock := { dock with held := rest, scheduler := dock.scheduler.enqueue (.resume first) }
    dock.conclude task (.ok (.flag true))

def begin (dock : Dock β) (task : Loop.TaskId) (request : Request β) : Dock β :=
  match request with
  | .openPanel => dock.beginOpen task
  | .toggle =>
    if dock.panel.isOpen then (dock.change Panel.hide).conclude task (.ok (.flag false))
    else dock.beginOpen task
  | .add cwd =>
    dock.beginSpawn task (cwd.getD dock.panel.cwd) (.addSession dock.panel.registry.activeSession?)
  | .addTab cwd => dock.beginSpawn task cwd (.addTab dock.panel.registry.activeSession?)
  | .create cwd => dock.beginSpawn task cwd .create
  | .closeAll => dock.sweep task false
  | .shutdown => dock.sweep task true
  | .drain => dock.drain task .nothing
  | .release => dock.release task
  | .adjust change => { dock with backend := change dock.backend }.conclude task (.ok .nothing)
  | .background name request =>
    let (_, scheduler) := dock.scheduler.start ⟨.begin request, some name⟩
    { dock with scheduler := scheduler }.conclude task (.ok .nothing)
  | .gather requests =>
    let (tasks, dock) := dock.startAll (requests.map .begin)
    dock.waitFor task tasks (.gathering tasks) (·.conclude task (.ok (.all [])))
  | request =>
    match Panel.perform? request with
    | none => dock.conclude task (.ok .nothing)
    | some act =>
      let (answer, dock) := dock.onPanel act
      dock.conclude task answer

def resultsOf (dock : Dock β) (tasks : List Loop.TaskId) : List (Except Failure Answer) :=
  tasks.filterMap dock.scheduler.results.find?

def resume (dock : Dock β) (task : Loop.TaskId) : Dock β :=
  match dock.scheduler.running.find? task with
  | none => dock
  | some { stage, .. } =>
    match stage with
    | .begin request => dock.begin task request
    | .call call => dock.beginCall task call
    | .callEnding call failure records => dock.concludeCall task call failure records
    | .spawning cwd purpose => dock.endSpawn task cwd purpose
    | .queued => dock.enter task
    | .sweeping calls drainAfter => dock.endSweep task calls drainAfter
    | .draining answer => dock.drain task answer
    | .gathering tasks => dock.conclude task (.ok (.all (dock.resultsOf tasks)))

def turn (dock : Dock β) : Dock β :=
  match dock.scheduler.next? with
  | none => dock
  | some (.resume task, scheduler) => { dock with scheduler := scheduler }.resume task
  | some (.leave task, scheduler) => { dock with scheduler := scheduler.leave task }
  | some (.arrive group, scheduler) => { dock with scheduler := scheduler.arrive group }

/-- Serves turns until nobody asks for one. -/
def idle : Nat → Dock β → Dock β
  | 0, dock => dock
  | fuel + 1, dock => if dock.scheduler.ready.isEmpty then dock else idle fuel dock.turn

/-- Serves turns until a task has finished. -/
def serve (task : Loop.TaskId) : Nat → Dock β → Dock β
  | 0, dock => dock
  | fuel + 1, dock =>
    if dock.scheduler.results.has task || dock.scheduler.ready.isEmpty then dock
    else serve task fuel dock.turn

mutual

/-- How many operations an operation consists of. -/
def weight : Request β → Nat
  | .background _ request => weight request + 1
  | .gather requests => weights requests + 1
  | _ => 1

def weights : List (Request β) → Nat
  | [] => 0
  | request :: rest => weight request + weights rest

end

def jobWeight (job : Job β) : Nat :=
  match job.stage with
  | .begin request => weight request
  | _ => 1

/-- A bound for the turns until all is quiet: each operation and each call takes a few, and each that waits
for calls takes one for each of them. -/
def patience (dock : Dock β) : Nat :=
  let work := dock.scheduler.running.values.foldl (· + jobWeight ·) 0 + dock.scheduler.ready.length
    + dock.scheduler.pending.length + dock.panel.registry.size + 4
  16 * (work * work)

def quiet (dock : Dock β) : Dock β :=
  idle dock.patience dock

/-- Does what is asked for at once, as far as it goes, and serves turns until it is done. -/
def await (dock : Dock β) (request : Request β) : Except Failure Answer × Dock β :=
  let (task, scheduler) := dock.scheduler.create ⟨.begin request, none⟩
  let dock := { dock with scheduler := scheduler }
  let dock := serve task dock.patience (dock.resume task)
  ((dock.scheduler.results.find? task).getD (.ok .nothing), dock)

end Dock

end TerminalDock
