import TerminalDock.Decimal.Quantity
import TerminalDock.Pty.Device

/-! A pseudo terminal on a system with forks and file descriptors. The system answers as it is told; every
call that is made of it is kept, so that one can see what was opened, closed, killed and waited for. -/

namespace TerminalDock.Pty

inductive SystemCall
  | setSize (fd : Int) (size : Geometry)
  | takeTerminal (fd : Int)
  | getFlags (fd : Int)
  | setFlags (fd : Int) (flags : Nat)
  | close (fd : Int)
  | newSession
  | duplicate (source target : Int)
  | changeDirectory (path : String)
  | execute (file : String) (arguments : List String) (environment : Option Environment)
  | exit (code : Int)
  | read (fd : Int) (size : Int)
  | write (fd : Int) (bytes : List UInt8)
  | wait (pid : Int) (flags : Nat)
  | select (reading writing : List Int) (timeout : Decimal.Quantity)
  | killTree (pid : Int)

/-- Answers that are set beforehand: a value, or a fault of some kind. -/
abbrev Script (α : Type) := List (Except FaultKind α)

/-- A system that answers as it is told, and the calls that were made of it, oldest first. Where nothing
is set the answer is the harmless one. -/
structure UnixSystem where
  files : FileSystem := .basic
  /-- The two descriptors of the next terminal, and the process that a fork gives. -/
  descriptors : Int × Int := (10, 11)
  fork : Int := 99
  openings : Script Unit := []
  controls : Script Unit := []
  forks : Script Unit := []
  flagReads : Script Unit := []
  flagWrites : Script Unit := []
  closes : Script Unit := []
  selects : Script Bool := []
  reads : Script (List UInt8) := []
  writes : Script Nat := []
  waits : Script (Int × Int) := []
  calls : List SystemCall := []
  /-- The descriptors that were given out and the processes that were made, oldest first. -/
  opened : List Int := []
  children : List Int := []

/-- A pseudo terminal: its two descriptors, the process, and how that ended if this is known. -/
structure UnixPty where
  system : UnixSystem := {}
  master : Option Int := none
  slave : Option Int := none
  pid : Option Int := none
  exitStatus : Option Int := none

/-- Why a step does not come to its end: it fails, or the process that it runs in ends. -/
inductive Stop
  | failed (failure : Failure)
  | exited (code : Int)

abbrev UnixStep := EStateM Stop UnixPty

namespace UnixPty

def fail {α : Type} (kind : FaultKind) (message : String) : UnixStep α :=
  throw (.failed (.fault kind message))

def call (call : SystemCall) : UnixStep Unit :=
  modify fun pty => { pty with system := { pty.system with calls := pty.system.calls ++ [call] } }

def answer {α : Type} : Except FaultKind α → UnixStep α
  | .ok value => pure value
  | .error kind => fail kind "scripted"

def next {α : Type} (script : Script α) (default : α) (keep : Script α → UnixSystem → UnixSystem) : UnixStep α :=
  match script with
  | [] => pure default
  | first :: rest => do
    modify fun pty => { pty with system := keep rest pty.system }
    answer first

def packable (size : Geometry) : Bool :=
  0 ≤ size.rows && size.rows ≤ 65535 && 0 ≤ size.columns && size.columns ≤ 65535

/-- A size as the system takes it: four numbers of two bytes each, the last two of which count pixels. -/
def packed (size : Geometry) : List UInt8 :=
  [size.rows, size.columns, 0, 0].flatMap fun number =>
    [UInt8.ofNat (number.toNat % 256), UInt8.ofNat (number.toNat / 256)]

def pack (size : Geometry) : UnixStep Unit :=
  if packable size then pure () else fail .packing "ushort format requires 0 <= number <= 65535"

def nextControl : UnixStep Unit := do
  next (← get).system.controls () fun rest system => { system with controls := rest }

def setSize (fd : Int) (size : Geometry) : UnixStep Unit := do
  pack size
  call (.setSize fd size)
  nextControl

def openTerminal : UnixStep (Int × Int) := do
  next (← get).system.openings () fun rest system => { system with openings := rest }
  let descriptors := (← get).system.descriptors
  modify fun pty =>
    { pty with system := { pty.system with opened := pty.system.opened ++ [descriptors.1, descriptors.2] } }
  return descriptors

/-- Makes a process. It goes on at the same place, and is told a number that no process has. -/
def forkProcess : UnixStep Int := do
  next (← get).system.forks () fun rest system => { system with forks := rest }
  let pid := (← get).system.fork
  modify fun pty => { pty with system := { pty.system with children := pty.system.children ++ [pid] } }
  return pid

def closeFd (fd : Int) : UnixStep Unit := do
  call (.close fd)
  next (← get).system.closes () fun rest system => { system with closes := rest }

def select (reading writing : List Int) (timeout : Decimal.Quantity) : UnixStep Bool := do
  call (.select reading writing timeout)
  next (← get).system.selects true fun rest system => { system with selects := rest }

def readFd (fd size : Int) : UnixStep (List UInt8) := do
  call (.read fd size)
  next (← get).system.reads [] fun rest system => { system with reads := rest }

def writeFd (fd : Int) (bytes : List UInt8) : UnixStep Nat := do
  call (.write fd bytes)
  next (← get).system.writes bytes.length fun rest system => { system with writes := rest }

/-- Waits for a process; the answer is which one has ended, if one has, and its status. -/
def wait (pid : Int) (flags : Nat) : UnixStep (Int × Int) := do
  call (.wait pid flags)
  next (← get).system.waits (0, 0) fun rest system => { system with waits := rest }

/-- Goes on after a fault of some kind; other faults stay. -/
def rescue {α : Type} (act : UnixStep α) (handles : FaultKind → Bool) (handler : FaultKind → UnixStep α) :
    UnixStep α := fun pty =>
  match act pty with
  | .error (.failed (.fault kind message)) pty =>
    if handles kind then handler kind pty else .error (.failed (.fault kind message)) pty
  | result => result

/-- What the new process does: it takes the terminal for its own and runs the command. -/
def childSteps (command : List String) (cwd : String) (environment : Option Environment)
    (master slave : Int) : UnixStep Unit := do
  closeFd master
  call .newSession
  call (.takeTerminal slave)
  nextControl
  call (.duplicate slave 0)
  call (.duplicate slave 1)
  call (.duplicate slave 2)
  if 2 < slave then closeFd slave
  call (.changeDirectory cwd)
  match command with
  | [] => fail .index "list index out of range"
  | program :: _ =>
    call (.execute program command environment)
    fail .missingFile ""

/-- The new process never comes back: whatever fails in it, it ends. -/
def child (command : List String) (cwd : String) (environment : Option Environment)
    (master slave : Int) : UnixStep Unit := fun pty =>
  match childSteps command cwd environment master slave pty with
  | .ok _ pty | .error _ pty =>
    match call (.exit 127) pty with
    | .ok _ pty | .error _ pty => .error (.exited 127) pty

def nonBlocking : Nat := 2048
def newFlags : Nat := 2

def getFlags (fd : Int) : UnixStep Nat := do
  call (.getFlags fd)
  next (← get).system.flagReads () fun rest system => { system with flagReads := rest }
  return newFlags

def setFlags (fd : Int) (flags : Nat) : UnixStep Unit := do
  call (.setFlags fd flags)
  next (← get).system.flagWrites () fun rest system => { system with flagWrites := rest }

/-- What a process does once it has a child: it keeps the master alone, and does not wait on it. -/
def parentSteps (pid master slave : Int) : UnixStep Unit := do
  modify fun pty => { pty with pid := some pid }
  closeFd slave
  modify fun pty => { pty with slave := none }
  let flags ← getFlags master
  setFlags master (flags ||| nonBlocking)

def spawn (command : List String) (cwd : String) (size : Geometry) (environment : Option Environment) :
    UnixStep Unit := do
  if cwd.isEmpty || !(← get).system.files.isDirectory (Path.ofText cwd) then
    fail .missingFile s!"Working directory does not exist: {cwd}"
  let (master, slave) ← openTerminal
  modify fun pty => { pty with master := some master, slave := some slave }
  setSize slave size
  let pid ← forkProcess
  if pid == 0 then child command cwd environment master slave
  parentSteps pid master slave

/-- Reads what has arrived: nothing at all at the end, and no bytes if none came in time. -/
def read (size : Int) (timeout : Decimal.Quantity) : UnixStep (Option (List UInt8)) := do
  match (← get).master with
  | none => return none
  | some fd =>
    match ← rescue (some <$> select [fd] [] timeout) (fun kind => kind.isSystem || kind == .value)
        (fun _ => pure none) with
    | none => return none
    | some false => return some []
    | some true =>
      let received : UnixStep (Option (List UInt8)) := do
        let bytes ← readFd fd size
        return if bytes.isEmpty then none else some bytes
      rescue received FaultKind.isSystem fun kind => pure (if kind == .wouldBlock then some [] else none)

def writeAll (fd : Int) : Nat → List UInt8 → UnixStep Unit
  | 0, _ => pure ()
  | fuel + 1, bytes =>
    if bytes.isEmpty then pure ()
    else do
      let taken ← rescue (some <$> writeFd fd bytes) (· == .wouldBlock) (fun _ => pure none)
      match taken with
      | some count => writeAll fd fuel (bytes.drop count)
      | none =>
        let _ ← select [] [fd] (.real 1.0)
        writeAll fd fuel bytes

def write (bytes : List UInt8) : UnixStep Unit := do
  let pty ← get
  match pty.master, pty.pid with
  | some fd, some _ => writeAll fd (bytes.length + pty.system.writes.length + 1) bytes
  | _, _ => fail .os "PTY is closed"

def resize (size : Geometry) : UnixStep Unit := do
  match (← get).master with
  | none => fail .os "PTY is closed"
  | some fd => setSize fd size

/-- How a process ended, by its status: the code that it gave, or the signal that ended it as a negative
number. -/
def exitCode (status : Int) : UnixStep Int :=
  let signal := status % 128
  if signal == 0 then pure (status / 256 % 256)
  else if signal != 127 then pure (-signal)
  else if status % 256 == 127 then
    fail .value s!"process stopped by delivery of signal {status / 256 % 256}"
  else fail .value s!"invalid wait status: {status}"

/-- Whether the process still runs. Once its end is known nothing is asked any more. -/
def isAlive : UnixStep Bool := do
  let pty ← get
  match pty.pid, pty.exitStatus with
  | some pid, none =>
    match ← rescue (some <$> wait pid 1) (· == .noChild) (fun _ => pure none) with
    | none => return false
    | some (ended, status) =>
      if ended == 0 then return true
      let code ← exitCode status
      modify fun pty => { pty with exitStatus := some code }
      return false
  | _, _ => return false

/-- Ends the process and everything under it, unless it is known to have ended. -/
def terminate : UnixStep Unit := do
  let pty ← get
  match pty.pid with
  | none => pure ()
  | some pid =>
    if pty.exitStatus.isNone then
      call (.killTree pid)
      rescue (do let _ ← wait pid 0) (· == .noChild) (fun _ => pure ())
    modify fun pty => { pty with pid := none }

def close : UnixStep Unit := do
  match (← get).master with
  | none => pure ()
  | some fd =>
    rescue (closeFd fd) FaultKind.isSystem (fun _ => pure ())
    modify fun pty => { pty with master := none }

/-- How a step goes for whoever takes it. A process that has ended is told nothing any more; what stands for its
answer is seen by nobody. -/
def outcome {α : Type} (act : UnixStep α) (pty : UnixPty) : Except Failure α × UnixPty :=
  match act pty with
  | .ok value pty => (.ok value, pty)
  | .error (.failed failure) pty => (.error failure, pty)
  | .error (.exited _) pty => (.error .disposed, pty)

/-- As a reader sees it, who reads with the usual size and patience. Where it cannot be told how a process ended, it
has ended. -/
instance : PtyDevice UnixPty where
  pid pty := pty.pid.getD 0
  spawn command cwd size environment := outcome (spawn command cwd size (some environment))
  read pty :=
    match outcome (read 4096 (.real 0.05)) pty with
    | (.ok (some bytes), pty) => (.data bytes, pty)
    | (.ok none, pty) => (.ended, pty)
    | (.error failure, pty) => (.failed failure, pty)
  isAlive pty :=
    match outcome isAlive pty with
    | (.ok alive, pty) => (alive, pty)
    | (.error _, pty) => (false, pty)
  write bytes := outcome (write bytes)
  resize size := outcome (resize size)
  terminate := outcome terminate
  close pty := (outcome close pty).2

end UnixPty

end TerminalDock.Pty
