import TerminalDock.Assoc

/-! Tasks that take turns on one thread. Turns are served in the order in which they were asked for; a task
runs until it waits for something or has finished. Whoever waits for several tasks goes on one turn after
the last of them has arrived. -/

namespace TerminalDock.Loop

abbrev TaskId := Nat

/-- What a turn is for: a task goes on, a finished call leaves the ones that are pending, or a finished
task arrives at a group. -/
inductive Turn
  | resume (task : TaskId)
  | leave (task : TaskId)
  | arrive (group : Nat)
  deriving DecidableEq, Repr

/-- Tasks that are waited for: how many are missing, and who waits. -/
structure Group where
  missing : Nat
  waiter : TaskId
  deriving DecidableEq, Repr

/-- Tasks with what each is doing, and the results of those that have finished. -/
structure Scheduler (α ρ : Type) where
  ready : List Turn := []
  running : Assoc TaskId α := []
  results : Assoc TaskId ρ := []
  /-- The turns that are asked for when a task finishes. -/
  callbacks : Assoc TaskId (List Turn) := []
  groups : Assoc Nat Group := []
  /-- The calls that were submitted and have not left yet. -/
  pending : List TaskId := []
  /-- The next number for a task or a group. -/
  fresh : Nat := 0

namespace Scheduler

variable {α ρ : Type}

def enqueue (scheduler : Scheduler α ρ) (turn : Turn) : Scheduler α ρ :=
  { scheduler with ready := scheduler.ready ++ [turn] }

def next? (scheduler : Scheduler α ρ) : Option (Turn × Scheduler α ρ) :=
  match scheduler.ready with
  | [] => none
  | turn :: rest => some (turn, { scheduler with ready := rest })

/-- Brings a task into being that does not have a turn yet. -/
def create (scheduler : Scheduler α ρ) (activity : α) : TaskId × Scheduler α ρ :=
  (scheduler.fresh, { scheduler with
    running := scheduler.running.put scheduler.fresh activity
    fresh := scheduler.fresh + 1 })

/-- Starts a task: it goes on when its turn comes. -/
def start (scheduler : Scheduler α ρ) (activity : α) : TaskId × Scheduler α ρ :=
  let (task, scheduler) := scheduler.create activity
  (task, scheduler.enqueue (.resume task))

def onFinish (scheduler : Scheduler α ρ) (task : TaskId) (turn : Turn) : Scheduler α ρ :=
  if scheduler.running.has task then
    { scheduler with
      callbacks := scheduler.callbacks.put task ((scheduler.callbacks.find? task).getD [] ++ [turn]) }
  else scheduler.enqueue turn

/-- Starts a call that is pending until the turn after its end. -/
def submit (scheduler : Scheduler α ρ) (activity : α) : Scheduler α ρ :=
  let (task, scheduler) := scheduler.start activity
  { scheduler with pending := scheduler.pending ++ [task] }.onFinish task (.leave task)

/-- What a task is doing now, while it waits for something. -/
def suspend (scheduler : Scheduler α ρ) (task : TaskId) (activity : α) : Scheduler α ρ :=
  { scheduler with running := scheduler.running.put task activity }

/-- Lets all others have their turns before a task goes on. -/
def yield (scheduler : Scheduler α ρ) (task : TaskId) (activity : α) : Scheduler α ρ :=
  (scheduler.suspend task activity).enqueue (.resume task)

def finish (scheduler : Scheduler α ρ) (task : TaskId) (result : ρ) : Scheduler α ρ :=
  { scheduler with
    running := scheduler.running.remove task
    results := scheduler.results.put task result
    callbacks := scheduler.callbacks.remove task
    ready := scheduler.ready ++ (scheduler.callbacks.find? task).getD [] }

/-- Lets a task wait for others, of which there is at least one. -/
def waitFor (scheduler : Scheduler α ρ) (waiter : TaskId) (tasks : List TaskId) : Scheduler α ρ :=
  let group := scheduler.fresh
  let scheduler := { scheduler with
    groups := scheduler.groups.put group ⟨tasks.length, waiter⟩
    fresh := scheduler.fresh + 1 }
  tasks.foldl (fun scheduler task => scheduler.onFinish task (.arrive group)) scheduler

/-- A call leaves the ones that are pending. -/
def leave (scheduler : Scheduler α ρ) (task : TaskId) : Scheduler α ρ :=
  { scheduler with pending := scheduler.pending.erase task }

/-- A task arrives at a group; the last one gives the waiter a turn. -/
def arrive (scheduler : Scheduler α ρ) (group : Nat) : Scheduler α ρ :=
  match scheduler.groups.find? group with
  | none => scheduler
  | some { missing, waiter } =>
    if missing ≤ 1 then { scheduler with groups := scheduler.groups.remove group }.enqueue (.resume waiter)
    else { scheduler with groups := scheduler.groups.put group ⟨missing - 1, waiter⟩ }

end Scheduler

end TerminalDock.Loop
