import TerminalDock.Loop.Scheduler
import TerminalDock.Transport.Report

/-! Calls as programs: what a call submits, how often it suspends, and how it ends. They are served by a
transport that counts those that are pending and can be drained. -/

namespace TerminalDock.Transport

/-- A call for a session. It submits other calls at once, and others after each of its suspensions, and
fails or not; the hook that is told of the failure may submit calls too. -/
structure Program where
  stages ::
  call : String
  session : String
  submits : List Program
  later : List (List Program)
  failure : Option Failure
  onFailure : List Program
  deriving Inhabited

/-- A call that submits others only at once, and then suspends a number of times. -/
def Program.mk (call session : String) (submits : List Program) (yields : Nat) (failure : Option Failure)
    (onFailure : List Program) : Program :=
  .stages call session submits (List.replicate yields []) failure onFailure

namespace Program

mutual

/-- The turns of a call and of all that comes of it, the one in which it leaves included. -/
def toil : Program → Nat
  | .stages _ _ submits later _ onFailure => toils submits + toilsLater later + toils onFailure + 2

def toils : List Program → Nat
  | [] => 0
  | program :: rest => toil program + toils rest

def toilsLater : List (List Program) → Nat
  | [] => 0
  | submits :: rest => toils submits + toilsLater rest + 1

end

end Program

inductive Activity
  | begin (program : Program)
  /-- Suspended, with what is submitted after this suspension and after those to come. -/
  | rest (program : Program) (submits : List Program) (later : List (List Program))
  | drain

def Activity.toil : Activity → Nat
  | .begin program => program.toil
  | .rest program submits later =>
    Program.toils submits + Program.toilsLater later + Program.toils program.onFailure + 2
  | .drain => 0

inductive Sight
  | called (call session : String)
  | noticed (notice : Notice)

/-- The transport with all that was seen of it, oldest first. -/
structure Desk where
  hook : FailureHook
  scheduler : Loop.Scheduler Activity Bool := {}
  sights : List Sight := []

namespace Desk

def see (desk : Desk) (sights : List Sight) : Desk :=
  { desk with sights := desk.sights ++ sights }

def submit (desk : Desk) (program : Program) : Desk :=
  { desk with scheduler := desk.scheduler.submit (.begin program) }

def submitAll (desk : Desk) (programs : List Program) : Desk :=
  programs.foldl submit desk

def conclude (desk : Desk) (task : Loop.TaskId) (program : Program) : Desk :=
  let desk := desk.see ((desk.hook.conclude program.call program.session program.failure).map .noticed)
  let desk := if program.failure.isSome then desk.submitAll program.onFailure else desk
  { desk with scheduler := desk.scheduler.finish task program.failure.isNone }

/-- Suspends a call if it has suspensions to come, and ends it otherwise. -/
def rest (desk : Desk) (task : Loop.TaskId) (program : Program) : List (List Program) → Desk
  | [] => desk.conclude task program
  | submits :: later => { desk with scheduler := desk.scheduler.yield task (.rest program submits later) }

def resume (desk : Desk) (task : Loop.TaskId) : Desk :=
  match desk.scheduler.running.find? task with
  | none => desk
  | some (.begin program) =>
    ((desk.see [.called program.call program.session]).submitAll program.submits).rest task program program.later
  | some (.rest program submits later) => (desk.submitAll submits).rest task program later
  | some .drain =>
    if desk.scheduler.pending.isEmpty then { desk with scheduler := desk.scheduler.finish task true }
    else { desk with scheduler := desk.scheduler.waitFor task desk.scheduler.pending }

def turn (desk : Desk) : Desk :=
  match desk.scheduler.next? with
  | none => desk
  | some (.resume task, scheduler) => { desk with scheduler := scheduler }.resume task
  | some (.leave task, scheduler) => { desk with scheduler := scheduler.leave task }
  | some (.arrive group, scheduler) => { desk with scheduler := scheduler.arrive group }

/-- Serves so many turns, or fewer if a task has finished before. -/
def serveTurns (task : Loop.TaskId) : Nat → Desk → Desk
  | 0, desk => desk
  | turns + 1, desk => if desk.scheduler.results.has task then desk else serveTurns task turns desk.turn

/-- Serves rounds until a task has finished; the answer is its result. In each round those have their turns who
had asked for them when it began. -/
def serve (task : Loop.TaskId) : Nat → Desk → Bool × Desk
  | 0, desk => ((desk.scheduler.results.find? task).getD false, desk)
  | rounds + 1, desk =>
    match desk.scheduler.results.find? task with
    | some result => (result, desk)
    | none => serve task rounds (desk.serveTurns task desk.scheduler.ready.length)

def work (desk : Desk) : Nat :=
  desk.scheduler.running.values.foldr (fun activity turns => activity.toil + turns) 0

/-- A bound for the rounds until all is quiet: in each of them a call goes on or leaves, as long as there is one,
and then whoever waited for calls goes on. -/
def patience (desk : Desk) : Nat :=
  desk.work + desk.scheduler.ready.length + 2

/-- Does something at once, as far as it goes, and serves turns until it is done. -/
def await (desk : Desk) (activity : Activity) : Bool × Desk :=
  let (task, scheduler) := desk.scheduler.create activity
  let desk := { desk with scheduler := scheduler }
  serve task desk.patience (desk.resume task)

def run (desk : Desk) (program : Program) : Bool × Desk :=
  desk.await (.begin program)

def drain (desk : Desk) : Desk :=
  (desk.await .drain).2

end Desk
end TerminalDock.Transport
