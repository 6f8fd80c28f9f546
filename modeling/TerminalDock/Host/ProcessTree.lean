import TerminalDock.Assoc

/-! Killing a process and everything under it. A process may be gone before its turn comes, which is no
failure: the attempt was made. Only a process that vanishes while its children are listed is one. -/

namespace TerminalDock.ProcessTree

/-- What is found out about processes while one of them is killed: whether it is there at first, the
processes under it or which process vanished while they were listed, and which of them are still there
when they are killed. -/
structure Answers where
  present : Bool
  listing : Except Int (List Int)
  alive : Int → Bool

/-- The attempt to kill one process, and whether it was still there. -/
structure Attempt where
  pid : Int
  found : Bool
  deriving DecidableEq, Repr

/-- A process vanished while the children were listed. -/
inductive KillError
  | vanished (pid : Int)
  deriving DecidableEq, Repr

def KillError.message : KillError → String
  | .vanished pid => s!"process no longer exists (pid={pid})"

/-- Tries to kill one process. -/
def Answers.attempt (answers : Answers) (pid : Int) : Attempt :=
  ⟨pid, answers.alive pid⟩

/-- Tries to kill the processes under the given one and then itself, in this order. A process that does
not exist is left alone. -/
def Answers.killTree (answers : Answers) (pid : Int) : Except KillError (List Attempt) :=
  if answers.present then
    match answers.listing with
    | .error lost => .error (.vanished lost)
    | .ok under => .ok (under.map answers.attempt ++ [answers.attempt pid])
  else .ok []

/-- A process in a table: its children, and whether it is gone when it is to be killed. -/
structure Entry where
  children : List Int := []
  gone : Bool := false
  deriving Repr

abbrev Table := Assoc Int Entry

/-- The processes under some others, each before its own children; `depth` bounds the generations. -/
def descendants (table : Table) : Nat → List Int → List Int
  | 0, _ => []
  | depth + 1, pids =>
    pids.flatMap fun pid => pid :: descendants table depth ((table.find? pid).elim [] Entry.children)

/-- The processes under one of a table, or the first of them that has vanished: one that is no longer in the
table, although its parent names it. -/
def Table.listing (table : Table) (pid : Int) : Except Int (List Int) :=
  let under := descendants table table.length ((table.find? pid).elim [] Entry.children)
  match under.find? (!table.has ·) with
  | some lost => .error lost
  | none => .ok under

/-- What is found out about the processes of a table. -/
def Table.answers (table : Table) (pid : Int) : Answers where
  present := table.has pid
  listing := table.listing pid
  alive := fun pid => (table.find? pid).elim false fun entry => !entry.gone

end TerminalDock.ProcessTree
