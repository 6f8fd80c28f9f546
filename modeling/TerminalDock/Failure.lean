import TerminalDock.Text.Quoted

/-! What can go wrong. None of it ends the application: the worst outcome of a failure is one degraded
session that the user can close and create again. -/

namespace TerminalDock

inductive FaultKind
  | os
  | missingFile
  | wouldBlock
  | noChild
  | interrupted
  | notPermitted
  | runtime
  | value
  | key
  | type
  | missingModule
  | endOfFile
  | assertion
  | index
  | zeroDivision
  | overflow
  | unbound
  | attribute
  | unicodeDecode
  | jsonDecode
  | packing
  | toolkit
  | markup
  deriving DecidableEq, Repr

def FaultKind.name : FaultKind → String
  | .os => "OSError"
  | .missingFile => "FileNotFoundError"
  | .wouldBlock => "BlockingIOError"
  | .noChild => "ChildProcessError"
  | .interrupted => "InterruptedError"
  | .notPermitted => "PermissionError"
  | .runtime => "RuntimeError"
  | .value => "ValueError"
  | .key => "KeyError"
  | .type => "TypeError"
  | .missingModule => "ImportError"
  | .endOfFile => "EOFError"
  | .assertion => "AssertionError"
  | .index => "IndexError"
  | .zeroDivision => "ZeroDivisionError"
  | .overflow => "OverflowError"
  | .unbound => "UnboundLocalError"
  | .attribute => "AttributeError"
  | .unicodeDecode => "UnicodeDecodeError"
  | .jsonDecode => "JSONDecodeError"
  | .packing => "error"
  | .toolkit => "TclError"
  | .markup => "MarkupError"

def FaultKind.all : List FaultKind := [
  .os, .missingFile, .wouldBlock, .noChild, .interrupted, .notPermitted, .runtime, .value, .key, .type,
  .missingModule, .endOfFile, .assertion, .index, .zeroDivision, .overflow, .unbound, .attribute, .unicodeDecode,
  .jsonDecode, .packing, .toolkit, .markup]

def FaultKind.ofName? (name : String) : Option FaultKind :=
  all.find? (·.name == name)

/-- The faults of the operating system, in any of their special forms. -/
def FaultKind.isSystem : FaultKind → Bool
  | .os | .missingFile | .wouldBlock | .noChild | .interrupted | .notPermitted => true
  | _ => false

/-- A failure: a session that did not start, a call that did not get through, output for a surface that
is gone, or a fault of some kind. -/
inductive Failure
  | spawn (cwd reason : String)
  | transport (call session reason : String)
  | disposed
  | fault (kind : FaultKind) (message : String)
  deriving DecidableEq, Repr

namespace Failure

def kindName : Failure → String
  | .spawn .. => "SpawnFailure"
  | .transport .. => "TransportFailure"
  | .disposed => "SurfaceDisposedError"
  | .fault kind _ => kind.name

def message : Failure → String
  | .spawn cwd reason =>
    "Failed to spawn terminal in " ++ (if cwd.isEmpty then "<default>" else cwd) ++ ": " ++ reason
  | .transport call session reason => s!"{call} failed for {session}: {reason}"
  | .disposed => "write into a disposed surface"
  | .fault _ message => message

/-- The wording of a failure inside another text: a missing key is quoted there. -/
def text : Failure → String
  | .fault .key message => if message.isEmpty then "" else Text.quoted message
  | failure => failure.message

/-- Why something failed: the wording, or the kind if there is none. -/
def reason (failure : Failure) : String :=
  if failure.text.isEmpty then failure.kindName else failure.text

/-- Whether the operating system is to blame. -/
def isSystem : Failure → Bool
  | .fault kind _ => kind.isSystem
  | _ => false

end Failure

end TerminalDock
