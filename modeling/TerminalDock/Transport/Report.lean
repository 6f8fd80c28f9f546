import TerminalDock.Failure
import TerminalDock.LogRecord

/-! Calls to the backend that nobody waits for. Their failures are neither repaired nor rolled back; they
are told to a hook, and a hook that fails itself is only noted in the log. -/

namespace TerminalDock.Transport

/-- Who is told of failures: an observer, which may fail itself, or the log. -/
inductive FailureHook
  | observer (raises : Bool)
  | log
  deriving DecidableEq, Repr

structure FailedCall where
  call : String
  session : String
  reason : String
  deriving DecidableEq, Repr

inductive Notice
  | observed (failed : FailedCall)
  | logged (record : LogRecord)
  deriving DecidableEq, Repr

/-- The report of a failure: one that names the call is passed on, any other one is the reason. -/
def FailedCall.ofFailure (call session : String) : Failure → FailedCall
  | .transport call session reason => ⟨call, session, reason⟩
  | failure => ⟨call, session, failure.reason⟩

def FailureHook.report (hook : FailureHook) (failed : FailedCall) : List Notice :=
  match hook with
  | .observer false => [.observed failed]
  | .observer true =>
    [.observed failed, .logged (.error s!"[TERMINAL] failure hook raised | op={failed.call}")]
  | .log =>
    [.logged (.warning
      s!"[TERMINAL] {failed.call} failed | id={failed.session} reason={failed.reason}")]

def FailureHook.conclude (hook : FailureHook) (call session : String) (failure : Option Failure) :
    List Notice :=
  match failure with
  | none => []
  | some failure => hook.report (.ofFailure call session failure)

end TerminalDock.Transport
