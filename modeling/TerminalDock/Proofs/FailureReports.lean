import TerminalDock.Transport.Report

/-! What is told of a call to the backend. Of one that has succeeded nothing is; of one that has failed the hook is told
once, and only the log if the hook fails itself. -/

namespace TerminalDock

private theorem Failure.kindName_ne_empty (failure : Failure) : failure.kindName ≠ "" := by
  cases failure with
  | spawn | transport | disposed =>
    rw [kindName]
    decide
  | fault kind message =>
    rw [kindName]
    cases kind <;> decide

namespace Transport

/-- What is reported of the failure of a call for a session: the failure itself if it names a call, and otherwise this one,
with the wording of the failure, or the name of its kind if there is none. -/
inductive Reports (call session : String) : Failure → FailedCall → Prop
  | named (failed : FailedCall) : Reports call session (.transport failed.call failed.session failed.reason) failed
  | worded {failure : Failure} (unnamed : ∀ call session reason, failure ≠ .transport call session reason)
      (worded : failure.text ≠ "") : Reports call session failure ⟨call, session, failure.text⟩
  | wordless {failure : Failure} (unnamed : ∀ call session reason, failure ≠ .transport call session reason)
      (wordless : failure.text = "") (named : failure.kindName ≠ "") :
    Reports call session failure ⟨call, session, failure.kindName⟩

/-- The one report that a hook makes of a failed call, and the trace that it leaves if it fails itself. -/
inductive FailureHook.Makes (failed : FailedCall) : FailureHook → List Notice → Prop
  | observed : Makes failed (.observer false) [.observed failed]
  | raised : Makes failed (.observer true)
      [.observed failed, .logged (.error s!"[TERMINAL] failure hook raised | op={failed.call}")]
  | logged : Makes failed .log
      [.logged (.warning s!"[TERMINAL] {failed.call} failed | id={failed.session} reason={failed.reason}")]

/-- What is told of a call that has come to its end. -/
inductive FailureHook.Told (hook : FailureHook) (call session : String) : Option Failure → List Notice → Prop
  | succeeded : Told hook call session none []
  | failed {failure : Failure} {failed : FailedCall} {notices : List Notice} (reports : Reports call session failure failed)
      (makes : hook.Makes failed notices) : Told hook call session (some failure) notices

private theorem reports_ofFailure (call session : String) (failure : Failure) :
    Reports call session failure (.ofFailure call session failure) := by
  have other (unnamed : ∀ call session reason, failure ≠ .transport call session reason) :
      Reports call session failure ⟨call, session, failure.reason⟩ := by
    unfold Failure.reason
    split
    next wordless => exact .wordless unnamed (String.isEmpty_iff.mp wordless) failure.kindName_ne_empty
    next worded => exact .worded unnamed fun same => worded (String.isEmpty_iff.mpr same)
  cases failure with
  | transport call session reason => exact .named ⟨call, session, reason⟩
  | spawn | disposed | fault => exact other nofun

private theorem FailureHook.report_makes (hook : FailureHook) (failed : FailedCall) :
    hook.Makes failed (hook.report failed) := by
  cases hook with
  | observer raises =>
    cases raises with
    | true => exact .raised
    | false => exact .observed
  | log => exact .logged

theorem FailureHook.conclude_told (hook : FailureHook) (call session : String) (failure : Option Failure) :
    hook.Told call session failure (hook.conclude call session failure) := by
  cases failure with
  | none => exact .succeeded
  | some failure => exact .failed (reports_ofFailure call session failure) (hook.report_makes _)

end Transport

end TerminalDock
