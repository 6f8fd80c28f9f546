import TerminalDock.Proofs.Steps
import TerminalDock.Pty.Unix

/-! What a system was asked for in a step, with its answers. A call whose answer can be set beforehand takes the next
answer of its script, or the harmless one where the script has ended. -/

namespace TerminalDock.Pty
open Proofs.Steps

/-- A call, with its answer if that can be set beforehand. -/
abbrev Answered (α : Type) := SystemCall × Option (Except FaultKind α)

namespace Script
variable {α : Type} {harmless : SystemCall → Option α}

/-- Calls with their answers. The calls that have a harmless answer are those that the script is about. -/
def answering (harmless : SystemCall → Option α) : Script α → List SystemCall → List (Answered α)
  | _, [] => []
  | script, call :: rest =>
    match harmless call with
    | none => (call, none) :: answering harmless script rest
    | some value => (call, some (script.headD (.ok value))) :: answering harmless script.tail rest

def rest (harmless : SystemCall → Option α) (script : Script α) (calls : List SystemCall) : Script α :=
  script.drop (calls.countP fun call => (harmless call).isSome)

private theorem answering_append (script : Script α) (calls more : List SystemCall) :
    script.answering harmless (calls ++ more) =
      script.answering harmless calls ++ (script.rest harmless calls).answering harmless more := by
  induction calls generalizing script with
  | nil => rfl
  | cons call later ih =>
    rw [List.cons_append, answering, answering]
    cases about : harmless call with
    | none =>
      have left : script.rest harmless (call :: later) = script.rest harmless later := by
        simp [Script.rest, about]
      simp only [ih, left, List.cons_append]
    | some value =>
      have left : script.rest harmless (call :: later) = Script.rest harmless script.tail later := by
        simp [Script.rest, about, List.drop_tail]
      simp only [ih, left, List.cons_append]

@[simp] theorem answering_calls (script : Script α) (calls : List SystemCall) :
    (script.answering harmless calls).map Prod.fst = calls := by
  induction calls generalizing script with
  | nil => rfl
  | cons call later ih =>
    rw [answering]
    cases harmless call <;> rw [List.map_cons, ih]

theorem answers_prefix {script : Script α} {limit : Nat} (enough : limit ≤ script.length) (calls : List SystemCall) :
    ((script.answering harmless calls).filterMap Prod.snd).take limit <+: script.take limit := by
  induction calls generalizing script limit with
  | nil => exact ⟨script.take limit, by rw [answering, List.filterMap_nil, List.take_nil, List.nil_append]⟩
  | cons call later ih =>
    rw [answering]
    cases about : harmless call with
    | none => exact ih enough
    | some value =>
      cases limit with
      | zero => exact List.nil_prefix
      | succ limit =>
        cases script with
        | nil => cases enough
        | cons first rest => exact (List.prefix_cons_inj first).mpr (ih (Nat.le_of_succ_le_succ enough))

end Script

namespace UnixPty

theorem after_congr {β : Type} {act other : UnixStep β} {first middle : UnixPty}
    (same : act first = other middle) : after act first = after other middle := by
  rw [after, same]
  rfl

def callsIn {β : Type} (act : UnixStep β) (pty : UnixPty) : List SystemCall :=
  (after act pty).system.calls.drop pty.system.calls.length

/-- A step makes these calls, whose answers it takes from a script. -/
structure Asks {α : Type} (harmless : SystemCall → Option α) (script : UnixSystem → Script α) (calls : List SystemCall)
    (first last : UnixPty) : Prop where
  made : last.system.calls = first.system.calls ++ calls
  left : script last.system = (script first.system).rest harmless calls

variable {α β : Type} {harmless : SystemCall → Option α} {script : UnixSystem → Script α}
  {calls more : List SystemCall} {first middle last : UnixPty}

namespace Asks

theorem of_alike (same : last.system = first.system) : Asks harmless script [] first last :=
  ⟨by rw [same, List.append_nil], by rw [same]; rfl⟩

theorem trans (before : Asks harmless script calls first middle) (later : Asks harmless script more middle last) :
    Asks harmless script (calls ++ more) first last := by
  refine ⟨by rw [later.made, before.made, List.append_assoc], ?_⟩
  rw [later.left, before.left, Script.rest, Script.rest, Script.rest, List.drop_drop, List.countP_append]

theorem answering_trans (before : Asks harmless script calls first middle) (more : List SystemCall) :
    (script first.system).answering harmless (calls ++ more) =
      (script first.system).answering harmless calls ++ (script middle.system).answering harmless more := by
  rw [Script.answering_append, before.left]

theorem callsIn_eq {act : UnixStep β} {pty : UnixPty} (asks : Asks harmless script calls pty (after act pty)) :
    callsIn act pty = calls := by
  rw [callsIn, asks.made, List.drop_left]

end Asks

private theorem next_answer (script : Script α) (default : α) (keep : Script α → UnixSystem → UnixSystem) (pty : UnixPty)
    (held : keep script pty.system = pty.system) :
    next script default keep pty =
      answer (script.headD (.ok default)) { pty with system := keep script.tail pty.system } := by
  cases script with
  | nil => rw [List.tail_nil, held]; rfl
  | cons answered rest => rfl

/-- An answer, where some faults go to a handler. -/
def recover (handles : FaultKind → Bool) (handler : FaultKind → UnixStep β) : Except FaultKind β → UnixStep β
  | .ok value => pure value
  | .error kind => if handles kind then handler kind else answer (.error kind)

theorem rescue_answer {act : UnixStep β} {reply : Except FaultKind β} {pty asked : UnixPty}
    (seen : act pty = answer reply asked)
    (handles : FaultKind → Bool) (handler : FaultKind → UnixStep β) :
    rescue act handles handler pty = recover handles handler reply asked := by
  rw [rescue, seen]
  cases reply with
  | ok value => rfl
  | error kind =>
    rw [recover]
    cases handled : handles kind with
    | true => exact if_pos handled
    | false => exact if_neg (Bool.not_eq_true _ ▸ handled)

/-- A relation that holds of a step and of what is done after a fault holds of both together. -/
theorem rescue_moves {relation : UnixPty → UnixPty → Prop} {act : UnixStep β} {handler : FaultKind → UnixStep β}
    (trans : ∀ {first middle last}, relation first middle → relation middle last → relation first last)
    (first : Moves relation act) (handles : FaultKind → Bool) (rest : ∀ kind, Moves relation (handler kind)) :
    Moves relation (rescue act handles handler) := by
  intro pty
  have moved := first pty
  unfold after at moved ⊢
  rw [rescue]
  cases seen : act pty with
  | ok value middle =>
    rw [seen] at moved
    exact moved
  | error stop middle =>
    rw [seen] at moved
    match stop with
    | .exited code => exact moved
    | .failed failure =>
      cases failure with
      | fault kind message =>
        dsimp only
        cases handles kind with
        | false => exact moved
        | true => exact trans moved (rest kind middle)
      | _ => exact moved

theorem map_answer {γ : Type} {act : UnixStep β} {reply : Except FaultKind β} {pty asked : UnixPty}
    (seen : act pty = answer reply asked) (f : β → γ) : (f <$> act) pty = answer (reply.map f) asked := by
  simp only [Functor.map, EStateM.map, seen]
  cases reply <;> rfl

theorem writeFd_answer (fd : Int) (bytes : List UInt8) (pty : UnixPty) :
    writeFd fd bytes pty = answer (pty.system.writes.headD (.ok bytes.length)) { pty with system := { pty.system with
      calls := pty.system.calls ++ [.write fd bytes]
      writes := pty.system.writes.tail } } :=
  next_answer pty.system.writes bytes.length (fun rest system => { system with writes := rest })
    { pty with system := { pty.system with calls := pty.system.calls ++ [.write fd bytes] } } rfl

theorem select_answer (reading writing : List Int) (timeout : Decimal.Quantity) (pty : UnixPty) :
    select reading writing timeout pty = answer (pty.system.selects.headD (.ok true)) { pty with system := { pty.system with
      calls := pty.system.calls ++ [.select reading writing timeout]
      selects := pty.system.selects.tail } } :=
  next_answer pty.system.selects true (fun rest system => { system with selects := rest })
    { pty with system := { pty.system with calls := pty.system.calls ++ [.select reading writing timeout] } } rfl

theorem wait_answer (pid : Int) (flags : Nat) (pty : UnixPty) :
    wait pid flags pty = answer (pty.system.waits.headD (.ok (0, 0))) { pty with system := { pty.system with
      calls := pty.system.calls ++ [.wait pid flags]
      waits := pty.system.waits.tail } } :=
  next_answer pty.system.waits (0, 0) (fun rest system => { system with waits := rest })
    { pty with system := { pty.system with calls := pty.system.calls ++ [.wait pid flags] } } rfl

end UnixPty

end TerminalDock.Pty
