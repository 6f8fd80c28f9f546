import Mathlib.Data.Set.Card
import TerminalDock.Proofs.SystemAnswers

/-! Writing to a terminal. However few bytes are taken at a time, and however often it has to be asked again, what was
taken is the beginning of what was to be written, and all of it if the writing comes to its end. It comes to an end
unless the system turns it away again and again for ever. -/

namespace TerminalDock.Pty
open Proofs.Steps

/-- How many bytes a write takes where nothing else is set: all of them. -/
def SystemCall.whole? : SystemCall → Option Nat
  | .write _ bytes => some bytes.length
  | _ => none

namespace Answered

def taken : Answered Nat → List UInt8
  | (.write _ bytes, some (.ok count)) => bytes.take count
  | _ => []

/-- A call that takes bytes takes at least one, and at most those that it was given. -/
def Takes : Answered Nat → Prop
  | (.write _ bytes, some (.ok count)) => 0 < count ∧ count ≤ bytes.length
  | _ => True

end Answered

def accepted (calls : List (Answered Nat)) : List UInt8 :=
  calls.flatMap Answered.taken

/-- An answer to ask again later. -/
def turnsAway : Except FaultKind Nat → Bool
  | .error .wouldBlock => true
  | _ => false

private theorem turnsAway_iff {reply : Except FaultKind Nat} : turnsAway reply = true ↔ reply = .error .wouldBlock := by
  unfold turnsAway
  split
  · exact ⟨fun _ => rfl, fun _ => rfl⟩
  next other => exact ⟨nofun, fun same => absurd same other⟩

private theorem turnsAway_count {answers : Nat → Except FaultKind Nat}
    (finite : {place | answers place = .error .wouldBlock}.Finite)
    (bound : Nat) : ((List.range bound).map answers).countP turnsAway ≤ finite.toFinset.card := by
  have distinct : ((List.range bound).filter (turnsAway ∘ answers)).Nodup := List.nodup_range.filter _
  rw [List.countP_map, List.countP_eq_length_filter, ← List.toFinset_card_of_nodup distinct]
  refine Finset.card_le_card fun place member => ?_
  rw [List.mem_toFinset, List.mem_filter] at member
  exact finite.mem_toFinset.mpr (turnsAway_iff.mp member.2)

/-- What writing comes to: the calls with their answers, and whether it comes to its end. -/
inductive Writes (fd : Int) : List UInt8 → List (Answered Nat) → Bool → Prop
  | done : Writes fd [] [] true
  | taken {bytes : List UInt8} {calls : List (Answered Nat)} {ends : Bool} (count : Nat) (more : bytes ≠ [])
      (rest : Writes fd (bytes.drop count) calls ends) :
    Writes fd bytes ((.write fd bytes, some (.ok count)) :: calls) ends
  /-- Nothing can be taken now. -/
  | blocked {bytes : List UInt8} {calls : List (Answered Nat)} {ends : Bool} (more : bytes ≠ [])
      (rest : Writes fd bytes calls ends) :
    Writes fd bytes
      ((.write fd bytes, some (.error .wouldBlock)) :: (.select [] [fd] (.real 1.0), none) :: calls) ends
  /-- Nothing can be taken now, and one cannot wait for it. -/
  | stuck {bytes : List UInt8} (more : bytes ≠ []) :
    Writes fd bytes [(.write fd bytes, some (.error .wouldBlock)), (.select [] [fd] (.real 1.0), none)] false
  | refused {bytes : List UInt8} {kind : FaultKind} (more : bytes ≠ []) (other : kind ≠ .wouldBlock) :
    Writes fd bytes [(.write fd bytes, some (.error kind))] false

namespace Writes
variable {fd : Int} {bytes : List UInt8} {calls : List (Answered Nat)} {ends : Bool}

theorem accepts (writes : Writes fd bytes calls ends) (fair : ∀ call ∈ calls, call.Takes) :
    ∃ left, bytes = accepted calls ++ left ∧ (ends = true → left = []) := by
  induction writes with
  | done => exact ⟨[], rfl, fun _ => rfl⟩
  | @taken bytes calls ends count more rest ih =>
    obtain ⟨left, split, finished⟩ := ih fun call member => fair call (List.mem_cons_of_mem _ member)
    refine ⟨left, ?_, finished⟩
    calc bytes = bytes.take count ++ bytes.drop count := (List.take_append_drop count bytes).symm
      _ = bytes.take count ++ (accepted calls ++ left) := by rw [← split]
      _ = _ := (List.append_assoc ..).symm
  | blocked more rest ih =>
    exact ih fun call member => fair call (List.mem_cons_of_mem _ (List.mem_cons_of_mem _ member))
  | stuck more | refused more => exact ⟨_, rfl, nofun⟩

/-- Whoever has not finished after some answers was turned away in all of them that took no byte. -/
theorem goes_on (writes : Writes fd bytes calls ends) (limit : Nat)
    (fair : ∀ count, .ok count ∈ (calls.filterMap Prod.snd).take limit → 0 < count) :
    (calls.filterMap Prod.snd).length ≤ limit ∨
      limit ≤ bytes.length + ((calls.filterMap Prod.snd).take limit).countP turnsAway := by
  induction writes generalizing limit with
  | done => exact .inl (Nat.zero_le _)
  | @taken bytes calls ends count more rest ih =>
    cases limit with
    | zero => exact .inr (Nat.zero_le _)
    | succ limit =>
      have progress : 0 < count := fair count (List.mem_cons_self ..)
      have nonempty : 0 < bytes.length := List.length_pos_iff.mpr more
      have later := ih limit fun count member => fair count (List.mem_cons_of_mem _ member)
      simp only [List.filterMap_cons, List.length_cons, List.take_succ_cons, List.countP_cons, List.length_drop] at later ⊢
      rcases later with few | many
      · exact .inl (Nat.succ_le_succ few)
      · right
        omega
  | blocked more rest ih =>
    cases limit with
    | zero => exact .inr (Nat.zero_le _)
    | succ limit =>
      have later := ih limit fun count member => fair count (List.mem_cons_of_mem _ member)
      simp only [List.filterMap_cons, List.length_cons, List.take_succ_cons, List.countP_cons] at later ⊢
      rcases later with few | many
      · exact .inl (Nat.succ_le_succ few)
      · right
        rw [if_pos (show turnsAway (.error .wouldBlock) = true from rfl)]
        omega
  | stuck more | refused more =>
    cases limit with
    | zero => exact .inr (Nat.zero_le _)
    | succ limit => exact .inl (Nat.succ_le_succ (Nat.zero_le _))

end Writes

namespace UnixPty
variable {fd : Int} {bytes : List UInt8} {pty : UnixPty}

def wrote (fd : Int) (bytes : List UInt8) (pty : UnixPty) : UnixPty :=
  { pty with system := { pty.system with
    calls := pty.system.calls ++ [.write fd bytes]
    writes := pty.system.writes.tail } }

def waited (fd : Int) (pty : UnixPty) : UnixPty :=
  { pty with system := { pty.system with
    calls := pty.system.calls ++ [.select [] [fd] (.real 1.0)]
    selects := pty.system.selects.tail } }

private theorem wrote_asks (fd : Int) (bytes : List UInt8) (pty : UnixPty) :
    Asks SystemCall.whole? UnixSystem.writes [.write fd bytes] pty (wrote fd bytes pty) :=
  ⟨rfl, (List.drop_one ..).symm⟩

private theorem waited_asks (fd : Int) (pty : UnixPty) :
    Asks SystemCall.whole? UnixSystem.writes [.select [] [fd] (.real 1.0)] pty (waited fd pty) :=
  ⟨rfl, rfl⟩

private theorem writeAll_round (fuel : Nat) (more : bytes ≠ []) : writeAll fd (fuel + 1) bytes pty =
    match pty.system.writes.headD (.ok bytes.length) with
    | .ok count => writeAll fd fuel (bytes.drop count) (wrote fd bytes pty)
    | .error kind =>
      if kind = .wouldBlock then
        match pty.system.selects.headD (.ok true) with
        | .ok _ => writeAll fd fuel bytes (waited fd (wrote fd bytes pty))
        | .error kind => .error (.failed (.fault kind "scripted")) (waited fd (wrote fd bytes pty))
      else .error (.failed (.fault kind "scripted")) (wrote fd bytes pty) := by
  have nonempty : bytes.isEmpty = false := List.isEmpty_eq_false_iff.mpr more
  have attempt : rescue (some <$> writeFd fd bytes) (· == .wouldBlock) (fun _ => pure none) pty =
      recover (· == .wouldBlock) (fun _ => pure none) ((pty.system.writes.headD (.ok bytes.length)).map some)
        (wrote fd bytes pty) :=
    rescue_answer (map_answer (writeFd_answer fd bytes pty) some) _ _
  have selected : select [] [fd] (.real 1.0) (wrote fd bytes pty) =
      answer (pty.system.selects.headD (.ok true)) (waited fd (wrote fd bytes pty)) := select_answer ..
  simp only [writeAll, nonempty, Bool.false_eq_true, if_false]
  cases answered : pty.system.writes.headD (.ok bytes.length) with
  | ok count =>
    rw [answered] at attempt
    exact bind_ok attempt _
  | error kind =>
    rw [answered] at attempt
    dsimp only
    split
    next blocks =>
      subst blocks
      refine (bind_ok attempt _).trans ?_
      dsimp only
      cases ready : pty.system.selects.headD (.ok true) with
      | ok free => exact bind_ok (selected.trans (congrArg (answer · _) ready)) _
      | error kind => exact bind_error (selected.trans (congrArg (answer · _) ready)) _
    next other =>
      have refused : recover (· == FaultKind.wouldBlock) (fun _ => pure none) (.error kind) (wrote fd bytes pty) =
          (.error (.failed (.fault kind "scripted")) (wrote fd bytes pty) : EStateM.Result Stop UnixPty (Option Nat)) := by
        rw [recover, if_neg (mt beq_iff_eq.mp other)]
        rfl
      exact bind_error (attempt.trans refused) _

/-- Writing comes to what its rounds come to. The fuel is enough: every answer of the script is one round less, and
where no answer is left all is taken. -/
theorem writeAll_writes {fuel : Nat} (ample : pty.system.writes.length < fuel ∨ bytes = []) :
    ∃ made ends, Asks SystemCall.whole? UnixSystem.writes made pty (after (writeAll fd fuel bytes) pty) ∧
      Writes fd bytes (pty.system.writes.answering SystemCall.whole? made) ends ∧
      (ends = true ↔ ∃ last, writeAll fd fuel bytes pty = .ok () last) := by
  -- A round uses up one answer of the script, so that the fuel outlasts the script. Where no answer is left all bytes
  -- are taken at once.
  induction fuel generalizing bytes pty with
  | zero =>
    obtain rfl := ample.resolve_left (Nat.not_lt_zero _)
    exact ⟨[], true, .of_alike rfl, .done, fun _ => ⟨pty, rfl⟩, fun _ => rfl⟩
  | succ fuel ih =>
    by_cases more : bytes = []
    · subst more
      exact ⟨[], true, .of_alike rfl, .done, fun _ => ⟨pty, rfl⟩, fun _ => rfl⟩
    have shorter : pty.system.writes ≠ [] → (wrote fd bytes pty).system.writes.length < fuel := by
      intro script
      have positive := List.length_pos_iff.mpr script
      have enough := ample.resolve_right more
      rw [wrote, List.length_tail]
      omega
    have round : writeAll fd (fuel + 1) bytes pty = _ := writeAll_round fuel more
    have asked := wrote_asks fd bytes pty
    have waits := waited_asks fd (wrote fd bytes pty)
    have heard (made : List SystemCall) : pty.system.writes.answering SystemCall.whole? (.write fd bytes :: made) =
        (.write fd bytes, some (pty.system.writes.headD (.ok bytes.length))) ::
          (wrote fd bytes pty).system.writes.answering SystemCall.whole? made := rfl
    cases answered : pty.system.writes.headD (.ok bytes.length) with
    | ok count =>
      simp only [answered] at round heard
      have left : (wrote fd bytes pty).system.writes.length < fuel ∨ bytes.drop count = [] := by
        by_cases script : pty.system.writes = []
        · rw [script] at answered
          cases answered
          exact .inr (List.drop_length ..)
        · exact .inl (shorter script)
      obtain ⟨made, ends, asks, writes, finishes⟩ := ih left
      refine ⟨.write fd bytes :: made, ends, after_congr round ▸ asked.trans asks, ?_, round ▸ finishes⟩
      rw [heard]
      exact .taken count more writes
    | error kind =>
      simp only [answered] at round heard
      have script : pty.system.writes ≠ [] := by
        intro script
        rw [script] at answered
        cases answered
      split at round
      next blocks =>
        subst blocks
        cases ready : pty.system.selects.headD (.ok true) with
        | ok free =>
          simp only [ready] at round
          have left : (waited fd (wrote fd bytes pty)).system.writes.length < fuel ∨ bytes = [] := .inl (shorter script)
          obtain ⟨made, ends, asks, writes, finishes⟩ := ih left
          refine ⟨.write fd bytes :: .select [] [fd] (.real 1.0) :: made, ends,
            after_congr round ▸ asked.trans (waits.trans asks), ?_, round ▸ finishes⟩
          rw [heard]
          exact .blocked more writes
        | error kind =>
          simp only [ready] at round
          refine ⟨[.write fd bytes, .select [] [fd] (.real 1.0)], false, ?_, ?_, nofun, ?_⟩
          · rw [after, round]
            exact asked.trans waits
          · rw [heard]
            exact .stuck more
          · rintro ⟨last, returned⟩
            cases round.symm.trans returned
      next other =>
        refine ⟨[.write fd bytes], false, ?_, ?_, nofun, ?_⟩
        · rw [after, round]
          exact asked
        · rw [heard]
          exact .refused more other
        · rintro ⟨last, returned⟩
          cases round.symm.trans returned

def writing (pty : UnixPty) (bytes : List UInt8) : List (Answered Nat) :=
  pty.system.writes.answering SystemCall.whole? (callsIn (write bytes) pty)

def rounds (pty : UnixPty) (bytes : List UInt8) : Nat :=
  ((pty.writing bytes).filterMap Prod.snd).length

private theorem write_cases (pty : UnixPty) (bytes : List UInt8) :
    (pty.writing bytes = [] ∧ ¬ ∃ last, write bytes pty = .ok () last) ∨
      ∃ fd ends, Writes fd bytes (pty.writing bytes) ends ∧ (ends = true ↔ ∃ last, write bytes pty = .ok () last) := by
  by_cases opened : pty.master.isSome ∧ pty.pid.isSome
  · obtain ⟨fd, master⟩ := Option.isSome_iff_exists.mp opened.1
    obtain ⟨pid, process⟩ := Option.isSome_iff_exists.mp opened.2
    have goes : write bytes pty = writeAll fd (bytes.length + pty.system.writes.length + 1) bytes pty := by
      rw [write, get_bind, master, process]
    have ample : pty.system.writes.length < bytes.length + pty.system.writes.length + 1 := by omega
    obtain ⟨made, ends, asks, writes, finishes⟩ := writeAll_writes (.inl ample)
    have same : callsIn (write bytes) pty = made := by
      rw [callsIn, after, goes]
      exact asks.callsIn_eq
    rw [writing, same, goes]
    exact .inr ⟨fd, ends, writes, finishes⟩
  · have closed : write bytes pty = fail .os "PTY is closed" pty := by
      rw [write, get_bind]
      cases master : pty.master with
      | none => rfl
      | some fd =>
        cases process : pty.pid with
        | none => rfl
        | some pid => exact absurd (by rw [master, process]; exact ⟨rfl, rfl⟩) opened
    have nothing : callsIn (write bytes) pty = [] := by
      rw [callsIn, after, closed]
      exact List.drop_length ..
    refine .inl ⟨by rw [writing, nothing]; rfl, ?_⟩
    rintro ⟨last, returned⟩
    cases closed.symm.trans returned

/-- What was taken in a writing is what was to be written if it comes to its end, and else the beginning of it. However
the system answers, a writing comes to its end after finitely many rounds if finitely many of them are turned away. -/
theorem written_exactly (bytes : List UInt8) :
    (∀ pty : UnixPty, (∀ call ∈ pty.writing bytes, call.Takes) →
      ((∃ last, write bytes pty = .ok () last) → accepted (pty.writing bytes) = bytes) ∧
        accepted (pty.writing bytes) <+: bytes) ∧
    ∀ answers : Nat → Except FaultKind Nat, (∀ place count, answers place = .ok count → 0 < count) →
      {place | answers place = .error .wouldBlock}.Finite →
      ∃ bound, ∀ (pty : UnixPty) (later : Script Nat), pty.system.writes = (List.range bound).map answers ++ later →
        pty.rounds bytes ≤ bound := by
  refine ⟨fun pty fair => ?_, fun answers progress finite => ?_⟩
  · rcases pty.write_cases bytes with ⟨nothing, fails⟩ | ⟨fd, ends, writes, finishes⟩
    · rw [nothing]
      exact ⟨fun returns => absurd returns fails, List.nil_prefix⟩
    · obtain ⟨left, split, finished⟩ := writes.accepts fair
      refine ⟨fun returns => ?_, left, split.symm⟩
      have all := finished (finishes.mpr returns)
      rw [all, List.append_nil] at split
      exact split.symm
  · refine ⟨bytes.length + finite.toFinset.card + 1, fun pty later script => ?_⟩
    set bound := bytes.length + finite.toFinset.card + 1 with bounded
    rcases pty.write_cases bytes with ⟨nothing, -⟩ | ⟨fd, ends, writes, -⟩
    · rw [rounds, nothing]
      exact Nat.zero_le _
    · have first : pty.system.writes.take bound = (List.range bound).map answers := by
        rw [script, List.take_left' (by rw [List.length_map, List.length_range])]
      have given : ((pty.writing bytes).filterMap Prod.snd).take bound <+: (List.range bound).map answers := by
        refine first ▸ Script.answers_prefix ?_ _
        rw [script, List.length_append, List.length_map, List.length_range]
        exact Nat.le_add_right _ _
      have blocked := turnsAway_count finite bound
      refine (writes.goes_on bound fun count member => ?_).resolve_right fun many => ?_
      · obtain ⟨place, -, same⟩ := List.mem_map.mp (given.subset member)
        exact progress place count same
      · have fewer := given.sublist.countP_le (p := turnsAway)
        omega

/-- A terminal that takes two bytes, then none for a while, and then the rest. -/
def hesitant : UnixPty where
  system := { writes := [.ok 2, .error .wouldBlock, .ok 3] }
  master := some 10
  pid := some 99

/-- A system that takes nothing three times, and then one byte each time. -/
def reluctant (place : Nat) : Except FaultKind Nat :=
  if place < 3 then .error .wouldBlock else .ok 1

theorem written_exactly_hesitantly :
    accepted (hesitant.writing [108, 115, 32, 45, 10]) = [108, 115, 32, 45, 10] ∧
      ∃ bound, ∀ (pty : UnixPty) (later : Script Nat), pty.system.writes = (List.range bound).map reluctant ++ later →
        pty.rounds [108, 115, 32, 45, 10] ≤ bound := by
  have calls : hesitant.writing [108, 115, 32, 45, 10] = [(.write 10 [108, 115, 32, 45, 10], some (.ok 2)),
      (.write 10 [32, 45, 10], some (.error .wouldBlock)), (.select [] [10] (.real 1.0), none),
      (.write 10 [32, 45, 10], some (.ok 3))] := rfl
  have fair : ∀ call ∈ hesitant.writing [108, 115, 32, 45, 10], call.Takes := by
    rw [calls]
    refine List.forall_mem_cons.mpr ⟨⟨by decide, by decide⟩, List.forall_mem_cons.mpr ⟨trivial, ?_⟩⟩
    exact List.forall_mem_cons.mpr ⟨trivial, List.forall_mem_singleton.mpr ⟨by decide, by decide⟩⟩
  have progress (place count : Nat) (taken : reluctant place = .ok count) : 0 < count := by
    rw [reluctant] at taken
    split at taken
    · cases taken
    · cases taken
      exact Nat.one_pos
  have finite : {place | reluctant place = .error .wouldBlock}.Finite := by
    refine (Set.finite_lt_nat 3).subset fun place blocked => ?_
    change place < 3
    by_contra later
    have taken : reluctant place = .ok 1 := if_neg later
    cases taken.symm.trans blocked
  exact ⟨((written_exactly _).1 hesitant fair).1 ⟨_, rfl⟩, (written_exactly _).2 reluctant progress finite⟩

end UnixPty

end TerminalDock.Pty
