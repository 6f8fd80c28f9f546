import TerminalDock.Proofs.SystemAnswers

/-! Who a signal may reach. The number of a process that has ended can be given to another one, so that nobody should
be signalled once it is known that the process is gone. How it ended is kept, and after that nothing is asked about it;
that there is no such process is forgotten by whoever only looks whether it still runs. -/

namespace TerminalDock.Pty
open Proofs.Steps

def SystemCall.process? : SystemCall → Option Int
  | .wait pid _ | .killTree pid => some pid
  | _ => none

/-- How it is with a process where nothing else is set: it still runs. -/
def SystemCall.awaited? : SystemCall → Option (Int × Int)
  | .wait _ _ => some (0, 0)
  | _ => none

/-- An answer about a process: it still runs, it has ended by itself or by a signal, or there is no such process. -/
inductive Telling : Except FaultKind (Int × Int) → Prop
  | runs (status : Int) : Telling (.ok (0, status))
  | ended {pid status : Int} (named : pid ≠ 0) (ends : status % 128 ≠ 127) : Telling (.ok (pid, status))
  | missing : Telling (.error .noChild)

namespace Answered

def Ended : Answered (Int × Int) → Prop
  | (.wait _ _, some (.ok (pid, _))) => pid ≠ 0
  | _ => False

def Missing : Answered (Int × Int) → Prop
  | (.wait _ _, some (.error .noChild)) => True
  | _ => False

def Signals : Answered (Int × Int) → Prop
  | (.killTree _, _) => True
  | _ => False

end Answered

/-- What may be asked after something else. -/
structure Permits (process : Int) (earlier later : Answered (Int × Int)) : Prop where
  /-- Once the status of the process is known, nobody waits for it and nobody signals it. -/
  ended : earlier.Ended → later.1.process? = none
  /-- Once it is known that there is no such process it is not signalled, unless one had only looked. -/
  missing : earlier.Missing → later.Signals → earlier = (.wait process 1, some (.error .noChild))
  /-- Nobody is signalled twice. -/
  once : earlier.Signals → ¬ later.Signals

/-- What a part of the life of a terminal asks about the process, by whether there is nothing left to ask before and
after. -/
inductive Inquiry (process : Int) : Bool → List (Answered (Int × Int)) → Bool → Prop
  | apart {known : Bool} {calls : List (Answered (Int × Int))} (others : ∀ call ∈ calls, call.1.process? = none) :
    Inquiry process known calls known
  | runs (status : Int) : Inquiry process false [(.wait process 1, some (.ok (0, status)))] false
  | misses : Inquiry process false [(.wait process 1, some (.error .noChild))] false
  | ended {pid : Int} (status : Int) (named : pid ≠ 0) :
    Inquiry process false [(.wait process 1, some (.ok (pid, status)))] true
  | kills (reply : Except FaultKind (Int × Int)) :
    Inquiry process false [(.killTree process, none), (.wait process 0, some reply)] true

inductive Inquiries (process : Int) : Bool → List (Answered (Int × Int)) → Prop
  | done {known : Bool} : Inquiries process known []
  | next {known later : Bool} {calls rest : List (Answered (Int × Int))} (inquiry : Inquiry process known calls later)
      (inquiries : Inquiries process later rest) : Inquiries process known (calls ++ rest)

section Inquiries
variable {process : Int} {known later : Bool} {calls : List (Answered (Int × Int))}

theorem Inquiry.settled (inquiry : Inquiry process true calls later) :
    later = true ∧ ∀ call ∈ calls, call.1.process? = none := by
  cases inquiry with
  | apart others => exact ⟨rfl, others⟩

theorem Inquiries.settled (inquiries : Inquiries process true calls) : ∀ call ∈ calls, call.1.process? = none := by
  generalize same : true = known at inquiries
  induction inquiries with
  | done => nofun
  | next inquiry inquiries ih =>
    subst same
    obtain ⟨still, apart⟩ := inquiry.settled
    exact List.forall_mem_append.mpr ⟨apart, ih still.symm⟩

theorem Inquiries.about (inquiries : Inquiries process known calls) :
    ∀ call ∈ calls, ∀ pid, call.1.process? = some pid → pid = process := by
  induction inquiries with
  | done => nofun
  | next inquiry inquiries ih =>
    refine List.forall_mem_append.mpr ⟨?_, ih⟩
    cases inquiry with
    | apart others => exact fun call member pid about => absurd ((others call member).symm.trans about) nofun
    | runs | misses | ended => exact List.forall_mem_singleton.mpr fun pid about => (Option.some.inj about).symm
    | kills reply =>
      refine List.forall_mem_cons.mpr ⟨fun pid about => (Option.some.inj about).symm, ?_⟩
      exact List.forall_mem_singleton.mpr fun pid about => (Option.some.inj about).symm

theorem Permits.of_apart {earlier : Answered (Int × Int)} (apart : earlier.1.process? = none)
    (later : Answered (Int × Int)) : Permits process earlier later := by
  obtain ⟨call, reply⟩ := earlier
  cases call with
  | wait | killTree => cases apart
  | _ => exact ⟨nofun, nofun, nofun⟩

theorem Permits.apart {later : Answered (Int × Int)} (apart : later.1.process? = none)
    (earlier : Answered (Int × Int)) : Permits process earlier later := by
  have silent : ¬ later.Signals := by
    obtain ⟨call, reply⟩ := later
    cases call with
    | wait | killTree => cases apart
    | _ => exact id
  exact ⟨fun _ => apart, fun _ signals => absurd signals silent, fun _ => silent⟩

/-- Inquiries ask only what may be asked: whoever gets to know how the process ended, or signals it, has nothing left to
ask. -/
theorem Inquiries.permitted (inquiries : Inquiries process known calls) : calls.Pairwise (Permits process) := by
  induction inquiries with
  | done => exact .nil
  | @next known later calls rest inquiry inquiries ih =>
    refine List.pairwise_append.mpr ⟨?_, ih, ?_⟩
    · cases inquiry with
      | apart others =>
        refine List.pairwise_iff_forall_sublist.mpr fun pair => ?_
        exact .of_apart (others _ (pair.subset (List.mem_cons_self ..))) _
      | runs | misses | ended => exact List.pairwise_singleton ..
      | kills reply => exact List.pairwise_pair.mpr ⟨nofun, nofun, fun _ => id⟩
    · intro earlier member next after
      cases inquiry with
      | apart others => exact .of_apart (others _ member) next
      | runs status =>
        obtain rfl := List.mem_singleton.mp member
        exact ⟨fun ended => absurd rfl ended, nofun, nofun⟩
      | misses =>
        obtain rfl := List.mem_singleton.mp member
        exact ⟨nofun, fun _ _ => rfl, nofun⟩
      | ended | kills => exact .apart (inquiries.settled next after) earlier

end Inquiries

namespace UnixPty
variable {pty first middle last : UnixPty} {process : Int}

/-- Nothing is left to ask about the process: it was let go of, or it is known how it ended. -/
def settled (pty : UnixPty) : Bool :=
  pty.pid.isNone || pty.exitStatus.isSome

/-- Nobody asks about the process, and what is known about it stays. -/
structure Ignores (first last : UnixPty) : Prop where
  pid : last.pid = first.pid
  exitStatus : last.exitStatus = first.exitStatus
  fork : last.system.fork = first.system.fork
  waits : last.system.waits = first.system.waits
  calls : ∃ made, last.system.calls = first.system.calls ++ made ∧ ∀ call ∈ made, call.process? = none

namespace Ignores

theorem of_alike (pid : last.pid = first.pid) (exitStatus : last.exitStatus = first.exitStatus)
    (fork : last.system.fork = first.system.fork) (waits : last.system.waits = first.system.waits)
    (calls : last.system.calls = first.system.calls) : Ignores first last :=
  ⟨pid, exitStatus, fork, waits, [], by rw [calls, List.append_nil], nofun⟩

theorem refl (pty : UnixPty) : Ignores pty pty :=
  .of_alike rfl rfl rfl rfl rfl

theorem trans (before : Ignores first middle) (later : Ignores middle last) : Ignores first last := by
  obtain ⟨some_made, calls, apart⟩ := before.calls
  obtain ⟨more, more_calls, more_apart⟩ := later.calls
  exact ⟨later.pid.trans before.pid, later.exitStatus.trans before.exitStatus, later.fork.trans before.fork,
    later.waits.trans before.waits, some_made ++ more, by rw [more_calls, calls, List.append_assoc],
    List.forall_mem_append.mpr ⟨apart, more_apart⟩⟩

private theorem moves_bind {α β : Type} {act : UnixStep α} {next : α → UnixStep β} (first : Moves Ignores act)
    (rest : ∀ value, Moves Ignores (next value)) : Moves Ignores (act >>= next) :=
  Moves.bind (fun before later => before.trans later) first rest

private theorem settled_eq (same : Ignores first last) : last.settled = first.settled := by
  rw [settled, settled, same.pid, same.exitStatus]

theorem asks (same : Ignores first last) : ∃ made, Asks SystemCall.awaited? UnixSystem.waits made first last ∧
    Inquiry process first.settled (first.system.waits.answering SystemCall.awaited? made) last.settled := by
  obtain ⟨made, calls, apart⟩ := same.calls
  have unanswered (call : SystemCall) (member : call ∈ made) : call.awaited? = none := by
    cases call with
    | wait => cases apart _ member
    | _ => rfl
  refine ⟨made, ⟨calls, ?_⟩, same.settled_eq ▸ .apart fun call member => ?_⟩
  · have none_taken : made.countP (fun call => call.awaited?.isSome) = 0 :=
      List.countP_eq_zero.mpr fun call member => by rw [unanswered call member]; nofun
    rw [same.waits, Script.rest, none_taken, List.drop_zero]
  · exact apart _ (Script.answering_calls _ made ▸ List.mem_map_of_mem member)

end Ignores

theorem Ignores.of_ok {α : Type} {act : UnixStep α} {value : α} (moves : Moves Ignores act)
    (ends : act first = .ok value last) : Ignores first last := by
  have same := moves first
  rwa [after, ends] at same

private theorem call_ignores {call : SystemCall} (apart : call.process? = none) : Moves Ignores (UnixPty.call call) :=
  fun _ => ⟨rfl, rfl, rfl, rfl, [call], rfl, List.forall_mem_singleton.mpr apart⟩

section Answers
variable {α : Type} {keep : Script α → UnixSystem → UnixSystem}

private theorem next_ignores (script : Script α) (default : α)
    (apart : ∀ rest (pty : UnixPty), Ignores pty { pty with system := keep rest pty.system }) :
    Moves Ignores (next script default keep) := by
  intro pty
  cases script with
  | nil => exact .refl pty
  | cons answer rest => cases answer <;> exact apart rest pty

private theorem ask_ignores {call : SystemCall} (other : call.process? = none) (script : UnixSystem → Script α) (default : α)
    (apart : ∀ rest (pty : UnixPty), Ignores pty { pty with system := keep rest pty.system }) :
    Moves Ignores (do UnixPty.call call; next (script (← get).system) default keep) :=
  Ignores.moves_bind (call_ignores other) fun _ => Moves.get_bind fun pty => next_ignores _ default apart pty

end Answers

private theorem closeFd_ignores (fd : Int) : Moves Ignores (closeFd fd) :=
  ask_ignores rfl UnixSystem.closes () fun _ _ => .of_alike rfl rfl rfl rfl rfl

private theorem select_ignores (reading writing : List Int) (timeout : Decimal.Quantity) :
    Moves Ignores (select reading writing timeout) :=
  ask_ignores rfl UnixSystem.selects true fun _ _ => .of_alike rfl rfl rfl rfl rfl

private theorem readFd_ignores (fd size : Int) : Moves Ignores (readFd fd size) :=
  ask_ignores rfl UnixSystem.reads [] fun _ _ => .of_alike rfl rfl rfl rfl rfl

private theorem getFlags_ignores (fd : Int) : Moves Ignores (getFlags fd) :=
  Ignores.moves_bind (call_ignores rfl) fun _ => Moves.get_bind fun pty =>
    Ignores.moves_bind (next_ignores _ () fun _ _ => .of_alike rfl rfl rfl rfl rfl) (fun _ => .pure .refl _) pty

private theorem setFlags_ignores (fd : Int) (flags : Nat) : Moves Ignores (setFlags fd flags) :=
  ask_ignores rfl UnixSystem.flagWrites () fun _ _ => .of_alike rfl rfl rfl rfl rfl

private theorem setSize_ignores (fd : Int) (size : Geometry) : Moves Ignores (setSize fd size) := by
  have packs : Moves Ignores (pack size) := fun pty => by
    unfold pack
    split <;> exact .refl pty
  exact Ignores.moves_bind packs fun _ =>
    ask_ignores rfl UnixSystem.controls () fun _ _ => .of_alike rfl rfl rfl rfl rfl

private theorem openTerminal_ignores : Moves Ignores openTerminal :=
  Moves.get_bind fun pty => Ignores.moves_bind (next_ignores _ () fun _ _ => .of_alike rfl rfl rfl rfl rfl)
    (fun _ _ => .of_alike rfl rfl rfl rfl rfl) pty

private theorem read_ignores (size : Int) (timeout : Decimal.Quantity) : Moves Ignores (read size timeout) := by
  refine Moves.get_bind fun pty => ?_
  cases pty.master with
  | none => exact .refl pty
  | some fd =>
    have selects : Moves Ignores (some <$> select [fd] [] timeout) :=
      Ignores.moves_bind (select_ignores [fd] [] timeout) fun _ => .pure .refl _
    have receives : Moves Ignores (do
        let bytes ← readFd fd size
        return if bytes.isEmpty then none else some bytes : UnixStep (Option (List UInt8))) :=
      Ignores.moves_bind (readFd_ignores fd size) fun _ => .pure .refl _
    refine Ignores.moves_bind (rescue_moves .trans selects _ fun _ => .pure .refl _) (fun ready => ?_) pty
    match ready with
    | none | some false => exact .pure .refl _
    | some true => exact rescue_moves .trans receives _ fun _ => .pure .refl _

private theorem close_ignores : Moves Ignores close := by
  refine Moves.get_bind fun pty => ?_
  cases pty.master with
  | none => exact .refl pty
  | some fd =>
    refine Ignores.moves_bind (rescue_moves .trans (closeFd_ignores fd) _ fun _ => .pure .refl _) (fun _ => ?_) pty
    exact .modify fun _ => .of_alike rfl rfl rfl rfl rfl

private theorem forkProcess_ok {pid : Int} (forks : forkProcess first = .ok pid last) :
    Ignores first last ∧ pid = first.system.fork := by
  rw [forkProcess, get_bind] at forks
  obtain ⟨_, middle, asks, gives⟩ := of_bind_ok forks
  have same := Ignores.of_ok (next_ignores _ _ fun _ _ => .of_alike rfl rfl rfl rfl rfl) asks
  cases gives
  exact ⟨same.trans (.of_alike rfl rfl rfl rfl rfl), same.fork⟩

private theorem parentSteps_ok {pid master slave : Int} (ends : parentSteps pid master slave first = .ok () last) :
    Ignores { first with pid := some pid } last := by
  have rest : Moves Ignores (do
      closeFd slave
      modify fun pty => { pty with slave := none }
      let flags ← getFlags master
      setFlags master (flags ||| nonBlocking) : UnixStep Unit) :=
    Ignores.moves_bind (closeFd_ignores slave) fun _ =>
      Ignores.moves_bind (.modify fun _ => .of_alike rfl rfl rfl rfl rfl) fun _ =>
        Ignores.moves_bind (getFlags_ignores master) fun _ => setFlags_ignores master _
  exact .of_ok rest ends

private theorem child_stops {command : List String} {cwd : String} {environment : Option Environment} {master slave : Int} :
    child command cwd environment master slave first ≠ .ok () last := by
  unfold child
  split <;> nofun

private theorem spawn_ok {command : List String} {cwd : String} {size : Geometry} {environment : Option Environment}
    (spawned : spawn command cwd size environment first = .ok () last) :
    last.pid = some first.system.fork ∧ last.exitStatus = first.exitStatus ∧
      last.system.waits = first.system.waits := by
  rw [spawn, get_bind] at spawned
  split at spawned
  · obtain ⟨_, _, fails, -⟩ := of_bind_ok spawned
    cases fails
  obtain ⟨⟨master, slave⟩, opened, opens, spawned⟩ := of_bind_ok spawned
  obtain ⟨_, held, holds, spawned⟩ := of_bind_ok spawned
  obtain ⟨_, sized, sizes, spawned⟩ := of_bind_ok spawned
  obtain ⟨pid, forked, forks, spawned⟩ := of_bind_ok spawned
  have parent : parentSteps pid master slave forked = .ok () last := by
    dsimp only at spawned
    split at spawned
    · obtain ⟨_, _, stops, -⟩ := of_bind_ok spawned
      exact absurd stops child_stops
    · exact spawned
  have marked : Ignores opened held := by
    cases holds
    exact .of_alike rfl rfl rfl rfl rfl
  have terminal : Ignores first sized :=
    (Ignores.of_ok openTerminal_ignores opens).trans (marked.trans (.of_ok (setSize_ignores slave size) sizes))
  obtain ⟨same, rfl⟩ := forkProcess_ok forks
  have before := terminal.trans same
  have later := parentSteps_ok parent
  exact ⟨by rw [later.pid, terminal.fork], later.exitStatus.trans before.exitStatus, later.waits.trans before.waits⟩

/-- What is done with a terminal. -/
inductive Act
  | look
  | read (size : Int) (timeout : Decimal.Quantity)
  | terminate
  | close

def Act.on : Act → UnixPty → UnixPty
  | .look => after isAlive
  | .read size timeout => after (UnixPty.read size timeout)
  | .terminate => after UnixPty.terminate
  | .close => after UnixPty.close

def live (acts : List Act) (pty : UnixPty) : UnixPty :=
  acts.foldl (fun pty act => act.on pty) pty

/-- The calls that were made in some acts, with what was told about the process. -/
def history (acts : List Act) (pty : UnixPty) : List (Answered (Int × Int)) :=
  pty.system.waits.answering SystemCall.awaited? ((live acts pty).system.calls.drop pty.system.calls.length)

def awaited (pid : Int) (flags : Nat) (pty : UnixPty) : UnixPty :=
  { pty with system := { pty.system with
    calls := pty.system.calls ++ [.wait pid flags]
    waits := pty.system.waits.tail } }

def signalled (pid : Int) (pty : UnixPty) : UnixPty :=
  { pty with system := { pty.system with calls := pty.system.calls ++ [.killTree pid] } }

private theorem awaited_asks (pid : Int) (flags : Nat) (pty : UnixPty) :
    Asks SystemCall.awaited? UnixSystem.waits [.wait pid flags] pty (awaited pid flags pty) :=
  ⟨rfl, (List.drop_one ..).symm⟩

private theorem signalled_asks (pid : Int) (pty : UnixPty) :
    Asks SystemCall.awaited? UnixSystem.waits [.killTree pid] pty (signalled pid pty) :=
  ⟨rfl, rfl⟩

/-- An act makes an inquiry, and knows the process that it knew or none. -/
structure Does (process : Int) (first last : UnixPty) : Prop where
  pid : last.pid = first.pid ∨ last.pid = none
  inquiry : ∃ made, Asks SystemCall.awaited? UnixSystem.waits made first last ∧
    Inquiry process first.settled (first.system.waits.answering SystemCall.awaited? made) last.settled

theorem Ignores.does (same : Ignores first last) : Does process first last :=
  ⟨.inl same.pid, same.asks⟩

/-- What is told next: where nothing is set, that the process still runs. -/
theorem told_next (telling : ∀ answer ∈ pty.system.waits, Telling answer) :
    Telling (pty.system.waits.headD (.ok (0, 0))) := by
  cases script : pty.system.waits with
  | nil => exact .runs 0
  | cons answer later => exact telling answer (script ▸ List.mem_cons_self ..)

private theorem exitCode_ends {status : Int} (ends : status % 128 ≠ 127) (pty : UnixPty) :
    ∃ code, exitCode status pty = .ok code pty := by
  unfold exitCode
  simp only [beq_iff_eq, bne_iff_ne, ends, not_false_eq_true, ne_eq, if_true]
  split <;> exact ⟨_, rfl⟩

private theorem of_unsettled (knows : pty.pid = some process ∨ pty.pid = none) (open_still : pty.settled = false) :
    pty.pid = some process ∧ pty.exitStatus = none := by
  rw [settled, Bool.or_eq_false_iff] at open_still
  refine ⟨knows.resolve_right fun gone => ?_, Option.isSome_eq_false_iff.mp open_still.2 |> Option.isNone_iff_eq_none.mp⟩
  rw [gone] at open_still
  cases open_still.1

private theorem isAlive_settled (known : pty.settled = true) : isAlive pty = .ok false pty := by
  rw [isAlive, get_bind]
  cases pid : pty.pid with
  | none => rfl
  | some pid =>
    cases status : pty.exitStatus with
    | some code => rfl
    | none =>
      rw [settled, pid, status] at known
      cases known

/-- Whether the process runs, by what is told about it. Only how it ended is kept. -/
theorem isAlive_told (pid : pty.pid = some process) (unknown : pty.exitStatus = none)
    (told : Telling (pty.system.waits.headD (.ok (0, 0)))) :
    (∃ status, pty.system.waits.headD (.ok (0, 0)) = .ok (0, status) ∧ isAlive pty = .ok true (awaited process 1 pty)) ∨
      (pty.system.waits.headD (.ok (0, 0)) = .error .noChild ∧ isAlive pty = .ok false (awaited process 1 pty)) ∨
      ∃ ended status code, ended ≠ 0 ∧ pty.system.waits.headD (.ok (0, 0)) = .ok (ended, status) ∧
        isAlive pty = .ok false { awaited process 1 pty with exitStatus := some code } := by
  have heard : rescue (some <$> wait process 1) (· == .noChild) (fun _ => pure none) pty =
      recover (· == .noChild) (fun _ => pure none) ((pty.system.waits.headD (.ok (0, 0))).map some)
        (awaited process 1 pty) := rescue_answer (map_answer (wait_answer process 1 pty) some) _ _
  generalize pty.system.waits.headD (.ok (0, 0)) = reply at told heard
  cases told with
  | runs status =>
    refine .inl ⟨status, rfl, ?_⟩
    rw [isAlive, get_bind, pid, unknown]
    exact bind_ok heard _
  | missing =>
    refine .inr (.inl ⟨rfl, ?_⟩)
    rw [isAlive, get_bind, pid, unknown]
    exact bind_ok heard _
  | @ended gone status named ends =>
    obtain ⟨code, gives⟩ := exitCode_ends ends (awaited process 1 pty)
    refine .inr (.inr ⟨gone, status, code, named, rfl, ?_⟩)
    rw [isAlive, get_bind, pid, unknown]
    refine (bind_ok heard _).trans ?_
    dsimp only
    rw [if_neg (mt beq_iff_eq.mp named), bind_ok gives]
    rfl

private theorem look_does (knows : pty.pid = some process ∨ pty.pid = none)
    (telling : ∀ answer ∈ pty.system.waits, Telling answer) : Does process pty (after isAlive pty) := by
  cases known : pty.settled with
  | true =>
    rw [after, isAlive_settled known]
    exact (Ignores.refl pty).does
  | false =>
    obtain ⟨pid, unknown⟩ := of_unsettled knows known
    have asked := awaited_asks process 1 pty
    have heard : pty.system.waits.answering SystemCall.awaited? [.wait process 1] =
        [(.wait process 1, some (pty.system.waits.headD (.ok (0, 0))))] := rfl
    rcases isAlive_told pid unknown (told_next telling) with ⟨status, reply, ends⟩ | ⟨reply, ends⟩ | ⟨gone, status,
      code, named, reply, ends⟩
    · rw [after, ends]
      refine ⟨.inl rfl, _, asked, ?_⟩
      change Inquiry process _ _ pty.settled
      rw [heard, reply, known]
      exact .runs status
    · rw [after, ends]
      refine ⟨.inl rfl, _, asked, ?_⟩
      change Inquiry process _ _ pty.settled
      rw [heard, reply, known]
      exact .misses
    · rw [after, ends]
      refine ⟨.inl rfl, _, ⟨asked.made, asked.left⟩, ?_⟩
      rw [heard, reply, known, settled, Option.isSome_some, Bool.or_true]
      exact .ended status named

private theorem terminate_settled (known : pty.settled = true) : terminate pty = .ok () { pty with pid := none } := by
  obtain ⟨system, master, slave, pid, status⟩ := pty
  cases pid with
  | none => rfl
  | some pid =>
    cases status with
    | some code => rfl
    | none => cases known

/-- A process that may still run is killed and waited for, and let go of unless the waiting fails. -/
theorem terminate_open (pid : pty.pid = some process) (unknown : pty.exitStatus = none)
    (told : Telling (pty.system.waits.headD (.ok (0, 0)))) :
    terminate pty = .ok () { awaited process 0 (signalled process pty) with pid := none } := by
  have waits : (do let _ ← wait process 0 : UnixStep Unit) (signalled process pty) =
      answer ((pty.system.waits.headD (.ok (0, 0))).map fun _ => ()) (awaited process 0 (signalled process pty)) :=
    map_answer (wait_answer process 0 (signalled process pty)) fun _ => ()
  have heard := rescue_answer waits (· == .noChild) fun _ => pure ()
  have rest : terminate pty = (do
      rescue (do let _ ← wait process 0) (· == .noChild) (fun _ => pure ())
      modify fun pty => { pty with pid := none } : UnixStep Unit) (signalled process pty) := by
    rw [terminate, get_bind, pid, unknown]
    rfl
  generalize pty.system.waits.headD (.ok (0, 0)) = reply at told heard
  rw [rest]
  cases told <;> exact bind_ok heard _

private theorem terminate_does (knows : pty.pid = some process ∨ pty.pid = none)
    (telling : ∀ answer ∈ pty.system.waits, Telling answer) : Does process pty (after terminate pty) := by
  cases known : pty.settled with
  | true =>
    rw [after, terminate_settled known]
    refine ⟨.inr rfl, [], .of_alike rfl, ?_⟩
    rw [known]
    exact .apart (List.forall_mem_nil _)
  | false =>
    obtain ⟨pid, unknown⟩ := of_unsettled knows known
    have asked := (signalled_asks process pty).trans (awaited_asks process 0 (signalled process pty))
    rw [after, terminate_open pid unknown (told_next telling)]
    refine ⟨.inr rfl, _, ⟨asked.made, asked.left⟩, ?_⟩
    rw [known]
    exact .kills _

private theorem act_does (act : Act) (knows : pty.pid = some process ∨ pty.pid = none)
    (telling : ∀ answer ∈ pty.system.waits, Telling answer) : Does process pty (act.on pty) := by
  cases act with
  | look => exact look_does knows telling
  | read size timeout => exact (read_ignores size timeout pty).does
  | terminate => exact terminate_does knows telling
  | close => exact (close_ignores pty).does

private theorem live_inquiries (acts : List Act) (knows : pty.pid = some process ∨ pty.pid = none)
    (telling : ∀ answer ∈ pty.system.waits, Telling answer) :
    ∃ made, Asks SystemCall.awaited? UnixSystem.waits made pty (live acts pty) ∧
      Inquiries process pty.settled (pty.system.waits.answering SystemCall.awaited? made) := by
  induction acts generalizing pty with
  | nil => exact ⟨[], .of_alike rfl, .done⟩
  | cons act later ih =>
    obtain ⟨same, made, asks, inquiry⟩ := act_does act knows telling
    have still : (act.on pty).pid = some process ∨ (act.on pty).pid = none :=
      same.elim (fun same => same ▸ knows) .inr
    have left : ∀ answer ∈ (act.on pty).system.waits, Telling answer := fun answer member =>
      telling answer (List.mem_of_mem_drop (asks.left ▸ member))
    obtain ⟨more, more_asks, inquiries⟩ := ih still left
    exact ⟨made ++ more, asks.trans more_asks, asks.answering_trans more ▸ .next inquiry inquiries⟩

private theorem history_inquiries (acts : List Act) (knows : pty.pid = some process ∨ pty.pid = none)
    (telling : ∀ answer ∈ pty.system.waits, Telling answer) : Inquiries process pty.settled (history acts pty) := by
  obtain ⟨made, asks, inquiries⟩ := live_inquiries acts knows telling
  rw [history, asks.made, List.drop_left]
  exact inquiries

/-- Whatever is done with a terminal that was started, all that is asked or done about a process is about the one that was
made for it. Once its status is known, it is neither waited for nor signalled. Once it is known that there is no such
process it is not signalled either, unless that was told to somebody who only looked whether it runs. -/
theorem signalled_while_there {system : UnixSystem} {command : List String} {cwd : String} {size : Geometry}
    {environment : Option Environment} (spawned : spawn command cwd size environment { system := system } = .ok () pty)
    (telling : ∀ answer ∈ system.waits, Telling answer) (acts : List Act) :
    (∀ call ∈ history acts pty, ∀ pid, call.1.process? = some pid → pid = system.fork) ∧
      (history acts pty).Pairwise (Permits system.fork) := by
  obtain ⟨pid, -, waits⟩ := spawn_ok spawned
  have inquiries := history_inquiries acts (.inl pid) (waits ▸ telling)
  exact ⟨inquiries.about, inquiries.permitted⟩

/-- A system whose process has ended by the second look. -/
def brief : UnixSystem where
  waits := [.ok (0, 0), .ok (99, 256)]

def briefly : UnixPty :=
  after (spawn ["/bin/sh", "-l"] "/tmp" ⟨24, 80⟩ none) { system := brief }

theorem signalled_while_there_briefly :
    history [.look, .read 4096 (.real 0.05), .look, .look, .terminate, .close] briefly =
        [(.wait 99 1, some (.ok (0, 0))), (.select [10] [] (.real 0.05), none), (.read 10 4096, none),
          (.wait 99 1, some (.ok (99, 256))), (.close 10, none)] ∧
      (history [.look, .read 4096 (.real 0.05), .look, .look, .terminate, .close] briefly).Pairwise (Permits 99) := by
  refine ⟨rfl, ?_⟩
  have telling : ∀ answer ∈ brief.waits, Telling answer :=
    List.forall_mem_cons.mpr ⟨.runs 0, List.forall_mem_singleton.mpr (.ended (by decide) (by decide))⟩
  have spawned : spawn ["/bin/sh", "-l"] "/tmp" ⟨24, 80⟩ none { system := brief } = .ok () briefly := rfl
  exact (signalled_while_there spawned telling _).2

/-- A system whose process was waited for by somebody else. -/
def forestalled : UnixSystem where
  waits := [.error .noChild]

/-- It is not so that nobody is signalled once it is known that there is no such process. -/
theorem signalled_while_there_fails :
    ¬ ∀ (system : UnixSystem) (command : List String) (cwd : String) (size : Geometry) (environment : Option Environment)
        (pty : UnixPty), spawn command cwd size environment { system := system } = .ok () pty →
        (∀ answer ∈ system.waits, Telling answer) → ∀ acts : List Act,
        (history acts pty).Pairwise fun earlier later =>
          (earlier.Ended ∨ earlier.Missing → ¬ later.Signals) ∧
            (earlier.Ended → ∀ flags, later.1 ≠ .wait system.fork flags) := by
  intro spares
  have kept := spares forestalled ["/bin/sh", "-l"] "/tmp" ⟨24, 80⟩ none
    (after (spawn ["/bin/sh", "-l"] "/tmp" ⟨24, 80⟩ none) { system := forestalled }) rfl
    (List.forall_mem_singleton.mpr .missing) [.look, .terminate]
  have asked : history [.look, .terminate] (after (spawn ["/bin/sh", "-l"] "/tmp" ⟨24, 80⟩ none) { system := forestalled }) =
      [(.wait 99 1, some (.error .noChild)), (.killTree 99, none), (.wait 99 0, some (.ok (0, 0)))] := rfl
  rw [asked] at kept
  exact ((List.pairwise_cons.mp kept).1 _ (List.mem_cons_self ..)).1 (.inr trivial) trivial

end UnixPty

end TerminalDock.Pty
