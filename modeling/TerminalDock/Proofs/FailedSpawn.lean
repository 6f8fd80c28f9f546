import TerminalDock.Proofs.Steps
import TerminalDock.Pty.Spawner
import TerminalDock.Pty.Unix

/-! What is left behind when a process cannot be started. A terminal has two descriptors and then a child; whoever
asked for it gives back one of them, the master, whatever went wrong and however far it had come. -/

namespace TerminalDock.Pty
open Proofs.Steps

namespace SystemCall

def closes (fd : Int) : SystemCall → Bool
  | .close other => other == fd
  | _ => false

def kills (pid : Int) : SystemCall → Bool
  | .killTree other => other == pid
  | _ => false

def awaits (pid : Int) : SystemCall → Bool
  | .wait other _ => other == pid
  | _ => false

end SystemCall

def Script.fault? {α : Type} : Script α → Option FaultKind
  | .error kind :: _ => some kind
  | _ => none

/-- The calls that can fail once there is a terminal, in their order. -/
inductive Hurdle
  | size
  | fork
  | release
  | readFlags
  | writeFlags

namespace Hurdle

def forked : Hurdle → Bool
  | .size | .fork => false
  | .release | .readFlags | .writeFlags => true

/-- What a parent has called when a call fails, that call included. A fork is not seen. -/
def calls (master slave : Int) (size : Geometry) : Hurdle → List SystemCall
  | .size | .fork => [.setSize slave size]
  | .release => [.setSize slave size, .close slave]
  | .readFlags => [.setSize slave size, .close slave, .getFlags master]
  | .writeFlags =>
    [.setSize slave size, .close slave, .getFlags master, .setFlags master (UnixPty.newFlags ||| UnixPty.nonBlocking)]

end Hurdle

namespace UnixSystem

/-- The descriptors that were given out and that nobody tried to close. -/
def unclosed (system : UnixSystem) : List Int :=
  system.opened.filter fun fd => !system.calls.any (SystemCall.closes fd)

/-- The processes that were made and that nobody both killed and waited for. -/
def unreaped (system : UnixSystem) : List Int :=
  system.children.filter fun pid =>
    !(system.calls.any (SystemCall.kills pid) && system.calls.any (SystemCall.awaits pid))

def parentHurdle? (system : UnixSystem) : Option (Hurdle × FaultKind) :=
  (system.closes.fault?.map (Hurdle.release, ·)).or <|
  (system.flagReads.fault?.map (Hurdle.readFlags, ·)).or <|
  (system.flagWrites.fault?.map (Hurdle.writeFlags, ·))

/-- The first call that fails, and how. -/
def hurdle? (system : UnixSystem) : Option (Hurdle × FaultKind) :=
  (system.controls.fault?.map (Hurdle.size, ·)).or <|
  (system.forks.fault?.map (Hurdle.fork, ·)).or system.parentHurdle?

/-- Nothing was asked of it so far, and a terminal can be had. -/
structure Offers (system : UnixSystem) : Prop where
  calls : system.calls = []
  opened : system.opened = []
  children : system.children = []
  opens : system.openings.fault? = none
  distinct : system.descriptors.1 ≠ system.descriptors.2
  /-- Nobody is told the number of another process who is the child. -/
  parent : system.fork ≠ 0

end UnixSystem

namespace UnixPty

def attempt (script : Script Unit) (pty : UnixPty) : EStateM.Result Stop UnixPty Unit :=
  match script.fault? with
  | none => .ok () pty
  | some kind => .error (.failed (.fault kind "scripted")) pty

private theorem next_attempt (script : Script Unit) (keep : Script Unit → UnixSystem → UnixSystem) (pty : UnixPty)
    (held : keep script pty.system = pty.system) :
    next script () keep pty = attempt script { pty with system := keep script.tail pty.system } := by
  cases script with
  | nil => rw [List.tail_nil, held]; rfl
  | cons first rest => cases first <;> rfl

private theorem openTerminal_attempt (pty : UnixPty) (opens : pty.system.openings.fault? = none) :
    openTerminal pty = .ok pty.system.descriptors { pty with system := { pty.system with
      openings := pty.system.openings.tail
      opened := pty.system.opened ++ [pty.system.descriptors.1, pty.system.descriptors.2] } } := by
  have answered := next_attempt pty.system.openings (fun rest system => { system with openings := rest }) pty rfl
  rw [attempt, opens] at answered
  rw [openTerminal, get_bind, bind_ok answered]
  rfl

private theorem setSize_attempt (fd : Int) (size : Geometry) (pty : UnixPty) (fits : packable size = true) :
    setSize fd size pty = attempt pty.system.controls { pty with system := { pty.system with
      calls := pty.system.calls ++ [.setSize fd size]
      controls := pty.system.controls.tail } } := by
  have packed : pack size pty = .ok () pty := by rw [pack, if_pos fits]; rfl
  rw [setSize, bind_ok packed]
  exact next_attempt pty.system.controls (fun rest system => { system with controls := rest })
    { pty with system := { pty.system with calls := pty.system.calls ++ [.setSize fd size] } } rfl

private theorem closeFd_attempt (fd : Int) (pty : UnixPty) :
    closeFd fd pty = attempt pty.system.closes { pty with system := { pty.system with
      calls := pty.system.calls ++ [.close fd]
      closes := pty.system.closes.tail } } :=
  next_attempt pty.system.closes (fun rest system => { system with closes := rest })
    { pty with system := { pty.system with calls := pty.system.calls ++ [.close fd] } } rfl

private theorem setFlags_attempt (fd : Int) (flags : Nat) (pty : UnixPty) :
    setFlags fd flags pty = attempt pty.system.flagWrites { pty with system := { pty.system with
      calls := pty.system.calls ++ [.setFlags fd flags]
      flagWrites := pty.system.flagWrites.tail } } :=
  next_attempt pty.system.flagWrites (fun rest system => { system with flagWrites := rest })
    { pty with system := { pty.system with calls := pty.system.calls ++ [.setFlags fd flags] } } rfl

private theorem getFlags_attempt (fd : Int) (pty : UnixPty) :
    getFlags fd pty = match pty.system.flagReads.fault? with
      | none => .ok newFlags { pty with system := { pty.system with
          calls := pty.system.calls ++ [.getFlags fd]
          flagReads := pty.system.flagReads.tail } }
      | some kind => .error (.failed (.fault kind "scripted")) { pty with system := { pty.system with
          calls := pty.system.calls ++ [.getFlags fd]
          flagReads := pty.system.flagReads.tail } } := by
  have answered := next_attempt pty.system.flagReads (fun rest system => { system with flagReads := rest })
    { pty with system := { pty.system with calls := pty.system.calls ++ [.getFlags fd] } } rfl
  change (next pty.system.flagReads () _ >>= fun _ => return newFlags) _ = _
  unfold attempt at answered
  split at answered
  · rw [bind_ok answered]; rfl
  · rw [bind_error answered]

private theorem forkProcess_attempt (pty : UnixPty) :
    forkProcess pty = match pty.system.forks.fault? with
      | none => .ok pty.system.fork { pty with system := { pty.system with
          forks := pty.system.forks.tail
          children := pty.system.children ++ [pty.system.fork] } }
      | some kind => .error (.failed (.fault kind "scripted")) { pty with system := { pty.system with
          forks := pty.system.forks.tail } } := by
  have answered := next_attempt pty.system.forks (fun rest system => { system with forks := rest }) pty rfl
  rw [forkProcess, get_bind]
  unfold attempt at answered
  split at answered
  · rw [bind_ok answered]; rfl
  · rw [bind_error answered]

/-- Where a parent stands when a call has failed. -/
structure Stuck (system : UnixSystem) (size : Geometry) (hurdle : Hurdle) (pty : UnixPty) : Prop where
  master : pty.master = some system.descriptors.1
  calls : pty.system.calls = system.calls ++ hurdle.calls system.descriptors.1 system.descriptors.2 size
  opened : pty.system.opened = system.opened ++ [system.descriptors.1, system.descriptors.2]
  children : pty.system.children = system.children ++ if hurdle.forked then [system.fork] else []

private theorem parentSteps_stuck (pid master : Int) {slave : Int} {pty : UnixPty} {hurdle : Hurdle} {kind : FaultKind}
    (fails : pty.system.parentHurdle? = some (hurdle, kind)) (size : Geometry) {calls : List SystemCall}
    (before : pty.system.calls = calls ++ [.setSize slave size]) :
    hurdle.forked = true ∧ ∃ last,
      parentSteps pid master slave pty = .error (.failed (.fault kind "scripted")) last ∧
      last.master = pty.master ∧ last.system.calls = calls ++ hurdle.calls master slave size ∧
      last.system.opened = pty.system.opened ∧ last.system.children = pty.system.children := by
  unfold UnixSystem.parentHurdle? at fails
  simp only [parentSteps, bind, EStateM.bind, modify_ends,
    closeFd_attempt, attempt]
  cases closes : pty.system.closes.fault? with
  | some fault =>
    simp only [closes, Option.map_some, Option.some_or, Option.some.injEq, Prod.mk.injEq] at fails
    obtain ⟨rfl, rfl⟩ := fails
    exact ⟨rfl, _, rfl, rfl, by rw [before, List.append_assoc]; rfl, rfl, rfl⟩
  | none =>
    simp only [closes, Option.map_none, Option.none_or] at fails
    simp only [getFlags_attempt]
    cases reads : pty.system.flagReads.fault? with
    | some fault =>
      simp only [reads, Option.map_some, Option.some_or, Option.some.injEq, Prod.mk.injEq] at fails
      obtain ⟨rfl, rfl⟩ := fails
      exact ⟨rfl, _, rfl, rfl, by simp only [before, List.append_assoc]; rfl, rfl, rfl⟩
    | none =>
      simp only [reads, Option.map_none, Option.none_or] at fails
      obtain ⟨fault, writes, same⟩ := Option.map_eq_some_iff.mp fails
      cases same
      simp only [setFlags_attempt, attempt, writes]
      exact ⟨rfl, _, rfl, rfl, by simp only [before, List.append_assoc]; rfl, rfl, rfl⟩

private theorem spawn_stuck {system : UnixSystem} (command : List String) {path : String} {size : Geometry}
    (environment : Option Environment) {hurdle : Hurdle} {kind : FaultKind}
    (there : (path.isEmpty || !system.files.isDirectory (Path.ofText path)) = false) (offers : system.Offers)
    (fits : packable size = true) (fails : system.hurdle? = some (hurdle, kind)) :
    ∃ last, spawn command path size environment { system := system } =
        .error (.failed (.fault kind "scripted")) last ∧ Stuck system size hurdle last := by
  rw [spawn, get_bind]
  simp only [bind, EStateM.bind, modify_ends, there, Bool.false_eq_true, if_false, openTerminal_attempt, offers.opens,
    setSize_attempt, fits]
  unfold UnixSystem.hurdle? at fails
  cases controls : system.controls.fault? with
  | some fault =>
    simp only [controls, Option.map_some, Option.some_or, Option.some.injEq, Prod.mk.injEq] at fails
    obtain ⟨rfl, rfl⟩ := fails
    simp only [attempt, controls]
    exact ⟨_, rfl, rfl, rfl, rfl, (List.append_nil _).symm⟩
  | none =>
    simp only [controls, Option.map_none, Option.none_or] at fails
    simp only [attempt, controls, forkProcess_attempt]
    cases forks : system.forks.fault? with
    | some fault =>
      simp only [forks, Option.map_some, Option.some_or, Option.some.injEq, Prod.mk.injEq] at fails
      obtain ⟨rfl, rfl⟩ := fails
      exact ⟨_, rfl, rfl, rfl, rfl, (List.append_nil _).symm⟩
    | none =>
      simp only [forks, Option.map_none, Option.none_or] at fails
      have parent : (system.fork == 0) = false := beq_false_of_ne offers.parent
      simp only [parent, Bool.false_eq_true, if_false]
      generalize reached : ({ system := _, master := some system.descriptors.1, slave := _ } : UnixPty) = pty
      have left : pty.system.parentHurdle? = some (hurdle, kind) := by rw [← reached]; exact fails
      have sized : pty.system.calls = system.calls ++ [.setSize system.descriptors.2 size] := by rw [← reached]
      obtain ⟨forked, last, ends, master, calls, opened, children⟩ :=
        parentSteps_stuck system.fork system.descriptors.1 left size sized
      refine ⟨last, ends, ?_, calls, ?_, ?_⟩
      · rw [master, ← reached]
      · rw [opened, ← reached]
      · rw [children, ← reached, forked, if_pos rfl]

private theorem close_gives_back {pty : UnixPty} {master : Int} (held : pty.master = some master) :
    (outcome close pty).2.system.calls = pty.system.calls ++ [.close master] ∧
      (outcome close pty).2.system.opened = pty.system.opened ∧
      (outcome close pty).2.system.children = pty.system.children := by
  rw [outcome, close, get_bind]
  simp only [held, bind, EStateM.bind, rescue, closeFd_attempt, attempt]
  cases pty.system.closes.fault? with
  | none => exact ⟨rfl, rfl, rfl⟩
  | some kind =>
    cases system : kind.isSystem with
    | true =>
      simp only [system, if_true]
      exact ⟨rfl, rfl, rfl⟩
    | false => simp only [system, Bool.false_eq_true, if_false, and_self]

/-- Nobody who goes for the master gives back the slave, or a child. -/
theorem Stuck.leaves {system : UnixSystem} {size : Geometry} {hurdle : Hurdle} {pty : UnixPty}
    (stuck : Stuck system size hurdle pty) (offers : system.Offers) :
    (outcome close pty).2.system.unclosed = (if hurdle.forked then [] else [system.descriptors.2]) ∧
      (outcome close pty).2.system.unreaped = (if hurdle.forked then [system.fork] else []) := by
  obtain ⟨calls, opened, children⟩ := close_gives_back stuck.master
  rw [stuck.calls, offers.calls, List.nil_append] at calls
  rw [stuck.opened, offers.opened, List.nil_append] at opened
  rw [stuck.children, offers.children, List.nil_append] at children
  have other : (system.descriptors.1 == system.descriptors.2) = false := beq_false_of_ne offers.distinct
  unfold UnixSystem.unclosed UnixSystem.unreaped
  rw [calls, opened, children]
  cases hurdle <;> simp [Hurdle.calls, Hurdle.forked, SystemCall.closes, SystemCall.kills, offers.distinct]

end UnixPty

namespace Spawner

/-- A session can be started in a directory, under a name that nobody has. -/
structure Starts (spawner : Spawner UnixPty) (system : UnixSystem) (cwd path : String) : Prop where
  chosen : (if cwd.isEmpty then spawner.home.map Path.text else .ok cwd) = .ok path
  named : path.isEmpty = false
  there : spawner.files.isDirectory (Path.ofText path) = true
  found : system.files.isDirectory (Path.ofText path) = true
  unused : spawner.has ("term-" ++ toString (spawner.counter + 1)) = false
  fits : UnixPty.packable spawner.initialSize = true

/-- A system fault behind the opening of the terminal is a spawn failure: no session is registered. One thing is left
behind, and it depends on how far the spawn had come: the slave if there was no child yet, else the child. -/
theorem failed_spawn_leaves {spawner : Spawner UnixPty} {system : UnixSystem} {cwd path : String}
    (starts : spawner.Starts system cwd path) (offers : system.Offers) {hurdle : Hurdle} {kind : FaultKind}
    (fails : system.hurdle? = some (hurdle, kind)) (fault : kind.isSystem = true)
    {last : Spawner UnixPty} {answer : Except Failure String}
    (ends : spawner.spawn { system := system } cwd = (answer, last)) :
    answer = .error (.spawn cwd "scripted") ∧ last.sessions = spawner.sessions ∧
      ∃ slot, last.slots = spawner.slots ++ [slot] ∧ last.has slot.session = false ∧
        slot.device.system.unclosed = (if hurdle.forked then [] else [system.descriptors.2]) ∧
        slot.device.system.unreaped = (if hurdle.forked then [system.fork] else []) := by
  have there : (path.isEmpty || !system.files.isDirectory (Path.ofText path)) = false := by
    rw [starts.named, starts.found]; rfl
  obtain ⟨pty, stops, stuck⟩ :=
    UnixPty.spawn_stuck spawner.command (some spawner.environment) there offers starts.fits fails
  have spawned : PtyDevice.spawn spawner.command path spawner.initialSize spawner.environment
      ({ system := system } : UnixPty) = (.error (.fault kind "scripted"), pty) := by
    change UnixPty.outcome _ _ = _
    rw [UnixPty.outcome, stops]
  have wording : (Failure.fault kind "scripted").text = "scripted" := by
    cases kind <;> first | rfl | cases fault
  unfold Spawner.spawn at ends
  simp only [starts.chosen, starts.there, Bool.not_true, Bool.false_eq_true, if_false, spawned, fault, Bool.true_or,
    if_true, wording, Prod.mk.injEq] at ends
  obtain ⟨rfl, rfl⟩ := ends
  exact ⟨rfl, rfl, _, rfl, starts.unused, stuck.leaves offers⟩

def ofShells : Spawner UnixPty where
  command := ["/bin/sh", "-l"]
  environment := []
  home := .ok (Path.ofText "/tmp")

private theorem ofShells_starts {system : UnixSystem} (files : system.files = .basic) :
    ofShells.Starts system "/tmp" "/tmp" where
  chosen := if_neg (by decide)
  named := by decide
  there := by decide +kernel
  found := by rw [files]; decide +kernel
  unused := rfl
  fits := by decide

/-- The slave cannot be closed in the parent, so that the child is there already. -/
def stubborn : UnixSystem where
  closes := [.error .os]

theorem failed_spawn_leaves_child :
    ∃ slot, (ofShells.spawn { system := stubborn } "/tmp").2.slots = [slot] ∧ slot.device.system.unclosed = [] ∧
      slot.device.system.unreaped = [99] := by
  have offers : stubborn.Offers := ⟨rfl, rfl, rfl, rfl, by decide, by decide⟩
  have fails : stubborn.hurdle? = some (.release, .os) := rfl
  obtain ⟨-, -, slot, slots, -, left⟩ := failed_spawn_leaves (ofShells_starts rfl) offers fails rfl rfl
  exact ⟨slot, slots, left⟩

/-- A system that does not let the size be set, so that there is no child yet. -/
def sizeless : UnixSystem where
  controls := [.error .os]

/-- It is not so that nothing is left behind: the slave is. -/
theorem failed_spawn_leaves_fails :
    ¬ ∀ (spawner : Spawner UnixPty) (system : UnixSystem) (cwd path : String) (hurdle : Hurdle)
        (kind : FaultKind), spawner.Starts system cwd path → system.Offers →
        system.hurdle? = some (hurdle, kind) → kind.isSystem = true →
        ∃ slot, (spawner.spawn { system := system } cwd).2.slots = spawner.slots ++ [slot] ∧
          (spawner.spawn { system := system } cwd).2.has slot.session = false ∧
          slot.device.system.unclosed = [] ∧ slot.device.system.unreaped = [] := by
  intro leavesNothing
  have offers : sizeless.Offers := ⟨rfl, rfl, rfl, rfl, by decide, by decide⟩
  obtain ⟨slot, slots, -, unclosed, -⟩ :=
    leavesNothing ofShells sizeless "/tmp" "/tmp" .size .os (ofShells_starts rfl) offers rfl rfl
  have left : (ofShells.spawn { system := sizeless } "/tmp").2.slots.map (·.device.system.unclosed) = [[11]] := by
    decide +kernel
  rw [slots] at left
  have same : [slot.device.system.unclosed] = [[11]] := left
  rw [unclosed] at same
  cases same

end Spawner
end TerminalDock.Pty
