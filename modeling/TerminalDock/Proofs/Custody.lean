import Mathlib.Data.List.Perm.Basic
import Mathlib.Logic.Relation
import TerminalDock.Proofs.Processes
import TerminalDock.Proofs.Shutdown

/-! Closes that take their time. A close takes its session out at once and leaves the end of the process to a worker, while
everything else goes on. Whatever is done to the sessions does a few things to them, one at a time: a terminal is added,
with a process or without one, a session is taken out, a process is ended, or something is passed on to the terminals of
registered sessions. -/

namespace TerminalDock.Pty

/-- What a user of a session sends to its terminal. -/
def DeviceCall.isTraffic : DeviceCall → Bool
  | .write _ | .resize _ => true
  | _ => false

variable {δ : Type}

namespace Watched

def ends (terminal : Watched δ) : Nat :=
  terminal.asked.count .terminate

def traffic (terminal : Watched δ) : List DeviceCall :=
  terminal.asked.filter DeviceCall.isTraffic

private theorem ends_add {terminal : Watched δ} {call : DeviceCall} {asked : List DeviceCall} (other : call ≠ .terminate)
    (same : asked = terminal.asked ++ [call]) : asked.count .terminate = terminal.ends := by
  rw [same, List.count_append, List.count_singleton, if_neg (by simpa using other), Nat.add_zero]
  rfl

end Watched

/-- Sessions in pseudo terminals, the closes that a worker has yet to carry out, each with the place of its terminal, the
sessions that a shutdown has yet to come to, and the sessions that were given out. -/
structure Custody (δ : Type) where
  spawner : Spawner (Watched δ)
  leaving : List (String × Nat) := []
  sweeping : List String := []
  given : List String := []

namespace Custody

def living (custody : Custody δ) : Assoc String Nat :=
  custody.spawner.sessions ++ custody.leaving

theorem count_living (custody : Custody δ) (place : Nat) : custody.living.values.count place =
    custody.spawner.sessions.values.count place + (custody.leaving.map Prod.snd).count place := by
  rw [living, Assoc.values, List.map_append, List.count_append]
  rfl

variable {first last : Custody δ}

theorem living_take {id : String} {place : Nat} (found : first.spawner.sessions.find? id = some place)
    (sessions : last.spawner.sessions = first.spawner.sessions.remove id)
    (leaving : last.leaving = first.leaving ++ [(id, place)]) : last.living.Perm first.living := by
  have moved := (Assoc.perm_remove found).append_right first.leaving
  rw [living, living, sessions, leaving, ← List.append_assoc]
  exact (List.perm_append_singleton _ _).trans moved.symm

theorem living_finish {turn : Nat} {id : String} {place : Nat} (next : first.leaving[turn]? = some (id, place))
    (sessions : last.spawner.sessions = first.spawner.sessions) (leaving : last.leaving = first.leaving.eraseIdx turn) :
    first.living.Perm ((id, place) :: last.living) := by
  obtain ⟨within, here⟩ := List.getElem?_eq_some_iff.mp next
  have apart : first.leaving.Perm ((id, place) :: first.leaving.eraseIdx turn) :=
    here ▸ (List.getElem_cons_eraseIdx_perm within).symm
  rw [living, living, sessions, leaving]
  exact (apart.append_left _).trans List.perm_middle

end Custody

namespace Spawner

/-- No process is started or ended, and only the terminals of registered sessions are asked for anything. -/
structure PassesOn (first last : Spawner (Watched δ)) : Prop where
  sessions : last.sessions = first.sessions
  counter : last.counter = first.counter
  length : last.slots.length = first.slots.length
  slots : ∀ (place : Nat) slot, last.slots[place]? = some slot → ∃ old, first.slots[place]? = some old ∧
    slot.session = old.session ∧ slot.started = old.started ∧ slot.device.ends = old.device.ends ∧
      (place ∉ first.sessions.values → slot.device.asked = old.device.asked)

namespace PassesOn
variable {first middle last spawner : Spawner (Watched δ)}

theorem of_alike (sessions : last.sessions = first.sessions) (counter : last.counter = first.counter)
    (slots : last.slots = first.slots) : PassesOn first last :=
  ⟨sessions, counter, congrArg List.length slots, fun _ slot found => ⟨slot, slots ▸ found, rfl, rfl, rfl, fun _ => rfl⟩⟩

protected theorem refl (spawner : Spawner (Watched δ)) : PassesOn spawner spawner :=
  .of_alike rfl rfl rfl

private theorem andAlike (passes : PassesOn first middle) (sessions : last.sessions = middle.sessions)
    (counter : last.counter = middle.counter) (slots : last.slots = middle.slots) : PassesOn first last :=
  ⟨sessions.trans passes.sessions, counter.trans passes.counter, (congrArg List.length slots).trans passes.length,
    fun place slot found => passes.slots place slot (slots ▸ found)⟩

theorem of_change {place : Nat} {old changed : Slot (Watched δ)} {change : Slot (Watched δ) → Slot (Watched δ)}
    (there : spawner.slots[place]? = some old) (same : change old = changed) (session : changed.session = old.session)
    (started : changed.started = old.started) (ends : changed.device.ends = old.device.ends)
    (asked : place ∉ spawner.sessions.values → changed.device.asked = old.device.asked) :
    PassesOn spawner (spawner.changeSlot place change) := by
  refine ⟨rfl, rfl, List.length_modify .., fun other slot found => ?_⟩
  rcases getElem?_modify_cases found with ⟨-, found⟩ | ⟨rfl, was, before, rfl⟩
  · exact ⟨slot, found, rfl, rfl, rfl, fun _ => rfl⟩
  · cases there.symm.trans before
    rw [same]
    exact ⟨old, there, session, started, ends, asked⟩

end PassesOn

variable (spawner : Spawner (Watched δ))

private theorem onDevice_passesOn (call session : String) {act : Watched δ → Except Failure Unit × Watched δ}
    (ends : ∀ terminal, (act terminal).2.ends = terminal.ends) :
    PassesOn spawner (spawner.onDevice call session act).2 := by
  rcases spawner.onDevice_ends call session act with same | ⟨place, slot, found, there, same⟩
  · rw [same]
    exact .refl spawner
  · rw [same]
    refine .of_change there rfl rfl rfl (ends _) fun gone => ?_
    exact absurd (Assoc.mem_values_of_find? found) gone

theorem befall_passesOn (place : Nat) (change : δ → δ) : PassesOn spawner (spawner.changeSlot place fun slot =>
    { slot with device := { slot.device with device := change slot.device.device } }) := by
  cases found : spawner.slots[place]? with
  | some slot => exact .of_change found rfl rfl rfl rfl fun _ => rfl
  | none => exact .of_alike rfl rfl (List.modify_eq_self (List.getElem?_eq_none_iff.mp found))

end Spawner

variable [PtyDevice δ]

theorem Slot.ends_ended (slot : Slot (Watched δ)) : slot.ended.device.ends = slot.device.ends + 1 := by
  change (slot.device.asked ++ [DeviceCall.terminate]).count .terminate = _
  rw [List.count_append, List.count_singleton_self]
  rfl

theorem Slot.traffic_ended (slot : Slot (Watched δ)) : slot.ended.device.traffic = slot.device.traffic := by
  change (slot.device.asked ++ [DeviceCall.terminate]).filter DeviceCall.isTraffic = _
  rw [List.filter_append]
  exact List.append_nil _

theorem Looked.asked {first last : Watched δ} (looked : Looked first last) : last.asked = first.asked := by
  induction looked with
  | read | check => rfl
  | close _ same => exact same

/-- What is done to sessions, and what happens meanwhile. -/
inductive Deed (δ : Type)
  | spawn (terminal : δ) (cwd : String)
  | close (session : String)
  | resize (session : String) (size : Geometry)
  | sendInput (session : String) (bytes : List UInt8)
  | shutdown
  /-- The shutdown that is under way comes to its next session. -/
  | sweep
  /-- A worker carries out one of the closes that are under way. -/
  | work (turn : Nat)
  /-- The reader of a terminal takes a step. -/
  | read (place : Nat)
  /-- Something happens to a terminal: output arrives in it, or its process exits. -/
  | befall (place : Nat) (change : δ → δ)
  /-- The directories change, or the event loop ends. -/
  | surround (home : Except Failure Path) (files : FileSystem) (loopClosed : Bool)

/-- Whether a deed needs no turn of the event loop, which has none to give while a shutdown is under way. -/
def Deed.aside : Deed δ → Bool
  | .sweep | .work _ | .read _ | .befall _ _ | .surround _ _ _ => true
  | _ => false

namespace Custody

/-- A close begins. The session is taken out, and a worker is to end its process. -/
def beginClose (custody : Custody δ) (session : String) : Custody δ :=
  match custody.spawner.sessions.find? session with
  | none => custody
  | some place =>
    { custody with
      spawner := { custody.spawner with sessions := custody.spawner.sessions.remove session }
      leaving := custody.leaving ++ [(session, place)] }

def work (custody : Custody δ) (turn : Nat) : Custody δ :=
  match custody.leaving[turn]? with
  | none => custody
  | some (session, place) =>
    match custody.spawner.slots[place]? with
    | none => custody
    | some slot =>
      let spawner := custody.spawner.changeSlot place fun _ => slot.ended
      { custody with
        spawner := match (PtyDevice.terminate slot.device).1 with
          | .ok () => spawner.log (.info s!"[TERMINAL] closed | id={session}")
          | .error _ => spawner
        leaving := custody.leaving.eraseIdx turn }

def sweep (custody : Custody δ) : Custody δ :=
  match custody.sweeping with
  | [] => custody
  | session :: rest =>
    match custody.spawner.terminate session with
    | (some (.error failure), spawner) =>
      if failure.isSystem then
        { custody with
          spawner := spawner.log
            (.warning s!"[TERMINAL] shutdown terminate failed | id={session} error={failure.text}")
          sweeping := rest }
      else { custody with spawner := spawner, sweeping := [] }
    | (_, spawner) => { custody with spawner := spawner, sweeping := rest }

def act (custody : Custody δ) : Deed δ → Custody δ
  | .spawn terminal cwd =>
    let (answer, spawner) := custody.spawner.spawn { device := terminal } cwd
    { custody with spawner := spawner, given := custody.given ++ answer.toOption.toList }
  | .close session => custody.beginClose session
  | .resize session size => { custody with spawner := (custody.spawner.resize session size).2 }
  | .sendInput session bytes => { custody with spawner := (custody.spawner.sendInput session bytes).2 }
  | .shutdown => { custody with sweeping := custody.spawner.sessions.keys }
  | .sweep => custody.sweep
  | .work turn => custody.work turn
  | .read place => { custody with spawner := (custody.spawner.readerStep? place).getD custody.spawner }
  | .befall place change =>
    { custody with spawner := custody.spawner.changeSlot place fun slot =>
        { slot with device := { slot.device with device := change slot.device.device } } }
  | .surround home files loopClosed =>
    { custody with spawner := { custody.spawner with home := home, files := files, loopClosed := loopClosed } }

/-- What needs a turn of the event loop is not done during a shutdown. -/
def step (custody : Custody δ) (deed : Deed δ) : Custody δ :=
  if deed.aside || custody.sweeping.isEmpty then custody.act deed else custody

def run (custody : Custody δ) (deeds : List (Deed δ)) : Custody δ :=
  deeds.foldl step custody

theorem run_append (custody : Custody δ) (before after : List (Deed δ)) :
    custody.run (before ++ after) = (custody.run before).run after :=
  List.foldl_append

private theorem run_sweeps (custody : Custody δ) (rest : List String) :
    ({ custody with sweeping := rest } : Custody δ).run (List.replicate rest.length .sweep) =
      { custody with spawner := (custody.spawner.endAll rest).2, sweeping := [] } := by
  have still (custody : Custody δ) (count : Nat) (rested : custody.sweeping = []) :
      custody.run (List.replicate count .sweep) = custody := by
    induction count with
    | zero => rfl
    | succ count ih =>
      have swept : custody.step .sweep = custody := by simp only [step, act, sweep, rested, ite_self]
      rw [List.replicate_succ, run, List.foldl_cons, swept]
      exact ih
  induction rest generalizing custody with
  | nil => rfl
  | cons id rest ih =>
    rw [List.length_cons, List.replicate_succ, run, List.foldl_cons, Spawner.endAll]
    simp only [step, Deed.aside, Bool.true_or, if_true, act, sweep]
    generalize custody.spawner.terminate id = ended
    obtain ⟨_ | failure | _, spawner⟩ := ended
    · exact ih { custody with spawner := spawner }
    · dsimp only
      split
      · exact ih { custody with spawner := _ }
      · exact still _ _ rfl
    · exact ih { custody with spawner := spawner }

/-- A shutdown that nothing comes between. -/
theorem shutdown_at_once (custody : Custody δ) (free : custody.sweeping = []) :
    (custody.step .shutdown).run (List.replicate custody.spawner.sessions.length .sweep) =
      { custody with spawner := custody.spawner.shutdown.2 } := by
  have sweeps := custody.run_sweeps custody.spawner.sessions.keys
  rw [Assoc.keys, List.length_map] at sweeps
  rw [step, free]
  refine Eq.trans sweeps ?_
  rw [← free]
  rfl

theorem close_at_once (custody : Custody δ) (session : String) :
    ((custody.beginClose session).work custody.leaving.length).spawner = (custody.spawner.close session).2 := by
  cases found : custody.spawner.sessions.find? session with
  | none =>
    have begun : custody.beginClose session = custody := by simp only [beginClose, found]
    rw [begun, work, List.getElem?_eq_none (Nat.le_refl _)]
    simp only [Spawner.close, Spawner.terminate_unknown found]
  | some place =>
    have last : (custody.leaving ++ [(session, place)])[custody.leaving.length]? = some (session, place) :=
      List.getElem?_concat_length
    simp only [beginClose, found, work, last]
    cases there : custody.spawner.slots[place]? with
    | none => simp only [Spawner.close, Spawner.terminate, found, there]
    | some slot =>
      simp only [Spawner.close, Spawner.terminate_found found there]
      cases (PtyDevice.terminate slot.device).1 <;> rfl

end Custody

namespace Spawner

variable (spawner : Spawner (Watched δ))

theorem sendInput_passesOn (session : String) (bytes : List UInt8) :
    PassesOn spawner (spawner.sendInput session bytes).2 :=
  spawner.onDevice_passesOn _ session fun _ => Watched.ends_add (nofun : DeviceCall.write bytes ≠ .terminate) rfl

theorem resize_passesOn (session : String) (size : Geometry) : PassesOn spawner (spawner.resize session size).2 := by
  have passes : PassesOn spawner (spawner.onDevice "resize" session (PtyDevice.resize size)).2 :=
    spawner.onDevice_passesOn _ session fun _ => Watched.ends_add (nofun : DeviceCall.resize size ≠ .terminate) rfl
  unfold resize
  generalize spawner.onDevice "resize" session (PtyDevice.resize size) = result at passes
  obtain ⟨_ | _, last⟩ := result
  · exact passes
  · exact passes.andAlike rfl rfl rfl

theorem readerStep_passesOn (place : Nat) : PassesOn spawner ((spawner.readerStep? place).getD spawner) := by
  cases step : spawner.readerStep? place with
  | none => exact .refl spawner
  | some next =>
    obtain ⟨slot, found, started, sessions, counter, device, phase, looked, busy, slots⟩ := readerStep_ends step
    have changed : PassesOn spawner (spawner.changeSlot place fun _ => { slot with device := device, phase := phase }) :=
      .of_change found rfl rfl ((bne_iff_ne.mpr busy).trans started.symm) (congrArg (List.count _) looked.asked)
        fun _ => looked.asked
    exact changed.andAlike sessions counter slots

end Spawner

namespace Custody
open Spawner

/-- What a deed can do to the sessions, one thing at a time. -/
inductive Effect : Custody δ → Custody δ → Prop
  | pass {first last : Custody δ} (passes : PassesOn first.spawner last.spawner) (leaving : last.leaving = first.leaving)
      (given : last.given = first.given) : Effect first last
  | add {first last : Custody δ} {slot : Slot (Watched δ)} (name : slot.session = first.spawner.nextName)
      (idle : slot.started = false) (unended : slot.device.ends = 0)
      (sessions : last.spawner.sessions = first.spawner.sessions)
      (counter : last.spawner.counter = first.spawner.counter + 1)
      (slots : last.spawner.slots = first.spawner.slots ++ [slot]) (leaving : last.leaving = first.leaving)
      (given : last.given = first.given) : Effect first last
  | start {first last : Custody δ} {slot : Slot (Watched δ)} (name : slot.session = first.spawner.nextName)
      (started : slot.started = true) (unended : slot.device.ends = 0)
      (sessions : last.spawner.sessions = first.spawner.sessions.put first.spawner.nextName first.spawner.slots.length)
      (counter : last.spawner.counter = first.spawner.counter + 1)
      (slots : last.spawner.slots = first.spawner.slots ++ [slot]) (leaving : last.leaving = first.leaving)
      (given : last.given = first.given ++ [first.spawner.nextName]) : Effect first last
  | take {first last : Custody δ} {id : String} {place : Nat} (found : first.spawner.sessions.find? id = some place)
      (sessions : last.spawner.sessions = first.spawner.sessions.remove id)
      (counter : last.spawner.counter = first.spawner.counter) (slots : last.spawner.slots = first.spawner.slots)
      (leaving : last.leaving = first.leaving ++ [(id, place)]) (given : last.given = first.given) : Effect first last
  | finish {first last : Custody δ} {turn : Nat} {id : String} {place : Nat} {slot : Slot (Watched δ)}
      (next : first.leaving[turn]? = some (id, place)) (there : first.spawner.slots[place]? = some slot)
      (sessions : last.spawner.sessions = first.spawner.sessions) (counter : last.spawner.counter = first.spawner.counter)
      (slots : last.spawner.slots = first.spawner.slots.modify place fun _ => slot.ended)
      (leaving : last.leaving = first.leaving.eraseIdx turn) (given : last.given = first.given) : Effect first last

abbrev Effects : Custody δ → Custody δ → Prop :=
  Relation.ReflTransGen Effect

variable {custody first last : Custody δ}

end Custody

end TerminalDock.Pty
