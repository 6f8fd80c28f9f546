import Std.Data.String.ToNat
import TerminalDock.Proofs.TableLaws
import TerminalDock.Pty.Spawner

/-! What the operations on sessions in pseudo terminals change. Each operation is taken apart once here, for every kind of
terminal, so that whoever follows the terminals need not look into it. -/

namespace TerminalDock.Pty

variable {δ : Type}

theorem modify_found {α : Type} {list : List α} {place : Nat} {item : α} (found : list[place]? = some item)
    (change : α → α) : list.modify place change = list.modify place fun _ => change item := by
  apply List.ext_getElem?
  intro other
  rw [List.getElem?_modify, List.getElem?_modify]
  split
  next here => subst here; rw [found]; rfl
  next => rfl

theorem getElem?_concat_cases {α : Type} {list : List α} {item other : α} {place : Nat}
    (found : (list ++ [item])[place]? = some other) :
    list[place]? = some other ∨ (other = item ∧ place = list.length) := by
  rw [List.getElem?_append] at found
  split at found
  next => exact .inl found
  next outside =>
    have within : place - list.length < 1 := (List.getElem?_eq_some_iff.mp found).1
    exact .inr ⟨List.mem_singleton.mp (List.mem_of_getElem? found), by omega⟩

theorem getElem?_modify_cases {α : Type} {list : List α} {item : α} {place other : Nat} {change : α → α}
    (found : (list.modify place change)[other]? = some item) :
    (other ≠ place ∧ list[other]? = some item) ∨
      (other = place ∧ ∃ old, list[place]? = some old ∧ item = change old) := by
  rw [List.getElem?_modify] at found
  obtain ⟨old, before, rfl⟩ := Option.map_eq_some_iff.mp found
  split
  next same => exact .inr ⟨same.symm, old, same ▸ before, rfl⟩
  next different => exact .inl ⟨Ne.symm different, before⟩

theorem numbered_inj {number other : Nat} (same : "term-" ++ toString number = "term-" ++ toString other) :
    number = other := by
  have numbers : Nat.repr number = Nat.repr other := (String.append_right_inj _).mp same
  exact Nat.repr_inj.mp numbers

def nameAt (place : Nat) : String :=
  "term-" ++ toString (place + 1)

theorem nameAt_inj {place other : Nat} (same : nameAt place = nameAt other) : place = other :=
  Nat.succ.inj (numbered_inj same)

def Slot.started (slot : Slot δ) : Bool :=
  slot.phase != .idle

variable [PtyDevice δ]

def Slot.ended (slot : Slot δ) : Slot δ :=
  { slot with device := (PtyDevice.terminate slot.device).2 }

/-- What becomes of a terminal that a reader looks at. -/
inductive Looked : δ → δ → Prop
  | read (device : δ) : Looked device (PtyDevice.read device).2
  | check (device : δ) : Looked device (PtyDevice.isAlive device).2
  | close {device later : δ} (looked : Looked device later) : Looked device (PtyDevice.close later)

namespace Spawner

def nextName (spawner : Spawner δ) : String :=
  nameAt spawner.counter

variable {spawner next : Spawner δ} {session : String} {place : Nat} {slot : Slot δ}

theorem terminate_found (found : spawner.sessions.find? session = some place) (there : spawner.slots[place]? = some slot) :
    spawner.terminate session = (some (PtyDevice.terminate slot.device).1, { spawner with
      sessions := spawner.sessions.remove session
      slots := spawner.slots.modify place fun _ => slot.ended }) := by
  simp only [terminate, found, there, changeSlot]
  rw [modify_found there]
  rfl

theorem terminate_unknown (unknown : spawner.sessions.find? session = none) :
    spawner.terminate session = (none, spawner) := by
  simp only [terminate, unknown]

omit [PtyDevice δ] in
theorem onDevice_unknown (unknown : spawner.sessions.find? session = none) (call : String)
    (act : δ → Except Failure Unit × δ) : spawner.onDevice call session act =
      (.error (.transport call session s!"Terminal {session} not found"), spawner) := by
  simp only [onDevice, unknown, Option.bind_none]

omit [PtyDevice δ] in
/-- What is asked of a terminal changes it, if the session is registered, and nothing else. -/
theorem onDevice_ends (spawner : Spawner δ) (call session : String) (act : δ → Except Failure Unit × δ) :
    (spawner.onDevice call session act).2 = spawner ∨
      ∃ place slot, spawner.sessions.find? session = some place ∧ spawner.slots[place]? = some slot ∧
        (spawner.onDevice call session act).2 =
          spawner.changeSlot place fun other => { other with device := (act slot.device).2 } := by
  unfold onDevice
  split
  · exact .inl rfl
  next place slot known =>
    refine .inr ⟨place, slot, ?_, ?_, ?_⟩
    · obtain ⟨registered, there, found⟩ := Option.bind_eq_some_iff.mp known
      obtain ⟨other, -, same⟩ := Option.map_eq_some_iff.mp found
      cases same
      exact there
    · obtain ⟨registered, -, found⟩ := Option.bind_eq_some_iff.mp known
      obtain ⟨other, there, same⟩ := Option.map_eq_some_iff.mp found
      cases same
      exact there
    · dsimp only
      split <;> rfl

/-- How it ends when a session is asked for: it is refused before there is a terminal, or its terminal is there but
nothing was started in it, or it is registered. -/
inductive Spawned (spawner : Spawner δ) (device : δ) : Except Failure String → Spawner δ → Prop
  | refused {failure : Failure} : Spawned spawner device (.error failure) spawner
  | failed {failure : Failure} {path : String} {slot : Slot δ} {last : Spawner δ} (name : slot.session = spawner.nextName)
      (idle : slot.phase = .idle)
      (tried : slot.device = (PtyDevice.spawn spawner.command path spawner.initialSize spawner.environment device).2 ∨
        slot.device = PtyDevice.close
          (PtyDevice.spawn spawner.command path spawner.initialSize spawner.environment device).2)
      (sessions : last.sessions = spawner.sessions) (counter : last.counter = spawner.counter + 1)
      (slots : last.slots = spawner.slots ++ [slot]) : Spawned spawner device (.error failure) last
  | started {path : String} {slot : Slot δ} {last : Spawner δ} (name : slot.session = spawner.nextName)
      (reading : slot.phase = .reading)
      (tried : slot.device = (PtyDevice.spawn spawner.command path spawner.initialSize spawner.environment device).2)
      (sessions : last.sessions = spawner.sessions.put spawner.nextName spawner.slots.length)
      (counter : last.counter = spawner.counter + 1) (slots : last.slots = spawner.slots ++ [slot]) :
      Spawned spawner device (.ok spawner.nextName) last

theorem spawn_ends (spawner : Spawner δ) (device : δ) (cwd : String) :
    Spawned spawner device (spawner.spawn device cwd).1 (spawner.spawn device cwd).2 := by
  unfold spawn
  dsimp only
  split
  · exact .refused
  next path _ =>
    split
    · exact .refused
    · split
      · exact .started rfl rfl rfl rfl rfl rfl
      · split
        · split
          · exact .failed rfl rfl (.inr rfl) rfl rfl rfl
          · exact .failed rfl rfl (.inl rfl) rfl rfl rfl
        · exact .failed rfl rfl (.inl rfl) rfl rfl rfl

/-- A reader took a step at a place: it looked at its terminal, and nothing else was touched. -/
structure ReadsAt (place : Nat) (slot : Slot δ) (spawner next : Spawner δ) : Prop where
  sessions : next.sessions = spawner.sessions
  counter : next.counter = spawner.counter
  slots : ∃ device phase, Looked slot.device device ∧ phase ≠ .idle ∧
    next.slots = spawner.slots.modify place fun _ => { slot with device := device, phase := phase }

namespace ReadsAt

theorem look (found : spawner.slots[place]? = some slot) {device : δ} (looked : Looked slot.device device)
    (phase : ReaderPhase) (busy : phase ≠ .idle) :
    ReadsAt place slot spawner (spawner.changeSlot place fun slot => { slot with device := device, phase := phase }) :=
  ⟨rfl, rfl, device, phase, looked, busy, modify_found found _⟩

theorem log (reads : ReadsAt place slot spawner next) (record : LogRecord) : ReadsAt place slot spawner (next.log record) :=
  ⟨reads.sessions, reads.counter, reads.slots⟩

theorem post (reads : ReadsAt place slot spawner next) (event : String) (payload : Event.Payload) :
    ReadsAt place slot spawner (next.post event payload) := by
  unfold Spawner.post
  split
  · exact reads
  · exact ⟨reads.sessions, reads.counter, reads.slots⟩

theorem finish (reads : ReadsAt place slot spawner next) (session : String) :
    ReadsAt place slot spawner (next.endReader place session) := by
  obtain ⟨sessions, counter, device, phase, looked, -, slots⟩ := reads
  have closed : ReadsAt place slot spawner (next.changeSlot place fun slot =>
      { slot with device := PtyDevice.close slot.device, phase := .finished }) := by
    refine ⟨sessions, counter, _, .finished, looked.close, ReaderPhase.noConfusion, ?_⟩
    rw [changeSlot, slots]
    apply List.ext_getElem?
    intro other
    rw [List.getElem?_modify, List.getElem?_modify, List.getElem?_modify]
    cases spawner.slots[other]? with
    | none => rfl
    | some old => split <;> rfl
  exact (closed.post _ _).log _

end ReadsAt

theorem readerStep_ends (step : spawner.readerStep? place = some next) :
    ∃ slot, spawner.slots[place]? = some slot ∧ slot.started = true ∧ ReadsAt place slot spawner next := by
  unfold readerStep? at step
  split at step
  · cases step
  next slot found =>
    refine ⟨slot, found, ?_⟩
    cases phase : slot.phase with
    | idle | finished => simp [phase] at step
    | reading =>
      have reading := ReadsAt.look found (.read slot.device) .reading ReaderPhase.noConfusion
      have checking := ReadsAt.look found (.read slot.device) .checking ReaderPhase.noConfusion
      refine ⟨by simp [Slot.started, phase], ?_⟩
      simp only [phase] at step
      rcases answer : PtyDevice.read slot.device with ⟨outcome, device⟩
      rw [answer] at step reading checking
      cases outcome with
      | waiting => cases step
      | ended =>
        cases step
        exact reading.finish _
      | failed failure =>
        cases step
        exact (reading.log _).finish _
      | data bytes =>
        cases bytes with
        | nil =>
          cases step
          exact checking
        | cons first rest =>
          cases step
          exact reading.post _ _
    | checking =>
      have reading := ReadsAt.look found (.check slot.device) .reading ReaderPhase.noConfusion
      refine ⟨by simp [Slot.started, phase], ?_⟩
      simp only [phase] at step
      rcases answer : PtyDevice.isAlive slot.device with ⟨alive, device⟩
      rw [answer] at step reading
      cases alive with
      | true =>
        cases step
        exact reading
      | false =>
        cases step
        exact reading.finish _

end Spawner

end TerminalDock.Pty
