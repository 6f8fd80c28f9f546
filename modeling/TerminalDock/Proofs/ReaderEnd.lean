import TerminalDock.Proofs.Readers

/-! The end of what a process writes. The kernel keeps what a process wrote until it is read, also after the process
is gone. A reader asks whether the process still runs after a read that brought nothing; the process may have written
in between. -/

namespace TerminalDock.Pty

/-- A pseudo terminal as the kernel keeps it. -/
structure KernelPty where
  buffer : List UInt8 := []
  running : Bool := true
  written : List UInt8 := []
  /-- A read brings at most one byte more than this. -/
  share : Nat := 4095

namespace KernelPty

def write (bytes : List UInt8) (pty : KernelPty) : KernelPty :=
  if pty.running then { pty with buffer := pty.buffer ++ bytes, written := pty.written ++ bytes } else pty

def exit (pty : KernelPty) : KernelPty := { pty with running := false }

/-- A read brings what is there. With nothing there it brings nothing in time, or the end if the process is gone. -/
instance : PtyDevice KernelPty where
  pid _ := 1
  spawn _ _ _ _ pty := (.ok (), pty)
  read pty :=
    if pty.buffer.isEmpty then (if pty.running then .data [] else .ended, pty)
    else (.data (pty.buffer.take (pty.share + 1)), { pty with buffer := pty.buffer.drop (pty.share + 1) })
  isAlive pty := (pty.running, pty)
  write _ pty := (.ok (), pty)
  resize _ pty := (.ok (), pty)
  terminate pty := (.ok (), pty.exit)
  close pty := pty

end KernelPty

namespace Taped

private theorem read_nothing {terminal : Taped KernelPty} (empty : terminal.device.buffer = []) :
    PtyDevice.read terminal = (if terminal.device.running then .data [] else .ended, terminal) := by
  have answer : PtyDevice.read terminal.device =
      (if terminal.device.running then .data [] else .ended, terminal.device) := by
    simp [PtyDevice.read, empty]
  change ((PtyDevice.read terminal.device).1, Taped.mk (PtyDevice.read terminal.device).2
    (terminal.tape ++ brought (PtyDevice.read terminal.device).1)) = _
  rw [answer]
  split <;> simp [brought]

private theorem read_something {terminal : Taped KernelPty} {first : UInt8} {rest : List UInt8}
    (buffer : terminal.device.buffer = first :: rest) :
    PtyDevice.read terminal = (.data (first :: rest.take terminal.device.share),
      { device := { terminal.device with buffer := rest.drop terminal.device.share }
        tape := terminal.tape ++ [first :: rest.take terminal.device.share] }) := by
  have answer : PtyDevice.read terminal.device = (.data (first :: rest.take terminal.device.share),
      { terminal.device with buffer := rest.drop terminal.device.share }) := by
    simp [PtyDevice.read, buffer]
  change ((PtyDevice.read terminal.device).1, Taped.mk (PtyDevice.read terminal.device).2
    (terminal.tape ++ brought (PtyDevice.read terminal.device).1)) = _
  rw [answer]
  rfl

end Taped

/-- What happens at a terminal: its process writes or exits, or its reader makes a step. -/
inductive Pulse
  | write (bytes : List UInt8)
  | exit
  | read
  deriving DecidableEq

namespace Slot

def onKernel (change : KernelPty → KernelPty) (slot : Slot (Taped KernelPty)) : Slot (Taped KernelPty) :=
  { slot with device := { slot.device with device := change slot.device.device } }

def pulse (slot : Slot (Taped KernelPty)) : Pulse → Slot (Taped KernelPty)
  | .write bytes => slot.onKernel (·.write bytes)
  | .exit => slot.onKernel KernelPty.exit
  | .read =>
    let pty := slot.device.device
    match slot.phase with
    | .idle | .finished => slot
    | .checking => { slot with phase := if pty.running then .reading else .finished }
    | .reading =>
      if pty.buffer.isEmpty then { slot with phase := if pty.running then .checking else .finished }
      else
        { slot with device :=
          { device := { pty with buffer := pty.buffer.drop (pty.share + 1) }
            tape := slot.device.tape ++ [pty.buffer.take (pty.share + 1)] } }

def pulses (slot : Slot (Taped KernelPty)) (events : List Pulse) : Slot (Taped KernelPty) :=
  events.foldl pulse slot

/-- The reader is about to see that the process is gone, and there is something left to read. -/
def Overtaken (slot : Slot (Taped KernelPty)) : Prop :=
  slot.phase = .checking ∧ slot.device.device.running = false ∧ slot.device.device.buffer ≠ []

private theorem session_pulse (slot : Slot (Taped KernelPty)) (event : Pulse) :
    (slot.pulse event).session = slot.session := by
  cases event with
  | write bytes => rfl
  | exit => rfl
  | read =>
    unfold pulse
    dsimp only
    split
    · rfl
    · rfl
    · rfl
    · split <;> rfl

/-- What was written was read or is still there, and the reader goes on as long as the process does. -/
structure Sane (slot : Slot (Taped KernelPty)) : Prop where
  bytes : slot.device.tape.flatten ++ slot.device.device.buffer = slot.device.device.written
  gone : slot.phase = .finished → slot.device.device.running = false

/-- The reader has finished and left something behind. -/
structure Lost (slot : Slot (Taped KernelPty)) : Prop where
  finished : slot.phase = .finished
  gone : slot.device.device.running = false
  unread : slot.device.device.buffer ≠ []

theorem Sane.pulse {slot : Slot (Taped KernelPty)} (sane : slot.Sane) (event : Pulse) : (slot.pulse event).Sane := by
  obtain ⟨bytes, gone⟩ := sane
  cases event with
  | write more =>
    cases running : slot.device.device.running with
    | true =>
      refine ⟨?_, fun finished => ?_⟩
      · simp [Slot.pulse, onKernel, KernelPty.write, running, ← bytes]
      · rw [gone finished] at running
        cases running
    | false =>
      have same : slot.pulse (.write more) = slot := by simp [Slot.pulse, onKernel, KernelPty.write, running]
      rw [same]
      exact ⟨bytes, gone⟩
  | exit => exact ⟨bytes, fun _ => rfl⟩
  | read =>
    cases phase : slot.phase with
    | idle | finished => simpa [Slot.pulse, phase] using Sane.mk bytes gone
    | checking =>
      refine ⟨by simpa [Slot.pulse, phase] using bytes, ?_⟩
      cases running : slot.device.device.running <;> simp [Slot.pulse, phase, running]
    | reading =>
      cases empty : slot.device.device.buffer.isEmpty with
      | true =>
        refine ⟨by simpa [Slot.pulse, phase, empty] using bytes, ?_⟩
        cases running : slot.device.device.running <;> simp [Slot.pulse, phase, running, empty]
      | false => exact ⟨by simp [Slot.pulse, phase, empty, ← bytes], by simp [Slot.pulse, phase, empty]⟩

theorem Sane.pulses {slot : Slot (Taped KernelPty)} (sane : slot.Sane) (events : List Pulse) :
    (slot.pulses events).Sane := by
  induction events generalizing slot with
  | nil => exact sane
  | cons first rest ih => exact ih (sane.pulse first)

theorem Overtaken.lost {slot : Slot (Taped KernelPty)} (overtaken : slot.Overtaken) : (slot.pulse .read).Lost := by
  obtain ⟨checking, gone, unread⟩ := overtaken
  refine ⟨?_, ?_, ?_⟩
  · simp [Slot.pulse, checking, gone]
  · simpa [Slot.pulse, checking] using gone
  · simpa [Slot.pulse, checking] using unread

theorem Lost.pulse {slot : Slot (Taped KernelPty)} (lost : slot.Lost) (event : Pulse) : (slot.pulse event).Lost := by
  obtain ⟨finished, gone, unread⟩ := lost
  cases event with
  | write bytes => simpa [Slot.pulse, onKernel, KernelPty.write, gone] using Lost.mk finished gone unread
  | exit => exact ⟨finished, rfl, unread⟩
  | read => simpa [Slot.pulse, finished] using Lost.mk finished gone unread

theorem Lost.pulses {slot : Slot (Taped KernelPty)} (lost : slot.Lost) (events : List Pulse) :
    (slot.pulses events).Lost := by
  induction events generalizing slot with
  | nil => exact lost
  | cons first rest ih => exact ih (lost.pulse first)

/-- A reader that is not overtaken does not finish before everything is read. -/
theorem pulse_clean {slot : Slot (Taped KernelPty)} (sane : slot.Sane)
    (clean : slot.phase = .finished → slot.device.device.buffer = []) {event : Pulse}
    (careful : event = .read → ¬slot.Overtaken) :
    (slot.pulse event).phase = .finished → (slot.pulse event).device.device.buffer = [] := by
  cases event with
  | write bytes =>
    intro finished
    have gone := sane.gone finished
    simpa [Slot.pulse, onKernel, KernelPty.write, gone] using clean finished
  | exit => exact clean
  | read =>
    cases phase : slot.phase with
    | idle => simp [Slot.pulse, phase]
    | finished => simpa [Slot.pulse, phase] using clean
    | checking =>
      intro finished
      cases running : slot.device.device.running with
      | true => simp [Slot.pulse, phase, running] at finished
      | false =>
        by_contra unread
        exact careful rfl ⟨phase, running, by simpa [Slot.pulse, phase] using unread⟩
    | reading =>
      intro finished
      cases empty : slot.device.device.buffer.isEmpty with
      | true =>
        have nothing : slot.device.device.buffer = [] := List.isEmpty_iff.mp empty
        simp [Slot.pulse, phase, nothing]
      | false => simp [Slot.pulse, phase, empty] at finished

private theorem session_pulses (slot : Slot (Taped KernelPty)) (events : List Pulse) :
    (slot.pulses events).session = slot.session := by
  induction events generalizing slot with
  | nil => rfl
  | cons first rest ih => exact (ih _).trans (slot.session_pulse first)

private theorem bytes_tidings (slot : Slot (Taped KernelPty)) :
    (Tiding.transcript true slot.tidings).flatten = slot.device.tape.flatten := by
  have ending : Tiding.transcript true (if slot.phase = .finished then [.ended] else []) = [] := by
    split <;> rfl
  rw [tidings, Tiding.transcript_append, transcript_tape, Bool.true_or, ending, List.append_nil]

/-- A reader that has finished read everything exactly if it never was overtaken. -/
theorem read_all_iff {slot : Slot (Taped KernelPty)} (sane : slot.Sane) (reading : slot.phase = .reading)
    {events : List Pulse} (finished : (slot.pulses events).phase = .finished) :
    (slot.pulses events).device.device.buffer = [] ↔
      ∀ before after, events = before ++ .read :: after → ¬(slot.pulses before).Overtaken := by
  constructor
  · intro empty before after same overtaken
    have lost := overtaken.lost.pulses after
    subst same
    rw [pulses, List.foldl_append] at empty
    exact lost.unread empty
  · intro careful
    -- Along the run: as long as no reader was overtaken, one that has finished left nothing behind.
    have clean {events : List Pulse} : ∀ {slot : Slot (Taped KernelPty)}, slot.Sane →
        (slot.phase = .finished → slot.device.device.buffer = []) →
        (∀ before after, events = before ++ .read :: after → ¬(slot.pulses before).Overtaken) →
        (slot.pulses events).phase = .finished → (slot.pulses events).device.device.buffer = [] := by
      induction events with
      | nil => exact fun _ clean _ => clean
      | cons first rest ih =>
        intro slot sane clean careful
        refine ih (sane.pulse first) (pulse_clean sane clean fun here => ?_) fun before after same => ?_
        · exact careful [] rest (by rw [here]; rfl)
        · exact careful (first :: before) after (by rw [same]; rfl)
    exact clean sane (by simp [reading]) careful finished

end Slot

namespace Spawner

def pulse (place : Nat) (spawner : Spawner (Taped KernelPty)) : Pulse → Spawner (Taped KernelPty)
  | .write bytes => spawner.changeSlot place (Slot.onKernel (·.write bytes))
  | .exit => spawner.changeSlot place (Slot.onKernel KernelPty.exit)
  | .read => (spawner.readerStep? place).getD spawner

def pulses (place : Nat) (spawner : Spawner (Taped KernelPty)) (events : List Pulse) : Spawner (Taped KernelPty) :=
  events.foldl (pulse place) spawner

def Overtakes (spawner : Spawner (Taped KernelPty)) (place : Nat) : Prop :=
  ∃ slot, spawner.slots[place]? = some slot ∧ slot.Overtaken

def posts (spawner : Spawner (Taped KernelPty)) (id : String) : List UInt8 :=
  (Tiding.transcript true (spawner.pending id)).flatten

variable {spawner : Spawner (Taped KernelPty)} {place : Nat} {slot : Slot (Taped KernelPty)}

private theorem pulse_follows (event : Pulse) : Follows spawner (spawner.pulse place event) := by
  cases event with
  | write bytes => exact .of_change fun _ _ => ⟨rfl, rfl, rfl⟩
  | exit => exact .of_change fun _ _ => ⟨rfl, rfl, rfl⟩
  | read =>
    unfold pulse
    cases step : spawner.readerStep? place with
    | none => exact .refl spawner
    | some next => exact readerStep_follows step

private theorem slots_post (spawner : Spawner (Taped KernelPty)) (event : String) (payload : Event.Payload) :
    (spawner.post event payload).slots = spawner.slots := by
  unfold post
  split <;> rfl

private theorem slots_endReader (spawner : Spawner (Taped KernelPty)) (session : String) :
    (spawner.endReader place session).slots = spawner.slots.modify place fun slot => { slot with phase := .finished } :=
  slots_post _ _ _

private theorem pulse_at (found : spawner.slots[place]? = some slot) (event : Pulse) :
    (spawner.pulse place event).slots[place]? = some (slot.pulse event) := by
  cases event with
  | write bytes => simp [pulse, changeSlot, found, Slot.pulse]
  | exit => simp [pulse, changeSlot, found, Slot.pulse]
  | read =>
    cases phase : slot.phase with
    | idle | finished => simp [pulse, readerStep?, found, phase, Slot.pulse]
    | checking =>
      have answer : PtyDevice.isAlive slot.device = (slot.device.device.running, slot.device) := rfl
      cases running : slot.device.device.running with
      | true =>
        rw [running] at answer
        simp [pulse, readerStep?, found, phase, answer, changeSlot, Slot.pulse, running]
      | false =>
        rw [running] at answer
        simp [pulse, readerStep?, found, phase, answer, slots_endReader, changeSlot, Slot.pulse, running]
    | reading =>
      cases buffer : slot.device.device.buffer with
      | nil =>
        have answer := Taped.read_nothing buffer
        cases running : slot.device.device.running with
        | true =>
          simp [pulse, readerStep?, found, phase, answer, running, changeSlot, Slot.pulse, buffer]
        | false =>
          simp [pulse, readerStep?, found, phase, answer, running, slots_endReader, changeSlot, Slot.pulse, buffer]
      | cons first rest =>
        have answer := Taped.read_something buffer
        simp [pulse, readerStep?, found, phase, answer, slots_post, changeSlot, Slot.pulse, buffer]

private theorem pulses_at (found : spawner.slots[place]? = some slot) (events : List Pulse) :
    (spawner.pulses place events).slots[place]? = some (slot.pulses events) := by
  induction events generalizing spawner slot with
  | nil => exact found
  | cons first rest ih => exact ih (pulse_at found first)

private theorem pulses_follows (events : List Pulse) : Follows spawner (spawner.pulses place events) := by
  induction events generalizing spawner with
  | nil => exact .refl spawner
  | cons first rest ih => exact (pulse_follows first).trans ih

/-- A terminal of which nothing was read, before its process wrote anything. -/
structure Untouched (spawner : Spawner (Taped KernelPty)) (place : Nat) (slot : Slot (Taped KernelPty)) : Prop where
  ordered : ∃ delivered, spawner.Orderly delivered
  found : spawner.slots[place]? = some slot
  reading : slot.phase = .reading
  tape : slot.device.tape = []
  buffer : slot.device.device.buffer = []
  written : slot.device.device.written = []

structure Blank (terminal : Taped KernelPty) : Prop where
  tape : terminal.tape = []
  buffer : terminal.device.buffer = []
  written : terminal.device.written = []

private theorem spawn_untouched {delivered : String → List Tiding} (orderly : spawner.Orderly delivered)
    {terminal : Taped KernelPty} (blank : Blank terminal) {cwd id : String}
    (started : (spawner.spawn terminal cwd).1 = .ok id) :
    ∃ slot, slot.session = id ∧ (spawner.spawn terminal cwd).2.Untouched spawner.slots.length slot := by
  have ordered := ((spawn_follows spawner blank.tape cwd).1 delivered orderly).1
  have opens (path : String) : PtyDevice.spawn spawner.command path spawner.initialSize spawner.environment terminal =
      (.ok (), terminal) := rfl
  revert started ordered
  unfold spawn
  dsimp only
  split
  · exact nofun
  next path _ =>
    split
    · exact nofun
    · rw [opens]
      intro started ordered
      cases started
      refine ⟨_, rfl, ⟨delivered, ordered⟩, List.getElem?_concat_length, rfl, blank.tape, blank.buffer, blank.written⟩

/-- What was read of a terminal was posted, and the end once its reader has finished. -/
theorem pending_pulses (untouched : spawner.Untouched place slot) (events : List Pulse) :
    (spawner.pulses place events).pending slot.session = (slot.pulses events).tidings := by
  obtain ⟨⟨delivered, orderly⟩, found, reading, tape, -, -⟩ := untouched
  have start := orderly.abreast place slot found
  have nothing : slot.tidings = [] := by simp [Slot.tidings, tape, reading]
  rw [nothing, List.append_eq_nil_iff] at start
  have ends := ((pulses_follows events) delivered orderly).1.abreast place _ (pulses_at found events)
  rwa [slot.session_pulses, start.1, List.nil_append] at ends

/-- What a process wrote was posted or is still there. When the end is posted, all of it was posted exactly if
the reader never saw that the process is gone with something left to read. -/
theorem posted_before_end {delivered : String → List Tiding} (orderly : spawner.Orderly delivered)
    {terminal : Taped KernelPty} (blank : Blank terminal) {cwd id : String}
    (started : (spawner.spawn terminal cwd).1 = .ok id) (events : List Pulse) {last : Spawner (Taped KernelPty)}
    (ends : (spawner.spawn terminal cwd).2.pulses spawner.slots.length events = last) :
    ∃ slot, last.slots[spawner.slots.length]? = some slot ∧
      last.posts id ++ slot.device.device.buffer = slot.device.device.written ∧
      (.ended ∈ last.pending id →
        (last.posts id = slot.device.device.written ↔
          ∀ before after, events = before ++ .read :: after →
            ¬((spawner.spawn terminal cwd).2.pulses spawner.slots.length before).Overtakes spawner.slots.length)) := by
  obtain ⟨slot, rfl, untouched⟩ := spawn_untouched orderly blank started
  have reached (events : List Pulse) := pulses_at untouched.found events
  have sane : slot.Sane := by
    refine ⟨?_, fun finished => ?_⟩
    · rw [untouched.tape, untouched.buffer, untouched.written]; rfl
    · rw [untouched.reading] at finished; cases finished
  have kept := sane.pulses events
  have posted : last.posts slot.session = (slot.pulses events).device.tape.flatten := by
    rw [posts, ← ends, pending_pulses untouched]
    exact (slot.pulses events).bytes_tidings
  have total : last.posts slot.session ++ (slot.pulses events).device.device.buffer =
      (slot.pulses events).device.device.written := by
    rw [posted]
    exact kept.bytes
  refine ⟨slot.pulses events, ends ▸ reached events, total, fun ended => ?_⟩
  rw [← ends, pending_pulses untouched] at ended
  have finished : (slot.pulses events).phase = .finished := by
    by_contra going
    simp [Slot.tidings, going] at ended
  have careful := Slot.read_all_iff sane untouched.reading finished
  constructor
  · rintro all before after same ⟨now, found, overtaken⟩
    rw [reached] at found
    cases found
    exact careful.mp (List.append_right_eq_self.mp (total.trans all.symm)) before after same overtaken
  · intro never
    have empty := careful.mpr fun before after same overtaken => never before after same ⟨_, reached before, overtaken⟩
    rwa [empty, List.append_nil] at total

/-- The first process, which writes nothing at first. -/
def firstStart : Except Failure String × Spawner (Taped KernelPty) :=
  ({ command := ["/bin/sh"], environment := [], home := .ok (Path.ofText "/work") } : Spawner (Taped KernelPty)).spawn
    ⟨{}, []⟩ "/tmp"

/-- Its reader is never overtaken: the process exits after all was read. -/
def carefulEnd : List Pulse :=
  [.read, .write [65], .read, .read, .exit, .read]

theorem posted_before_end_careful :
    (firstStart.2.pulses 0 carefulEnd).posts "term-1" = [65] ∧
      ∀ before after, carefulEnd = before ++ .read :: after → ¬(firstStart.2.pulses 0 before).Overtakes 0 := by
  have unused : ({ command := ["/bin/sh"], environment := [], home := .ok (Path.ofText "/work") } :
      Spawner (Taped KernelPty)).Unused := ⟨rfl, rfl, rfl, rfl⟩
  have started : firstStart.1 = .ok "term-1" := by decide +kernel
  obtain ⟨slot, found, -, whole⟩ := posted_before_end unused.orderly ⟨rfl, rfl, rfl⟩ started carefulEnd rfl
  have ended : .ended ∈ (firstStart.2.pulses 0 carefulEnd).pending "term-1" := by decide +kernel
  have posted : (firstStart.2.pulses 0 carefulEnd).posts "term-1" = [65] := by decide +kernel
  have written : ((firstStart.2.pulses 0 carefulEnd).slots[0]?.map fun slot => slot.device.device.written) =
      some [65] := by decide +kernel
  obtain ⟨same, known, wrote⟩ := Option.map_eq_some_iff.mp written
  have here : same = slot := Option.some.inj (known.symm.trans found)
  subst here
  exact ⟨posted, (whole ended).mp (posted.trans wrote.symm)⟩

/-- The process writes and exits between a read that brought nothing and the question whether it still runs. -/
theorem posted_before_end_fails :
    firstStart.1 = .ok "term-1" ∧
      ((firstStart.2.pulses 0 [.read, .write [65], .exit, .read]).slots[0]?.map fun slot =>
        slot.device.device.written) = some [65] ∧
      .ended ∈ (firstStart.2.pulses 0 [.read, .write [65], .exit, .read]).pending "term-1" ∧
      (firstStart.2.pulses 0 [.read, .write [65], .exit, .read]).posts "term-1" = [] := by
  decide +kernel

end Spawner

end TerminalDock.Pty
