import TerminalDock.Proofs.ChunkCodec
import TerminalDock.Proofs.OutputOrder
import TerminalDock.Proofs.SpawnerSteps
import TerminalDock.Window.Host

/-! What the readers of the terminals post. Each posts what its terminal brings, in order, and the end after
everything else; what was posted waits in the order in which it was posted. A tape beside each terminal keeps what its
reads brought. -/

namespace TerminalDock.Pty

/-- A terminal with a tape of the bytes that its reads brought, oldest first. -/
structure Taped (δ : Type) where
  device : δ
  tape : List (List UInt8) := []

namespace Taped
variable {δ : Type}

/-- A read that brought no bytes leaves nothing on the tape. -/
def brought : ReadOutcome → List (List UInt8)
  | .data [] => []
  | .data bytes => [bytes]
  | _ => []

def through {α : Type} (act : δ → α × δ) (terminal : Taped δ) : α × Taped δ :=
  ((act terminal.device).1, { terminal with device := (act terminal.device).2 })

instance [PtyDevice δ] : PtyDevice (Taped δ) where
  pid terminal := PtyDevice.pid terminal.device
  spawn command cwd size environment := through (PtyDevice.spawn command cwd size environment)
  read terminal :=
    let (outcome, device) := PtyDevice.read terminal.device
    (outcome, { device := device, tape := terminal.tape ++ brought outcome })
  isAlive := through PtyDevice.isAlive
  write bytes := through (PtyDevice.write bytes)
  resize size := through (PtyDevice.resize size)
  terminate := through PtyDevice.terminate
  close terminal := { terminal with device := PtyDevice.close terminal.device }

end Taped

variable {δ : Type}

namespace Slot

/-- What the events of a terminal tell: all that its reads brought, and the end once its reader has finished. -/
def tidings (slot : Slot (Taped δ)) : List Tiding :=
  slot.device.tape.map (fun bytes => .output (Event.encodeChunk bytes)) ++
    if slot.phase = .finished then [.ended] else []

def transcript (slot : Slot (Taped δ)) : List (List UInt8) :=
  slot.device.tape ++ if slot.phase = .finished then [Registry.exitMarker] else []

theorem transcript_tape (marked : Bool) (tape : List (List UInt8)) :
    Tiding.transcript marked (tape.map fun bytes => .output (Event.encodeChunk bytes)) = tape := by
  induction tape with
  | nil => rfl
  | cons bytes rest ih => simp [Tiding.transcript, Event.chunks, Event.decodeChunk_encodeChunk, ih]

private theorem endedIn_tape (tape : List (List UInt8)) :
    Tiding.endedIn (tape.map fun bytes => .output (Event.encodeChunk bytes)) = false := by
  simp [Tiding.endedIn]

theorem transcript_tidings (slot : Slot (Taped δ)) : Tiding.transcript false slot.tidings = slot.transcript := by
  rw [tidings, Tiding.transcript_append, transcript_tape, endedIn_tape]
  unfold transcript
  split <;> rfl

end Slot

namespace Spawner

def pending (spawner : Spawner δ) (id : String) : List Tiding :=
  spawner.posted.flatMap fun (event, payload) => Tiding.of id event payload

def Runs (spawner : Spawner δ) (id : String) : Prop :=
  ∃ slot ∈ spawner.slots, slot.session = id ∧ slot.phase ≠ .idle

/-- What was delivered of each session's events and what waits is what its terminal brought. -/
structure Orderly (spawner : Spawner (Taped δ)) (delivered : String → List Tiding) : Prop where
  loop : spawner.loopClosed = false
  numbered : spawner.counter = spawner.slots.length
  named : ∀ (place : Nat) (slot : Slot (Taped δ)), spawner.slots[place]? = some slot →
    slot.session = "term-" ++ toString (place + 1)
  abreast : ∀ (place : Nat) (slot : Slot (Taped δ)), spawner.slots[place]? = some slot →
    delivered slot.session ++ spawner.pending slot.session = slot.tidings
  unborn : ∀ id, (∀ slot ∈ spawner.slots, slot.session ≠ id) → delivered id = [] ∧ spawner.pending id = []

structure Unused (spawner : Spawner δ) : Prop where
  slots : spawner.slots = []
  posted : spawner.posted = []
  counter : spawner.counter = 0
  loop : spawner.loopClosed = false

theorem Unused.orderly {spawner : Spawner (Taped δ)} (unused : spawner.Unused) : spawner.Orderly fun _ => [] := by
  have empty (place : Nat) : spawner.slots[place]? = none := by rw [unused.slots]; rfl
  refine ⟨unused.loop, ?_, ?_, ?_, ?_⟩
  · exact unused.counter.trans (congrArg List.length unused.slots).symm
  · intro place slot found
    exact absurd ((empty place).symm.trans found) (by simp)
  · intro place slot found
    exact absurd ((empty place).symm.trans found) (by simp)
  · intro id absent
    refine ⟨rfl, ?_⟩
    rw [pending, unused.posted]
    rfl

/-- A step that delivers nothing keeps the order, and stops no reader. -/
def Follows (first last : Spawner (Taped δ)) : Prop :=
  ∀ delivered, first.Orderly delivered → last.Orderly delivered ∧ ∀ id, first.Runs id → last.Runs id

namespace Follows
variable {first middle last : Spawner (Taped δ)}

protected theorem refl (spawner : Spawner (Taped δ)) : Follows spawner spawner :=
  fun _ orderly => ⟨orderly, fun _ runs => runs⟩

protected theorem trans (before : Follows first middle) (later : Follows middle last) : Follows first last := by
  intro delivered orderly
  obtain ⟨orderly, kept⟩ := before delivered orderly
  obtain ⟨orderly, still⟩ := later delivered orderly
  exact ⟨orderly, fun id runs => still id (kept id runs)⟩

theorem of_same (slots : last.slots = first.slots) (posted : last.posted = first.posted)
    (counter : last.counter = first.counter) (loop : last.loopClosed = first.loopClosed) : Follows first last := by
  rintro delivered ⟨closed, numbered, named, abreast, unborn⟩
  refine ⟨⟨loop.trans closed, ?_, ?_, ?_, ?_⟩, ?_⟩
  · rw [counter, slots, numbered]
  · rw [slots]; exact named
  · unfold pending at abreast ⊢
    rw [slots, posted]; exact abreast
  · unfold pending at unborn ⊢
    rw [slots, posted]; exact unborn
  · rintro id ⟨slot, member, runs⟩
    exact ⟨slot, slots ▸ member, runs⟩

end Follows

theorem Orderly.distinct {spawner : Spawner (Taped δ)} {delivered : String → List Tiding}
    (orderly : spawner.Orderly delivered) {place other : Nat} {slot another : Slot (Taped δ)}
    (first : spawner.slots[place]? = some slot) (second : spawner.slots[other]? = some another)
    (same : slot.session = another.session) : place = other := by
  rw [orderly.named place slot first, orderly.named other another second] at same
  exact nameAt_inj same

private theorem foreign {id other : String} (different : id ≠ other) {event : String}
    (own : event = Event.outputOf id ∨ event = Event.exitOf id) (payload : Event.Payload) :
    Tiding.of other event payload = [] := by
  unfold Tiding.of
  rcases own with rfl | rfl
  · rw [if_neg fun same => different (Event.outputOf_inj same), if_neg (Event.outputOf_ne_exitOf _ _)]
  · rw [if_neg (Event.outputOf_ne_exitOf _ _).symm, if_neg fun same => different (Event.exitOf_inj same)]

/-- Something happens to the terminal at one place, and its reader posts `news` of it. -/
structure Utters (first : Spawner (Taped δ)) (place : Nat) (slot changed : Slot (Taped δ))
    (news : List (String × Event.Payload)) (last : Spawner (Taped δ)) : Prop where
  found : first.slots[place]? = some slot
  slots : last.slots = first.slots.modify place fun _ => changed
  posted : last.posted = first.posted ++ news
  counter : last.counter = first.counter
  loop : last.loopClosed = first.loopClosed
  session : changed.session = slot.session
  started : slot.phase ≠ .idle → changed.phase ≠ .idle
  tidings : changed.tidings = slot.tidings ++ news.flatMap fun (event, payload) => Tiding.of slot.session event payload
  own : ∀ entry ∈ news, entry.1 = Event.outputOf slot.session ∨ entry.1 = Event.exitOf slot.session

namespace Utters
variable {first last : Spawner (Taped δ)} {place : Nat} {slot changed : Slot (Taped δ)}
variable {news : List (String × Event.Payload)}

private theorem slot_at (utters : Utters first place slot changed news last) (other : Nat) :
    last.slots[other]? = if place = other then some changed else first.slots[other]? := by
  rw [utters.slots, List.getElem?_modify]
  split
  next here => subst here; rw [utters.found]; rfl
  next => simp

theorem pending (utters : Utters first place slot changed news last) (id : String) :
    last.pending id = first.pending id ++ if id = slot.session
      then news.flatMap fun (event, payload) => Tiding.of slot.session event payload else [] := by
  rw [Spawner.pending, utters.posted, List.flatMap_append]
  refine congrArg _ ?_
  split
  next here => rw [here]
  next elsewhere =>
    rw [List.flatMap_eq_nil_iff]
    exact fun entry member => foreign (fun same => elsewhere same.symm) (utters.own entry member) _

theorem follows (utters : Utters first place slot changed news last) : Follows first last := by
  intro delivered orderly
  constructor
  · refine ⟨utters.loop.trans orderly.loop, ?_, ?_, ?_, ?_⟩
    · rw [utters.counter, utters.slots, List.length_modify, orderly.numbered]
    · intro other another found
      rw [utters.slot_at] at found
      split at found
      next here =>
        cases found
        subst here
        exact utters.session.trans (orderly.named place slot utters.found)
      next => exact orderly.named other another found
    · intro other another found
      rw [utters.slot_at] at found
      rw [utters.pending]
      split at found
      next here =>
        cases found
        rw [utters.session, if_pos rfl, ← List.append_assoc, orderly.abreast place slot utters.found, utters.tidings]
      next elsewhere =>
        have different : another.session ≠ slot.session :=
          fun same => elsewhere (orderly.distinct utters.found found same.symm)
        rw [if_neg different, List.append_nil]
        exact orderly.abreast other another found
    · intro id absent
      have known : changed ∈ last.slots := List.mem_iff_getElem?.mpr ⟨place, by rw [utters.slot_at, if_pos rfl]⟩
      have different : id ≠ slot.session := fun same => absent changed known (utters.session.trans same.symm)
      rw [utters.pending, if_neg different, List.append_nil]
      refine orderly.unborn id fun another member same => ?_
      obtain ⟨other, found⟩ := List.mem_iff_getElem?.mp member
      by_cases here : place = other
      · subst here
        rw [utters.found] at found
        cases found
        exact different same.symm
      · exact absent another (List.mem_iff_getElem?.mpr ⟨other, by rw [utters.slot_at, if_neg here]; exact found⟩) same
  · rintro id ⟨another, member, same, runs⟩
    obtain ⟨other, found⟩ := List.mem_iff_getElem?.mp member
    by_cases here : place = other
    · subst here
      rw [utters.found] at found
      cases found
      exact ⟨changed, List.mem_iff_getElem?.mpr ⟨place, by rw [utters.slot_at, if_pos rfl]⟩,
        utters.session.trans same, utters.started runs⟩
    · exact ⟨another, List.mem_iff_getElem?.mpr ⟨other, by rw [utters.slot_at, if_neg here]; exact found⟩, same, runs⟩

end Utters

private theorem post_open {spawner : Spawner δ} (loop : spawner.loopClosed = false) (event : String)
    (payload : Event.Payload) :
    spawner.post event payload = { spawner with posted := spawner.posted ++ [(event, payload)] } := by
  simp [post, loop]

theorem Follows.of_change {spawner : Spawner (Taped δ)} {place : Nat} {change : Slot (Taped δ) → Slot (Taped δ)}
    (same : ∀ slot, spawner.slots[place]? = some slot → (change slot).session = slot.session ∧
      (change slot).phase = slot.phase ∧ (change slot).device.tape = slot.device.tape) :
    Follows spawner (spawner.changeSlot place change) := by
  cases found : spawner.slots[place]? with
  | none =>
    have kept := @List.modify_eq_self _ change _ _ (List.getElem?_eq_none_iff.mp found)
    exact .of_same kept rfl rfl rfl
  | some slot =>
    obtain ⟨session, phase, taped⟩ := same slot found
    have utters : Utters spawner place slot (change slot) [] (spawner.changeSlot place change) := by
      refine ⟨found, modify_found found _, (List.append_nil _).symm, rfl, rfl, session, ?_, ?_, nofun⟩
      · exact fun runs => phase ▸ runs
      · simp [Slot.tidings, taped, phase]
    exact utters.follows

private theorem onDevice_follows (spawner : Spawner (Taped δ)) (call session : String)
    {act : Taped δ → Except Failure Unit × Taped δ} (taped : ∀ device, (act device).2.tape = device.tape) :
    Follows spawner (spawner.onDevice call session act).2 := by
  unfold onDevice
  split
  · exact .refl spawner
  next place slot known =>
    obtain ⟨other, registered, found⟩ := Option.bind_eq_some_iff.mp known
    obtain ⟨another, found, same⟩ := Option.map_eq_some_iff.mp found
    cases same
    have changed : Follows spawner (spawner.changeSlot place fun other =>
        { other with device := (act slot.device).2 }) := by
      refine .of_change fun other here => ?_
      rw [found] at here
      cases here
      exact ⟨rfl, rfl, taped slot.device⟩
    dsimp only
    split
    · exact changed
    · exact changed

theorem Orderly.unknown {spawner : Spawner (Taped δ)} {delivered : String → List Tiding}
    (orderly : spawner.Orderly delivered) :
    ∀ slot ∈ spawner.slots, slot.session ≠ "term-" ++ toString (spawner.counter + 1) := by
  intro slot member same
  obtain ⟨place, found⟩ := List.mem_iff_getElem?.mp member
  have inside := (List.getElem?_eq_some_iff.mp found).1
  rw [orderly.named place slot found] at same
  have same := numbered_inj same
  have numbered := orderly.numbered
  omega

private theorem follows_add {first last : Spawner (Taped δ)} {slot : Slot (Taped δ)}
    (named : slot.session = "term-" ++ toString (first.counter + 1)) (empty : slot.device.tape = [])
    (unread : slot.phase ≠ .finished) (slots : last.slots = first.slots ++ [slot])
    (posted : last.posted = first.posted) (counter : last.counter = first.counter + 1)
    (loop : last.loopClosed = first.loopClosed) : Follows first last := by
  intro delivered orderly
  constructor
  · have waiting (id : String) : last.pending id = first.pending id := by rw [pending, pending, posted]
    have cases_of {place : Nat} {other : Slot (Taped δ)} (found : last.slots[place]? = some other) :
        first.slots[place]? = some other ∨ place = first.slots.length ∧ other = slot := by
      rw [slots, List.getElem?_append] at found
      split at found
      · exact .inl found
      · cases within : place - first.slots.length with
        | zero => rw [within] at found; cases found; exact .inr ⟨by omega, rfl⟩
        | succ more => rw [within] at found; cases found
    refine ⟨loop.trans orderly.loop, ?_, ?_, ?_, ?_⟩
    · rw [counter, slots, List.length_append, orderly.numbered]; rfl
    · intro place other found
      rcases cases_of found with old | ⟨here, new⟩
      · exact orderly.named place other old
      · rw [new, named, here, orderly.numbered]
    · intro place other found
      rw [waiting]
      rcases cases_of found with old | ⟨-, new⟩
      · exact orderly.abreast place other old
      · obtain ⟨none, idle⟩ := orderly.unborn _ orderly.unknown
        rw [new, named, none, idle]
        simp [Slot.tidings, empty, unread]
    · intro id absent
      rw [waiting]
      exact orderly.unborn id fun other member => absent other (by rw [slots]; exact List.mem_append_left _ member)
  · rintro id ⟨other, member, same, runs⟩
    exact ⟨other, by rw [slots]; exact List.mem_append_left _ member, same, runs⟩

variable [PtyDevice δ]

private theorem endReader_utters {spawner between : Spawner (Taped δ)} {place : Nat} {slot : Slot (Taped δ)}
    {device : Taped δ} (found : spawner.slots[place]? = some slot) (unread : slot.phase ≠ .finished)
    (taped : device.tape = slot.device.tape)
    (slots : between.slots = spawner.slots.modify place fun slot => { slot with device := device, phase := .reading })
    (posted : between.posted = spawner.posted) (counter : between.counter = spawner.counter)
    (loop : between.loopClosed = false) (same : spawner.loopClosed = false) :
    Utters spawner place slot { slot with device := PtyDevice.close device, phase := .finished }
      [(Event.exitOf slot.session, .nothing)] (between.endReader place slot.session) := by
  have opened : (between.changeSlot place fun slot =>
      { slot with device := PtyDevice.close slot.device, phase := .finished }).loopClosed = false := loop
  unfold endReader
  dsimp only
  rw [post_open opened]
  refine ⟨found, ?_, ?_, counter, loop.trans same.symm, rfl, nofun, ?_, ?_⟩
  · change (between.slots.modify place _) = _
    rw [slots, List.modify_modify_eq]
    exact modify_found found _
  · change between.posted ++ _ = _
    rw [posted]
  · have closed : (PtyDevice.close device : Taped δ).tape = slot.device.tape := taped
    simp [Slot.tidings, closed, unread, Tiding.of, (Event.outputOf_ne_exitOf _ _).symm]
  · simp

private theorem readerStep_utters {spawner next : Spawner (Taped δ)} {place : Nat} (loop : spawner.loopClosed = false)
    (step : spawner.readerStep? place = some next) :
    ∃ slot changed news, Utters spawner place slot changed news next := by
  unfold readerStep? at step
  split at step
  · cases step
  next slot found =>
    have goes {device : Taped δ} {phase : ReaderPhase} (going : phase ≠ .finished ∧ phase ≠ .idle)
        (unread : slot.phase ≠ .finished) (taped : device.tape = slot.device.tape) :
        Utters spawner place slot { slot with device := device, phase := phase } []
          (spawner.changeSlot place fun slot => { slot with device := device, phase := phase }) := by
      refine ⟨found, modify_found found _, (List.append_nil _).symm, rfl, rfl, rfl, fun _ => going.2, ?_, nofun⟩
      simp [Slot.tidings, taped, unread, going.1]
    -- What is told of a terminal depends on its tape and on whether its reader has finished; a read that brings bytes
    -- puts them on the tape and posts them.
    cases phase : slot.phase with
    | idle | finished => simp [phase] at step
    | reading =>
      have unread : slot.phase ≠ .finished := by simp [phase]
      have taped : (PtyDevice.read slot.device).2.tape =
          slot.device.tape ++ Taped.brought (PtyDevice.read slot.device).1 := rfl
      simp only [phase] at step
      rcases answer : PtyDevice.read slot.device with ⟨outcome, device⟩
      rw [answer] at step taped
      cases outcome with
      | waiting => cases step
      | ended =>
        cases step
        exact ⟨_, _, _, endReader_utters found unread (taped.trans (List.append_nil _)) rfl rfl rfl loop loop⟩
      | failed failure =>
        cases step
        exact ⟨_, _, _, endReader_utters found unread (taped.trans (List.append_nil _)) rfl rfl rfl loop loop⟩
      | data bytes =>
        cases bytes with
        | nil =>
          cases step
          exact ⟨_, _, _, goes (by simp) unread (taped.trans (List.append_nil _))⟩
        | cons first rest =>
          cases step
          have opened : (spawner.changeSlot place fun slot =>
              { slot with device := device, phase := .reading }).loopClosed = false := loop
          rw [post_open opened]
          refine ⟨slot, { slot with device := device, phase := .reading },
            [(Event.outputOf slot.session, Event.encodeChunk (first :: rest))],
            found, modify_found found _, rfl, rfl, rfl, rfl, nofun, ?_, ?_⟩
          · have taped : device.tape = slot.device.tape ++ [first :: rest] := taped
            simp [Slot.tidings, taped, unread, Tiding.of]
          · simp
    | checking =>
      have unread : slot.phase ≠ .finished := by simp [phase]
      have taped : (PtyDevice.isAlive slot.device).2.tape = slot.device.tape := rfl
      simp only [phase] at step
      rcases answer : PtyDevice.isAlive slot.device with ⟨alive, device⟩
      rw [answer] at step taped
      cases alive with
      | true =>
        cases step
        exact ⟨_, _, _, goes (by simp) unread taped⟩
      | false =>
        cases step
        exact ⟨_, _, _, endReader_utters found unread taped rfl rfl rfl loop loop⟩

theorem readerStep_follows {spawner next : Spawner (Taped δ)} {place : Nat}
    (step : spawner.readerStep? place = some next) : Follows spawner next := by
  intro delivered orderly
  obtain ⟨slot, changed, news, utters⟩ := readerStep_utters orderly.loop step
  exact utters.follows delivered orderly

theorem terminate_follows (spawner : Spawner (Taped δ)) (session : String) :
    Follows spawner (spawner.terminate session).2 := by
  unfold terminate
  split
  · exact .refl spawner
  next place known =>
    dsimp only
    split
    · exact .of_same rfl rfl rfl rfl
    next slot found =>
      have removed : Follows spawner { spawner with sessions := spawner.sessions.remove session } :=
        .of_same rfl rfl rfl rfl
      refine removed.trans (.of_change fun other here => ?_)
      have same : slot = other := Option.some.inj (found.symm.trans here)
      subst same
      exact ⟨rfl, rfl, rfl⟩

theorem resize_follows (spawner : Spawner (Taped δ)) (session : String) (size : Geometry) :
    Follows spawner (spawner.resize session size).2 := by
  have changed : Follows spawner (spawner.onDevice "resize" session (PtyDevice.resize size)).2 :=
    onDevice_follows spawner _ _ fun _ => rfl
  unfold resize
  split
  next resized answered =>
    rw [answered] at changed
    exact changed.trans (.of_same rfl rfl rfl rfl)
  · exact changed

theorem sendInput_follows (spawner : Spawner (Taped δ)) (session : String) (bytes : List UInt8) :
    Follows spawner (spawner.sendInput session bytes).2 :=
  onDevice_follows spawner _ _ fun _ => rfl

theorem spawn_follows (spawner : Spawner (Taped δ)) {device : Taped δ} (blank : device.tape = []) (cwd : String) :
    Follows spawner (spawner.spawn device cwd).2 ∧ ∀ id, (spawner.spawn device cwd).1 = .ok id →
      (spawner.spawn device cwd).2.Runs id ∧ ∀ delivered, spawner.Orderly delivered → delivered id = [] := by
  unfold spawn
  dsimp only
  split
  · exact ⟨.refl spawner, nofun⟩
  next path _ =>
    split
    · exact ⟨.refl spawner, nofun⟩
    · rcases outcome : PtyDevice.spawn spawner.command path spawner.initialSize spawner.environment device with
        ⟨answer, opened⟩
      have empty : opened.tape = [] := by
        have kept : (PtyDevice.spawn spawner.command path spawner.initialSize spawner.environment device).2.tape = [] :=
          blank
        rwa [outcome] at kept
      have closed : (PtyDevice.close opened : Taped δ).tape = [] := empty
      dsimp only
      split
      next =>
        refine ⟨follows_add rfl empty (by simp) rfl rfl rfl rfl, fun id same => ?_⟩
        cases same
        refine ⟨⟨_, List.mem_append_right _ (List.mem_singleton_self _), rfl, nofun⟩, fun delivered orderly => ?_⟩
        exact (orderly.unborn _ orderly.unknown).1
      · split
        · split
          · exact ⟨follows_add rfl closed (by simp) rfl rfl rfl rfl, nofun⟩
          · exact ⟨follows_add rfl empty (by simp) rfl rfl rfl rfl, nofun⟩
        · exact ⟨follows_add rfl empty (by simp) rfl rfl rfl rfl, nofun⟩

omit [PtyDevice δ] in
theorem Orderly.deliver {spawner : Spawner (Taped δ)} {delivered : String → List Tiding}
    (orderly : spawner.Orderly delivered) {event : String} {payload : Event.Payload}
    {rest : List (String × Event.Payload)} (posted : spawner.posted = (event, payload) :: rest) :
    ({ spawner with posted := rest } : Spawner (Taped δ)).Orderly fun id => delivered id ++ Tiding.of id event payload := by
  have waiting (id : String) : spawner.pending id = Tiding.of id event payload ++
      ({ spawner with posted := rest } : Spawner (Taped δ)).pending id := by
    simp [pending, posted]
  refine ⟨orderly.loop, orderly.numbered, orderly.named, ?_, ?_⟩
  · intro place slot found
    rw [List.append_assoc, ← waiting]
    exact orderly.abreast place slot found
  · intro id absent
    obtain ⟨none, idle⟩ := orderly.unborn id absent
    rw [waiting, List.append_eq_nil_iff] at idle
    exact ⟨by rw [none, idle.1]; rfl, idle.2⟩

end Spawner

end TerminalDock.Pty
