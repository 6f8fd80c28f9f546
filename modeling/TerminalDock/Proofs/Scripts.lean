import TerminalDock.Proofs.Processes

/-! What is written to the terminals. A script beside each terminal keeps what was passed to it to be written. The inputs
that wait come before the call that closes their session, so each reaches the terminal; what was written and what waits
is, in order, what was typed. -/

namespace TerminalDock

def BackendCall.input? (id : String) : BackendCall → Option (List UInt8)
  | .sendInput session bytes => if session = id then some bytes else none
  | _ => none

def typedInto (id : String) (typed : List (String × List UInt8)) : List (List UInt8) :=
  typed.filterMap fun (session, bytes) => if session = id then some bytes else none

theorem typedInto_append (id : String) (typed more : List (String × List UInt8)) :
    typedInto id (typed ++ more) = typedInto id typed ++ typedInto id more :=
  List.filterMap_append

namespace Pty

/-- What was passed to a terminal to be written, oldest first, each with the failure that it met. -/
abbrev Writings := List (List UInt8 × Option Failure)

def failure? : Except Failure Unit → Option Failure
  | .ok () => none
  | .error failure => some failure

/-- What is told of a failure of a terminal: a fault of the system is one of the call. -/
def told (call session : String) (failure : Failure) : Failure :=
  if failure.isSystem then .transport call session failure.text else failure

/-- A terminal with a script of what was passed to it to be written. -/
structure Penned (δ : Type) where
  device : δ
  script : Writings := []

namespace Penned
variable {δ : Type}

def through {α : Type} (act : δ → α × δ) (terminal : Penned δ) : α × Penned δ :=
  ((act terminal.device).1, { terminal with device := (act terminal.device).2 })

instance [PtyDevice δ] : PtyDevice (Penned δ) where
  pid terminal := PtyDevice.pid terminal.device
  spawn command cwd size environment := through (PtyDevice.spawn command cwd size environment)
  read := through PtyDevice.read
  isAlive := through PtyDevice.isAlive
  write bytes terminal :=
    let (outcome, device) := PtyDevice.write bytes terminal.device
    (outcome, { device := device, script := terminal.script ++ [(bytes, failure? outcome)] })
  resize size := through (PtyDevice.resize size)
  terminate := through PtyDevice.terminate
  close terminal := { terminal with device := PtyDevice.close terminal.device }

end Penned

/-- The sessions that are registered, how many processes were asked for, and the script of each session's terminal. -/
structure Books where
  sessions : Assoc String Nat
  counter : Nat
  pages : List (String × Writings)

namespace Books

def nextName (books : Books) : String :=
  "term-" ++ toString (books.counter + 1)

def names (books : Books) : List String :=
  books.pages.map Prod.fst

def write (books : Books) (place : Nat) (item : List UInt8 × Option Failure) : Books :=
  { books with pages := books.pages.modify place fun page => (page.1, page.2 ++ [item]) }

def strike (books : Books) (id : String) : Books :=
  { books with sessions := books.sessions.remove id }

def addIdle (books : Books) : Books :=
  { books with counter := books.counter + 1, pages := books.pages ++ [(books.nextName, [])] }

def add (books : Books) : Books :=
  { books.addIdle with sessions := books.sessions.put books.nextName books.pages.length }

private theorem names_write (books : Books) (place : Nat) (item : List UInt8 × Option Failure) :
    (books.write place item).names = books.names := by
  refine List.ext_getElem? fun other => ?_
  rw [names, names, write, List.getElem?_map, List.getElem?_map, List.getElem?_modify]
  cases books.pages[other]? with
  | none => rfl
  | some page =>
    simp only [Option.map_some]
    split <;> rfl

theorem names_addIdle (books : Books) : books.addIdle.names = books.names ++ [books.nextName] :=
  List.map_append

end Books

variable {δ : Type}

def Slot.page (slot : Slot (Penned δ)) : String × Writings :=
  (slot.session, slot.device.script)

theorem Looked.script [PtyDevice δ] {first last : Penned δ} (looked : Looked first last) : last.script = first.script := by
  induction looked with
  | read | check => rfl
  | close _ same => exact same

namespace Spawner
variable {spawner : Spawner (Penned δ)} {place : Nat} {id : String}

def books (spawner : Spawner (Penned δ)) : Books where
  sessions := spawner.sessions
  counter := spawner.counter
  pages := spawner.slots.map Slot.page

theorem slot_of_page {page : String × Writings} (found : spawner.books.pages[place]? = some page) :
    ∃ slot, spawner.slots[place]? = some slot ∧ slot.page = page := by
  rw [books, List.getElem?_map] at found
  exact Option.map_eq_some_iff.mp found

private theorem changeSlot_books {change : Slot (Penned δ) → Slot (Penned δ)} {write : String × Writings → String × Writings}
    (same : ∀ slot, spawner.slots[place]? = some slot → (change slot).page = write slot.page) :
    (spawner.changeSlot place change).books = { spawner.books with pages := spawner.books.pages.modify place write } := by
  have pages : (spawner.slots.modify place change).map Slot.page = (spawner.slots.map Slot.page).modify place write := by
    refine List.ext_getElem? fun other => ?_
    rw [List.getElem?_map, List.getElem?_modify, List.getElem?_modify, List.getElem?_map]
    by_cases here : place = other
    · subst here
      cases found : spawner.slots[place]? with
      | none => rfl
      | some slot => simpa using same slot found
    · simp [here]
  exact congrArg (Books.mk spawner.sessions spawner.counter) pages

theorem changeSlot_unwritten {change : Slot (Penned δ) → Slot (Penned δ)}
    (same : ∀ slot, spawner.slots[place]? = some slot → (change slot).page = slot.page) :
    (spawner.changeSlot place change).books = spawner.books := by
  have unchanged : _ = { spawner.books with pages := spawner.books.pages.modify place id } := changeSlot_books same
  rwa [List.modify_id] at unchanged

private theorem onDevice_known (call : String) (act : Penned δ → Except Failure Unit × Penned δ) {slot : Slot (Penned δ)}
    (known : spawner.sessions.find? id = some place) (found : spawner.slots[place]? = some slot) :
    failure? (spawner.onDevice call id act).1 = (failure? (act slot.device).1).map (told call id) ∧
      (spawner.onDevice call id act).2 =
        spawner.changeSlot place fun other => { other with device := (act slot.device).2 } := by
  simp only [onDevice, known, found, Option.bind_some, Option.map_some]
  cases (act slot.device).1 with
  | ok done => exact ⟨rfl, rfl⟩
  | error failure => exact ⟨rfl, rfl⟩

variable [PtyDevice δ]

theorem sendInput_books (bytes : List UInt8) {slot : Slot (Penned δ)} (known : spawner.sessions.find? id = some place)
    (found : spawner.slots[place]? = some slot) : ∃ failure,
      failure? (spawner.sendInput id bytes).1 = failure.map (told "send_input" id) ∧
        (spawner.sendInput id bytes).2.books = spawner.books.write place (bytes, failure) := by
  obtain ⟨outcome, changed⟩ := onDevice_known "send_input" (PtyDevice.write bytes) known found
  refine ⟨_, outcome, ?_⟩
  rw [sendInput, changed]
  refine changeSlot_books fun other here => ?_
  cases found.symm.trans here
  rfl

theorem resize_books (size : Geometry) : (spawner.resize id size).2.books = spawner.books := by
  have told : (spawner.onDevice "resize" id (PtyDevice.resize size)).2.books = spawner.books := by
    rcases spawner.onDevice_ends "resize" id (PtyDevice.resize size) with lost | ⟨place, slot, -, found, changed⟩
    · rw [lost]
    · rw [changed]
      refine changeSlot_unwritten fun other here => ?_
      cases found.symm.trans here
      rfl
  rcases answer : spawner.onDevice "resize" id (PtyDevice.resize size) with ⟨outcome, last⟩
  rw [answer] at told
  cases outcome with
  | ok done =>
    simp only [resize, answer]
    exact told
  | error failure =>
    simp only [resize, answer]
    exact told

theorem terminate_books : (spawner.terminate id).2.books = spawner.books.strike id := by
  unfold terminate
  cases known : spawner.sessions.find? id with
  | none =>
    have same : spawner.sessions.remove id = spawner.sessions := by
      have kept : (spawner.sessions.remove id).filterMap some = spawner.sessions.filterMap some :=
        Assoc.filterMap_remove_blank fun place found => by cases known.symm.trans found
      rwa [List.filterMap_some, List.filterMap_some] at kept
    exact congrArg (Books.mk · _ _) same.symm
  | some place =>
    dsimp only
    split
    · rfl
    next slot found =>
      refine changeSlot_unwritten fun other here => ?_
      cases found.symm.trans here
      rfl

theorem readerStep_books {next : Spawner (Penned δ)} (step : spawner.readerStep? place = some next) :
    next.books = spawner.books := by
  obtain ⟨slot, found, -, sessions, counter, device, phase, looked, -, slots⟩ := readerStep_ends step
  have changed : (spawner.changeSlot place fun _ => { slot with device := device, phase := phase }).books =
      spawner.books := by
    refine changeSlot_unwritten fun other here => ?_
    cases found.symm.trans here
    exact congrArg (Prod.mk slot.session) looked.script
  rw [← changed, books, sessions, counter, slots]
  rfl

/-- A process that starts is registered under the next name; one that does not may have had a terminal already. -/
theorem spawn_books (spawner : Spawner (Penned δ)) {device : Penned δ} (blank : device.script = []) (cwd : String) :
    (∃ failure, (spawner.spawn device cwd).1 = .error failure ∧
      ((spawner.spawn device cwd).2.books = spawner.books ∨ (spawner.spawn device cwd).2.books = spawner.books.addIdle)) ∨
    (spawner.spawn device cwd).1 = .ok spawner.books.nextName ∧ (spawner.spawn device cwd).2.books = spawner.books.add := by
  have added {slot : Slot (Penned δ)} (name : slot.session = spawner.nextName) (empty : slot.device.script = []) :
      (spawner.slots ++ [slot]).map Slot.page = spawner.books.addIdle.pages := by
    rw [List.map_append, List.map_singleton, Slot.page, name, empty]
    rfl
  have ends := spawner.spawn_ends device cwd
  generalize spawner.spawn device cwd = result at ends
  obtain ⟨answer, last⟩ := result
  cases ends with
  | refused => exact .inl ⟨_, rfl, .inl rfl⟩
  | @failed _ _ slot _ name idle tried sessions counter slots =>
    have empty : slot.device.script = [] := by
      rcases tried with same | same
      · exact (congrArg Penned.script same).trans blank
      · exact (congrArg Penned.script same).trans blank
    refine .inl ⟨_, rfl, .inr ?_⟩
    rw [books, sessions, counter, slots, added name empty]
    rfl
  | @started _ slot _ name reading tried sessions counter slots =>
    have length : spawner.books.pages.length = spawner.slots.length := List.length_map ..
    have empty : slot.device.script = [] := (congrArg Penned.script tried).trans blank
    refine .inr ⟨rfl, ?_⟩
    rw [Books.add, length, books, sessions, counter, slots, added name empty]
    rfl

end Spawner

def sent (id : String) : BackendCall × Option Failure → Option (List UInt8 × Option Failure)
  | (call, failure) => (call.input? id).map (·, failure)

def Writings.told (id : String) (script : Writings) : Writings :=
  script.map fun (bytes, failure) => (bytes, failure.map (Pty.told "send_input" id))

/-- No input of a session waits behind the call that closes it. -/
def Precedes (first later : BackendCall) : Prop :=
  ∀ id, first = .close id → later.input? id = none

/-- The scripts, the calls that wait and those that have ended agree with what was typed into the sessions. -/
structure Ledger (live : String → Prop) (line : List BackendCall) (typed : List (String × List UInt8))
    (ended : List (BackendCall × Option Failure)) (books : Books) : Prop where
  numbered : books.counter = books.pages.length
  named : ∀ (place : Nat) name, books.names[place]? = some name → name = "term-" ++ toString (place + 1)
  keys : books.sessions.keys.Nodup
  housed : ∀ id place, books.sessions.find? id = some place → ∃ script, books.pages[place]? = some (id, script)
  kept : ∀ id, live id → id ∈ books.sessions.keys ∧ .close id ∉ line
  awaited : ∀ id, ∀ call ∈ line, call.input? id ≠ none → id ∈ books.sessions.keys
  ordered : line.Pairwise Precedes
  bound : ∀ call ∈ line, call.session ∈ books.names
  written : ∀ page ∈ books.pages, page.2.map Prod.fst ++ line.filterMap (·.input? page.1) = typedInto page.1 typed
  reported : ∀ page ∈ books.pages, page.2.told page.1 = ended.filterMap (sent page.1)
  unborn : ∀ id ∉ books.names, typedInto id typed = [] ∧ ended.filterMap (sent id) = []

namespace Ledger
variable {live still : String → Prop} {line : List BackendCall} {typed : List (String × List UInt8)}
variable {ended : List (BackendCall × Option Failure)} {books : Books} {id : String}

theorem blank (nobody : ∀ id, ¬ live id) : Ledger live [] [] [] ⟨[], 0, []⟩ := by
  refine ⟨rfl, fun place name found => ?_, .nil, fun id place found => ?_, fun id lives => absurd lives (nobody id),
    fun _ _ member => ?_, .nil, List.forall_mem_nil _, List.forall_mem_nil _, List.forall_mem_nil _, fun _ _ => ⟨rfl, rfl⟩⟩
  · cases (show none = some name from found)
  · cases (show none = some place from found)
  · cases member

theorem fewer (ledger : Ledger live line typed ended books) (fewer : ∀ other, still other → live other) :
    Ledger still line typed ended books :=
  { ledger with kept := fun other lives => ledger.kept other (fewer other lives) }

theorem known (ledger : Ledger live line typed ended books) (registered : id ∈ books.sessions.keys) : id ∈ books.names := by
  obtain ⟨place, found⟩ := Assoc.mem_keys_iff.mp registered
  obtain ⟨script, there⟩ := ledger.housed id place found
  exact List.mem_map.mpr ⟨_, List.mem_of_getElem? there, rfl⟩

theorem place_unique (ledger : Ledger live line typed ended books) {place other : Nat} {name : String}
    (here : books.names[place]? = some name) (there : books.names[other]? = some name) : place = other :=
  Pty.nameAt_inj ((ledger.named place name here).symm.trans (ledger.named other name there))

theorem unnamed (ledger : Ledger live line typed ended books) : books.nextName ∉ books.names := by
  intro member
  obtain ⟨place, found⟩ := List.mem_iff_getElem?.mp member
  have equal := Pty.numbered_inj (ledger.named place _ found)
  have length : books.names.length = books.pages.length := List.length_map ..
  have inside := (List.getElem?_eq_some_iff.mp found).1
  have numbered := ledger.numbered
  omega

theorem type (ledger : Ledger live line typed ended books) (here : live id) (bytes : List UInt8) :
    Ledger live (line ++ [.sendInput id bytes]) (typed ++ [(id, bytes)]) ended books := by
  obtain ⟨registered, unclosed⟩ := ledger.kept id here
  refine { ledger with
    kept := fun other lives => ?_
    awaited := fun other call member input => ?_
    ordered := ?_
    bound := fun call member => ?_
    written := fun page member => ?_
    unborn := fun other absent => ?_ }
  · obtain ⟨registered, unclosed⟩ := ledger.kept other lives
    exact ⟨registered, by simpa using unclosed⟩
  · rcases List.mem_append.mp member with old | new
    · exact ledger.awaited other call old input
    · cases List.mem_singleton.mp new
      have same : id = other := by simpa [BackendCall.input?] using input
      exact same ▸ registered
  · refine List.pairwise_append.mpr ⟨ledger.ordered, List.pairwise_singleton ..,
      fun first member later new other closes => ?_⟩
    cases List.mem_singleton.mp new
    have different : id ≠ other := by
      rintro rfl
      exact unclosed (closes ▸ member)
    exact if_neg different
  · rcases List.mem_append.mp member with old | new
    · exact ledger.bound call old
    · cases List.mem_singleton.mp new
      exact ledger.known registered
  · rw [List.filterMap_append, ← List.append_assoc, ledger.written page member, typedInto_append]
    rfl
  · have different : id ≠ other := fun same => absent (same ▸ ledger.known registered)
    rw [typedInto_append, (ledger.unborn other absent).1]
    exact ⟨by simp [typedInto, different], (ledger.unborn other absent).2⟩

theorem leave (ledger : Ledger live line typed ended books) (known : id ∈ books.names)
    (gone : ∀ other, still other → live other ∧ other ≠ id) : Ledger still (line ++ [.close id]) typed ended books := by
  refine { ledger with
    kept := fun other lives => ?_
    awaited := fun other call member input => ?_
    ordered := ?_
    bound := fun call member => ?_
    written := fun page member => ?_ }
  · obtain ⟨registered, unclosed⟩ := ledger.kept other (gone other lives).1
    refine ⟨registered, fun member => ?_⟩
    rcases List.mem_append.mp member with old | new
    · exact unclosed old
    · exact (gone other lives).2 (BackendCall.close.inj (List.mem_singleton.mp new))
  · rcases List.mem_append.mp member with old | new
    · exact ledger.awaited other call old input
    · cases List.mem_singleton.mp new
      exact absurd rfl input
  · refine List.pairwise_append.mpr ⟨ledger.ordered, List.pairwise_singleton .., fun first _ later new other _ => ?_⟩
    cases List.mem_singleton.mp new
    rfl
  · rcases List.mem_append.mp member with old | new
    · exact ledger.bound call old
    · cases List.mem_singleton.mp new
      exact known
  · rw [List.filterMap_append, ← ledger.written page member]
    exact congrArg _ (List.append_nil _)

theorem conclude (ledger : Ledger live line typed ended books) {call : BackendCall} (failure : Option Failure)
    (mute : ∀ id, call.input? id = none) : Ledger live line typed (ended ++ [(call, failure)]) books := by
  have same (id : String) : (ended ++ [(call, failure)]).filterMap (sent id) = ended.filterMap (sent id) := by
    simp [sent, mute]
  refine { ledger with
    reported := fun page member => ?_
    unborn := fun id absent => ?_ }
  · rw [same]
    exact ledger.reported page member
  · rw [same]
    exact ledger.unborn id absent

theorem skip {call : BackendCall} (ledger : Ledger live (call :: line) typed ended books)
    (mute : ∀ id, call.input? id = none) :
    Ledger live line typed ended books := by
  refine { ledger with
    kept := fun other lives => ?_
    awaited := fun other call member => ?_
    ordered := (List.pairwise_cons.mp ledger.ordered).2
    bound := fun call member => ledger.bound call (List.mem_cons_of_mem _ member)
    written := fun page member => ?_ }
  · obtain ⟨registered, unclosed⟩ := ledger.kept other lives
    exact ⟨registered, fun member => unclosed (List.mem_cons_of_mem _ member)⟩
  · exact ledger.awaited other call (List.mem_cons_of_mem _ member)
  · have all := ledger.written page member
    rwa [List.filterMap_cons, mute page.1] at all

theorem close (ledger : Ledger live (.close id :: line) typed ended books) :
    Ledger live line typed ended (books.strike id) := by
  have rest := ledger.skip fun _ => rfl
  have left (other : String) (different : other ≠ id) (registered : other ∈ books.sessions.keys) :
      other ∈ (books.sessions.remove id).keys := by
    obtain ⟨place, found⟩ := Assoc.mem_keys_iff.mp registered
    exact Assoc.mem_keys_iff.mpr ⟨place, (Assoc.find?_remove_of_ne different _).trans found⟩
  refine { rest with
    keys := Assoc.keys_remove_nodup ledger.keys id
    housed := fun other place found => ?_
    kept := fun other lives => ?_
    awaited := fun other call member input => ?_ }
  · exact ledger.housed other place (Assoc.find?_of_remove ledger.keys found)
  · obtain ⟨registered, unclosed⟩ := rest.kept other lives
    refine ⟨left other ?_ registered, unclosed⟩
    rintro rfl
    exact (ledger.kept other lives).2 (List.mem_cons_self ..)
  · refine left other ?_ (rest.awaited other call member input)
    rintro rfl
    exact input ((List.pairwise_cons.mp ledger.ordered).1 call member other rfl)

theorem write {bytes : List UInt8} {place : Nat} (ledger : Ledger live (.sendInput id bytes :: line) typed ended books)
    (found : books.sessions.find? id = some place) (failure : Option Failure) :
    Ledger live line typed (ended ++ [(.sendInput id bytes, failure.map (Pty.told "send_input" id))])
      (books.write place (bytes, failure)) := by
  obtain ⟨script, there⟩ := ledger.housed id place found
  have rewritten (other : Nat) : (books.write place (bytes, failure)).pages[other]? =
      if place = other then some (id, script ++ [(bytes, failure)]) else books.pages[other]? := by
    rw [Books.write, List.getElem?_modify]
    split
    next here =>
      rw [← here, there]
      rfl
    next => cases books.pages[other]? <;> rfl
  have among {page : String × Writings} (member : page ∈ (books.write place (bytes, failure)).pages) :
      page = (id, script ++ [(bytes, failure)]) ∨ page.1 ≠ id ∧ page ∈ books.pages := by
    obtain ⟨other, here⟩ := List.mem_iff_getElem?.mp member
    rw [rewritten] at here
    split at here
    next => exact .inl (Option.some.inj here).symm
    next different =>
      refine .inr ⟨fun same => different ?_, List.mem_of_getElem? here⟩
      have named {place : Nat} {page : String × Writings} (found : books.pages[place]? = some page) :
          books.names[place]? = some page.1 := by rw [Books.names, List.getElem?_map, found, Option.map_some]
      exact ledger.place_unique (named there) ((named here).trans (congrArg some same))
  have names := books.names_write place (bytes, failure)
  have sole (other : String) (different : other ≠ id) : (BackendCall.sendInput id bytes).input? other = none :=
    if_neg (Ne.symm different)
  have own : (BackendCall.sendInput id bytes).input? id = some bytes := if_pos rfl
  refine ⟨?_, ?_, ledger.keys, fun other registered known => ?_, fun other lives => ?_,
    fun other call member => ledger.awaited other call (List.mem_cons_of_mem _ member),
    (List.pairwise_cons.mp ledger.ordered).2, fun call member => ?_, fun page member => ?_, fun page member => ?_,
      fun other absent => ?_⟩
  · exact ledger.numbered.trans (List.length_modify ..).symm
  · exact names ▸ ledger.named
  · obtain ⟨old, before⟩ := ledger.housed other registered known
    rw [rewritten]
    split
    next here =>
      cases there.symm.trans (here ▸ before)
      exact ⟨_, rfl⟩
    next => exact ⟨old, before⟩
  · obtain ⟨registered, unclosed⟩ := ledger.kept other lives
    exact ⟨registered, fun member => unclosed (List.mem_cons_of_mem _ member)⟩
  · exact names ▸ ledger.bound call (List.mem_cons_of_mem _ member)
  · rcases among member with rfl | ⟨different, old⟩
    · have all := ledger.written _ (List.mem_of_getElem? there)
      rw [List.filterMap_cons, own] at all
      rw [List.map_append, List.append_assoc]
      exact all
    · have all := ledger.written page old
      rwa [List.filterMap_cons, sole _ different] at all
  · rw [List.filterMap_append]
    rcases among member with rfl | ⟨different, old⟩
    · rw [← ledger.reported _ (List.mem_of_getElem? there), Writings.told, List.map_append]
      simp [sent, own, Writings.told]
    · rw [ledger.reported page old]
      simp [sent, sole _ different]
  · rw [names] at absent
    have different : other ≠ id := by
      rintro rfl
      exact absent (ledger.known (Assoc.mem_keys_iff.mpr ⟨place, found⟩))
    obtain ⟨untyped, unsent⟩ := ledger.unborn other absent
    refine ⟨untyped, ?_⟩
    rw [List.filterMap_append, unsent]
    simp [sent, sole _ different]

theorem addIdle (ledger : Ledger live line typed ended books) : Ledger live line typed ended books.addIdle := by
  obtain ⟨untyped, unsent⟩ := ledger.unborn _ ledger.unnamed
  have silent : line.filterMap (·.input? books.nextName) = [] := by
    refine List.filterMap_eq_nil_iff.mpr fun call member => ?_
    by_contra input
    exact ledger.unnamed (ledger.known (ledger.awaited _ call member input))
  have among {name : String} (member : name ∈ books.names) : name ∈ books.addIdle.names := by
    rw [books.names_addIdle]
    exact List.mem_append_left _ member
  have older {page : String × Writings} (member : page ∈ books.addIdle.pages) :
      page ∈ books.pages ∨ page = (books.nextName, []) :=
    (List.mem_append.mp member).imp_right List.mem_singleton.mp
  refine { ledger with
    numbered := ?_
    named := fun place name found => ?_
    housed := fun other place found => ?_
    bound := fun call member => ?_
    written := fun page member => ?_
    reported := fun page member => ?_
    unborn := fun other absent => ledger.unborn other fun member => absent (among member) }
  · rw [Books.addIdle, List.length_append, ledger.numbered, List.length_singleton]
  · rw [books.names_addIdle] at found
    rcases getElem?_concat_cases found with old | ⟨rfl, rfl⟩
    · exact ledger.named place name old
    · rw [Books.nextName, ledger.numbered, Books.names, List.length_map]
  · obtain ⟨script, there⟩ := ledger.housed other place found
    exact ⟨script, List.getElem?_append_left (List.getElem?_eq_some_iff.mp there).1 ▸ there⟩
  · exact among (ledger.bound call member)
  · rcases older member with old | rfl
    · exact ledger.written page old
    · exact silent.trans untyped.symm
  · rcases older member with old | rfl
    · exact ledger.reported page old
    · exact unsent.symm

theorem add (ledger : Ledger live line typed ended books)
    (admits : ∀ other, still other → live other ∨ other = books.nextName) :
    Ledger still line typed ended books.add := by
  have idle := ledger.addIdle
  have new : books.nextName ∈ books.add.sessions.keys := Assoc.mem_keys_iff.mpr ⟨_, Assoc.find?_put_self _ _ _⟩
  have older : ∀ other ∈ books.sessions.keys, other ∈ books.add.sessions.keys := Assoc.keys_subset_put _ _ _
  refine { idle with
    keys := Assoc.keys_put_nodup ledger.keys _
    housed := fun other place found => ?_
    kept := fun other lives => ?_
    awaited := fun other call member input => older other (ledger.awaited other call member input) }
  · by_cases mine : other = books.nextName
    · have here : (books.sessions.put books.nextName books.pages.length).find? other = some place := found
      rw [mine, Assoc.find?_put_self] at here
      cases here
      exact ⟨[], mine ▸ List.getElem?_concat_length ..⟩
    · exact idle.housed other place ((Assoc.find?_put_of_ne mine _ _).symm.trans found)
  · rcases admits other lives with before | rfl
    · exact (ledger.kept other before).imp_left (older other)
    · exact ⟨new, fun member => ledger.unnamed (ledger.bound _ member)⟩

end Ledger

end Pty

end TerminalDock
