import TerminalDock.Proofs.DockRuns
import TerminalDock.Proofs.SpawnerSteps
import TerminalDock.Window.Host

/-! Processes and their ends. A process that was started is registered and was not ended, or it was ended once and is not
registered any more. -/

namespace TerminalDock

namespace Pty

namespace PuppetPty

def ends (pty : PuppetPty) : Nat :=
  pty.calls.count .terminate

/-- The process is not ended, and nothing keeps it from being ended. -/
structure GoesOn (first last : PuppetPty) : Prop where
  ends : last.ends = first.ends
  willing : first.terminateFailure = none → last.terminateFailure = none

private theorem note_goesOn (pty : PuppetPty) {call : DeviceCall} (other : call ≠ .terminate) :
    pty.GoesOn (pty.note call) := by
  refine ⟨?_, id⟩
  change (pty.calls ++ [call]).count .terminate = pty.calls.count .terminate
  rw [List.count_append, List.count_singleton, if_neg (by simpa using other), Nat.add_zero]

theorem read_goesOn (pty : PuppetPty) : pty.GoesOn (PtyDevice.read pty).2 := by
  obtain ⟨arrivals, alive, endsOutput, spawn, write, resize, terminate, calls, closed⟩ := pty
  cases arrivals with
  | nil => exact ⟨rfl, id⟩
  | cons first rest => exact ⟨rfl, id⟩

private theorem looked_goesOn {pty later : PuppetPty} (looked : Looked pty later) : pty.GoesOn later := by
  induction looked with
  | read => exact read_goesOn pty
  | check => exact ⟨rfl, id⟩
  | close _ goes => exact ⟨goes.ends, goes.willing⟩

theorem terminate_ends {pty : PuppetPty} (willing : pty.terminateFailure = none) :
    (PtyDevice.terminate pty).1 = .ok () ∧ (PtyDevice.terminate pty).2.ends = pty.ends + 1 ∧
      (PtyDevice.terminate pty).2.terminateFailure = none := by
  have counted : (pty.calls ++ [DeviceCall.terminate]).count .terminate = pty.calls.count .terminate + 1 := by
    rw [List.count_append, List.count_singleton_self]
  obtain ⟨arrivals, alive, endsOutput, spawn, write, resize, terminate, calls, closed⟩ := pty
  cases willing
  cases endsOutput with
  | true => exact ⟨rfl, counted, rfl⟩
  | false => exact ⟨rfl, counted, rfl⟩

end PuppetPty

structure Slot.GoesOn (first last : Slot PuppetPty) : Prop where
  started : last.started = first.started
  device : first.device.GoesOn last.device

theorem Slot.GoesOn.trans {first middle last : Slot PuppetPty} (before : first.GoesOn middle) (later : middle.GoesOn last) :
    first.GoesOn last :=
  ⟨later.started.trans before.started, later.device.ends.trans before.device.ends,
    fun willing => later.device.willing (before.device.willing willing)⟩

namespace Spawner

/-- No process is started or ended. -/
structure GoesOn (first last : Spawner PuppetPty) : Prop where
  sessions : last.sessions = first.sessions
  counter : last.counter = first.counter
  length : last.slots.length = first.slots.length
  slots : ∀ (place : Nat) slot, last.slots[place]? = some slot →
    ∃ old : Slot PuppetPty, first.slots[place]? = some old ∧ old.GoesOn slot

/-- Every process that was started is registered, or it was ended once. -/
structure Tended (spawner : Spawner PuppetPty) : Prop where
  keys : spawner.sessions.keys.Nodup
  named : ∀ id ∈ spawner.sessions.keys, ∃ number ≤ spawner.counter, id = "term-" ++ toString number
  places : spawner.sessions.values.Nodup
  inside : ∀ place ∈ spawner.sessions.values, place < spawner.slots.length
  willing : ∀ (place : Nat) slot, spawner.slots[place]? = some slot → slot.device.terminateFailure = none
  unended : ∀ (place : Nat) slot, spawner.slots[place]? = some slot → place ∈ spawner.sessions.values →
    slot.device.ends = 0
  ended : ∀ (place : Nat) slot, spawner.slots[place]? = some slot → slot.started = true →
    place ∉ spawner.sessions.values → slot.device.ends = 1

variable {spawner first middle last : Spawner PuppetPty}

namespace GoesOn

protected theorem refl (spawner : Spawner PuppetPty) : spawner.GoesOn spawner :=
  ⟨rfl, rfl, rfl, fun _ slot found => ⟨slot, found, rfl, rfl, id⟩⟩

protected theorem trans (before : first.GoesOn middle) (later : middle.GoesOn last) : first.GoesOn last := by
  refine ⟨later.sessions.trans before.sessions, later.counter.trans before.counter, later.length.trans before.length, ?_⟩
  intro place slot found
  obtain ⟨between, there, goes⟩ := later.slots place slot found
  obtain ⟨old, here, went⟩ := before.slots place between there
  exact ⟨old, here, went.trans goes⟩

theorem of_alike (sessions : last.sessions = first.sessions) (counter : last.counter = first.counter)
    (slots : last.slots = first.slots) : first.GoesOn last :=
  ⟨sessions, counter, congrArg List.length slots, fun _ slot found => ⟨slot, slots ▸ found, rfl, rfl, id⟩⟩

theorem of_change {place : Nat} {change : Slot PuppetPty → Slot PuppetPty}
    (goes : ∀ slot, spawner.slots[place]? = some slot → slot.GoesOn (change slot)) :
    spawner.GoesOn (spawner.changeSlot place change) := by
  refine ⟨rfl, rfl, List.length_modify .., fun other slot found => ?_⟩
  rw [changeSlot, List.getElem?_modify] at found
  obtain ⟨old, there, same⟩ := Option.map_eq_some_iff.mp found
  refine ⟨old, there, ?_⟩
  subst same
  split
  next here => exact goes old (here ▸ there)
  next => exact ⟨rfl, rfl, id⟩

end GoesOn

private theorem onDevice_goesOn (spawner : Spawner PuppetPty) (call session : String)
    {act : PuppetPty → Except Failure Unit × PuppetPty} (goes : ∀ pty : PuppetPty, pty.GoesOn (act pty).2) :
    spawner.GoesOn (spawner.onDevice call session act).2 := by
  unfold onDevice
  split
  · exact .refl spawner
  next place slot known =>
    have changed : spawner.GoesOn (spawner.changeSlot place fun other => { other with device := (act slot.device).2 }) := by
      refine .of_change fun other here => ⟨rfl, ?_⟩
      obtain ⟨registered, -, found⟩ := Option.bind_eq_some_iff.mp known
      obtain ⟨found', there, same⟩ := Option.map_eq_some_iff.mp found
      cases same
      cases there.symm.trans here
      exact goes slot.device
    dsimp only
    split
    · exact changed
    · exact changed

private theorem resize_goesOn (spawner : Spawner PuppetPty) (session : String) (size : Geometry) :
    spawner.GoesOn (spawner.resize session size).2 := by
  have goes : spawner.GoesOn (spawner.onDevice "resize" session (PtyDevice.resize size)).2 :=
    onDevice_goesOn spawner _ session fun pty => PuppetPty.note_goesOn pty (by simp)
  rcases answer : spawner.onDevice "resize" session (PtyDevice.resize size) with ⟨outcome, last⟩
  rw [answer] at goes
  cases outcome with
  | ok done =>
    simp only [resize, answer]
    exact goes.trans (.of_alike rfl rfl rfl)
  | error failure =>
    simp only [resize, answer]
    exact goes

private theorem sendInput_goesOn (spawner : Spawner PuppetPty) (session : String) (bytes : List UInt8) :
    spawner.GoesOn (spawner.sendInput session bytes).2 :=
  onDevice_goesOn spawner _ session fun pty => PuppetPty.note_goesOn pty (by simp)

theorem readerStep_goesOn {next : Spawner PuppetPty} {place : Nat} (step : spawner.readerStep? place = some next) :
    spawner.GoesOn next := by
  obtain ⟨slot, found, started, sessions, counter, device, phase, looked, busy, slots⟩ := readerStep_ends step
  have changed : spawner.GoesOn
      (spawner.changeSlot place fun _ => { slot with device := device, phase := phase }) := by
    refine .of_change fun other here => ?_
    cases found.symm.trans here
    exact ⟨(bne_iff_ne.mpr busy).trans started.symm, PuppetPty.looked_goesOn looked⟩
  exact changed.trans (.of_alike sessions counter slots)

namespace Tended

theorem of_unused (sessions : spawner.sessions = []) (slots : spawner.slots = []) : spawner.Tended := by
  have nothing {place : Nat} {slot : Slot PuppetPty} (found : spawner.slots[place]? = some slot) : False := by
    rw [slots] at found
    cases found
  refine ⟨?_, ?_, ?_, ?_, fun _ _ found => (nothing found).elim, fun _ _ found => (nothing found).elim,
    fun _ _ found => (nothing found).elim⟩
  · rw [sessions]
    exact List.nodup_nil
  · rw [sessions]
    exact fun _ member => nomatch member
  · rw [sessions]
    exact List.nodup_nil
  · rw [sessions]
    exact fun _ member => nomatch member

theorem goOn (tended : first.Tended) (goes : first.GoesOn last) : last.Tended := by
  refine ⟨?_, ?_, ?_, ?_, fun place slot found => ?_, fun place slot found registered => ?_,
    fun place slot found started gone => ?_⟩
  · exact goes.sessions ▸ tended.keys
  · rw [goes.sessions, goes.counter]
    exact tended.named
  · exact goes.sessions ▸ tended.places
  · rw [goes.sessions, goes.length]
    exact tended.inside
  · obtain ⟨old, there, went⟩ := goes.slots place slot found
    exact went.device.willing (tended.willing place old there)
  · obtain ⟨old, there, went⟩ := goes.slots place slot found
    exact went.device.ends.trans (tended.unended place old there (goes.sessions ▸ registered))
  · obtain ⟨old, there, went⟩ := goes.slots place slot found
    exact went.device.ends.trans (tended.ended place old there (went.started ▸ started) (goes.sessions ▸ gone))

theorem unknown (tended : spawner.Tended) : "term-" ++ toString (spawner.counter + 1) ∉ spawner.sessions.keys := by
  intro member
  obtain ⟨number, given, same⟩ := tended.named _ member
  have same := numbered_inj same
  omega

theorem addIdle (tended : spawner.Tended) {slot : Slot PuppetPty} (idle : slot.started = false)
    (willing : slot.device.terminateFailure = none) (sessions : last.sessions = spawner.sessions)
    (counter : last.counter = spawner.counter + 1) (slots : last.slots = spawner.slots ++ [slot]) : last.Tended := by
  have cases_of {place : Nat} {other : Slot PuppetPty} (found : last.slots[place]? = some other) :
      spawner.slots[place]? = some other ∨ (other = slot ∧ place = spawner.slots.length) := by
    rw [slots] at found
    exact getElem?_concat_cases found
  refine ⟨sessions ▸ tended.keys, fun id member => ?_, sessions ▸ tended.places, fun place member => ?_,
    fun place other found => ?_, fun place other found registered => ?_, fun place other found started gone => ?_⟩
  · obtain ⟨number, given, same⟩ := tended.named id (sessions ▸ member)
    exact ⟨number, by omega, same⟩
  · rw [slots, List.length_append]
    exact Nat.lt_add_right _ (tended.inside place (sessions ▸ member))
  · rcases cases_of found with old | ⟨rfl, -⟩
    · exact tended.willing place other old
    · exact willing
  · rw [sessions] at registered
    rcases cases_of found with old | ⟨-, rfl⟩
    · exact tended.unended place other old registered
    · exact absurd (tended.inside _ registered) (Nat.lt_irrefl _)
  · rw [sessions] at gone
    rcases cases_of found with old | ⟨rfl, -⟩
    · exact tended.ended place other old started gone
    · cases idle.symm.trans started

theorem add (tended : spawner.Tended) {slot : Slot PuppetPty} (unended : slot.device.ends = 0)
    (willing : slot.device.terminateFailure = none) (sessions : last.sessions =
      spawner.sessions.put ("term-" ++ toString (spawner.counter + 1)) spawner.slots.length)
    (counter : last.counter = spawner.counter + 1) (slots : last.slots = spawner.slots ++ [slot]) : last.Tended := by
  have values : last.sessions.values = spawner.sessions.values ++ [spawner.slots.length] := by
    rw [sessions, Assoc.put_of_absent (Assoc.find?_eq_none.mpr tended.unknown), Assoc.values, List.map_append]
    rfl
  have outside : spawner.slots.length ∉ spawner.sessions.values :=
    fun member => Nat.lt_irrefl _ (tended.inside _ member)
  have cases_of {place : Nat} {other : Slot PuppetPty} (found : last.slots[place]? = some other) :
      spawner.slots[place]? = some other ∨ (other = slot ∧ place = spawner.slots.length) := by
    rw [slots] at found
    exact getElem?_concat_cases found
  have among {place : Nat} : place ∈ last.sessions.values ↔ place ∈ spawner.sessions.values ∨
    place = spawner.slots.length := by
    rw [values, List.mem_append, List.mem_singleton]
  refine ⟨?_, fun id member => ?_, ?_, fun place member => ?_, fun place other found => ?_,
    fun place other found registered => ?_, fun place other found started gone => ?_⟩
  · rw [sessions]
    exact Assoc.keys_put_nodup tended.keys _
  · rw [sessions] at member
    rw [counter]
    rcases Assoc.mem_keys_put member with rfl | old
    · exact ⟨_, Nat.le_refl _, rfl⟩
    · obtain ⟨number, given, same⟩ := tended.named id old
      exact ⟨number, by omega, same⟩
  · rw [values]
    exact tended.places.append (List.nodup_singleton _) (by simpa using outside)
  · rw [slots, List.length_append, List.length_singleton]
    rcases among.mp member with old | rfl
    · exact Nat.lt_succ_of_lt (tended.inside place old)
    · exact Nat.lt_succ_self _
  · rcases cases_of found with old | ⟨rfl, -⟩
    · exact tended.willing place other old
    · exact willing
  · rcases cases_of found with old | ⟨rfl, -⟩
    · refine tended.unended place other old ((among.mp registered).resolve_right ?_)
      exact Nat.ne_of_lt (List.getElem?_eq_some_iff.mp old).1
    · exact unended
  · rcases cases_of found with old | ⟨-, rfl⟩
    · exact tended.ended place other old started fun registered => gone (among.mpr (.inl registered))
    · exact absurd (among.mpr (.inr rfl)) gone

theorem spawn (tended : spawner.Tended) {device : PuppetPty} (unended : device.ends = 0)
    (willing : device.terminateFailure = none) (cwd : String) : (spawner.spawn device cwd).2.Tended := by
  have goes (path : String) :
      device.GoesOn (PtyDevice.spawn spawner.command path spawner.initialSize spawner.environment device).2 :=
    PuppetPty.note_goesOn device (by simp)
  have ends := spawn_ends spawner device cwd
  generalize spawner.spawn device cwd = result at ends
  obtain ⟨answer, last⟩ := result
  cases ends with
  | refused => exact tended
  | @failed _ path slot _ _ idle tried sessions counter slots =>
    refine tended.addIdle (bne_eq_false_iff_eq.mpr idle) ?_ sessions counter slots
    rcases tried with same | same
    · rw [same]
      exact (goes path).willing willing
    · rw [same]
      exact (goes path).willing willing
  | @started path slot _ _ _ tried sessions counter slots =>
    refine tended.add ?_ ?_ sessions counter slots
    · rw [tried]
      exact (goes path).ends.trans unended
    · rw [tried]
      exact (goes path).willing willing

theorem terminate (tended : spawner.Tended) {session : String} {place : Nat}
    (found : spawner.sessions.find? session = some place) :
    (spawner.terminate session).1 = some (.ok ()) ∧ (spawner.terminate session).2.Tended ∧
      (spawner.terminate session).2.sessions = spawner.sessions.remove session := by
  have parts := (Assoc.perm_remove found).map Prod.snd
  have distinct : place ∉ (spawner.sessions.remove session).values ∧ (spawner.sessions.remove session).values.Nodup :=
    List.nodup_cons.mp (parts.nodup_iff.mp tended.places)
  have among {other : Nat} : other ∈ spawner.sessions.values ↔ other = place ∨
    other ∈ (spawner.sessions.remove session).values :=
    parts.mem_iff.trans List.mem_cons
  have member := among.mpr (.inl rfl)
  obtain ⟨slot, there⟩ : ∃ slot, spawner.slots[place]? = some slot :=
    ⟨_, List.getElem?_eq_getElem (tended.inside place member)⟩
  obtain ⟨succeeds, ends, willing⟩ := PuppetPty.terminate_ends (tended.willing place slot there)
  rw [terminate_found found there, succeeds]
  refine ⟨rfl, ⟨Assoc.keys_remove_nodup tended.keys session, fun id member => ?_, distinct.2, fun other member => ?_,
    fun other changed here => ?_, fun other changed here registered => ?_, fun other changed here started gone => ?_⟩, rfl⟩
  · exact tended.named id (((Assoc.remove_sublist session spawner.sessions).map Prod.fst).subset member)
  · rw [List.length_modify]
    exact tended.inside other (among.mpr (.inr member))
  · rcases getElem?_modify_cases here with ⟨-, old⟩ | ⟨-, -, -, rfl⟩
    · exact tended.willing other changed old
    · exact willing
  · rcases getElem?_modify_cases here with ⟨-, old⟩ | ⟨rfl, -⟩
    · exact tended.unended other changed old (among.mpr (.inr registered))
    · exact absurd registered distinct.1
  · rcases getElem?_modify_cases here with ⟨different, old⟩ | ⟨rfl, -, -, rfl⟩
    · exact tended.ended other changed old started fun registered => (among.mp registered).elim different gone
    · exact ends.trans (congrArg (· + 1) (tended.unended other slot there member))

theorem endAll (tended : spawner.Tended) {ids : List String} (all : spawner.sessions.keys = ids) :
    (spawner.endAll ids).1 = .ok () ∧ (spawner.endAll ids).2.Tended ∧ (spawner.endAll ids).2.sessions = [] := by
  induction ids generalizing spawner with
  | nil => exact ⟨rfl, tended, List.map_eq_nil_iff.mp all⟩
  | cons id rest ih =>
    obtain ⟨⟨key, place⟩, others, shape, same, remaining⟩ := List.map_eq_cons_iff.mp all
    cases same
    have found : spawner.sessions.find? key = some place := by
      rw [shape, Assoc.find?, if_pos rfl]
    obtain ⟨succeeds, kept, sessions⟩ := tended.terminate found
    have goes : spawner.endAll (key :: rest) = (spawner.terminate key).2.endAll rest := by
      rcases answer : spawner.terminate key with ⟨outcome, last⟩
      rw [answer] at succeeds
      simp only [Spawner.endAll, answer, show outcome = some (.ok ()) from succeeds]
    rw [goes]
    refine ih kept ?_
    rw [sessions, shape, Assoc.remove, if_pos rfl]
    exact remaining

/-- At the end the process of every terminal was ended once. -/
theorem shutdown (tended : spawner.Tended) : spawner.shutdown.1 = .ok () ∧
    ∀ slot ∈ spawner.shutdown.2.slots, slot.started = true → slot.device.ends = 1 := by
  obtain ⟨succeeds, kept, nobody⟩ := tended.endAll rfl
  refine ⟨succeeds, fun slot member started => ?_⟩
  obtain ⟨place, found⟩ := List.mem_iff_getElem?.mp member
  refine kept.ended place slot found started ?_
  rw [nobody]
  exact List.not_mem_nil

end Tended

end Spawner

end Pty

open Pty

namespace Host

/-- The processes are tended, and so will be the one that is started next. -/
structure Tended (host : Host PuppetPty) : Prop where
  spawner : host.spawner.Tended
  unended : host.fresh.ends = 0
  willing : host.fresh.terminateFailure = none

namespace Tended
variable {host : Host PuppetPty}

theorem onSpawner (tended : host.Tended) {spawner : Spawner PuppetPty} (kept : spawner.Tended) :
    ({ host with spawner := spawner } : Host PuppetPty).Tended :=
  { tended with spawner := kept }

theorem takeJournal (tended : host.Tended) : host.takeJournal.2.Tended :=
  tended.onSpawner (tended.spawner.goOn (.of_alike rfl rfl rfl))

theorem spawn (tended : host.Tended) (cwd : String) : (SessionBackend.spawn cwd host).2.2.Tended :=
  (tended.onSpawner (tended.spawner.spawn tended.unended tended.willing cwd)).takeJournal

theorem begin (tended : host.Tended) (call : BackendCall) : (SessionBackend.begin call host).2.2.Tended := by
  cases call with
  | close session =>
    have closed : (SessionBackend.begin (.close session) host).2.2 =
        { host with spawner := (host.spawner.terminate session).2 } := by
      change (host.beginClose session).2.2 = _
      unfold Host.beginClose
      dsimp only
      split <;> rfl
    rw [closed]
    refine tended.onSpawner ?_
    cases found : host.spawner.sessions.find? session with
    | none =>
      have alone : (host.spawner.terminate session).2 = host.spawner := by simp only [Spawner.terminate, found]
      rw [alone]
      exact tended.spawner
    | some place => exact (tended.spawner.terminate found).2.1
  | resize session size =>
    exact (tended.onSpawner (tended.spawner.goOn (Spawner.resize_goesOn host.spawner session size))).takeJournal
  | sendInput session bytes =>
    exact (tended.onSpawner (tended.spawner.goOn (Spawner.sendInput_goesOn host.spawner session bytes))).takeJournal

end Tended

end Host

end TerminalDock
