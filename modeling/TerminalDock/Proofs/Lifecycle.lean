import TerminalDock.Proofs.Custody

/-! The life of a process, from its start to its end. A process that was started is registered, or its close is under way,
or it was ended, and only one of these; so whoever ends it is the only one to do so, and once its session was taken out
nothing is passed on to it any more. -/

namespace TerminalDock.Pty

open Spawner

variable {δ : Type}

namespace Custody

variable {custody first last : Custody δ}

/-- Each terminal has the session of its place. A process that was started is ended once if its session is not living, and
not at all if it is; and a session lives once. -/
structure Balanced (custody : Custody δ) : Prop where
  numbered : custody.spawner.counter = custody.spawner.slots.length
  named : ∀ (place : Nat) slot, custody.spawner.slots[place]? = some slot → slot.session = nameAt place
  housed : ∀ entry ∈ custody.living, entry.1 = nameAt entry.2 ∧ entry.2 < custody.spawner.slots.length
  balance : ∀ (place : Nat) slot, custody.spawner.slots[place]? = some slot →
    slot.device.ends + custody.living.values.count place = if slot.started then 1 else 0
  given : ∀ id ∈ custody.given, ∃ (place : Nat) (slot : Slot (Watched δ)),
    custody.spawner.slots[place]? = some slot ∧ slot.session = id ∧ slot.started = true
  fresh : custody.given.Nodup

namespace Balanced

theorem unknown (balanced : custody.Balanced) : custody.spawner.sessions.find? custody.spawner.nextName = none := by
  refine Assoc.find?_eq_none.mpr fun member => ?_
  obtain ⟨entry, there, same⟩ := List.mem_map.mp member
  obtain ⟨name, within⟩ := balanced.housed entry (List.mem_append_left _ there)
  have place : entry.2 = custody.spawner.counter := nameAt_inj (name.symm.trans same)
  rw [place, balanced.numbered] at within
  exact Nat.lt_irrefl _ within

private theorem lives_once (balanced : custody.Balanced) (place : Nat) : custody.living.values.count place ≤ 1 := by
  by_cases member : place ∈ custody.living.values
  · obtain ⟨entry, there, rfl⟩ := List.mem_map.mp member
    have balance := balanced.balance entry.2 _ (List.getElem?_eq_getElem (balanced.housed entry there).2)
    split at balance <;> omega
  · exact Nat.le_trans (Nat.le_of_eq (List.count_eq_zero.mpr member)) (Nat.zero_le 1)

theorem inside (balanced : custody.Balanced) {entry : String × Nat} (member : entry ∈ custody.spawner.sessions) :
    entry.2 < custody.spawner.slots.length :=
  (balanced.housed entry (List.mem_append_left _ member)).2

private theorem place_of (balanced : custody.Balanced) {id : String} {place : Nat}
    (found : custody.spawner.sessions.find? id = some place) : id = nameAt place :=
  (balanced.housed (id, place) (List.mem_append_left _ (Assoc.mem_of_find? found))).1

theorem unborn (balanced : custody.Balanced) :
    custody.living.values.count custody.spawner.slots.length = 0 ∧ custody.spawner.nextName ∉ custody.given := by
  refine ⟨List.count_eq_zero.mpr fun lives => ?_, fun old => ?_⟩
  · obtain ⟨entry, there, same⟩ := List.mem_map.mp lives
    exact Nat.ne_of_lt (balanced.housed entry there).2 same
  · obtain ⟨place, slot, found, same, -⟩ := balanced.given _ old
    have here : place = custody.spawner.counter := nameAt_inj ((balanced.named place slot found).symm.trans same)
    exact Nat.ne_of_lt (List.getElem?_eq_some_iff.mp found).1 (here.trans balanced.numbered)

theorem grow (balanced : first.Balanced) {slot : Slot (Watched δ)} {more : List (String × Nat)}
    (name : slot.session = first.spawner.nextName) (unended : slot.device.ends = 0)
    (entries : more = if slot.started then [(first.spawner.nextName, first.spawner.slots.length)] else [])
    (counter : last.spawner.counter = first.spawner.counter + 1) (slots : last.spawner.slots = first.spawner.slots ++ [slot])
    (living : last.living.Perm (more ++ first.living)) (given : last.given = first.given ++ more.map Prod.fst) :
    last.Balanced := by
  have next : first.spawner.nextName = nameAt first.spawner.slots.length := congrArg nameAt balanced.numbered
  have length : last.spawner.slots.length = first.spawner.slots.length + 1 := by rw [slots, List.length_append]; rfl
  have cases_of {place : Nat} {other : Slot (Watched δ)} (found : last.spawner.slots[place]? = some other) :
      first.spawner.slots[place]? = some other ∨ (other = slot ∧ place = first.spawner.slots.length) := by
    rw [slots] at found
    exact getElem?_concat_cases found
  have kept {place : Nat} {other : Slot (Watched δ)} (found : first.spawner.slots[place]? = some other) :
      last.spawner.slots[place]? = some other := by
    rw [slots, List.getElem?_append_left (List.getElem?_eq_some_iff.mp found).1]
    exact found
  have newcomer : last.spawner.slots[first.spawner.slots.length]? = some slot := by
    rw [slots]
    exact List.getElem?_concat_length
  have counted (place : Nat) : last.living.values.count place = (Assoc.values more).count place +
      first.living.values.count place := by
    rw [Assoc.values, (living.map Prod.snd).count_eq, List.map_append, List.count_append]
    rfl
  refine ⟨?_, fun place other found => ?_, fun entry member => ?_, fun place other found => ?_, fun id member => ?_, ?_⟩
  · rw [counter, length, balanced.numbered]
  · rcases cases_of found with old | ⟨rfl, rfl⟩
    · exact balanced.named place other old
    · exact name.trans next
  · rw [length]
    rcases List.mem_append.mp (living.mem_iff.mp member) with new | old
    · rw [entries] at new
      split at new
      · cases List.mem_singleton.mp new
        exact ⟨next, Nat.lt_succ_self _⟩
      · cases new
    · exact ⟨(balanced.housed entry old).1, Nat.lt_succ_of_lt (balanced.housed entry old).2⟩
  · rw [counted]
    rcases cases_of found with old | ⟨rfl, rfl⟩
    · have within := (List.getElem?_eq_some_iff.mp old).1
      have apart : (Assoc.values more).count place = 0 := by
        refine List.count_eq_zero.mpr fun new => ?_
        rw [entries] at new
        split at new
        · exact Nat.ne_of_lt within (List.mem_singleton.mp new)
        · cases new
      rw [apart, Nat.zero_add]
      exact balanced.balance place other old
    · rw [unended, balanced.unborn.1, entries, Nat.zero_add, Nat.add_zero]
      split
      · exact List.count_singleton_self
      · rfl
  · rw [given] at member
    rcases List.mem_append.mp member with old | new
    · obtain ⟨place, other, found, same⟩ := balanced.given id old
      exact ⟨place, other, kept found, same⟩
    · rw [entries] at new
      split at new
      next started =>
        cases List.mem_singleton.mp new
        exact ⟨_, slot, newcomer, name, started⟩
      next => cases new
  · rw [given, entries]
    split
    · exact balanced.fresh.append (List.nodup_singleton _) (List.disjoint_singleton.mpr balanced.unborn.2)
    · rw [List.map_nil, List.append_nil]
      exact balanced.fresh

theorem pass (balanced : first.Balanced) (passes : PassesOn first.spawner last.spawner)
    (leaving : last.leaving = first.leaving) (given : last.given = first.given) : last.Balanced := by
  have same : last.living = first.living := by rw [living, living, passes.sessions, leaving]
  have kept {place : Nat} {old : Slot (Watched δ)} (found : first.spawner.slots[place]? = some old) :
      ∃ slot, last.spawner.slots[place]? = some slot ∧ slot.session = old.session ∧ slot.started = old.started := by
    have within := (List.getElem?_eq_some_iff.mp found).1
    rw [← passes.length] at within
    obtain ⟨other, there, session, started, -⟩ := passes.slots place _ (List.getElem?_eq_getElem within)
    cases found.symm.trans there
    exact ⟨_, List.getElem?_eq_getElem within, session, started⟩
  refine ⟨?_, fun place slot found => ?_, ?_, fun place slot found => ?_, fun id member => ?_, given ▸ balanced.fresh⟩
  · rw [passes.counter, passes.length, balanced.numbered]
  · obtain ⟨old, there, session, -⟩ := passes.slots place slot found
    exact session.trans (balanced.named place old there)
  · rw [same, passes.length]
    exact balanced.housed
  · obtain ⟨old, there, -, started, ends, -⟩ := passes.slots place slot found
    rw [same, ends, started]
    exact balanced.balance place old there
  · obtain ⟨place, old, found, named, works⟩ := balanced.given id (given ▸ member)
    obtain ⟨slot, there, session, started⟩ := kept found
    exact ⟨place, slot, there, session.trans named, started.trans works⟩

theorem take (balanced : first.Balanced) {id : String} {place : Nat}
    (found : first.spawner.sessions.find? id = some place)
      (sessions : last.spawner.sessions = first.spawner.sessions.remove id)
    (counter : last.spawner.counter = first.spawner.counter) (slots : last.spawner.slots = first.spawner.slots)
    (leaving : last.leaving = first.leaving ++ [(id, place)]) (given : last.given = first.given) : last.Balanced := by
  have moved := living_take found sessions leaving
  refine ⟨?_, slots ▸ balanced.named, fun entry member => ?_, fun place slot there => ?_, ?_, given ▸ balanced.fresh⟩
  · rw [counter, slots, balanced.numbered]
  · rw [slots]
    exact balanced.housed entry (moved.mem_iff.mp member)
  · rw [Assoc.values, (moved.map Prod.snd).count_eq]
    exact balanced.balance place slot (slots ▸ there)
  · rw [given, slots]
    exact balanced.given

end Balanced

variable [PtyDevice δ]

/-- At the place where the process has ended one session less lives and one end more is counted. -/
theorem Balanced.finish (balanced : first.Balanced) {turn : Nat} {id : String} {place : Nat} {slot : Slot (Watched δ)}
    (next : first.leaving[turn]? = some (id, place)) (there : first.spawner.slots[place]? = some slot)
    (sessions : last.spawner.sessions = first.spawner.sessions) (counter : last.spawner.counter = first.spawner.counter)
    (slots : last.spawner.slots = first.spawner.slots.modify place fun _ => slot.ended)
    (leaving : last.leaving = first.leaving.eraseIdx turn) (given : last.given = first.given) : last.Balanced := by
  have split_off := living_finish next sessions leaving
  have counted (other : Nat) : first.living.values.count other =
      (if place = other then 1 else 0) + last.living.values.count other := by
    rw [Assoc.values, (split_off.map Prod.snd).count_eq, List.map_cons, List.count_cons, Nat.add_comm]
    simp only [beq_iff_eq, Assoc.values]
  have cases_of {other : Nat} {later : Slot (Watched δ)} (found : last.spawner.slots[other]? = some later) :
      (other ≠ place ∧ first.spawner.slots[other]? = some later) ∨ (other = place ∧ later = slot.ended) := by
    rw [slots] at found
    rcases getElem?_modify_cases found with ⟨different, old⟩ | ⟨here, -, -, same⟩
    · exact .inl ⟨different, old⟩
    · exact .inr ⟨here, same⟩
  have length : last.spawner.slots.length = first.spawner.slots.length := by rw [slots, List.length_modify]
  refine ⟨?_, fun other later found => ?_, fun entry member => ?_, fun other later found => ?_, fun name member => ?_,
    given ▸ balanced.fresh⟩
  · rw [counter, length, balanced.numbered]
  · rcases cases_of found with ⟨-, old⟩ | ⟨rfl, rfl⟩
    · exact balanced.named other later old
    · exact balanced.named other slot there
  · rw [length]
    exact balanced.housed entry (split_off.mem_iff.mpr (List.mem_cons_of_mem _ member))
  · have before := counted other
    rcases cases_of found with ⟨different, old⟩ | ⟨rfl, rfl⟩
    · have balance := balanced.balance other later old
      rw [before, if_neg different.symm, Nat.zero_add] at balance
      exact balance
    · have balance := balanced.balance other slot there
      rw [before, if_pos rfl] at balance
      rw [slot.ends_ended, Nat.add_assoc]
      exact balance
  · rw [given] at member
    obtain ⟨other, old, found, same, works⟩ := balanced.given name member
    by_cases here : other = place
    · subst here
      cases there.symm.trans found
      refine ⟨other, slot.ended, ?_, same, works⟩
      simp [slots, there]
    · refine ⟨other, old, ?_, same, works⟩
      simpa [slots, Ne.symm here] using found

/-- Whatever is done to the sessions, they stay balanced. -/
theorem Effect.balanced (effect : Effect first last) (balanced : first.Balanced) : last.Balanced := by
  -- Only `start` makes a session live and only `finish` ends one; `take` moves one from the registered to the
  -- leaving.
  cases effect with
  | pass passes leaving given => exact balanced.pass passes leaving given
  | add name idle unended sessions counter slots leaving given =>
    have same : last.living = first.living := by rw [living, living, sessions, leaving]
    refine balanced.grow name unended (if_neg (by rw [idle]; exact Bool.false_ne_true)).symm counter slots (.of_eq same) ?_
    rw [given, List.map_nil, List.append_nil]
  | start name started unended sessions counter slots leaving given =>
    refine balanced.grow name unended (if_pos started).symm counter slots ?_ given
    rw [living, sessions, Assoc.put_of_absent balanced.unknown, leaving, List.append_assoc]
    exact List.perm_middle
  | take found sessions counter slots leaving given =>
    exact balanced.take found sessions counter slots leaving given
  | finish next there sessions counter slots leaving given =>
    exact balanced.finish next there sessions counter slots leaving given

theorem Effects.balanced (effects : Effects first last) (balanced : first.Balanced) : last.Balanced := by
  induction effects with
  | refl => exact balanced
  | tail _ effect earlier => exact effect.balanced earlier

/-- The session of a terminal is not registered, and of what came through to it nothing is new. -/
structure Cut (place : Nat) (slot : Slot (Watched δ)) (custody : Custody δ) : Prop where
  unregistered : place ∉ custody.spawner.sessions.values
  silent : ∃ later, custody.spawner.slots[place]? = some later ∧ later.session = slot.session ∧
    later.device.traffic = slot.device.traffic

theorem Effect.cut (effect : Effect first last) (balanced : first.Balanced) {place : Nat} {slot : Slot (Watched δ)}
    (cut : Cut place slot first) : Cut place slot last := by
  obtain ⟨unregistered, later, there, session, traffic⟩ := cut
  have within := (List.getElem?_eq_some_iff.mp there).1
  have kept {more : Slot (Watched δ)} (slots : last.spawner.slots = first.spawner.slots ++ [more]) :
      last.spawner.slots[place]? = some later := by
    rw [slots, List.getElem?_append_left within]
    exact there
  cases effect with
  | pass passes leaving given =>
    refine ⟨passes.sessions ▸ unregistered, ?_⟩
    obtain ⟨now, here⟩ : ∃ now, last.spawner.slots[place]? = some now :=
      ⟨_, List.getElem?_eq_getElem (passes.length ▸ within)⟩
    obtain ⟨old, found, same, -, -, asked⟩ := passes.slots place now here
    cases there.symm.trans found
    refine ⟨now, here, same.trans session, ?_⟩
    rw [← traffic, Watched.traffic, Watched.traffic, asked unregistered]
  | add name idle unended sessions counter slots leaving given =>
    exact ⟨sessions ▸ unregistered, later, kept slots, session, traffic⟩
  | start name started unended sessions counter slots leaving given =>
    refine ⟨fun member => ?_, later, kept slots, session, traffic⟩
    rw [sessions, Assoc.put_of_absent balanced.unknown, Assoc.values, List.map_append] at member
    rcases List.mem_append.mp member with old | new
    · exact unregistered old
    · exact Nat.ne_of_lt within (List.mem_singleton.mp new)
  | @take id _ found sessions counter slots leaving given =>
    refine ⟨fun member => unregistered ?_, later, slots ▸ there, session, traffic⟩
    rw [sessions] at member
    exact ((Assoc.remove_sublist id _).map Prod.snd).subset member
  | @finish _ _ ending _ next found sessions counter slots leaving given =>
    refine ⟨sessions ▸ unregistered, ?_⟩
    by_cases here : place = ending
    · subst here
      cases there.symm.trans found
      exact ⟨later.ended, by simp [slots, there], session, later.traffic_ended.trans traffic⟩
    · exact ⟨later, by simpa [slots, Ne.symm here] using there, session, traffic⟩

theorem Effects.cut (effects : Effects first last) (balanced : first.Balanced) {place : Nat} {slot : Slot (Watched δ)}
    (cut : Cut place slot first) : Cut place slot last := by
  induction effects with
  | refl => exact cut
  | tail before effect earlier => exact effect.cut (Effects.balanced before balanced) earlier

/-- Nothing comes through to a terminal any more, and whoever tries is told so. -/
structure Silent (custody : Custody δ) (place : Nat) (slot : Slot (Watched δ)) : Prop where
  silent : ∃ later, custody.spawner.slots[place]? = some later ∧ later.session = slot.session ∧
    later.device.traffic = slot.device.traffic
  resize : ∀ size, custody.spawner.resize slot.session size =
    (.error (.transport "resize" slot.session s!"Terminal {slot.session} not found"), custody.spawner)
  sendInput : ∀ bytes, custody.spawner.sendInput slot.session bytes =
    (.error (.transport "send_input" slot.session s!"Terminal {slot.session} not found"), custody.spawner)

theorem Cut.silences {place : Nat} {slot : Slot (Watched δ)} (cut : Cut place slot custody) (balanced : custody.Balanced) :
    custody.Silent place slot := by
  obtain ⟨unregistered, later, there, session, traffic⟩ := cut
  have unknown : custody.spawner.sessions.find? slot.session = none := by
    cases found : custody.spawner.sessions.find? slot.session with
    | none => rfl
    | some other =>
      have name : nameAt place = nameAt other :=
        ((balanced.named place later there).symm.trans session).trans (balanced.place_of found)
      cases nameAt_inj name
      exact absurd (Assoc.mem_values_of_find? found) unregistered
  refine ⟨⟨later, there, session, traffic⟩, fun size => ?_, fun bytes => onDevice_unknown unknown _ _⟩
  rw [Spawner.resize, onDevice_unknown unknown]

private theorem terminate_effects (balanced : custody.Balanced) (session : String) (rest : List String) :
    Effects custody { custody with spawner := (custody.spawner.terminate session).2, sweeping := rest } := by
  cases found : custody.spawner.sessions.find? session with
  | none =>
    rw [terminate_unknown found]
    exact .single (.pass (.refl _) rfl rfl)
  | some place =>
    let taken : Custody δ := { custody with
      spawner := { custody.spawner with sessions := custody.spawner.sessions.remove session }
      leaving := custody.leaving ++ [(session, place)] }
    have takes : Effect custody taken := .take found rfl rfl rfl rfl rfl
    have within := balanced.inside (Assoc.mem_of_find? found)
    obtain ⟨slot, there⟩ : ∃ slot, custody.spawner.slots[place]? = some slot := ⟨_, List.getElem?_eq_getElem within⟩
    have next : taken.leaving[custody.leaving.length]? = some (session, place) := List.getElem?_concat_length
    rw [terminate_found found there]
    refine .tail (.single takes) (.finish next there rfl rfl rfl ?_ rfl)
    have left : taken.leaving.eraseIdx custody.leaving.length = custody.leaving ++ [(session, place)].eraseIdx 0 := by
      rw [List.eraseIdx_append_of_length_le (Nat.le_refl _), Nat.sub_self]
    rw [left]
    exact (List.append_nil _).symm

private theorem sweep_effects (balanced : custody.Balanced) : Effects custody custody.sweep := by
  unfold sweep
  split
  · exact .refl
  next session rest _ =>
    have ended (rest : List String) := terminate_effects balanced session rest
    generalize custody.spawner.terminate session = result at ended
    obtain ⟨_ | failure | _, spawner⟩ := result
    · exact ended rest
    · dsimp only
      split
      · exact (ended rest).tail (.pass (.of_alike rfl rfl rfl) rfl rfl)
      · exact ended []
    · exact ended rest

private theorem act_effects (balanced : custody.Balanced) (deed : Deed δ) : Effects custody (custody.act deed) := by
  have passes {spawner : Spawner (Watched δ)} (passes : PassesOn custody.spawner spawner) :
      Effects custody { custody with spawner := spawner } := .single (.pass passes rfl rfl)
  cases deed with
  | spawn terminal cwd =>
    have ends := spawn_ends custody.spawner { device := terminal } cwd
    rw [act]
    generalize custody.spawner.spawn { device := terminal } cwd = result at ends
    obtain ⟨answer, last⟩ := result
    have unended {slot : Slot (Watched δ)} {path : String}
        (tried : slot.device.asked = [.spawn custody.spawner.command path custody.spawner.initialSize
          custody.spawner.environment]) : slot.device.ends = 0 := by
      rw [Watched.ends, tried]
      rfl
    cases ends with
    | refused => exact .single (.pass (.refl _) rfl (List.append_nil _))
    | failed name idle tried sessions counter slots =>
      refine .single (.add name (by simp [Slot.started, idle]) ?_ sessions counter slots rfl (List.append_nil _))
      rcases tried with same | same <;> exact unended (by rw [same]; rfl)
    | started name reading tried sessions counter slots =>
      refine .single (.start name (by simp [Slot.started, reading]) ?_ sessions counter slots rfl rfl)
      exact unended (by rw [tried]; rfl)
  | close session =>
    rw [act, beginClose]
    split
    next => exact .refl
    next place found => exact .single (.take found rfl rfl rfl rfl rfl)
  | work turn =>
    rw [act, work]
    split
    next => exact .refl
    next session place next =>
      split
      next => exact .refl
      next slot there =>
        refine .single (.finish next there ?_ ?_ ?_ rfl rfl) <;> cases (PtyDevice.terminate slot.device).1 <;> rfl
  | resize session size => exact passes (custody.spawner.resize_passesOn session size)
  | sendInput session bytes => exact passes (custody.spawner.sendInput_passesOn session bytes)
  | shutdown => exact .single (.pass (.refl _) rfl rfl)
  | sweep => exact sweep_effects balanced
  | read place => exact passes (custody.spawner.readerStep_passesOn place)
  | befall place change => exact passes (custody.spawner.befall_passesOn place change)
  | surround home files loopClosed => exact passes (.of_alike rfl rfl rfl)

private theorem step_effects (balanced : custody.Balanced) (deed : Deed δ) : Effects custody (custody.step deed) := by
  unfold step
  split
  · exact act_effects balanced deed
  · exact .refl

private theorem run_effects (balanced : custody.Balanced) (deeds : List (Deed δ)) : Effects custody (custody.run deeds) := by
  induction deeds generalizing custody with
  | nil => exact .refl
  | cons deed rest ih =>
    have first := step_effects balanced deed
    exact first.trans (ih (first.balanced balanced))

private theorem run_balanced (balanced : custody.Balanced) (deeds : List (Deed δ)) : (custody.run deeds).Balanced :=
  (run_effects balanced deeds).balanced balanced

/-- Once a close of a session has begun, it is cut off from its terminal. -/
theorem close_cuts (balanced : custody.Balanced) {place : Nat} {slot : Slot (Watched δ)}
    (there : custody.spawner.slots[place]? = some slot) : Cut place slot (custody.beginClose slot.session) := by
  have name := balanced.named place slot there
  unfold beginClose
  split
  next unknown =>
    refine ⟨fun member => ?_, slot, there, rfl, rfl⟩
    obtain ⟨entry, registered, rfl⟩ := List.mem_map.mp member
    have same := (balanced.housed entry (List.mem_append_left _ registered)).1
    refine Assoc.find?_eq_none.mp unknown ?_
    rw [name, ← same]
    exact List.mem_map_of_mem registered
  next other found =>
    have here : place = other := nameAt_inj (name.symm.trans (balanced.place_of found))
    subst here
    refine ⟨fun member => ?_, slot, there, rfl, rfl⟩
    let taken : Custody δ := { custody with
      spawner := { custody.spawner with sessions := custody.spawner.sessions.remove slot.session }
      leaving := custody.leaving ++ [(slot.session, place)] }
    have takes : Effect custody taken := .take found rfl rfl rfl rfl rfl
    have once := (takes.balanced balanced).lives_once place
    rw [count_living, List.map_append, List.count_append, List.map_singleton, List.count_singleton_self] at once
    have again : 0 < taken.spawner.sessions.values.count place := List.count_pos_iff.mpr member
    omega

private theorem aside_sweeps (gentle : ∀ terminal : δ, (PtyDevice.terminate terminal).1 = .ok ())
    (balanced : custody.Balanced)
    (all : custody.spawner.sessions.keys = custody.sweeping) {deed : Deed δ} (aside : deed.aside = true) :
    (custody.step deed).spawner.sessions.keys = (custody.step deed).sweeping := by
  rw [step, aside, Bool.true_or, if_pos rfl]
  cases deed with
  | sweep =>
    rw [act, sweep]
    split
    next => exact all
    next id rest sweeping =>
      rw [sweeping] at all
      obtain ⟨⟨key, place⟩, others, shape, rfl, remaining⟩ := List.map_eq_cons_iff.mp all
      have found : custody.spawner.sessions.find? key = some place := by rw [shape, Assoc.find?, if_pos rfl]
      have within := balanced.inside (Assoc.mem_of_find? found)
      have ended := terminate_found found (List.getElem?_eq_getElem within)
      have succeeds : (PtyDevice.terminate custody.spawner.slots[place].device).1 = .ok () := gentle _
      rw [ended, succeeds]
      dsimp only
      rw [shape, Assoc.remove, if_pos rfl]
      exact remaining
  | work turn =>
    rw [act, work]
    split
    next => exact all
    next =>
      split
      next => exact all
      next slot _ => cases (PtyDevice.terminate slot.device).1 <;> exact all
  | read place =>
    rw [act, (custody.spawner.readerStep_passesOn place).sessions]
    exact all
  | befall | surround => exact all
  | _ => cases aside

private theorem asides_sweep (gentle : ∀ terminal : δ, (PtyDevice.terminate terminal).1 = .ok ())
    (balanced : custody.Balanced)
    (all : custody.spawner.sessions.keys = custody.sweeping) {deeds : List (Deed δ)}
    (aside : ∀ deed ∈ deeds, deed.aside = true) :
    (custody.run deeds).spawner.sessions.keys = (custody.run deeds).sweeping := by
  induction deeds generalizing custody with
  | nil => exact all
  | cons deed rest ih =>
    exact ih ((step_effects balanced deed).balanced balanced)
      (aside_sweeps gentle balanced all (aside deed (List.mem_cons_self ..)))
      fun other member => aside other (List.mem_cons_of_mem _ member)

private theorem shutdown_empties (gentle : ∀ terminal : δ, (PtyDevice.terminate terminal).1 = .ok ())
    (balanced : custody.Balanced)
    (free : custody.sweeping = []) {during : List (Deed δ)} (aside : ∀ deed ∈ during, deed.aside = true)
    (rested : ((custody.step .shutdown).run during).sweeping = []) :
    ((custody.step .shutdown).run during).spawner.sessions = [] := by
  have begun : (custody.step .shutdown).spawner.sessions.keys = (custody.step .shutdown).sweeping := by
    rw [step, free]
    rfl
  have all := asides_sweep gentle ((step_effects balanced .shutdown).balanced balanced) begun aside
  rw [rested] at all
  exact List.map_eq_nil_iff.mp all

omit [PtyDevice δ] in
theorem Balanced.ended (balanced : custody.Balanced) (nobody : custody.spawner.sessions = []) {id : String}
    (given : id ∈ custody.given) : ∃ (place : Nat) (slot : Slot (Watched δ)),
      custody.spawner.slots[place]? = some slot ∧ slot.session = id ∧
        (slot.device.ends = 1 ∨ slot.device.ends = 0 ∧ (id, place) ∈ custody.leaving) := by
  obtain ⟨place, slot, found, same, started⟩ := balanced.given id given
  refine ⟨place, slot, found, same, ?_⟩
  have balance := balanced.balance place slot found
  have left : custody.living = custody.leaving := by rw [living, nobody]; rfl
  rw [if_pos started, left] at balance
  by_cases leaves : place ∈ Assoc.values custody.leaving
  · have counted := List.count_pos_iff.mpr leaves
    obtain ⟨entry, there, rfl⟩ := List.mem_map.mp leaves
    have name := (balanced.housed entry (List.mem_append_right _ there)).1
    refine .inr ⟨by omega, ?_⟩
    rw [← same, balanced.named _ slot found, ← name]
    exact there
  · rw [List.count_eq_zero.mpr leaves] at balance
    exact .inl balance

def opened (command : List String) (environment : Environment) (size : Geometry) (home : Except Failure Path)
    (files : FileSystem) : Custody δ where
  spawner := { command := command, environment := environment, initialSize := size, home := home, files := files }

omit [PtyDevice δ] in
private theorem balanced_opened (command : List String) (environment : Environment) (size : Geometry)
    (home : Except Failure Path)
    (files : FileSystem) : (opened command environment size home files : Custody δ).Balanced := by
  refine ⟨rfl, fun place slot found => ?_, fun entry member => ?_, fun place slot found => ?_, fun id member => ?_,
    List.nodup_nil⟩
  · cases found
  · cases member
  · cases found
  · cases member

/-- However spawns, closes, their workers, resizes, inputs, shutdowns and exits interleave: every process is ended at most
once, and no name is given twice. Once a close of a session has begun, or a shutdown is over, nothing comes through to the
terminals that were there, and whoever tries is told so. When a shutdown is over no session is registered, and each process
that was started was ended, unless a close that is under way will end it. -/
theorem processes_end_once (gentle : ∀ terminal : δ, (PtyDevice.terminate terminal).1 = .ok ()) {command : List String}
    {environment : Environment} {size : Geometry} {home : Except Failure Path} {files : FileSystem} {first last : Custody δ}
    (starts : opened command environment size home files = first) {deeds : List (Deed δ)} (ends : first.run deeds = last) :
    (∀ slot ∈ last.spawner.slots, slot.device.ends ≤ 1) ∧ last.given.Nodup ∧
      (∀ before id after, deeds = before ++ .close id :: after → (first.run before).sweeping = [] →
        ∀ (place : Nat) slot, (first.run before).spawner.slots[place]? = some slot → slot.session = id →
          last.Silent place slot) ∧
      ∀ before during after, deeds = before ++ .shutdown :: during ++ after → (first.run before).sweeping = [] →
        (∀ deed ∈ during, deed.aside = true) → ∀ rested, first.run (before ++ .shutdown :: during) = rested →
        rested.sweeping = [] →
          rested.spawner.sessions = [] ∧
          (∀ id ∈ rested.given, ∃ (place : Nat) (slot : Slot (Watched δ)),
            rested.spawner.slots[place]? = some slot ∧ slot.session = id ∧
              (slot.device.ends = 1 ∨ slot.device.ends = 0 ∧ (id, place) ∈ rested.leaving)) ∧
          ∀ (place : Nat) slot, rested.spawner.slots[place]? = some slot → last.Silent place slot := by
  have start : first.Balanced := starts ▸ balanced_opened command environment size home files
  have balanced : last.Balanced := ends ▸ run_balanced start deeds
  refine ⟨fun slot member => ?_, balanced.fresh, ?_, ?_⟩
  · obtain ⟨place, found⟩ := List.mem_iff_getElem?.mp member
    have balance := balanced.balance place slot found
    split at balance <;> omega
  · rintro before id after rfl free place slot there rfl
    have earlier := run_balanced start before
    have begun : Cut place slot ((first.run before).step (.close slot.session)) := by
      rw [step, free]
      exact close_cuts earlier there
    have later := (step_effects earlier (.close slot.session)).balanced earlier
    rw [run_append] at ends
    exact (ends ▸ (run_effects later after).cut later begun : Cut place slot last).silences balanced
  · rintro before during after rfl free aside rested rfl empty
    have earlier := run_balanced start before
    have whole : first.run (before ++ .shutdown :: during) = ((first.run before).step .shutdown).run during := run_append ..
    have later := run_balanced start (before ++ .shutdown :: during)
    have nobody : (first.run (before ++ .shutdown :: during)).spawner.sessions = [] := by
      rw [whole] at empty ⊢
      exact shutdown_empties gentle earlier free aside empty
    refine ⟨nobody, fun id given => later.ended nobody given, fun place slot there => ?_⟩
    have gone : Cut place slot (first.run (before ++ .shutdown :: during)) :=
      ⟨nobody ▸ List.not_mem_nil, slot, there, rfl, rfl⟩
    rw [run_append] at ends
    exact (ends ▸ (run_effects later after).cut later gone : Cut place slot last).silences balanced

end Custody

/-- A terminal that answers as it is told and whose process does not fail to end. -/
structure WillingPty where
  pty : PuppetPty := {}
  willing : pty.terminateFailure = none := by rfl

instance : PtyDevice WillingPty where
  pid terminal := PtyDevice.pid terminal.pty
  spawn command cwd size environment terminal :=
    let spawned := PtyDevice.spawn command cwd size environment terminal.pty
    (spawned.1, ⟨spawned.2, terminal.willing⟩)
  read terminal :=
    ((PtyDevice.read terminal.pty).1, ⟨(PtyDevice.read terminal.pty).2, terminal.pty.read_goesOn.willing terminal.willing⟩)
  isAlive terminal := (terminal.pty.alive, terminal)
  write bytes terminal :=
    ((PtyDevice.write bytes terminal.pty).1, ⟨(PtyDevice.write bytes terminal.pty).2, terminal.willing⟩)
  resize size terminal :=
    ((PtyDevice.resize size terminal.pty).1, ⟨(PtyDevice.resize size terminal.pty).2, terminal.willing⟩)
  terminate terminal :=
    ((PtyDevice.terminate terminal.pty).1,
      ⟨(PtyDevice.terminate terminal.pty).2, (PuppetPty.terminate_ends terminal.willing).2.2⟩)
  close terminal := ⟨PtyDevice.close terminal.pty, terminal.willing⟩

namespace Custody

def noShells : Custody WillingPty :=
  opened ["/bin/sh"] [] ⟨24, 80⟩ (.ok (Path.ofText "/tmp")) .basic

def firstShells : List (Deed WillingPty) :=
  [.spawn {} "/tmp", .spawn {} "/tmp", .spawn {} "/tmp", .resize "term-1" ⟨10, 20⟩]

/-- While the close of one session is under way it is resized and closed again, and the spawner shut down. -/
def hurriedEnd : List (Deed WillingPty) :=
  [.close "term-1", .resize "term-1" ⟨30, 40⟩, .close "term-1", .shutdown, .sweep, .read 0, .sweep, .work 0,
    .spawn {} "/tmp",
    .sendInput "term-4" [97]]

theorem processes_end_once_hurried :
    ∃ last, noShells.run (firstShells ++ hurriedEnd) = last ∧
      last.spawner.slots.map (fun slot => (slot.session, slot.device.traffic, slot.device.ends)) =
        [("term-1", [.resize ⟨10, 20⟩], 1), ("term-2", [], 1), ("term-3", [], 1), ("term-4", [.write [97]], 0)] ∧
      ∀ size, last.spawner.resize "term-1" size =
        (.error (.transport "resize" "term-1" "Terminal term-1 not found"), last.spawner) := by
  have gentle (terminal : WillingPty) : (PtyDevice.terminate terminal).1 = .ok () :=
    (PuppetPty.terminate_ends terminal.willing).1
  have starts : opened ["/bin/sh"] [] ⟨24, 80⟩ (.ok (Path.ofText "/tmp")) .basic = noShells := rfl
  obtain ⟨slot, there, name⟩ : ∃ slot, (noShells.run firstShells).spawner.slots[0]? = some slot ∧
    slot.session = "term-1" := by
    refine ⟨_, List.getElem?_eq_getElem (by decide +kernel : 0 < (noShells.run firstShells).spawner.slots.length), ?_⟩
    decide +kernel
  have counts : (noShells.run (firstShells ++ hurriedEnd)).spawner.slots.map
      (fun slot => (slot.session, slot.device.traffic, slot.device.ends)) =
        [("term-1", [.resize ⟨10, 20⟩], 1), ("term-2", [], 1), ("term-3", [], 1), ("term-4", [.write [97]], 0)] := by
    decide +kernel
  generalize ends : noShells.run (firstShells ++ hurriedEnd) = last at counts
  obtain ⟨-, -, closes, -⟩ := processes_end_once gentle starts ends
  have silent := closes firstShells "term-1" hurriedEnd.tail rfl (by decide +kernel) 0 slot there name
  have refused := silent.resize
  rw [name] at refused
  exact ⟨last, rfl, counts, refused⟩

end Custody

end TerminalDock.Pty
