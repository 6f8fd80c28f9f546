import Mathlib.Data.List.TakeWhile
import TerminalDock.Event.Program
import TerminalDock.Proofs.BusLaws
import TerminalDock.Surface.Request

/-! Registrations and their ends. A registration is found again by its handler alone: whoever ends one withdraws the
oldest one of that handler for the event. This is the right one as long as the registrations of a handler end in turn. -/

namespace TerminalDock

/-- What is done with registrations. -/
inductive Dealing (ε η : Type)
  | listen (event : ε) (handler : η)
  /-- The registration of a number ends, whether it has ended before or not. -/
  | withdraw (number : Nat)

structure Registration (ε η : Type) where
  event : ε
  handler : η
  ended : Bool := false

/-- All registrations that were made, oldest first. Their places are their numbers. -/
abbrev Registrations (ε η : Type) := List (Registration ε η)

variable {ε η : Type} [DecidableEq ε]

def Registration.stands (event : ε) (registration : Registration ε η) : Bool :=
  decide (registration.event = event) && !registration.ended

namespace Registrations

def enter (entries : Registrations ε η) : Dealing ε η → Registrations ε η
  | .listen event handler => entries ++ [{ event, handler }]
  | .withdraw number => entries.modify number fun registration => { registration with ended := true }

def after (dealings : List (Dealing ε η)) : Registrations ε η :=
  dealings.foldl enter []

/-- The handlers of the registrations for an event that have not ended, in the order of registration. -/
def standing (entries : Registrations ε η) (event : ε) : List η :=
  (entries.filter (·.stands event)).map Registration.handler

private theorem standing_append (entries more : Registrations ε η) (event : ε) :
    standing (entries ++ more) event = entries.standing event ++ more.standing event := by
  simp [standing]

private theorem standing_cons (registration : Registration ε η) (entries : Registrations ε η) (event : ε) :
    standing (registration :: entries) event =
      (if registration.stands event then [registration.handler] else []) ++ entries.standing event := by
  unfold standing
  rw [List.filter_cons]
  split <;> simp

private theorem mem_standing {entries : Registrations ε η} {event : ε} {handler : η}
    (present : handler ∈ entries.standing event) :
    { event, handler } ∈ entries := by
  simp only [standing, Registration.stands, List.mem_map, List.mem_filter, Bool.and_eq_true, decide_eq_true_eq,
    Bool.not_eq_true'] at present
  obtain ⟨⟨_, _, _⟩, ⟨member, rfl, rfl⟩, rfl⟩ := present
  exact member

/-- A registration ends in its turn: if it stands, nobody else's registration stands between it and the oldest one of the
same handler; if it has ended before, none of its handler stands. -/
def InTurn [DecidableEq η] (entries : Registrations ε η) (number : Nat) : Prop :=
  match entries[number]? with
  | none => True
  | some registration =>
    if registration.ended then registration.handler ∉ entries.standing registration.event
    else ∀ other ∈ (standing (entries.take number) registration.event).dropWhile (· ≠ registration.handler),
      other = registration.handler

def Orderly [DecidableEq η] (entries : Registrations ε η) : List (Dealing ε η) → Prop
  | [] => True
  | .listen event handler :: rest => Orderly (entries.enter (.listen event handler)) rest
  | .withdraw number :: rest => entries.InTurn number ∧ Orderly (entries.enter (.withdraw number)) rest

end Registrations

/-- The registrations that were made, and who is registered for each event. -/
structure Rolls (ε η : Type) where
  made : List (ε × η) := []
  handlers : ε → List η := fun _ => []

namespace Rolls
variable [DecidableEq η]

def deal (rolls : Rolls ε η) : Dealing ε η → Rolls ε η
  | .listen event handler =>
    { made := rolls.made ++ [(event, handler)]
      handlers := fun other => if other = event then rolls.handlers event ++ [handler] else rolls.handlers other }
  | .withdraw number =>
    match rolls.made[number]? with
    | none => rolls
    | some (event, handler) => { rolls with
        handlers := fun other => if other = event then (rolls.handlers event).erase handler else rolls.handlers other }

/-- The rolls show for every event the handlers whose own registrations have not ended. -/
structure Shows (rolls : Rolls ε η) (entries : Registrations ε η) : Prop where
  made : rolls.made = entries.map fun registration => (registration.event, registration.handler)
  handlers : ∀ event, rolls.handlers event = entries.standing event

omit [DecidableEq η] in
private theorem moved_iff {handler : η} {before later : List η} :
    before ++ handler :: later = handler :: (before ++ later) ↔ ∀ other ∈ before, other = handler := by
  induction before with
  | nil => simp
  | cons first rest ih =>
    simp only [List.cons_append, List.cons.injEq, List.forall_mem_cons]
    constructor
    · rintro ⟨rfl, same⟩
      exact ⟨rfl, ih.mp same⟩
    · rintro ⟨rfl, same⟩
      exact ⟨rfl, ih.mpr same⟩

private theorem erase_inside_iff {handler : η} {before later : List η} :
    (before ++ handler :: later).erase handler = before ++ later ↔
      ∀ other ∈ before.dropWhile (· ≠ handler), other = handler := by
  induction before with
  | nil => simp
  | cons first rest ih =>
    by_cases same : first = handler
    · subst same
      simp [moved_iff]
    · simp [List.erase_cons_tail, same, ih]

private theorem erase_iff {handler : η} {handlers : List η} : handlers.erase handler = handlers ↔ handler ∉ handlers := by
  refine ⟨fun same member => ?_, List.erase_of_not_mem⟩
  have shorter := List.length_erase_of_mem member
  have positive := List.length_pos_of_mem member
  rw [same] at shorter
  omega

theorem Shows.listen {rolls : Rolls ε η} {entries : Registrations ε η} (shows : rolls.Shows entries) (event : ε)
    (handler : η) :
    (rolls.deal (.listen event handler)).Shows (entries.enter (.listen event handler)) where
  made := by simp [deal, Registrations.enter, shows.made]
  handlers other := by
    simp only [deal, Registrations.enter, Registrations.standing_append, Registrations.standing_cons,
      Registration.stands, shows.handlers]
    by_cases here : other = event
    · subst here
      simp [Registrations.standing]
    · simp [Registrations.standing, here, Ne.symm here]

/-- The rolls stay right exactly if it is the turn of the registration that ends. -/
theorem Shows.withdraw_iff {rolls : Rolls ε η} {entries : Registrations ε η} (shows : rolls.Shows entries) (number : Nat) :
    (rolls.deal (.withdraw number)).Shows (entries.enter (.withdraw number)) ↔ entries.InTurn number := by
  cases found : entries[number]? with
  | none =>
    have beyond : entries.length ≤ number := List.getElem?_eq_none_iff.mp found
    have unknown : rolls.made[number]? = none := by simp [shows.made, found]
    simp only [deal, unknown, Registrations.enter, Registrations.InTurn, found, iff_true]
    rwa [List.modify_eq_self beyond]
  | some registration =>
    obtain ⟨event, handler, ended⟩ := registration
    obtain ⟨inside, at_number⟩ := List.getElem?_eq_some_iff.mp found
    have known : rolls.made[number]? = some (event, handler) := by simp [shows.made, found]
    have parts : entries = entries.take number ++ ⟨event, handler, ended⟩ :: entries.drop (number + 1) := by
      rw [← at_number, ← List.drop_eq_getElem_cons inside, List.take_append_drop]
    have next : entries.enter (.withdraw number) =
        entries.take number ++ ⟨event, handler, true⟩ :: entries.drop (number + 1) := by
      rw [Registrations.enter, List.modify_eq_take_cons_drop inside, at_number]
    have same_made : (rolls.deal (.withdraw number)).made =
        (entries.enter (.withdraw number)).map fun registration => (registration.event, registration.handler) := by
      simp only [deal, known]
      rw [shows.made, next]
      conv_lhs => rw [parts]
      simp
    have elsewhere (other : ε) (apart : other ≠ event) :
        (rolls.deal (.withdraw number)).handlers other = (entries.enter (.withdraw number)).standing other := by
      simp only [deal, known, if_neg apart, shows.handlers, next]
      conv_lhs => rw [parts]
      simp [Registrations.standing_append, Registrations.standing_cons, Registration.stands, Ne.symm apart]
    have here : (rolls.deal (.withdraw number)).handlers event = (entries.enter (.withdraw number)).standing event ↔
        entries.InTurn number := by
      simp only [deal, known, if_true, shows.handlers, Registrations.InTurn, found]
      cases ended with
      | true =>
        have stays : (entries.enter (.withdraw number)).standing event = entries.standing event := by
          rw [next, ← parts]
        rw [stays]
        exact erase_iff
      | false =>
        have before : entries.standing event = Registrations.standing (entries.take number) event ++
            handler :: Registrations.standing (entries.drop (number + 1)) event := by
          conv_lhs => rw [parts]
          simp [Registrations.standing_append, Registrations.standing_cons, Registration.stands]
        have afterwards : (entries.enter (.withdraw number)).standing event =
          Registrations.standing (entries.take number) event ++
            Registrations.standing (entries.drop (number + 1)) event := by
          simp [next, Registrations.standing_append, Registrations.standing_cons, Registration.stands]
        rw [before, afterwards]
        exact erase_inside_iff
    constructor
    · intro shown
      exact here.mp (shown.handlers event)
    · intro turn
      refine ⟨same_made, fun other => ?_⟩
      by_cases same : other = event
      · subst same
        exact here.mpr turn
      · exact elsewhere other same

/-- In a run the rolls are right at every moment exactly if every registration ends in its turn. -/
theorem Shows.run_iff {rolls : Rolls ε η} {entries : Registrations ε η} (shows : rolls.Shows entries)
    (dealings : List (Dealing ε η)) :
    (∀ count, ((dealings.take count).foldl deal rolls).Shows ((dealings.take count).foldl Registrations.enter entries)) ↔
      entries.Orderly dealings := by
  induction dealings generalizing rolls entries with
  | nil => simp [Registrations.Orderly, shows]
  | cons dealing rest ih =>
    have split : (∀ count, (((dealing :: rest).take count).foldl deal rolls).Shows
          (((dealing :: rest).take count).foldl Registrations.enter entries)) ↔
        ∀ count, ((rest.take count).foldl deal (rolls.deal dealing)).Shows
          ((rest.take count).foldl Registrations.enter (entries.enter dealing)) := by
      constructor
      · intro always count
        exact always (count + 1)
      · intro always count
        cases count with
        | zero => exact shows
        | succ count => exact always count
    rw [split]
    cases dealing with
    | listen event handler => exact ih (shows.listen event handler)
    | withdraw number =>
      rw [Registrations.Orderly]
      constructor
      · intro always
        have next := always 0
        exact ⟨(shows.withdraw_iff number).mp next, (ih next).mp always⟩
      · rintro ⟨turn, later⟩
        exact (ih ((shows.withdraw_iff number).mpr turn)).mpr later

end Rolls

def Dealing.registers? : Dealing ε η → Option (ε × η)
  | .listen event handler => some (event, handler)
  | .withdraw _ => none

namespace Registrations
variable [DecidableEq η]

def keys (entries : Registrations ε η) : List (ε × η) :=
  entries.map fun registration => (registration.event, registration.handler)

omit [DecidableEq ε] [DecidableEq η] in
private theorem keys_withdraw (entries : Registrations ε η) (number : Nat) :
    (entries.enter (.withdraw number)).keys = entries.keys := by
  apply List.ext_getElem?
  intro place
  simp only [enter, keys, List.getElem?_map, List.getElem?_modify]
  cases entries[place]? with
  | none => rfl
  | some registration =>
    simp only [Option.map_eq_map, Option.map_some]
    split <;> rfl

theorem InTurn.of_distinct {entries : Registrations ε η} (distinct : entries.keys.Nodup) (number : Nat) :
    entries.InTurn number := by
  unfold InTurn
  split
  · trivial
  next registration found =>
    obtain ⟨inside, at_number⟩ := List.getElem?_eq_some_iff.mp found
    split
    next ended =>
      intro present
      have same := List.inj_on_of_nodup_map distinct (mem_standing present) (List.mem_of_getElem? found) rfl
      rw [← same] at ended
      cases ended
    next =>
      have apart : registration.handler ∉ standing (entries.take number) registration.event := by
        intro present
        have parts : entries = entries.take number ++ registration :: entries.drop (number + 1) := by
          rw [← at_number, ← List.drop_eq_getElem_cons inside, List.take_append_drop]
        rw [parts, keys, List.map_append, List.nodup_append] at distinct
        exact distinct.2.2 _ (List.mem_map_of_mem (mem_standing present)) _ (List.mem_cons_self ..) rfl
      have nothing : (standing (entries.take number) registration.event).dropWhile (· ≠ registration.handler) = [] := by
        apply List.dropWhile_eq_nil_iff.mpr
        intro other member
        exact decide_eq_true fun same => apart (same ▸ member)
      rw [nothing]
      exact nofun

theorem Orderly.of_distinct {entries : Registrations ε η} {dealings : List (Dealing ε η)}
    (distinct : (entries.keys ++ dealings.filterMap Dealing.registers?).Nodup) : entries.Orderly dealings := by
  induction dealings generalizing entries with
  | nil => trivial
  | cons dealing rest ih =>
    cases dealing with
    | listen event handler =>
      apply ih
      simpa [keys, enter, Dealing.registers?] using distinct
    | withdraw number =>
      refine ⟨.of_distinct (List.nodup_append.mp distinct).1 number, ih ?_⟩
      rw [keys_withdraw]
      exact distinct

end Registrations

namespace Event.Workshop
variable {π : Type} {shop : Workshop π}

def rolls (shop : Workshop π) : Rolls String String :=
  { made := shop.tokens, handlers := shop.bus.handlers }

def ofDealing : Dealing String String → Action π
  | .listen event handler => .listen event handler
  | .withdraw number => .unlisten number

def dealt (depth : Nat) (shop : Workshop π) (dealings : List (Dealing String String)) : Workshop π :=
  dealings.foldl (fun shop dealing => (shop.perform depth (ofDealing dealing)).2) shop

private theorem perform_rolls (sound : shop.bus.Sound) (depth : Nat) (dealing : Dealing String String) :
    (shop.perform depth (ofDealing dealing)).2.rolls = shop.rolls.deal dealing ∧
      (shop.perform depth (ofDealing dealing)).2.bus.Sound := by
  cases dealing with
  | listen event handler =>
    rw [ofDealing, perform]
    refine ⟨?_, Bus.sound_listen sound event handler⟩
    simp only [rolls, Rolls.deal, Rolls.mk.injEq, true_and]
    funext other
    exact Bus.handlers_listen shop.bus event other handler
  | withdraw number =>
    rw [ofDealing, perform]
    cases found : shop.tokens[number]? with
    | none => simp [rolls, Rolls.deal, found, sound]
    | some registration =>
      obtain ⟨event, handler⟩ := registration
      refine ⟨?_, Bus.sound_unlisten sound event handler⟩
      simp only [rolls, Rolls.deal, found, Rolls.mk.injEq, true_and]
      funext other
      exact Bus.handlers_unlisten sound event other handler

private theorem dealt_rolls (sound : shop.bus.Sound) (depth : Nat) (dealings : List (Dealing String String)) :
    (shop.dealt depth dealings).rolls = dealings.foldl Rolls.deal shop.rolls := by
  induction dealings generalizing shop with
  | nil => rfl
  | cons dealing rest ih =>
    obtain ⟨same, next⟩ := perform_rolls sound depth dealing
    rw [dealt, List.foldl_cons, List.foldl_cons, ← same]
    exact ih next

end Event.Workshop

namespace SurfaceBench

def rolls (bench : SurfaceBench) : Rolls Unit Nat :=
  { made := bench.registrations.map fun listener => ((), listener), handlers := fun _ => bench.surface.listeners }

def deal (bench : SurfaceBench) : Dealing Unit Nat → SurfaceBench
  | .listen () listener => bench.register listener
  | .withdraw number => bench.unlisten number

private theorem deal_rolls (bench : SurfaceBench) (dealing : Dealing Unit Nat) :
    (bench.deal dealing).rolls = bench.rolls.deal dealing := by
  cases dealing with
  | listen event listener => simp [deal, register, rolls, Rolls.deal, Surface.listen]
  | withdraw number =>
    unfold deal unlisten
    cases found : bench.registrations[number]? <;> simp [rolls, Rolls.deal, found, Surface.unlisten]

private theorem dealt_rolls (bench : SurfaceBench) (dealings : List (Dealing Unit Nat)) :
    (dealings.foldl deal bench).rolls = dealings.foldl Rolls.deal bench.rolls := by
  induction dealings generalizing bench with
  | nil => rfl
  | cons dealing rest ih => rw [List.foldl_cons, ih, deal_rolls, List.foldl_cons]

end SurfaceBench

namespace Rolls

/-- Every event has exactly the handlers whose own registrations have not ended, after every part of the dealings. -/
def Exact [DecidableEq η] (rolls : List (Dealing ε η) → Rolls ε η) (dealings : List (Dealing ε η)) : Prop :=
  ∀ count event, (rolls (dealings.take count)).handlers event = (Registrations.after (dealings.take count)).standing event

private theorem made_deal [DecidableEq η] {rolls : Rolls ε η} {entries : Registrations ε η}
    (same : rolls.made = entries.keys)
    (dealing : Dealing ε η) : (rolls.deal dealing).made = (entries.enter dealing).keys := by
  cases dealing with
  | listen event handler => simp [deal, Registrations.enter, same, Registrations.keys]
  | withdraw number =>
    rw [Registrations.keys_withdraw, ← same, deal]
    split <;> rfl

private theorem exact_iff [DecidableEq η] (dealings : List (Dealing ε η)) :
    Exact (fun dealings => dealings.foldl deal ({} : Rolls ε η)) dealings ↔ Registrations.Orderly [] dealings := by
  have made (dealings : List (Dealing ε η)) (rolls : Rolls ε η) (entries : Registrations ε η)
    (same : rolls.made = entries.keys) :
      (dealings.foldl deal rolls).made = (dealings.foldl Registrations.enter entries).keys := by
    induction dealings generalizing rolls entries with
    | nil => exact same
    | cons dealing rest ih => exact ih _ _ (made_deal same dealing)
  have blank : ({} : Rolls ε η).Shows [] := ⟨rfl, fun _ => rfl⟩
  rw [← blank.run_iff dealings]
  constructor
  · intro exact count
    exact ⟨made _ _ _ rfl, exact count⟩
  · intro shows count
    exact (shows count).handlers

end Rolls

section Laws
variable {π : Type}

/-- Whoever registers and ends registrations, with the bus or with a surface: each event has exactly the handlers whose
own registrations have not ended, in the order of registration and at every moment, if and only if every registration
ends in its turn. That is so whenever no handler is registered twice for an event. -/
theorem registrations_exact (programs : Assoc String (List (Event.Action π))) (depth : Nat)
    (dealings : List (Dealing String String)) (surface : Surface) (typed : List (Dealing Unit Nat)) :
    let bus := fun dealings => (({ programs := programs } : Event.Workshop π).dealt depth dealings).rolls
    let keyboard := fun typed =>
      (typed.foldl SurfaceBench.deal { surface := { surface with listeners := [] } }).rolls
    (Rolls.Exact bus dealings ↔ Registrations.Orderly [] dealings) ∧
      (Rolls.Exact keyboard typed ↔ Registrations.Orderly [] typed) ∧
      ((dealings.filterMap Dealing.registers?).Nodup → Rolls.Exact bus dealings) ∧
      ((typed.filterMap Dealing.registers?).Nodup → Rolls.Exact keyboard typed) := by
  intro bus keyboard
  have bus_rolls : bus = fun dealings => dealings.foldl Rolls.deal {} := by
    funext dealings
    let shop : Event.Workshop π := { programs := programs }
    have sound : shop.bus.Sound := List.nodup_nil
    exact Event.Workshop.dealt_rolls sound depth dealings
  have keyboard_rolls : keyboard = fun typed => typed.foldl Rolls.deal {} := by
    funext typed
    exact SurfaceBench.dealt_rolls { surface := { surface with listeners := [] } } typed
  have bus_exact := Rolls.exact_iff dealings
  have keyboard_exact := Rolls.exact_iff typed
  rw [← bus_rolls] at bus_exact
  rw [← keyboard_rolls] at keyboard_exact
  exact ⟨bus_exact, keyboard_exact, fun distinct => bus_exact.mpr (.of_distinct distinct),
    fun distinct => keyboard_exact.mpr (.of_distinct distinct)⟩

/-- A handler is registered twice for an event, and its registrations end in turn; that the first one ends once more
does no harm when none is left. -/
theorem registrations_exact_twice :
    Registrations.Orderly [] [.listen "e" "a", .listen "e" "b", .listen "e" "a", .withdraw 0, .withdraw 2, .withdraw 0] ∧
    (({} : Event.Workshop Nat).dealt 0
      [.listen "e" "a", .listen "e" "b", .listen "e" "a", .withdraw 0, .withdraw 2, .withdraw 0]).bus.handlers "e" =
        ["b"] := by
  have orderly : Registrations.Orderly []
      [.listen "e" "a", .listen "e" "b", .listen "e" "a", .withdraw 0, .withdraw 2, .withdraw 0] := by
    simp [Registrations.Orderly, Registrations.InTurn, Registrations.enter, Registrations.standing,
      Registration.stands, List.modify]
  let factory : SurfaceFactory := { theme := .ofScheme "dark", font := .estimate "mono" (.whole 13) }
  have always := (registrations_exact (π := Nat) [] 0 _ factory.make []).1.mpr orderly
  exact ⟨orderly, always 6 "e"⟩

/-- A handler is registered twice, and the first registration is ended twice: nobody is registered any more, although
the second registration was never ended. -/
theorem registrations_exact_fails :
    (({} : Event.Workshop Nat).dealt 0
      [.listen "e" "a", .listen "e" "a", .withdraw 0, .withdraw 0]).bus.handlers "e" = [] ∧
    (Registrations.after [.listen "e" "a", .listen "e" "a", .withdraw 0, .withdraw 0]).standing "e" = ["a"] := by
  have sound : ({} : Event.Workshop Nat).bus.Sound := List.nodup_nil
  have rolls := Event.Workshop.dealt_rolls sound 0
    [.listen "e" "a", .listen "e" "a", .withdraw 0, .withdraw 0]
  constructor
  · exact congrArg (·.handlers "e") rolls
  · decide

end Laws

end TerminalDock
