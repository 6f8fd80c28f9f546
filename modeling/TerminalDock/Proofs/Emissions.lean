import TerminalDock.Event.Program
import TerminalDock.Proofs.BusLaws

/-! Emissions whose handlers act on the very bus that tells them. A run is told again as a tree of deeds: an emission has
its calls, and a call has what its handler did, further emissions included. However deeply they are nested, an emission
calls those who were registered when it began. -/

namespace TerminalDock.Event

/-- What came of an action, or of the call of a handler. -/
inductive Deed (π : Type)
  | simple (action : Action π)
  | emission (event : String) (payload : π) (calls : List (Deed π))
  /-- The deeds of a handler, in order, and the failure that stopped it, if any. -/
  | call (event : String) (payload : π) (handler : String) (deeds : List (Deed π)) (failure : Option Failure)
  /-- An emission that is nested too deeply and is left out. -/
  | withheld (event : String) (payload : π)

variable {π : Type}

namespace Workshop

def afterCall (event : String) (failure : Option Failure) (shop : Workshop π) : Workshop π :=
  match failure with
  | none => shop
  | some _ => shop.see (.logged (.error s!"[EVENTS] handler failed | event={event}"))

/-- What a caller does from outside, with the answers. A failure does not keep it from going on. -/
def play (depth : Nat) (shop : Workshop π) : List (Action π) → List (Except Failure Answer) × Workshop π
  | [] => ([], shop)
  | action :: rest =>
    let (answer, shop) := shop.perform depth action
    let (answers, shop) := shop.play depth rest
    (answer :: answers, shop)

end Workshop

namespace Deed

mutual

def replay (shop : Workshop π) : Deed π → Workshop π
  | .simple action => (shop.perform 0 action).2
  | .emission _ _ calls => replayAll shop calls
  | .call event payload handler deeds failure =>
    (replayAll (shop.see (.delivered handler payload)) deeds).afterCall event failure
  | .withheld _ _ => shop

def replayAll (shop : Workshop π) : List (Deed π) → Workshop π
  | [] => shop
  | deed :: rest => replayAll (replay shop deed) rest

end

def outcome (shop : Workshop π) : Deed π → Except Failure Answer
  | .simple action => (shop.perform 0 action).1
  | .emission _ _ calls => .ok (.number calls.length)
  | .call .. | .withheld .. => .ok .nothing

def outcomes (shop : Workshop π) : List (Deed π) → List (Except Failure Answer)
  | [] => []
  | deed :: rest => deed.outcome shop :: outcomes (deed.replay shop) rest

def action? : Deed π → Option (Action π)
  | .simple action => some action
  | .emission event payload _ | .withheld event payload => some (.emit event payload)
  | .call .. => none

def callee? : Deed π → Option (String × π × String)
  | .call event payload handler _ _ => some (event, payload, handler)
  | _ => none

def isWhole : Deed π → Bool
  | .withheld .. => false
  | _ => true

/-- The deeds are those of a program, up to its first failure. -/
inductive Carried : Workshop π → List (Action π) → List (Deed π) → Option Failure → Prop
  | done {shop : Workshop π} : Carried shop [] [] none
  | next {shop : Workshop π} {action : Action π} {actions : List (Action π)} {deed : Deed π} {deeds : List (Deed π)}
      {failure : Option Failure} {answer : Answer} (same : deed.action? = some action)
      (answered : deed.outcome shop = .ok answer) (rest : Carried (deed.replay shop) actions deeds failure) :
    Carried shop (action :: actions) (deed :: deeds) failure
  | stopped {shop : Workshop π} {action : Action π} {actions : List (Action π)} {deed : Deed π} {failure : Failure}
      (same : deed.action? = some action) (failed : deed.outcome shop = .error failure) :
    Carried shop (action :: actions) [deed] (some failure)

end Deed

/-- A deed somewhere in a run, and the workshop when it began. -/
structure Part (π : Type) where
  start : Workshop π
  deed : Deed π

namespace Part

/-- An emission calls each handler that is registered when it begins, once for each registration and in their order, and
a call is the program of its handler. -/
def Exact (part : Part π) : Prop :=
  match part.deed with
  | .simple action => ∀ event payload, action ≠ .emit event payload
  | .emission event payload calls =>
    calls.map Deed.callee? = (part.start.bus.handlers event).map fun handler => some (event, payload, handler)
  | .call _ payload handler deeds failure =>
    Deed.Carried (part.start.see (.delivered handler payload)) ((part.start.programs.find? handler).getD []) deeds failure
  | .withheld _ _ => True

end Part

namespace Deed

mutual

/-- All that belongs to a deed, however deeply it is nested. -/
def parts (shop : Workshop π) : Deed π → List (Part π)
  | .simple action => [⟨shop, .simple action⟩]
  | .emission event payload calls => ⟨shop, .emission event payload calls⟩ :: partsAll shop calls
  | .call event payload handler deeds failure =>
    ⟨shop, .call event payload handler deeds failure⟩ :: partsAll (shop.see (.delivered handler payload)) deeds
  | .withheld event payload => [⟨shop, .withheld event payload⟩]

def partsAll (shop : Workshop π) : List (Deed π) → List (Part π)
  | [] => []
  | deed :: rest => parts shop deed ++ partsAll (replay shop deed) rest

end

/-- Nothing is left out. -/
def Whole (parts : List (Part π)) : Prop :=
  ∀ part ∈ parts, part.deed.isWhole = true

private theorem whole_cons {part : Part π} {rest : List (Part π)} :
    Whole (part :: rest) ↔ part.deed.isWhole = true ∧ Whole rest :=
  List.forall_mem_cons

private theorem whole_append {parts more : List (Part π)} : Whole (parts ++ more) ↔ Whole parts ∧ Whole more :=
  List.forall_mem_append

/-- An emission is left out where no further one may be nested, and only there. -/
inductive Nested : Nat → Deed π → Prop
  | simple {depth : Nat} {action : Action π} : Nested depth (.simple action)
  | emission {depth : Nat} {event : String} {payload : π} {calls : List (Deed π)}
      (inside : ∀ call ∈ calls, Nested depth call) : Nested (depth + 1) (.emission event payload calls)
  | call {depth : Nat} {event : String} {payload : π} {handler : String} {deeds : List (Deed π)}
      {failure : Option Failure} (inside : ∀ deed ∈ deeds, Nested depth deed) :
    Nested depth (.call event payload handler deeds failure)
  | withheld {event : String} {payload : π} : Nested 0 (.withheld event payload)

end Deed

namespace Workshop

/-- What came of an action. It would be no different if emissions could be nested more deeply, if nothing was left out. -/
structure Tells (depth : Nat) (shop : Workshop π) (action : Action π) (deed : Deed π) : Prop where
  same : deed.action? = some action
  performed : shop.perform depth action = (deed.outcome shop, deed.replay shop)
  nested : deed.Nested depth
  exactly : ∀ part ∈ deed.parts shop, part.Exact
  deeper : Deed.Whole (deed.parts shop) → ∀ more, shop.perform (depth + more) action = shop.perform depth action

structure RunTells (depth : Nat) (shop : Workshop π) (actions : List (Action π)) (deeds : List (Deed π))
    (failure : Option Failure) : Prop where
  carried : Deed.Carried shop actions deeds failure
  run : shop.run depth actions = (failure.elim (.ok ()) .error, Deed.replayAll shop deeds)
  nested : ∀ deed ∈ deeds, deed.Nested depth
  exactly : ∀ part ∈ Deed.partsAll shop deeds, part.Exact
  deeper : Deed.Whole (Deed.partsAll shop deeds) → ∀ more, shop.run (depth + more) actions = shop.run depth actions

structure DeliveryTells (depth : Nat) (event : String) (payload : π) (shop : Workshop π) (handlers : List String)
    (calls : List (Deed π)) : Prop where
  callees : calls.map Deed.callee? = handlers.map fun handler => some (event, payload, handler)
  delivered : shop.deliver depth event payload handlers = Deed.replayAll shop calls
  nested : ∀ call ∈ calls, call.Nested depth
  exactly : ∀ part ∈ Deed.partsAll shop calls, part.Exact
  deeper : Deed.Whole (Deed.partsAll shop calls) → ∀ more,
    shop.deliver (depth + more) event payload handlers = shop.deliver depth event payload handlers

private theorem run_tells {depth : Nat} (each : ∀ (shop : Workshop π) action, ∃ deed, shop.Tells depth action deed)
    (shop : Workshop π) (actions : List (Action π)) : ∃ deeds failure, shop.RunTells depth actions deeds failure := by
  induction actions generalizing shop with
  | nil =>
    refine ⟨[], none, .done, ?_, nofun, ?_, ?_⟩
    · rw [run]
      rfl
    · simp [Deed.partsAll]
    · intro _ more
      rw [run, run]
  | cons action rest ih =>
    obtain ⟨deed, tells⟩ := each shop action
    cases answered : deed.outcome shop with
    | error failure =>
      have alone : Deed.partsAll shop [deed] = deed.parts shop := by simp [Deed.partsAll]
      refine ⟨[deed], some failure, .stopped tells.same answered, ?_, ?_, ?_, ?_⟩
      · simp [run, tells.performed, answered, Deed.replayAll]
      · exact List.forall_mem_singleton.mpr tells.nested
      · rw [alone]
        exact tells.exactly
      · rw [alone]
        intro whole more
        simp [run, tells.deeper whole more, tells.performed, answered]
    | ok answer =>
      obtain ⟨deeds, failure, later⟩ := ih (deed.replay shop)
      refine ⟨deed :: deeds, failure, .next tells.same answered later.carried, ?_, ?_, ?_, ?_⟩
      · simp [run, tells.performed, answered, later.run, Deed.replayAll]
      · exact List.forall_mem_cons.mpr ⟨tells.nested, later.nested⟩
      · rw [Deed.partsAll, List.forall_mem_append]
        exact ⟨tells.exactly, later.exactly⟩
      · rw [Deed.partsAll, Deed.whole_append]
        rintro ⟨first, others⟩ more
        simp [run, tells.deeper first more, tells.performed, answered, later.deeper others more]

private theorem deliver_cons (depth : Nat) (event : String) (payload : π) (shop : Workshop π) (handler : String)
    (rest : List String) {failure : Option Failure} {told : Workshop π}
    (ran : (shop.see (.delivered handler payload)).run depth ((shop.programs.find? handler).getD []) =
      (failure.elim (.ok ()) .error, told)) :
    shop.deliver depth event payload (handler :: rest) =
      (told.afterCall event failure).deliver depth event payload rest := by
  rw [deliver]
  have programs : (shop.see (.delivered handler payload)).programs = shop.programs := rfl
  simp only [programs, ran]
  cases failure <;> rfl

private theorem deliver_tells {depth : Nat}
    (each : ∀ (shop : Workshop π) actions, ∃ deeds failure, shop.RunTells depth actions deeds failure)
    (event : String) (payload : π) (shop : Workshop π) (handlers : List String) :
    ∃ calls, shop.DeliveryTells depth event payload handlers calls := by
  -- The handlers were fixed when the event was announced, so that the induction is over them, whatever each one
  -- changes about who listens.
  induction handlers generalizing shop with
  | nil =>
    refine ⟨[], rfl, ?_, nofun, ?_, ?_⟩
    · rw [deliver]
      rfl
    · simp [Deed.partsAll]
    · intro _ more
      rw [deliver, deliver]
  | cons handler rest ih =>
    obtain ⟨deeds, failure, runs⟩ := each (shop.see (.delivered handler payload)) ((shop.programs.find? handler).getD [])
    obtain ⟨calls, later⟩ := ih ((Deed.call event payload handler deeds failure).replay shop)
    have first := deliver_cons depth event payload shop handler rest runs.run
    refine ⟨.call event payload handler deeds failure :: calls, ?_, ?_, ?_, ?_, ?_⟩
    · simp [Deed.callee?, later.callees]
    · rw [first]
      exact later.delivered
    · exact List.forall_mem_cons.mpr ⟨.call runs.nested, later.nested⟩
    · rw [Deed.partsAll, Deed.parts, List.cons_append, List.forall_mem_cons, List.forall_mem_append]
      exact ⟨runs.carried, runs.exactly, later.exactly⟩
    · rw [Deed.partsAll, Deed.parts, List.cons_append, Deed.whole_cons, Deed.whole_append]
      rintro ⟨-, inside, others⟩ more
      rw [first, deliver_cons (depth + more) event payload shop handler rest ((runs.deeper inside more).trans runs.run)]
      exact later.deeper others more

private theorem emit_tells {depth : Nat} (shop : Workshop π) {event : String} {payload : π} {calls : List (Deed π)}
    (tells : shop.DeliveryTells depth event payload (shop.bus.handlers event) calls) :
    shop.Tells (depth + 1) (.emit event payload) (.emission event payload calls) where
  same := rfl
  performed := by
    have many : calls.length = (shop.bus.handlers event).length := by
      simpa using congrArg List.length tells.callees
    rw [perform, tells.delivered, Deed.outcome, Deed.replay, many]
  nested := .emission tells.nested
  exactly := by
    rw [Deed.parts, List.forall_mem_cons]
    exact ⟨tells.callees, tells.exactly⟩
  deeper := by
    rw [Deed.parts, Deed.whole_cons]
    rintro ⟨-, inside⟩ more
    rw [Nat.add_right_comm, perform, perform, tells.deeper inside more]

private theorem simple_tells (depth : Nat) (shop : Workshop π) {action : Action π}
    (calm : ∀ event payload, action ≠ .emit event payload) : shop.Tells depth action (.simple action) := by
  have same (more : Nat) : shop.perform more action = shop.perform 0 action := by
    cases action with
    | emit event payload => exact absurd rfl (calm event payload)
    | listen | unlisten | count | raise => simp only [perform]
  refine ⟨rfl, same depth, .simple, ?_, ?_⟩
  · simp only [Deed.parts, List.mem_singleton, forall_eq]
    exact calm
  · intro _ more
    rw [same, same depth]

private theorem perform_tells (depth : Nat) (shop : Workshop π) (action : Action π) :
    ∃ deed, shop.Tells depth action deed := by
  induction depth generalizing shop action with
  | zero =>
    cases action with
    | emit event payload =>
      refine ⟨.withheld event payload, rfl, ?_, .withheld, ?_, ?_⟩
      · rw [perform]
        rfl
      · simp [Deed.parts, Part.Exact]
      · simp [Deed.parts, Deed.Whole, Deed.isWhole]
    | listen | unlisten | count | raise => exact ⟨_, simple_tells 0 shop (by simp)⟩
  | succ depth ih =>
    cases action with
    | emit event payload =>
      obtain ⟨calls, tells⟩ := deliver_tells (run_tells ih) event payload shop (shop.bus.handlers event)
      exact ⟨_, emit_tells shop tells⟩
    | listen | unlisten | count | raise => exact ⟨_, simple_tells (depth + 1) shop (by simp)⟩

end Workshop

namespace Bus
variable {η : Type}

def Tidy (bus : Bus η) : Prop :=
  ∀ entry ∈ bus.table, entry.2 ≠ []

theorem Tidy.listen {bus : Bus η} (tidy : bus.Tidy) (event : String) (handler : η) : (bus.listen event handler).Tidy := by
  intro entry member
  rcases Assoc.mem_put member with rfl | old
  · simp
  · exact tidy entry old

theorem Tidy.unlisten [DecidableEq η] {bus : Bus η} (tidy : bus.Tidy) (event : String) (handler : η) :
    (bus.unlisten event handler).Tidy := by
  unfold Bus.unlisten
  split
  · intro entry member
    exact tidy entry ((Assoc.remove_sublist event bus.table).subset member)
  next rest some =>
    intro entry member
    rcases Assoc.mem_put member with rfl | old
    · exact some
    · exact tidy entry old

end Bus

namespace Deed

private theorem tidy_simple {shop : Workshop π} (tidy : shop.bus.Tidy) (action : Action π) :
    (shop.perform 0 action).2.bus.Tidy := by
  cases action with
  | listen event handler =>
    rw [Workshop.perform]
    exact tidy.listen event handler
  | unlisten number =>
    rw [Workshop.perform]
    split
    · exact tidy
    · exact tidy.unlisten _ _
  | emit | count | raise =>
    rw [Workshop.perform]
    exact tidy

private theorem tidy_afterCall {shop : Workshop π} (tidy : shop.bus.Tidy) (event : String) (failure : Option Failure) :
    (shop.afterCall event failure).bus.Tidy := by
  cases failure with
  | none => exact tidy
  | some failure => exact tidy

mutual

private theorem tidy_replay (deed : Deed π) {shop : Workshop π} (tidy : shop.bus.Tidy) : (deed.replay shop).bus.Tidy := by
  cases deed with
  | simple action => exact tidy_simple tidy action
  | emission event payload calls => exact tidy_replayAll calls tidy
  | call event payload handler deeds failure =>
    have told : (shop.see (.delivered handler payload)).bus.Tidy := tidy
    exact tidy_afterCall (tidy_replayAll deeds told) event failure
  | withheld event payload => exact tidy

private theorem tidy_replayAll (deeds : List (Deed π)) {shop : Workshop π} (tidy : shop.bus.Tidy) :
    (replayAll shop deeds).bus.Tidy := by
  cases deeds with
  | nil => exact tidy
  | cons deed rest => exact tidy_replayAll rest (tidy_replay deed tidy)

end

mutual

private theorem tidy_parts (deed : Deed π) {shop : Workshop π} (tidy : shop.bus.Tidy) :
    ∀ part ∈ deed.parts shop, part.start.bus.Tidy := by
  cases deed with
  | simple | withheld =>
    simp only [parts, List.mem_singleton, forall_eq]
    exact tidy
  | emission event payload calls =>
    rw [parts, List.forall_mem_cons]
    exact ⟨tidy, tidy_partsAll calls tidy⟩
  | call event payload handler deeds failure =>
    have told : (shop.see (.delivered handler payload)).bus.Tidy := tidy
    rw [parts, List.forall_mem_cons]
    exact ⟨tidy, tidy_partsAll deeds told⟩

private theorem tidy_partsAll (deeds : List (Deed π)) {shop : Workshop π} (tidy : shop.bus.Tidy) :
    ∀ part ∈ partsAll shop deeds, part.start.bus.Tidy := by
  cases deeds with
  | nil => simp [partsAll]
  | cons deed rest =>
    rw [partsAll, List.forall_mem_append]
    exact ⟨tidy_parts deed tidy, tidy_partsAll rest (tidy_replay deed tidy)⟩

end

end Deed

namespace Workshop

theorem play_tells (depth : Nat) (shop : Workshop π) (actions : List (Action π)) : ∃ story : List (Deed π),
    story.map Deed.action? = actions.map some ∧
    shop.play depth actions = (Deed.outcomes shop story, Deed.replayAll shop story) ∧
    (∀ deed ∈ story, deed.Nested depth) ∧
    (∀ part ∈ Deed.partsAll shop story, part.Exact) ∧
    (Deed.Whole (Deed.partsAll shop story) → ∀ more, shop.play (depth + more) actions = shop.play depth actions) := by
  induction actions generalizing shop with
  | nil => exact ⟨[], rfl, rfl, nofun, by simp [Deed.partsAll], fun _ _ => rfl⟩
  | cons action rest ih =>
    obtain ⟨deed, tells⟩ := perform_tells depth shop action
    obtain ⟨story, same, played, nested, exactly, deeper⟩ := ih (deed.replay shop)
    refine ⟨deed :: story, ?_, ?_, ?_, ?_, ?_⟩
    · simp [tells.same, same]
    · simp only [play, tells.performed, played, Deed.outcomes, Deed.replayAll]
    · exact List.forall_mem_cons.mpr ⟨tells.nested, nested⟩
    · rw [Deed.partsAll, List.forall_mem_append]
      exact ⟨tells.exactly, exactly⟩
    · rw [Deed.partsAll, Deed.whole_append]
      rintro ⟨first, others⟩ more
      simp only [play, tells.deeper first more, tells.performed, deeper others more]

/-- Whatever is done with a bus, and whatever its handlers do with it and whichever of them fail: every emission, however
deeply it is nested, calls exactly the handlers that are registered when it begins, once for each registration and in
their order, and answers their number; and an event for which nobody is registered is never kept. An emission is left out
only where no further one may be nested; unless that happens, it makes no difference how deeply emissions may be nested. -/
theorem emissions_exact (depth : Nat) (shop : Workshop π) (actions : List (Action π)) : ∃ story : List (Deed π),
    story.map Deed.action? = actions.map some ∧
    shop.play depth actions = (Deed.outcomes shop story, Deed.replayAll shop story) ∧
    (∀ deed ∈ story, deed.Nested depth) ∧
    (∀ part ∈ Deed.partsAll shop story, part.Exact) ∧
    (Deed.Whole (Deed.partsAll shop story) → ∀ more, shop.play (depth + more) actions = shop.play depth actions) ∧
    (shop.bus.Tidy → (∀ part ∈ Deed.partsAll shop story, part.start.bus.Tidy) ∧
      (shop.play depth actions).2.bus.Tidy) := by
  obtain ⟨story, same, played, nested, exactly, deeper⟩ := play_tells depth shop actions
  refine ⟨story, same, played, nested, exactly, deeper, fun tidy => ⟨Deed.tidy_partsAll story tidy, ?_⟩⟩
  rw [played]
  exact Deed.tidy_replayAll story tidy

/-- Handlers that meddle with each other: one ends the registration of its like, and tells another one, which ends the
registration of a third, before it fails. -/
def meddlers : Workshop Nat where
  programs := [("a", [.unlisten 0, .listen "e" "c", .emit "f" 2, .raise (.fault .value "no")]), ("d", [.unlisten 1])]
  bus := { table := [("e", ["a", "b", "a"]), ("f", ["d"])] }
  tokens := [("e", "a"), ("e", "b"), ("e", "a"), ("f", "d")]

example : (meddlers.play 2 [.emit "e" 1]).2.sights = [.delivered "a" 1, .delivered "d" 2,
    .logged (.error "[EVENTS] handler failed | event=e"), .delivered "b" 1, .delivered "a" 1, .delivered "d" 2,
    .logged (.error "[EVENTS] handler failed | event=e")] := by cbv

end Workshop

end TerminalDock.Event
