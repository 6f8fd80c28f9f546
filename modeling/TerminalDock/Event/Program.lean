import TerminalDock.Event.Bus
import TerminalDock.Failure
import TerminalDock.LogRecord

/-! Handlers that act on the bus while it delivers to them. An emission delivers to the handlers that were
registered when it began; a handler that fails is noted in the log and does not stop the others. -/

namespace TerminalDock.Event

/-- What a handler or a caller may do with a bus. Payloads are of any type. -/
inductive Action (π : Type)
  | listen (event : String) (handler : String)
  | unlisten (token : Nat)
  | emit (event : String) (payload : π)
  | count (event : String)
  | raise (failure : Failure)

/-- What can be seen of a run: deliveries to handlers, and log records. -/
inductive Sight (π : Type)
  | delivered (handler : String) (payload : π)
  | logged (record : LogRecord)

/-- The answer of an action: a token or a number, nothing, or that there is no such token. -/
inductive Answer
  | number (value : Nat)
  | nothing
  | noToken
  deriving DecidableEq, Repr

/-- A bus whose handlers are named, each with a program. The tokens are the registrations in order. -/
structure Workshop (π : Type) where
  programs : Assoc String (List (Action π)) := []
  bus : Bus String := {}
  tokens : List (String × String) := []
  sights : List (Sight π) := []

namespace Workshop

variable {π : Type}

def see (shop : Workshop π) (sight : Sight π) : Workshop π :=
  { shop with sights := shop.sights ++ [sight] }

/-- How deep emissions may be nested. -/
def depthLimit : Nat := 5

mutual

/-- Performs one action; `depth` is how many more emissions may be nested. -/
def perform (depth : Nat) (shop : Workshop π) : Action π → Except Failure Answer × Workshop π
  | .listen event handler =>
    (.ok (.number shop.tokens.length),
      { shop with bus := shop.bus.listen event handler, tokens := shop.tokens ++ [(event, handler)] })
  | .unlisten token =>
    match shop.tokens[token]? with
    | none => (.ok .noToken, shop)
    | some (event, handler) => (.ok .nothing, { shop with bus := shop.bus.unlisten event handler })
  | .count event => (.ok (.number (shop.bus.count event)), shop)
  | .raise failure => (.error failure, shop)
  | .emit event payload =>
    match depth with
    | 0 => (.ok .nothing, shop)
    | depth + 1 =>
      let handlers := shop.bus.handlers event
      (.ok (.number handlers.length), deliver depth event payload shop handlers)
termination_by (depth, 0, 0)

/-- Runs the program of each handler in turn. -/
def deliver (depth : Nat) (event : String) (payload : π) (shop : Workshop π) :
    List String → Workshop π
  | [] => shop
  | handler :: rest =>
    let shop := shop.see (.delivered handler payload)
    let (outcome, shop) := run depth shop ((shop.programs.find? handler).getD [])
    let shop :=
      match outcome with
      | .ok () => shop
      | .error _ => shop.see (.logged (.error s!"[EVENTS] handler failed | event={event}"))
    deliver depth event payload shop rest
termination_by handlers => (depth, 2, handlers.length)

/-- Performs actions in order until one fails. -/
def run (depth : Nat) (shop : Workshop π) : List (Action π) → Except Failure Unit × Workshop π
  | [] => (.ok (), shop)
  | action :: rest =>
    match perform depth shop action with
    | (.error failure, shop) => (.error failure, shop)
    | (.ok _, shop) => run depth shop rest
termination_by actions => (depth, 1, actions.length)

end

end Workshop

end TerminalDock.Event
