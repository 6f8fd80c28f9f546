import TerminalDock.LogRecord
import TerminalDock.Page.Paint
import TerminalDock.View.Headless

/-! The view of one session in a window: its place in the layout, the page that its surface is drawn on, and
what keys and the mouse do in it. While it is attached, a timer looks about thirty times a second whether
there is something new to draw. -/

namespace TerminalDock

inductive ViewerSight
  | shown
  | hidden
  | focused
  | timerSet (milliseconds : Nat)
  | timerCancelled
  | destroyed
  /-- The place on the page that is under the pointer was asked for. -/
  | located (x y : Int)
  | logged (record : LogRecord)
  | browsed (url : String)
  deriving DecidableEq, Repr

/-- The timers that draw: those that are to go off, and the one that is cancelled at the end. -/
structure Ticker where
  waiting : List Nat := []
  latest : Option Nat := none
  fresh : Nat := 0

structure Viewer where
  session : String
  surface : Surface
  view : View
  page : Page
  ticker : Ticker := {}
  /-- Whether the page lets the cursor be set. -/
  takesMark : Bool := true
  sights : List ViewerSight := []

/-- A step of a viewer; a failure leaves the changes that were made before it. -/
abbrev ViewerStep := EStateM Failure Viewer

namespace Viewer

def create (session : String) (surface : Surface) (view : View) : Viewer where
  session := session
  surface := surface
  view := view
  page := Page.create surface.theme surface.font surface.padding

def see (viewer : Viewer) (sight : ViewerSight) : Viewer :=
  { viewer with sights := viewer.sights ++ [sight] }

def paint : ViewerStep Unit := fun viewer =>
  match Painting.paint viewer.takesMark ⟨viewer.surface, viewer.page⟩ with
  | .ok _ painting => .ok () { viewer with surface := painting.surface, page := painting.page }
  | .error failure painting =>
    .error failure { viewer with surface := painting.surface, page := painting.page }

/-- Milliseconds between two looks at the surface. -/
def interval : Nat := 33

def setTimer (viewer : Viewer) : Viewer :=
  let ticker := viewer.ticker
  { viewer with ticker := {
    waiting := ticker.waiting ++ [ticker.fresh]
    latest := some ticker.fresh
    fresh := ticker.fresh + 1 } }.see (.timerSet interval)

/-- Whether there is something to draw and a place to draw it. -/
def isStale (viewer : Viewer) : Bool :=
  viewer.view.visible && viewer.surface.dirty && !viewer.surface.disposed

/-- One look at the surface, if the viewer is in the layout. -/
def look : ViewerStep Unit := do
  if (← get).view.attached then
    if (← get).isStale then paint
    modify setTimer

def goOff : List Nat → ViewerStep Unit
  | [] => pure ()
  | _ :: rest => do
    look
    goOff rest

/-- Lets all timers go off that wait for it; the answer is how many there were. -/
def tick : ViewerStep Nat := do
  let viewer ← get
  set { viewer with ticker := { viewer.ticker with waiting := [] } }
  goOff viewer.ticker.waiting
  return viewer.ticker.waiting.length

def attach : ViewerStep Unit := do
  modify fun viewer => { viewer with view := viewer.view.attach }
  look

/-- Ends the drawing; the timer that was set last does not go off any more. -/
def retire (viewer : Viewer) : Viewer :=
  match viewer.ticker.latest with
  | none => viewer.see .destroyed
  | some timer =>
    let ticker := { viewer.ticker with waiting := viewer.ticker.waiting.erase timer, latest := none }
    ({ viewer with ticker := ticker }.see .timerCancelled).see .destroyed

def detach (viewer : Viewer) : Viewer :=
  { viewer with view := viewer.view.detach }.retire

/-- What the window does when the viewer is shown or hidden; one that is shown gets the keyboard. -/
def announce (viewer : Viewer) (visible : Bool) : Viewer :=
  if visible then (viewer.see .shown).see .focused else viewer.see .hidden

def setVisible (visible : Bool) (viewer : Viewer) : Viewer :=
  let view := viewer.view.setVisible visible
  if view.visible == viewer.view.visible then viewer
  else { viewer with view := view }.announce view.visible

end Viewer

end TerminalDock
