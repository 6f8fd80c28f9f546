import TerminalDock.Surface.Basic
import TerminalDock.Proofs.Steps

/-! What the operations of a surface leave alone. Only output adds to what was written, and only the owner
of a surface gives it the focus, its listeners and its end. -/

namespace TerminalDock.Surface
open Proofs.Steps

/-- A surface without its terminal: its theme, the focus, its end, its listeners and what was written to it. -/
structure Poise where
  theme : Theme
  focused : Bool
  disposed : Bool
  listeners : List Nat
  written : List (List UInt8)

def poise (surface : Surface) : Poise where
  theme := surface.theme
  focused := surface.focused
  disposed := surface.disposed
  listeners := surface.listeners
  written := surface.written

/-- An operation that concerns the terminal alone. -/
abbrev Steady {α : Type} (act : SurfaceStep α) : Prop :=
  Moves (fun first last => last.poise = first.poise) act

theorem Steady.bind {α β : Type} {act : SurfaceStep α} {next : α → SurfaceStep β} (first : Steady act)
    (rest : ∀ value, Steady (next value)) : Steady (act >>= next) :=
  Moves.bind (fun before later => later.trans before) first rest

theorem after_onTerminal {α : Type} (act : EStateM FaultKind Emulator.Terminal α) (surface : Surface) :
    after (onTerminal act) surface = { surface with terminal := after act surface.terminal } := by
  simp only [after, onTerminal]
  cases act surface.terminal <;> rfl

theorem after_onScreen {α : Type} (act : Emulator.Term α) (surface : Surface) : after (onScreen act) surface =
    { surface with terminal := { surface.terminal with screen := after act surface.screen } } := by
  simp only [after, onScreen, screen]
  cases act surface.terminal.screen <;> rfl

private theorem onTerminal_steady {α : Type} (act : EStateM FaultKind Emulator.Terminal α) : Steady (onTerminal act) := by
  intro surface
  rw [after_onTerminal]
  rfl

private theorem onScreen_steady {α : Type} (act : Emulator.Term α) : Steady (onScreen act) := by
  intro surface
  rw [after_onScreen]
  rfl

private theorem touch_steady : Steady touch := fun _ => rfl

private theorem resize_steady (size : Geometry) : Steady (resize size) := by
  refine Moves.get_bind fun surface => ?_
  split
  · exact (onScreen_steady _).bind (fun _ => touch_steady) surface
  · rfl

theorem fit_steady (width height : Decimal.Quantity) : Steady (fit width height) := by
  refine Moves.get_bind fun surface => ?_
  split
  · rfl
  · rfl
  · split
    · rfl
    · exact (resize_steady _).bind (fun _ _ => rfl) surface

theorem text_steady : Steady text :=
  (onScreen_steady _).bind fun _ _ => rfl

/-- Output is noted even if the surface is gone or the terminal stumbles over it. -/
theorem poise_write (bytes : List UInt8) (surface : Surface) :
    (after (write bytes) surface).poise = { surface.poise with written := surface.written ++ [bytes] } := by
  have taken := ((onTerminal_steady (Emulator.Terminal.write bytes)).bind fun _ => touch_steady)
    { surface with written := surface.written ++ [bytes] }
  simp only [write, after_modify_bind, after_get_bind]
  split
  · rfl
  · exact taken

end TerminalDock.Surface
