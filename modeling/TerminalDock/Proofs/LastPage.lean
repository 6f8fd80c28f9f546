import TerminalDock.Proofs.ScreenCourses
import TerminalDock.Proofs.SurfaceFits

/-! Whatever is written to a terminal leaves it at its last page: only turning pages scrolls a screen back, and no
sequence of characters does that. So a surface that takes any size still does after output. -/

namespace TerminalDock
open Proofs.Steps

namespace Emulator
namespace Screen

section
variable (screen : Screen)

@[simp] theorem extent_touch (y : Int) : (screen.touch y).extent = screen.extent := by
  unfold touch
  split <;> rfl

@[simp] theorem extent_changeRow (y : Int) (change : Line → Line) : (screen.changeRow y change).extent = screen.extent := rfl

@[simp] theorem extent_setX (x : Int) : (screen.setX x).extent = screen.extent := rfl

@[simp] theorem extent_keepAbove (line : Line) : (screen.keepAbove line).extent = screen.extent := rfl

@[simp] theorem extent_keepBelow (line : Line) : (screen.keepBelow line).extent = screen.extent := rfl

@[simp] theorem extent_index : screen.index.extent = screen.extent := by
  unfold index
  dsimp only
  split
  · rw [extent_dropRow, extent_foldl fun screen y => by simp, extent_keepAbove, extent_touch]
  · rfl

@[simp] theorem extent_reverseIndex : screen.reverseIndex.extent = screen.extent := by
  unfold reverseIndex
  dsimp only
  split
  · rw [extent_dropRow, extent_foldl fun screen y => by simp, extent_keepBelow, extent_touch]
  · rfl

@[simp] theorem extent_lineFeed : screen.lineFeed.extent = screen.extent := by
  unfold lineFeed
  dsimp only
  split <;> simp

@[simp] theorem extent_insertCharacters (count : Int) : (screen.insertCharacters count).extent = screen.extent := rfl

@[simp] theorem extent_deleteCharacters (count : Int) : (screen.deleteCharacters count).extent = screen.extent := rfl

@[simp] theorem extent_fillRow (y : Int) (columns : List Int) : (screen.fillRow y columns).extent = screen.extent := rfl

@[simp] theorem extent_insertLines (count : Int) : (screen.insertLines count).extent = screen.extent := by
  unfold insertLines
  split
  · rw [extent_carriageReturn, extent_foldl]
    intro screen y
    dsimp only
    split
    · split <;> rfl
    · rfl
  · rfl

@[simp] theorem extent_addAccent (x y : Int) (mark : Char) : (screen.addAccent x y mark).extent = screen.extent := rfl

@[simp] theorem extent_wrapBefore (width : Option Nat) : (screen.wrapBefore width).extent = screen.extent := by
  unfold wrapBefore
  split
  · split <;> simp
  · rfl

@[simp] theorem extent_drawChar (c : Char) : (screen.drawChar c).1.extent = screen.extent := by
  unfold drawChar
  dsimp only
  split
  · split
    · simp
    · split
      · simp
      · split <;> simp
  · split <;> simp
  · simp

@[simp] theorem extent_alignmentPattern : screen.alignmentPattern.extent = screen.extent := by
  unfold alignmentPattern
  exact extent_foldl (fun screen y => screen.extent_changeRow y _) _ screen

@[simp] theorem extent_eraseRows (rows : List Int) : (screen.eraseRows rows).extent = screen.extent := by
  unfold eraseRows
  exact extent_foldl (fun screen y => screen.extent_changeRow y _) rows screen

@[simp] theorem extent_reverseCells (reverse : Bool) : (screen.reverseCells reverse).extent = screen.extent := rfl

@[simp] theorem extent_chooseStyle (codes : List Nat) : (screen.chooseStyle codes).extent = screen.extent := rfl

end

/-- Nothing is scrolled back. -/
def AtEnd (screen : Screen) : Prop :=
  screen.position = screen.scrollback

theorem AtEnd.of_extent {first last : Screen} (same : last.extent = first.extent) (atEnd : first.AtEnd) : last.AtEnd :=
  ((congrArg Extent.position same).trans atEnd).trans (congrArg Extent.scrollback same).symm

theorem AtEnd.change {first last : Screen} (change : Change first last) (atEnd : first.AtEnd) : last.AtEnd := by
  cases change with
  | still same => exact ((congrArg Stock.position same).trans atEnd).trans (congrArg Stock.scrollback same).symm
  | forget | reset => rfl
  | cut => exact atEnd
  | turn behind => exact absurd atEnd (Nat.ne_of_lt behind)
  | _ => exact .of_extent (by simp) atEnd

end Screen

namespace Terminal

private theorem write_atEnd {terminal : Terminal} (atEnd : terminal.screen.AtEnd) (bytes : List UInt8) :
    (after (write bytes) terminal).screen.AtEnd :=
  (write_sends bytes terminal).lasts Screen.AtEnd.change atEnd

end Terminal

end Emulator

namespace Surface

theorem build_write {surface : Surface} (atEnd : surface.build.atEnd = true) (bytes : List UInt8) :
    (after (write bytes) surface).build = surface.build := by
  have begun : surface.screen.AtEnd := beq_iff_eq.mp atEnd
  have settled := Emulator.Terminal.write_atEnd begun bytes
  have read (final : Emulator.Terminal) (still : final.screen.AtEnd) :
      ({ surface with terminal := final } : Surface).build = surface.build := by
    have last : (final.screen.position == final.screen.scrollback) = surface.build.atEnd :=
      (beq_iff_eq.mpr still).trans atEnd.symm
    exact congrArg (fun atEnd => { surface.build with atEnd := atEnd }) last
  have taken : (after (do onTerminal (Emulator.Terminal.write bytes); touch)
      { surface with written := surface.written ++ [bytes] }).build = surface.build := by
    rw [after_bind_view build fun value last => rfl, after_onTerminal]
    exact read _ settled
  simp only [write, after_modify_bind, after_get_bind]
  split
  · rfl
  · exact taken

end Surface

end TerminalDock
