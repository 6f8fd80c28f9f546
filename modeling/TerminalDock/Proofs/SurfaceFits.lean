import TerminalDock.Proofs.SurfaceFrames

/-! Fitting a surface to a box. A screen that shows its last page takes any size that has a line and a column, so the
grid of a surface ends up with the size that was proposed for the box, and with whole cells that is the largest one
that goes into it. -/

namespace TerminalDock
open Proofs.Steps

namespace Emulator
namespace Screen

/-- The size of a screen and the page that it shows. -/
structure Extent where
  lines : Int
  columns : Int
  scrollback : Nat
  position : Nat

def extent (screen : Screen) : Extent where
  lines := screen.lines
  columns := screen.columns
  scrollback := screen.scrollback
  position := screen.position

section
variable (screen : Screen)

@[simp] theorem extent_putRow (y : Int) (line : Line) : (screen.putRow y line).extent = screen.extent := rfl

@[simp] theorem extent_dropRow (y : Int) : (screen.dropRow y).extent = screen.extent := rfl

@[simp] theorem extent_carriageReturn : screen.carriageReturn.extent = screen.extent := rfl

@[simp] theorem extent_boundX : screen.boundX.extent = screen.extent := rfl

@[simp] theorem extent_boundY (within : Bool) : (screen.boundY within).extent = screen.extent := rfl

@[simp] theorem extent_moveTo (x y : Int) : (screen.moveTo x y).extent = screen.extent := rfl

@[simp] theorem extent_removeMode (mode : Nat) : (screen.removeMode mode).extent = screen.extent := rfl

@[simp] theorem extent_showCursor : screen.showCursor.extent = screen.extent := rfl

@[simp] theorem extent_saveCursor : screen.saveCursor.extent = screen.extent := rfl

@[simp] theorem extent_addMode (mode : Nat) : (screen.addMode mode).extent = screen.extent := by
  unfold addMode
  split <;> rfl

@[simp] theorem extent_toPosition (line column : Nat) : (screen.toPosition line column).extent = screen.extent := by
  unfold toPosition
  dsimp only
  split
  · split
    · split <;> simp
    · simp
  · simp

@[simp] theorem extent_restoreCursor : screen.restoreCursor.extent = screen.extent := by
  unfold restoreCursor
  split
  next saved rest _ =>
    have base : ({ screen with
        savepoints := rest, first := saved.first, second := saved.second, shifted := saved.shifted } : Screen).extent =
        screen.extent := rfl
    have origin (screen : Screen) : (if saved.origin then screen.addMode originMode else screen).extent = screen.extent := by
      split <;> simp
    have wrap (screen : Screen) : (if saved.wrap then screen.addMode wrapMode else screen).extent = screen.extent := by
      split <;> simp
    exact (wrap _).trans ((origin _).trans base)
  next => simp

omit screen in
theorem extent_foldl {change : Screen → Int → Screen} (same : ∀ screen y, (change screen y).extent = screen.extent)
    (rows : List Int) (screen : Screen) : (rows.foldl change screen).extent = screen.extent := by
  induction rows generalizing screen with
  | nil => rfl
  | cons y rest ih => rw [List.foldl_cons, ih, same]

@[simp] theorem extent_deleteLines (count : Int) : (screen.deleteLines count).extent = screen.extent := by
  unfold deleteLines
  split
  · refine extent_foldl (fun screen y => ?_) _ screen
    split
    · split <;> rfl
    · rfl
  · rfl

end

end Screen

variable {screen : Screen}

private theorem pureEvent_calm (calm : screen.position = screen.scrollback) (change : Screen → Screen) :
    pureEvent change screen = .ok () (change screen).showCursor := by
  simp only [pureEvent, event, get_bind, calm, Nat.sub_self]
  rfl

/-- A step that cannot fail and leaves the screen with a certain size and page. -/
def Ends (act : Term Unit) (screen : Screen) (extent : Screen.Extent) : Prop :=
  ∃ final, act screen = .ok () final ∧ final.extent = extent

theorem Ends.get {next : Screen → Term Unit} {extent : Screen.Extent} (rest : Ends (next screen) screen extent) :
    Ends (get >>= next) screen extent := rest

/-- A pure event that keeps the size keeps the page, too, so what follows it starts from the same extent. -/
theorem Ends.event {change : Screen → Screen} {next : PUnit → Term Unit} {extent : Screen.Extent}
    (same : ∀ screen, (change screen).extent = screen.extent) (calm : screen.position = screen.scrollback)
    (rest : ∀ middle : Screen, middle.extent = screen.extent → middle.position = middle.scrollback →
      Ends (next ⟨⟩) middle extent) : Ends (pureEvent change >>= next) screen extent := by
  have kept : (change screen).showCursor.extent = screen.extent := (Screen.extent_showCursor _).trans (same screen)
  have still : (change screen).showCursor.position = (change screen).showCursor.scrollback :=
    ((congrArg Screen.Extent.position kept).trans calm).trans (congrArg Screen.Extent.scrollback kept).symm
  obtain ⟨final, ended, sized⟩ := rest _ kept still
  exact ⟨final, (bind_ok (pureEvent_calm calm change) next).trans ended, sized⟩

private theorem resize_calm (calm : screen.position = screen.scrollback) {lines columns : Int} (tall : lines ≠ 0)
    (wide : columns ≠ 0) :
    Ends (resize lines columns) screen { screen.extent with lines := lines, columns := columns } := by
  have sized (current : Screen) (alike : current.extent = screen.extent)
      (still : current.position = current.scrollback) :
      Ends (do
        modify fun current => { current with lines := lines, columns := columns }
        pureEvent (·.setMargins 0 none)) current { screen.extent with lines := lines, columns := columns } := by
    let resized : Screen := { current with lines := lines, columns := columns }
    have calmly : resized.position = resized.scrollback := still
    refine ⟨_, pureEvent_calm calmly _, ?_⟩
    exact congrArg (fun extent : Screen.Extent => { extent with lines := lines, columns := columns }) alike
  have narrowed {cut : Screen → Screen} (current : Screen) (alike : current.extent = screen.extent)
      (still : current.position = current.scrollback) (same : ∀ screen, (cut screen).extent = screen.extent) :
      Ends (do
        if columns < screen.columns then
          modify cut
        modify fun current => { current with lines := lines, columns := columns }
        pureEvent (·.setMargins 0 none)) current { screen.extent with lines := lines, columns := columns } := by
    have position := congrArg Screen.Extent.position (same current)
    have scrollback := congrArg Screen.Extent.scrollback (same current)
    dsimp only
    split
    · exact sized (cut current) ((same current).trans alike) ((position.trans still).trans scrollback.symm)
    · exact sized current alike still
  unfold resize
  refine Ends.get ?_
  simp only [beq_iff_eq, tall, wide, if_false]
  split
  next already =>
    rw [Bool.and_eq_true, beq_iff_eq, beq_iff_eq] at already
    refine ⟨screen, rfl, ?_⟩
    rw [already.1, already.2]
    rfl
  next =>
    split
    · refine Ends.event Screen.extent_saveCursor calm fun one first calm => ?_
      refine Ends.event (fun screen => screen.extent_toPosition 0 0) calm fun two second calm => ?_
      refine Ends.event (fun other => other.extent_deleteLines (screen.lines - lines)) calm fun three third calm => ?_
      refine Ends.event Screen.extent_restoreCursor calm fun four fourth calm => ?_
      refine narrowed four (fourth.trans (third.trans (second.trans first))) calm ?_
      exact fun _ => rfl
    · refine narrowed screen rfl calm ?_
      exact fun _ => rfl

end Emulator

namespace Surface

/-- What the fitting of a surface depends on, besides the box. -/
structure Build where
  font : Font
  padding : Int
  minRows : Int
  minColumns : Int
  disposed : Bool
  /-- Whether the last page is shown. -/
  atEnd : Bool

def build (surface : Surface) : Build where
  font := surface.font
  padding := surface.padding
  minRows := surface.minRows
  minColumns := surface.minColumns
  disposed := surface.disposed
  atEnd := surface.screen.position == surface.screen.scrollback

/-- A surface that takes any size that is proposed for it. -/
structure Build.Pliable (build : Build) : Prop where
  rows : 1 ≤ build.minRows
  columns : 1 ≤ build.minColumns
  alive : build.disposed = false
  atEnd : build.atEnd = true

theorem proposed_of_build {one other : Surface} (same : one.build = other.build) (width height : Decimal.Quantity) :
    one.proposed width height = other.proposed width height := by
  have font : one.font = other.font := congrArg Build.font same
  have padding : one.padding = other.padding := congrArg Build.padding same
  have rows : one.minRows = other.minRows := congrArg Build.minRows same
  have columns : one.minColumns = other.minColumns := congrArg Build.minColumns same
  simp only [proposed, font, padding, rows, columns]

variable {surface : Surface} {width height : Decimal.Quantity} {size : Geometry}

private theorem proposed_cases (room : surface.proposed width height = .ok (some size)) : ∃ rows columns : Int,
    (height.minus surface.padding).isPositive = true ∧ (width.minus surface.padding).isPositive = true ∧
      (height.minus surface.padding).floorDiv surface.font.cellHeight = .ok rows ∧
      (width.minus surface.padding).floorDiv surface.font.cellWidth = .ok columns ∧
      size = ⟨max surface.minRows rows, max surface.minColumns columns⟩ := by
  simp only [proposed] at room
  split at room
  next positive =>
    rw [Bool.and_eq_true] at positive
    cases across : (width.minus surface.padding).floorDiv surface.font.cellWidth with
    | error failure => rw [across] at room; cases room
    | ok columns =>
      cases down : (height.minus surface.padding).floorDiv surface.font.cellHeight with
      | error failure => rw [across, down] at room; cases room
      | ok rows =>
        rw [across, down] at room
        cases room
        exact ⟨rows, columns, positive.2, positive.1, rfl, rfl, rfl⟩
  next => cases room

theorem fit_proposed (pliable : surface.build.Pliable) (room : surface.proposed width height = .ok (some size)) :
    ∃ final, fit width height surface = .ok (some size) final ∧ final.geometry = size ∧ final.build = surface.build := by
  have alive : surface.disposed = false := pliable.alive
  have resized : ∃ final, resize size surface = .ok () final ∧ final.geometry = size ∧ final.build = surface.build := by
    unfold resize
    rw [get_bind]
    by_cases already : size = surface.geometry
    · simp only [alive, already, bne_self_eq_false, Bool.and_false, Bool.false_eq_true, if_false]
      exact ⟨surface, rfl, rfl, rfl⟩
    · obtain ⟨rows, columns, -, -, -, -, rfl⟩ := proposed_cases room
      have tall : max surface.minRows rows ≠ 0 := by
        have least : 1 ≤ surface.minRows := pliable.rows
        omega
      have wide : max surface.minColumns columns ≠ 0 := by
        have least : 1 ≤ surface.minColumns := pliable.columns
        omega
      obtain ⟨screen, taken, extent⟩ := Emulator.resize_calm (beq_iff_eq.mp pliable.atEnd) tall wide
      have changed : (max surface.minRows rows, max surface.minColumns columns) =
          ((screen.extent.lines, screen.extent.columns) : Int × Int) := by rw [extent]
      simp only [alive, bne_iff_ne, ne_eq, already, not_false_eq_true, Bool.not_false, Bool.true_and, if_true]
      refine ⟨{ surface with terminal := { surface.terminal with screen := screen }, dirty := true }, ?_, ?_, ?_⟩
      · have onScreen : onScreen (Emulator.resize (max surface.minRows rows) (max surface.minColumns columns)) surface =
            .ok () { surface with terminal := { surface.terminal with screen := screen } } := by
          simp only [Surface.onScreen, show surface.terminal.screen = surface.screen from rfl, taken]
        rw [bind_ok onScreen]
        rfl
      · have rows := congrArg Prod.fst changed
        have columns := congrArg Prod.snd changed
        simp only [geometry, Geometry.mk.injEq]
        exact ⟨rows.symm, columns.symm⟩
      · have position : screen.position = surface.screen.position := congrArg Emulator.Screen.Extent.position extent
        have scrollback : screen.scrollback = surface.screen.scrollback :=
          congrArg Emulator.Screen.Extent.scrollback extent
        simp only [build, Surface.screen, position, scrollback]
  obtain ⟨final, resized, geometry, build⟩ := resized
  refine ⟨final, ?_, geometry, build⟩
  unfold fit
  rw [get_bind]
  simp only [room, alive, Bool.false_eq_true, if_false]
  rw [bind_ok resized]
  rfl

theorem fit_crowded (crowded : surface.proposed width height = .ok none) :
    fit width height surface = .ok none surface := by
  unfold fit
  rw [get_bind]
  simp only [crowded]
  rfl

theorem fit_failing {failure : Failure} (failing : surface.proposed width height = .error failure) :
    fit width height surface = .error failure surface := by
  unfold fit
  rw [get_bind]
  simp only [failing]
  rfl

/-- So many cells go into the room, and not one more. -/
def Fills (room cell count : Int) : Prop :=
  count * cell ≤ room ∧ room < (count + 1) * cell

private theorem floorDiv_fills {room cell count : Int} (small : room.natAbs < Nat.pow 2 52) (positive : 1 ≤ cell)
    (divided : Decimal.Quantity.floorDiv (.whole room) (.whole cell) = .ok count) : Fills room cell count := by
  have different : cell ≠ 0 := by omega
  simp only [Decimal.Quantity.floorDiv, beq_iff_eq, different, if_false, Decimal.Quantity.floorQuotient] at divided
  rw [if_pos (by simpa using small)] at divided
  cases divided
  rw [Fills, Int.fdiv_eq_ediv_of_nonneg _ (by omega)]
  have below := Int.ediv_mul_le room different
  have above := Int.lt_ediv_add_one_mul_self room (show 0 < cell by omega)
  exact ⟨below, above⟩

/-- The grid is the largest one whose cells go into the box without the padding, but no smaller than the least. -/
structure Snug (surface : Surface) (box : Int × Int) (cellWidth cellHeight : Int) (size : Geometry) : Prop where
  rows : ∃ rows, Fills (box.2 - surface.padding) cellHeight rows ∧ size.rows = max surface.minRows rows
  columns : ∃ columns, Fills (box.1 - surface.padding) cellWidth columns ∧ size.columns = max surface.minColumns columns

theorem proposed_snug {box : Int × Int} {cellWidth cellHeight : Int} (width : surface.font.cellWidth = .whole cellWidth)
    (height : surface.font.cellHeight = .whole cellHeight) (wide : 1 ≤ cellWidth) (tall : 1 ≤ cellHeight)
    (narrow : (box.1 - surface.padding).natAbs < Nat.pow 2 52) (low : (box.2 - surface.padding).natAbs < Nat.pow 2 52)
    (room : surface.proposed (.whole box.1) (.whole box.2) = .ok (some size)) :
    surface.Snug box cellWidth cellHeight size := by
  obtain ⟨rows, columns, -, -, down, across, rfl⟩ := proposed_cases room
  rw [height] at down
  rw [width] at across
  exact ⟨⟨rows, floorDiv_fills low tall down, rfl⟩, ⟨columns, floorDiv_fills narrow wide across, rfl⟩⟩

end Surface

end TerminalDock
