import TerminalDock.Emulator.Display
import TerminalDock.Proofs.ScreenCourses
import TerminalDock.Proofs.SurfaceFrames
import TerminalDock.Proofs.TableLaws
import TerminalDock.Surface.Request

/-! What the cells of a screen hold. A cell is written with one character or with none, and whatever comes to it later is
put over what it holds. So in every cell of a screen, whatever was done to it, no character but the first is a blank or
one of ASCII. -/

namespace TerminalDock
open Proofs.Steps

/-- A character that may be put over the one before it: neither a blank nor one of ASCII. -/
def Text.Covering (c : Char) : Prop :=
  128 ≤ c.toNat ∧ isBlank c = false

instance (c : Char) : Decidable (Text.Covering c) :=
  inferInstanceAs (Decidable (_ ∧ _))

theorem Text.covering_of_accent {c : Char} (accent : isAccent c = true) : Covering c := by
  simp only [isAccent, Bool.and_eq_true, decide_eq_true_eq] at accent
  have unblank : isBlank c = false := by
    simp only [isBlank, Bool.or_eq_false_iff, Bool.and_eq_false_imp, decide_eq_true_eq, decide_eq_false_iff_not,
      beq_eq_false_iff_ne]
    omega
  exact ⟨by omega, unblank⟩

theorem Text.accent_cases (text : List Char) (mark : Char) : accent text mark = text ++ [mark] ∨
    ∃ before letter code, text = before ++ [letter] ∧ (letter.toNat, code) ∈ accentTable mark ∧
      accent text mark = before ++ [Char.ofNat code] := by
  rcases List.eq_nil_or_concat text with rfl | ⟨before, letter, rfl⟩
  · exact .inl rfl
  · cases known : (accentTable mark).lookup letter.toNat with
    | none => exact .inl (by simp [accent, known])
    | some code =>
      obtain ⟨front, back, listed, -⟩ := List.lookup_eq_some_iff.mp known
      exact .inr ⟨before, letter, code, List.concat_eq_append, by simp [listed], by simp [accent, known]⟩

namespace Emulator

namespace Cell

/-- What a cell can hold: nothing, or a character and those that are put over it. -/
def Storable (cell : Cell) : Prop :=
  ∀ c ∈ cell.data.tail, Text.Covering c

instance (cell : Cell) : Decidable cell.Storable :=
  List.decidableBAll Text.Covering cell.data.tail

private theorem storable_nothing (style : Cell) : { style with data := [] }.Storable := fun _ member => nomatch member

private theorem storable_single (style : Cell) (c : Char) : { style with data := [c] }.Storable :=
    fun _ member => nomatch member

/-- A cell to which an accent was put is one that cells can be: the accent covers its character, or makes one with it. -/
theorem storable_accent {cell : Cell} (storable : cell.Storable) {mark : Char} (accent : Text.isAccent mark = true) :
    { cell with data := Text.accent cell.data mark }.Storable := by
  have composed : ∀ entry ∈ Text.accentTable mark, Text.Covering (Char.ofNat entry.2) := by
    unfold Text.accentTable
    split <;> decide +kernel
  have last {text : List Char} {c other : Char} (member : c ∈ (text ++ [other]).tail) : c ∈ text.tail ∨ c = other := by
    cases text with
    | nil => simp at member
    | cons => simpa using member
  intro c member
  rcases Text.accent_cases cell.data mark with apart | ⟨before, letter, code, shape, entry, joined⟩
  · rw [apart] at member
    rcases last member with old | rfl
    · exact storable c old
    · exact Text.covering_of_accent accent
  · rw [joined] at member
    rcases last member with old | rfl
    · have inside : c ∈ cell.data.tail := by
        rw [shape, List.tail_append_of_ne_nil (List.ne_nil_of_mem (List.mem_of_mem_tail old))]
        exact List.mem_append_left _ old
      exact storable c inside
    · exact composed _ entry

end Cell

namespace Line

structure Storable (line : Line) : Prop where
  blank : line.blank.Storable
  cells : ∀ cell ∈ line.cells.values, cell.Storable

namespace Storable

theorem of_blank {blank : Cell} (fits : blank.Storable) : Storable { blank := blank } :=
  ⟨fits, fun _ member => nomatch member⟩

variable {line : Line} (storable : line.Storable)
include storable

theorem cell (x : Int) : (line.cell x).Storable := by
  unfold Line.cell
  cases found : line.cells.find? x with
  | none => exact storable.blank
  | some cell => exact storable.cells cell (Assoc.mem_values_of_find? found)

theorem put {cell : Cell} (fits : cell.Storable) (x : Int) : (line.put x cell).Storable where
  blank := storable.blank
  cells other member := (Assoc.mem_values_put member).elim (fun same => same ▸ fits) (storable.cells other)

private theorem of_sublist {cells : Assoc Int Cell} (fewer : cells.Sublist line.cells) :
    { line with cells := cells }.Storable where
  blank := storable.blank
  cells cell member := storable.cells cell ((fewer.map Prod.snd).subset member)

theorem drop (x : Int) : (line.drop x).Storable :=
  storable.of_sublist (Assoc.remove_sublist x line.cells)

theorem mapCells (change : Cell → Cell) (fits : ∀ cell : Cell, cell.Storable → (change cell).Storable) :
    (line.mapCells change).Storable where
  blank := storable.blank
  cells := by
    intro cell member
    rw [Line.mapCells, Assoc.values_map] at member
    obtain ⟨old, inside, rfl⟩ := List.mem_map.mp member
    exact fits old (storable.cells old inside)

theorem foldl {change : Line → Int → Line} (kept : ∀ line : Line, line.Storable → ∀ x, (change line x).Storable)
    (columns : List Int) : (columns.foldl change line).Storable :=
  List.foldlRecOn columns change storable fun line storable x _ => kept line storable x

end Storable

private theorem storable_of_extract {lines : Array Line} (fits : ∀ line ∈ lines, line.Storable) (start stop : Nat) :
    ∀ line ∈ lines.extract start stop, line.Storable := by
  intro line member
  obtain ⟨place, inside, rfl⟩ := Array.mem_extract_iff_getElem.mp member
  exact fits _ (Array.getElem_mem _)

end Line

private theorem storable_applyCode {blank style : Cell} (blankFits : blank.Storable) (fits : style.Storable) (code : Nat) :
    (applyCode blank style code).Storable := by
  unfold applyCode
  repeat' split
  all_goals first | exact blankFits | exact fits

/-- No numbers put anything into a style that it does not hold already, or the blank. -/
theorem storable_applyCodes {blank style : Cell} (blankFits : blank.Storable) (fits : style.Storable) (codes : List Nat) :
    (applyCodes blank style codes).Storable := by
  have colored {style : Cell} (fits : style.Storable) (recolor : String → Cell)
      (same : ∀ color, (recolor color).data = style.data) (color : Option String) : (color.elim style recolor).Storable := by
    cases color with
    | none => exact fits
    | some color => exact fun c member => fits c (same color ▸ member)
  fun_induction applyCodes blank style codes with
  | case1 => exact fits
  | case2 style _ rest _ ih => exact ih (colored fits ({ style with fg := · }) (fun _ => rfl) _)
  | case3 style _ rest _ _ ih => exact ih (colored fits ({ style with bg := · }) (fun _ => rfl) _)
  | case4 style code rest _ _ ih => exact ih (storable_applyCode blankFits fits code)

namespace Screen

/-- Every cell can be stored that is on the screen, above it or below it, and everything fits that is written next. -/
structure Storable (screen : Screen) : Prop where
  rows : ∀ line ∈ screen.buffer.values, line.Storable
  above : ∀ line ∈ screen.above, line.Storable
  below : ∀ line ∈ screen.below, line.Storable
  style : screen.cursor.style.Storable
  saved : ∀ savepoint ∈ screen.savepoints, savepoint.cursor.style.Storable

private theorem storable_blank (screen : Screen) : screen.blank.Storable :=
  Cell.storable_single screen.blank ' '

namespace Storable

private theorem of_stock {first last : Screen} (storable : first.Storable) (same : last.stock = first.stock) :
    last.Storable := by
  have buffer : last.buffer = first.buffer := congrArg Stock.buffer same
  have above : last.above = first.above := congrArg Stock.above same
  have below : last.below = first.below := congrArg Stock.below same
  have style : last.cursor.style = first.cursor.style := congrArg Stock.style same
  have saved : last.savepoints = first.savepoints := congrArg Stock.savepoints same
  exact ⟨buffer ▸ storable.rows, above ▸ storable.above, below ▸ storable.below, style ▸ storable.style,
    saved ▸ storable.saved⟩

variable {screen : Screen} (storable : screen.Storable)
include storable

theorem foldl {α : Type} {change : Screen → α → Screen} {items : List α}
    (kept : ∀ screen : Screen, screen.Storable → ∀ item ∈ items, (change screen item).Storable) :
    (items.foldl change screen).Storable :=
  List.foldlRecOn items change storable kept

theorem setX (x : Int) : (screen.setX x).Storable := storable.of_stock rfl

private theorem setCursor {cursor : Cursor} (fits : cursor.style.Storable) : { screen with cursor := cursor }.Storable :=
  { storable with style := fits }

theorem row (y : Int) : (screen.row y).Storable := by
  unfold Screen.row
  cases found : screen.buffer.find? y with
  | none => exact .of_blank screen.storable_blank
  | some line => exact storable.rows line (Assoc.mem_values_of_find? found)

theorem putRow {line : Line} (fits : line.Storable) (y : Int) : (screen.putRow y line).Storable :=
  { storable with
    rows := fun other member => (Assoc.mem_values_put member).elim (fun same => same ▸ fits) (storable.rows other) }

theorem dropRow (y : Int) : (screen.dropRow y).Storable :=
  { storable with
    rows := fun line member => storable.rows line (((Assoc.remove_sublist y screen.buffer).map Prod.snd).subset member) }

theorem changeRow {change : Line → Line} (fits : ∀ line : Line, line.Storable → (change line).Storable) (y : Int) :
    (screen.changeRow y change).Storable :=
  storable.putRow (fits _ (storable.row y)) y

private theorem mapRows (change : Line → Line) (fits : ∀ line : Line, line.Storable → (change line).Storable) :
    { screen with buffer := screen.buffer.map fun (y, line) => (y, change line) }.Storable := by
  refine { storable with rows := fun line member => ?_ }
  rw [Assoc.values_map] at member
  obtain ⟨old, inside, rfl⟩ := List.mem_map.mp member
  exact fits old (storable.rows old inside)

theorem touch (y : Int) : (screen.touch y).Storable := by
  unfold Screen.touch
  split
  · exact storable
  · exact storable.putRow (.of_blank screen.storable_blank) y

theorem keepAbove {line : Line} (fits : line.Storable) : (screen.keepAbove line).Storable := by
  have pushed : ∀ other ∈ screen.above.push line, other.Storable := fun other member =>
    (Array.mem_push.mp member).elim (storable.above other) fun new => new ▸ fits
  refine { storable with above := ?_ }
  dsimp only [Screen.keepAbove]
  split
  · exact Line.storable_of_extract pushed _ _
  · exact pushed

theorem keepBelow {line : Line} (fits : line.Storable) : (screen.keepBelow line).Storable := by
  have added : ∀ other ∈ screen.below ++ [line], other.Storable := fun other member =>
    (List.mem_append.mp member).elim (storable.below other) fun new => List.mem_singleton.mp new ▸ fits
  refine { storable with below := ?_ }
  dsimp only [Screen.keepBelow]
  split
  · exact fun other member => added other (List.mem_of_mem_drop member)
  · exact added

theorem index : screen.index.Storable := by
  unfold Screen.index
  dsimp only
  split
  · have kept := (storable.touch screen.region.top).keepAbove (storable.row screen.region.top)
    refine (kept.foldl fun screen storable y _ => ?_).dropRow _
    exact (storable.touch (y + 1)).putRow ((storable.touch (y + 1)).row (y + 1)) y
  · exact storable.of_stock rfl

theorem reverseIndex : screen.reverseIndex.Storable := by
  unfold Screen.reverseIndex
  dsimp only
  split
  · have kept := (storable.touch screen.region.bottom).keepBelow (storable.row screen.region.bottom)
    refine (kept.foldl fun screen storable y _ => ?_).dropRow _
    exact (storable.touch y).putRow ((storable.touch y).row y) (y + 1)
  · exact storable.of_stock rfl

theorem insertCharacters (count : Int) : (screen.insertCharacters count).Storable := by
  refine storable.changeRow (fun _ storable => storable.foldl (fun line storable x => ?_) _) _
  dsimp only
  split
  · exact (storable.put (storable.cell x) (x + count)).drop x
  · exact storable.drop x

theorem deleteCharacters (count : Int) : (screen.deleteCharacters count).Storable := by
  refine storable.changeRow (fun _ storable => storable.foldl (fun line storable x => ?_) _) _
  split
  · refine (storable.drop (x + count)).put ?_ x
    cases found : line.cells.find? (x + count) with
    | none => exact screen.storable_blank
    | some cell => exact storable.cells cell (Assoc.mem_values_of_find? found)
  · exact storable.drop x

theorem fillRow (y : Int) (columns : List Int) : (screen.fillRow y columns).Storable :=
  storable.changeRow (fun _ filled => filled.foldl (fun _ filled x => filled.put storable.style x) columns) y

theorem insertLines (count : Int) : (screen.insertLines count).Storable := by
  unfold Screen.insertLines
  dsimp only
  split
  · refine (storable.foldl fun screen storable y _ => ?_).setX 0
    split
    next line found =>
      split
      · exact (storable.putRow (storable.rows line (Assoc.mem_values_of_find? found)) (y + count)).dropRow y
      · exact storable.dropRow y
    next => exact storable.dropRow y
  · exact storable

theorem deleteLines (count : Int) : (screen.deleteLines count).Storable := by
  unfold Screen.deleteLines
  dsimp only
  split
  · refine (storable.foldl fun screen storable y _ => ?_).setX 0
    split
    · split
      next line found =>
        exact (storable.dropRow (y + count)).putRow (storable.rows line (Assoc.mem_values_of_find? found)) y
      next => exact storable
    · exact storable.dropRow y
  · exact storable

theorem addAccent {mark : Char} (accent : Text.isAccent mark = true) (x y : Int) :
    (screen.addAccent x y mark).Storable :=
  storable.changeRow (fun _ storable => storable.put (Cell.storable_accent (storable.cell x) accent) x) y

theorem lineFeed : screen.lineFeed.Storable := by
  unfold Screen.lineFeed
  dsimp only
  split
  · exact storable.index.setX 0
  · exact storable.index

theorem wrapBefore (width : Option Nat) : (screen.wrapBefore width).Storable := by
  unfold Screen.wrapBefore
  split
  · split
    · exact (storable.setX 0).lineFeed
    · exact storable.setX _
  · exact storable

theorem drawChar (c : Char) : (screen.drawChar c).1.Storable := by
  unfold Screen.drawChar
  dsimp only
  generalize Text.cellWidth? c = width
  have wrapped := storable.wrapBefore width
  generalize screen.wrapBefore width = screen at wrapped
  split
  · have touched := wrapped.touch screen.cursor.y
    split
    · exact touched
    next accent =>
      have accent : Text.isAccent c = true := by simpa using accent
      split
      · exact touched.addAccent accent _ _
      · split
        · exact touched.addAccent accent _ _
        · exact touched
  next width _ =>
    have room : (if screen.hasMode insertMode then screen.insertCharacters width else screen).Storable := by
      split
      · exact wrapped.insertCharacters width
      · exact wrapped
    generalize (if screen.hasMode insertMode then screen.insertCharacters width else screen) = screen at room
    refine (room.changeRow (fun line storable => ?_) screen.cursor.y).setX _
    have drawn := storable.put (Cell.storable_single screen.cursor.style c) screen.cursor.x
    split
    · exact drawn.put (Cell.storable_nothing screen.cursor.style) _
    · exact drawn
  · exact wrapped.touch _

theorem alignmentPattern : screen.alignmentPattern.Storable := by
  have filled (screen : Screen) (storable : screen.Storable) (y : Int) : (screen.changeRow y fun line =>
      (span 0 screen.columns).foldl (fun line x => line.put x { line.cell x with data := ['E'] }) line).Storable :=
    storable.changeRow (fun _ storable => storable.foldl
      (fun line storable x => storable.put (Cell.storable_single (line.cell x) 'E') x) _) y
  exact storable.foldl fun screen storable y _ => filled screen storable y

theorem eraseRows (rows : List Int) : (screen.eraseRows rows).Storable :=
  storable.foldl fun _ other y _ => other.changeRow (fun _ line => line.mapCells _ fun _ _ => storable.style) y

theorem reverseCells (reverse : Bool) : (screen.reverseCells reverse).Storable := by
  refine storable.mapRows (fun line => { line.mapCells ({ · with reverse := reverse }) with blank := screen.blank }) ?_
  intro line fits
  exact ⟨screen.storable_blank, (fits.mapCells ({ · with reverse := reverse }) fun _ cell => cell).cells⟩

theorem chooseStyle (codes : List Nat) : (screen.chooseStyle codes).Storable := by
  refine { storable with style := ?_ }
  dsimp only [Screen.chooseStyle]
  split
  · exact screen.storable_blank
  · exact storable_applyCodes screen.storable_blank storable.style codes

theorem saveCursor : screen.saveCursor.Storable := by
  refine { storable with saved := fun savepoint member => ?_ }
  rcases List.mem_cons.mp member with rfl | old
  · exact storable.style
  · exact storable.saved savepoint old

theorem restoreCursor : screen.restoreCursor.Storable := by
  unfold Screen.restoreCursor
  split
  next saved rest kept =>
    have moded {screen : Screen} (storable : screen.Storable) (saved : Bool) (mode : Nat) :
        (if saved then screen.addMode mode else screen).Storable := by
      split
      · exact storable.of_stock (screen.stock_addMode mode)
      · exact storable
    have others : ∀ savepoint ∈ rest, savepoint.cursor.style.Storable := fun savepoint member =>
      storable.saved savepoint (kept ▸ List.mem_cons_of_mem saved member)
    have base : ({ screen with savepoints := rest, first := saved.first, second := saved.second, shifted := saved.shifted } :
        Screen).Storable := { storable with saved := others }
    have last := storable.saved saved (kept ▸ List.mem_cons_self)
    exact of_stock ((moded (moded base saved.origin originMode) saved.wrap wrapMode).setCursor last) rfl
  next => exact of_stock storable ((stock_toPosition _ 0 0).trans rfl)

theorem reset : screen.reset.Storable where
  rows := nofun
  above := nofun
  below := nofun
  style := Cell.storable_single {} ' '
  saved := storable.saved

/-! Turning a page moves lines between the screen and what is kept above it and below it. -/

theorem takeRows (rows : List Int) : (screen.takeRows rows).1.Storable ∧
    ∀ line ∈ (screen.takeRows rows).2, line.Storable := by
  have touched : (rows.foldl Screen.touch screen).Storable := storable.foldl fun _ storable y _ => storable.touch y
  refine ⟨touched, fun line member => ?_⟩
  obtain ⟨y, -, rfl⟩ := List.mem_map.mp member
  exact touched.row y

theorem copyRows (pairs : List (Int × Int)) : (screen.copyRows pairs).Storable := by
  refine storable.foldl fun screen storable pair _ => ?_
  have touched := storable.touch pair.2
  exact touched.putRow (touched.row pair.2) pair.1

private theorem putRows {rows : List (Int × Line)} (fits : ∀ row ∈ rows, row.2.Storable) :
    (rows.foldl (fun screen (y, line) => screen.putRow y line) screen).Storable :=
  storable.foldl fun _ storable row member => storable.putRow (fits row member) row.1

theorem keep {above : Array Line} {below : List Line} (aboveFits : ∀ line ∈ above, line.Storable)
    (belowFits : ∀ line ∈ below, line.Storable) (position : Nat) :
    { screen with above := above, below := below, position := position }.Storable :=
  { storable with above := aboveFits, below := belowFits }

theorem pageUp : screen.pageUp.Storable := by
  unfold Screen.pageUp
  split
  · dsimp only
    generalize min screen.above.size screen.halfPage = size
    obtain ⟨taken, leaving⟩ := storable.takeRows (span (screen.lines - size) screen.lines)
    generalize screen.takeRows (span (screen.lines - size) screen.lines) = parts at taken leaving ⊢
    obtain ⟨screen, lines⟩ := parts
    have below : ∀ line ∈ (lines ++ screen.below).take screen.scrollback, line.Storable := fun line member =>
      (List.mem_append.mp (List.mem_of_mem_take member)).elim (leaving line) (taken.below line)
    have copied := (taken.keep taken.above below (screen.position - size)).copyRows
      ((span size screen.lines).reverse.map fun y => (y, y - size))
    dsimp only
    generalize Screen.copyRows _ _ = screen at copied ⊢
    have back : ∀ line ∈ screen.above.extract (screen.above.size - size) screen.above.size, line.Storable :=
      Line.storable_of_extract copied.above _ _
    have entering : ∀ row ∈ ((span 0 size).zip
        (screen.above.extract (screen.above.size - size) screen.above.size).toList).reverse, row.2.Storable :=
      fun row member => back row.2 (Array.mem_toList_iff.mp (List.of_mem_zip (List.mem_reverse.mp member)).2)
    have entered := copied.putRows entering
    exact entered.keep (Line.storable_of_extract entered.above _ _) entered.below _
  · exact storable

theorem pageDown : screen.pageDown.Storable := by
  unfold Screen.pageDown
  split
  · dsimp only
    generalize min screen.below.length screen.halfPage = size
    obtain ⟨taken, leaving⟩ := storable.takeRows (span 0 size)
    generalize screen.takeRows (span 0 size) = parts at taken leaving ⊢
    obtain ⟨screen, lines⟩ := parts
    have above : ∀ line ∈ screen.above ++ lines.toArray, line.Storable := fun line member =>
      (Array.mem_append.mp member).elim (taken.above line) fun new => leaving line (List.mem_toArray.mp new)
    have latest := Line.storable_of_extract above ((screen.above ++ lines.toArray).size - screen.scrollback)
      (screen.above ++ lines.toArray).size
    have copied := (taken.keep latest taken.below (screen.position + size)).copyRows
      ((span 0 (screen.lines - size)).map fun y => (y, y + size))
    dsimp only
    generalize Screen.copyRows _ _ = screen at copied ⊢
    have entering : ∀ row ∈ (span (screen.lines - size) screen.lines).zip screen.below, row.2.Storable :=
      fun row member => copied.below row.2 (List.of_mem_zip member).2
    have entered := copied.putRows entering
    exact entered.keep entered.above (fun line member => entered.below line (List.mem_of_mem_drop member)) _
  · exact storable

theorem afterPage {act : Term Unit} {page : Screen} (turned : act page = screen.afterPage) : (after act page).Storable := by
  unfold after
  rw [turned, Screen.afterPage]
  cases screen.strayCell? with
  | none => exact storable.of_stock rfl
  | some place => exact storable.changeRow (fun _ fits => fits.drop place.2) place.1

theorem prevPage : (after prevPage screen).Storable :=
  storable.pageUp.afterPage rfl

theorem nextPage : (after nextPage screen).Storable :=
  storable.pageDown.afterPage rfl

omit storable in
theorem change {first last : Screen} (change : Change first last) (storable : first.Storable) : last.Storable := by
  cases change with
  | still same => exact storable.of_stock same
  | touch y => exact storable.touch y
  | fillRow y columns => exact storable.fillRow y columns
  | eraseRows rows => exact storable.eraseRows rows
  | forget => exact storable.keep (by simp) (by simp) _
  | cut kept => exact storable.mapRows _ fun line fits => fits.of_sublist List.filter_sublist
  | insertCharacters count => exact storable.insertCharacters count
  | deleteCharacters count => exact storable.deleteCharacters count
  | insertLines count => exact storable.insertLines count
  | deleteLines count => exact storable.deleteLines count
  | index => exact storable.index
  | reverseIndex => exact storable.reverseIndex
  | drawChar c => exact storable.drawChar c
  | alignmentPattern => exact storable.alignmentPattern
  | reverseCells reverse => exact storable.reverseCells reverse
  | chooseStyle codes => exact storable.chooseStyle codes
  | saveCursor => exact storable.saveCursor
  | restoreCursor => exact storable.restoreCursor
  | reset => exact storable.reset
  | turn => exact storable.nextPage

theorem firstCells (y : Int) (columns : Nat) : ∀ cell ∈ (screen.row y).firstCells columns, cell.Storable := by
  intro cell member
  obtain ⟨x, -, rfl⟩ := List.mem_map.mp member
  exact (storable.row y).cell x

end Storable

private theorem showRows_storable (rows : List Int) {screen : Screen} (storable : screen.Storable) :
    (after (fun screen => screen.showRows rows : Term (List (List Char))) screen).Storable := by
  induction rows generalizing screen with
  | nil => exact storable
  | cons y rest ih =>
    have touched := storable.touch y
    have later := ih touched
    simp only [after, showRows] at later ⊢
    cases Line.show? false (((screen.touch y).row y).firstCells (screen.touch y).columns.toNat) with
    | none => exact touched
    | some text =>
      cases seen : (screen.touch y).showRows rest with
      | ok texts last => rw [seen] at later; exact later
      | error fault last => rw [seen] at later; exact later

end Screen

private theorem textLines_storable {screen : Screen} (storable : screen.Storable) : (after textLines screen).Storable := by
  have shown := screen.showRows_storable screen.rowNumbers storable
  simp only [after, textLines] at shown ⊢
  cases seen : screen.showRows screen.rowNumbers with
  | ok texts last => rw [seen] at shown; exact shown
  | error fault last => rw [seen] at shown; exact shown

private theorem resize_storable (lines columns : Int) {screen : Screen} (storable : screen.Storable) :
    (after (resize lines columns) screen).Storable :=
  (resize_sends lines columns screen).lasts Screen.Storable.change storable

theorem Terminal.create_storable (lines columns : Int) (scrollback : Nat) :
    (create lines columns scrollback).screen.Storable := by
  have empty : ({ lines := lines, columns := columns, scrollback := scrollback } : Screen).Storable :=
    ⟨by simp [Assoc.values], by simp, by simp, Cell.storable_single {} ' ', by simp⟩
  exact empty.reset

theorem Terminal.write_storable (bytes : List UInt8) {terminal : Terminal} (storable : terminal.screen.Storable) :
    (after (write bytes) terminal).screen.Storable :=
  (write_sends bytes terminal).lasts Screen.Storable.change storable

end Emulator

namespace Surface

/-- A step that puts into no cell what it cannot hold. -/
abbrev Keeps {α : Type} (act : SurfaceStep α) : Prop :=
  Moves (fun first last : Surface => first.screen.Storable → last.screen.Storable) act

namespace Keeps
variable {α β : Type}

theorem bind {act : SurfaceStep α} {next : α → SurfaceStep β} (first : Keeps act) (rest : ∀ value, Keeps (next value)) :
    Keeps (act >>= next) :=
  Moves.bind (fun before later storable => later (before storable)) first rest

theorem onTerminal {act : EStateM FaultKind Emulator.Terminal α}
    (kept : ∀ terminal : Emulator.Terminal, terminal.screen.Storable → (after act terminal).screen.Storable) :
    Keeps (onTerminal act) := by
  intro surface storable
  rw [after_onTerminal]
  exact kept surface.terminal storable

theorem onScreen {act : Emulator.Term α} (kept : ∀ screen : Emulator.Screen, screen.Storable → (after act screen).Storable) :
    Keeps (onScreen act) := by
  intro surface storable
  rw [after_onScreen]
  exact kept surface.screen storable

end Keeps

theorem write_keeps (bytes : List UInt8) : Keeps (write bytes) := by
  have noted : Keeps (modify fun surface => { surface with written := surface.written ++ [bytes] }) := fun _ => id
  have taken : Keeps (do onTerminal (Emulator.Terminal.write bytes); touch) :=
    (Keeps.onTerminal fun _ => Emulator.Terminal.write_storable bytes).bind fun _ _ => id
  refine noted.bind fun _ => Moves.get_bind fun surface => ?_
  split
  · exact id
  · exact taken surface

private theorem resize_keeps (size : Geometry) : Keeps (resize size) := by
  have resized : Keeps (do onScreen (Emulator.resize size.rows size.columns); touch) :=
    (Keeps.onScreen fun _ => Emulator.resize_storable _ _).bind fun _ _ => id
  refine Moves.get_bind fun surface => ?_
  split
  · exact resized surface
  · exact id

private theorem fit_keeps (width height : Decimal.Quantity) : Keeps (fit width height) := by
  refine Moves.get_bind fun surface => ?_
  split
  · exact id
  · exact id
  · split
    · exact id
    · exact (resize_keeps _).bind (fun _ _ => id) surface

private theorem scroll_keeps (pages : Int) : Keeps (scroll pages) := by
  have turned (page : Emulator.Term Unit) (kept : ∀ screen : Emulator.Screen, screen.Storable → (after page screen).Storable)
      (count : Nat) : Keeps (turnPages page count) := by
    induction count with
    | zero => exact fun _ => id
    | succ count ih => exact (Keeps.onScreen kept).bind fun _ => ih
  refine Keeps.bind ?_ fun _ _ => id
  split
  · exact turned _ (fun _ storable => storable.prevPage) _
  · exact turned _ (fun _ storable => storable.nextPage) _

private theorem lines_keeps : Keeps lines :=
  .onScreen fun _ => Emulator.textLines_storable

private theorem links_keeps : Keeps links :=
  .onScreen fun _ storable => storable.foldl fun _ storable y _ => storable.touch y

private theorem runsOfRow_keeps (row : Int) : Keeps (onScreen (Emulator.runsOfRow row)) :=
  .onScreen fun _ storable => storable.touch row

end Surface

theorem SurfaceFactory.makeSized_storable (factory : SurfaceFactory) (size : Geometry) :
    (factory.makeSized size).screen.Storable :=
  Emulator.Terminal.create_storable size.rows size.columns factory.scrollback

namespace SurfaceBench

private theorem run_storable {α : Type} {bench : SurfaceBench} {act : SurfaceStep α} (keeps : Surface.Keeps act)
    (answer : α → SurfaceAnswer) (storable : bench.surface.screen.Storable) :
    (bench.run act answer).2.surface.screen.Storable := by
  have same : (bench.run act answer).2.surface = after act bench.surface := by
    unfold run after
    cases act bench.surface <;> rfl
  rw [same]
  exact keeps bench.surface storable

private theorem screen_unlisten (bench : SurfaceBench) (registration : Nat) :
    (bench.unlisten registration).surface.screen = bench.surface.screen := by
  unfold unlisten
  split <;> rfl

private theorem screen_tell (bytes : List UInt8) (bench : SurfaceBench) (listener : Nat) :
    (tell bytes bench listener).surface.screen = bench.surface.screen := by
  unfold tell
  split
  · rfl
  next name ends _ =>
    have kept (first : SurfaceBench) : (ends.foldl unlisten first).surface.screen = first.surface.screen :=
      List.foldlRecOn ends unlisten (motive := fun last => last.surface.screen = first.surface.screen) rfl
        fun last same registration _ => (last.screen_unlisten registration).trans same
    exact kept _

private theorem perform_storable {bench : SurfaceBench} (storable : bench.surface.screen.Storable)
    (request : SurfaceRequest) :
    (bench.perform request).2.surface.screen.Storable := by
  cases request with
  | write bytes => exact run_storable (Surface.write_keeps bytes) _ storable
  | fit width height => exact run_storable (Surface.fit_keeps width height) _ storable
  | resize size => exact run_storable (Surface.resize_keeps size) _ storable
  | scroll pages => exact run_storable (Surface.scroll_keeps pages) _ storable
  | lines => exact run_storable Surface.lines_keeps _ storable
  | links => exact run_storable Surface.links_keeps _ storable
  | cells row => exact run_storable (Surface.runsOfRow_keeps row) _ storable
  | type bytes =>
    refine List.foldlRecOn bench.surface.inputListeners (tell bytes) (motive := (·.surface.screen.Storable)) storable ?_
    exact fun bench storable listener _ => screen_tell bytes bench listener ▸ storable
  | unlisten registration => exact screen_unlisten bench registration ▸ storable
  | listen name ends again =>
    unfold perform
    dsimp only
    split <;> exact storable
  | propose | focus | blur | theme | clearDirty | dispose | history => exact storable

def performAll (bench : SurfaceBench) (requests : List SurfaceRequest) : SurfaceBench :=
  requests.foldl (fun bench request => (bench.perform request).2) bench

private theorem performAll_storable {bench : SurfaceBench} (storable : bench.surface.screen.Storable)
    (requests : List SurfaceRequest) : (bench.performAll requests).surface.screen.Storable := by
  induction requests generalizing bench with
  | nil => exact storable
  | cons request rest ih => exact ih (perform_storable storable request)

/-- Whatever is asked of a new surface, every cell of its screen holds what a cell can. -/
theorem cells_storable (factory : SurfaceFactory) (size : Geometry) (requests : List SurfaceRequest) :
    (performAll { surface := factory.makeSized size } requests).surface.screen.Storable :=
  performAll_storable (factory.makeSized_storable size) requests

end SurfaceBench

end TerminalDock
