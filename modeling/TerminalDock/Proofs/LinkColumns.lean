import TerminalDock.Proofs.LastPage
import TerminalDock.Proofs.LinkSearch
import TerminalDock.Proofs.StorableCells

/-! The columns of links. The place of a link on the screen is counted in characters of its row, which are as many as the
cells only while no cell before the end of the link holds more than one. Apart from this every link begins and ends with
a cell, and its cells spell its address. -/

namespace TerminalDock

/-! Neither a link nor what follows it begins with a character that is put over another: these are letters of a scheme,
punctuation, and what ends a run of address characters. -/

namespace Link
open Text

private theorem not_covering_of_mem {c : Char} {plain : List Char} (ascii : plain.all (·.toNat < 128) = true)
    (member : c ∈ plain) :
    ¬Covering c := by
  intro covering
  have small := List.all_eq_true.mp ascii c member
  have large := covering.1
  simp only [decide_eq_true_eq] at small
  omega

theorem Address.head_plain {found : List Char} (address : Address found) (rest : List Char) :
    ∀ c ∈ (found ++ rest).head?, ¬Covering c := by
  obtain ⟨scheme, known, body, -, rfl⟩ := address
  have ascii : ∀ scheme ∈ schemes, scheme ≠ [] ∧ scheme.all (·.toNat < 128) = true := by decide
  obtain ⟨begun, plain⟩ := ascii scheme known
  rw [List.append_assoc, List.head?_append_of_ne_nil _ begun]
  exact fun c first => not_covering_of_mem plain (List.mem_of_head? first)

theorem Made.behind_plain {place : Nat} {found scheme tail dropped rest : List Char} {link : Link}
    (made : Made place found scheme tail dropped link) (ended : rest.takeWhile isUrlChar = []) :
    ∀ c ∈ (dropped ++ rest).head?, ¬Covering c := by
  cases dropped with
  | cons first others =>
    rintro c ⟨⟩
    exact not_covering_of_mem (by decide) (isTrailingPunctuation_iff.mp (made.trimmed first List.mem_cons_self))
  | nil =>
    cases rest with
    | nil => exact nofun
    | cons first others =>
      rintro c ⟨⟩ covering
      have outside : isUrlChar first ≠ true := fun solid => by simp [solid] at ended
      rw [ne_eq, isUrlChar_iff, not_and_or, not_not] at outside
      rcases outside with blank | bracket
      · exact blank covering.2
      · exact not_covering_of_mem (by decide) bracket covering

end Link

namespace Emulator

namespace Screen

theorem row_touch (screen : Screen) (y other : Int) : (screen.touch y).row other = screen.row other := by
  unfold touch
  split
  · rfl
  next missing =>
    have absent : screen.buffer.find? y = none := by simpa [Assoc.has] using missing
    by_cases same : other = y
    · subst same
      simp only [row, Assoc.find?_put_self, absent, Option.getD_some, Option.getD_none]
    · simp only [row, Assoc.find?_put_of_ne same]
      rfl

private theorem row_foldl_touch (rows : List Int) (screen : Screen) (y : Int) :
    (rows.foldl touch screen).row y = screen.row y := by
  induction rows generalizing screen with
  | nil => rfl
  | cons first rest ih => rw [List.foldl_cons, ih, row_touch]

theorem mem_rowNumbers {screen : Screen} {y : Int} : y ∈ screen.rowNumbers ↔ 0 ≤ y ∧ y < screen.lines := by
  simp only [rowNumbers, span, List.mem_map, List.mem_range, Int.sub_zero, Int.zero_add]
  constructor
  · rintro ⟨offset, inside, rfl⟩
    simp only [Int.ofNat_eq_natCast]
    omega
  · rintro ⟨low, high⟩
    exact ⟨y.toNat, by omega, Int.toNat_of_nonneg low⟩

end Screen

namespace Cell

def shown (cell : Cell) : List Char :=
  if cell.data.isEmpty then [' '] else cell.data

/-- How many characters more than one each the cells show. -/
def surplus : List Cell → Nat
  | [] => 0
  | cell :: rest => cell.data.length - 1 + surplus rest

private theorem surplus_eq_zero {cells : List Cell} (single : ∀ cell ∈ cells, cell.data.length ≤ 1) : surplus cells = 0 := by
  induction cells with
  | nil => rfl
  | cons cell rest ih =>
    have here := single cell List.mem_cons_self
    have there := ih fun other member => single other (List.mem_cons_of_mem _ member)
    rw [surplus, there]
    omega

private theorem shown_shape (cell : Cell) : ∃ first, cell.shown = first :: cell.data.tail := by
  unfold shown
  cases cell.data with
  | nil => exact ⟨' ', rfl⟩
  | cons first others => exact ⟨first, rfl⟩

private theorem length_shown (cells : List Cell) : (cells.flatMap shown).length = cells.length + surplus cells := by
  induction cells with
  | nil => rfl
  | cons cell rest ih =>
    obtain ⟨first, shape⟩ := cell.shown_shape
    rw [List.flatMap_cons, List.length_append, ih, shape, List.length_cons, List.length_tail, surplus, List.length_cons]
    omega

private theorem shown_solid {cells : List Cell} (solid : ∀ c ∈ cells.flatMap shown, Text.isBlank c = false) :
    cells.flatMap shown = cells.flatMap data := by
  have same : ∀ cell ∈ cells, cell.shown = cell.data := by
    intro cell member
    unfold shown
    split
    next empty =>
      have blank : ' ' ∈ cells.flatMap shown := List.mem_flatMap.mpr ⟨cell, member, by simp [shown, empty]⟩
      cases solid ' ' blank
    next => rfl
  exact List.flatMap_congr same

theorem cut {cells : List Cell} (storable : ∀ cell ∈ cells, cell.Storable) {left right : List Char}
    (split : cells.flatMap shown = left ++ right)
    (apart : ∀ c ∈ right.head?, ¬Text.Covering c) :
    ∃ n ≤ cells.length, left = (cells.take n).flatMap shown := by
  induction cells generalizing left with
  | nil => exact ⟨0, Nat.le_refl _, (List.append_eq_nil_iff.mp split.symm).1⟩
  | cons cell rest ih =>
    obtain ⟨first, shape⟩ := cell.shown_shape
    cases left with
    | nil => exact ⟨0, Nat.zero_le _, rfl⟩
    | cons c left =>
      rw [List.flatMap_cons, shape, List.cons_append, List.cons_append, List.cons.injEq] at split
      obtain ⟨rfl, split⟩ := split
      obtain ⟨later, rfl, behind⟩ : ∃ later, left = cell.data.tail ++ later ∧ rest.flatMap shown = later ++ right := by
        rcases List.append_eq_append_iff.mp split with ⟨later, rfl, behind⟩ | ⟨between, accents, rfl⟩
        · exact ⟨later, rfl, behind⟩
        · cases between with
          | nil => exact ⟨[], by simpa using accents.symm, rfl⟩
          | cons next between =>
            have member : next ∈ cell.data.tail := by simp [accents]
            exact absurd (storable cell List.mem_cons_self next member) (apart next rfl)
      obtain ⟨n, inside, rfl⟩ := ih (fun other member => storable other (List.mem_cons_of_mem _ member)) behind
      exact ⟨n + 1, Nat.succ_le_succ inside, by rw [List.take_succ_cons, List.flatMap_cons, shape, List.cons_append]⟩

end Cell

namespace Line

/-- The columns from the first up to the last, which is left out, spell a text. -/
structure Spells (line : Line) (columns : Int) (first last : Nat) (text : String) : Prop where
  filled : first < last
  inside : (last : Int) ≤ columns
  spelt : ((line.firstCells last).drop first).flatMap Cell.data = text.toList

private theorem length_firstCells (line : Line) (n : Nat) : (line.firstCells n).length = n := by
  simp [firstCells]

private theorem take_firstCells (line : Line) {n columns : Nat} (inside : n ≤ columns) :
    (line.firstCells columns).take n = line.firstCells n := by
  simp [firstCells, ← List.map_take, List.take_range, Nat.min_eq_left inside]

private theorem length_spacedText (line : Line) (n : Nat) :
    (line.spacedText n).length = n + Cell.surplus (line.firstCells n) :=
  (Cell.length_shown _).trans (by rw [length_firstCells])

private theorem spacedText_extend (line : Line) {first last : Nat} (order : first ≤ last) :
    line.spacedText last = line.spacedText first ++ ((line.firstCells last).drop first).flatMap Cell.shown := by
  have whole := (List.take_append_drop first (line.firstCells last)).symm
  rw [line.take_firstCells order] at whole
  exact (congrArg (List.flatMap Cell.shown) whole).trans List.flatMap_append

private theorem spacedText_cut (line : Line) {columns : Nat} (storable : ∀ cell ∈ line.firstCells columns, cell.Storable)
    {left right : List Char} (split : line.spacedText columns = left ++ right)
    (apart : ∀ c ∈ right.head?, ¬Text.Covering c) : ∃ n ≤ columns, left = line.spacedText n := by
  obtain ⟨n, inside, shape⟩ := Cell.cut storable split apart
  rw [line.length_firstCells] at inside
  rw [line.take_firstCells inside] at shape
  exact ⟨n, inside, shape⟩

/-- Every link of a row begins and ends with a cell. The place that is told is the column and the surplus of characters in
the cells before. -/
theorem link_spelt (line : Line) (columns : Nat) (storable : ∀ cell ∈ line.firstCells columns, cell.Storable) {link : Link}
    (member : link ∈ Link.findLinks (line.spacedText columns)) :
    ∃ first last, line.Spells columns first last link.url ∧ link.start = first + Cell.surplus (line.firstCells first) ∧
      link.stop = last + Cell.surplus (line.firstCells last) := by
  obtain ⟨before, found, rest, text, run, scheme, tail, dropped, made⟩ := (Link.findLinks_search _).origin member
  rw [Nat.zero_add] at made
  obtain ⟨solid, ended⟩ := Link.run_ended run
  have parts : line.spacedText columns = before ++ (scheme ++ tail) ++ (dropped ++ rest) := by simp [text, made.whole]
  obtain ⟨first, -, rfl⟩ := line.spacedText_cut storable text (made.address.head_plain rest)
  obtain ⟨last, inside, behind⟩ := line.spacedText_cut storable parts (made.behind_plain ended)
  have filled : first < last := by
    by_contra reversed
    have longer := congrArg List.length (line.spacedText_extend (Nat.not_lt.mp reversed))
    rw [← behind] at longer
    have some := List.length_pos_iff.mpr made.filled
    simp only [List.length_append] at longer
    omega
  have spelt : scheme ++ tail = ((line.firstCells last).drop first).flatMap Cell.shown := by
    rw [line.spacedText_extend (Nat.le_of_lt filled)] at behind
    exact List.append_cancel_left behind
  have unblank : ∀ c ∈ scheme ++ tail, Text.isBlank c = false := fun c member =>
    (Link.isUrlChar_iff.mp (solid c (made.whole ▸ List.mem_append_left _ member))).1
  refine ⟨first, last, ⟨filled, Int.ofNat_le.mpr inside, ?_⟩, ?_, ?_⟩
  · rw [made.url, spelt, Cell.shown_solid (spelt ▸ unblank)]
  · rw [made.start, length_spacedText]
  · rw [made.stop, ← length_spacedText, ← behind]
    exact List.length_append.symm

private theorem surplus_front {line : Line} {columns stop n : Nat}
    (single : ∀ cell ∈ (line.firstCells columns).take stop, cell.data.length ≤ 1) (inside : n ≤ columns)
      (before : n ≤ stop) :
    Cell.surplus (line.firstCells n) = 0 := by
  refine Cell.surplus_eq_zero fun cell member => single cell ?_
  rw [← line.take_firstCells inside, ← Nat.min_eq_left before, ← List.take_take] at member
  exact List.mem_of_mem_take member

theorem Spells.bounded {line : Line} {columns : Int} {first last : Nat} {text : String}
    (spells : line.Spells columns.toNat first last text) : line.Spells columns first last text := by
  have filled := spells.filled
  have inside := spells.inside
  exact ⟨filled, by omega, spells.spelt⟩

end Line

end Emulator

namespace Surface

theorem links_eq (surface : Surface) :
    ∃ later, links surface = .ok (surface.screen.rowNumbers.flatMap fun y =>
        (Link.findLinks ((surface.screen.row y).spacedText surface.screen.columns.toNat)).map fun link => ⟨y, link⟩) later ∧
      ∀ y, later.screen.row y = surface.screen.row y := by
  let screen := surface.screen.rowNumbers.foldl Emulator.Screen.touch surface.screen
  have kept : screen.extent = surface.screen.extent :=
    Emulator.Screen.extent_foldl Emulator.Screen.extent_touch _ _
  have rows (y : Int) : screen.row y = surface.screen.row y := Emulator.Screen.row_foldl_touch _ _ y
  have lines : screen.lines = surface.screen.lines := congrArg Emulator.Screen.Extent.lines kept
  have columns : screen.columns = surface.screen.columns := congrArg Emulator.Screen.Extent.columns kept
  have numbers : screen.rowNumbers = surface.screen.rowNumbers := by
    rw [Emulator.Screen.rowNumbers, lines, ← Emulator.Screen.rowNumbers]
  refine ⟨{ surface with terminal := { surface.terminal with screen := screen } }, ?_, rows⟩
  rw [← numbers, ← columns]
  simp only [← rows]
  rfl

/-- The links on a screen whose cells hold what cells can, as they always do, are found in its rows, and finding them
changes no row. Each takes up whole cells, and the place that is told for it is the column of its cell and the number of
characters that the cells before hold beyond one each. It is the column itself if no cell before the end of the link
holds more than one. -/
theorem links_in_cells (surface : Surface) (storable : ∀ y ∈ surface.screen.rowNumbers,
    ∀ cell ∈ (surface.screen.row y).firstCells surface.screen.columns.toNat, cell.Storable) :
    ∃ found later, links surface = .ok found later ∧ (∀ y, later.screen.row y = surface.screen.row y) ∧
      ∀ rowLink ∈ found, (0 ≤ rowLink.row ∧ rowLink.row < surface.rows) ∧
        let line := surface.screen.row rowLink.row
        let link := rowLink.link
        (∃ first last, line.Spells surface.columns first last link.url ∧
          link.start = first + Emulator.Cell.surplus (line.firstCells first) ∧
          link.stop = last + Emulator.Cell.surplus (line.firstCells last)) ∧
        ((∀ cell ∈ (line.firstCells surface.columns.toNat).take link.stop, cell.data.length ≤ 1) →
          line.Spells surface.columns link.start link.stop link.url) := by
  obtain ⟨later, same, rows⟩ := surface.links_eq
  refine ⟨_, later, same, rows, ?_⟩
  intro rowLink member
  obtain ⟨y, shown, member⟩ := List.mem_flatMap.mp member
  obtain ⟨link, found, rfl⟩ := List.mem_map.mp member
  obtain ⟨first, last, spells, start, stop⟩ := (surface.screen.row y).link_spelt _ (storable y shown) found
  refine ⟨Emulator.Screen.mem_rowNumbers.mp shown, ⟨first, last, spells.bounded, start, stop⟩, fun single => ?_⟩
  have filled := spells.filled
  have inside : last ≤ surface.columns.toNat := Int.ofNat_le.mp spells.inside
  have lastBefore : last ≤ link.stop := stop ▸ Nat.le_add_right ..
  have toFirst := Emulator.Line.surplus_front single (Nat.le_trans (Nat.le_of_lt filled) inside)
    (Nat.le_trans (Nat.le_of_lt filled) lastBefore)
  have toLast := Emulator.Line.surplus_front single inside lastBefore
  rw [toFirst, Nat.add_zero] at start
  rw [toLast, Nat.add_zero] at stop
  simp only [start, stop]
  exact spells.bounded

/-- A screen with an address in one row, and in the next one an address after a letter with an accent of its own. -/
def accented : Surface :=
  let factory : SurfaceFactory := { theme := .ofScheme "dark", font := .estimate "mono" (.whole 13) }
  Proofs.Steps.after (write "http://b.io\r\nx\u0302 http://a.io".toUTF8.toList) (factory.makeSized ⟨2, 16⟩)

def accentedLinks : List Emulator.RowLink :=
  match links accented with
  | .ok found _ => found
  | .error _ _ => []

/-- The accent moves the place that is told for the address after it, but not the cells that this takes up. -/
theorem links_in_cells_accented :
    (∀ y ∈ accented.screen.rowNumbers,
      ∀ cell ∈ (accented.screen.row y).firstCells accented.screen.columns.toNat, cell.Storable) ∧
    ∃ found later, links accented = .ok found later ∧
      (⟨0, 0, 11, "http://b.io"⟩ ∈ found ∧ (accented.screen.row 0).Spells accented.columns 0 11 "http://b.io") ∧
      ⟨1, 3, 14, "http://a.io"⟩ ∈ found ∧
        ∃ first last, (accented.screen.row 1).Spells accented.columns first last "http://a.io" ∧
          3 = first + Emulator.Cell.surplus ((accented.screen.row 1).firstCells first) ∧
          14 = last + Emulator.Cell.surplus ((accented.screen.row 1).firstCells last) := by
  have written : accented.screen.Storable := write_keeps _ _ (SurfaceFactory.makeSized_storable _ _)
  have storable : ∀ y ∈ accented.screen.rowNumbers,
      ∀ cell ∈ (accented.screen.row y).firstCells accented.screen.columns.toNat, cell.Storable :=
    fun y _ => written.firstCells y _
  have listed : accentedLinks = [⟨0, 0, 11, "http://b.io"⟩, ⟨1, 3, 14, "http://a.io"⟩] := by decide +kernel
  obtain ⟨found, later, same, -, places⟩ := links_in_cells accented storable
  have all : found = [⟨0, 0, 11, "http://b.io"⟩, ⟨1, 3, 14, "http://a.io"⟩] := by
    rw [← listed, accentedLinks, same]
  have first : ⟨0, 0, 11, "http://b.io"⟩ ∈ found := by simp [all]
  have second : ⟨1, 3, 14, "http://a.io"⟩ ∈ found := by simp [all]
  exact ⟨storable, found, later, same, ⟨first, (places _ first).2.2 (by decide +kernel)⟩, second, (places _ second).2.1⟩

/-- Where the second link is said to be its address is not: the cells there hold all but its first letter, and a blank. -/
theorem links_in_cells_fails :
    ⟨1, 3, 14, "http://a.io"⟩ ∈ accentedLinks ∧ ¬(accented.screen.row 1).Spells accented.columns 3 14 "http://a.io" := by
  have listed : accentedLinks = [⟨0, 0, 11, "http://b.io"⟩, ⟨1, 3, 14, "http://a.io"⟩] := by decide +kernel
  have shown : (((accented.screen.row 1).firstCells 14).drop 3).flatMap Emulator.Cell.data = "ttp://a.io ".toList := by
    decide +kernel
  have different : "ttp://a.io ".toList ≠ "http://a.io".toList := by decide
  exact ⟨by simp [listed], fun spells => different (shown.symm.trans spells.spelt)⟩

end Surface

end TerminalDock
