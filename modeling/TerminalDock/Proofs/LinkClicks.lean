import TerminalDock.Page.Link
import TerminalDock.Proofs.PaintedScreens

/-! Clicks on links. A row of the page reads as the row of cells that it was drawn from, so the spans that are made links
stand where the links were found. As no two of them touch, the linked characters fall into just these ranges, and the last
range that begins no later than the character that is clicked on is that of its own link. -/

namespace TerminalDock
open Proofs.Steps

namespace Page

/-- Spans of a row from one column up to another, in order and with a character at least between any two. -/
structure Apart (row : Int) (first stop : Nat) (spans : List Span) : Prop where
  row : ∀ span ∈ spans, span.row = row
  filled : ∀ span ∈ spans, span.start < span.stop
  inside : ∀ span ∈ spans, first ≤ span.start ∧ span.stop ≤ stop
  apart : spans.Pairwise fun before behind => before.stop < behind.start

namespace Apart
variable {row : Int} {first stop : Nat} {span : Span} {spans : List Span}

theorem behind (apart : Apart row first stop (span :: spans)) : Apart row (span.stop + 1) stop spans where
  row other member := apart.row other (List.mem_cons_of_mem _ member)
  filled other member := apart.filled other (List.mem_cons_of_mem _ member)
  inside other member :=
    ⟨List.rel_of_pairwise_cons apart.apart member, (apart.inside other (List.mem_cons_of_mem _ member)).2⟩
  apart := apart.apart.of_cons

theorem begin (apart : Apart row first stop (span :: spans)) {start : Nat} (filled : start < span.stop) :
    Apart row start stop ({ span with start := start } :: spans) := by
  have others := apart.behind
  constructor
  case row => exact List.forall_mem_cons.mpr ⟨apart.row span List.mem_cons_self, others.row⟩
  case filled => exact List.forall_mem_cons.mpr ⟨filled, others.filled⟩
  case inside =>
    refine List.forall_mem_cons.mpr ⟨⟨Nat.le_refl _, (apart.inside span List.mem_cons_self).2⟩, fun other member => ?_⟩
    have inside := others.inside other member
    omega
  case apart => exact List.pairwise_cons.mpr (List.pairwise_cons.mp apart.apart)

theorem later (apart : Apart row first stop spans) {start : Nat} (none : ∀ span ∈ spans, start ≤ span.start) :
    Apart row start stop spans :=
  { apart with inside := fun span member => ⟨none span member, (apart.inside span member).2⟩ }

private theorem starts_later (apart : Apart row first stop spans)
    (none : ¬ ∃ span rest, spans = span :: rest ∧ span.start = first) : ∀ span ∈ spans, first + 1 ≤ span.start := by
  cases spans with
  | nil => exact nofun
  | cons head rest =>
    have different : head.start ≠ first := fun equal => none ⟨head, rest, rfl, equal⟩
    have inside := apart.inside head List.mem_cons_self
    have filled := apart.filled head List.mem_cons_self
    refine List.forall_mem_cons.mpr ⟨by omega, fun span member => ?_⟩
    have behind := apart.behind.inside span member
    omega

end Apart

section
variable {row : Int} {column : Nat} {rest : List Bool} {span : Span} {spans : List Span}

private theorem markedRanges_alone (ranges : markedRanges row (column + 1) rest = spans)
    (later : ∀ span ∈ spans, column + 1 < span.start) :
    markedRanges row column (true :: rest) = ⟨row, column, column + 1⟩ :: spans := by
  rw [markedRanges, ranges]
  cases spans with
  | nil => rfl
  | cons span rest =>
    have gap := later span List.mem_cons_self
    have different : (span.start == column + 1) = false := by
      rw [beq_eq_false_iff_ne]
      omega
    simp only [different, Bool.false_eq_true, if_false]

private theorem markedRanges_joined (ranges : markedRanges row (column + 1) rest = span :: spans)
    (next : span.start = column + 1) :
    markedRanges row column (true :: rest) = ⟨row, column, span.stop⟩ :: spans := by
  rw [markedRanges, ranges]
  simp only [next, beq_self_eq_true, if_true]

end

/-- Columns that are marked exactly where spans that do not touch cover them are grouped into these spans. -/
theorem markedRanges_eq {row : Int} {marked : Nat → Bool} (count : Nat) {column : Nat} {spans : List Span}
    (apart : Apart row column (column + count) spans)
    (marks : ∀ place, column ≤ place → place < column + count →
      (marked place = true ↔ ∃ span ∈ spans, span.start ≤ place ∧ place < span.stop)) :
    markedRanges row column ((List.range' column count).map marked) = spans := by
  induction count generalizing column spans with
  | zero =>
    cases spans with
    | nil => rfl
    | cons span rest =>
      have filled := apart.filled span List.mem_cons_self
      have inside := apart.inside span List.mem_cons_self
      omega
  | succ count ih =>
    rw [List.range'_succ, List.map_cons]
    have shift : column + (count + 1) = column + 1 + count := by omega
    rw [shift] at apart
    by_cases begins : ∃ span rest, spans = span :: rest ∧ span.start = column
    · obtain ⟨span, rest, rfl, rfl⟩ := begins
      have filled := apart.filled span List.mem_cons_self
      have others := apart.behind
      have here : marked span.start = true :=
        (marks _ (Nat.le_refl _) (by omega)).mpr ⟨span, List.mem_cons_self, Nat.le_refl _, filled⟩
      have shape : (⟨row, span.start, span.stop⟩ : Span) = span := by rw [← apart.row span List.mem_cons_self]
      rw [here]
      by_cases short : span.stop = span.start + 1
      · -- The span is over, and the next one begins behind a character that is not marked.
        have behind : markedRanges row (span.start + 1) ((List.range' (span.start + 1) count).map marked) = rest := by
          refine ih (others.later fun other member => ?_) fun place low high => ?_
          · have := others.inside other member
            omega
          · rw [marks place (by omega) (by omega), List.exists_mem_cons_iff]
            exact or_iff_right fun covers => by omega
        rw [markedRanges_alone behind fun other member => ?_, ← short, shape]
        have := others.inside other member
        omega
      · -- What is left of the span is found first, and this character is put in front of it.
        have longer : span.start + 1 < span.stop := by omega
        have left : markedRanges row (span.start + 1) ((List.range' (span.start + 1) count).map marked) =
            { span with start := span.start + 1 } :: rest := by
          refine ih (apart.begin longer) fun place low high => ?_
          rw [marks place (by omega) (by omega), List.exists_mem_cons_iff, List.exists_mem_cons_iff]
          refine or_congr_left ?_
          dsimp only
          omega
        rw [markedRanges_joined left rfl, shape]
    · have after := apart.starts_later begins
      have here : marked column = false := by
        rw [← Bool.not_eq_true, marks column (Nat.le_refl _) (by omega)]
        rintro ⟨span, member, low, -⟩
        have := after span member
        omega
      rw [here, markedRanges]
      exact ih (apart.later after) fun place low high => marks place (by omega) (by omega)

end Page

namespace Painting
open Emulator (Cell)

def rowText (scene : Surface.Scene) (y : Int) : List Char :=
  (scene.row y).spacedText scene.columns.toNat

private theorem mem_linksOf {surface : Surface} {link : Emulator.RowLink} : link ∈ linksOf surface.scene ↔
    link.row ∈ surface.screen.rowNumbers ∧ link.link ∈ Link.findLinks (rowText surface.scene link.row) := by
  rw [linksOf, List.mem_flatMap]
  constructor
  · rintro ⟨y, shown, member⟩
    obtain ⟨found, inside, rfl⟩ := List.mem_map.mp member
    exact ⟨shown, inside⟩
  · rintro ⟨shown, member⟩
    exact ⟨link.row, shown, List.mem_map.mpr ⟨link.link, member, rfl⟩⟩

private theorem linksOf_ordered (scene : Surface.Scene) : (linksOf scene).Pairwise fun before behind =>
    before.row < behind.row ∨ before.row = behind.row ∧ before.link.stop < behind.link.start := by
  rw [linksOf, List.pairwise_flatMap]
  constructor
  · intro y _
    exact List.pairwise_map.mpr ((Link.links_sound _).1.imp fun apart => .inr ⟨rfl, apart⟩)
  · simp only [Emulator.Screen.span, List.pairwise_map]
    refine List.pairwise_lt_range.imp fun {first second} before => ?_
    intro one above other below
    obtain ⟨_, -, rfl⟩ := List.mem_map.mp above
    obtain ⟨_, -, rfl⟩ := List.mem_map.mp below
    exact .inl (by simpa using before)

private theorem getLast?_filter_split {α : Type} {test : α → Bool} {front back : List α} {item : α} (here : test item = true)
    (later : ∀ other ∈ back, test other = false) : ((front ++ item :: back).filter test).getLast? = some item := by
  have none : back.filter test = [] := List.filter_eq_nil_iff.mpr fun other member => by simp [later other member]
  rw [List.filter_append, List.filter_cons_of_pos here, none, List.getLast?_concat]

section
variable {painting painted : Painting} (drawn : Drawn painting painted)
include drawn

private theorem text_drawn : painted.page.text =
    List.intercalate ['\n'] (painting.surface.screen.rowNumbers.map (rowText painting.surface.scene)) := by
  obtain ⟨pieces, segments, each⟩ := drawn.text
  have texts : pieces.map (·.flatMap Segment.text) =
      painting.surface.screen.rowNumbers.map (rowText painting.surface.scene) := by
    have texts := congrArg (List.map (List.map Prod.fst)) (HoldsRows.parts each).2.1
    simp only [List.map_map, List.map_flatMap, Segment.characters, charactersOf, Function.comp_def, List.map_id',
      Emulator.Screen.cellRows] at texts
    exact texts
  rw [Page.text, segments, flatMap_intercalate, texts]
  rfl

private theorem rows_drawn (unbroken : ∀ row ∈ painting.surface.screen.cellRows, ∀ cell ∈ row, '\n' ∉ cell.data)
    (some : painting.surface.screen.rowNumbers ≠ []) :
    painted.page.rows = painting.surface.screen.rowNumbers.map (rowText painting.surface.scene) := by
  rw [Page.rows, text_drawn drawn]
  refine List.splitOn_intercalate _ ?_ (by simpa using some)
  intro text member broken
  obtain ⟨y, shown, rfl⟩ := List.mem_map.mp member
  obtain ⟨cell, inside, broken⟩ := List.mem_flatMap.mp broken
  have solid := unbroken _ (List.mem_map.mpr ⟨y, shown, rfl⟩) cell inside
  split at broken
  · simp at broken
  · exact solid broken

private theorem isLinked_drawn {row : Int} {column : Nat} : painted.page.isLinked row column = true ↔
    ∃ link ∈ linksOf painting.surface.scene, link.row = row ∧ link.link.start ≤ column ∧ column < link.link.stop := by
  simp only [Page.isLinked, drawn.links, List.any_map, List.any_eq_true, Function.comp_apply, Bool.and_eq_true,
    beq_iff_eq, decide_eq_true_eq, and_assoc]
  rfl

/-- The linked characters of a row fall into the links that were found in it. -/
theorem rangesOfRow_drawn {y : Nat} (shown : (y : Int) ∈ painting.surface.screen.rowNumbers) :
    painted.page.rangesOfRow y (rowText painting.surface.scene y) =
      (Link.findLinks (rowText painting.surface.scene y)).map fun link => spanOf ⟨y, link⟩ := by
  obtain ⟨ordered, sound⟩ := Link.links_sound (rowText painting.surface.scene y)
  rw [Page.rangesOfRow, List.range_eq_range']
  refine Page.markedRanges_eq _ ⟨?_, ?_, ?_, ?_⟩ fun place _ _ => ?_
  · exact List.forall_mem_map.mpr fun link member => rfl
  · exact List.forall_mem_map.mpr fun link member => (sound link member).inside.1
  · refine List.forall_mem_map.mpr fun link member => ⟨Nat.zero_le _, ?_⟩
    rw [Nat.zero_add]
    exact (sound link member).inside.2
  · exact List.pairwise_map.mpr ordered
  · rw [isLinked_drawn drawn]
    constructor
    · rintro ⟨⟨row, link⟩, member, rfl, covers⟩
      exact ⟨_, List.mem_map.mpr ⟨link, (mem_linksOf.mp member).2, rfl⟩, covers⟩
    · rintro ⟨span, member, covers⟩
      obtain ⟨link, found, rfl⟩ := List.mem_map.mp member
      exact ⟨⟨y, link⟩, mem_linksOf.mpr ⟨shown, found⟩, rfl, covers⟩

private theorem linkRanges_drawn (unbroken : ∀ row ∈ painting.surface.screen.cellRows, ∀ cell ∈ row, '\n' ∉ cell.data) :
    painted.page.linkRanges = (linksOf painting.surface.scene).map spanOf := by
  by_cases none : painting.surface.screen.rowNumbers = []
  · have nothing : painted.page.rows = [[]] := by
      rw [Page.rows, text_drawn drawn, none]
      rfl
    have found : linksOf painting.surface.scene = [] := by
      change painting.surface.screen.rowNumbers.flatMap _ = []
      rw [none, List.flatMap_nil]
    rw [Page.linkRanges, nothing, found]
    rfl
  · have places : (painting.surface.screen.rowNumbers.map (rowText painting.surface.scene)).zipIdx =
        painting.surface.screen.rowNumbers.map fun y => (rowText painting.surface.scene y, y.toNat) :=
      List.ext_getElem (by simp) fun place _ _ => by simp [Emulator.Screen.rowNumbers, Emulator.Screen.span]
    rw [Page.linkRanges, rows_drawn drawn unbroken none, places, List.map_map, ← List.flatMap_def, linksOf, List.map_flatMap]
    refine List.flatMap_congr fun y shown => ?_
    have counted : (y.toNat : Int) = y := Int.toNat_of_nonneg (Emulator.Screen.mem_rowNumbers.mp shown).1
    have row := rangesOfRow_drawn drawn (counted.symm ▸ shown)
    rw [counted] at row
    rw [List.map_map]
    exact row

private theorem textOf_drawn (unbroken : ∀ row ∈ painting.surface.screen.cellRows, ∀ cell ∈ row, '\n' ∉ cell.data)
    {link : Emulator.RowLink} (member : link ∈ linksOf painting.surface.scene) :
    painted.page.textOf (spanOf link) = link.link.url.toList := by
  obtain ⟨shown, found⟩ := mem_linksOf.mp member
  obtain ⟨low, high⟩ := Emulator.Screen.mem_rowNumbers.mp shown
  have row : painted.page.rows[link.row.toNat]? = some (rowText painting.surface.scene link.row) := by
    rw [rows_drawn drawn unbroken (List.ne_nil_of_mem shown), List.getElem?_map]
    have place : painting.surface.screen.rowNumbers[link.row.toNat]? = some link.row := by
      have inside : link.row.toNat < painting.surface.screen.lines.toNat := by omega
      simp [Emulator.Screen.rowNumbers, Emulator.Screen.span, inside]
      omega
    rw [place]
    rfl
  have text := ((Link.links_sound _).2 link.link found).shown
  rw [Page.textOf, spanOf, row, Option.getD_some, List.drop_take, text]

/-- A click on a character of a link is a click on this link: those behind it begin later. -/
theorem linkAt_drawn (unbroken : ∀ row ∈ painting.surface.screen.cellRows, ∀ cell ∈ row, '\n' ∉ cell.data)
    {link : Emulator.RowLink} (member : link ∈ linksOf painting.surface.scene) {row column : Nat} (here : link.row = row)
    (covers : link.link.start ≤ column ∧ column < link.link.stop) :
    painted.page.linkAt row column = some link.link.url.toList := by
  obtain ⟨front, back, shape⟩ := List.append_of_mem member
  have later : ∀ other ∈ back, link.row < other.row ∨ link.row = other.row ∧ link.link.stop < other.link.start := by
    have ordered := linksOf_ordered painting.surface.scene
    rw [shape, List.pairwise_append] at ordered
    exact fun other => List.rel_of_pairwise_cons ordered.2.1
  have begun : ∀ other ∈ back, ¬(other.row < row ∨ other.row = row ∧ other.link.start ≤ column) := by
    intro other behind
    have := later other behind
    omega
  rw [Page.linkAt, linkRanges_drawn drawn unbroken, shape, List.map_append, List.map_cons, getLast?_filter_split,
    Option.map_some,
    textOf_drawn drawn unbroken member]
  · simp [spanOf, here, covers.1]
  · refine List.forall_mem_map.mpr fun other behind => ?_
    rw [← Bool.not_eq_true, Bool.or_eq_true, Bool.and_eq_true, decide_eq_true_eq, beq_iff_eq, decide_eq_true_eq]
    exact begun other behind

end

end Painting

def Emulator.RowLink.Covers (link : RowLink) (row column : Nat) : Prop :=
  link.row = row ∧ link.link.start ≤ column ∧ column < link.link.stop

instance (link : Emulator.RowLink) (row column : Nat) : Decidable (link.Covers row column) :=
  inferInstanceAs (Decidable (_ ∧ _))

theorem Viewer.paint_cases (viewer : Viewer) :
    (∃ painted, viewer.paint = .ok () painted ∧ Painting.Drawn ⟨viewer.surface, viewer.page⟩
      ⟨painted.surface, painted.page⟩) ∨
    (∃ last, viewer.paint = .error Theme.ColorError.outOfRange.failure last ∧
      ∃ row ∈ viewer.surface.screen.cellRows, ∃ cell ∈ row, Painting.tagOf? viewer.surface.theme cell = none) := by
  rcases Painting.paint_cases viewer.takesMark ⟨viewer.surface, viewer.page⟩ with ⟨painted, ends, drawn⟩ | ⟨last,
    ends, lacking⟩
  · exact .inl ⟨{ viewer with surface := painted.surface, page := painted.page }, by simp only [Viewer.paint, ends], drawn⟩
  · exact .inr ⟨{ viewer with surface := last.surface, page := last.page }, by simp only [Viewer.paint, ends], lacking⟩

namespace Viewer
open Painting (spanOf)

/-- Drawing makes links of just those characters that spell the addresses on the surface, as one range for each, and a click
on any character of such a range opens the address that is there. It is only for want of a colour that nothing is drawn. -/
theorem clicked_links_open (viewer : Viewer)
    (unbroken : ∀ row ∈ viewer.surface.screen.cellRows, ∀ cell ∈ row, '\n' ∉ cell.data) :
    match viewer.paint with
    | .ok _ painted => ∃ links later, Surface.links painted.surface = .ok links later ∧
      painted.page.linkRanges = links.map spanOf ∧
      (∀ link ∈ links, painted.page.textOf (spanOf link) = link.link.url.toList) ∧
      (∀ row column : Nat, painted.page.isLinked row column = true ↔ ∃ link ∈ links, link.Covers row column) ∧
      ∀ link ∈ links, ∀ row column : Nat, link.Covers row column → ∀ x y : Int,
        ViewAction.openLink.perform (painted.page.clickOn row column x y) painted =
          .ok {} (ViewAction.browse link.link.url (painted.see (.located x y)))
    | .error failure _ => failure = .fault .index "tuple index out of range" ∧
      ∃ row ∈ viewer.surface.screen.cellRows, ∃ cell ∈ row, Painting.tagOf? viewer.surface.theme cell = none := by
  rcases viewer.paint_cases with ⟨painted, ends, drawn⟩ | ⟨last, ends, lacking⟩
  · rw [ends]
    obtain ⟨later, found, -⟩ := Painting.links_ends painted.surface
    rw [drawn.scene] at found
    refine ⟨_, later, found, Painting.linkRanges_drawn drawn unbroken,
      fun link member => Painting.textOf_drawn drawn unbroken member, fun row column => Painting.isLinked_drawn drawn, ?_⟩
    intro link member row column covers x y
    have opened := Painting.linkAt_drawn drawn unbroken member covers.1 covers.2
    have url : (painted.page.clickOn row column x y).link = some link.link.url := by
      rw [Page.clickOn, opened, Option.map_some, String.ofList_toList]
    unfold ViewAction.perform
    rw [url]
    rfl
  · rw [ends]
    exact ⟨rfl, lacking⟩

/-- A view of a screen on which an address comes to the end of a row, behind an accent and a wide character, and another one
begins the next row. -/
def neighbours : Viewer :=
  let factory : SurfaceFactory := { theme := .ofScheme "dark", font := .estimate "mono" (.whole 13) }
  let text := "x\u0302 \u5b57 http://a.io/bcdftp://c.d, ok"
  create "term-1" (after (Surface.write text.toUTF8.toList) (factory.makeSized ⟨2, 20⟩)) {}

/-- The last character of the first row and the first one of the second are those of different links. -/
theorem clicked_links_open_neighbours :
    (∀ row ∈ neighbours.surface.screen.cellRows, ∀ cell ∈ row, '\n' ∉ cell.data) ∧
    ∃ painted, neighbours.paint = .ok () painted ∧ ∀ x y : Int,
      ViewAction.openLink.perform (painted.page.clickOn 0 20 x y) painted =
        .ok {} (ViewAction.browse "http://a.io/bcd" (painted.see (.located x y))) ∧
      ViewAction.openLink.perform (painted.page.clickOn 1 0 x y) painted =
        .ok {} (ViewAction.browse "ftp://c.d" (painted.see (.located x y))) := by
  have unbroken : ∀ row ∈ neighbours.surface.screen.cellRows, ∀ cell ∈ row, '\n' ∉ cell.data := by decide +kernel
  have known : ∀ row ∈ neighbours.surface.screen.cellRows, ∀ cell ∈ row,
      (Painting.tagOf? neighbours.surface.theme cell).isSome := by decide +kernel
  have result := clicked_links_open neighbours unbroken
  cases ends : neighbours.paint with
  | error failure last =>
    rw [ends] at result
    exact absurd result.2 (Painting.no_lacking known)
  | ok _ painted =>
    rw [ends] at result
    obtain ⟨links, later, found, -, -, -, opens⟩ := result
    have seen : Painting.linksOf (after paint neighbours).surface.scene =
        [⟨0, 6, 21, "http://a.io/bcd"⟩, ⟨1, 0, 9, "ftp://c.d"⟩] := by decide +kernel
    have listed : links = [⟨0, 6, 21, "http://a.io/bcd"⟩, ⟨1, 0, 9, "ftp://c.d"⟩] := by
      obtain ⟨_, found', -⟩ := Painting.links_ends painted.surface
      cases found.symm.trans found'
      simpa only [after, ends] using seen
    refine ⟨unbroken, painted, rfl, fun x y => ⟨?_, ?_⟩⟩
    · exact opens ⟨0, 6, 21, "http://a.io/bcd"⟩ (by simp [listed]) 0 20 (by decide) x y
    · exact opens ⟨1, 0, 9, "ftp://c.d"⟩ (by simp [listed]) 1 0 (by decide) x y

end Viewer

end TerminalDock
