import Mathlib.Data.List.Forall2
import TerminalDock.Page.Paint
import TerminalDock.Proofs.LinkColumns

/-! Drawing a screen. Cells of one tag that stand next to each other are put down in one piece, yet the characters on the
page and their tags are those of the cells one by one, with a line break between any two rows. Only a cell whose colours
are missing from the theme stops the drawing. -/

namespace TerminalDock
open Proofs.Steps

def Emulator.Screen.cellRows (screen : Screen) : List (List Cell) :=
  screen.rowNumbers.map fun y => (screen.row y).firstCells screen.columns.toNat

namespace Surface

/-- What is drawn of a surface: its theme, the size of the grid, what each row shows, and the cursor. -/
structure Scene where
  theme : Theme
  lines : Int
  columns : Int
  row : Int → Emulator.Line
  cursor : Emulator.Cursor

def scene (surface : Surface) : Scene where
  theme := surface.theme
  lines := surface.screen.lines
  columns := surface.screen.columns
  row := surface.screen.row
  cursor := surface.screen.cursor

def touchRow (surface : Surface) (y : Int) : Surface :=
  { surface with terminal := { surface.terminal with screen := surface.screen.touch y } }

theorem scene_touchRow (surface : Surface) (y : Int) : (surface.touchRow y).scene = surface.scene := by
  have rows : (surface.screen.touch y).row = surface.screen.row := funext (surface.screen.row_touch y)
  have extent := surface.screen.extent_touch y
  have cursor : (surface.screen.touch y).cursor = surface.screen.cursor := by
    unfold Emulator.Screen.touch
    split <;> rfl
  have lines := congrArg Emulator.Screen.Extent.lines extent
  have columns := congrArg Emulator.Screen.Extent.columns extent
  exact Scene.mk.injEq .. |>.mpr ⟨rfl, lines, columns, rows, cursor⟩

def touchRows (surface : Surface) (rows : List Int) : Surface :=
  { surface with terminal := { surface.terminal with screen := rows.foldl Emulator.Screen.touch surface.screen } }

theorem scene_touchRows (rows : List Int) (surface : Surface) : (surface.touchRows rows).scene = surface.scene := by
  induction rows generalizing surface with
  | nil => rfl
  | cons y rest ih => exact (ih (surface.touchRow y)).trans (surface.scene_touchRow y)

theorem cellRows_of_scene {first last : Surface} (same : last.scene = first.scene) :
    last.screen.cellRows = first.screen.cellRows := by
  have lines : last.screen.lines = first.screen.lines := congrArg Scene.lines same
  have columns : last.screen.columns = first.screen.columns := congrArg Scene.columns same
  have rows : last.screen.row = first.screen.row := congrArg Scene.row same
  simp only [Emulator.Screen.cellRows, Emulator.Screen.rowNumbers, lines, columns, rows]

end Surface

/-- The page without the text on it and without what it knows about tags. -/
def Page.paper (page : Page) : Page :=
  { page with styles := [], segments := [] }

theorem Page.segments_define (page : Page) (tag : String) (style : TagStyle) :
    (page.define tag style).segments = page.segments := by
  unfold define
  split <;> rfl

theorem Page.paper_define (page : Page) (tag : String) (style : TagStyle) : (page.define tag style).paper = page.paper := by
  unfold define
  split <;> rfl

def Segment.characters (segment : Segment) : List (Char × Option String) :=
  segment.text.map fun c => (c, segment.tag)

def Page.characters (page : Page) : List (Char × Option String) :=
  page.segments.flatMap Segment.characters

def Segment.lineBreak : Segment :=
  ⟨['\n'], none⟩

theorem flatMap_intercalate {α β : Type} (f : α → List β) (mark : List α) (pieces : List (List α)) :
    (List.intercalate mark pieces).flatMap f = List.intercalate (mark.flatMap f) (pieces.map (·.flatMap f)) := by
  induction pieces with
  | nil => rfl
  | cons piece rest ih =>
    cases rest with
    | nil => simp
    | cons next rest =>
      rw [List.map_cons] at ih
      rw [List.intercalate_cons_cons, List.flatMap_append, List.flatMap_append, ih, List.map_cons, List.map_cons,
        List.intercalate_cons_cons]

namespace Painting
open Emulator (Cell)

def tagOf? (theme : Theme) (cell : Cell) : Option String :=
  (CellColors.ofCell theme cell).toOption.map (·.tagName cell)

theorem tagOf?_known {theme : Theme} {cell : Cell} {colors : CellColors}
    (found : CellColors.ofCell theme cell = .ok colors) :
    tagOf? theme cell = some (colors.tagName cell) := by
  rw [tagOf?, found]
  rfl

theorem tagOf?_unknown {theme : Theme} {cell : Cell} {error : Theme.ColorError}
    (missing : CellColors.ofCell theme cell = .error error) :
    tagOf? theme cell = none := by
  rw [tagOf?, missing]
  rfl

theorem no_lacking {theme : Theme} {rows : List (List Cell)}
    (known : ∀ row ∈ rows, ∀ cell ∈ row, (tagOf? theme cell).isSome) :
    ¬ ∃ row ∈ rows, ∃ cell ∈ row, tagOf? theme cell = none := by
  rintro ⟨row, shown, cell, inside, missing⟩
  have tagged := known row shown cell inside
  rw [missing] at tagged
  cases tagged

/-- The characters of a cell, or one blank if it has none, each with the tag of the cell. -/
def charactersOf (theme : Theme) (cell : Cell) : List (Char × Option String) :=
  (if cell.data.isEmpty then [' '] else cell.data).map fun c => (c, tagOf? theme cell)

private theorem charactersOf_eq (theme : Theme) (cell : Cell) :
    charactersOf theme cell = (textOf cell).map fun c => (c, tagOf? theme cell) :=
  rfl

/-- Pieces of text with the characters of cells, where no two pieces next to each other have the same tag. -/
structure Holds (theme : Theme) (cells : List Cell) (pieces : List Segment) : Prop where
  known : ∀ cell ∈ cells, (tagOf? theme cell).isSome
  characters : pieces.flatMap Segment.characters = cells.flatMap (charactersOf theme)
  apart : pieces.IsChain fun first next => first.tag ≠ next.tag

section
variable {cell : Cell} {painting : Painting}

theorem tagFor_known {colors : CellColors} (found : CellColors.ofCell painting.surface.theme cell = .ok colors) :
    tagFor cell painting = .ok (colors.tagName cell) { painting with
      page := painting.page.define (colors.tagName cell) (colors.style painting.surface.theme cell) } := by
  unfold tagFor
  rw [get_bind]
  simp only [found]
  rfl

theorem tagFor_unknown {error : Theme.ColorError} (missing : CellColors.ofCell painting.surface.theme cell = .error error) :
    tagFor cell painting = .error error.failure painting := by
  unfold tagFor
  rw [get_bind]
  simp only [missing]
  rfl

end

/-- Whether a cell has a tag is all that asking for it depends on, and the page only learns how the tag is drawn. -/
theorem tagFor_cases (cell : Cell) (painting : Painting) {theme : Theme} (themed : painting.surface.theme = theme) :
    (∃ tag middle, tagFor cell painting = .ok tag middle ∧ middle.surface = painting.surface ∧
      middle.page.segments = painting.page.segments ∧ middle.page.paper = painting.page.paper ∧
      tagOf? theme cell = some tag) ∨
    (tagFor cell painting = .error Theme.ColorError.outOfRange.failure painting ∧ tagOf? theme cell = none) := by
  subst themed
  cases found : CellColors.ofCell painting.surface.theme cell with
  | ok colors =>
    exact .inl ⟨_, _, tagFor_known found, rfl, Page.segments_define .., Page.paper_define .., tagOf?_known found⟩
  | error error => exact .inr ⟨tagFor_unknown found, tagOf?_unknown found⟩

/-- A step ends with pieces that are put on the page, or for want of a colour. What is seen of the surface stays, and the
page changes only in its text and in what it knows about tags. -/
def Draws (painting : Painting) (act : PaintStep Unit) (added : List Segment → Prop) (stuck : Prop) : Prop :=
  (∃ last pieces, act painting = .ok () last ∧ (last.surface.scene = painting.surface.scene ∧
    last.page.paper = painting.page.paper) ∧ last.page.segments = painting.page.segments ++ pieces ∧ added pieces) ∨
  (∃ last, act painting = .error Theme.ColorError.outOfRange.failure last ∧ stuck)

namespace Draws
variable {painting : Painting} {act : PaintStep Unit} {added : List Segment → Prop} {stuck : Prop}

theorem weaken {other : List Segment → Prop} {worse : Prop} (draws : Draws painting act added stuck)
    (implies : ∀ pieces, added pieces → other pieces) (still : stuck → worse) : Draws painting act other worse := by
  rcases draws with ⟨last, pieces, ends, kept, segments, holds⟩ | ⟨last, ends, lacking⟩
  · exact .inl ⟨last, pieces, ends, kept, segments, implies pieces holds⟩
  · exact .inr ⟨last, ends, still lacking⟩

theorem bind (front back : List Segment → Prop) {next : Unit → PaintStep Unit} (draws : Draws painting act front stuck)
    (rest : ∀ middle : Painting, middle.surface.scene = painting.surface.scene → Draws middle (next ()) back stuck)
    (joined : ∀ first second, front first → back second → added (first ++ second)) :
    Draws painting (act >>= next) added stuck := by
  rcases draws with ⟨middle, first, ends, kept, segments, before⟩ | ⟨last, ends, lacking⟩
  · rcases rest middle kept.1 with ⟨last, second, ends', kept', segments', behind⟩ | ⟨last, ends', lacking⟩
    · refine .inl ⟨last, first ++ second, (bind_ok ends next).trans ends', ⟨kept'.1.trans kept.1, kept'.2.trans kept.2⟩, ?_,
        joined _ _ before behind⟩
      rw [segments', segments, List.append_assoc]
    · exact .inr ⟨last, (bind_ok ends next).trans ends', lacking⟩
  · exact .inr ⟨last, bind_error ends next, lacking⟩

private theorem of_middle {next : PaintStep Unit} {middle : Painting} (same : act painting = next middle)
    (scene : middle.surface.scene = painting.surface.scene) (segments : middle.page.segments = painting.page.segments)
    (paper : middle.page.paper = painting.page.paper) (draws : Draws middle next added stuck) :
      Draws painting act added stuck := by
  rcases draws with ⟨last, pieces, ends, kept, segments', holds⟩ | ⟨last, ends, lacking⟩
  · exact .inl ⟨last, pieces, same.trans ends, ⟨kept.1.trans scene, kept.2.trans paper⟩, segments ▸ segments', holds⟩
  · exact .inr ⟨last, same.trans ends, lacking⟩

theorem nothing (holds : added []) : Draws painting (pure ()) added stuck :=
  .inl ⟨painting, [], rfl, ⟨rfl, rfl⟩, (List.append_nil _).symm, holds⟩

theorem put (text : List Char) (tag : String) (holds : added [⟨text, some tag⟩]) :
    Draws painting (change (·.put text tag)) added stuck :=
  .inl ⟨{ painting with page := painting.page.put text tag }, _, rfl, ⟨rfl, rfl⟩, rfl, holds⟩

theorem breakLine (holds : added [Segment.lineBreak]) : Draws painting (change Page.breakLine) added stuck :=
  .inl ⟨{ painting with page := painting.page.breakLine }, _, rfl, ⟨rfl, rfl⟩, rfl, holds⟩

end Draws

/-- Pieces that begin with a text and go on with the characters of cells. -/
structure GoesOn (theme : Theme) (text : List Char) (tag : String) (cells : List Cell) (pieces : List Segment) : Prop where
  known : ∀ cell ∈ cells, (tagOf? theme cell).isSome
  characters : pieces.flatMap Segment.characters = text.map (fun c => (c, some tag)) ++ cells.flatMap (charactersOf theme)
  apart : pieces.IsChain fun first next => first.tag ≠ next.tag
  begun : ∃ first rest, pieces = ⟨first, some tag⟩ :: rest

namespace GoesOn
variable {theme : Theme} {text : List Char} {tag next : String} {cell : Cell} {cells : List Cell} {pieces : List Segment}

private theorem known_cons (tagged : tagOf? theme cell = some next) (known : ∀ cell ∈ cells, (tagOf? theme cell).isSome) :
    ∀ other ∈ cell :: cells, (tagOf? theme other).isSome := by
  intro other member
  rcases List.mem_cons.mp member with rfl | member
  · rw [tagged]
    rfl
  · exact known other member

theorem same (goesOn : GoesOn theme (text ++ textOf cell) tag cells pieces) (tagged : tagOf? theme cell = some tag) :
    GoesOn theme text tag (cell :: cells) pieces where
  known := known_cons tagged goesOn.known
  characters := by
    rw [goesOn.characters, List.map_append, List.append_assoc, List.flatMap_cons, charactersOf_eq, tagged]
  apart := goesOn.apart
  begun := by
    obtain ⟨first, rest, shape⟩ := goesOn.begun
    exact ⟨first, rest, shape⟩

theorem other (goesOn : GoesOn theme (textOf cell) next cells pieces) (tagged : tagOf? theme cell = some next)
    (different : next ≠ tag) : GoesOn theme text tag (cell :: cells) (⟨text, some tag⟩ :: pieces) where
  known := known_cons tagged goesOn.known
  characters := by
    rw [List.flatMap_cons, goesOn.characters, List.flatMap_cons, charactersOf_eq, tagged]
    rfl
  apart := by
    obtain ⟨first, rest, rfl⟩ := goesOn.begun
    have here : some tag ≠ some next := fun equal => different (Option.some.inj equal).symm
    exact .cons_cons here goesOn.apart
  begun := ⟨text, pieces, rfl⟩

end GoesOn

private theorem paintCells_draws {theme : Theme} (cells : List Cell) {text : List Char} {tag : String} {painting : Painting}
    (themed : painting.surface.theme = theme) : Draws painting (paintCells text tag cells)
      (GoesOn theme text tag cells) (∃ cell ∈ cells, tagOf? theme cell = none) := by
  induction cells generalizing text tag painting with
  | nil =>
    refine Draws.put text tag ⟨nofun, ?_, .singleton _, text, [], rfl⟩
    simp [Segment.characters]
  | cons cell rest ih =>
    have later : (∃ cell ∈ rest, tagOf? theme cell = none) → ∃ other ∈ cell :: rest, tagOf? theme other = none :=
      fun ⟨other, member, missing⟩ => ⟨other, List.mem_cons_of_mem _ member, missing⟩
    rcases tagFor_cases cell painting themed with ⟨next, middle, ends, surface, segments, paper, tagged⟩ | ⟨ends, missing⟩
    · refine Draws.of_middle (bind_ok ends _) (congrArg Surface.scene surface) segments paper ?_
      split
      next same =>
        obtain rfl : next = tag := beq_iff_eq.mp same
        exact (ih (surface ▸ themed)).weaken (fun pieces goesOn => goesOn.same tagged) later
      next different =>
        have different : next ≠ tag := fun equal => different (beq_iff_eq.mpr equal)
        refine Draws.bind (· = [⟨text, some tag⟩]) (GoesOn theme (textOf cell) next rest)
          (Draws.put text tag rfl) (fun other scene => (ih ?_).weaken (fun _ => id) later) ?_
        · exact (congrArg Surface.Scene.theme scene).trans (surface ▸ themed)
        · rintro front back rfl goesOn
          exact goesOn.other tagged different
    · exact .inr ⟨painting, bind_error ends _, cell, List.mem_cons_self, missing⟩

theorem paintRow_draws (cells : List Cell) (painting : Painting) :
    Draws painting (paintRow cells) (Holds painting.surface.theme cells)
      (∃ cell ∈ cells, tagOf? painting.surface.theme cell = none) := by
  cases cells with
  | nil => exact .nothing ⟨nofun, rfl, .nil⟩
  | cons cell rest =>
    have later : (∃ other ∈ rest, tagOf? painting.surface.theme other = none) →
        ∃ other ∈ cell :: rest, tagOf? painting.surface.theme other = none :=
      fun ⟨other, member, missing⟩ => ⟨other, List.mem_cons_of_mem _ member, missing⟩
    rcases tagFor_cases cell painting rfl with ⟨tag, middle, ends, surface, segments, paper, tagged⟩ | ⟨ends, missing⟩
    · refine Draws.of_middle (bind_ok ends _) (congrArg Surface.scene surface) segments paper ?_
      refine (paintCells_draws rest (congrArg Surface.theme surface)).weaken (fun pieces goesOn => ?_) later
      refine ⟨GoesOn.known_cons tagged goesOn.known, ?_, goesOn.apart⟩
      rw [goesOn.characters, List.flatMap_cons, charactersOf_eq, tagged]
    · exact .inr ⟨painting, bind_error ends _, cell, List.mem_cons_self, missing⟩

def cellsAt (scene : Surface.Scene) (y : Int) : List Cell :=
  (scene.row y).firstCells scene.columns.toNat

theorem readRow_ends (y : Int) (painting : Painting) : readRow y painting =
    .ok (cellsAt painting.surface.scene y) { painting with surface := painting.surface.touchRow y } := by
  have seen : cellsAt (painting.surface.touchRow y).scene y = cellsAt painting.surface.scene y := by
    rw [Surface.scene_touchRow]
  rw [← seen]
  rfl

def HoldsRows (theme : Theme) (rows : List (List Cell)) (segments : List Segment) : Prop :=
  ∃ pieces, segments = List.intercalate [Segment.lineBreak] pieces ∧ List.Forall₂ (Holds theme) rows pieces

theorem HoldsRows.parts {theme : Theme} {rows : List (List Cell)} {pieces : List (List Segment)}
    (each : List.Forall₂ (Holds theme) rows pieces) : (∀ row ∈ rows, ∀ cell ∈ row, (tagOf? theme cell).isSome) ∧
      pieces.map (·.flatMap Segment.characters) = rows.map (·.flatMap (charactersOf theme)) ∧
      ∀ row ∈ pieces, row.IsChain fun first next => first.tag ≠ next.tag := by
  induction each with
  | nil => exact ⟨nofun, rfl, nofun⟩
  | cons first _ ih =>
    refine ⟨?_, ?_, ?_⟩
    · exact List.forall_mem_cons.mpr ⟨first.known, ih.1⟩
    · rw [List.map_cons, List.map_cons, first.characters, ih.2.1]
    · exact List.forall_mem_cons.mpr ⟨first.apart, ih.2.2⟩

theorem Holds.cons_rows {theme : Theme} {row next : List Cell} {rows : List (List Cell)} {pieces segments : List Segment}
    (first : Holds theme row pieces) (rest : HoldsRows theme (next :: rows) segments) :
    HoldsRows theme (row :: next :: rows) (pieces ++ ([Segment.lineBreak] ++ segments)) := by
  obtain ⟨others, rfl, each⟩ := rest
  refine ⟨pieces :: others, ?_, .cons first each⟩
  cases each with
  | cons => rw [List.intercalate_cons_cons, List.append_assoc]

private theorem paintRows_draws (rows : List Int) {scene : Surface.Scene} {painting : Painting}
    (seen : painting.surface.scene = scene) : Draws painting (paintRows rows)
      (HoldsRows scene.theme (rows.map (cellsAt scene)))
      (∃ row ∈ rows.map (cellsAt scene), ∃ cell ∈ row, tagOf? scene.theme cell = none) := by
  induction rows generalizing painting with
  | nil => exact .nothing ⟨[], rfl, .nil⟩
  | cons y rest ih =>
    unfold paintRows
    have touched : (painting.surface.touchRow y).scene = scene := (Surface.scene_touchRow ..).trans seen
    have cells : cellsAt painting.surface.scene y = cellsAt scene y := by rw [seen]
    have themed : painting.surface.theme = scene.theme := congrArg Surface.Scene.theme seen
    refine Draws.of_middle (bind_ok (readRow_ends y painting) _) (Surface.scene_touchRow ..) rfl rfl ?_
    rw [cells]
    have row : Draws { painting with surface := painting.surface.touchRow y } (paintRow (cellsAt scene y))
        (Holds scene.theme (cellsAt scene y)) (∃ row ∈ (y :: rest).map (cellsAt scene), ∃ cell ∈ row,
          tagOf? scene.theme cell = none) := by
      refine (paintRow_draws (cellsAt scene y) _).weaken (fun pieces holds => themed ▸ holds) fun lacking => ?_
      exact ⟨cellsAt scene y, List.mem_cons_self, themed ▸ lacking⟩
    cases rest with
    | nil =>
      refine row.bind _ (· = []) (fun middle same => .nothing rfl) ?_
      rintro front back holds rfl
      exact ⟨[front], by simp, .cons holds .nil⟩
    | cons next rest =>
      refine row.bind _ (fun segments => ∃ rows, segments = [Segment.lineBreak] ++ rows ∧
        HoldsRows scene.theme ((next :: rest).map (cellsAt scene)) rows) (fun middle same => ?_) ?_
      · refine Draws.bind (· = [Segment.lineBreak]) (HoldsRows scene.theme ((next :: rest).map (cellsAt scene)))
          (Draws.breakLine rfl) (fun other same' => ?_) ?_
        · exact (ih (same'.trans (same.trans touched))).weaken (fun _ => id) fun ⟨row, member, lacking⟩ =>
            ⟨row, List.mem_cons_of_mem _ member, lacking⟩
        · rintro front back rfl holds
          exact ⟨back, rfl, holds⟩
      · rintro front back holds ⟨rows, rfl, others⟩
        exact holds.cons_rows others

def linksOf (scene : Surface.Scene) : List Emulator.RowLink :=
  (Emulator.Screen.span 0 scene.lines).flatMap fun y =>
    (Link.findLinks ((scene.row y).spacedText scene.columns.toNat)).map fun link => ⟨y, link⟩

theorem links_ends (surface : Surface) :
    ∃ later, Surface.links surface = .ok (linksOf surface.scene) later ∧ later.scene = surface.scene := by
  obtain ⟨later, ends, -⟩ := surface.links_eq
  have last : after Surface.links surface = later := by simp only [after, ends]
  exact ⟨later, ends, last ▸ Surface.scene_touchRows surface.screen.rowNumbers surface⟩

def spanOf (link : Emulator.RowLink) : Span :=
  ⟨link.row, link.link.start, link.link.stop⟩

theorem paintLinks_ends (painting : Painting) : ∃ later, later.scene = painting.surface.scene ∧
    paintLinks painting = .ok () ⟨later, { painting.page with
      links := painting.page.links ++ (linksOf painting.surface.scene).map spanOf }⟩ := by
  obtain ⟨later, ends, scene⟩ := links_ends painting.surface
  have linked (links : List Emulator.RowLink) (page : Page) :
      links.foldl (fun page link => page.link (spanOf link)) page =
        { page with links := page.links ++ links.map spanOf } := by
    induction links generalizing page with
    | nil => simp
    | cons link rest ih =>
      rw [List.foldl_cons, ih]
      simp [Page.link]
  have put : paintLinks painting = .ok () ⟨later, (linksOf painting.surface.scene).foldl
      (fun page link => page.link (spanOf link)) painting.page⟩ := by
    unfold paintLinks
    rw [get_bind]
    simp only [ends]
    rfl
  exact ⟨later, scene, by rw [put, linked]⟩

/-- A drawing that came to its end. -/
structure Drawn (painting painted : Painting) : Prop where
  scene : painted.surface.scene = painting.surface.scene
  text : HoldsRows painting.surface.theme painting.surface.screen.cellRows painted.page.segments
  links : painted.page.links = (linksOf painting.surface.scene).map spanOf
  background : painted.page.background = painting.surface.theme.background
  foreground : painted.page.foreground = painting.surface.theme.foreground

theorem Drawn.marked {painting painted : Painting} (drawn : Drawn painting painted) (mark : Option (Int × Int)) :
    Drawn painting { painted with page := { painted.page with mark := mark } } :=
  ⟨drawn.scene, drawn.text, drawn.links, drawn.background, drawn.foreground⟩

theorem paint_cases (takesMark : Bool) (painting : Painting) :
    (∃ painted, paint takesMark painting = .ok () painted ∧ Drawn painting painted) ∨
    (∃ last, paint takesMark painting = .error Theme.ColorError.outOfRange.failure last ∧
      ∃ row ∈ painting.surface.screen.cellRows, ∃ cell ∈ row, tagOf? painting.surface.theme cell = none) := by
  let started : Painting := ⟨{ painting.surface with dirty := false }, (painting.page.recolor painting.surface.theme).clear⟩
  have begun : paint takesMark painting = (do
      paintRows painting.surface.screen.rowNumbers
      paintLinks
      if takesMark then paintCursor) started := rfl
  have seen : started.surface.scene = painting.surface.scene := rfl
  rcases paintRows_draws painting.surface.screen.rowNumbers seen with
    ⟨middle, segments, ends, ⟨scene, paper⟩, text, holds⟩ | ⟨last, ends, lacking⟩
  · obtain ⟨later, scene', ends'⟩ := paintLinks_ends middle
    have linked : Drawn painting ⟨later, { middle.page with
        links := middle.page.links ++ (linksOf middle.surface.scene).map spanOf }⟩ := by
      constructor
      case scene => exact scene'.trans scene
      case text => exact (show middle.page.segments = segments from text) ▸ holds
      case links =>
        have none : middle.page.links = [] := congrArg Page.links paper
        simp only [none, scene, seen, List.nil_append]
      case background => exact congrArg Page.background paper
      case foreground => exact congrArg Page.foreground paper
    have drawn := begun.trans ((bind_ok ends _).trans (bind_ok ends' _))
    cases takesMark with
    | false => exact .inl ⟨_, drawn, linked⟩
    | true => exact .inl ⟨_, drawn, linked.marked _⟩
  · exact .inr ⟨last, begun.trans (bind_error ends _), lacking⟩

/-- Whatever a screen shows, and in whatever style: unless a cell has a colour that the theme lacks, its characters
are put on the page row by row, each with the tag of its cell, an empty cell as a blank, with a line break without a
tag between any two rows and none behind the last. The pieces in which this is done differ in their tags from one to
the next. -/
theorem drawn_cell_by_cell (takesMark : Bool) (painting : Painting) :
    let theme := painting.surface.theme
    let rows := painting.surface.screen.cellRows
    match paint takesMark painting with
    | .ok _ painted =>
      (∀ row ∈ rows, ∀ cell ∈ row, (tagOf? theme cell).isSome) ∧
      painted.page.characters = List.intercalate [('\n', none)] (rows.map (·.flatMap (charactersOf theme))) ∧
      ∃ pieces : List (List Segment), painted.page.segments = List.intercalate [Segment.lineBreak] pieces ∧
        pieces.map (·.flatMap Segment.characters) = rows.map (·.flatMap (charactersOf theme)) ∧
        ∀ row ∈ pieces, row.IsChain fun first next => first.tag ≠ next.tag
    | .error failure _ => failure = .fault .index "tuple index out of range" ∧
      ∃ row ∈ rows, ∃ cell ∈ row, tagOf? theme cell = none := by
  intro theme rows
  rcases paint_cases takesMark painting with ⟨painted, ends, drawn⟩ | ⟨last, ends, lacking⟩
  · rw [ends]
    obtain ⟨pieces, segments, each⟩ := drawn.text
    obtain ⟨known, characters, apart⟩ := HoldsRows.parts each
    refine ⟨known, ?_, pieces, segments, characters, apart⟩
    rw [Page.characters, segments, flatMap_intercalate, characters]
    rfl
  · rw [ends]
    exact ⟨rfl, lacking⟩

/-- A wide character in bold red: its second cell holds no text. -/
def widely : Painting :=
  let factory : SurfaceFactory := { theme := .ofScheme "dark", font := .estimate "mono" (.whole 13) }
  let surface := after (Surface.write "\x1b[1;31m漢".toUTF8.toList) (factory.makeSized ⟨2, 3⟩)
  ⟨surface, .create surface.theme surface.font surface.padding⟩

theorem drawn_cell_by_cell_widely : ∃ painted, paint true widely = .ok () painted ∧ painted.page.characters =
    [('漢', some "cff7b72_B"), (' ', some "cff7b72_B"), (' ', some "ce6edf3"), ('\n', none),
      (' ', some "ce6edf3"), (' ', some "ce6edf3"), (' ', some "ce6edf3")] := by
  have known : ∀ row ∈ widely.surface.screen.cellRows, ∀ cell ∈ row, (tagOf? widely.surface.theme cell).isSome := by
    decide +kernel
  have drawn := drawn_cell_by_cell true widely
  cases ends : paint true widely with
  | error failure last =>
    rw [ends] at drawn
    exact absurd drawn.2 (no_lacking known)
  | ok _ painted =>
    rw [ends] at drawn
    exact ⟨painted, rfl, drawn.2.1.trans (by decide +kernel)⟩

end Painting
end TerminalDock
