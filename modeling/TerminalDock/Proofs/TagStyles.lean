import TerminalDock.Proofs.ColorWords
import TerminalDock.Proofs.LinkClicks

/-! How tags are drawn. The name of a tag gives away the colours and the marks that it stands for, so whatever a page once
learned about a tag is still right later, but for one thing: a background that was left out, because it was that of the
theme, is then drawn as that of another theme. -/

namespace TerminalDock
open Proofs.Steps

/-- A colour that can be told from what comes after it in the name of a tag: a sign, and six characters or more without an
underscore among them, or just six. -/
def ReadsAlone (color : String) : Prop :=
  ∃ digits, color.toList = '#' :: digits ∧ 6 ≤ digits.length ∧ (digits.length = 6 ∨ '_' ∉ digits)

namespace Theme

def Regular (theme : Theme) : Prop :=
  ∀ color ∈ theme.background :: theme.foreground :: theme.ansi, color.toList.head? = some '#' ∧ color.toList.length = 7

instance (theme : Theme) : Decidable theme.Regular :=
  inferInstanceAs (Decidable (∀ color ∈ _, _))

theorem ofScheme_regular (scheme : String) : (ofScheme scheme).Regular := by
  have both : light.Regular ∧ dark.Regular := by decide +kernel
  unfold ofScheme
  split
  · exact both.1
  · exact both.2

theorem Regular.reads {theme : Theme} (regular : theme.Regular) {color : String}
    (member : color ∈ theme.background :: theme.foreground :: theme.ansi) : ReadsAlone color := by
  obtain ⟨sign, length⟩ := regular color member
  obtain ⟨digits, shape⟩ := List.head?_eq_some_iff.mp sign
  have six : digits.length = 6 := by simpa [shape] using length
  exact ⟨digits, shape, by omega, .inl six⟩

private theorem component_reads (value : Nat) : 2 ≤ (component value).length ∧ '_' ∉ component value := by
  refine ⟨two_le_component value, ?_⟩
  intro member
  exact absurd (mem_component member) (by decide)

private theorem ofParts_reads (red green blue : Nat) : ReadsAlone (ofParts red green blue) := by
  obtain ⟨red', redPlain⟩ := component_reads red
  obtain ⟨green', greenPlain⟩ := component_reads green
  obtain ⟨blue', bluePlain⟩ := component_reads blue
  refine ⟨_, String.toList_ofList, ?_, .inr ?_⟩
  · simp only [List.length_append]
    omega
  · simp only [List.mem_append, redPlain, greenPlain, bluePlain, or_self, not_false_eq_true]

section
variable {theme : Theme} (regular : theme.Regular) {color : String}
include regular

private theorem ansiAt_reads {index : Int} (found : theme.ansiAt index = .ok color) : ReadsAlone color := by
  unfold ansiAt at found
  dsimp only at found
  generalize (if index < 0 then index + (theme.ansi.length : Int) else index) = place at found
  split at found
  · cases found
  · split at found
    next known =>
      cases found
      exact regular.reads (List.mem_cons_of_mem _ (List.mem_cons_of_mem _ (List.mem_of_getElem? known)))
    next => cases found

private theorem indexed_reads {index : Int} (found : theme.indexed index = .ok color) : ReadsAlone color := by
  unfold indexed at found
  split at found
  · exact ansiAt_reads regular found
  · split at found <;> cases found
    · exact ofParts_reads ..
    · exact ofParts_reads ..

/-- Whatever is asked for, a theme gives a colour that can be told from what comes after it. -/
theorem color_reads {request : ColorRequest} {default : Option String} (given : ∀ color ∈ default, ReadsAlone color)
    (found : theme.color request default = .ok (some color)) : ReadsAlone color := by
  have mapped {result : Except ColorError String} (found : result.map some = .ok (some color)) : result = .ok color := by
    cases result <;> cases found
    rfl
  have kept (found : (Except.ok default : Except ColorError (Option String)) = .ok (some color)) : ReadsAlone color := by
    cases found
    exact given color rfl
  cases request with
  | unset => exact kept found
  | number index => exact indexed_reads regular (mapped found)
  | named name =>
    unfold Theme.color at found
    dsimp only at found
    split at found
    · exact kept found
    · split at found
      · exact ansiAt_reads regular (mapped found)
      · generalize (if (Text.lower name.toList).head? == some '#' then _ else _) = digits at found
        split at found
        next long =>
          split at found
          · cases found
            exact ⟨_, String.toList_ofList, by simp [long], .inl (by simp [long])⟩
          · exact kept found
        next =>
          split at found
          · exact indexed_reads regular (mapped found)
          · exact kept found

end

end Theme

namespace CellColors
open Emulator (Cell)

structure Readable (colors : CellColors) : Prop where
  foreground : ReadsAlone colors.foreground
  background : ∀ color ∈ colors.background, ReadsAlone color

private theorem ofCell_readable {theme : Theme} (regular : theme.Regular) {cell : Cell} {colors : CellColors}
    (found : ofCell theme cell = .ok colors) : colors.Readable := by
  have ground : ReadsAlone theme.background := regular.reads List.mem_cons_self
  have own : ReadsAlone theme.foreground := regular.reads (List.mem_cons_of_mem _ List.mem_cons_self)
  unfold ofCell at found
  cases front : theme.color (.named cell.fg) (some theme.foreground) with
  | error error =>
    rw [front] at found
    cases found
  | ok foreground =>
    cases back : theme.color (.named cell.bg) none with
    | error error =>
      rw [front, back] at found
      cases found
    | ok background =>
      rw [front, back] at found
      have first : ReadsAlone (foreground.getD theme.foreground) := by
        cases foreground with
        | none => exact own
        | some color =>
          refine Theme.color_reads regular (fun color given => ?_) front
          cases given
          exact own
      have second : ∀ color ∈ background, ReadsAlone color := by
        intro color given
        cases given
        exact Theme.color_reads regular (fun color given => absurd given (Option.not_mem_none color)) back
      change (if cell.reverse then (Except.ok _ : Except Theme.ColorError CellColors) else Except.ok _) = _ at found
      split at found <;> cases found
      next =>
        refine ⟨?_, fun color given => ?_⟩
        · cases background with
          | none => exact ground
          | some color => exact second color rfl
        · cases given
          exact first
      next => exact ⟨first, second⟩

def marks (cell : Cell) : List Char :=
  (if cell.bold then ['_', 'B'] else []) ++ (if cell.italics then ['_', 'I'] else []) ++
    (if cell.underscore then ['_', 'U'] else [])

def groundName (background : Option String) : List Char :=
  match background with
  | none => []
  | some color => '_' :: 'b' :: color.toList.drop 1

private theorem toList_tagName (colors : CellColors) (cell : Cell) : (colors.tagName cell).toList =
    'c' :: (colors.foreground.toList.drop 1 ++ (groundName colors.background ++ marks cell)) := by
  unfold tagName groundName marks digits
  cases colors.background <;> cases cell.bold <;> cases cell.italics <;> cases cell.underscore <;> simp

private theorem marks_head (cell : Cell) : ∀ c ∈ (marks cell).head?, c = '_' := by
  unfold marks
  cases cell.bold <;> cases cell.italics <;> cases cell.underscore <;> simp

private theorem groundName_head (background : Option String) (cell : Cell) :
    ∀ c ∈ (groundName background ++ marks cell).head?, c = '_' := by
  cases background with
  | none => exact marks_head cell
  | some color => simp [groundName]

/-- What is written without an underscore, or with six characters, ends where the next underscore is or after these six. -/
theorem digits_ended {front between rest : List Char} (long : 6 ≤ front.length)
    (reads : (front ++ between).length = 6 ∨ '_' ∉ front ++ between) (head : ∀ c ∈ (between ++ rest).head?, c = '_') :
    between = [] := by
  cases between with
  | nil => rfl
  | cons c between =>
    obtain rfl : c = '_' := head c rfl
    rcases reads with six | plain
    · simp only [List.length_append, List.length_cons] at six
      omega
    · exact absurd (by simp) plain

private theorem digits_inj {first second : String} (reads : ReadsAlone first) (reads' : ReadsAlone second)
    {rest other : List Char}
    (head : ∀ c ∈ rest.head?, c = '_') (head' : ∀ c ∈ other.head?, c = '_')
    (same : first.toList.drop 1 ++ rest = second.toList.drop 1 ++ other) : first = second ∧ rest = other := by
  obtain ⟨digits, shape, long, ended⟩ := reads
  obtain ⟨digits', shape', long', ended'⟩ := reads'
  rw [shape, shape', List.drop_one, List.drop_one, List.tail_cons, List.tail_cons] at same
  have equal : digits = digits' ∧ rest = other := by
    rcases List.append_eq_append_iff.mp same with ⟨between, rfl, rfl⟩ | ⟨between, rfl, rfl⟩
    · simp [digits_ended long ended' head]
    · simp [digits_ended long' ended head']
  exact ⟨String.toList_inj.mp (by rw [shape, shape', equal.1]), equal.2⟩

private theorem marks_inj {cell other : Cell} (same : marks cell = marks other) :
    cell.bold = other.bold ∧ cell.italics = other.italics ∧ cell.underscore = other.underscore := by
  unfold marks at same
  revert same
  cases cell.bold <;> cases cell.italics <;> cases cell.underscore <;> cases other.bold <;> cases other.italics <;>
    cases other.underscore <;> simp

private theorem marks_ne_ground (cell : Cell) (rest : List Char) : marks cell ≠ '_' :: 'b' :: rest := by
  unfold marks
  cases cell.bold <;> cases cell.italics <;> cases cell.underscore <;> simp

private theorem ground_inj {background background' : Option String} (reads : ∀ color ∈ background, ReadsAlone color)
    (reads' : ∀ color ∈ background', ReadsAlone color) {cell other : Cell}
    (same : groundName background ++ marks cell = groundName background' ++ marks other) :
    background = background' ∧ marks cell = marks other := by
  cases background with
  | none =>
    cases background' with
    | none => exact ⟨rfl, same⟩
    | some color => exact absurd same (marks_ne_ground cell _)
  | some color =>
    cases background' with
    | none => exact absurd same.symm (marks_ne_ground other _)
    | some color' =>
      obtain ⟨equal, marks⟩ := digits_inj (reads color rfl) (reads' color' rfl) (marks_head cell) (marks_head other)
        (List.cons.inj (List.cons.inj same).2).2
      exact ⟨congrArg some equal, marks⟩

/-- The name of a tag gives away what it stands for. -/
theorem tagName_inj {colors others : CellColors} (readable : colors.Readable) (readable' : others.Readable)
    {cell other : Cell}
    (same : colors.tagName cell = others.tagName other) :
    colors = others ∧ cell.bold = other.bold ∧ cell.italics = other.italics ∧ cell.underscore = other.underscore := by
  have names := congrArg String.toList same
  rw [toList_tagName, toList_tagName, List.cons.injEq] at names
  obtain ⟨foreground, behind⟩ := digits_inj readable.foreground readable'.foreground (groundName_head _ cell)
    (groundName_head _ other) names.2
  obtain ⟨background, marks⟩ := ground_inj readable.background readable'.background behind
  refine ⟨?_, marks_inj marks⟩
  rw [CellColors.mk.injEq]
  exact ⟨foreground, background⟩

private theorem tagName_ne_link (colors : CellColors) (cell : Cell) : colors.tagName cell ≠ Page.linkTag := by
  intro same
  have names := congrArg String.toList same
  rw [toList_tagName] at names
  cases names

end CellColors

namespace Assoc
variable {κ α : Type} [DecidableEq κ]

def extend (table entries : Assoc κ α) : Assoc κ α :=
  entries.foldl (fun table entry => if table.has entry.1 then table else table.put entry.1 entry.2) table

private theorem extend_cons (table : Assoc κ α) (key : κ) (value : α) (rest : Assoc κ α) :
    table.extend ((key, value) :: rest) =
    Assoc.extend (if table.has key then table else table.put key value) rest := rfl

private theorem extend_append (table first second : Assoc κ α) :
    table.extend (first ++ second) = (table.extend first).extend second :=
  List.foldl_append

theorem find?_append (key : κ) (first second : Assoc κ α) :
    Assoc.find? key (first ++ second) = (first.find? key).or (second.find? key) := by
  induction first with
  | nil => rfl
  | cons entry rest ih =>
    obtain ⟨name, value⟩ := entry
    rw [List.cons_append, find?_cons, find?_cons]
    split
    · rfl
    · exact ih

private theorem find?_extend (key : κ) (table entries : Assoc κ α) :
    (table.extend entries).find? key = (table.find? key).or (entries.find? key) := by
  induction entries generalizing table with
  | nil => exact (Option.or_none).symm
  | cons entry rest ih =>
    obtain ⟨name, value⟩ := entry
    rw [extend_cons, ih, find?_cons]
    by_cases same : name = key
    · subst same
      cases found : table.find? name with
      | none => simp [has, found, find?_put_self]
      | some old => simp [has, found]
    · rw [if_neg same]
      split
      · rfl
      · rw [find?_put_of_ne (Ne.symm same)]

end Assoc

theorem Page.styles_define (page : Page) (tag : String) (style : TagStyle) :
    (page.define tag style).styles = page.styles.extend [(tag, style)] := by
  unfold define
  rw [Assoc.extend_cons]
  split <;> rfl

namespace Painting
open Emulator (Cell)

/-- How the tags of cells are drawn, up to the first cell that has a colour the theme lacks. -/
def lessons (theme : Theme) : List Cell → Assoc String TagStyle
  | [] => []
  | cell :: rest =>
    match CellColors.ofCell theme cell with
    | .error _ => []
    | .ok colors => (colors.tagName cell, colors.style theme cell) :: lessons theme rest

section
variable {theme : Theme} {cell : Cell} {rest : List Cell}

private theorem lessons_known {colors : CellColors} (found : CellColors.ofCell theme cell = .ok colors) :
    lessons theme (cell :: rest) = [(colors.tagName cell, colors.style theme cell)] ++ lessons theme rest := by
  simp only [lessons, found, List.singleton_append]

private theorem lessons_unknown {error : Theme.ColorError} (missing : CellColors.ofCell theme cell = .error error) :
    lessons theme (cell :: rest) = [] := by
  simp only [lessons, missing]

end

private theorem lessons_append {theme : Theme} {first : List Cell} (known : ∀ cell ∈ first, (tagOf? theme cell).isSome)
    (second : List Cell) : lessons theme (first ++ second) = lessons theme first ++ lessons theme second := by
  induction first with
  | nil => rfl
  | cons cell rest ih =>
    have tagged := known cell List.mem_cons_self
    cases found : CellColors.ofCell theme cell with
    | error error =>
      rw [tagOf?_unknown found] at tagged
      cases tagged
    | ok colors =>
      rw [List.cons_append, lessons_known found, lessons_known found,
        ih fun other member => known other (List.mem_cons_of_mem _ member), List.append_assoc]

private theorem lessons_stuck {theme : Theme} {first : List Cell} (lacking : ∃ cell ∈ first, tagOf? theme cell = none)
    (second : List Cell) : lessons theme (first ++ second) = lessons theme first := by
  induction first with
  | nil =>
    obtain ⟨cell, member, -⟩ := lacking
    cases member
  | cons cell rest ih =>
    cases found : CellColors.ofCell theme cell with
    | error error => rw [List.cons_append, lessons_unknown found, lessons_unknown found]
    | ok colors =>
      have later : ∃ cell ∈ rest, tagOf? theme cell = none := by
        obtain ⟨other, member, missing⟩ := lacking
        rcases List.mem_cons.mp member with rfl | member
        · rw [tagOf?_known found] at missing
          cases missing
        · exact ⟨other, member, missing⟩
      rw [List.cons_append, lessons_known found, lessons_known found, ih later]

private theorem mem_lessons {theme : Theme} {cells : List Cell} {tag : String} {style : TagStyle}
    (member : (tag, style) ∈ lessons theme cells) : ∃ cell ∈ cells, ∃ colors,
      CellColors.ofCell theme cell = .ok colors ∧ colors.tagName cell = tag ∧ colors.style theme cell = style := by
  induction cells with
  | nil => cases member
  | cons cell rest ih =>
    cases found : CellColors.ofCell theme cell with
    | error error =>
      rw [lessons_unknown found] at member
      cases member
    | ok colors =>
      rw [lessons_known found] at member
      rcases List.mem_append.mp member with here | later
      · cases List.mem_singleton.mp here
        exact ⟨cell, List.mem_cons_self, colors, found, rfl, rfl⟩
      · obtain ⟨other, inside, named⟩ := ih later
        exact ⟨other, List.mem_cons_of_mem _ inside, named⟩

private theorem lessons_has {theme : Theme} {cells : List Cell} (known : ∀ cell ∈ cells, (tagOf? theme cell).isSome)
    {cell : Cell}
    (member : cell ∈ cells) {colors : CellColors} (found : CellColors.ofCell theme cell = .ok colors) :
    ∃ style, (lessons theme cells).find? (colors.tagName cell) = some style := by
  obtain ⟨front, back, rfl⟩ := List.append_of_mem member
  have before : ∀ other ∈ front, (tagOf? theme other).isSome :=
    fun other inside => known other (List.mem_append_left _ inside)
  rw [lessons_append before, lessons_known found, Assoc.find?_append]
  cases (lessons theme front).find? (colors.tagName cell) with
  | none => exact ⟨colors.style theme cell, by simp [Assoc.find?_cons]⟩
  | some style => exact ⟨style, rfl⟩

private theorem paintCells_learns (cells : List Cell) {text : List Char} {tag : String} (painting : Painting) :
    (after (paintCells text tag cells) painting).page.styles =
      painting.page.styles.extend (lessons painting.surface.theme cells) := by
  induction cells generalizing text tag painting with
  | nil => rfl
  | cons cell rest ih =>
    unfold paintCells
    rw [after_bind]
    cases found : CellColors.ofCell painting.surface.theme cell with
    | error error => simp only [tagFor_unknown found, lessons_unknown found, Assoc.extend, List.foldl_nil]
    | ok colors =>
      simp only [tagFor_known found, lessons_known found, Assoc.extend_append, ← Page.styles_define]
      split
      · exact ih _
      · exact ih _

private theorem paintRow_learns (cells : List Cell) (painting : Painting) : (after (paintRow cells) painting).page.styles =
    painting.page.styles.extend (lessons painting.surface.theme cells) := by
  cases cells with
  | nil => rfl
  | cons cell rest =>
    unfold paintRow
    rw [after_bind]
    cases found : CellColors.ofCell painting.surface.theme cell with
    | error error => simp only [tagFor_unknown found, lessons_unknown found, Assoc.extend, List.foldl_nil]
    | ok colors =>
      simp only [tagFor_known found, lessons_known found, Assoc.extend_append, ← Page.styles_define]
      exact paintCells_learns rest _

private theorem paintRows_learns (rows : List Int) {scene : Surface.Scene} {painting : Painting}
    (seen : painting.surface.scene = scene) : (after (paintRows rows) painting).page.styles =
      painting.page.styles.extend (lessons scene.theme (rows.flatMap (cellsAt scene))) := by
  induction rows generalizing painting with
  | nil => rfl
  | cons y rest ih =>
    subst seen
    let touched : Painting := { painting with surface := painting.surface.touchRow y }
    have same : touched.surface.scene = painting.surface.scene := Surface.scene_touchRow ..
    have learned := paintRow_learns (cellsAt painting.surface.scene y) touched
    unfold paintRows
    rw [after_bind, readRow_ends]
    dsimp only
    rw [after_bind, List.flatMap_cons]
    rcases paintRow_draws (cellsAt painting.surface.scene y) touched with
      ⟨middle, pieces, ends, ⟨scene, -⟩, -, holds⟩ | ⟨last, ends, lacking⟩
    · have known : ∀ cell ∈ cellsAt painting.surface.scene y, (tagOf? painting.surface.scene.theme cell).isSome :=
        holds.known
      simp only [after, ends] at learned
      rw [ends, lessons_append known, Assoc.extend_append]
      refine Eq.trans ?_ (congrArg (Assoc.extend · _) learned)
      cases rest with
      | nil => rfl
      | cons next rest => exact ih (scene.trans same)
    · have lacking : ∃ cell ∈ cellsAt painting.surface.scene y, tagOf? painting.surface.scene.theme cell = none := lacking
      simp only [after, ends] at learned
      rw [ends, lessons_stuck lacking]
      exact learned

/-- Drawing a surface teaches the page what it does not know of the cells on the screen. -/
theorem paint_learns (takesMark : Bool) (painting : Painting) : (after (paint takesMark) painting).page.styles =
    painting.page.styles.extend (lessons painting.surface.theme painting.surface.screen.cellRows.flatten) := by
  let started : Painting := ⟨{ painting.surface with dirty := false }, (painting.page.recolor painting.surface.theme).clear⟩
  have begun : after (paint takesMark) painting = after (do
      paintRows painting.surface.screen.rowNumbers
      paintLinks
      if takesMark then paintCursor) started := rfl
  have rows := paintRows_learns painting.surface.screen.rowNumbers (rfl : started.surface.scene = painting.surface.scene)
  rw [begun]
  refine (after_bind_view (·.page.styles) (fun _ middle => ?_) started).trans rows
  obtain ⟨later, -, ends⟩ := paintLinks_ends middle
  rw [after_bind, ends]
  cases takesMark <;> rfl

end Painting

/-- How a character is seen. -/
structure Look where
  foreground : String
  background : String
  bold : Bool
  italic : Bool
  underline : Bool
  deriving DecidableEq, Repr

/-- How characters of a tag are seen: what the tag leaves open is as on the rest of the page. -/
def Page.lookOf? (page : Page) (tag : String) : Option Look :=
  (page.styles.find? tag).map fun style =>
    ⟨style.foreground.getD page.foreground, style.background.getD page.background, style.bold, style.italic, style.underline⟩

/-- How a cell with these colours is meant to be seen. -/
def CellColors.look (colors : CellColors) (theme : Theme) (cell : Emulator.Cell) : Look :=
  ⟨colors.foreground, colors.background.getD theme.background, cell.bold, cell.italics, cell.underscore⟩

theorem CellColors.look_style (colors : CellColors) (first theme : Theme) (cell : Emulator.Cell) :
    Look.mk ((colors.style first cell).foreground.getD theme.foreground)
        ((colors.style first cell).background.getD theme.background) cell.bold cell.italics cell.underscore =
      if colors.background = some first.background then { colors.look theme cell with background := theme.background }
      else colors.look theme cell := by
  unfold style look
  cases colors.background with
  | none => rfl
  | some color =>
    by_cases same : color = first.background
    · simp [Option.filter, same]
    · simp [Option.filter, same]

namespace Surface

def lessons (surface : Surface) : Assoc String TagStyle :=
  Painting.lessons surface.theme surface.screen.cellRows.flatten

def draws (tag : String) (surface : Surface) : Bool :=
  surface.lessons.has tag

/-- A tag is drawn as the first surface with it says. -/
theorem first_lesson {surfaces : List Surface} {tag : String} {style : TagStyle}
    (found : Assoc.find? tag (surfaces.flatMap lessons) = some style) :
    ∃ first, surfaces.find? (draws tag) = some first ∧ first.lessons.find? tag = some style := by
  induction surfaces with
  | nil => cases found
  | cons surface rest ih =>
    rw [List.flatMap_cons, Assoc.find?_append] at found
    cases here : surface.lessons.find? tag with
    | none =>
      rw [here, Option.none_or] at found
      obtain ⟨first, known, taught⟩ := ih found
      refine ⟨first, ?_, taught⟩
      rw [List.find?_cons_of_neg, known]
      simp [draws, Assoc.has, here]
    | some old =>
      rw [here, Option.some_or] at found
      refine ⟨surface, List.find?_cons_of_pos ?_, here.trans found⟩
      simp [draws, Assoc.has, here]

private theorem lesson_style {surface : Surface} (regular : surface.theme.Regular) {cell : Emulator.Cell}
    {colors : CellColors}
    (readable : colors.Readable) {style : TagStyle} (taught : surface.lessons.find? (colors.tagName cell) = some style) :
    style = colors.style surface.theme cell := by
  obtain ⟨other, -, others, found, named, rfl⟩ := Painting.mem_lessons (Assoc.mem_of_find? taught)
  obtain ⟨rfl, bold, italics, underscore⟩ := CellColors.tagName_inj (CellColors.ofCell_readable regular found) readable named
  simp only [CellColors.style, bold, italics, underscore]

end Surface

namespace Viewer

/-- What happens to a view: its terminal shows something else, it takes on another theme, or it is drawn. -/
inductive Move
  | contents (terminal : Emulator.Terminal)
  | recolor (theme : Theme)
  | draw (takesMark : Bool)

def move (viewer : Viewer) : Move → Viewer
  | .contents terminal => { viewer with surface := { viewer.surface with terminal := terminal } }
  | .recolor theme => { viewer with surface := viewer.surface.setTheme theme }
  | .draw takesMark => after paint { viewer with takesMark := takesMark }

def moveAll (viewer : Viewer) (moves : List Move) : Viewer :=
  moves.foldl move viewer

def drawing (viewer : Viewer) : Move → List Surface
  | .draw _ => [viewer.surface]
  | _ => []

def drawings (viewer : Viewer) : List Move → List Surface
  | [] => []
  | next :: rest => viewer.drawing next ++ (viewer.move next).drawings rest

private theorem after_paint (viewer : Viewer) : (after paint viewer).page =
    (after (Painting.paint viewer.takesMark) ⟨viewer.surface, viewer.page⟩).page := by
  unfold after paint
  cases Painting.paint viewer.takesMark ⟨viewer.surface, viewer.page⟩ <;> rfl

private theorem paint_learns (viewer : Viewer) :
    (after paint viewer).page.styles = viewer.page.styles.extend viewer.surface.lessons :=
  (congrArg Page.styles viewer.after_paint).trans (Painting.paint_learns ..)

private theorem move_learns (viewer : Viewer) (next : Move) :
    (viewer.move next).page.styles = viewer.page.styles.extend ((viewer.drawing next).flatMap Surface.lessons) := by
  cases next with
  | contents terminal => rfl
  | recolor theme => rfl
  | draw takesMark =>
    rw [drawing, List.flatMap_singleton]
    exact paint_learns { viewer with takesMark := takesMark }

/-- All that a page ever knows of tags was learned from what was drawn. -/
theorem moveAll_learns (viewer : Viewer) (moves : List Move) :
    (viewer.moveAll moves).page.styles = viewer.page.styles.extend ((viewer.drawings moves).flatMap Surface.lessons) := by
  induction moves generalizing viewer with
  | nil => rfl
  | cons next rest ih =>
    rw [drawings, List.flatMap_append, Assoc.extend_append, ← move_learns]
    exact ih (viewer.move next)

private theorem painted_learned {start viewer painted : Viewer} {moves : List Move} (reached : viewer = start.moveAll moves)
    (ends : viewer.paint = .ok () painted) :
    painted.page.styles = start.page.styles.extend ((start.drawings moves ++ [viewer.surface]).flatMap Surface.lessons) := by
  have last : (after paint viewer).page.styles = viewer.page.styles.extend viewer.surface.lessons := viewer.paint_learns
  simp only [after, ends] at last
  rw [last, reached, moveAll_learns, List.flatMap_append, List.flatMap_singleton, Assoc.extend_append]

private theorem tag_learned {surface : Surface} {drawn : List Surface} {row : List Emulator.Cell} {cell : Emulator.Cell}
    {colors : CellColors} (known : ∀ row ∈ surface.screen.cellRows, ∀ cell ∈ row,
      (Painting.tagOf? surface.theme cell).isSome)
    (shown : row ∈ surface.screen.cellRows) (inside : cell ∈ row)
    (found : CellColors.ofCell surface.theme cell = .ok colors) :
    ∃ style, Assoc.find? (colors.tagName cell) ((drawn ++ [surface]).flatMap Surface.lessons) = some style := by
  have all : ∀ cell ∈ surface.screen.cellRows.flatten, (Painting.tagOf? surface.theme cell).isSome := by
    intro other member
    obtain ⟨row, shown, inside⟩ := List.mem_flatten.mp member
    exact known row shown other inside
  obtain ⟨own, taught⟩ := Painting.lessons_has all (List.mem_flatten.mpr ⟨row, shown, inside⟩) found
  rw [List.flatMap_append, List.flatMap_singleton, Assoc.find?_append]
  cases Assoc.find? (colors.tagName cell) (drawn.flatMap Surface.lessons) with
  | none => exact ⟨own, taught⟩
  | some style => exact ⟨style, rfl⟩

section
variable {session : String} {surface : Surface} {view : View} {moves : List Move} {viewer painted : Viewer}

/-- A cell is seen as it was when its tag was drawn for the first time. -/
theorem look_drawn (reached : viewer = (create session surface view).moveAll moves) (ends : viewer.paint = .ok () painted)
    (drawn : Painting.Drawn ⟨viewer.surface, viewer.page⟩ ⟨painted.surface, painted.page⟩)
    (regular : ∀ drawn ∈ (create session surface view).drawings moves ++ [viewer.surface], drawn.theme.Regular)
    {row : List Emulator.Cell} (shown : row ∈ viewer.surface.screen.cellRows) {cell : Emulator.Cell} (inside : cell ∈ row)
    {colors : CellColors} (found : CellColors.ofCell viewer.surface.theme cell = .ok colors) :
    ∃ first, ((create session surface view).drawings moves ++ [viewer.surface]).find?
        (Surface.draws (colors.tagName cell)) = some first ∧
      painted.page.lookOf? (colors.tagName cell) = some (
        if colors.background = some first.theme.background then
          { colors.look viewer.surface.theme cell with background := viewer.surface.theme.background }
        else colors.look viewer.surface.theme cell) := by
  have fresh : (create session surface view).page.styles.find? (colors.tagName cell) = none := by
    rw [Assoc.find?_eq_none]
    intro member
    exact colors.tagName_ne_link cell (List.mem_singleton.mp member)
  obtain ⟨pieces, -, each⟩ := drawn.text
  obtain ⟨style, seen⟩ := tag_learned (Painting.HoldsRows.parts each).1 shown inside found
  obtain ⟨first, drew, taught⟩ := Surface.first_lesson seen
  have readable := CellColors.ofCell_readable (regular viewer.surface (by simp)) found
  obtain rfl := Surface.lesson_style (regular first (List.mem_of_find?_eq_some drew)) readable taught
  refine ⟨first, drew, ?_⟩
  rw [Page.lookOf?, painted_learned reached ends, Assoc.find?_extend, fresh, Option.none_or, seen, Option.map_some,
    drawn.background, drawn.foreground]
  exact congrArg some (colors.look_style first.theme viewer.surface.theme cell)

private theorem look_fresh (regular : surface.theme.Regular)
    (known : ∀ row ∈ surface.screen.cellRows, ∀ cell ∈ row, (Painting.tagOf? surface.theme cell).isSome) :
    ∃ fresh, (create session surface view).paint = .ok () fresh ∧
      ∀ row ∈ surface.screen.cellRows, ∀ cell ∈ row, ∀ colors, CellColors.ofCell surface.theme cell = .ok colors →
        fresh.page.lookOf? (colors.tagName cell) = some (colors.look surface.theme cell) := by
  rcases (create session surface view).paint_cases with ⟨fresh, ends, drawn⟩ | ⟨_, -, lacking⟩
  · refine ⟨fresh, ends, fun row shown cell inside colors found => ?_⟩
    have start : create session surface view = (create session surface view).moveAll [] := rfl
    have only : ∀ drawn ∈ (create session surface view).drawings [] ++ [surface], drawn.theme.Regular := by
      intro other member
      exact List.mem_singleton.mp member ▸ regular
    obtain ⟨first, drew, seen⟩ := look_drawn start ends drawn only shown inside found
    obtain rfl : first = surface := List.mem_singleton.mp (List.mem_of_find?_eq_some drew)
    rw [seen]
    split
    next same => simp only [CellColors.look, same, create, Option.getD_some]
    next => rfl
  · exact absurd lacking (Painting.no_lacking known)

end

/-- Whatever a terminal shows over time, in whatever themes, and however often it is drawn: each cell is seen in the
colours and with the marks that the theme of the time gives it, as on a page that was never drawn on. Only where the
background of the cell is that of the theme in which its tag was drawn for the first time, it is seen on the background
of the theme of the time instead. -/
theorem looks_shown (session : String) (surface : Surface) (view : View) (moves : List Move)
    (regular : ∀ drawn ∈ (create session surface view).drawings moves ++
      [((create session surface view).moveAll moves).surface],
      drawn.theme.Regular) :
    let viewer := (create session surface view).moveAll moves
    let drawn := (create session surface view).drawings moves ++ [viewer.surface]
    let theme := viewer.surface.theme
    match viewer.paint with
    | .ok _ painted => ∃ fresh, (create session viewer.surface view).paint = .ok () fresh ∧
      ∀ row ∈ viewer.surface.screen.cellRows, ∀ cell ∈ row, ∃ colors first,
        CellColors.ofCell theme cell = .ok colors ∧
        drawn.find? (Surface.draws (colors.tagName cell)) = some first ∧
        fresh.page.lookOf? (colors.tagName cell) = some (colors.look theme cell) ∧
        painted.page.lookOf? (colors.tagName cell) = some (
          if colors.background = some first.theme.background then
            { colors.look theme cell with background := theme.background }
          else colors.look theme cell)
    | .error failure _ => failure = .fault .index "tuple index out of range" ∧
      ∃ row ∈ viewer.surface.screen.cellRows, ∃ cell ∈ row, Painting.tagOf? theme cell = none := by
  intro viewer drawn theme
  rcases viewer.paint_cases with ⟨painted, ends, complete⟩ | ⟨last, ends, lacking⟩
  · rw [ends]
    obtain ⟨pieces, -, each⟩ := complete.text
    have known := (Painting.HoldsRows.parts each).1
    obtain ⟨fresh, ends', meant⟩ := look_fresh (regular viewer.surface (by simp [viewer])) known
    refine ⟨fresh, ends', fun row shown cell inside => ?_⟩
    cases found : CellColors.ofCell theme cell with
    | error error =>
      have tagged := known row shown cell inside
      rw [Painting.tagOf?_unknown found] at tagged
      cases tagged
    | ok colors =>
      obtain ⟨first, drew, seen⟩ := look_drawn rfl ends complete regular shown inside found
      exact ⟨colors, first, rfl, drew, meant row shown cell inside colors found, seen⟩
  · rw [ends]
    exact ⟨rfl, lacking⟩

/-- A view of a screen that shows a character in black on white, in the light theme. -/
def lit : Surface :=
  let factory : SurfaceFactory := { theme := .ofScheme "light", font := .estimate "mono" (.whole 13) }
  after (Surface.write "\x1b[38;5;0;48;5;15mX".toUTF8.toList) (factory.makeSized ⟨1, 2⟩)

/-- After it was drawn the view gets the dark theme. -/
def relit : List Move :=
  [.draw true, .recolor (.ofScheme "dark")]

theorem looks_shown_relit :
    (∀ drawn ∈ (create "term-1" lit {}).drawings relit ++ [((create "term-1" lit {}).moveAll relit).surface],
      drawn.theme.Regular) ∧
    ∃ painted, ((create "term-1" lit {}).moveAll relit).paint = .ok () painted ∧
      painted.page.lookOf? "c000000_bffffff" = some ⟨"#000000", "#0d1117", false, false, false⟩ := by
  have regular : ∀ drawn ∈ (create "term-1" lit {}).drawings relit ++ [((create "term-1" lit {}).moveAll relit).surface],
      drawn.theme.Regular := by decide +kernel
  have known : ∀ row ∈ ((create "term-1" lit {}).moveAll relit).surface.screen.cellRows, ∀ cell ∈ row,
      (Painting.tagOf? ((create "term-1" lit {}).moveAll relit).surface.theme cell).isSome := by decide +kernel
  have white : ∃ row ∈ ((create "term-1" lit {}).moveAll relit).surface.screen.cellRows, ∃ cell ∈ row,
      (CellColors.ofCell ((create "term-1" lit {}).moveAll relit).surface.theme cell).toOption =
          some ⟨"#000000", some "#ffffff"⟩ ∧
        CellColors.tagName ⟨"#000000", some "#ffffff"⟩ cell = "c000000_bffffff" ∧
        CellColors.look ⟨"#000000", some "#ffffff"⟩ ((create "term-1" lit {}).moveAll relit).surface.theme cell =
          ⟨"#000000", "#ffffff", false, false, false⟩ := by decide +kernel
  have lightFirst : (((create "term-1" lit {}).drawings relit ++ [((create "term-1" lit {}).moveAll relit).surface]).find?
      (Surface.draws "c000000_bffffff")).map (·.theme.background) = some "#ffffff" := by decide +kernel
  have dark : ((create "term-1" lit {}).moveAll relit).surface.theme.background = "#0d1117" := by decide +kernel
  refine ⟨regular, ?_⟩
  have result := looks_shown "term-1" lit {} relit regular
  cases ends : ((create "term-1" lit {}).moveAll relit).paint with
  | error failure last =>
    simp only [ends] at result
    exact absurd result.2 (Painting.no_lacking known)
  | ok _ painted =>
    simp only [ends] at result
    obtain ⟨_, -, each⟩ := result
    obtain ⟨row, shown, cell, inside, white, name, look⟩ := white
    obtain ⟨colors, first, found, drew, -, seen⟩ := each row shown cell inside
    rw [found] at white
    cases white
    rw [name] at drew seen
    rw [drew, Option.map_some] at lightFirst
    rw [if_pos lightFirst.symm, look, dark] at seen
    exact ⟨painted, rfl, seen⟩

/-- The white of the character is that of the light theme, and was left out when it was drawn. -/
theorem looks_shown_fails :
    let viewer := (create "term-1" lit {}).moveAll relit
    let fresh := create "term-1" viewer.surface {}
    ¬ ∀ row ∈ viewer.surface.screen.cellRows, ∀ cell ∈ row,
      (Painting.tagOf? viewer.surface.theme cell).bind (after paint viewer).page.lookOf? =
        (Painting.tagOf? viewer.surface.theme cell).bind (after paint fresh).page.lookOf? := by
  decide +kernel

end Viewer

end TerminalDock
