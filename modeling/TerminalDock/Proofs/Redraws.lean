import TerminalDock.Proofs.PaintedScreens

/-! When a surface is drawn again. Every operation that comes to its end notes whether there is something new to be seen. One
that the terminal breaks off does not, and what it had changed by then is left undrawn until something else is noted. -/

namespace TerminalDock.Surface
open Proofs.Steps

/-- What can be seen of a surface: its theme, the size of the grid, the cells on the screen, and the cursor. -/
structure Face where
  theme : Theme
  geometry : Geometry
  cells : List (List Emulator.Cell)
  cursor : Emulator.Cursor
  deriving DecidableEq

def face (surface : Surface) : Face where
  theme := surface.theme
  geometry := surface.geometry
  cells := surface.screen.cellRows
  cursor := surface.screen.cursor

private theorem face_of_scene {first last : Surface} (same : last.scene = first.scene) : last.face = first.face := by
  have lines : last.screen.lines = first.screen.lines := congrArg Scene.lines same
  have columns : last.screen.columns = first.screen.columns := congrArg Scene.columns same
  have geometry : last.geometry = first.geometry := by rw [geometry, geometry, rows, rows, Surface.columns,
    Surface.columns, lines, columns]
  exact Face.mk.injEq .. |>.mpr ⟨congrArg Scene.theme same, geometry, cellRows_of_scene same, congrArg Scene.cursor same⟩

/-- What is done with a surface; none of it takes the note of a change back. -/
inductive Operation
  | write (bytes : List UInt8)
  | resize (size : Geometry)
  | fit (width height : Decimal.Quantity)
  | focus
  | blur
  | setTheme (theme : Theme)
  | scroll (pages : Int)
  | lines
  | text
  | links
  | dispose

def Operation.act : Operation → SurfaceStep Unit
  | .write bytes => Surface.write bytes
  | .resize size => Surface.resize size
  | .fit width height => do let _ ← Surface.fit width height
  | .focus => modify Surface.focus
  | .blur => modify Surface.blur
  | .setTheme theme => modify (·.setTheme theme)
  | .scroll pages => Surface.scroll pages
  | .lines => do let _ ← Surface.lines
  | .text => do let _ ← Surface.text
  | .links => do let _ ← Surface.links
  | .dispose => modify Surface.dispose

def perform (surface : Surface) (operation : Operation) : Surface :=
  after operation.act surface

def performAll (surface : Surface) (operations : List Operation) : Surface :=
  operations.foldl perform surface

/-- The terminal breaks the operation off when it has changed what can be seen already. -/
def Stumbles (surface : Surface) (operation : Operation) : Prop :=
  (∃ kind, (ending operation.act surface).failure = some (.fault kind "")) ∧ (surface.perform operation).face ≠ surface.face

/-- How an operation on a surface ends: it noted a change, nothing was to be noted, or the terminal broke it off. -/
inductive Course (face : Face) (dirty : Bool) (last : Ending Failure Surface) : Prop
  | noted (raised : last.failure = none) (marked : last.state.dirty = true)
  | idle (same : last.state.face = face) (kept : last.state.dirty = dirty)
  | broken (kind : FaultKind) (raised : last.failure = some (.fault kind "")) (kept : last.state.dirty = dirty)

private theorem ending_onTerminal {α : Type} (act : EStateM FaultKind Emulator.Terminal α) (surface : Surface) :
    ending (onTerminal act) surface =
      ⟨after (onTerminal act) surface, (ending act surface.terminal).failure.map (.fault · "")⟩ := by
  unfold ending after onTerminal
  cases act surface.terminal <;> rfl

private theorem ending_onScreen {α : Type} (act : Emulator.Term α) (surface : Surface) : ending (onScreen act) surface =
    ⟨after (onScreen act) surface, (ending act surface.terminal.screen).failure.map (.fault · "")⟩ := by
  unfold ending after onScreen
  cases act surface.terminal.screen <;> rfl

/-- A step that notes nothing and that only the terminal can break off. -/
structure Quiet {α : Type} (act : SurfaceStep α) : Prop where
  kept : Moves (fun first last => last.dirty = first.dirty) act
  broken : ∀ surface failure, (ending act surface).failure = some failure → ∃ kind, failure = .fault kind ""

namespace Quiet
variable {α β : Type}

theorem onTerminal (act : EStateM FaultKind Emulator.Terminal α) : Quiet (onTerminal act) where
  kept surface := by rw [after_onTerminal]
  broken surface failure raised := by
    rw [ending_onTerminal] at raised
    obtain ⟨kind, -, rfl⟩ := Option.map_eq_some_iff.mp raised
    exact ⟨kind, rfl⟩

theorem onScreen (act : Emulator.Term α) : Quiet (onScreen act) where
  kept surface := by rw [after_onScreen]
  broken surface failure raised := by
    rw [ending_onScreen] at raised
    obtain ⟨kind, -, rfl⟩ := Option.map_eq_some_iff.mp raised
    exact ⟨kind, rfl⟩

theorem bind {act : SurfaceStep α} {next : α → SurfaceStep β} (first : Quiet act) (rest : ∀ value, Quiet (next value)) :
    Quiet (act >>= next) where
  kept := Moves.bind (fun before later => later.trans before) first.kept fun value => (rest value).kept
  broken surface failure raised := by
    have begun := first.broken surface
    rw [ending_bind] at raised
    unfold ending at begun
    cases ends : act surface with
    | ok value middle =>
      rw [ends] at raised
      exact (rest value).broken middle failure raised
    | error stopped middle =>
      rw [ends] at raised begun
      exact begun failure raised

theorem turnPages (page : Emulator.Term Unit) (pages : Nat) : Quiet (turnPages page pages) := by
  induction pages with
  | zero => exact ⟨fun _ => rfl, fun _ _ raised => Ending.unfailing raised⟩
  | succ pages ih => exact (onScreen page).bind fun _ => ih

theorem touch {act : SurfaceStep Unit} (quiet : Quiet act) (surface : Surface) :
    Course surface.face surface.dirty (ending (do act; touch) surface) := by
  have kept := quiet.kept surface
  have broken := quiet.broken surface
  rw [ending_bind]
  unfold ending after at *
  cases ends : act surface with
  | ok _ middle => exact .noted rfl rfl
  | error failure middle =>
    rw [ends] at kept broken
    obtain ⟨kind, rfl⟩ := broken failure rfl
    exact .broken kind rfl kept

theorem idle {act : SurfaceStep α} (quiet : Quiet act) (same : ∀ surface, (after act surface).scene = surface.scene)
    (surface : Surface) : Course surface.face surface.dirty (ending act surface) := by
  rw [ending_eq]
  exact .idle (face_of_scene (same surface)) (quiet.kept surface)

end Quiet

private theorem write_course (bytes : List UInt8) (surface : Surface) :
    Course surface.face surface.dirty (ending (write bytes) surface) := by
  simp only [write, ending_modify_bind, ending_get_bind]
  split
  · exact .idle rfl rfl
  · exact (Quiet.onTerminal (Emulator.Terminal.write bytes)).touch { surface with written := surface.written ++ [bytes] }

private theorem resize_course (size : Geometry) (surface : Surface) :
    Course surface.face surface.dirty (ending (resize size) surface) := by
  rw [resize, ending_get_bind]
  split
  · exact (Quiet.onScreen (Emulator.resize size.rows size.columns)).touch surface
  · exact .idle rfl rfl

private theorem fit_course (width height : Decimal.Quantity) (surface : Surface) :
    Course surface.face surface.dirty (ending (fit width height) surface) := by
  rw [fit, ending_get_bind]
  split
  · exact .idle rfl rfl
  · exact .idle rfl rfl
  next size _ =>
    split
    · exact .idle rfl rfl
    · have resized := ending_map (resize size) (fun _ => some size) surface
      exact resized ▸ resize_course size surface

private theorem scroll_course (pages : Int) (surface : Surface) :
    Course surface.face surface.dirty (ending (scroll pages) surface) :=
  (Quiet.turnPages _ pages.natAbs).touch surface

private theorem after_showRows (rows : List Int) (screen : Emulator.Screen) : ∃ read : List Int,
    after (fun screen => screen.showRows rows : Emulator.Term (List (List Char))) screen =
      read.foldl Emulator.Screen.touch screen := by
  induction rows generalizing screen with
  | nil => exact ⟨[], rfl⟩
  | cons y rest ih =>
    obtain ⟨read, later⟩ := ih (screen.touch y)
    simp only [after, Emulator.Screen.showRows] at later ⊢
    cases Emulator.Line.show? false (((screen.touch y).row y).firstCells (screen.touch y).columns.toNat) with
    | none => exact ⟨[y], rfl⟩
    | some text =>
      refine ⟨y :: read, ?_⟩
      cases shown : (screen.touch y).showRows rest with
      | ok texts last => rw [shown] at later; exact later
      | error fault last => rw [shown] at later; exact later

private theorem after_textLines (screen : Emulator.Screen) : ∃ read : List Int,
    after Emulator.textLines screen = read.foldl Emulator.Screen.touch screen := by
  obtain ⟨read, shown⟩ := after_showRows screen.rowNumbers screen
  refine ⟨read, ?_⟩
  simp only [after, Emulator.textLines] at shown ⊢
  cases seen : screen.showRows screen.rowNumbers with
  | ok texts last => rw [seen] at shown; exact shown
  | error fault last => rw [seen] at shown; exact shown

private theorem scene_lines (surface : Surface) : (after lines surface).scene = surface.scene := by
  obtain ⟨read, shown⟩ := after_textLines surface.screen
  rw [lines, after_onScreen, shown]
  exact surface.scene_touchRows read

private theorem scene_links (surface : Surface) : (after links surface).scene = surface.scene := by
  obtain ⟨later, ends, same⟩ := Painting.links_ends surface
  simpa only [after, ends] using same

/-- Whatever is done with a surface: it is noted, or there is nothing to be noted, or the terminal breaks it off. -/
theorem operation_course (operation : Operation) (surface : Surface) :
    Course surface.face surface.dirty (ending operation.act surface) := by
  cases operation with
  | write bytes => exact write_course bytes surface
  | resize size => exact resize_course size surface
  | fit width height => exact (ending_map (fit width height) (fun _ => ()) surface) ▸ fit_course width height surface
  | focus => exact .noted rfl rfl
  | blur => exact .noted rfl rfl
  | setTheme theme => exact .noted rfl rfl
  | scroll pages => exact scroll_course pages surface
  | lines => exact (ending_map lines (fun _ => ()) surface) ▸ (Quiet.onScreen _).idle scene_lines surface
  | text =>
    have same : ending (Operation.act .text) surface = ending lines surface :=
      (ending_map text (fun _ => ()) surface).trans (ending_map lines _ surface)
    exact same ▸ (Quiet.onScreen _).idle scene_lines surface
  | links => exact (ending_map links (fun _ => ()) surface) ▸ (Quiet.onScreen _).idle scene_links surface
  | dispose => exact .idle rfl rfl

private theorem perform_course (surface : Surface) (operation : Operation) :
    ((surface.perform operation).dirty = true ∧ (ending operation.act surface).failure = none) ∨
    ((surface.perform operation).dirty = surface.dirty ∧
      ((surface.perform operation).face = surface.face ∨ surface.Stumbles operation)) := by
  have course := operation_course operation surface
  rw [ending_eq] at course
  cases course with
  | noted raised marked => exact .inl ⟨marked, raised⟩
  | idle same kept => exact .inr ⟨kept, .inl same⟩
  | broken kind raised kept =>
    by_cases same : (surface.perform operation).face = surface.face
    · exact .inr ⟨kept, .inl same⟩
    · exact .inr ⟨kept, .inr ⟨⟨kind, raised⟩, same⟩⟩

private theorem performAll_dirty {surface : Surface} (dirty : surface.dirty = true) (operations : List Operation) :
    (surface.performAll operations).dirty = true := by
  induction operations generalizing surface with
  | nil => exact dirty
  | cons operation rest ih =>
    refine ih ?_
    rcases perform_course surface operation with ⟨marked, -⟩ | ⟨kept, -⟩
    · exact marked
    · exact kept.trans dirty

private theorem performAll_changed {surface : Surface} (clean : surface.dirty = false) (operations : List Operation)
    (changed : (surface.performAll operations).face ≠ surface.face) :
    (surface.performAll operations).dirty = true ∨
    ∃ before operation rest, operations = before ++ operation :: rest ∧ (surface.performAll before).Stumbles operation := by
  induction operations generalizing surface with
  | nil => exact absurd rfl changed
  | cons operation rest ih =>
    rcases perform_course surface operation with ⟨marked, -⟩ | ⟨kept, same | stumbles⟩
    · exact .inl (performAll_dirty marked rest)
    · rcases ih (kept.trans clean) (same ▸ changed) with dirty | ⟨before, stopped, after, rfl, stumbles⟩
      · exact .inl dirty
      · exact .inr ⟨operation :: before, stopped, after, rfl, stumbles⟩
    · exact .inr ⟨[], operation, rest, rfl, stumbles⟩

/-- Whatever is done with a surface since it was drawn: if it is to be seen otherwise then, this is noted, unless the
terminal broke off an operation that had changed what can be seen. And a change by a single operation goes unnoted
just if the terminal breaks the operation off. -/
theorem changes_noted (surface : Surface) (clean : surface.dirty = false) (operations : List Operation) :
    ((surface.performAll operations).face ≠ surface.face → (surface.performAll operations).dirty = true ∨
      ∃ before operation rest, operations = before ++ operation :: rest ∧ (surface.performAll before).Stumbles operation) ∧
    ∀ operation, (surface.perform operation).face ≠ surface.face ∧ (surface.perform operation).dirty = false ↔
      surface.Stumbles operation := by
  refine ⟨performAll_changed clean operations, fun operation =>
    ⟨fun ⟨changed, missed⟩ => ?_, fun stumbles => ⟨stumbles.2, ?_⟩⟩⟩
  · rcases perform_course surface operation with ⟨marked, -⟩ | ⟨-, same | stumbles⟩
    · rw [marked] at missed
      cases missed
    · exact absurd same changed
    · exact stumbles
  · obtain ⟨⟨kind, raised⟩, -⟩ := stumbles
    rcases perform_course surface operation with ⟨-, ended⟩ | ⟨kept, -⟩
    · rw [ended] at raised
      cases raised
    · exact kept.trans clean

def slate : Surface :=
  let factory : SurfaceFactory := { theme := .dark, font := .estimate "mono" (.whole 13) }
  { factory.makeSized ⟨2, 16⟩ with dirty := false }

/-- Output with a character, and then a movement of the cursor with one number too many. -/
def brokenOutput : Operation :=
  .write "A\x1b[1;2A".toUTF8.toList

theorem changes_noted_broken : slate.dirty = false ∧ slate.Stumbles brokenOutput := by
  have clean : slate.dirty = false := rfl
  have unnoted : (slate.perform brokenOutput).face ≠ slate.face ∧ (slate.perform brokenOutput).dirty = false := by
    decide +kernel
  exact ⟨clean, ((changes_noted slate clean []).2 brokenOutput).mp unnoted⟩

/-- The character is on the screen and the cursor behind it, but nothing was noted. -/
theorem changes_noted_fails :
    ¬ ((slate.performAll [brokenOutput]).face ≠ slate.face → (slate.performAll [brokenOutput]).dirty = true) := by
  decide +kernel

end TerminalDock.Surface
