import Mathlib.Logic.Relation
import TerminalDock.Emulator.Sequence
import TerminalDock.Proofs.Steps

/-! What a program can do to a screen. Whatever characters are sent, they take the screen through a few kinds of change:
of its lines, of the style, and of what is saved, besides those that none of this shows, and pages that are turned down on
the way. So what all of these changes spare is spared by everything that is sent. -/

namespace TerminalDock
open Proofs.Steps

namespace Emulator

namespace Screen

/-- What is left as it is by moves of the cursor and by switches of modes, margins and character sets. -/
structure Stock where
  buffer : Assoc Int Line
  above : Array Line
  below : List Line
  style : Cell
  savepoints : List Savepoint
  scrollback : Nat
  position : Nat

def stock (screen : Screen) : Stock where
  buffer := screen.buffer
  above := screen.above
  below := screen.below
  style := screen.cursor.style
  savepoints := screen.savepoints
  scrollback := screen.scrollback
  position := screen.position

section
variable (screen : Screen)

theorem stock_toPosition (line column : Nat) : (screen.toPosition line column).stock = screen.stock := by
  unfold toPosition
  dsimp only
  split
  · split
    · split <;> rfl
    · rfl
  · rfl

private theorem stock_tab : screen.tab.stock = screen.stock := by
  unfold tab
  dsimp only
  split <;> rfl

private theorem stock_clearTabStop (how : Nat) : (screen.clearTabStop how).stock = screen.stock := by
  unfold clearTabStop
  split
  · rfl
  · split <;> rfl

private theorem stock_setMargins (top : Nat) (bottom : Option Nat) :
    (screen.setMargins top bottom).stock = screen.stock := by
  have placed (margins : Option Margins) :
      (({ screen with margins := margins } : Screen).toPosition 0 0).stock = screen.stock :=
    (stock_toPosition _ 0 0).trans rfl
  unfold setMargins
  split
  · split
    · rfl
    · dsimp only
      split
      · exact placed _
      · rfl
  · dsimp only
    split
    · exact placed _
    · rfl

private theorem stock_removeMode (mode : Nat) : (screen.removeMode mode).stock = screen.stock := rfl

theorem stock_addMode (mode : Nat) : (screen.addMode mode).stock = screen.stock := by
  unfold addMode
  split <;> rfl

end

private theorem stock_modes {change : Screen → Nat → Screen}
    (same : ∀ screen mode, (change screen mode).stock = screen.stock)
    (modes : List Nat) (screen : Screen) : (modes.foldl change screen).stock = screen.stock := by
  induction modes generalizing screen with
  | nil => rfl
  | cons mode rest ih => rw [List.foldl_cons, ih, same]

/-- The changes that what is sent can make at once. -/
inductive Change : Screen → Screen → Prop
  | still {first last : Screen} (same : last.stock = first.stock) : Change first last
  | touch (screen : Screen) (y : Int) : Change screen (screen.touch y)
  | fillRow (screen : Screen) (y : Int) (columns : List Int) : Change screen (screen.fillRow y columns)
  | eraseRows (screen : Screen) (rows : List Int) : Change screen (screen.eraseRows rows)
  | forget (screen : Screen) : Change screen { screen with above := #[], below := [], position := screen.scrollback }
  | cut (screen : Screen) (kept : Int × Cell → Bool) : Change screen { screen with
      buffer := screen.buffer.map fun (y, line) => (y, { line with cells := line.cells.filter kept }) }
  | insertCharacters (screen : Screen) (count : Int) : Change screen (screen.insertCharacters count)
  | deleteCharacters (screen : Screen) (count : Int) : Change screen (screen.deleteCharacters count)
  | insertLines (screen : Screen) (count : Int) : Change screen (screen.insertLines count)
  | deleteLines (screen : Screen) (count : Int) : Change screen (screen.deleteLines count)
  | index (screen : Screen) : Change screen screen.index
  | reverseIndex (screen : Screen) : Change screen screen.reverseIndex
  | drawChar (screen : Screen) (c : Char) : Change screen (screen.drawChar c).1
  | alignmentPattern (screen : Screen) : Change screen screen.alignmentPattern
  | reverseCells (screen : Screen) (reverse : Bool) : Change screen (screen.reverseCells reverse)
  | chooseStyle (screen : Screen) (codes : List Nat) : Change screen (screen.chooseStyle codes)
  | saveCursor (screen : Screen) : Change screen screen.saveCursor
  | restoreCursor (screen : Screen) : Change screen screen.restoreCursor
  | reset (screen : Screen) : Change screen screen.reset
  | turn {screen : Screen} (behind : screen.position < screen.scrollback) : Change screen (after nextPage screen)

abbrev Course : Screen → Screen → Prop :=
  Relation.ReflTransGen Change

theorem Change.course {first last : Screen} (change : Change first last) : Course first last := .single change

theorem Course.still {first last : Screen} (same : last.stock = first.stock) : Course first last :=
  (Change.still same).course

/-- What no change takes away lasts. -/
theorem Course.lasts {good : Screen → Prop} (spared : ∀ {first last}, Change first last → good first → good last)
    {first last : Screen} (course : Course first last) (begun : good first) : good last := by
  induction course with
  | refl => exact begun
  | tail _ change ih => exact spared change ih

section
variable (screen : Screen)

private theorem lineFeed_course : Course screen screen.lineFeed := by
  have fed : Course screen screen.index := (Change.index screen).course
  unfold lineFeed
  dsimp only
  split
  · exact fed.trans (Course.still rfl)
  · exact fed

private theorem drawChars_course (text : List Char) : Course screen (screen.drawChars text) := by
  induction text generalizing screen with
  | nil => exact .refl
  | cons c rest ih =>
    have drawn := (Change.drawChar screen c).course
    unfold drawChars
    split
    next next seen =>
      rw [seen] at drawn
      exact drawn.trans (ih next)
    next next seen =>
      rw [seen] at drawn
      exact drawn

private theorem draw_course (text : List Char) : Course screen (screen.draw text) :=
  screen.drawChars_course _

end

end Screen

open Screen (Change Course)

abbrev Sends {α : Type} (act : Term α) : Prop :=
  Moves Course act

namespace Sends

theorem bind {α β : Type} {act : Term α} {next : α → Term β} (first : Sends act) (rest : ∀ value, Sends (next value)) :
    Sends (act >>= next) :=
  Moves.bind Relation.ReflTransGen.trans first rest

protected theorem pure {α : Type} (value : α) : Sends (pure value : Term α) := fun _ => .refl

theorem throw {α : Type} (fault : FaultKind) : Sends (throw fault : Term α) := fun _ => .refl

theorem change {change : Screen → Screen} (changes : ∀ screen, Change screen (change screen)) :
    Sends (modify change : Term Unit) := fun screen => (changes screen).course

theorem still {change : Screen → Screen} (same : ∀ screen, (change screen).stock = screen.stock) :
    Sends (modify change : Term Unit) := fun screen => .still (same screen)

end Sends

private theorem toLastPage_sends (pages : Nat) : Sends (toLastPage pages) := by
  induction pages with
  | zero => exact .pure ()
  | succ pages ih =>
    refine Moves.get_bind fun screen => ?_
    split
    next more =>
      have behind : screen.position < screen.scrollback := by
        rw [Bool.and_eq_true, decide_eq_true_eq] at more
        exact more.1
      exact after_chain Course Relation.ReflTransGen.trans (Change.turn behind).course fun _ => ih
    next => exact .refl

private theorem event_sends {handler : Term Unit} (sends : Sends handler) : Sends (event handler) := by
  have shown : Sends (modify Screen.showCursor) := .still fun _ => rfl
  exact Moves.get_bind fun screen => ((toLastPage_sends _).bind fun _ => sends.bind fun _ => shown) screen

private theorem pureEvent_sends {change : Screen → Screen} (course : ∀ screen, Course screen (change screen)) :
    Sends (pureEvent change) :=
  event_sends (Moves.modify course)

private theorem eraseInLine_sends (how : Nat) : Sends (eraseInLine how) := by
  refine Moves.get_bind fun screen => ?_
  dsimp only
  split
  · exact (Change.fillRow ..).course
  · exact (Change.fillRow ..).course
  · exact (Change.fillRow ..).course
  · exact (Change.touch ..).course

private theorem eraseInDisplay_sends (how : Nat) : Sends (eraseInDisplay how) := by
  refine Moves.get_bind fun screen => ?_
  have erased (rows : List Int) : Course screen (screen.eraseRows rows) := (Change.eraseRows screen rows).course
  dsimp only
  split
  · exact (erased _).trans (eraseInLine_sends 0 _)
  · exact (erased _).trans (eraseInLine_sends 1 _)
  · exact erased _
  · exact (erased _).trans (Change.forget _).course
  · exact .refl

private theorem toLine_sends (line : Nat) : Sends (toLine line) := by
  refine Sends.bind (.still fun _ => rfl) fun _ => ?_
  refine Moves.get_bind fun screen => ?_
  split
  · split
    · exact .refl
    · exact .still rfl
  · exact .still rfl

theorem resize_sends (lines columns : Int) : Sends (resize lines columns) := by
  have sized (lines columns : Int) : Sends (do
      modify fun current => { current with lines := lines, columns := columns }
      pureEvent (·.setMargins 0 none)) :=
    Sends.bind (.still fun _ => rfl) fun _ => pureEvent_sends fun screen => .still (screen.stock_setMargins 0 none)
  have narrowed (lines columns least : Int) (kept : Int × Cell → Bool) : Sends (do
      if columns < least then
        modify fun current : Screen => { current with
          buffer := current.buffer.map fun (y, line) => (y, { line with cells := line.cells.filter kept }) }
      modify fun current => { current with lines := lines, columns := columns }
      pureEvent (·.setMargins 0 none)) := by
    split
    · exact Sends.bind (.change fun screen => .cut screen kept) fun _ => sized lines columns
    · exact sized lines columns
  refine Moves.get_bind fun screen => ?_
  dsimp only
  generalize (if lines == 0 then screen.lines else lines) = tall
  generalize (if columns == 0 then screen.columns else columns) = wide
  split
  · exact .refl
  · split
    · refine Sends.bind (pureEvent_sends fun screen => (Change.saveCursor screen).course) (fun _ => ?_) screen
      refine Sends.bind (pureEvent_sends fun screen => .still (screen.stock_toPosition 0 0)) fun _ => ?_
      refine Sends.bind (pureEvent_sends fun other => (Change.deleteLines other _).course) fun _ => ?_
      refine Sends.bind (pureEvent_sends fun screen => (Change.restoreCursor screen).course) fun _ => ?_
      exact narrowed _ _ _ _
    · exact narrowed _ _ _ _ screen

private theorem clearAndHome_sends : Sends clearAndHome :=
  (eraseInDisplay_sends 2).bind fun _ => .still fun screen => screen.stock_toPosition 0 0

private theorem afterModes_sends (modes : List Nat) (reverse : Bool) (style : List Nat) : Sends (do
    if modes.contains originMode then modify (·.toPosition 0 0)
    if modes.contains reverseMode then modify fun screen => (screen.reverseCells reverse).chooseStyle style) := by
  have reversed : Sends (if modes.contains reverseMode then
      modify fun screen => (screen.reverseCells reverse).chooseStyle style else pure ()) := by
    split
    · exact fun screen => (Change.reverseCells screen reverse).course.trans (Change.chooseStyle _ style).course
    · exact .pure ()
  dsimp only
  split
  · exact Sends.bind (.still fun screen => screen.stock_toPosition 0 0) fun _ => reversed
  · exact reversed

private theorem setModes_sends (isPrivate : Bool) (modes : List Nat) : Sends (setModes isPrivate modes) := by
  unfold setModes
  refine Sends.bind (.still (Screen.stock_modes Screen.stock_addMode _)) fun _ => ?_
  dsimp only
  split
  · have saved : Sends (modify fun screen : Screen => { screen with savedColumns := some screen.columns }) :=
      .still fun _ => rfl
    refine saved.bind fun _ => (resize_sends _ _).bind fun _ => clearAndHome_sends.bind fun _ => ?_
    exact afterModes_sends _ true [7]
  · exact afterModes_sends _ true [7]

private theorem resetModes_sends (isPrivate : Bool) (modes : List Nat) : Sends (resetModes isPrivate modes) := by
  have cleared (modes : List Nat) := clearAndHome_sends.bind fun _ => afterModes_sends modes false [27]
  unfold resetModes
  refine Sends.bind (.still (Screen.stock_modes Screen.stock_removeMode _)) fun _ => ?_
  dsimp only
  split
  · refine Moves.get_bind fun screen => ?_
    split
    · split
      · have forgotten : Sends (modify fun screen : Screen => { screen with savedColumns := none }) := .still fun _ => rfl
        exact ((resize_sends _ _).bind fun _ => forgotten.bind fun _ => cleared _) screen
      · exact cleared _ screen
    · exact cleared _ screen
  · exact afterModes_sends _ false [27]

namespace Control

private theorem report_sends (mode : Nat) : Sends (report mode) := by
  refine Moves.get_bind fun screen => ?_
  split <;> exact .refl

private theorem eraseLine_sends (isPrivate : Bool) (numbers : List Nat) : Sends (eraseLine isPrivate numbers) := by
  unfold eraseLine
  split
  · exact .throw _
  · exact eraseInLine_sends _

private theorem ofLetter_sends {letter : Char} {control : Control} (found : ofLetter? letter = some control)
    (isPrivate : Bool) (numbers : List Nat) : Sends (control.run isPrivate numbers) := by
  unfold ofLetter? at found
  split at found <;> cases found
  case h_1 => exact .change fun screen => .insertCharacters screen _
  case h_12 | h_13 => exact .still fun screen => screen.stock_toPosition _ _
  case h_14 => exact eraseInDisplay_sends _
  case h_15 => exact eraseLine_sends isPrivate numbers
  case h_16 => exact .change fun screen => .insertLines screen _
  case h_17 => exact .change fun screen => .deleteLines screen _
  case h_18 => exact .change fun screen => .deleteCharacters screen _
  case h_19 => exact .change fun screen => .fillRow screen _ _
  case h_20 => exact .pure ()
  case h_21 => exact toLine_sends _
  case h_22 => exact .still fun screen => screen.stock_clearTabStop _
  case h_23 => exact setModes_sends isPrivate numbers
  case h_24 => exact resetModes_sends isPrivate numbers
  case h_25 => exact .change fun screen => .chooseStyle screen _
  case h_26 => exact report_sends _
  case h_27 => exact .still fun screen => screen.stock_setMargins _ _
  all_goals exact .still fun _ => rfl

end Control

private theorem callLetter_sends (letter : Char) (isPrivate : Bool) (numbers : List Nat) :
    Sends (callLetter letter isPrivate numbers) := by
  refine event_sends ?_
  cases found : Control.ofLetter? letter with
  | none => exact .pure ()
  | some control =>
    change Sends (control.call isPrivate numbers)
    unfold Control.call
    split
    · exact .throw _
    · exact Control.ofLetter_sends found isPrivate numbers

namespace Terminal

private theorem immediate_course {c : Char} {change : Screen → Screen} (found : immediate? c = some change)
    (screen : Screen) :
    Course screen (change screen) := by
  unfold immediate? at found
  split at found <;> cases found
  case h_3 => exact Course.still screen.stock_tab
  case h_4 | h_5 | h_6 => exact screen.lineFeed_course
  all_goals exact Course.still rfl

private theorem escapeAction_course (c : Char) (screen : Screen) : Course screen (escapeAction c screen) := by
  unfold escapeAction
  split
  case h_1 => exact (Change.reset screen).course
  case h_2 => exact (Change.index screen).course
  case h_3 => exact screen.lineFeed_course
  case h_4 => exact (Change.reverseIndex screen).course
  case h_6 => exact (Change.saveCursor screen).course
  case h_7 => exact (Change.restoreCursor screen).course
  all_goals exact Course.still rfl

private theorem stock_putCharset (second : Bool) (c : Char) (screen : Screen) :
    (putCharset second c screen).stock = screen.stock := by
  unfold putCharset
  split
  · rfl
  · split <;> rfl

theorem after_onScreen (act : Term Unit) (terminal : Terminal) :
    after (onScreen act) terminal = { terminal with screen := after act terminal.screen } := by
  simp only [after, onScreen]
  cases act terminal.screen <;> rfl

/-- A step of a terminal that takes its screen through such changes. -/
abbrev Sends (act : Feed Unit) : Prop :=
  Moves (fun first last : Terminal => Course first.screen last.screen) act

namespace Sends

theorem bind {act : Feed Unit} {next : Unit → Feed Unit} (first : Sends act) (rest : ∀ value, Sends (next value)) :
    Sends (act >>= next) := by
  refine Moves.bind ?_ first rest
  exact fun before later => Relation.ReflTransGen.trans before later

protected theorem pure : Sends (pure ()) := fun _ => .refl

theorem goTo (reader : Reader) : Sends (goTo reader) := fun _ => .refl

theorem onScreen {act : Term Unit} (sends : Emulator.Sends act) : Sends (onScreen act) := by
  intro terminal
  rw [after_onScreen]
  exact sends terminal.screen

theorem pureEvent {change : Screen → Screen} (course : ∀ screen, Course screen (change screen)) :
    Sends (Terminal.onScreen (pureEvent change)) :=
  onScreen (pureEvent_sends course)

theorem goOn {act : Term Unit} (reader : Reader) (sends : Emulator.Sends act) :
    Sends (do Terminal.goTo reader; Terminal.onScreen act) :=
  (goTo reader).bind fun _ => onScreen sends

end Sends

private theorem plainStep_sends (c : Char) : Sends (plainStep c) := by
  have shifts (second : Bool) : Sends (do
      if (← get).encoding == .latin then
        onScreen (pureEvent fun screen => { screen with shifted := second })) := by
    have chosen : Sends (onScreen (pureEvent fun screen => { screen with shifted := second })) :=
      .pureEvent fun _ => Course.still rfl
    refine Moves.get_bind fun terminal => ?_
    split
    · exact chosen terminal
    · exact .refl
  unfold plainStep
  split
  · exact .goTo _
  · exact .goTo _
  · exact .goTo _
  · exact shifts _
  · exact shifts _
  · split
    next change found => exact .pureEvent (immediate_course found)
    next => exact .pure

private theorem escapeStep_sends (c : Char) : Sends (escapeStep c) := by
  unfold escapeStep
  split
  case h_7 => exact .goOn .plain (pureEvent_sends (escapeAction_course c))
  all_goals exact .goTo _

private theorem callStep_sends (isPrivate : Bool) (numbers : List Nat) (digits : List Char) (c : Char) :
    Sends (callStep isPrivate numbers digits c) := by
  have stopped : Sends (throw .value) := fun _ => .refl
  unfold callStep
  split
  next change found => exact .pureEvent (immediate_course found)
  next =>
    split
    case h_1 | h_6 => exact .goTo _
    case h_2 | h_3 => exact .pure
    case h_4 | h_5 => exact .goOn .plain (pureEvent_sends fun screen => screen.draw_course _)
    case h_7 =>
      split
      · exact .goTo _
      · split
        · exact stopped
        · split
          · exact .goTo _
          · exact .goOn .plain (callLetter_sends _ _ _)

private theorem endCommand_sends (code : Char) : Sends (endCommand code) := by
  refine Sends.bind (.goTo .plain) fun _ => ?_
  split
  · exact .pureEvent fun _ => .refl
  · exact .pure

private theorem step_sends (c : Char) : Sends (step c) := by
  refine Moves.get_bind fun terminal => ?_
  refine (?_ : Sends _) terminal
  split
  · exact plainStep_sends c
  · exact escapeStep_sends c
  · refine .goOn .plain (pureEvent_sends fun screen => ?_)
    split
    · exact (Change.alignmentPattern screen).course
    · exact .refl
  · refine Sends.bind (.goTo .plain) fun _ terminal => ?_
    have same : (chooseEncoding c terminal).screen = terminal.screen := by
      unfold chooseEncoding
      split <;> rfl
    exact Course.still (congrArg Screen.stock same)
  · refine Sends.bind (.goTo .plain) fun _ => ?_
    refine Moves.get_bind fun terminal => ?_
    split
    · exact Sends.pureEvent (fun screen => Course.still (stock_putCharset _ c screen)) terminal
    · exact .refl
  · exact callStep_sends _ _ _ c
  · exact .goTo _
  · exact .goTo _
  · split
    · exact .goTo _
    · split
      · exact endCommand_sends _
      · exact .pure
  · split
    · exact endCommand_sends _
    · exact .goTo _

private theorem drawRun_sends (run : List Char) : Sends (drawRun run) := by
  unfold drawRun
  split
  · exact .pure
  · exact .pureEvent fun screen => screen.draw_course _

private theorem feed_sends (run text : List Char) : Sends (feed run text) := by
  induction text generalizing run with
  | nil => exact drawRun_sends run
  | cons c rest ih =>
    refine Moves.get_bind fun terminal => ?_
    refine (?_ : Sends _) terminal
    split
    · exact ih _
    · exact (drawRun_sends run).bind fun _ => (step_sends c).bind fun _ => ih []

/-- Whatever is written takes a screen through such changes. -/
theorem write_sends (bytes : List UInt8) : Sends (write bytes) := by
  intro terminal
  let started : Terminal := { terminal with pending := (terminal.decode bytes).2 }
  have same : (after (write bytes) terminal).screen = (after (feed [] (terminal.decode bytes).1) started).screen := by
    simp only [after, write, started]
    cases feed [] (terminal.decode bytes).1 _ <;> rfl
  rw [same]
  exact feed_sends [] (terminal.decode bytes).1 started

end Terminal

end Emulator

end TerminalDock
