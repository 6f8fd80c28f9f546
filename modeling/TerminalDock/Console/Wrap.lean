import TerminalDock.Text.Blank
import TerminalDock.Text.Width

/-! Breaking text into lines of a given width in cells. Lines are broken before words; a word that is
wider than a line starts on a line of its own and is cut. -/

namespace TerminalDock.Console

/-- A word with the blanks around it, and how many characters come before it. -/
structure Word where
  start : Nat
  text : List Char
  deriving DecidableEq, Repr

/-- The words of a line; leading blanks belong to the first word, all others to the word before them. -/
def wordsFrom (start : Nat) : Nat → List Char → List Word
  | 0, _ => []
  | fuel + 1, text =>
    let lead := text.takeWhile Text.isBlank
    let rest := text.drop lead.length
    let body := rest.takeWhile (!Text.isBlank ·)
    if body.isEmpty then []
    else
      let rest := rest.drop body.length
      let trail := rest.takeWhile Text.isBlank
      let size := lead.length + body.length + trail.length
      ⟨start, lead ++ body ++ trail⟩ :: wordsFrom (start + size) fuel (rest.drop trail.length)

def words (line : List Char) : List Word :=
  wordsFrom 0 line.length line

def chop (width : Nat) (text : List Char) : List (List Char) :=
  let (last, done) := text.foldl (fun (current, done) c =>
    if width < Text.textWidth current.reverse + (Text.cellWidth? c).getD 0 && !current.isEmpty
    then ([c], current.reverse :: done)
    else (c :: current, done)) (([] : List Char), ([] : List (List Char)))
  (if last.isEmpty then done else last.reverse :: done).reverse

/-- The offsets of the pieces of a word that starts at the given offset, and the width of the last. -/
def foldOffsets (start : Nat) : List (List Char) → List Nat × Nat
  | [] => ([], 0)
  | [last] => (if start == 0 then [] else [start], Text.textWidth last)
  | piece :: rest =>
    let (offsets, width) := foldOffsets (start + piece.length) rest
    (if start == 0 then offsets else start :: offsets, width)

/-- The offsets before which a line is broken; `used` is the width of the current line so far. -/
def breaksFrom (width used : Nat) : List Word → List Nat
  | [] => []
  | word :: rest =>
    let size := Text.textWidth (Text.stripRight word.text)
    let full := Text.textWidth word.text
    if used + size ≤ width then breaksFrom width (used + full) rest
    else if width < size then
      let (offsets, used) := foldOffsets word.start (chop width word.text)
      offsets ++ breaksFrom width used rest
    else if used != 0 && word.start != 0 then word.start :: breaksFrom width full rest
    else breaksFrom width used rest

/-- Cuts a text before the given offsets, which rise. -/
def cutAt (position : Nat) (text : List Char) : List Nat → List (List Char)
  | [] => [text]
  | offset :: rest => text.take (offset - position) :: cutAt offset (text.drop (offset - position)) rest

/-- Drops blanks from the end of a line, no more than are too many. -/
def trimExcess (width : Nat) (line : List Char) : List Char :=
  let blanks := (line.reverse.takeWhile Text.isBlank).length
  line.take (line.length - min blanks (line.length - width))

/-- Fills each tab up to the next multiple of eight cells. -/
def expandTabs (line : List Char) : List Char :=
  (line.foldl (fun done c =>
    if c == '\t' then List.replicate (8 - Text.textWidth done.reverse % 8) ' ' ++ done else c :: done) []).reverse

/-- The text as it fits into the width, cut off if it does not. -/
def truncateTo (width : Nat) (line : List Char) : List Char :=
  if Text.textWidth line ≤ width then line
  else (chop width line).headD []

/-- The lines of one line of text. -/
def wrapLine (width : Nat) (line : List Char) : List (List Char) :=
  let line := if line.contains '\t' then expandTabs line else line
  (cutAt 0 line (breaksFrom width 0 (words line))).map fun piece => truncateTo width (trimExcess width piece)

def splitLines (text : List Char) : List (List Char) :=
  text.foldr (fun c lines =>
    if c == '\n' then [] :: lines
    else
      match lines with
      | [] => [[c]]
      | line :: rest => (c :: line) :: rest) [[]]

def wrap (width : Nat) (text : List Char) : List (List Char) :=
  (splitLines text).flatMap (wrapLine width)

end TerminalDock.Console
