import TerminalDock.Failure
import TerminalDock.Theme.Basic
import TerminalDock.Text.IntegerLiteral
import TerminalDock.Text.Letter

/-! The colours that a terminal program asks for: by name, by number in the table of 256, or as a
hexadecimal triple. -/

namespace TerminalDock.Theme

inductive ColorRequest
  | unset
  | number (index : Int)
  | named (text : String)
  deriving DecidableEq, Repr

/-- The number names no colour of the theme. -/
inductive ColorError
  | outOfRange
  deriving DecidableEq, Repr

def ColorError.message : ColorError → String
  | .outOfRange => "tuple index out of range"

def ColorError.failure (error : ColorError) : Failure :=
  .fault .index error.message

/-- One component of a colour, in at least two digits. -/
def component (value : Nat) : List Char :=
  Text.padZeros 2 (Text.hexDigits value)

def ofParts (red green blue : Nat) : String :=
  String.ofList ('#' :: (component red ++ component green ++ component blue))

/-- One of the theme's own colours; a negative number counts from the end. -/
def ansiAt (theme : Theme) (index : Int) : Except ColorError String :=
  let place := if index < 0 then index + theme.ansi.length else index
  if place < 0 then .error .outOfRange
  else
    match theme.ansi[place.toNat]? with
    | some color => .ok color
    | none => .error .outOfRange

/-- A colour of the table: sixteen of the theme, a cube of six steps a side, and a ramp of greys. -/
def indexed (theme : Theme) (index : Int) : Except ColorError String :=
  if index < 16 then theme.ansiAt index
  else if index < 232 then
    let place := (index - 16).toNat
    .ok (ofParts (place / 36 * 51) (place / 6 % 6 * 51) (place % 6 * 51))
  else
    let gray := (index - 232).toNat * 10 + 8
    .ok (ofParts gray gray gray)

/-- The place of a colour name among the sixteen. Programs may call the fourth colour yellow. -/
def nameIndex? (text : List Char) : Option Nat :=
  let bright := "bright".toList.isPrefixOf text
  let base := String.ofList (if bright then text.drop 6 else text)
  let base := if base == "yellow" then "brown" else base
  (ansiNames.idxOf? base).map (· + if bright then 8 else 0)

/-- The colour for a request, or the default where the request names none. -/
def color (theme : Theme) (request : ColorRequest) (default : Option String) :
    Except ColorError (Option String) :=
  match request with
  | .unset => .ok default
  | .number index => (theme.indexed index).map some
  | .named name =>
    if name == "default" then .ok default
    else
      let text := Text.lower name.toList
      match nameIndex? text with
      | some index => (theme.ansiAt index).map some
      | none =>
        let digits := if text.head? == some '#' then text.drop 1 else text
        if 6 ≤ digits.length then
          let digits := digits.take 6
          .ok (if (Text.integer? 16 digits).isSome then some (String.ofList ('#' :: digits)) else default)
        else
          match Text.integer? 10 digits with
          | some index => (theme.indexed index).map some
          | none => .ok default

end TerminalDock.Theme
