import TerminalDock.Text.Blank

/-! Web addresses in a line of text. An address is a scheme and the longest run of characters that are
neither blank nor a quote or bracket, less the sentence punctuation at its end. -/

namespace TerminalDock

/-- An address and the columns it takes up, the end exclusive. -/
structure Link where
  start : Nat
  stop : Nat
  url : String
  deriving DecidableEq, Repr

namespace Link

/-- The schemes that make a text an address. -/
def schemes : List (List Char) :=
  ["http://".toList, "https://".toList, "ftp://".toList]

/-- The characters of an address after its scheme. -/
def isUrlChar (c : Char) : Bool :=
  !Text.isBlank c && !("'\"<>()[]\x7b\x7d".toList.contains c)

/-- Punctuation that belongs to the sentence when it stands right after an address. -/
def isTrailingPunctuation (c : Char) : Bool :=
  ".,;:!?".toList.contains c

/-- The scheme that the text starts with. -/
def schemeOf? (text : List Char) : Option (List Char) :=
  schemes.find? (·.isPrefixOf text)

/-- The longest match at the front of the text: a scheme and at least one character more. -/
def matchOf? (text : List Char) : Option (List Char) :=
  match schemeOf? text with
  | none => none
  | some scheme =>
    let body := (text.drop scheme.length).takeWhile isUrlChar
    if body.isEmpty then none else some (scheme ++ body)

/-- The match without its trailing punctuation, unless nothing but a scheme is left. -/
def ofMatch? (start : Nat) (found : List Char) : Option Link :=
  let url := Text.dropRightWhile isTrailingPunctuation found
  if "://".toList.isSuffixOf url then none
  else some ⟨start, start + url.length, String.ofList url⟩

/-- The links of a text that starts at the given column; the search goes on after each match. -/
def linksFrom (start : Nat) : Nat → List Char → List Link
  | 0, _ => []
  | _, [] => []
  | fuel + 1, c :: rest =>
    match matchOf? (c :: rest) with
    | none => linksFrom (start + 1) fuel rest
    | some found =>
      (ofMatch? start found).toList
        ++ linksFrom (start + found.length) fuel ((c :: rest).drop found.length)

def findLinks (text : List Char) : List Link :=
  linksFrom 0 text.length text

end Link

end TerminalDock
