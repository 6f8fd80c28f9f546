import TerminalDock.Assoc
import TerminalDock.Console.Wrap
import TerminalDock.Failure
import TerminalDock.Text.IntegerLiteral
import TerminalDock.Text.Letter

/-! Text with style tags in square brackets. On a plain console the styles have no effect, so what is left
of the text is everything but the tags. But a closing tag has to match an open one, for which it may name the
same style in other words, and a handler that is closed has to be called with literals. -/

namespace TerminalDock.Console

/-- Characters that a tag may start with. -/
def startsTag (c : Char) : Bool :=
  ('a' ≤ c && c ≤ 'z') || c == '#' || c == '/' || c == '@'

/-- A part of a marked-up text, with its place: plain text, or the contents of a tag. -/
inductive Part
  | plain (text : List Char)
  | tag (position : Nat) (name : List Char)
  deriving DecidableEq, Repr

/-- The contents of a tag whose opening bracket was just read, and how much text it takes up: it goes to
the first closing bracket, before which there may be no other opening one. -/
def tagBody? (text : List Char) : Option (List Char) :=
  match text with
  | c :: rest =>
    if startsTag c then
      let body := rest.takeWhile fun c => c != ']' && c != '['
      if (rest.drop body.length).head? == some ']' then some (c :: body) else none
    else none
  | [] => none

/-- A tag at the front of the text: the number of backslashes before it, and its contents. -/
def tagAt? (text : List Char) : Option (Nat × List Char) :=
  let slashes := (text.takeWhile (· == '\\')).length
  match text.drop slashes with
  | '[' :: rest => (tagBody? rest).map fun body => (slashes, body)
  | _ => none

/-- Splits a text into its parts. Of the backslashes before a tag each pair stands for one; a single one
left over makes the tag plain text. `plain` is the text since the last tag, last character first. -/
def partsFrom (position : Nat) (plain : List Char) : Nat → List Char → List Part
  | 0, _ => [.plain plain.reverse]
  | _, [] => [.plain plain.reverse]
  | fuel + 1, c :: rest =>
    match tagAt? (c :: rest) with
    | none => partsFrom (position + 1) (c :: plain) fuel rest
    | some (slashes, body) =>
      let size := slashes + body.length + 2
      let after := (c :: rest).drop size
      let backslashes : Part := .plain (List.replicate (slashes / 2) '\\')
      if slashes % 2 == 1 then
        .plain plain.reverse :: backslashes :: .plain ('[' :: (body ++ [']']))
          :: partsFrom (position + size) [] fuel after
      else
        .plain plain.reverse :: backslashes :: .tag (position + slashes) body
          :: partsFrom (position + size) [] fuel after

def parts (text : List Char) : List Part :=
  partsFrom 0 [] (text.length + 1) text

inductive MarkupError
  | noOpenTag (tag : List Char) (position : Nat)
  | nothingToClose (position : Nat)
  | badHandler (call parameters : List Char)
  deriving DecidableEq, Repr

def MarkupError.message : MarkupError → String
  | .noOpenTag tag position =>
    s!"closing tag '[{String.ofList tag}]' at position {position} doesn't match any open tag"
  | .nothingToClose position => s!"closing tag '[/]' at position {position} has nothing to close"
  | .badHandler call parameters =>
    let fault := if call.count ')' < call.count '(' then "'(' was never closed" else "invalid syntax"
    s!"error parsing {Text.quoted (String.ofList call)} in {Text.quoted (String.ofList parameters)}; {fault}"

def MarkupError.failure (error : MarkupError) : Failure :=
  .fault .markup error.message

/-- The attributes of a style in the order in which they are named, each with its short name. -/
def styleAttributes : List (String × String) :=
  [("bold", "b"), ("dim", "d"), ("italic", "i"), ("underline", "u"), ("blink", "blink"), ("blink2", "blink2"),
    ("reverse", "r"), ("conceal", "c"), ("strike", "s"), ("underline2", "uu"), ("frame", "frame"),
    ("encircle", "encircle"), ("overline", "o")]

def attribute? (word : List Char) : Option String :=
  (styleAttributes.find? fun (name, short) => name.toList == word || short.toList == word).map Prod.fst

/-- The colours that have names, each with the numbers of its shades. -/
def shades : List (String × List String) := [
  ("black", [""]), ("red", ["", "3", "1"]), ("green", ["", "4", "3", "1"]), ("yellow", ["", "4", "3", "2", "1"]),
  ("blue", ["", "3", "1"]), ("magenta", ["", "3", "2", "1"]), ("cyan", ["", "3", "2", "1"]), ("white", [""]),
  ("bright_black", [""]), ("bright_red", [""]), ("bright_green", [""]), ("bright_yellow", [""]),
  ("bright_blue", [""]), ("bright_magenta", [""]), ("bright_cyan", [""]), ("bright_white", [""]),
  ("grey", ["0", "37", "53", "63", "69", "84", "100", "3", "7", "11", "15", "19", "23", "27", "30", "35", "39", "42",
    "46", "50", "54", "58", "62", "66", "70", "74", "78", "82", "85", "89", "93"]),
  ("gray", ["0", "37", "53", "63", "69", "84", "100", "3", "7", "11", "15", "19", "23", "27", "30", "35", "39", "42",
    "46", "50", "54", "58", "62", "66", "70", "74", "78", "82", "85", "89", "93"]),
  ("navy_blue", [""]), ("dark_blue", [""]), ("dark_green", [""]), ("deep_sky_blue", ["4", "3", "2", "1"]),
  ("dodger_blue", ["3", "2", "1"]), ("spring_green", ["4", "3", "2", "1"]), ("turquoise", ["4", "2"]),
  ("dark_cyan", [""]), ("light_sea_green", [""]), ("dark_turquoise", [""]), ("medium_spring_green", [""]),
  ("dark_red", [""]), ("deep_pink", ["4", "3", "2", "1"]), ("purple", ["4", "3", ""]), ("blue_violet", [""]),
  ("orange", ["4", "3", "1"]), ("medium_purple", ["4", "3", "", "2", "1"]), ("slate_blue", ["3", "1"]),
  ("royal_blue", ["1"]), ("chartreuse", ["4", "3", "2", "1"]), ("dark_sea_green", ["4", "", "3", "2", "1"]),
  ("pale_turquoise", ["4", "1"]), ("steel_blue", ["", "3", "1"]), ("cornflower_blue", [""]), ("cadet_blue", [""]),
  ("sky_blue", ["3", "2", "1"]), ("pale_green", ["3", "1"]), ("sea_green", ["3", "2", "1"]),
  ("aquamarine", ["3", "1"]), ("medium_turquoise", [""]), ("dark_slate_gray", ["2", "3", "1"]),
  ("dark_magenta", [""]), ("dark_violet", [""]), ("light_pink", ["4", "3", "1"]), ("plum", ["4", "3", "2", "1"]),
  ("wheat", ["4", "1"]), ("light_slate_grey", [""]), ("light_slate_gray", [""]), ("light_slate_blue", [""]),
  ("dark_olive_green", ["3", "2", "1"]), ("light_sky_blue", ["3", "1"]), ("light_green", [""]),
  ("medium_violet_red", [""]), ("dark_orange", ["3", ""]), ("indian_red", ["", "1"]), ("hot_pink", ["3", "2", ""]),
  ("medium_orchid", ["3", "", "1"]), ("dark_goldenrod", [""]), ("light_salmon", ["3", "1"]), ("rosy_brown", [""]),
  ("gold", ["3", "1"]), ("dark_khaki", [""]), ("navajo_white", ["3", "1"]), ("light_steel_blue", ["3", "", "1"]),
  ("light_cyan", ["3", "1"]), ("green_yellow", [""]), ("orchid", ["", "2", "1"]), ("pink", ["3", "1"]),
  ("violet", [""]), ("light_goldenrod", ["3", "2", "1"]), ("tan", [""]), ("misty_rose", ["3", "1"]),
  ("thistle", ["3", "1"]), ("khaki", ["3", "1"]), ("light_yellow", ["3"]), ("honeydew", ["2"]),
  ("orange_red", ["1"]), ("salmon", ["1"]), ("light_coral", [""]), ("pale_violet_red", ["1"]), ("sandy_brown", [""]),
  ("cornsilk", ["1"])]

def isColorName (word : List Char) : Bool :=
  word == "default".toList || shades.any fun (name, numbers) =>
    name.toList.isPrefixOf word && numbers.any (·.toList == word.drop name.length)

/-- What stands between the brackets of a function of that name. -/
def argument? (name : String) (word : List Char) : Option (List Char) :=
  if (name.toList ++ ['(']).isPrefixOf word && word.getLast? == some ')' then
    some (word.drop (name.length + 1)).dropLast
  else none

def splitCommas (text : List Char) : List (List Char) :=
  text.foldr (fun c fields =>
    if c == ',' then [] :: fields
    else
      match fields with
      | [] => [[c]]
      | field :: rest => (c :: field) :: rest) [[]]

/-- A part of a colour, of which only digits are known. One without any digit, or with too many, is no number. -/
def component (digits : List Char) : Except Failure Nat :=
  if digits.isEmpty then .error (.fault .value "invalid literal for int() with base 10: ''")
  else if Text.digitLimit < digits.length then
    .error (.fault .value (s!"Exceeds the limit ({Text.digitLimit} digits) for integer string conversion: " ++
      s!"value has {digits.length} digits; use sys.set_int_max_str_digits() to increase the limit"))
  else .ok (digits.foldl (fun value c => value * 10 + (Text.digitValue? c).getD 0) 0)

/-- Whether a word in lower case is a colour. -/
def isColor (word : List Char) : Except Failure Bool :=
  let isHex (c : Char) := ('0' ≤ c && c ≤ '9') || ('a' ≤ c && c ≤ 'f')
  if isColorName word then .ok true
  else if word.head? == some '#' then .ok (word.length == 7 && word.tail.all isHex)
  else
    match argument? "color" word, argument? "rgb" word with
    | some digits, _ =>
      if 1 ≤ digits.length && digits.length ≤ 3 && digits.all fun c => '0' ≤ c && c ≤ '9' then
        (component digits).map (· ≤ 255)
      else .ok false
    | none, some fields =>
      if fields.isEmpty || !fields.all fun c => c == ',' || (Text.digitValue? c).isSome then .ok false
      else
        match splitCommas fields with
        | [red, green, blue] => do
          let components ← [red, green, blue].mapM component
          return components.all (· ≤ 255)
        | _ => .ok false
    | none, none => .ok false

/-- What the words of a style say. -/
structure Style where
  attributes : Assoc String Bool := []
  color : Option (List Char) := none
  background : Option (List Char) := none
  link : Option (List Char) := none

/-- Reads the words of a style; none if they are none. -/
def Style.read (style : Style) : List (List Char) → Except Failure (Option Style)
  | [] => .ok (some style)
  | word :: rest =>
    let lowered := Text.lower word
    if lowered == "on".toList then
      match rest with
      | [] => .ok none
      | color :: rest => do
        if ← isColor (Text.lower color) then Style.read { style with background := some (Text.lower color) } rest
        else return none
    else if lowered == "not".toList then
      match rest with
      | [] => .ok none
      | name :: rest =>
        match attribute? name with
        | some name => Style.read { style with attributes := style.attributes.put name false } rest
        | none => .ok none
    else if lowered == "link".toList then
      match rest with
      | [] => .ok none
      | address :: rest => Style.read { style with link := some address } rest
    else
      match attribute? lowered with
      | some name => Style.read { style with attributes := style.attributes.put name true } rest
      | none => do
        if ← isColor lowered then Style.read { style with color := some lowered } rest
        else return none

/-- The words of a style, as it names itself. -/
def Style.words (style : Style) : List (List Char) :=
  styleAttributes.flatMap (fun (name, _) =>
      match style.attributes.find? name with
      | some true => [name.toList]
      | some false => ["not".toList, name.toList]
      | none => [])
    ++ style.color.toList
    ++ (style.background.elim [] fun color => ["on".toList, color])
    ++ style.link.elim [] fun address => ["link".toList, address]

/-- The name of a style, which is the same for all words that say the same: the name that it gives itself, and the words
in lower case for what is no style. -/
def styleName (name : List Char) : Except Failure (List Char) := do
  if Text.strip name == "none".toList then return "none".toList
  match ← Style.read {} ((words name).map fun word => Text.strip word.text) with
  | some style => return (if style.words.isEmpty then "none".toList else (style.words.intersperse [' ']).flatten)
  | none => return Text.lower (Text.strip name)

/-- How far a literal has been read: inside so many brackets, a value is to come, or one has come; or a word or a quoted
text is being read. -/
inductive LiteralState
  | expects (depth : Nat) (comma : Bool)
  | follows (depth : Nat)
  | word (depth : Nat) (letters : List Char)
  | quoted (depth : Nat) (quote : Char) (escaped : Bool)

def isLiteralWord (word : List Char) : Bool :=
  let number := word.dropWhile fun c => c == '-' || c == '+'
  ["None".toList, "True".toList, "False".toList].contains word ||
    (number.all (fun c => c.isDigit || c == '.') && number.any Char.isDigit && number.count '.' ≤ 1)

namespace LiteralState

/-- What comes after a value: a comma, or the end of a bracket. -/
def delimit (depth : Nat) (c : Char) : Option LiteralState :=
  if c == ',' then some (expects depth true)
  else if c == ' ' then some (follows depth)
  else if c == ')' && 0 < depth then some (follows (depth - 1))
  else none

def next (state : LiteralState) (c : Char) : Option LiteralState :=
  match state with
  | expects depth comma =>
    if c == '(' then some (expects (depth + 1) false)
    else if c == ' ' then some (expects depth comma)
    else if c == ')' && 0 < depth then some (follows (depth - 1))
    else if c == '"' || c == '\'' then some (quoted depth c false)
    else some (word depth [c])
  | follows depth => delimit depth c
  | word depth letters =>
    if c == ',' || c == ' ' || c == ')' then
      if isLiteralWord letters.reverse then delimit depth c else none
    else some (word depth (c :: letters))
  | quoted depth quote escaped =>
    if escaped then some (quoted depth quote false)
    else if c == '\\' then some (quoted depth quote true)
    else if c == quote then some (follows depth)
    else some (quoted depth quote false)

def ends : LiteralState → Bool
  | expects depth comma => depth == 0 && comma
  | follows depth => depth == 0
  | word depth letters => depth == 0 && isLiteralWord letters.reverse
  | quoted .. => false

end LiteralState

/-- Whether a text is a literal: a number, a quoted text, a constant, or several of them in parentheses. -/
def isLiteral (text : List Char) : Bool :=
  (text.foldlM LiteralState.next (.expects 0 false)).any LiteralState.ends

/-- A tag with what stands behind its equals sign, if it has one. -/
structure Tag where
  name : List Char
  parameters : Option (List Char)

def Tag.ofBody (body : List Char) : Tag :=
  let name := body.takeWhile (· != '=')
  ⟨name, if body.length == name.length then none else some (body.drop (name.length + 1))⟩

/-- The literals that a handler is called with: behind its name in brackets, or none. What is no call is a literal
itself. -/
def callOf (parameters : List Char) : List Char :=
  let name := parameters.takeWhile fun c => c.isAlphanum || c == '_' || c == '.'
  match parameters.drop name.length with
  | [] => "()".toList
  | '(' :: rest => if rest.getLast? == some ')' && !rest.contains '\n' then '(' :: rest else parameters
  | _ => parameters

/-- What a tag means is looked at only when it is closed, and only if it is a handler. -/
def Tag.close (tag : Tag) : Except Failure Unit :=
  match tag.name, tag.parameters with
  | '@' :: _, some (c :: parameters) =>
    let call := callOf (Text.strip (c :: parameters))
    if isLiteral call then .ok () else .error (MarkupError.badHandler call (c :: parameters)).failure
  | _, _ => .ok ()

/-- Closes the tag that is named, or the innermost one for want of a name. -/
def closeTag (opened : List Tag) (position : Nat) (body name : List Char) : Except Failure (List Tag) :=
  if name.isEmpty then
    match opened with
    | [] => .error (MarkupError.nothingToClose position).failure
    | tag :: opened => tag.close.map fun _ => opened
  else do
    let style ← styleName name
    match opened.find? (·.name == style) with
    | none => .error (MarkupError.noOpenTag body position).failure
    | some tag => tag.close.map fun _ => opened.eraseP (·.name == style)

/-- What is open after a tag with its place; the innermost tag comes first. -/
def settleTag (opened : List Tag) (position : Nat) (body : List Char) : Except Failure (List Tag) :=
  let tag := Tag.ofBody body
  match tag.name with
  | '/' :: name => closeTag opened position body (Text.strip name)
  | name => (styleName name).map fun style => ⟨style, tag.parameters⟩ :: opened

/-- An escaped bracket stands for itself. -/
def unescape : List Char → List Char
  | '\\' :: '[' :: rest => '[' :: unescape rest
  | c :: rest => c :: unescape rest
  | [] => []

/-- Control characters that a console does not print. -/
def isDropped (c : Char) : Bool :=
  c.toNat == 7 || c.toNat == 8 || (11 ≤ c.toNat && c.toNat ≤ 13)

namespace Part

def tag? : Part → Option (Nat × List Char)
  | .plain _ => none
  | .tag position body => some (position, body)

def printed : Part → List Char
  | .plain text => (unescape text).filter (!isDropped ·)
  | .tag .. => []

end Part

/-- The text that is left when the tags are taken out. -/
def plainText (markup : List Char) : Except Failure (List Char) := do
  let parts := parts markup
  let _ ← (parts.filterMap Part.tag?).foldlM (fun opened (position, body) => settleTag opened position body) []
  return parts.flatMap Part.printed

end TerminalDock.Console
