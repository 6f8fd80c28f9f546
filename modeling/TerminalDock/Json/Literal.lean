import TerminalDock.Json.Value
import TerminalDock.Text.Quoted

/-! Values as literals, the way settings are shown to the user. A text stands alone without quotes and in
quotes inside a list or an object. -/

namespace TerminalDock.Json

mutual

def literal : Json → String
  | .null => "None"
  | .bool value => if value then "True" else "False"
  | .int value => toString value
  | .float value => Decimal.floatText "nan" "inf" value
  | .str text => Text.quoted text
  | .units codes => Text.quoted (String.ofList (codes.map Char.ofNat))
  | .arr items => "[" ++ literalItems items ++ "]"
  | .obj fields => "\x7b" ++ literalFields fields ++ "\x7d"

def literalItems : List Json → String
  | [] => ""
  | [item] => literal item
  | item :: items => literal item ++ ", " ++ literalItems items

def literalFields : List (String × Json) → String
  | [] => ""
  | [(key, value)] => Text.quoted key ++ ": " ++ literal value
  | (key, value) :: fields => Text.quoted key ++ ": " ++ literal value ++ ", " ++ literalFields fields

end

/-- A value as it is shown on its own. -/
def display : Json → String
  | .str text => text
  | value => literal value

end TerminalDock.Json
