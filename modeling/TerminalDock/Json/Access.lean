import TerminalDock.Assoc
import TerminalDock.Json.Value

/-! Parts of a value. What is not there counts as nothing: a field of an object that has no such field, or of
what is no object, is null, and what is no array has no items. -/

namespace TerminalDock.Json

def fields : Json → List (String × Json)
  | .obj fields => fields
  | _ => []

def items : Json → List Json
  | .arr items => items
  | _ => []

def field (value : Json) (key : String) : Json :=
  (Assoc.find? key value.fields).getD .null

def hasField (value : Json) (key : String) : Bool :=
  Assoc.has key value.fields

def item (value : Json) (place : Nat) : Json :=
  value.items[place]?.getD .null

def text? : Json → Option String
  | .str text => some text
  | _ => none

def isNull : Json → Bool
  | .null => true
  | _ => false

end TerminalDock.Json
