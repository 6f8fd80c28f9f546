import TerminalDock.Decimal.Shortest

/-! Values of the data format that configuration and settings are kept in. Whole numbers and numbers with
a fraction are told apart, and objects keep the order of their keys. -/

namespace TerminalDock

/-- A value. Text with unpaired surrogates, which escapes can produce, is kept as its code units. -/
inductive Json
  | null
  | bool (value : Bool)
  | int (value : Int)
  | float (value : Float)
  | str (text : String)
  | units (codes : List Nat)
  | arr (items : List Json)
  | obj (fields : List (String × Json))
  deriving Inhabited

namespace Json

def kindName : Json → String
  | .null => "NoneType"
  | .bool _ => "bool"
  | .int _ => "int"
  | .float _ => "float"
  | .str _ | .units _ => "str"
  | .arr _ => "list"
  | .obj _ => "dict"

end Json

end TerminalDock
