import TerminalDock.Failure
import TerminalDock.Json.Value
import TerminalDock.Text.IntegerLiteral
import TerminalDock.Text.Quoted

/-! The static configuration of the panel: which shell to run, how to draw it, and the bounds of the
panel's height. -/

namespace TerminalDock

structure PanelConfig where
  /-- The program of new sessions; without one it is the user's shell. -/
  shell : Option String := none
  loginShell : Bool := true
  fontFamily : String := "Menlo"
  fontSize : Int := 13
  scrollback : Int := 10000
  /-- The bounds of the panel's height, in pixels. -/
  minHeight : Int := 100
  maxHeight : Int := 800
  defaultHeight : Int := 300
  /-- The pixels that fitting leaves out on each axis. -/
  padding : Int := 8
  minRows : Int := 1
  minCols : Int := 2
  frameDelayMs : Int := 16
  deriving DecidableEq, Repr

namespace PanelConfig

/-- The fields by name, in the order in which they are declared. -/
def fields (config : PanelConfig) : List (String × Json) := [
  ("shell", config.shell.elim .null .str),
  ("login_shell", .bool config.loginShell),
  ("font_family", .str config.fontFamily),
  ("font_size", .int config.fontSize),
  ("scrollback", .int config.scrollback),
  ("min_height", .int config.minHeight),
  ("max_height", .int config.maxHeight),
  ("default_height", .int config.defaultHeight),
  ("padding", .int config.padding),
  ("min_rows", .int config.minRows),
  ("min_cols", .int config.minCols),
  ("frame_delay_ms", .int config.frameDelayMs)]

/-- A height brought within the bounds. -/
def clamp (config : PanelConfig) (height : Int) : Int :=
  min config.maxHeight (max config.minHeight height)

end PanelConfig

/-- Why a value is no height. -/
inductive HeightError
  | notANumber
  | infinite
  | wrongKind (kind : String)
  | unreadable (text : String)
  | tooLong (digits : Nat)
  deriving DecidableEq, Repr

/-- The wording of the fault; an unreadable text is shown up to two hundred characters. -/
def HeightError.message : HeightError → String
  | .notANumber => "cannot convert float NaN to integer"
  | .infinite => "cannot convert float infinity to integer"
  | .wrongKind kind =>
    s!"int() argument must be a string, a bytes-like object or a real number, not '{kind}'"
  | .unreadable text =>
    "invalid literal for int() with base 10: "
      ++ String.ofList ((Text.quotedChars text.toList).take 200)
  | .tooLong digits =>
    s!"Exceeds the limit ({Text.digitLimit} digits) for integer string conversion: " ++
      s!"value has {digits} digits; use sys.set_int_max_str_digits() to increase the limit"

def HeightError.failure (error : HeightError) : Failure :=
  match error with
  | .wrongKind _ => .fault .type error.message
  | .infinite => .fault .overflow error.message
  | .notANumber | .unreadable _ | .tooLong _ => .fault .value error.message

/-- The whole number that a value of any kind stands for as a height. A number with a fraction loses it;
a text is read as a decimal number. -/
def Json.toHeight : Json → Except HeightError Int
  | .int value => .ok value
  | .bool value => .ok (if value then 1 else 0)
  | .float value =>
    match Decimal.truncate? value with
    | some height => .ok height
    | none => .error (if value.isNaN then .notANumber else .infinite)
  | .str text =>
    match Text.integer? 10 text.toList with
    | some height =>
      if Text.digitLimit < Text.digitCount text.toList then .error (.tooLong (Text.digitCount text.toList))
      else .ok height
    | none => .error (.unreadable text)
  | .units codes => .error (.unreadable (String.ofList (codes.map Char.ofNat)))
  | value => .error (.wrongKind value.kindName)

/-- A height of any kind brought within the bounds. -/
def PanelConfig.clampHeight (config : PanelConfig) (height : Json) : Except HeightError Int :=
  height.toHeight.map config.clamp

end TerminalDock
