import TerminalDock.Assoc
import TerminalDock.Config.Basic
import TerminalDock.Config.Field

/-! Reading a configuration from named values. Fields that are not given have their defaults, unknown
names are ignored, and all faults are told at once, in the order in which the fields are declared. -/

namespace TerminalDock.Config

inductive Problem
  | field (name : String) (fault : FieldFault)
  | crossedHeights
  deriving DecidableEq, Repr

def Problem.code : Problem → String
  | .field _ fault => fault.code
  | .crossedHeights => "value_error"

/-- The names of the fields that a problem is about. -/
def Problem.place : Problem → List String
  | .field name _ => [name]
  | .crossedHeights => []

def Problem.message : Problem → String
  | .field _ fault => fault.message
  | .crossedHeights => "Value error, min_height must not exceed max_height"

/-- Reads one field, or takes its default; a fault is added to the problems so far. -/
def readField {α : Type} (given : List (String × Json)) (name : String) (default : α)
    (read : Json → Except FieldFault α) (problems : List Problem) : α × List Problem :=
  match Assoc.find? name given with
  | none => (default, problems)
  | some value =>
    match read value with
    | .ok result => (result, problems)
    | .error fault => (default, problems ++ [.field name fault])

/-- The configuration that the values make up. The heights are compared once all fields are sound. -/
def validate (given : List (String × Json)) : Except (List Problem) PanelConfig :=
  let base : PanelConfig := {}
  let (shell, problems) := readField given "shell" base.shell textOrNone []
  let (loginShell, problems) := readField given "login_shell" base.loginShell truth problems
  let (fontFamily, problems) := readField given "font_family" base.fontFamily text problems
  let (fontSize, problems) := readField given "font_size" base.fontSize (bounded (some 6) (some 28)) problems
  let (scrollback, problems) := readField given "scrollback" base.scrollback (bounded (some 0) none) problems
  let (minHeight, problems) := readField given "min_height" base.minHeight (bounded (some 50) none) problems
  let (maxHeight, problems) := readField given "max_height" base.maxHeight (bounded (some 50) none) problems
  let (defaultHeight, problems) := readField given "default_height" base.defaultHeight integer problems
  let (padding, problems) := readField given "padding" base.padding (bounded (some 0) none) problems
  let (minRows, problems) := readField given "min_rows" base.minRows (bounded (some 1) none) problems
  let (minCols, problems) := readField given "min_cols" base.minCols (bounded (some 1) none) problems
  let (frameDelayMs, problems) :=
    readField given "frame_delay_ms" base.frameDelayMs (bounded (some 0) none) problems
  if !problems.isEmpty then .error problems
  else if maxHeight < minHeight then .error [.crossedHeights]
  else .ok {
    shell, loginShell, fontFamily, fontSize, scrollback, minHeight, maxHeight, defaultHeight, padding,
    minRows, minCols, frameDelayMs }

end TerminalDock.Config
