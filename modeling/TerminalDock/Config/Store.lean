import TerminalDock.Config.Validation
import TerminalDock.Json.Parser
import TerminalDock.Json.Printer
import TerminalDock.Text.Utf8

/-! The configuration as a file: bytes that hold an object, or no file at all. -/

namespace TerminalDock.Config

/-- The contents of a file, if there is one. -/
abbrev File := Option (List UInt8)

/-- Line ends of any style become line feeds when a file is read as text. -/
def unifyLines : List Char → List Char
  | '\r' :: '\n' :: rest => '\n' :: unifyLines rest
  | '\r' :: rest => '\n' :: unifyLines rest
  | c :: rest => c :: unifyLines rest
  | [] => []

inductive ReadError
  | encoding (fault : Text.Utf8.Fault)
  | format (fault : Json.Fault)
  deriving DecidableEq, Repr

def readJson (bytes : List UInt8) : Except ReadError Json :=
  match Text.Utf8.decode bytes with
  | .error fault => .error (.encoding fault)
  | .ok text => (Json.parse (unifyLines text)).mapError .format

inductive LoadError
  | unreadable (error : ReadError)
  | notAnObject (kind : String)
  | invalid (problems : List Problem)
  deriving DecidableEq, Repr

/-- The configuration of a file; without a file it is the default one. -/
def load : File → Except LoadError PanelConfig
  | none => .ok {}
  | some bytes =>
    match readJson bytes with
    | .error error => .error (.unreadable error)
    | .ok (.obj fields) => (validate fields).mapError .invalid
    | .ok value => .error (.notAnObject value.kindName)

/-- The contents of the file that a configuration is saved to. -/
def save (config : PanelConfig) : List UInt8 :=
  Text.Utf8.encode (Json.prettyUnescaped (.obj config.fields))

def ReadError.message : ReadError → String
  | .encoding fault => fault.message
  | .format fault => fault.message

/-- The wording of a fault; problems of fields have wordings of their own. -/
def LoadError.message : LoadError → String
  | .unreadable error => error.message
  | .notAnObject kind => s!"termpanel.config.PanelConfig() argument after ** must be a mapping, not {kind}"
  | .invalid problems => ", ".intercalate (problems.map Problem.message)

def ReadError.failure (error : ReadError) : Failure :=
  match error with
  | .encoding _ => .fault .unicodeDecode error.message
  | .format { cause := .hugeNumber _, .. } => .fault .value error.message
  | .format _ => .fault .jsonDecode error.message

def LoadError.failure (error : LoadError) : Failure :=
  match error with
  | .unreadable cause => cause.failure
  | .notAnObject _ => .fault .type error.message
  | .invalid _ => .fault .value error.message

end TerminalDock.Config
