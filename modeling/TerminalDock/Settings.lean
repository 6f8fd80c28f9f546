import TerminalDock.Config.Store

/-! The remembered preferences: the height of the panel and the colour scheme. Their values are taken as
they are found; a file that cannot be read counts as one that is not there. -/

namespace TerminalDock

structure PanelSettings where
  panelHeight : Json := .int 300
  colorScheme : Json := .str "dark"
  deriving Inhabited

inductive SettingsError
  | notAnObject (kind : String)
  | unknown (key : String)
  | unexpected (key : String)
  deriving DecidableEq, Repr

def SettingsError.message : SettingsError → String
  | .notAnObject kind => s!"'{kind}' object has no attribute 'items'"
  | .unknown key => s!"Unknown setting: {key}"
  | .unexpected key => s!"PanelSettings.__init__() got an unexpected keyword argument '{key}'"

def SettingsError.failure (error : SettingsError) : Failure :=
  match error with
  | .notAnObject _ => .fault .attribute error.message
  | .unknown _ => .fault .key error.message
  | .unexpected _ => .fault .type error.message

namespace PanelSettings

def fields (settings : PanelSettings) : List (String × Json) :=
  [("panel_height", settings.panelHeight), ("color_scheme", settings.colorScheme)]

/-- Sets one of the settings; unknown names change nothing. -/
def set (settings : PanelSettings) (key : String) (value : Json) : PanelSettings :=
  if key == "panel_height" then { settings with panelHeight := value }
  else if key == "color_scheme" then { settings with colorScheme := value }
  else settings

def isKnown (key : String) : Bool :=
  key == "panel_height" || key == "color_scheme"

/-- The settings of an object; what it does not name has its default, unknown names are ignored. -/
def ofFields (given : List (String × Json)) : PanelSettings :=
  given.foldl (fun settings (key, value) => settings.set key value) {}

def ofJson : Json → Except SettingsError PanelSettings
  | .obj given => .ok (ofFields given)
  | value => .error (.notAnObject value.kindName)

def make (given : List (String × Json)) : Except SettingsError PanelSettings :=
  match given.find? fun (key, _) => !isKnown key with
  | some (key, _) => .error (.unexpected key)
  | none => .ok (ofFields given)

/-- The settings of a file. Contents that are no value of the format count as no file. -/
def load : Config.File → Except SettingsError PanelSettings
  | none => .ok {}
  | some bytes =>
    match Config.readJson bytes with
    | .error _ => .ok {}
    | .ok value => ofJson value

def save (settings : PanelSettings) : List UInt8 :=
  Text.Utf8.encode (Json.pretty (.obj settings.fields))

/-- Loads the settings, sets one of them and saves them. The first part is the new settings, the second
the file afterwards. -/
def update (file : Config.File) (key : String) (value : Json) :
    Except SettingsError PanelSettings × Config.File :=
  if isKnown key then
    match load file with
    | .error error => (.error error, file)
    | .ok settings =>
      let settings := settings.set key value
      (.ok settings, some settings.save)
  else (.error (.unknown key), file)

end PanelSettings

end TerminalDock
