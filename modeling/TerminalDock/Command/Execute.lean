import TerminalDock.Command.Parse
import TerminalDock.Console.Page
import TerminalDock.Json.Literal
import TerminalDock.Host.Path
import TerminalDock.Settings

/-! What the commands do: they read and write the files of the configuration and the settings and print
to the console. A command that is refused leaves both files as they are. -/

namespace TerminalDock.Command

/-- The two files and the paths they are shown with. -/
structure Directory where
  config : Config.File := none
  settings : Config.File := none
  configPath : String := ""
  settingsPath : String := ""
  deriving Inhabited

/-- A failure that the commands leave to the user. -/
inductive CommandError
  | config (error : Config.LoadError)
  | settings (error : SettingsError)
  | console (failure : Failure)
  | height (error : HeightError)
  deriving DecidableEq, Repr

def CommandError.failure : CommandError → Failure
  | .config error => error.failure
  | .settings error => error.failure
  | .console failure => failure
  | .height error => error.failure

/-- How a command ends: with a code and some output, with a failure, or by opening the window. -/
inductive Outcome
  | exit (code : Nat) (output : String)
  | failed (error : CommandError)
  | window (config : PanelConfig) (settings : PanelSettings) (cwd : String)

section Printing
variable (console : Console)

/-- Ends with one printed line. -/
def sayAndExit (code : Nat) (lines : List String) : Outcome :=
  match lines.mapM console.line with
  | .ok printed => .exit code (String.join printed)
  | .error failure => .failed (.console failure)

/-- Ends with a table of two columns. -/
def showTable (title : String) (rows : List (String × String)) : Outcome :=
  match console.table title ("Key", "Value") rows with
  | .ok printed => .exit 0 printed
  | .error failure => .failed (.console failure)

/-- A value of the configuration, as a table shows it. -/
def shown (value : Json) : String :=
  match value with
  | .null => "default"
  | value => value.display

/-- Sets one key of the configuration. The shell is unset by a word for nothing; all other values are
read as the texts they are. -/
def setConfig (directory : Directory) (key value : String) : Outcome × Directory :=
  match Config.load directory.config with
  | .error error => (.failed (.config error), directory)
  | .ok config =>
    if !Assoc.has key config.fields then
      (sayAndExit console 1 [s!"[red]Unknown config key: {key}[/red]"], directory)
    else
      let word := String.ofList (Text.lower value.toList)
      let given : Json :=
        if key == "shell" && (word == "none" || word == "null" || word == "") then .null else .str value
      match Config.validate (Assoc.put key given config.fields) with
      | .error problems =>
        let message := (problems.head?.map Config.Problem.message).getD ""
        (sayAndExit console 1 [s!"[red]Invalid value for {key}:[/red] {message}"], directory)
      | .ok config =>
        let saved := { directory with config := some (Config.save config) }
        let result := ((Assoc.find? key config.fields).map Json.display).getD ""
        (sayAndExit console 0 [s!"[green]{key}[/green] = {result}"], saved)

/-- Remembers a height of the panel within the configured bounds. -/
def setHeight (directory : Directory) (height : Int) : Outcome × Directory :=
  match Config.load directory.config with
  | .error error => (.failed (.config error), directory)
  | .ok config =>
    let clamped := config.clamp height
    match PanelSettings.update directory.settings "panel_height" (.int clamped) with
    | (.error error, _) => (.failed (.settings error), directory)
    | (.ok _, file) =>
      let note :=
        if clamped == height then []
        else [s!"[yellow]Clamped to {config.minHeight}..{config.maxHeight}[/yellow]"]
      (sayAndExit console 0 (note ++ [s!"[green]panel_height[/green] = {clamped}"]),
        { directory with settings := file })

/-- Remembers a colour scheme. -/
def setScheme (directory : Directory) (scheme : String) : Outcome × Directory :=
  if scheme != "dark" && scheme != "light" then
    (sayAndExit console 1 ["[red]Scheme must be 'dark' or 'light'[/red]"], directory)
  else
    match PanelSettings.update directory.settings "color_scheme" (.str scheme) with
    | (.error error, _) => (.failed (.settings error), directory)
    | (.ok _, file) =>
      (sayAndExit console 0 [s!"[green]color_scheme[/green] = {scheme}"], { directory with settings := file })

/-- Opens the window, unless the working directory for new sessions is none. -/
def openWindow (system : FileSystem) (directory : Directory) (cwd : Option String) : Outcome :=
  let path := cwd.map Path.ofText
  match path.filter (!system.isDirectory ·) with
  | some path => sayAndExit console 2 [s!"[red]Not a directory: {path.text}[/red]"]
  | none =>
    match Config.load directory.config with
    | .error error => .failed (.config error)
    | .ok config =>
      match PanelSettings.load directory.settings with
      | .error error => .failed (.settings error)
      | .ok settings =>
        .window config settings ((path.map fun path => (path.resolve system.working).text).getD "")

def execute (system : FileSystem) (directory : Directory) : Command → Outcome × Directory
  | .run cwd _ => (openWindow console system directory cwd, directory)
  | .configShow =>
    match Config.load directory.config with
    | .error error => (.failed (.config error), directory)
    | .ok config =>
      (showTable console directory.configPath (config.fields.map fun (key, value) => (key, shown value)), directory)
  | .configSet key value => setConfig console directory key value
  | .settingsShow =>
    match PanelSettings.load directory.settings with
    | .error error => (.failed (.settings error), directory)
    | .ok settings =>
      (showTable console directory.settingsPath (settings.fields.map fun (key, value) => (key, value.display)), directory)
  | .settingsHeight height => setHeight console directory height
  | .settingsScheme scheme => setScheme console directory scheme

end Printing

/-- Runs the command that the words make up; words that are no command end with code two. -/
def executeWords (system : FileSystem) (directory : Directory) (words : List String) (console : Console := .plain) :
    Outcome × Directory :=
  match parse? words with
  | some command => execute console system directory command
  | none => (.exit 2 "", directory)

end TerminalDock.Command
