import TerminalDock.Assoc
import TerminalDock.Failure
import TerminalDock.Host.Path

/-! What a process inherits: its environment variables and the platform. From these follow the user's
shell, the home directory, and where configuration is kept. -/

namespace TerminalDock

inductive Platform
  | windows
  | mac
  | unix
  deriving DecidableEq, Repr

def Platform.ofName (name : String) : Platform :=
  if name == "win32" then .windows else if name == "darwin" then .mac else .unix

abbrev Environment := Assoc String String

namespace Environment

/-- A variable that is set and not empty. -/
def nonEmpty? (environment : Environment) (name : String) : Option String :=
  (environment.find? name).filter (!·.isEmpty)

/-- The home directory: that of the account if the variable is not set, and the root if it is empty. -/
def home (environment : Environment) : Except Failure Path :=
  let text := (environment.find? "HOME").getD "/root"
  let trimmed := (text.toList.reverse.dropWhile (· == '/')).reverse
  let place := if trimmed.isEmpty then "/" else String.ofList trimmed
  if place.toList.head? == some '~' then
    .error (.fault .runtime "Could not determine home directory.")
  else .ok (Path.ofText place)

/-- The directory that holds configuration and settings. -/
def configDirectory (environment : Environment) (platform : Platform) : Except Failure Path := do
  let home ← environment.home
  match platform with
  | .windows =>
    let base := ((environment.find? "LOCALAPPDATA").map Path.ofText).getD (home.join ["AppData", "Local"])
    return base.join ["TermPanel"]
  | .mac => return home.join ["Library", "Application Support", "TermPanel"]
  | .unix =>
    let base := ((environment.find? "XDG_CONFIG_HOME").map Path.ofText).getD (home.join [".config"])
    return base.join ["termpanel"]

/-- The user's shell: the one named in the environment if it exists, else a plain one. -/
def defaultShell (environment : Environment) (platform : Platform) (system : FileSystem) : String :=
  match platform with
  | .windows => (environment.nonEmpty? "COMSPEC").getD "cmd.exe"
  | _ =>
    match environment.nonEmpty? "SHELL" with
    | some shell => if system.exists? (Path.ofText shell) then shell else "/bin/sh"
    | none => "/bin/sh"

/-- The command that starts a session: the given shell or the user's, as a login shell where there is
such a thing. -/
def shellCommand (environment : Environment) (platform : Platform) (system : FileSystem)
    (shell : Option String) (login : Bool) : List String :=
  let program := (shell.filter (!·.isEmpty)).getD (environment.defaultShell platform system)
  program :: (if login && platform != .windows then ["-l"] else [])

/-- The environment of a session: it says what the terminal can do, and may be added to. -/
def forTerminal (environment extra : Environment) : Environment :=
  ((environment.put "TERM" "xterm-256color").put "COLORTERM" "truecolor").union extra

end Environment

end TerminalDock
