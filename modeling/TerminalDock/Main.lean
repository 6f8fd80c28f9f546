import TerminalDock.Command.Execute
import TerminalDock.Host.Environment

/-! The command line: the commands at work on the user's own configuration and settings. -/

namespace TerminalDock.CommandLine

def environment : IO Environment :=
  ["HOME", "XDG_CONFIG_HOME"].filterMapM fun name => return (← IO.getEnv name).map (name, ·)

def read (path : Path) : IO Config.File := do
  try return some (← IO.FS.readBinFile path.text).toList
  catch _ => return none

/-- Writes a file unless it holds just that already. -/
def write (directory path : Path) (old new : Config.File) : IO Unit := do
  if let some bytes := new then
    if old != new then
      IO.FS.createDirAll directory.text
      IO.FS.writeBinFile path.text ⟨bytes.toArray⟩

/-- Whether a path leads to a directory: only then is there a single dot in it. -/
def isDirectory (path : String) : IO Bool := do
  try
    let _ ← IO.FS.realPath (path ++ "/.")
    return true
  catch _ => return false

/-- The part of the file system that a command asks about. -/
def system (words : List String) : IO FileSystem := do
  let working := Path.ofText (← IO.currentDir).toString
  match Command.parse? words with
  | some (.run (some cwd) _) =>
    let known := if ← isDirectory cwd then [(Path.ofText cwd).resolve working] else []
    return { directories := known, files := [], working := working }
  | _ => return { directories := [], files := [], working := working }

def run (words : List String) : IO UInt32 := do
  match (← environment).configDirectory .unix with
  | .error failure =>
    IO.eprintln failure.message
    return 1
  | .ok directory =>
    let configPath := directory.join ["config.json"]
    let settingsPath := directory.join ["settings.json"]
    let before : Command.Directory := {
      config := ← read configPath
      settings := ← read settingsPath
      configPath := configPath.text
      settingsPath := settingsPath.text }
    let (outcome, after) := Command.executeWords (← system words) before words
    write directory configPath before.config after.config
    write directory settingsPath before.settings after.settings
    match outcome with
    | .exit code output =>
      IO.print output
      return code.toUInt32
    | .failed error =>
      IO.eprintln error.failure.message
      return 1
    | .window .. =>
      IO.eprintln "no display to open a window on"
      return 1

end TerminalDock.CommandLine

def main (words : List String) : IO UInt32 :=
  TerminalDock.CommandLine.run words
