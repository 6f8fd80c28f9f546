import TerminalDock.Text.IntegerLiteral

/-! The commands of the command line and their arguments. A word that starts with a dash is an option
unless a double dash came before it; nothing may be missing or left over. -/

namespace TerminalDock

inductive Command
  | run (cwd : Option String) (verbose : Bool)
  | configShow
  | configSet (key value : String)
  | settingsShow
  | settingsHeight (height : Int)
  | settingsScheme (scheme : String)
  deriving DecidableEq, Repr

namespace Command

/-- The words of a command that has no options, if it has been given none. -/
def operands? : List String → Option (List String)
  | [] => some []
  | "--" :: rest => some rest
  | word :: rest =>
    if word.length > 1 && word.toList.head? == some '-' then none
    else (operands? rest).map (word :: ·)

/-- The options of the command that opens the window. -/
def runOptions? (cwd : Option String) (verbose : Bool) : List String → Option Command
  | [] => some (.run cwd verbose)
  | ["--"] => some (.run cwd verbose)
  | "--cwd" :: value :: rest => runOptions? (some value) verbose rest
  | word :: rest =>
    if word == "--verbose" then runOptions? cwd true rest
    else if "--cwd=".toList.isPrefixOf word.toList then
      runOptions? (some (String.ofList (word.toList.drop 6))) verbose rest
    else
      match word.toList with
      | '-' :: c :: flags => if (c :: flags).all (· == 'v') then runOptions? cwd true rest else none
      | _ => none

/-- The command that the words make up; none if they are no proper command. -/
def parse? : List String → Option Command
  | "run" :: options => runOptions? none false options
  | "config" :: "show" :: rest =>
    match operands? rest with
    | some [] => some .configShow
    | _ => none
  | "config" :: "set" :: rest =>
    match operands? rest with
    | some [key, value] => some (.configSet key value)
    | _ => none
  | "settings" :: "show" :: rest =>
    match operands? rest with
    | some [] => some .settingsShow
    | _ => none
  | "settings" :: "height" :: rest =>
    match operands? rest with
    | some [height] =>
      if Text.digitLimit < Text.digitCount height.toList then none
      else (Text.integer? 10 height.toList).map .settingsHeight
    | _ => none
  | "settings" :: "scheme" :: rest =>
    match operands? rest with
    | some [scheme] => some (.settingsScheme scheme)
    | _ => none
  | _ => none

end Command

end TerminalDock
