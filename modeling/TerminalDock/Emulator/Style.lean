import TerminalDock.Emulator.Screen
import TerminalDock.Text.Digit

/-! The style that text is written in, as programs choose it by numbers. -/

namespace TerminalDock.Emulator

def colorNames : List String :=
  ["black", "red", "green", "brown", "blue", "magenta", "cyan", "white"]

/-- Six hexadecimal digits, or more where a part exceeds two. -/
def hexColor (red green blue : Nat) : String :=
  String.ofList ([red, green, blue].flatMap fun part => Text.padZeros 2 (Text.hexDigits part))

def tableStart : List String := [
  "000000", "cd0000", "00cd00", "cdcd00", "0000ee", "cd00cd", "00cdcd", "e5e5e5",
  "7f7f7f", "ff0000", "00ff00", "ffff00", "5c5cff", "ff00ff", "00ffff", "ffffff"]

def cubeStep (step : Nat) : Nat :=
  if step == 0 then 0 else 55 + 40 * step

def tableColor? (n : Nat) : Option String :=
  if n < 16 then tableStart[n]?
  else if n < 232 then
    let n := n - 16
    some (hexColor (cubeStep (n / 36)) (cubeStep (n / 6 % 6)) (cubeStep (n % 6)))
  else if n < 256 then
    let gray := 8 + 10 * (n - 232)
    some (hexColor gray gray gray)
  else none

/-- The colour that the numbers after 38 or 48 choose, if they choose one, and the numbers after it. A
choice that is cut short uses up what is there. -/
def extendedColor : List Nat → Option String × List Nat
  | 5 :: n :: rest => (tableColor? n, rest)
  | 2 :: red :: green :: blue :: rest => (some (hexColor red green blue), rest)
  | 2 :: _ => (none, [])
  | _ :: rest => (none, rest)
  | [] => (none, [])

theorem extendedColor_length (codes : List Nat) : (extendedColor codes).2.length ≤ codes.length := by
  unfold extendedColor
  split <;> simp <;> omega

/-- The bright magenta background has a name that no theme knows. -/
def brightBackground (n : Nat) : String :=
  if n == 5 then "bfightmagenta" else "bright" ++ colorNames.getD n ""

/-- What one number other than 38 and 48 does to a style; zero makes it the given blank. -/
def applyCode (blank style : Cell) (code : Nat) : Cell :=
  if code == 0 then blank
  else if 30 ≤ code && code ≤ 37 then { style with fg := colorNames.getD (code - 30) "" }
  else if code == 39 then { style with fg := "default" }
  else if 40 ≤ code && code ≤ 47 then { style with bg := colorNames.getD (code - 40) "" }
  else if code == 49 then { style with bg := "default" }
  else if 90 ≤ code && code ≤ 97 then { style with fg := "bright" ++ colorNames.getD (code - 90) "" }
  else if 100 ≤ code && code ≤ 107 then { style with bg := brightBackground (code - 100) }
  else
    match code with
    | 1 => { style with bold := true }
    | 3 => { style with italics := true }
    | 4 => { style with underscore := true }
    | 5 => { style with blink := true }
    | 7 => { style with reverse := true }
    | 9 => { style with strikethrough := true }
    | 22 => { style with bold := false }
    | 23 => { style with italics := false }
    | 24 => { style with underscore := false }
    | 25 => { style with blink := false }
    | 27 => { style with reverse := false }
    | 29 => { style with strikethrough := false }
    | _ => style

/-- What a list of numbers does to a style, from left to right. -/
def applyCodes (blank style : Cell) : List Nat → Cell
  | [] => style
  | code :: rest =>
    if code == 38 then
      applyCodes blank ((extendedColor rest).1.elim style fun color => { style with fg := color })
        (extendedColor rest).2
    else if code == 48 then
      applyCodes blank ((extendedColor rest).1.elim style fun color => { style with bg := color })
        (extendedColor rest).2
    else applyCodes blank (applyCode blank style code) rest
termination_by codes => codes.length
decreasing_by
  all_goals simp_wf
  all_goals have := extendedColor_length rest; omega

/-- Chooses the style by numbers; a zero alone, or none at all, makes it the blank of new lines. -/
def Screen.chooseStyle (screen : Screen) (codes : List Nat) : Screen :=
  let style :=
    if codes == [] || codes == [0] then screen.blank
    else applyCodes screen.blank screen.cursor.style codes
  { screen with cursor := { screen.cursor with style := style } }

end TerminalDock.Emulator
