import TerminalDock.Window.Binding
import TerminalDock.Window.Widget

/-! The elements of the window: a tool bar, the space for content, the handle that changes the panel's
height, and the panel with its tab strip. The views of the sessions come on top of them. -/

namespace TerminalDock

namespace Widget

def frame (color : String) (packed : Option Options) : Widget where
  kind := .frame
  options := [("bg", .str color)]
  packed := packed

def button (text background foreground : String) (packed : Options) : Widget where
  kind := .button
  options := [
    ("text", .str text), ("relief", .str "flat"), ("bg", .str background), ("fg", .str foreground)]
  packed := some (("side", .str "left") :: packed)

def setOption (widget : Widget) (name : String) (value : Json) : Widget :=
  { widget with options := Assoc.put name value widget.options }

end Widget

namespace Layout

/-- Side by side from the left. -/
def left : Options := [("side", .str "left")]

/-- Over the whole width, at one side. -/
def across (side : String) : Options := [("fill", .str "x"), ("side", .str side)]

/-- All the space that there is. -/
def filling : Options := [("fill", .str "both"), ("expand", .bool true)]

/-- The label of a tab; a session whose process is gone is greyed. -/
def label (colors : WindowColors) (background : String) (tab : Tab) : Widget where
  kind := .label
  options := [
    ("text", .str (tab.label ++ if tab.exited then " (exited)" else "")),
    ("bg", .str background),
    ("fg", .str (if tab.exited then "#7d8590" else colors.foreground)),
    ("padx", .int 8)]
  packed := some left
  bindings := Binding.ofLabel.keys

def field (field : RenameField) : Widget where
  kind := .field
  options := [("width", .int field.width)]
  packed := some left
  bindings := Binding.ofField.keys
  text := some field.text

/-- A tab of the strip: its label or its field, and the button that closes it. -/
def tab (colors : WindowColors) (fields : List RenameField) (drawn : StripTab) : Widget :=
  let background := if drawn.tab.active then colors.background else colors.bar
  let first :=
    match drawn.field.bind (fields[·]?) with
    | some rename => field rename
    | none => label colors background drawn.tab
  { Widget.frame background (some [("side", .str "left"), ("padx", .arr [.int 0, .int 1])]) with
    children := [first, Widget.button "×" background colors.foreground []] }

/-- The panel's frame without what is in it; it keeps its height whatever that is. -/
def panelFrame (colors : WindowColors) (height : Option Int) (packed : Bool) : Widget :=
  let frame := (Widget.frame colors.background (if packed then some (across "bottom") else none)).setOption
    "propagate" (.bool false)
  match height with
  | none => frame
  | some height => frame.setOption "height" (.int height)

def toolBar (colors : WindowColors) : Widget :=
  let button (text : String) : Widget :=
    Widget.button text colors.bar colors.foreground [("padx", .int 6), ("pady", .int 3)]
  { (Widget.frame colors.bar (some (across "top"))).setOption "height" (.int 32) with
    children := [button "Terminal", button "Light/Dark"] }

def handle (colors : WindowColors) (packed : Bool) : Widget where
  kind := .frame
  options := [("height", .int 4), ("bg", .str colors.bar), ("cursor", .str "sb_v_double_arrow")]
  packed := if packed then some (across "bottom") else none
  bindings := Binding.ofHandle.keys

def tabBar (colors : WindowColors) (tabs : List Widget) : Widget :=
  { (Widget.frame colors.bar (some (across "top"))).setOption "height" (.int 28) with
    children := [
      { Widget.frame colors.bar (some (across "left")) with children := tabs },
      Widget.button "+" colors.bar colors.foreground [("padx", .int 4)]] }

def window (colors : WindowColors) (height : Option Int) (packed : Bool) (tabs : List Widget) : Widget where
  kind := .window
  options := [
    ("title", .str "termpanel"), ("geometry", .str "960x640"), ("bg", .str colors.background)]
  bindings := Binding.ofWindow
  children := [
    toolBar colors,
    { Widget.frame colors.background (some filling) with bindings := Binding.ofContent },
    handle colors packed,
    { panelFrame colors height packed with
      children := [tabBar colors tabs, Widget.frame colors.background (some filling)] }]

end Layout

end TerminalDock
