import TerminalDock.Assoc

/-! The events that the elements of the window are bound to, each with what it does. -/

namespace TerminalDock

inductive HandleAction
  | beginDrag
  | drag
  | endDrag
  deriving DecidableEq, Repr

inductive LabelAction
  | select
  | rename
  deriving DecidableEq, Repr

inductive FieldAction
  | keep
  | commit
  | cancel
  | leave
  deriving DecidableEq, Repr

inductive ButtonAction
  | togglePanel
  | toggleScheme
  | addSession
  deriving DecidableEq, Repr

namespace Binding

def ofHandle : Assoc String HandleAction := [
  ("<B1-Motion>", .drag),
  ("<ButtonPress-1>", .beginDrag),
  ("<ButtonRelease-1>", .endDrag)]

def ofLabel : Assoc String LabelAction := [
  ("<Button-1>", .select),
  ("<Double-Button-1>", .rename)]

def ofField : Assoc String FieldAction := [
  ("<Escape>", .cancel),
  ("<FocusOut>", .leave),
  ("<KeyRelease>", .keep),
  ("<Return>", .commit)]

/-- The space above the panel: its layout changed. -/
def ofContent : List String := ["<Configure>"]

/-- The whole window: the key that toggles the panel. -/
def ofWindow : List String := ["<Control-grave>"]

def ofButton : Assoc String ButtonAction := [
  ("Terminal", .togglePanel),
  ("Light/Dark", .toggleScheme),
  ("+", .addSession)]

end Binding

end TerminalDock
