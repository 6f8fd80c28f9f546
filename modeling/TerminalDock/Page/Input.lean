import TerminalDock.Page.Viewer
import TerminalDock.Text.Utf8

/-! What keys and the mouse do in a view. -/

namespace TerminalDock

/-- What an event in a view makes it do. -/
inductive ViewAction
  /-- The key goes to the process. -/
  | type
  | paste
  | copy
  /-- The wheel turns a page up or down. -/
  | wheel
  | turn (pages : Int)
  | openLink
  | point (pointer : Pointer)
  deriving DecidableEq, Repr

/-- What the window reports with an event; what it could not find out is missing. -/
structure Occurrence where
  key : String := ""
  /-- The text that the key stands for. -/
  text : String := ""
  wheel : Int := 0
  x : Int := 0
  y : Int := 0
  clipboard : Option String := none
  selection : Option String := none
  /-- The text of the link under the pointer. -/
  link : Option String := none

/-- What comes of an event: what was typed and what was copied, and whether nobody else gets the event. -/
structure Response where
  typed : Option (List UInt8) := none
  copied : Option String := none
  stops : Bool := true
  deriving DecidableEq, Repr

namespace ViewAction

/-- The events of a view, those of its links last. -/
def bindings : Assoc String ViewAction := [
  ("<Button-4>", .turn (-1)),
  ("<Button-5>", .turn 1),
  ("<Control-Shift-C>", .copy),
  ("<Control-Shift-V>", .paste),
  ("<Key>", .type),
  ("<MouseWheel>", .wheel),
  ("<Shift-Insert>", .paste),
  ("link:<Button-1>", .openLink),
  ("link:<Enter>", .point .hand),
  ("link:<Leave>", .point .text)]

/-- The keys that are sent as sequences of their own. -/
def keySequences : Assoc String String := [
  ("Return", "\r"),
  ("BackSpace", "\x7f"),
  ("Tab", "\t"),
  ("Escape", "\x1b"),
  ("Delete", "\x1b[3~"),
  ("Up", "\x1b[A"),
  ("Down", "\x1b[B"),
  ("Right", "\x1b[C"),
  ("Left", "\x1b[D"),
  ("Home", "\x1b[H"),
  ("End", "\x1b[F"),
  ("Prior", "\x1b[5~"),
  ("Next", "\x1b[6~")]

/-- What a key sends: its sequence or else its text, if it stands for any. -/
def keyBytes (occurrence : Occurrence) : Option (List UInt8) :=
  match keySequences.find? occurrence.key with
  | some sequence => some (Text.Utf8.ofString sequence)
  | none => if occurrence.text.isEmpty then none else some (Text.Utf8.ofString occurrence.text)

def turnPages (pages : Int) : ViewerStep Response := fun viewer =>
  match Surface.scroll pages viewer.surface with
  | .ok _ surface => .ok {} { viewer with surface := surface }
  | .error failure surface => .error failure { viewer with surface := surface }

def browse (url : String) (viewer : Viewer) : Viewer :=
  (viewer.see (.logged (.info s!"[TERMINAL] opening link | id={viewer.session} url={url}"))).see (.browsed url)

def perform (occurrence : Occurrence) : ViewAction → ViewerStep Response
  | .type => return { typed := keyBytes occurrence }
  | .paste => return { typed := occurrence.clipboard.map Text.Utf8.ofString }
  | .copy => return { copied := occurrence.selection }
  | .wheel => turnPages (if occurrence.wheel > 0 then -1 else 1)
  | .turn pages => turnPages pages
  | .openLink => do
    modify (·.see (.located occurrence.x occurrence.y))
    if let some url := occurrence.link then modify (browse url)
    return {}
  | .point pointer => do
    modify fun viewer => { viewer with page := { viewer.page with pointer := pointer } }
    return { stops := false }

end ViewAction

end TerminalDock
