/-! The place of a session in the layout: whether it is attached, whether it is shown, and the pixels it
takes up. What is not attached is never visible, and what is not visible has no size. -/

namespace TerminalDock

structure View where
  width : Int := 800
  height : Int := 300
  attached : Bool := false
  visible : Bool := false
  deriving DecidableEq, Repr

namespace View

def attach (view : View) : View :=
  { view with attached := true }

def detach (view : View) : View :=
  { view with attached := false, visible := false }

/-- Shows or hides the view; only an attached one can be shown. -/
def setVisible (view : View) (visible : Bool) : View :=
  { view with visible := visible && view.attached }

def setSize (view : View) (width height : Int) : View :=
  { view with width := width, height := height }

/-- The laid-out size; nothing while the view is detached or hidden. -/
def measure (view : View) : Int × Int :=
  if view.attached && view.visible then (view.width, view.height) else (0, 0)

def stateName (view : View) : String :=
  if view.visible then "visible" else if view.attached then "attached" else "detached"

def describe (view : View) (session : String) : String :=
  s!"HeadlessView({session} {view.width}x{view.height} {view.stateName})"

end View

end TerminalDock
