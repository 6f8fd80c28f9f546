import TerminalDock.Panel.Tabs

/-! The height of the panel, and showing and hiding it. A drag only changes the height; the backend and
the settings hear of it when it ends. -/

namespace TerminalDock.Panel

def applyHeight (height : Json) : PanelStep Unit := do
  let panel ← get
  match panel.config.clampHeight height with
  | .error error => throw error.failure
  | .ok height => set ({ panel with height := height }.note (.heightChanged height))

def keepHeight (panel : Panel) : Panel :=
  panel.note (.heightKept panel.height)

def beginDrag (y : Decimal.Quantity) (panel : Panel) : Panel :=
  { panel with drag := some ⟨y, panel.height⟩ }

/-- The height that a drag asks for when the pointer is at `y`: dragging up makes the panel higher. -/
def dragHeight (drag : Drag) (y : Decimal.Quantity) : Json :=
  match drag.start, y with
  | .whole start, .whole y => .int (drag.height + (start - y))
  | start, y => .float (Float.ofInt drag.height + (start.toFloat - y.toFloat))

/-- Follows the pointer; the answer is the height. -/
def dragTo (y : Decimal.Quantity) : PanelStep Int := do
  if let some drag := (← get).drag then
    applyHeight (dragHeight drag y)
    let _ ← refit none false
  return (← get).height

def endDrag : PanelStep Unit := do
  let panel ← get
  if panel.drag.isSome then
    set (keepHeight { panel with drag := none })
    let _ ← refit none true

def setHeight (height : Json) : PanelStep Int := do
  applyHeight height
  modify keepHeight
  let _ ← refit none true
  return (← get).height

/-- The surroundings of the panel changed their size. -/
def layoutChanged : PanelStep Unit := do
  if (← get).isOpen then
    let _ ← refit none true

def hide (panel : Panel) : Panel :=
  if panel.isOpen then
    let panel :=
      match panel.registry.activeSession? with
      | none => panel
      | some session => panel.changeRegistry (·.changeSurface session Surface.blur)
    let panel := panel.setVisible false
    panel.log (.info s!"[PANEL] hidden | sessions={panel.registry.size}")
  else panel

def logOpened (panel : Panel) : Panel :=
  panel.log (.info s!"[PANEL] opened | sessions={panel.registry.size} height={panel.height}")

/-- Shows the panel with the sessions that it has. What was hidden has a stale size, so the active session
is fitted before anything else. -/
def reveal : PanelStep Unit := do
  modify (·.setVisible true)
  focusActive
  modify logOpened

/-- Shows the panel with the session that was just made for it. -/
def revealFirst (panel : Panel) : Panel :=
  (panel.setVisible true).logOpened

end TerminalDock.Panel
