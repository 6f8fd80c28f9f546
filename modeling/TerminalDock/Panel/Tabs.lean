import TerminalDock.Panel.Basic

/-! The tab strip: which session is selected, opening and closing tabs, and renaming them in place. -/

namespace TerminalDock.Panel

def deactivate (session : Session) (registry : Registry) : Registry :=
  (registry.changeSurface session Surface.blur).showView session false

/-- Makes a session the active one, shows it if the panel is shown, fits it, and gives it the focus. -/
def activate (id : String) : PanelStep Unit := do
  let session ← onRegistry (Registry.setActive id)
  modify fun panel => panel.changeRegistry (·.showView session panel.fitting)
  let _ ← refit (some id) true
  modify (·.changeRegistry (·.changeSurface session Surface.focus))

/-- What follows the creation of a session by a tab: the one that was active before is put aside, and the
new one is shown, fitted in the next frame, and gets the focus. -/
def settleTab (previous : Option Session) (session : Session) (panel : Panel) : Panel :=
  let panel :=
    match previous with
    | some previous =>
      if previous.id != session.id then
        panel.changeRegistry fun registry =>
          deactivate ((registry.bySerial? previous.serial).getD previous) registry
      else panel
    | none => panel
  let panel := panel.changeRegistry (·.showView session panel.fitting)
  let panel := panel.scheduleFit session
  (panel.changeRegistry (·.changeSurface session Surface.focus)).drawTabs

/-- Selects the tab of a session; the answer is whether anything changed. -/
def click (id : String) : PanelStep Bool := do
  let panel ← get
  if panel.registry.active == some id || !panel.registry.has id then return false
  if let some previous := panel.registry.activeSession? then
    modify (·.changeRegistry (deactivate previous))
  activate id
  modify drawTabs
  return true

/-- Fits the active session and gives it the focus, as the panel is shown again. -/
def focusActive : PanelStep Unit := do
  match (← get).registry.activeSession? with
  | none => return
  | some session =>
    modify (·.changeRegistry (·.showView session true))
    let _ ← refit none true
    modify (·.changeRegistry (·.changeSurface session Surface.focus))

/-- Closing the last tab hides the panel. -/
def hideEmpty (panel : Panel) : Panel :=
  (panel.setVisible false).log (.info "[PANEL] last session closed, panel hidden")

/-- Closes the tab of a session. If it was the active one, the newest of the others becomes active. -/
def closeTab (id : String) (faults : RemovalFaults) : PanelStep Removal := do
  modify fun panel =>
    if panel.editing.any (·.session == id) then { panel with editing := none } else panel
  let removal ← onRegistry (Registry.remove id faults)
  if removal.removed then
    if removal.nowEmpty then modify hideEmpty
    else if removal.wasActive then
      if let some successor := (← get).registry.mostRecent? then activate successor.id
    modify drawTabs
  return removal

/-- Ends a rename and keeps its text, unless that is blank. -/
def commitRename : PanelStep Unit := do
  let panel ← get
  match panel.editing with
  | none => return
  | some edit =>
    set { panel with editing := none }
    let name := Text.stripped edit.text
    if !name.isEmpty && panel.registry.has edit.session then
      let _ ← onRegistry (Registry.rename edit.session name)
    modify drawTabs

/-- Ends a rename and drops its text. -/
def cancelRename (panel : Panel) : Panel :=
  if panel.editing.isSome then { panel with editing := none }.drawTabs else panel

/-- Begins to rename a session, with its whole name selected. A rename of another session is
committed first. -/
def beginRename (id : String) : PanelStep RenameEdit := do
  match (← get).registry.session? id with
  | none => throw (.fault .key id)
  | some session =>
    if (← get).editing.any (·.session != id) then commitRename
    let edit : RenameEdit := ⟨id, session.name, (0, session.name.length)⟩
    modify fun panel => { panel with editing := some edit }.drawTabs
    return edit

/-- Sets the text of a rename; the cursor goes to its end. -/
def editRename (text : String) (panel : Panel) : Panel :=
  match panel.editing with
  | none => panel
  | some edit =>
    { panel with editing := some { edit with text := text, selection := (text.length, text.length) } }.drawTabs

/-- Sets the text of a rename without drawing anything. -/
def keepDraft (text : String) (panel : Panel) : Panel :=
  { panel with editing := panel.editing.map fun edit => { edit with text := text } }

/-- Enter commits a rename and Escape drops it; other keys are none of its business. -/
def keyRename (key : String) : PanelStep Unit := do
  if (← get).editing.isSome then
    if key == "Return" || key == "Enter" then commitRename
    else if key == "Escape" then modify cancelRename

end TerminalDock.Panel
