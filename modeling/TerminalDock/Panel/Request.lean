import TerminalDock.Panel.Height
import TerminalDock.Panel.Backend
import TerminalDock.Surface.Request

/-! Operations on a panel as data, with their answers: those of the panel itself, of its tabs and its
registry, what the outside world does to it, and how operations run beside each other. -/

namespace TerminalDock

inductive Request (β : Type)
  | openPanel
  | toggle
  | hide
  | add (cwd : Option String)
  | closeSession (id : String)
  | beginDrag (y : Decimal.Quantity)
  | dragTo (y : Decimal.Quantity)
  | endDrag
  | setHeight (height : Json)
  | layoutChanged
  | applyTheme (scheme : String)
  | shutdown
  | addTab (cwd : String)
  | click (id : String)
  | focusActive
  | beginRename (id : String)
  | editRename (text : String)
  | keyRename (key : String)
  | blurRename
  | cancelRename
  | refit (id : Option String) (notify : Bool)
  | frame
  | create (cwd : String)
  | remove (id : String)
  | rename (id name : String)
  | setActive (id : String)
  | get (id : String)
  | mostRecent
  | contains (id : String)
  | list
  | markExited (id : String)
  | recordGeometry (id : String) (size : Geometry)
  | closeAll
  | emit (event : String) (payload : Event.Payload)
  | type (id : String) (bytes : List UInt8)
  | surface (id : String) (request : SurfaceRequest)
  | text (id : String)
  | listeners (id : String)
  | resizeView (id : String) (width height : Int)
  | changeDirectory (cwd : String)
  | adjust (change : β → β)
  /-- Lets the one who has waited longest for a process go on. -/
  | release
  /-- Starts an operation beside the others; its end is announced under a name. -/
  | background (name : String) (request : Request β)
  /-- Runs operations beside each other and waits for all of them. -/
  | gather (requests : List (Request β))
  | drain
  deriving Inhabited

inductive Answer
  | nothing
  | flag (value : Bool)
  | number (value : Int)
  | session (id name : String) (number : Nat)
  | sessions (sessions : List (String × String × Nat))
  | removal (removal : Removal)
  | edit (edit : RenameEdit)
  | size (size : Geometry)
  | listeners (output exit : Nat)
  | surface (request : SurfaceRequest) (answer : Except Failure SurfaceAnswer)
  | text (text : Except Failure (List Char))
  | all (answers : List (Except Failure Answer))

namespace Answer

def ofSession (session : Session) : Answer :=
  .session session.id session.name session.number

def ofSession? : Option Session → Answer
  | none => .nothing
  | some made => ofSession made

def ofSize? : Option Geometry → Answer
  | none => .nothing
  | some geometry => .size geometry

end Answer

namespace Panel

/-- The surface that was built last for an identifier, also if its session is gone. -/
def surfaceOwner? (panel : Panel) (id : String) : Option Session :=
  match panel.registry.session? id with
  | some session => some session
  | none => panel.registry.retired.find? (·.id == id)

def typeInto (id : String) (bytes : List UInt8) : PanelStep Unit := do
  match (← get).surfaceOwner? id with
  | none => throw (.fault .key id)
  | some session => modify (·.changeRegistry (Registry.typed session bytes))

def askSurface (id : String) (request : SurfaceRequest) : PanelStep Answer := do
  match (← get).surfaceOwner? id, request with
  | none, _ => throw (.fault .key id)
  | some _, .type bytes =>
    typeInto id bytes
    return .surface request (.ok .nothing)
  | some session, _ =>
    let owner : Listener := ⟨id, []⟩
    let (answer, bench) := { surface := session.surface, listeners := [owner] : SurfaceBench }.perform request
    modify (·.changeRegistry (·.changeSurface session fun _ => bench.surface))
    return .surface request answer

def textOf (id : String) : PanelStep Answer := do
  match (← get).surfaceOwner? id with
  | none => throw (.fault .key id)
  | some session =>
    match Surface.text session.surface with
    | .ok text surface =>
      modify (·.changeRegistry (·.changeSurface session fun _ => surface))
      return .text (.ok text)
    | .error failure surface =>
      modify (·.changeRegistry (·.changeSurface session fun _ => surface))
      return .text (.error failure)

/-- The answer of a change that cannot fail. -/
def quietly (change : Panel → Panel) : PanelStep Answer := do
  modify change
  return .nothing

/-- Does what is asked for, if it neither waits nor concerns the backend. -/
def perform? {β : Type} : Request β → Option (PanelStep Answer)
  | .hide => some (quietly hide)
  | .closeSession id => some do return .removal (← closeTab id {})
  | .beginDrag y => some (quietly (beginDrag y))
  | .dragTo y => some do return .number (← dragTo y)
  | .endDrag => some do endDrag; return .nothing
  | .setHeight height => some do return .number (← setHeight height)
  | .layoutChanged => some do layoutChanged; return .nothing
  | .applyTheme scheme => some (quietly (·.applyTheme scheme))
  | .click id => some do return .flag (← click id)
  | .focusActive => some do focusActive; return .nothing
  | .beginRename id => some do return .edit (← beginRename id)
  | .editRename text => some (quietly (editRename text))
  | .keyRename key => some do keyRename key; return .nothing
  | .blurRename => some do commitRename; return .nothing
  | .cancelRename => some (quietly cancelRename)
  | .refit id notify => some do return .ofSize? (← refit id notify)
  | .frame => some do return .number (← frame)
  | .remove id => some do return .removal (← onRegistry (Registry.remove id {}))
  | .rename id name => some do return .ofSession (← onRegistry (Registry.rename id name))
  | .setActive id => some do return .ofSession (← onRegistry (Registry.setActive id))
  | .get id => some do return .ofSession? ((← get).registry.session? id)
  | .mostRecent => some do return .ofSession? (← get).registry.mostRecent?
  | .contains id => some do return .flag ((← get).registry.has id)
  | .list => some do
    return .sessions ((← get).registry.sessions.values.map fun session =>
      (session.id, session.name, session.number))
  | .markExited id => some do
    let panel ← get
    let (first, registry) := panel.registry.markExited id
    set { panel with registry := registry }
    return .flag first
  | .recordGeometry id size => some (quietly (·.changeRegistry (·.recordGeometry id size)))
  | .emit event payload => some do
    let (count, panel) := (← get).emit event payload
    set panel
    return .number count
  | .type id bytes => some do typeInto id bytes; return .nothing
  | .surface id request => some (askSurface id request)
  | .text id => some (textOf id)
  | .listeners id => some do
    let bus := (← get).registry.bus
    return .listeners (bus.count (Event.outputOf id)) (bus.count (Event.exitOf id))
  | .resizeView id width height => some (quietly fun panel =>
    match panel.surfaceOwner? id with
    | none => panel
    | some session => panel.changeRegistry (·.change session.serial fun old =>
        { old with view := old.view.setSize width height }))
  | .changeDirectory cwd => some (quietly fun panel => { panel with cwd := cwd })
  | _ => none

end Panel

end TerminalDock
