import TerminalDock.Page.Input
import TerminalDock.Surface.Request

/-! A viewer on its own, driven by requests, with a listener that notes what is typed into its surface. -/

namespace TerminalDock

inductive ViewerRequest
  | attach
  | detach
  | setVisible (visible : Bool)
  | tick
  /-- Measures the view, whose page has a box of this size. -/
  | measure (width height : Int)
  /-- Lists the events that are bound. -/
  | bindings
  /-- An event that may be bound. -/
  | event (sequence : String) (occurrence : Occurrence)
  /-- Whether the page lets the cursor be set from now on. -/
  | setTakesMark (takes : Bool)
  | surface (request : SurfaceRequest)

inductive ViewerAnswer
  | nothing
  /-- Nobody else gets the event. -/
  | stopped
  | number (value : Nat)
  | box (width height : Int)
  | names (names : List String)
  | surface (request : SurfaceRequest) (answer : Except Failure SurfaceAnswer)

inductive ViewerNote
  | seen (sight : ViewerSight)
  | heard (bytes : List UInt8)
  deriving DecidableEq, Repr

structure ViewerBench where
  viewer : Viewer
  /-- The first listener is the one that notes what it hears. -/
  listeners : List Listener := [⟨"", []⟩]
  registrations : List Nat := []
  clipboard : Option String := none
  notes : List ViewerNote := []

namespace ViewerBench

/-- The viewer of a surface to which the bench listens. -/
def create (session : String) (surface : Surface) : ViewerBench where
  viewer := Viewer.create session (surface.listen 0) {}

/-- Takes over what the viewer lets be seen. -/
def absorb (bench : ViewerBench) : ViewerBench :=
  { bench with
    notes := bench.notes ++ bench.viewer.sights.map .seen
    viewer := { bench.viewer with sights := [] } }

def run {α : Type} (bench : ViewerBench) (act : ViewerStep α) : Except Failure α × ViewerBench :=
  match act bench.viewer with
  | .ok answer viewer => (.ok answer, { bench with viewer := viewer }.absorb)
  | .error failure viewer => (.error failure, { bench with viewer := viewer }.absorb)

def ask (bench : ViewerBench) (request : SurfaceRequest) : Except Failure SurfaceAnswer × ViewerBench :=
  let (answer, inner) := ({
    surface := bench.viewer.surface
    listeners := bench.listeners
    registrations := bench.registrations : SurfaceBench }).perform request
  let heard := inner.heard.filterMap fun (name, bytes) =>
    if name.isEmpty then some (ViewerNote.heard bytes) else none
  (answer, { bench with
    viewer := { bench.viewer with surface := inner.surface }
    listeners := inner.listeners
    registrations := inner.registrations
    notes := bench.notes ++ heard })

/-- What comes of an event reaches the surface and the clipboard. -/
def settle (bench : ViewerBench) (response : Response) : ViewerAnswer × ViewerBench :=
  let bench := match response.typed with
    | none => bench
    | some bytes => (bench.ask (.type bytes)).2
  let bench := { bench with clipboard := response.copied <|> bench.clipboard }
  (if response.stops then .stopped else .nothing, bench)

/-- Lets an event happen in the view; one that is not bound does nothing. -/
def occur (bench : ViewerBench) (sequence : String) (occurrence : Occurrence) :
    Except Failure ViewerAnswer × ViewerBench :=
  match ViewAction.bindings.find? sequence with
  | none => (.ok .nothing, bench)
  | some action =>
    match { bench with clipboard := occurrence.clipboard }.run (action.perform occurrence) with
    | (.error failure, bench) => (.error failure, bench)
    | (.ok response, bench) =>
      let (answer, bench) := bench.settle response
      (.ok answer, bench)

def change (bench : ViewerBench) (f : Viewer → Viewer) : Except Failure ViewerAnswer × ViewerBench :=
  (.ok .nothing, { bench with viewer := f bench.viewer }.absorb)

def perform (bench : ViewerBench) : ViewerRequest → Except Failure ViewerAnswer × ViewerBench
  | .attach => bench.run do Viewer.attach; return .nothing
  | .detach => bench.change Viewer.detach
  | .setVisible visible => bench.change (Viewer.setVisible visible)
  | .tick => bench.run do return .number (← Viewer.tick)
  | .measure width height =>
    let view := bench.viewer.view.setSize width height
    (.ok (.box view.measure.1 view.measure.2), { bench with viewer := { bench.viewer with view := view } })
  | .bindings => (.ok (.names ViewAction.bindings.keys), bench)
  | .event sequence occurrence => bench.occur sequence occurrence
  | .setTakesMark takes => bench.change fun viewer => { viewer with takesMark := takes }
  | .surface request =>
    let (answer, bench) := bench.ask request
    (.ok (.surface request answer), bench)

end ViewerBench

end TerminalDock
