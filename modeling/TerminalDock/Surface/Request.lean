import TerminalDock.Surface.Basic

/-! Requests to a surface as data, with named listeners that note what they hear and may end
registrations while they are told. -/

namespace TerminalDock

inductive SurfaceRequest
  | write (bytes : List UInt8)
  | propose (width height : Decimal.Quantity)
  | fit (width height : Decimal.Quantity)
  | resize (size : Geometry)
  | scroll (pages : Int)
  | type (bytes : List UInt8)
  /-- Registers a new listener that ends the given registrations when it is told, or an old one again. -/
  | listen (name : String) (ends : List Nat) (again : Option Nat)
  | unlisten (registration : Nat)
  | focus
  | blur
  | theme (scheme : String)
  | clearDirty
  | dispose
  | lines
  | history
  | links
  | cells (row : Int)

inductive SurfaceAnswer
  | nothing
  | size (geometry : Geometry)
  | number (value : Nat)
  | name (text : String)
  | lines (lines : List (List Char))
  | links (links : List Emulator.RowLink)
  | runs (runs : List Emulator.CellRun)

/-- A named listener and the registrations that it ends when it is told. -/
structure Listener where
  name : String
  ends : List Nat

/-- A surface with its named listeners, the registrations made so far, and what was heard. -/
structure SurfaceBench where
  surface : Surface
  listeners : List Listener := []
  registrations : List Nat := []
  heard : List (String × List UInt8) := []

namespace SurfaceBench

def unlisten (bench : SurfaceBench) (registration : Nat) : SurfaceBench :=
  match bench.registrations[registration]? with
  | none => bench
  | some listener => { bench with surface := bench.surface.unlisten listener }

def tell (bytes : List UInt8) (bench : SurfaceBench) (listener : Nat) : SurfaceBench :=
  match bench.listeners[listener]? with
  | none => bench
  | some { name, ends } =>
    ends.foldl unlisten { bench with heard := bench.heard ++ [(name, bytes)] }

def register (bench : SurfaceBench) (listener : Nat) : SurfaceBench :=
  { bench with
    surface := bench.surface.listen listener
    registrations := bench.registrations ++ [listener] }

def run {α : Type} (bench : SurfaceBench) (act : SurfaceStep α) (answer : α → SurfaceAnswer) :
    Except Failure SurfaceAnswer × SurfaceBench :=
  match act bench.surface with
  | .ok value surface => (.ok (answer value), { bench with surface := surface })
  | .error failure surface => (.error failure, { bench with surface := surface })

def change (bench : SurfaceBench) (f : Surface → Surface) : Except Failure SurfaceAnswer × SurfaceBench :=
  (.ok .nothing, { bench with surface := f bench.surface })

def optionalSize : Option Geometry → SurfaceAnswer
  | none => .nothing
  | some size => .size size

def perform (bench : SurfaceBench) : SurfaceRequest → Except Failure SurfaceAnswer × SurfaceBench
  | .write bytes => bench.run (Surface.write bytes) fun _ => .nothing
  | .propose width height => ((bench.surface.proposed width height).map optionalSize, bench)
  | .fit width height => bench.run (Surface.fit width height) optionalSize
  | .resize size => bench.run (Surface.resize size) fun _ => .nothing
  | .scroll pages => bench.run (Surface.scroll pages) fun _ => .nothing
  | .type bytes => (.ok .nothing, bench.surface.inputListeners.foldl (tell bytes) bench)
  | .listen name ends again =>
    let registered :=
      match again.bind (bench.registrations[·]?) with
      | some listener => bench.register listener
      | none =>
        let listener : Listener := ⟨name, ends⟩
        { bench with listeners := bench.listeners ++ [listener] }.register bench.listeners.length
    (.ok (.number bench.registrations.length), registered)
  | .unlisten registration => (.ok .nothing, bench.unlisten registration)
  | .focus => bench.change Surface.focus
  | .blur => bench.change Surface.blur
  | .theme scheme =>
    let theme := Theme.ofScheme scheme
    (.ok (.name theme.name), { bench with surface := bench.surface.setTheme theme })
  | .clearDirty => bench.change fun surface => { surface with dirty := false }
  | .dispose => bench.change Surface.dispose
  | .lines => bench.run Surface.lines .lines
  | .history => (.ok (.lines bench.surface.historyLines), bench)
  | .links => bench.run Surface.links .links
  | .cells row => bench.run (Surface.onScreen (Emulator.runsOfRow row)) .runs

end SurfaceBench

end TerminalDock
