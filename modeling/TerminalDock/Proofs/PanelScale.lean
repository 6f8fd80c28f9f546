import TerminalDock.Proofs.PanelFaces
import TerminalDock.Proofs.SurfaceFits

/-! The scale of a panel: the size of each live session as its surface has it and as the backend was told, the calls
that were submitted, and what decides which session is fitted. Only a fit, a creation and a removal change it. -/

namespace TerminalDock
open Proofs.Steps

def BackendCall.isInput : BackendCall → Bool
  | .sendInput .. => true
  | _ => false

/-- A session as far as sizes go. -/
structure Session.Gauge where
  serial : Nat
  grid : Geometry
  /-- The size that the backend was told last. -/
  told : Option Geometry
  build : Surface.Build

def Session.gauge (session : Session) : Session.Gauge where
  serial := session.serial
  grid := session.surface.geometry
  told := session.geometry
  build := session.surface.build

namespace Session.Gauge

/-- A surface begins with the size of a classic terminal, and so does its process. -/
def classic : Geometry := ⟨24, 80⟩

/-- The surface has the size that the process was told last, or the one that it began with. -/
def InStep (gauge : Gauge) : Prop :=
  gauge.grid = gauge.told.getD classic

def measure (notify : Bool) (size : Geometry) (gauge : Gauge) : Gauge :=
  { gauge with grid := size, told := if notify then some size else gauge.told }

end Session.Gauge

namespace Registry

@[ext] structure Scale where
  gauges : Assoc String Session.Gauge
  active : Option String
  serial : Nat
  stock : Surface.Build
  swept : Bool
  outbox : List BackendCall

def scale (registry : Registry) : Scale where
  gauges := registry.sessions.map fun (id, session) => (id, session.gauge)
  active := registry.active
  serial := registry.serial
  stock := registry.factory.make.build
  swept := registry.swept
  outbox := registry.outbox

namespace Scale

def submit (calls : List BackendCall) (scale : Scale) : Scale :=
  { scale with outbox := scale.outbox ++ calls }

/-- The calls that the surroundings have still to take over. -/
def posting (calls : List BackendCall) (scale : Scale) : Scale :=
  { scale with outbox := calls }

/-- A session gets a size, and the backend is told of it if it has to be. -/
def measure (notify : Bool) (id : String) (size : Geometry) (scale : Scale) : Scale :=
  { scale with gauges := scale.gauges.update id (Session.Gauge.measure notify size) }.submit
    (if notify then [.resize id size] else [])

def select (id : String) (scale : Scale) : Scale :=
  { scale with active := some id }

def without (id : String) (scale : Scale) : Scale :=
  { scale with
    gauges := scale.gauges.remove id
    active := if scale.active == some id then none else scale.active }.submit [.close id]

def enroll (id : String) (scale : Scale) : Scale :=
  { scale with
    gauges := scale.gauges ++ [(id, ⟨scale.serial, Session.Gauge.classic, none, scale.stock⟩)]
    active := some id
    serial := scale.serial + 1 }

theorem outbox_measure (scale : Scale) (notify : Bool) (id : String) (size : Geometry) :
    (scale.measure notify id size).outbox = scale.outbox ++ if notify then [.resize id size] else [] := rfl

theorem find?_measure {scale : Scale} {notify : Bool} {id name : String} {size : Geometry} {gauge : Session.Gauge}
    (there : (scale.measure notify id size).gauges.find? name = some gauge) :
    (name = id ∧ ∃ old, scale.gauges.find? name = some old ∧ gauge = old.measure notify size) ∨
      name ≠ id ∧ scale.gauges.find? name = some gauge := by
  by_cases here : name = id
  · subst here
    rw [show (scale.measure notify name size).gauges.find? name = _ from Assoc.find?_update_self _ _ _] at there
    obtain ⟨old, before, rfl⟩ := Option.map_eq_some_iff.mp there
    exact .inl ⟨rfl, old, before, rfl⟩
  · rw [show (scale.measure notify id size).gauges.find? name = _ from Assoc.find?_update_of_ne here _ _] at there
    exact .inr ⟨here, there⟩

/-- Whatever surface there is takes any size that is proposed for it, and so will those to come. -/
structure Pliable (scale : Scale) : Prop where
  live : ∀ id gauge, scale.gauges.find? id = some gauge → gauge.build.Pliable
  stock : scale.stock.Pliable

namespace Pliable
variable {scale : Scale}

theorem measure (pliable : scale.Pliable) (notify : Bool) (id : String) (size : Geometry) :
    (scale.measure notify id size).Pliable := by
  refine ⟨fun name gauge there => ?_, pliable.stock⟩
  rcases find?_measure there with ⟨-, old, before, rfl⟩ | ⟨-, before⟩
  · exact pliable.live name old before
  · exact pliable.live name gauge before

theorem without (pliable : scale.Pliable) (unique : scale.gauges.keys.Nodup) (id : String) :
    (scale.without id).Pliable :=
  ⟨fun name gauge there => pliable.live name gauge (Assoc.find?_of_remove unique there), pliable.stock⟩

theorem enroll (pliable : scale.Pliable) {id : String} (free : id ∉ scale.gauges.keys) : (scale.enroll id).Pliable := by
  refine ⟨fun name gauge there => ?_, pliable.stock⟩
  rcases Assoc.find?_append_single (Assoc.find?_eq_none.mpr free) there with ⟨-, rfl⟩ | ⟨-, before⟩
  · exact pliable.stock
  · exact pliable.live name gauge before

end Pliable

end Scale

theorem find?_scale (registry : Registry) (id : String) :
    Assoc.find? id registry.scale.gauges = (registry.session? id).map Session.gauge :=
  Assoc.find?_map Session.gauge id registry.sessions

theorem live_scale {registry : Registry} {id : String} {session : Session} (live : registry.session? id = some session) :
    Assoc.find? id registry.scale.gauges = some session.gauge := by
  rw [find?_scale, live]
  rfl

@[simp] theorem keys_scale (registry : Registry) : registry.scale.gauges.keys = registry.sessions.keys :=
  Assoc.keys_map Session.gauge registry.sessions

@[simp] theorem scale_note (registry : Registry) (effect : Effect) : (registry.note effect).scale = registry.scale := rfl

@[simp] theorem scale_log (registry : Registry) (record : LogRecord) : (registry.log record).scale = registry.scale := rfl

@[simp] theorem scale_submit (registry : Registry) (call : BackendCall) :
    (registry.submit call).scale = registry.scale.submit [call] := rfl

private theorem scale_of_seen {first last : Registry} (same : last.seen Session.gauge = first.seen Session.gauge)
    (rest : { last.scale with gauges := first.scale.gauges } = first.scale) : last.scale = first.scale := by
  rw [← rest]
  exact Scale.ext (congrArg Prod.fst same) rfl rfl rfl rfl rfl

theorem scale_change {f : Session → Session} (same : ∀ session, (f session).gauge = session.gauge)
    (registry : Registry) (serial : Nat) : (registry.change serial f).scale = registry.scale :=
  scale_of_seen (seen_change same registry serial) rfl

theorem scale_changeSurface {f : Surface → Surface} (size : ∀ surface, (f surface).geometry = surface.geometry)
    (build : ∀ surface, (f surface).build = surface.build) (registry : Registry) (session : Session) :
    (registry.changeSurface session f).scale = registry.scale := by
  refine scale_change (fun old => ?_) registry session.serial
  simp only [Session.gauge, size, build]

@[simp] theorem scale_focus (registry : Registry) (session : Session) :
    (registry.changeSurface session Surface.focus).scale = registry.scale := by
  apply scale_changeSurface
  case size | build => exact fun _ => rfl

@[simp] theorem scale_blur (registry : Registry) (session : Session) :
    (registry.changeSurface session Surface.blur).scale = registry.scale := by
  apply scale_changeSurface
  case size | build => exact fun _ => rfl

@[simp] theorem scale_showView (registry : Registry) (session : Session) (visible : Bool) :
    (registry.showView session visible).scale = registry.scale := by
  unfold showView
  dsimp only
  split
  · rfl
  · rw [scale_note]
    refine scale_change ?_ registry session.serial
    exact fun _ => rfl

@[simp] theorem scale_markExited (registry : Registry) (id : String) :
    (registry.markExited id).2.scale = registry.scale := by
  rcases markExited_cases registry id with same | ⟨serial, same⟩
  · rw [same]
  · rw [same]
    refine scale_change ?_ registry serial
    exact fun _ => rfl

theorem scale_rename (id name : String) (registry : Registry) :
    (after (rename id name) registry).scale = registry.scale := by
  unfold rename
  rw [after_get_bind]
  split
  · rfl
  next session _ =>
    dsimp only
    split
    · rfl
    · rw [after_modify_bind, after_pure, scale_log]
      refine scale_change ?_ registry session.serial
      exact fun _ => rfl

theorem scale_typed (session : Session) (bytes : List UInt8) (registry : Registry) :
    ∃ calls : List BackendCall, (∀ call ∈ calls, call.isInput = true) ∧
      (typed session bytes registry).scale = registry.scale.submit calls := by
  unfold typed
  induction session.surface.inputListeners generalizing registry with
  | nil => exact ⟨[], nofun, by simp [Scale.submit]⟩
  | cons listener rest ih =>
    rw [List.foldl_cons]
    split
    · obtain ⟨calls, inputs, scaled⟩ := ih (registry.submit (.sendInput session.id bytes))
      refine ⟨.sendInput session.id bytes :: calls, fun call member => ?_, scaled.trans (by simp [Scale.submit])⟩
      rcases List.mem_cons.mp member with rfl | inside
      · rfl
      · exact inputs call inside
    · exact ih registry

section Changes
variable {registry : Registry} {id : String} {session current : Session}

private theorem gauges_change (valid : registry.WellFormed) (live : registry.session? id = some current)
    {serial : Nat} (same : current.serial = serial) {f : Session → Session} {g : Session.Gauge → Session.Gauge}
    (turned : (f current).gauge = g current.gauge) :
    (registry.change serial f).scale.gauges = registry.scale.gauges.update id g := by
  rw [Assoc.update_eq_map (by rw [keys_scale]; exact valid.keys)]
  simp only [scale, change, List.map_map]
  refine List.map_congr_left fun entry member => congrArg (Prod.mk entry.1) ?_
  obtain ⟨name, other⟩ := entry
  have found : registry.session? name = some other := Assoc.find?_of_mem valid.keys member
  by_cases here : name = id
  · subst here
    have alike : other = current := Option.some.inj (found.symm.trans live)
    simp [alike, same, turned]
  · have different : other.serial ≠ serial := by
      rw [← same]
      exact fun equal => here (valid.same_id found live equal)
    simp [different, here]

theorem scale_fitted (valid : registry.WellFormed) (live : registry.session? id = some session) {surface : Surface}
    {size : Geometry} (sized : surface.geometry = size) (build : surface.build = session.surface.build) :
    (registry.change session.serial fun old => { old with surface := surface }).scale =
        registry.scale.measure false id size ∧
      (Panel.notifySize session size (registry.change session.serial fun old => { old with surface := surface })).scale =
        registry.scale.measure true id size := by
  have named : session.id = id := valid.named id session live
  let changed := registry.change session.serial fun old => { old with surface := surface }
  have gauges : changed.scale.gauges = registry.scale.gauges.update id (Session.Gauge.measure false size) := by
    refine gauges_change valid live rfl ?_
    simp [Session.gauge, Session.Gauge.measure, sized, build]
  have quiet : changed.scale = { registry.scale with gauges := changed.scale.gauges } := rfl
  refine ⟨?_, ?_⟩
  · simp only [Scale.measure, Scale.submit, Bool.false_eq_true, if_false, List.append_nil]
    exact quiet.trans (by rw [gauges])
  · have sound : changed.WellFormed := by
      refine (Sound.of_change ?_ registry session.serial valid).1
      exact fun _ => rfl
    have there : changed.session? id = some { session with surface := surface } := by
      rw [session?_change, live]
      simp [Registry.changed]
    have now : changed.session? session.id = some { session with surface := surface } :=
      (congrArg changed.session? named).trans there
    have told : (changed.recordGeometry session.id size).scale.gauges =
        changed.scale.gauges.update id fun gauge => { gauge with told := some size } := by
      simp only [recordGeometry, now]
      exact gauges_change sound there rfl rfl
    have rest : (changed.recordGeometry session.id size).scale =
        { registry.scale with gauges := (changed.recordGeometry session.id size).scale.gauges } := by
      simp only [recordGeometry, now]
      rfl
    rw [Panel.notifySize, scale_submit, rest, told, gauges, Assoc.update_update, named]
    rfl

theorem scale_apart (valid : registry.WellFormed) (live : registry.session? id = some session) :
    ((apart id session registry).submit (.close id)).scale = registry.scale.without id := by
  have silent : (silenced id session registry).scale.gauges =
      registry.scale.gauges.update id fun gauge => { gauge with build := { gauge.build with disposed := true } } := by
    have deaf := ((Sound.of_unsubscribe registry (Event.outputOf id) (.output session.serial)).trans
      (.of_unsubscribe _ (Event.exitOf id) (.exit session.serial)) valid).1
    exact gauges_change deaf live rfl rfl
  have removed : (apart id session registry).scale.gauges = registry.scale.gauges.remove id := by
    refine (Assoc.remove_map Session.gauge id (silenced id session registry).sessions).symm.trans ?_
    exact (congrArg (Assoc.remove id) silent).trans (Assoc.remove_update id _ registry.scale.gauges)
  rw [scale_submit, Scale.without]
  exact congrArg (Scale.submit [.close id]) (Scale.ext removed rfl rfl rfl rfl rfl)

theorem scale_failed {cwd : String} {first final : Registry} {failure : Failure}
    (failed : Wiring cwd id first (.error failure final)) :
    ∃ serial, first.serial ≤ serial ∧ final.scale = { first.scale.submit [.close id] with serial := serial } := by
  cases failed with
  | unbuilt failure => exact ⟨first.serial, Nat.le_refl _, rfl⟩
  | unheard failure | leaking failure | unattached failure => exact ⟨first.serial + 1, Nat.le_succ _, rfl⟩

theorem scale_register {cwd : String} {first final : Registry} (free : first.session? id = none)
    (made : Wiring cwd id first (.ok session final)) :
    (register cwd session final).scale = first.scale.enroll id := by
  cases made with
  | done =>
    have last := Assoc.put_of_absent free (attached (listening (newborn id first)))
    have sessions : Assoc.put id (attached (listening (newborn id first))) first.sessions = _ := last
    simp only [scale, register, log, note, subscribe, counted]
    rw [show (attached (listening (newborn id first))).id = id from rfl, sessions, List.map_append]
    rfl

end Changes

end Registry

namespace Panel

@[ext] structure Scale where
  registry : Registry.Scale
  isOpen : Bool
  fitting : Bool
  dragging : Bool
  frames : List FrameJob

def scale (panel : Panel) : Scale where
  registry := panel.registry.scale
  isOpen := panel.isOpen
  fitting := panel.fitting
  dragging := panel.drag.isSome
  frames := panel.frames

namespace Scale

def onRegistry (f : Registry.Scale → Registry.Scale) (scale : Scale) : Scale :=
  { scale with registry := f scale.registry }

def exhibit (visible : Bool) (scale : Scale) : Scale :=
  { scale with isOpen := visible, fitting := visible }

def drag (dragging : Bool) (scale : Scale) : Scale :=
  { scale with dragging := dragging }

def welcome (id : String) (scale : Scale) : Scale :=
  { scale.onRegistry (·.enroll id) with frames := scale.frames ++ [⟨scale.registry.serial, id⟩] }

def takeFrame (place : Nat) (scale : Scale) : Scale :=
  { scale with frames := scale.frames.eraseIdx place }

end Scale

@[simp] theorem scale_note (panel : Panel) (effect : Effect) : (panel.note effect).scale = panel.scale := rfl

@[simp] theorem scale_log (panel : Panel) (record : LogRecord) : (panel.log record).scale = panel.scale := rfl

@[simp] theorem scale_drawTabs (panel : Panel) : panel.drawTabs.scale = panel.scale := rfl

theorem scale_changeRegistry {f : Registry → Registry} {panel : Panel}
    (same : (f panel.registry).scale = panel.registry.scale) : (panel.changeRegistry f).scale = panel.scale :=
  Scale.ext same rfl rfl rfl rfl

theorem scale_setVisible (panel : Panel) (visible : Bool) :
    (panel.setVisible visible).scale = panel.scale.exhibit visible := by
  have shown (sessions : List Session) (choose : Session → Bool) (panel : Panel) :
      (sessions.foldl (fun panel session =>
        panel.changeRegistry (·.showView session (choose session))) panel).scale = panel.scale := by
    induction sessions generalizing panel with
    | nil => rfl
    | cons session rest ih => exact (ih _).trans (scale_changeRegistry (Registry.scale_showView _ _ _))
  unfold setVisible
  rw [scale_note]
  exact shown _ _ _

end Panel

end TerminalDock
