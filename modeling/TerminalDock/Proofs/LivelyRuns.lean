import TerminalDock.Proofs.LastPage
import TerminalDock.Proofs.ScaleRuns

/-! Runs in which the backend announces events, too. What a session is told may give its grid another size, for a
program may choose the number of columns, but nothing else that fits go by; so all surfaces still take any size. -/

namespace TerminalDock
open Proofs.Steps

/-- A session but for the size of its grid, which its program may change. -/
def Session.Gauge.gridless (gauge : Gauge) : Gauge :=
  { gauge with grid := classic }

namespace Registry

namespace Scale

def gridless (scale : Scale) : Scale :=
  { scale with gauges := scale.gauges.map fun (id, gauge) => (id, gauge.gridless) }

private theorem find?_gridless (id : String) (scale : Scale) :
    Assoc.find? id scale.gridless.gauges = (scale.gauges.find? id).map Session.Gauge.gridless :=
  Assoc.find?_map Session.Gauge.gridless id scale.gauges

theorem Pliable.of_gridless {first last : Scale} (pliable : first.Pliable) (same : last.gridless = first.gridless) :
    last.Pliable := by
  refine ⟨fun id gauge there => ?_, ?_⟩
  · have found : Assoc.find? id first.gridless.gauges = some gauge.gridless := by
      rw [← same, find?_gridless, there]
      rfl
    obtain ⟨old, before, alike⟩ := Option.map_eq_some_iff.mp ((find?_gridless id first).symm.trans found)
    have build : old.build = gauge.build := congrArg (·.build) alike
    exact build ▸ pliable.live id old before
  · have stock : last.stock = first.stock := congrArg (·.stock) same
    exact stock ▸ pliable.stock

end Scale

private theorem gridless_of_sessions {first last : Registry}
    (same : last.sessions.map (fun (id, session) => (id, session.gauge.gridless)) =
      first.sessions.map fun (id, session) => (id, session.gauge.gridless))
    (rest : ({ last.scale with gauges := first.scale.gauges } : Scale) = first.scale) :
    last.scale.gridless = first.scale.gridless := by
  have table (registry : Registry) : registry.scale.gridless.gauges =
      registry.sessions.map fun (id, session) => (id, session.gauge.gridless) := List.map_map
  refine Scale.ext ((table last).trans (same.trans (table first).symm)) ?_ ?_ ?_ ?_ ?_
  · exact congrArg (·.active) rest
  · exact congrArg (·.serial) rest
  · exact congrArg (·.stock) rest
  · exact congrArg (·.swept) rest
  · exact congrArg (·.outbox) rest

private theorem gridless_change {registry : Registry} (valid : registry.WellFormed) {serial : Nat} {f : Session → Session}
    (same : ∀ id session, registry.session? id = some session → session.serial = serial →
      (f session).gauge.gridless = session.gauge.gridless) :
    (registry.change serial f).scale.gridless = registry.scale.gridless := by
  refine gridless_of_sessions ?_ rfl
  simp only [change, List.map_map]
  refine List.map_congr_left fun entry member => congrArg (Prod.mk entry.1) ?_
  have live : registry.session? entry.1 = some entry.2 := Assoc.find?_of_mem valid.keys member
  dsimp only
  split
  next here => exact same entry.1 entry.2 live (beq_iff_eq.mp here)
  next => rfl

/-- A step that leaves everything that fits go by, apart from the grids, if surfaces take any size. -/
def Prints (first last : Registry) : Prop :=
  first.WellFormed → first.scale.Pliable → last.WellFormed ∧ last.scale.gridless = first.scale.gridless

namespace Prints

protected theorem refl (registry : Registry) : Prints registry registry := fun valid _ => ⟨valid, rfl⟩

protected theorem trans {first middle last : Registry} (before : Prints first middle) (later : Prints middle last) :
    Prints first last := by
  intro valid pliable
  obtain ⟨sound, same⟩ := before valid pliable
  obtain ⟨kept, alike⟩ := later sound (pliable.of_gridless same)
  exact ⟨kept, alike.trans same⟩

theorem log (registry : Registry) (record : LogRecord) : Prints registry (registry.log record) :=
  fun valid _ => ⟨valid.of_stance rfl, rfl⟩

end Prints

private theorem write_prints {registry : Registry} {session : Session} (bytes : List UInt8) (known : registry.Owns session) :
    Prints registry (after (onSurface session (Surface.write bytes)) registry) := by
  intro valid pliable
  refine ⟨(onSurface_sound session _ registry valid).1, ?_⟩
  rw [after_onSurface]
  refine gridless_change valid fun id other live same => ?_
  have build := Surface.build_write (pliable.live id other.gauge (live_scale live)).atEnd bytes
  rw [known other (everyone_of_live live) same] at build
  have kept : other.surface.build = session.surface.build := by rw [known other (everyone_of_live live) same]
  exact congrArg (fun build => { other.gauge.gridless with build := build }) (build.trans kept.symm)

private theorem markExited_prints (registry : Registry) (id : String) : Prints registry (registry.markExited id).2 :=
  fun valid _ => ⟨(markExited_sound registry id valid).1, congrArg Scale.gridless (scale_markExited registry id)⟩

private theorem prints_tells : TellRules Owns Prints where
  refl := .refl
  trans before later := before.trans later
  log record registry := .log registry record
  mark id registry := markExited_prints registry id
  marked owned := owned.marked
  write owned bytes := write_prints bytes owned

end Registry

namespace Panel

theorem tellAll_prints (event : String) (payload : Event.Payload) (subscribers : List Subscriber) (panel : Panel) :
    Registry.Prints panel.registry (tellAll event payload subscribers panel).registry := by
  refine tellAll_registry Registry.prints_tells (fun subscriber registry valid => ?_)
    (fun registry effect valid _ => ?_) event
    subscribers panel
  · exact Registry.prints_tells.of_valid subscriber payload valid valid
  · exact ⟨valid.of_stance rfl, rfl⟩

private theorem tellAll_scale (event : String) (payload : Event.Payload) (subscribers : List Subscriber) (panel : Panel) :
    (tellAll event payload subscribers panel).scale =
      { panel.scale with registry := (tellAll event payload subscribers panel).registry.scale } := by
  induction subscribers generalizing panel with
  | nil => rfl
  | cons subscriber rest ih =>
    unfold tellAll
    dsimp only
    split
    · split
      · exact ih _
      · exact ih _
    · exact ih _

end Panel

/-- Beats that leave the surfaces and the selection to the panel and its sessions; the backend may announce events. -/
def Beat.lively {β : Type} : Beat β → Bool
  | .move next => next.only Request.panelwise
  | .fire _ => true

theorem Beat.lively_cases {β : Type} {beat : Beat β} (allowed : beat.lively = true) :
    beat.panelwise = true ∨ ∃ event payload, beat = .move (.announce event payload) := by
  cases beat with
  | fire place => exact .inl rfl
  | move move =>
    cases move with
    | announce event payload => exact .inr ⟨event, payload, rfl⟩
    | ask _ | turn | answer _ => exact .inl allowed

namespace Dock
variable {β : Type} [SessionBackend β] {dock : Dock β}

theorem Steady.announce (steady : dock.Steady) (event : String) (payload : Event.Payload) :
    (dock.beat (.move (.announce event payload))).Steady := by
  let told := (dock.panel.emit event payload).2
  have scaled : told.scale = { dock.panel.scale with registry := told.registry.scale } :=
    Panel.tellAll_scale event payload _ dock.panel
  have printed : told.registry.scale.gridless = dock.panel.registry.scale.gridless :=
    (Panel.tellAll_prints event payload _ dock.panel steady.valid.registry steady.sane.pliable).2
  have posts : Posts none told.registry.outbox told.registry.journal dock (dock.beat (.move (.announce event payload))) :=
    change_posts dock fun panel => (panel.emit event payload).2
  have yields : Yields (fun _ => False) dock told.drained dock.backend (dock.beat (.move (.announce event payload))) :=
    announce_yields dock event payload
  have faces : told.face = dock.panel.face := Panel.tellAll_face steady.valid.registry event payload _
  have valid : (dock.move (.announce event payload)).Valid Request.panelwise := steady.valid.move rfl
  refine ⟨valid, (posts steady.orderly ⟨by simp, by simp⟩).orderly, ?_, ?_⟩
  · have pliable : told.registry.scale.Pliable := steady.sane.pliable.of_gridless printed
    rw [yields.panel, Panel.scale_drained, scaled]
    exact ⟨⟨pliable.live, pliable.stock⟩, steady.sane.shown⟩
  · rw [yields.panel, Panel.drained_face, faces]
    exact steady.attached

namespace Steady

theorem beat (steady : dock.Steady) {beat : Beat β} (allowed : beat.lively = true) : (dock.beat beat).Steady := by
  rcases Beat.lively_cases allowed with quiet | ⟨event, payload, rfl⟩
  · exact steady.next quiet
  · exact steady.announce event payload

theorem step {strict : Bool} (steady : dock.Steady) {beat : Beat β} (allowed : beat.lively = true)
    (timely : strict = true → dock.Timely) : Panel.Face.Step strict dock.panel.face (dock.beat beat).panel.face := by
  cases beat with
  | move move => exact move_step steady.valid.tabbed (Move.tabbed allowed) fun exact _ => timely exact
  | fire place =>
    have yields : Yields (fun _ => True) dock _ _ (dock.onPanel (Panel.fire place)).2 :=
      onPanel_yields dock (Panel.fire place)
    have same := Panel.face_of_stance (Panel.Mild.rules.fire place dock.panel steady.valid.registry)
    rw [show (dock.beat (.fire place)).panel = _ from yields.panel, Panel.drained_face, same]
    exact .still

theorem lively {beats : List (Beat β)} (steady : dock.Steady) (allowed : ∀ beat ∈ beats, beat.lively = true) :
    (dock.play beats).Steady := by
  induction beats generalizing dock with
  | nil => exact steady
  | cons first rest ih =>
    exact ih (steady.beat (allowed first (List.mem_cons_self ..))) fun beat member =>
      allowed beat (List.mem_cons_of_mem _ member)

end Steady

end Dock

end TerminalDock
