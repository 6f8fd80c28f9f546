import TerminalDock.Proofs.PanelFits

/-! How a session is brought to the front: it is shown, fitted to the box of its view, and then gets the focus. What
comes of it is decided by the room that there is in the box: without any, nothing is resized, and if it cannot be told
how much there is, the session is left without the focus. -/

namespace TerminalDock
open Proofs.Steps

/-- What fits into the box of a session's view once that is shown, if it can be told. -/
def Session.room (session : Session) : Except Failure (Option Geometry) :=
  session.surface.proposed (.whole session.view.width) (.whole session.view.height)

theorem Session.room_measured {session : Session} (attached : session.view.attached = true)
    (visible : session.view.visible = true) :
    session.surface.proposed (.whole session.view.measure.1) (.whole session.view.measure.2) = session.room := by
  simp only [View.measure, attached, visible, Bool.and_self, if_true, room]

/-- What a fit goes by: room for a grid, none, or none that can be told. -/
abbrev Prospect := Except Failure (Option Geometry)

namespace Prospect

def failure? : Prospect → Option Failure
  | .error failure => some failure
  | .ok _ => none

def clear (prospect : Prospect) : Bool :=
  prospect.failure?.isNone

def calls (id : String) : Prospect → List BackendCall
  | .ok (some size) => [.resize id size]
  | _ => []

end Prospect

/-- What keeps the active session from being fitted to its view once that is shown, if anything does. -/
def Registry.obstacle? (registry : Registry) : Option Failure :=
  registry.activeSession?.bind fun session => Prospect.failure? session.room

/-- A font without any width, for which it cannot be told. -/
def Font.flat : Font := ⟨"Menlo", .whole 13, .whole 0, .whole 16⟩

/-- Whether there is anything of the box of a view beside the padding. -/
def Session.laidOut (session : Session) : Bool :=
  (Decimal.Quantity.minus (.whole session.view.width) session.surface.padding).isPositive &&
    (Decimal.Quantity.minus (.whole session.view.height) session.surface.padding).isPositive

theorem Session.room_unlaid {session : Session} : session.room = .ok none ↔ session.laidOut = false := by
  unfold room laidOut Surface.proposed
  dsimp only
  split
  next laid =>
    rw [laid]
    refine ⟨fun none => ?_, Bool.noConfusion⟩
    simp only [bind, Except.bind] at none
    split at none
    · cases none
    · split at none
      · cases none
      · cases none
  next bare => exact ⟨fun _ => Bool.eq_false_iff.mpr bare, fun _ => rfl⟩

/-- What is submitted for a session that is brought to the front, which failure that comes to, and whether the focus
follows: it is fitted if the panel is shown and its view is laid out. -/
inductive Session.Fronted (shown : Bool) (session : Session) : List BackendCall → Option Failure → Bool → Prop
  | fitted (size : Geometry) (laid : shown = true ∧ session.laidOut = true) (room : session.room = .ok (some size)) :
    Fronted shown session [.resize session.id size] none true
  | skipped (bare : ¬(shown = true ∧ session.laidOut = true)) : Fronted shown session [] none true
  | failed (failure : Failure) (laid : shown = true ∧ session.laidOut = true) (room : session.room = .error failure) :
    Fronted shown session [] (some failure) false

theorem Session.Fronted.of_room (session : Session) : Fronted true session (Prospect.calls session.id session.room)
    (Prospect.failure? session.room) (Prospect.clear session.room) := by
  have laid (some_room : session.room ≠ .ok none) : true = true ∧ session.laidOut = true :=
    ⟨rfl, eq_true_of_ne_false fun bare => some_room (room_unlaid.mpr bare)⟩
  cases room : session.room with
  | error failure => exact .failed failure (laid (by simp [room])) room
  | ok size =>
    cases size with
    | none => exact .skipped fun both => Bool.noConfusion (both.2.symm.trans (room_unlaid.mp room))
    | some size => exact .fitted size (laid (by simp [room])) room

theorem Registry.session?_showView {registry : Registry} {id : String} {session : Session}
    (live : registry.session? id = some session) (visible : Bool) :
    (registry.showView session visible).session? id = some { session with view := session.view.setVisible visible } := by
  unfold showView
  dsimp only
  split
  next already =>
    have same : session.view.setVisible visible = session.view :=
      congrArg (fun visible => { session.view with visible := visible }) (beq_iff_eq.mp already)
    rw [same]
    exact live
  next =>
    rw [session?_note, session?_change, live]
    simp [changed]

/-- As the views of some sessions are shown or hidden in turn, each session is as it was but for its own view. -/
theorem Registry.session?_showViews {registry : Registry} {id : String} {session : Session} {todo : List Session}
    {choose : String → Bool} (distinct : (todo.map Session.id).Nodup) (valid : registry.WellFormed)
    (live : ∀ session ∈ todo, registry.session? session.id = some session)
    (there : registry.session? id = some session) :
    (todo.foldl (fun registry session => registry.showView session (choose session.id)) registry).session? id =
      some (if id ∈ todo.map Session.id then { session with view := session.view.setVisible (choose id) } else session) := by
  induction todo generalizing registry session with
  | nil => exact there
  | cons first rest ih =>
    obtain ⟨absent, distinct⟩ := List.nodup_cons.mp distinct
    have here := live first (List.mem_cons_self ..)
    have sound := (showView_sound registry first (choose first.id) valid).1
    have later : ∀ other ∈ rest, (registry.showView first (choose first.id)).session? other.id = some other := by
      intro other member
      have different : other.id ≠ first.id := fun same => absent (same ▸ List.mem_map_of_mem member)
      rw [showView_elsewhere valid here rfl _ different]
      exact live other (List.mem_cons_of_mem _ member)
    by_cases same : id = first.id
    · subst same
      obtain rfl : first = session := Option.some.inj (here.symm.trans there)
      have shown := ih distinct sound later (session?_showView here (choose first.id))
      rw [if_neg absent] at shown
      rwa [if_pos (List.mem_map_of_mem (List.mem_cons_self ..)), List.foldl_cons]
    · have shown := ih distinct sound later ((showView_elsewhere valid here rfl _ same).trans there)
      simp only [List.map_cons, List.mem_cons, same, false_or]
      exact shown

namespace Panel

private theorem session?_setVisible {panel : Panel} (valid : panel.registry.WellFormed) {id : String} {session : Session}
    (live : panel.registry.session? id = some session) (visible : Bool) :
    (panel.setVisible visible).registry.session? id = some { session with
      view := session.view.setVisible (visible && panel.registry.active == some id) } := by
  have all : (panel.registry.ordered.map Session.id).Perm panel.registry.sessions.keys :=
    (panel.registry.ordered_perm.map Session.id).trans (.of_eq valid.ids)
  have each : ∀ session ∈ panel.registry.ordered, panel.registry.session? session.id = some session :=
    fun session member => valid.live_of_mem (panel.registry.ordered_perm.mem_iff.mp member)
  have present : id ∈ panel.registry.ordered.map Session.id :=
    all.mem_iff.mpr (List.mem_map_of_mem (Assoc.mem_of_find? live))
  let choose (id : String) : Bool := visible && panel.registry.active == some id
  have shown : (panel.registry.ordered.foldl (fun registry session => registry.showView session (choose session.id))
      panel.registry).session? id = some _ :=
    Registry.session?_showViews (all.nodup_iff.mpr valid.keys) valid each live
  rw [if_pos present] at shown
  rw [setVisible_eq]
  exact shown

def prospect (panel : Panel) (session : Session) : Prospect :=
  if panel.fitting then session.room else .ok none

private theorem prospect_hidden {panel : Panel} (hidden : panel.fitting = false) (session : Session) :
    panel.prospect session = .ok none := by
  simp [prospect, hidden]

private theorem prospect_shown {panel : Panel} (shown : panel.fitting = true) (session : Session) :
    panel.prospect session = session.room := by
  simp [prospect, shown]

theorem fronted (panel : Panel) (session : Session) : session.Fronted panel.fitting
    ((panel.prospect session).calls session.id) (panel.prospect session).failure? (panel.prospect session).clear := by
  cases shown : panel.fitting with
  | true =>
    rw [prospect_shown shown]
    exact .of_room session
  | false =>
    rw [prospect_hidden shown]
    exact .skipped fun both => Bool.noConfusion both.1

/-- A session gets the size that there is room for, and the backend is told. -/
def Scale.settle (id : String) (prospect : Prospect) (scale : Scale) : Scale :=
  match prospect with
  | .ok (some size) => scale.onRegistry (·.measure true id size)
  | _ => scale

theorem Scale.outbox_settle (id : String) (prospect : Prospect) (scale : Scale) :
    (scale.settle id prospect).registry.outbox = scale.registry.outbox ++ prospect.calls id := by
  match prospect with
  | .ok (some size) => rfl
  | .ok none => exact (List.append_nil _).symm
  | .error failure => exact (List.append_nil _).symm

structure Settles {α : Type} (act : PanelStep α) (id : String) (prospect : Prospect) (panel : Panel) (start : Scale) :
    Prop where
  failure : (ending act panel).failure = prospect.failure?
  scale : (after act panel).scale = start.settle id prospect

namespace Settles
variable {α β : Type} {act : PanelStep α} {id : String} {prospect : Prospect} {panel : Panel} {start : Scale}

/-- What follows a fit leaves the sizes alone, and does not happen if the fit fails. -/
theorem followed (settles : Settles act id prospect panel start) {next : α → PanelStep β}
    (level : ∀ value middle, (after (next value) middle).scale = middle.scale)
    (smooth : ∀ value middle, (ending (next value) middle).failure = none) :
    Settles (act >>= next) id prospect panel start := by
  obtain ⟨failure, scale⟩ := settles
  unfold ending at failure
  unfold after at scale
  constructor
  · rw [ending_bind]
    cases result : act panel with
    | ok value middle => rw [result] at failure; exact (smooth value middle).trans failure
    | error raised middle => rw [result] at failure; exact failure
  · rw [after_bind]
    cases result : act panel with
    | ok value middle => rw [result] at scale; exact (level value middle).trans scale
    | error raised middle => rw [result] at scale; exact scale

end Settles

def fitTold (session : Session) : PanelStep (Option Geometry) := do
  match ← onRegistry (Registry.onSurface session
    (Surface.fit (.whole session.view.measure.1) (.whole session.view.measure.2))) with
  | none =>
    modify (·.log (.debug s!"[PANEL] fit skipped, view not laid out | id={session.id}"))
    return none
  | some size =>
    modify (·.changeRegistry (notifySize session size))
    return some size

section Fits
variable {panel : Panel} {id : String} {session : Session}

theorem refit_hidden (hidden : panel.fitting = false) (who : Option String) (notify : Bool) :
    refit who notify panel = .ok none panel := by
  unfold refit
  rw [get_bind]
  cases panel.registry.activeSession? with
  | none => rfl
  | some session =>
    dsimp only
    rw [hidden, Bool.not_false, Bool.or_true]
    rfl

private theorem refit_settles {who : Option String} (valid : panel.registry.WellFormed)
    (pliable : session.surface.build.Pliable)
    (active : panel.registry.active = some id) (live : panel.registry.session? id = some session)
    (laid : panel.fitting = true → session.view.attached = true ∧ session.view.visible = true)
    (meant : who.any (· != session.id) = false) :
    Settles (refit who true) id (panel.prospect session) panel panel.scale := by
  have found : panel.registry.activeSession? = some session := by
    rw [Registry.activeSession?, active]
    exact live
  cases shown : panel.fitting with
  | false =>
    have idle := refit_hidden shown who true
    rw [prospect_hidden shown]
    exact ⟨by rw [ending, idle]; rfl, by rw [after, idle]; rfl⟩
  | true =>
    obtain ⟨attached, visible⟩ := laid shown
    rw [prospect_shown shown]
    have measured := session.room_measured attached visible
    have same : panel.registry.change session.serial (fun old => { old with surface := session.surface }) =
        panel.registry := by
      refine Registry.change_same fun other member alike => ?_
      rw [valid.same_session member (Registry.everyone_of_live live) alike]
    have begun : refit who true panel = fitTold session panel := by
      unfold refit
      rw [get_bind, found]
      simp only [meant, shown, Bool.not_true, Bool.or_self, Bool.false_eq_true, if_false, if_true]
      rfl
    cases room : session.room with
    | error failure =>
      have failed : onRegistry (Registry.onSurface session
          (Surface.fit (.whole session.view.measure.1) (.whole session.view.measure.2))) panel = .error failure panel := by
        simp only [onRegistry, Registry.onSurface, Surface.fit_failing (measured.trans room), same]
      rw [fitTold, bind_error failed] at begun
      exact ⟨by rw [ending, begun]; rfl, by rw [after, begun]; rfl⟩
    | ok found =>
      cases found with
      | none =>
        have crowded : onRegistry (Registry.onSurface session
            (Surface.fit (.whole session.view.measure.1) (.whole session.view.measure.2))) panel = .ok none panel := by
          simp only [onRegistry, Registry.onSurface, Surface.fit_crowded (measured.trans room), same]
        rw [fitTold, bind_ok crowded] at begun
        exact ⟨by rw [ending, begun]; rfl, by rw [after, begun]; rfl⟩
      | some size =>
        obtain ⟨surface, fitted, sized, build⟩ := Surface.fit_proposed pliable (measured.trans room)
        have told := (Registry.scale_fitted valid live sized build).2
        have ended : onRegistry (Registry.onSurface session
            (Surface.fit (.whole session.view.measure.1) (.whole session.view.measure.2))) panel = .ok (some size)
              { panel with registry := panel.registry.change session.serial fun old => { old with surface :=
                surface } } := by
          simp only [onRegistry, Registry.onSurface, fitted]
        rw [fitTold, bind_ok ended] at begun
        refine ⟨by rw [ending, begun]; rfl, ?_⟩
        rw [after, begun]
        exact Scale.ext told rfl rfl rfl rfl

/-- A session that is shown if the panel is gets fitted, and then the focus. -/
theorem front_settles {who : Option String} {visible : Bool} (valid : panel.registry.WellFormed)
    (pliable : session.surface.build.Pliable) (active : panel.registry.active = some id)
    (live : panel.registry.session? id = some session) (attached : session.view.attached = true)
    (shown : panel.fitting = true → visible = true) (meant : who.any (· != session.id) = false) :
    Settles (do
      let _ ← refit who true
      modify (·.changeRegistry (·.changeSurface session Surface.focus))) id (panel.prospect session)
      (panel.changeRegistry (·.showView session visible)) panel.scale := by
  let front : Panel := panel.changeRegistry (·.showView session visible)
  have scaled : front.scale = panel.scale := scale_changeRegistry (Registry.scale_showView _ _ _)
  have sound : front.registry.WellFormed := (Registry.showView_sound panel.registry session visible valid).1
  have chosen : front.registry.active = some id := (congrArg (·.registry.active) scaled).trans active
  let current : Session := { session with view := session.view.setVisible visible }
  have refitted : Settles (refit who true) id (panel.prospect session) front panel.scale := by
    have laid : front.fitting = true → current.view.attached = true ∧ current.view.visible = true := by
      intro fitting
      have both : current.view.visible = (visible && session.view.attached) := rfl
      exact ⟨attached, by rw [both, shown fitting, attached]; rfl⟩
    have settles : Settles (refit who true) id (panel.prospect current) front front.scale :=
      refit_settles sound pliable chosen (Registry.session?_showView live visible) laid meant
    rwa [scaled] at settles
  refine refitted.followed (fun _ middle => ?_) fun _ _ => rfl
  exact scale_changeRegistry (Registry.scale_focus middle.registry session)

theorem activate_settles (valid : panel.registry.WellFormed) (pliable : session.surface.build.Pliable)
    (live : panel.registry.session? id = some session) (attached : session.view.attached = true) :
    Settles (activate id) id (panel.prospect session) panel (panel.scale.onRegistry (·.select id)) := by
  let chosen : Panel := { panel with registry := { panel.registry with active := some id } }
  have answer : onRegistry (Registry.setActive id) panel = .ok session chosen := by
    simp only [onRegistry, Registry.setActive_live live]
    rfl
  have sound : chosen.registry.WellFormed := by
    have kept := (Registry.setActive_sound id panel.registry valid).1
    rwa [after, Registry.setActive_live live] at kept
  have named : (some id).any (· != session.id) = false := by simp [valid.named id session live]
  have chosenLive : chosen.registry.session? id = some session := live
  have front : Settles _ id (panel.prospect session) _ (panel.scale.onRegistry (·.select id)) :=
    front_settles sound pliable rfl chosenLive attached (fun fitting => fitting) named
  unfold activate
  constructor
  · rw [ending_bind, answer]
    exact front.failure
  · rw [after_bind, answer]
    exact front.scale

private theorem focusActive_settles (valid : panel.registry.WellFormed) (pliable : session.surface.build.Pliable)
    (active : panel.registry.active = some id) (live : panel.registry.session? id = some session)
    (attached : session.view.attached = true) :
    Settles focusActive id (panel.prospect session) panel panel.scale := by
  have found : panel.registry.activeSession? = some session := by
    rw [Registry.activeSession?, active]
    exact live
  have unmeant : (none : Option String).any (· != session.id) = false := rfl
  have front : Settles _ id (panel.prospect session) _ panel.scale :=
    front_settles valid pliable active live attached (fun _ => rfl) unmeant
  unfold focusActive
  constructor
  · rw [ending_get_bind, found]
    exact front.failure
  · rw [after_get_bind, found]
    exact front.scale

/-- Whatever was hidden is fitted anew as the panel is shown again. -/
theorem reveal_settles (valid : panel.registry.WellFormed) (pliable : session.surface.build.Pliable)
    (active : panel.registry.active = some id) (live : panel.registry.session? id = some session)
    (attached : session.view.attached = true) :
    Settles reveal id session.room panel (panel.scale.exhibit true) := by
  let shown : Panel := panel.setVisible true
  have scaled : shown.scale = panel.scale.exhibit true := scale_setVisible panel true
  have sound : shown.registry.WellFormed := (Quiet.rules.setVisible true panel valid).1
  have chosen : shown.registry.active = some id := (congrArg (·.registry.active) scaled).trans active
  have fitting : shown.fitting = true := congrArg (·.fitting) scaled
  let current : Session := { session with view := session.view.setVisible (true && panel.registry.active == some id) }
  have there : shown.registry.session? id = some current := session?_setVisible valid live true
  have kept : current.surface.build.Pliable := pliable
  have focused : Settles focusActive id session.room shown shown.scale := by
    have settles := focusActive_settles sound kept chosen there attached
    rwa [prospect_shown fitting] at settles
  have logged : Settles (do focusActive; modify logOpened) id session.room shown shown.scale :=
    focused.followed (fun _ _ => rfl) fun _ _ => rfl
  rw [scaled] at logged
  unfold reveal
  constructor
  · rw [ending_modify_bind]
    exact logged.failure
  · rw [after_modify_bind]
    exact logged.scale

end Fits

end Panel

end TerminalDock
