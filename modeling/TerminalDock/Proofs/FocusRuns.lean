import TerminalDock.Proofs.FaceSteps

/-! Who has the focus, and who is shown. If whoever goes on with a process remembers the session that is active then,
only the active session has the focus, and it alone is shown while the panel is. -/

namespace TerminalDock
open Proofs.Steps

/-- It has the focus only if it is active, and is shown exactly if the panel is, too. -/
structure Session.Face.Lit (shown active : Bool) (face : Session.Face) : Prop where
  attached : face.attached = true
  focused : face.focused = true → active = true
  visible : face.visible = (shown && active)

namespace Session.Face.Lit
variable {shown active : Bool} {face : Session.Face}

theorem dimmed (lit : face.Lit shown active) : face.dimmed.Lit shown false :=
  ⟨lit.attached, nofun, (Bool.and_false shown).symm⟩

private theorem of_lit (attached : face.attached = true) (shown fitted : Bool) : (face.lit shown fitted).Lit shown true := by
  refine ⟨attached, fun _ => rfl, ?_⟩
  rw [Session.Face.lit, Session.Face.focus, Session.Face.shown, attached]

theorem exhibit (lit : face.Lit shown active) (visible : Bool) : (face.shown (visible && active)).Lit visible active := by
  refine ⟨lit.attached, lit.focused, ?_⟩
  rw [Session.Face.shown, lit.attached, Bool.and_true]

end Session.Face.Lit

namespace Registry.Face

theorem mem_each {f : String → Session.Face → Session.Face} {face : Face} {name : String} {session : Session.Face}
    (member : (name, session) ∈ (face.each f).sessions) : ∃ old, (name, old) ∈ face.sessions ∧ f name old = session := by
  obtain ⟨⟨id, old⟩, inside, same⟩ := List.mem_map.mp member
  cases same
  exact ⟨old, inside, rfl⟩

theorem mem_alter {id : String} {f : Session.Face → Session.Face} {face : Face} {name : String}
    {session : Session.Face} (member : (name, session) ∈ (face.alter id f).sessions) :
    ∃ old, (name, old) ∈ face.sessions ∧ (name = id ∧ session = f old ∨ name ≠ id ∧ session = old) := by
  obtain ⟨old, inside, rfl⟩ := mem_each member
  refine ⟨old, inside, ?_⟩
  by_cases here : name = id
  · exact .inl ⟨here, if_pos here⟩
  · exact .inr ⟨here, if_neg here⟩

end Registry.Face

namespace Panel.Face

private theorem mem_aside {who : Option String} {face : Face} {name : String} {session : Session.Face}
    (member : (name, session) ∈ (face.aside who).registry.sessions) :
    ∃ old, (name, old) ∈ face.registry.sessions ∧ session = if who = some name then old.dimmed else old := by
  cases who with
  | none => exact ⟨session, member, (if_neg nofun).symm⟩
  | some id =>
    obtain ⟨old, inside, ⟨rfl, rfl⟩ | ⟨other, rfl⟩⟩ := Registry.Face.mem_alter member
    · exact ⟨old, inside, (if_pos rfl).symm⟩
    · exact ⟨session, inside, (if_neg fun same => other (Option.some.inj same).symm).symm⟩

theorem mem_closed {face : Face} {id name : String} {session : Session.Face}
    (unique : face.registry.sessions.keys.Nodup) (member : (name, session) ∈ (face.closed id).registry.sessions) :
    name ≠ id ∧ (name, session) ∈ face.registry.sessions := by
  have left : (name, session) ∈ face.registry.sessions.remove id := member
  refine ⟨?_, (Assoc.remove_sublist id face.registry.sessions).subset left⟩
  rintro rfl
  have gone : name ∉ Assoc.keys (face.registry.sessions.remove name) :=
    Assoc.find?_eq_none.mp (Assoc.find?_remove_self unique)
  exact gone (List.mem_map_of_mem left)

structure Staged (face : Face) : Prop where
  fitted : face.isOpen = face.fitting
  lit : ∀ name session, (name, session) ∈ face.registry.sessions →
    session.Lit face.isOpen (face.registry.active == some name)

namespace Staged
variable {face : Face}

/-- Once the active session is put aside, or if it was in the dark anyway, nobody has the focus, and nobody is shown. -/
theorem aside (staged : face.Staged) {before : Option String} (recalled : face.Recalled before) {name : String}
    {session : Session.Face} (member : (name, session) ∈ face.registry.sessions) :
    (if before = some name then session.dimmed else session).Lit face.isOpen false := by
  have lit := staged.lit name session member
  split
  · exact lit.dimmed
  next forgotten =>
    by_cases active : face.registry.active = some name
    · have dark := mt (recalled name session active member) forgotten
      rw [not_or, Bool.not_eq_true, Bool.not_eq_true] at dark
      exact ⟨lit.attached, fun focused => absurd focused (by simp [dark.1]), by rw [dark.2, Bool.and_false]⟩
    · rwa [beq_false_of_ne active] at lit

private theorem of_select {id : String} (fitted : face.isOpen = face.fitting)
    (dark : ∀ name session, (name, session) ∈ face.registry.sessions → name ≠ id → session.Lit face.isOpen false)
    (attached : ∀ session, (id, session) ∈ face.registry.sessions → session.attached = true)
    (fits : Bool) : (face.select id fits).Staged := by
  refine ⟨fitted, fun name session member => ?_⟩
  change session.Lit face.isOpen (some id == some name)
  have among : (name, session) ∈ (face.registry.alter id (Session.Face.lit face.fitting fits)).sessions := member
  obtain ⟨old, inside, ⟨rfl, rfl⟩ | ⟨other, rfl⟩⟩ := Registry.Face.mem_alter among
  · rw [beq_self_eq_true, fitted]
    exact .of_lit (attached old inside) _ _
  · rw [beq_false_of_ne fun same => other (Option.some.inj same).symm]
    exact dark name session inside other

private theorem of_aside_select {id : String} {before : Option String} (fitted : face.isOpen = face.fitting)
    (dark : ∀ name session, (name, session) ∈ face.registry.sessions → name ≠ id →
      (if before = some name then session.dimmed else session).Lit face.isOpen false)
    (attached : ∀ session, (id, session) ∈ face.registry.sessions → session.attached = true) (fits : Bool) :
    ((face.aside before).select id fits).Staged := by
  refine of_select ?_ (fun name session member other => ?_) (fun session member => ?_) fits
  · rw [isOpen_aside, fitting_aside]
    exact fitted
  · obtain ⟨old, inside, rfl⟩ := mem_aside member
    rw [isOpen_aside]
    exact dark name old inside other
  · obtain ⟨old, inside, rfl⟩ := mem_aside member
    have same : (if before = some id then old.dimmed else old).attached = old.attached := by split <;> rfl
    exact same.trans (attached old inside)

theorem exhibit (staged : face.Staged) (visible : Bool) : (face.exhibit visible).Staged := by
  refine ⟨rfl, fun name session member => ?_⟩
  obtain ⟨old, inside, rfl⟩ := Registry.Face.mem_each member
  exact (staged.lit name old inside).exhibit visible

theorem unfocus (staged : face.Staged) : face.unfocus.Staged := by
  unfold Face.unfocus
  split
  · exact staged
  · refine ⟨staged.fitted, fun name session member => ?_⟩
    obtain ⟨old, inside, ⟨_, rfl⟩ | ⟨_, rfl⟩⟩ := Registry.Face.mem_alter member
    · have lit := staged.lit name old inside
      exact ⟨lit.attached, nofun, lit.visible⟩
    · exact staged.lit name session inside

theorem spotlight (staged : face.Staged) (shown : face.isOpen = true) (fits : Bool) : (face.spotlight fits).Staged := by
  unfold Face.spotlight
  split
  · exact staged
  next id active =>
    refine ⟨staged.fitted, fun name session member => ?_⟩
    change session.Lit face.isOpen (face.registry.active == some name)
    obtain ⟨old, inside, ⟨rfl, rfl⟩ | ⟨_, rfl⟩⟩ := Registry.Face.mem_alter member
    · rw [shown, active, beq_self_eq_true]
      exact .of_lit (staged.lit name old inside).attached _ _
    · exact staged.lit name session inside

theorem themed (staged : face.Staged) (theme : Theme) : (face.themed theme).Staged := by
  refine ⟨staged.fitted, fun name session member => ?_⟩
  have among : (name, session) ∈ (face.registry.each fun _ old => { old with theme := theme }).sessions := member
  obtain ⟨old, inside, rfl⟩ := Registry.Face.mem_each among
  have lit := staged.lit name old inside
  exact ⟨lit.attached, lit.focused, lit.visible⟩

theorem welcome (staged : face.Staged) {id : String} {before : Option String} (recalled : face.Recalled before)
    (tag : Nat × String) : (face.welcome id tag before).Staged := by
  have fitted : (face.onRegistry (·.enroll id tag)).isOpen = (face.onRegistry (·.enroll id tag)).fitting := staged.fitted
  refine of_aside_select fitted (fun name session member other => ?_) (fun session member => ?_) true
  · rcases List.mem_append.mp member with live | new
    · exact staged.aside recalled live
    · cases List.mem_singleton.mp new
      exact absurd rfl other
  · rcases List.mem_append.mp member with live | new
    · exact (staged.lit id session live).attached
    · cases List.mem_singleton.mp new
      rfl

theorem closed {id : String} (unique : face.registry.sessions.keys.Nodup) (staged : face.Staged)
    (other : face.registry.active ≠ some id) : (face.closed id).Staged := by
  refine ⟨staged.fitted, fun name session member => ?_⟩
  have kept : (face.closed id).registry.active = face.registry.active := if_neg (mt beq_iff_eq.mp other)
  rw [kept]
  exact staged.lit name session (mem_closed unique member).2

theorem succeeded {id : String} (unique : face.registry.sessions.keys.Nodup) (staged : face.Staged)
    (active : face.registry.active = some id) (successor : String) (fits : Bool) :
    ((face.closed id).select successor fits).Staged := by
  have dark : ∀ name session, (name, session) ∈ (face.closed id).registry.sessions → session.Lit face.isOpen false := by
    intro name session member
    obtain ⟨other, inside⟩ := mem_closed unique member
    have lit := staged.lit name session inside
    rwa [active, beq_false_of_ne fun same => other (Option.some.inj same).symm] at lit
  have still : (face.closed id).isOpen = (face.closed id).fitting := staged.fitted
  exact of_select still (fun name session member _ => dark name session member)
    (fun session member => (dark _ session member).attached) fits

theorem step (unique : face.registry.sessions.keys.Nodup) (staged : face.Staged) {next : Face} (step : Step true face next) :
    next.Staged := by
  cases step with
  | still => exact staged
  | drafted named => exact ⟨staged.fitted, staged.lit⟩
  | themed theme => exact staged.themed theme
  | @selected id fitted other live =>
    have recalled : face.Recalled face.registry.active := fun _ _ active _ _ => active
    exact of_aside_select staged.fitted (fun _ _ member _ => staged.aside recalled member)
      (fun session member => (staged.lit id session member).attached) fitted
  | hidden => exact staged.unfocus.exhibit false
  | revealed fitted peopled => exact (staged.exhibit true).spotlight rfl fitted
  | emptied last =>
    refine ⟨rfl, fun name session member => ?_⟩
    obtain ⟨old, inside, rfl⟩ := Registry.Face.mem_each member
    rw [last] at inside
    cases inside
  | closed other left => exact staged.closed unique other
  | succeeded fitted active live => exact staged.succeeded unique active _ fitted
  | made tag before free recalled => exact staged.welcome (recalled rfl) tag
  | opened tag before free recalled => exact (staged.welcome (recalled rfl) tag).exhibit true
  | enrolled tag loose free => cases loose
  | chosen loose live => cases loose
  | spotlit fitted loose => cases loose

end Staged

end Panel.Face

namespace Panel

/-- Only the active session has the focus, and it alone is shown while the panel is. -/
structure Exclusive (panel : Panel) : Prop where
  alone : ∀ id other first second, panel.registry.session? id = some first → panel.registry.session? other = some second →
    first.surface.focused = true → second.surface.focused = true → id = other
  focused : ∀ id session, panel.registry.session? id = some session → session.surface.focused = true →
    panel.registry.active = some id
  visible : ∀ id session, panel.registry.session? id = some session →
    (session.view.visible = true ↔ panel.isOpen = true ∧ panel.registry.active = some id)

theorem Exclusive.of_staged {panel : Panel} (staged : panel.face.Staged) : panel.Exclusive := by
  have lit {id : String} {session : Session} (live : panel.registry.session? id = some session) :
      session.face.Lit panel.isOpen (panel.registry.active == some id) :=
    staged.lit id session.face (Assoc.mem_of_find? (live_face live))
  have focused (id : String) (session : Session) (live : panel.registry.session? id = some session)
      (has : session.surface.focused = true) : panel.registry.active = some id :=
    beq_iff_eq.mp ((lit live).focused has)
  refine ⟨fun id other first second live there one two => ?_, focused, fun id session live => ?_⟩
  · exact Option.some.inj ((focused id first live one).symm.trans (focused other second there two))
  · rw [show session.view.visible = _ from (lit live).visible, Bool.and_eq_true, beq_iff_eq]

end Panel

namespace Dock
variable {β : Type} [SessionBackend β]

/-- However the panel is opened and hidden, and tabs are added, selected and closed, with however many processes under
way: if whoever goes on with a process remembers the session that is active then, the focus is where it should be. -/
theorem run_exclusive {panel : Panel} (blank : panel.Blank) (backend : β) (hook : Transport.FailureHook)
    {moves : List (Move β)} (allowed : ∀ move ∈ moves, move.only (Request.tabbed true) = true)
    (punctual : (Dock.fresh panel backend hook).Punctual moves) :
    ((Dock.fresh panel backend hook).run moves).panel.Exclusive := by
  have start : (Dock.fresh panel backend hook).Valid (Request.tabbed true) := valid_fresh blank backend hook
  have dark : panel.face.Staged := by
    refine ⟨blank.hidden.trans blank.unfit.symm, fun name session member => ?_⟩
    rw [Panel.face, Registry.face, blank.sessions] at member
    cases member
  exact .of_staged (run_faces (fun unique staged step => staged.step unique step) start allowed (fun _ => punctual) dark)

/-- Two sessions are asked for one after the other, and the first one is closed while the panel is hidden. -/
def orderly : List (Move PuppetBackend) :=
  [.ask .openPanel, .ask (.adjust fun backend => { backend with hold := true }), .ask (.add none), .answer 2, .turn,
    .ask (.add none), .answer 3, .turn, .ask .hide, .ask (.closeSession "term-1"), .ask .toggle]

theorem run_exclusive_orderly :
    ((Dock.fresh Panel.standard {} .log).run orderly).panel.isOpen = true ∧
    ((Dock.fresh Panel.standard {} .log).run orderly).panel.registry.sessions.keys = ["term-2", "term-3"] ∧
    ((Dock.fresh Panel.standard {} .log).run orderly).panel.Exclusive := by
  have allowed : ∀ move ∈ orderly, move.only (Request.tabbed true) = true := by decide +kernel
  have punctual : (Dock.fresh Panel.standard ({} : PuppetBackend) .log).Punctual orderly := by decide +kernel
  exact ⟨by decide +kernel, by decide +kernel, run_exclusive Panel.standard_blank ({} : PuppetBackend) .log allowed punctual⟩

/-- Two sessions are asked for while the panel is open, and both remember the first one. -/
def crossing : List (Move PuppetBackend) :=
  [.ask .openPanel, .ask (.adjust fun backend => { backend with hold := true }), .ask (.add none), .ask (.add none),
    .answer 2, .turn, .answer 3, .turn]

/-- The one that arrives first keeps the focus and stays in view when the other one arrives. -/
theorem run_exclusive_fails : (∀ move ∈ crossing, move.only (Request.tabbed true) = true) ∧
    ¬ ((Dock.fresh Panel.standard {} .log).run crossing).panel.Exclusive := by
  refine ⟨by decide +kernel, fun exclusive => ?_⟩
  have focused : ∀ id ∈ ["term-2", "term-3"],
      (((Dock.fresh Panel.standard {} .log).run crossing).panel.registry.session? id).map (·.surface.focused) =
        some true := by decide +kernel
  obtain ⟨second, live, one⟩ := Option.map_eq_some_iff.mp (focused "term-2" (by decide))
  obtain ⟨third, there, other⟩ := Option.map_eq_some_iff.mp (focused "term-3" (by decide))
  have same := exclusive.alone "term-2" "term-3" second third live there one other
  exact absurd same (by decide)

end Dock

end TerminalDock
