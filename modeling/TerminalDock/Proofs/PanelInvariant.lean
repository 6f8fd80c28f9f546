import TerminalDock.Proofs.FaceSteps

/-! What holds of a panel between any two moves: it is shown only with a session in it, one of its sessions is active
unless there is none, and its tabs are its sessions. -/

namespace TerminalDock
open Proofs.Steps

namespace Panel

/-- A panel without the focus, without what is shown of its sessions, and without which of them is active. -/
structure Base where
  roll : Assoc String (Nat × Theme)
  counter : Nat
  theme : Theme
  isOpen : Bool
  fitting : Bool
  draft : Option String

namespace Base

structure Firm (base : Base) : Prop where
  fitted : base.isOpen = base.fitting
  peopled : base.isOpen = true → base.roll ≠ []
  drafted : ∀ id, base.draft = some id → id ∈ base.roll.keys
  themed : ∀ line ∈ base.roll.values, line.2 = base.theme
  numbered : Allotted (base.roll.values.map Prod.fst) base.counter

protected theorem Firm.shut (theme : Theme) (counter : Nat) :
    Firm { roll := [], counter := counter, theme := theme, isOpen := false, fitting := false, draft := none } where
  fitted := rfl
  peopled shown := nomatch shown
  drafted _ begun := nomatch begun
  themed _ member := nomatch member
  numbered := .none_yet counter

def exhibit (visible : Bool) (base : Base) : Base :=
  { base with isOpen := visible, fitting := visible }

@[simp] theorem roll_exhibit (visible : Bool) (base : Base) : (base.exhibit visible).roll = base.roll := rfl

def closed (id : String) (base : Base) : Base :=
  { base with
    roll := base.roll.remove id
    draft := if base.draft = some id then none else base.draft }

def enroll (id : String) (base : Base) : Base :=
  { base with
    roll := base.roll ++ [(id, (base.counter + 1, base.theme))]
    counter := base.counter + 1 }

def retheme (theme : Theme) (base : Base) : Base :=
  { base with
    roll := base.roll.map fun (id, line) => (id, (line.1, theme))
    theme := theme }

namespace Firm
variable {base : Base}

theorem exhibit (firm : base.Firm) (visible : Bool) (peopled : visible = true → base.roll ≠ []) :
    (base.exhibit visible).Firm :=
  ⟨rfl, peopled, firm.drafted, firm.themed, firm.numbered⟩

theorem draft (firm : base.Firm) {draft : Option String}
    (named : ∀ id, draft = some id → draft = base.draft ∨ id ∈ base.roll.keys) :
    Firm { base with draft := draft } := by
  refine ⟨firm.fitted, firm.peopled, fun id drafted => ?_, firm.themed, firm.numbered⟩
  rcases named id drafted with old | live
  · exact firm.drafted id (old.symm.trans drafted)
  · exact live

theorem closed (firm : base.Firm) (id : String) (peopled : base.isOpen = true → (base.closed id).roll ≠ []) :
    (base.closed id).Firm := by
  have fewer : (base.closed id).roll.values.Sublist base.roll.values :=
    (Assoc.remove_sublist id base.roll).map Prod.snd
  refine ⟨firm.fitted, peopled, fun name drafted => ?_, ?_, ?_⟩
  · simp only [Base.closed] at drafted
    split at drafted
    · cases drafted
    next other =>
      have different : name ≠ id := fun same => other (same ▸ drafted)
      have before := Assoc.has_iff_mem.mpr (firm.drafted name drafted)
      rw [← Assoc.has_iff_mem, Assoc.has, Base.closed, Assoc.find?_remove_of_ne different]
      exact before
  · exact fun line member => firm.themed line (fewer.subset member)
  · exact firm.numbered.fewer (fewer.map Prod.fst)

theorem enroll (firm : base.Firm) (id : String) : (base.enroll id).Firm := by
  have values : (base.enroll id).roll.values = base.roll.values ++ [(base.counter + 1, base.theme)] :=
    List.map_append
  refine ⟨firm.fitted, fun _ empty => ?_, fun name drafted => ?_, ?_, ?_⟩
  · cases List.append_eq_nil_iff.mp empty |>.2
  · have before := firm.drafted name drafted
    rw [Base.enroll, Assoc.keys, List.map_append]
    exact List.mem_append_left _ before
  · intro line member
    rw [values] at member
    rcases List.mem_append.mp member with old | new
    · exact firm.themed line old
    · rw [List.mem_singleton.mp new]
      rfl
  · rw [values, List.map_append]
    exact firm.numbered.next

private theorem retheme (firm : base.Firm) (theme : Theme) : (base.retheme theme).Firm := by
  have keys : (base.retheme theme).roll.keys = base.roll.keys :=
    Assoc.keys_map (fun line : Nat × Theme => (line.1, theme)) base.roll
  have values : (base.retheme theme).roll.values = base.roll.values.map fun line => (line.1, theme) :=
    Assoc.values_map (fun line : Nat × Theme => (line.1, theme)) base.roll
  refine ⟨firm.fitted, fun shown empty => ?_, fun name drafted => ?_, ?_, ?_⟩
  · exact firm.peopled shown (List.map_eq_nil_iff.mp empty)
  · rw [keys]
    exact firm.drafted name drafted
  · intro line member
    rw [values] at member
    obtain ⟨_, _, rfl⟩ := List.mem_map.mp member
    rfl
  · rw [values, List.map_map]
    exact firm.numbered

end Firm

end Base

namespace Face

def base (face : Face) : Base where
  roll := face.registry.sessions.map fun (id, session) => (id, (session.number, session.theme))
  counter := face.registry.counter
  theme := face.registry.theme
  isOpen := face.isOpen
  fitting := face.fitting
  draft := face.draft

private theorem base_each {f : String → Session.Face → Session.Face}
    (number : ∀ id session, (f id session).number = session.number)
    (theme : ∀ id session, (f id session).theme = session.theme) (face : Face) :
    (face.onRegistry (·.each f)).base = face.base := by
  simp [base, onRegistry, Registry.Face.each, Function.comp_def, number, theme]

private theorem base_alter (id : String) (f : Session.Face → Session.Face)
    (number : ∀ session, (f session).number = session.number) (theme : ∀ session, (f session).theme = session.theme)
    (face : Face) : (face.onRegistry (·.alter id f)).base = face.base := by
  refine base_each (fun name session => ?_) (fun name session => ?_) face
  · split
    · exact number session
    · rfl
  · split
    · exact theme session
    · rfl

@[simp] theorem base_aside (who : Option String) (face : Face) : (face.aside who).base = face.base := by
  cases who with
  | none => rfl
  | some id => exact base_alter id Session.Face.dimmed (fun _ => rfl) (fun _ => rfl) face

@[simp] theorem base_select (id : String) (fitted : Bool) (face : Face) : (face.select id fitted).base = face.base :=
  base_alter id (Session.Face.lit face.fitting fitted) (fun _ => rfl) (fun _ => rfl) face

@[simp] theorem base_spotlight (fitted : Bool) (face : Face) : (face.spotlight fitted).base = face.base := by
  unfold spotlight
  split
  · rfl
  · exact base_alter _ (Session.Face.lit true fitted) (fun _ => rfl) (fun _ => rfl) face

@[simp] theorem base_unfocus (face : Face) : face.unfocus.base = face.base := by
  unfold unfocus
  split
  · rfl
  · exact base_alter _ (fun session => { session with focused := false }) (fun _ => rfl) (fun _ => rfl) face

@[simp] theorem base_exhibit (visible : Bool) (face : Face) : (face.exhibit visible).base = face.base.exhibit visible := by
  simp [base, exhibit, Registry.Face.each, Session.Face.shown, Base.exhibit, Function.comp_def]

@[simp] theorem base_themed (theme : Theme) (face : Face) : (face.themed theme).base = face.base.retheme theme := by
  simp [base, themed, onRegistry, Registry.Face.each, Base.retheme, Function.comp_def]

@[simp] theorem base_closed (id : String) (face : Face) : (face.closed id).base = face.base.closed id := by
  have removed := Assoc.remove_map (fun session : Session.Face => (session.number, session.theme)) id
    face.registry.sessions
  simp only [base, Base.closed, removed]
  rfl

@[simp] theorem base_enroll (id : String) (tag : Nat × String) (face : Face) :
    (face.onRegistry (·.enroll id tag)).base = face.base.enroll id := by
  simp [base, onRegistry, Registry.Face.enroll, Base.enroll]

@[simp] theorem base_welcome (id : String) (tag : Nat × String) (before : Option String) (face : Face) :
    (face.welcome id tag before).base = face.base.enroll id := by
  simp [welcome]

theorem roll_nil {face : Face} : face.base.roll = [] ↔ face.registry.sessions = [] :=
  List.map_eq_nil_iff

theorem keys_base (face : Face) : face.base.roll.keys = face.registry.sessions.keys :=
  Assoc.keys_map (fun session : Session.Face => (session.number, session.theme)) face.registry.sessions

theorem Step.firm {strict : Bool} {face next : Face} (firm : face.base.Firm) (step : Step strict face next) :
    next.base.Firm := by
  cases step with
  | still => exact firm
  | drafted named =>
    refine firm.draft fun id drafted => (named id drafted).imp_right fun live => ?_
    rwa [keys_base]
  | themed theme => simpa using firm.retheme theme
  | selected fitted other live => simpa using firm
  | hidden => simpa using firm.exhibit false nofun
  | revealed fitted peopled =>
    simpa using firm.exhibit true fun _ => mt roll_nil.mp peopled
  | emptied last =>
    rw [base_exhibit, base_closed]
    have hidden := firm.exhibit false nofun
    exact hidden.closed _ nofun
  | closed other left =>
    rw [base_closed]
    refine firm.closed _ fun _ => ?_
    rwa [← base_closed, ne_eq, roll_nil]
  | succeeded fitted active live =>
    rw [base_select, base_closed]
    refine firm.closed _ fun _ => ?_
    rw [← base_closed, ne_eq, roll_nil]
    intro nobody
    rw [nobody] at live
    cases live
  | made tag before free recalled => simpa using firm.enroll _
  | opened tag before free recalled =>
    rw [base_exhibit, base_welcome]
    exact (firm.enroll _).exhibit true fun _ empty => nomatch List.append_eq_nil_iff.mp empty |>.2
  | enrolled tag loose free => simpa using firm.enroll _
  | chosen loose live => exact firm
  | spotlit fitted loose => simpa using firm

@[simp] theorem active_spotlight (fitted : Bool) (face : Face) :
    (face.spotlight fitted).registry.active = face.registry.active := by
  unfold spotlight
  split <;> rfl

@[simp] theorem isOpen_spotlight (fitted : Bool) (face : Face) : (face.spotlight fitted).isOpen = face.isOpen := by
  unfold spotlight
  split <;> rfl

@[simp] theorem active_unfocus (face : Face) : face.unfocus.registry.active = face.registry.active := by
  unfold unfocus
  split <;> rfl

@[simp] theorem active_exhibit (visible : Bool) (face : Face) :
    (face.exhibit visible).registry.active = face.registry.active := rfl

theorem Step.occupied {strict : Bool} {face next : Face} (chosen : face.registry.active = none → face.base.roll = [])
    (step : Step strict face next) : next.registry.active = none → next.base.roll = [] := by
  cases step with
  | still => exact chosen
  | drafted named => exact chosen
  | themed theme =>
    intro nobody
    rw [base_themed, Base.retheme, chosen nobody]
    rfl
  | selected fitted other live => exact nofun
  | hidden => simpa using chosen
  | revealed fitted peopled => simpa using chosen
  | emptied last =>
    intro _
    rw [base_exhibit]
    exact roll_nil.mpr last
  | @closed id other left =>
    intro nobody
    have kept : (face.closed id).registry.active = face.registry.active := if_neg (mt beq_iff_eq.mp other)
    rw [base_closed, Base.closed, chosen (kept.symm.trans nobody)]
    rfl
  | succeeded fitted active live => exact nofun
  | made tag before free recalled => exact nofun
  | opened tag before free recalled => exact nofun
  | enrolled tag loose free => exact nofun
  | chosen loose live => exact nofun
  | spotlit fitted loose => simpa using chosen

end Face

/-- What holds of a panel between any two moves. -/
structure Proper (panel : Panel) : Prop where
  fitted : panel.isOpen = panel.fitting
  peopled : panel.isOpen = true → panel.registry.isEmpty = false
  chosen : panel.registry.active = none ↔ panel.registry.isEmpty = true
  drafted : ∀ edit, panel.editing = some edit → panel.registry.has edit.session = true
  themed : ∀ session ∈ panel.registry.sessions.values, session.surface.theme = panel.registry.factory.theme
  listed : ∃ sessions : List Session, sessions.Perm panel.registry.sessions.values ∧
    sessions.Pairwise (fun first second => first.number < second.number) ∧
    panel.tabs.map Tab.session = sessions.map Session.id
  distinct : (panel.tabs.map Tab.session).Nodup
  single : panel.registry.isEmpty = false → panel.tabs.countP Tab.active = 1

theorem roll_values (panel : Panel) : panel.face.base.roll.values =
    panel.registry.sessions.values.map fun session => (session.number, session.surface.theme) := by
  simp [Face.base, face, Registry.face, Assoc.values, Session.face, Function.comp_def]

theorem roll_isEmpty (panel : Panel) : panel.face.base.roll = [] ↔ panel.registry.isEmpty = true := by
  rw [Face.roll_nil, Registry.isEmpty, List.isEmpty_iff]
  exact List.map_eq_nil_iff

/-- The tabs stand in the order in which their sessions were made. -/
theorem tabs_sessions {panel : Panel} (valid : panel.registry.WellFormed)
    (ascending : panel.registry.numbers.Pairwise (· < ·)) :
    panel.tabs.map Tab.session = panel.registry.sessions.keys := by
  rw [tabs, Registry.ordered_of_ascending ascending, List.map_map, ← valid.ids]
  rfl

private theorem tabs_active {panel : Panel} (valid : panel.registry.WellFormed)
    (ascending : panel.registry.numbers.Pairwise (· < ·)) {id : String} (active : panel.registry.active = some id) :
    panel.tabs.countP Tab.active = 1 := by
  have live : id ∈ panel.registry.sessions.values.map Session.id := by
    rw [valid.ids]
    exact Assoc.has_iff_mem.mp (valid.chosen id active)
  have once : (panel.registry.sessions.values.map Session.id).Nodup := valid.ids ▸ valid.keys
  rw [← List.count_eq_one_of_mem once live, tabs, Registry.ordered_of_ascending ascending, List.countP_map, List.count,
    List.countP_map]
  refine List.countP_congr fun session _ => ?_
  change (panel.registry.active == some session.id) = true ↔ (session.id == id) = true
  rw [active, beq_iff_eq, beq_iff_eq, Option.some.injEq]
  exact eq_comm

theorem Proper.of_face {panel : Panel} (valid : panel.registry.WellFormed) (firm : panel.face.base.Firm)
    (chosen : panel.registry.active = none → panel.face.base.roll = []) : panel.Proper := by
  have ascending : panel.registry.numbers.Pairwise (· < ·) := by
    have numbers := firm.numbered.ascending
    rwa [roll_values, List.map_map] at numbers
  have sessions := tabs_sessions valid ascending
  have nobody : panel.registry.active = none ↔ panel.registry.isEmpty = true := by
    refine ⟨fun free => (roll_isEmpty panel).mp (chosen free), fun empty => ?_⟩
    by_contra some
    obtain ⟨id, active⟩ := Option.ne_none_iff_exists'.mp some
    have live := valid.chosen id active
    rw [Registry.has, List.isEmpty_iff.mp empty] at live
    cases live
  refine ⟨firm.fitted, fun shown => ?_, nobody, fun edit editing => ?_, fun session member => ?_, ?_, ?_, ?_⟩
  · rw [← Bool.not_eq_true, ← roll_isEmpty]
    exact firm.peopled shown
  · have drafted := firm.drafted edit.session (by simp [Face.base, face, editing])
    rw [Face.keys_base] at drafted
    exact has_face.mpr drafted
  · refine firm.themed (session.number, session.surface.theme) ?_
    rw [roll_values]
    exact List.mem_map_of_mem member
  · refine ⟨panel.registry.sessions.values, .refl _, List.pairwise_map.mp ascending, ?_⟩
    rw [sessions, valid.ids]
  · rw [sessions]
    exact valid.keys
  · intro peopled
    obtain ⟨id, active⟩ := Option.ne_none_iff_exists'.mp (mt nobody.mp (by simp [peopled]))
    exact tabs_active valid ascending active

theorem create_firm {config : PanelConfig} {scheme : String} {font : Font} {height : Json} {panel : Panel}
    (created : Panel.create config scheme font height = .ok panel) :
    panel.face.base.Firm ∧ panel.face.base.roll = [] := by
  simp only [create, bind, Except.bind] at created
  split at created
  · cases created
  · cases created
    exact ⟨.shut _ 0, rfl⟩

end Panel

namespace Dock
variable {β : Type} [SessionBackend β]

/-- Whatever is asked of a panel and its tabs, in whatever order and with whatever answers, it stays proper. -/
theorem run_proper {config : PanelConfig} {scheme : String} {font : Font} {height : Json} {panel : Panel}
    (created : Panel.create config scheme font height = .ok panel) (backend : β) (hook : Transport.FailureHook)
    {moves : List (Move β)} (allowed : ∀ move ∈ moves, move.only (Request.tabbed false) = true) :
    ((Dock.fresh panel backend hook).run moves).panel.Proper := by
  have start : (Dock.fresh panel backend hook).Valid (Request.tabbed false) :=
    valid_fresh (Panel.create_blank created) backend hook
  have kept : ∀ {face next : Panel.Face}, face.registry.sessions.keys.Nodup →
      face.base.Firm ∧ (face.registry.active = none → face.base.roll = []) → Panel.Face.Step false face next →
        next.base.Firm ∧ (next.registry.active = none → next.base.roll = []) :=
    fun _ both step => ⟨step.firm both.1, step.occupied both.2⟩
  obtain ⟨firm, empty⟩ := Panel.create_firm created
  obtain ⟨firm, occupied⟩ := run_faces kept start allowed nofun ⟨firm, fun _ => empty⟩
  exact .of_face (start.run allowed).registry firm occupied

/-- The backend keeps those who ask for a process waiting. The panel opens while another session is asked for; the tab
of the first one is renamed and closed before the second one arrives, and the panel is opened again. -/
def overlapping : List (Move PuppetBackend) :=
  [.ask (.adjust fun backend => { backend with hold := true }), .ask .openPanel, .ask (.add none), .answer 1, .turn,
    .ask (.beginRename "term-1"), .ask (.applyTheme "light"), .ask (.closeSession "term-1"), .answer 2, .turn, .turn,
    .ask .openPanel]

theorem run_proper_overlapping : ∃ panel, Panel.create {} "dark" (.measured "Menlo" 13) .null = .ok panel ∧
    ((Dock.fresh panel {} .log).run overlapping).panel.isOpen = true ∧
    ((Dock.fresh panel {} .log).run overlapping).panel.tabs.map Tab.session = ["term-2"] ∧
    ((Dock.fresh panel {} .log).run overlapping).panel.Proper := by
  have created : Panel.create {} "dark" (.measured "Menlo" 13) .null = .ok _ := rfl
  have allowed : ∀ move ∈ overlapping, move.only (Request.tabbed false) = true := by decide +kernel
  exact ⟨_, created, by decide +kernel, by decide +kernel, run_proper created ({} : PuppetBackend) .log allowed⟩

end Dock

end TerminalDock
