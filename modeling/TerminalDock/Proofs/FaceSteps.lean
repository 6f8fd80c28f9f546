import TerminalDock.Proofs.DockRuns
import TerminalDock.Proofs.PanelFaces

/-! What one move can do to the faces of the sessions. Whatever is asked for, whoever gets an answer, and whatever is
announced, it is one of a few steps. -/

namespace TerminalDock
open Proofs.Steps

/-- The requests that take sessions apart through their tabs only, and leave the surfaces to the panel. The strict ones
leave it to the tabs, too, which session is selected. -/
def Request.tabbed {β : Type} (strict : Bool) : Request β → Bool
  | .remove _ | .surface .. => false
  | .create _ | .setActive _ | .focusActive => !strict
  | _ => true

namespace Panel.Face

/-- A new session is brought to the front, and the one that was active before is put aside, if it is remembered. -/
def welcome (id : String) (tag : Nat × String) (before : Option String) (face : Face) : Face :=
  ((face.onRegistry (·.enroll id tag)).aside before).select id true

def Recalled (before : Option String) (face : Face) : Prop :=
  ∀ name session, face.registry.active = some name → (name, session) ∈ face.registry.sessions →
    session.focused = true ∨ session.visible = true → before = some name

inductive Step (strict : Bool) (face : Face) : Face → Prop
  | still : Step strict face face
  | drafted {draft : Option String}
      (named : ∀ id, draft = some id → draft = face.draft ∨ id ∈ face.registry.sessions.keys) :
      Step strict face { face with draft := draft }
  | themed (theme : Theme) : Step strict face (face.themed theme)
  | selected {id : String} (fitted : Bool) (other : face.registry.active ≠ some id)
      (live : id ∈ face.registry.sessions.keys) :
      Step strict face ((face.aside face.registry.active).select id fitted)
  | hidden : Step strict face (face.unfocus.exhibit false)
  | revealed (fitted : Bool) (peopled : face.registry.sessions ≠ []) :
    Step strict face ((face.exhibit true).spotlight fitted)
  | emptied {id : String} (last : (face.closed id).registry.sessions = []) :
    Step strict face ((face.closed id).exhibit false)
  | closed {id : String} (other : face.registry.active ≠ some id) (left : (face.closed id).registry.sessions ≠ []) :
    Step strict face (face.closed id)
  | succeeded {id successor : String} (fitted : Bool) (active : face.registry.active = some id)
      (live : successor ∈ (face.closed id).registry.sessions.keys) :
      Step strict face ((face.closed id).select successor fitted)
  | made {id : String} (tag : Nat × String) (before : Option String) (free : id ∉ face.registry.sessions.keys)
      (recalled : strict = true → face.Recalled before) : Step strict face (face.welcome id tag before)
  | opened {id : String} (tag : Nat × String) (before : Option String) (free : id ∉ face.registry.sessions.keys)
      (recalled : strict = true → face.Recalled before) : Step strict face ((face.welcome id tag before).exhibit true)
  /-- A session is made for nobody in particular. -/
  | enrolled {id : String} (tag : Nat × String) (loose : strict = false) (free : id ∉ face.registry.sessions.keys) :
    Step strict face (face.onRegistry (·.enroll id tag))
  /-- A session is made the active one behind the back of the tabs. -/
  | chosen {id : String} (loose : strict = false) (live : id ∈ face.registry.sessions.keys) :
    Step strict face (face.onRegistry fun registry => { registry with active := some id })
  | spotlit (fitted : Bool) (loose : strict = false) : Step strict face (face.spotlight fitted)

end Panel.Face

namespace Panel
open Face (Step)

variable {strict : Bool} {panel : Panel}

@[simp] theorem drained_face (panel : Panel) : panel.drained.face = panel.face := rfl

theorem has_face {id : String} : panel.registry.has id = true ↔ id ∈ panel.face.registry.sessions.keys := by
  rw [show panel.face.registry = panel.registry.face from rfl, Registry.keys_face]
  exact Assoc.has_iff_mem

theorem keys_unique (valid : panel.registry.WellFormed) : panel.face.registry.sessions.keys.Nodup := by
  rw [show panel.face.registry = panel.registry.face from rfl, Registry.keys_face]
  exact valid.keys

private theorem closeTab_step (valid : panel.registry.WellFormed) (id : String) :
    Step strict panel.face (after (closeTab id {}) panel).face := by
  have ends := closeTab_ends valid id
  generalize (after (closeTab id {}) panel).face = face at ends
  cases ends with
  | absent nobody =>
    refine .drafted fun name named => .inl ?_
    split at named
    · cases named
    · exact if_neg ‹_›
  | emptied last => exact .emptied last
  | closed other left => exact .closed other left
  | succeeded fitted active live => exact .succeeded fitted active live

private theorem drafts_step {who : Option String} {next : Panel} (drafts : Drafts who panel next)
    (valid : panel.registry.WellFormed) (live : ∀ id, who = some id → panel.registry.has id = true) :
    Step strict panel.face next.face := by
  obtain ⟨draft, either, same⟩ := drafts valid
  have registry : next.registry.face = panel.registry.face :=
    Registry.face_of_stance (congrArg Stance.registry same)
  have faces : next.face = { panel.face with draft := draft } :=
    Face.ext registry (congrArg Stance.isOpen same) (congrArg Stance.fitting same) (congrArg Stance.draft same)
  rw [faces]
  refine .drafted fun id named => ?_
  rcases either with none | old | new
  · rw [none] at named
    cases named
  · exact .inl old
  · exact .inr (has_face.mp (live id (new ▸ named)))

private theorem perform_step {β : Type} {request : Request β} {act : PanelStep Answer}
    (allowed : request.tabbed strict = true) (found : perform? request = some act)
    (valid : panel.registry.WellFormed) : Step strict panel.face (after act panel).face := by
  have answering {α : Type} {step : PanelStep α} (answer : α → Answer)
      (moved : Step strict panel.face (after step panel).face) :
      Step strict panel.face (after (do return answer (← step)) panel).face := by
    rwa [after_bind_view Panel.face fun _ _ => rfl]
  cases gentle : mildly request with
  | true => exact face_of_stance (perform_mild found gentle panel valid) ▸ .still
  | false =>
    cases request with
    | hide =>
      cases found
      cases shown : panel.isOpen with
      | true => exact hide_face valid shown ▸ .hidden
      | false =>
        have stays : panel.hide = panel := by rw [hide, if_neg (by simp [shown])]
        exact (congrArg face stays).symm ▸ .still
    | closeSession id => cases found; exact answering _ (closeTab_step valid id)
    | applyTheme scheme => cases found; exact applyTheme_face valid scheme ▸ .themed _
    | click id =>
      cases found
      refine answering _ ?_
      rcases click_face valid id with same | ⟨other, ⟨session, live⟩, fitted, faces⟩
      · exact same ▸ .still
      · exact faces ▸ .selected fitted other (has_face.mp (Assoc.has_iff.mpr ⟨session, live⟩))
    | focusActive =>
      cases found
      exact answering _ (focusActive_face valid ▸ .spotlit _ (Bool.not_eq_true' _ ▸ allowed))
    | setActive id =>
      cases found
      refine answering _ ?_
      rw [after_onRegistry]
      cases live : panel.registry.session? id with
      | none =>
        rw [Registry.setActive, after_get_bind, live]
        exact .still
      | some session =>
        rw [after, Registry.setActive_live live]
        exact .chosen (Bool.not_eq_true' _ ▸ allowed) (has_face.mp (Assoc.has_iff.mpr ⟨session, live⟩))
    | markExited id =>
      cases found
      have marked : Face.mk (panel.registry.markExited id).2.face panel.isOpen panel.fitting panel.face.draft =
          panel.face := Face.ext (Registry.markExited_still panel.registry id valid).2 rfl rfl rfl
      exact marked ▸ .still
    | emit event payload =>
      cases found
      exact tellAll_face valid event payload _ ▸ .still
    | beginRename _ | keyRename _ | blurRename | cancelRename =>
      obtain ⟨who, live, drafts⟩ := perform_drafts found rfl panel
      exact drafts_step drafts valid live
    | remove _ | surface _ _ => cases allowed
    | _ => cases gentle

end Panel

/-- Whoever wants a tab remembers the active session, unless that is neither focused nor shown. -/
def Purpose.Recalls (registry : Registry) : Purpose → Prop
  | .create => True
  | .addTab previous | .addSession previous | .openPanel previous =>
    ∀ session, registry.activeSession? = some session → session.surface.focused = true ∨ session.view.visible = true →
      previous.map Session.serial = some session.serial

instance (registry : Registry) (purpose : Purpose) : Decidable (purpose.Recalls registry) :=
  match purpose with
  | .create => .isTrue trivial
  | .addTab previous | .addSession previous | .openPanel previous =>
    inferInstanceAs (Decidable (∀ session, registry.activeSession? = some session →
      session.surface.focused = true ∨ session.view.visible = true →
        previous.map Session.serial = some session.serial))

theorem Purpose.Fresh.recalls {β : Type} {simple : Request β → Bool} {registry : Registry} {purpose : Purpose}
    (fresh : purpose.Fresh simple registry) : purpose.Recalls registry := by
  cases purpose with
  | create => trivial
  | addTab previous | addSession previous | openPanel previous =>
    intro session active _
    rw [show previous = some session from fresh.trans active]
    rfl

namespace Panel
open Face (Step)

variable {strict : Bool} {panel : Panel}

private theorem free_face {id : String} (free : panel.registry.session? id = none) :
    id ∉ panel.face.registry.sessions.keys := by
  rw [← has_face, Registry.has, Assoc.has_iff]
  rintro ⟨other, live⟩
  cases free.symm.trans live

private theorem recalled_face (valid : panel.registry.WellFormed) {previous : Option Session} {before : Option String}
    (tracked : ∀ name current, panel.registry.session? name = some current →
      previous.map Session.serial = some current.serial → before = some name)
    (remembers : ∀ session, panel.registry.activeSession? = some session →
      session.surface.focused = true ∨ session.view.visible = true →
        previous.map Session.serial = some session.serial) : panel.face.Recalled before := by
  intro name face active member front
  obtain ⟨current, there, live⟩ := valid.active_live active
  have same : face = current.face :=
    Option.some.inj ((Assoc.find?_of_mem (keys_unique valid) member).symm.trans (live_face live))
  rw [same] at front
  exact tracked name current live (remembers current there front)

private theorem welcome_face {cwd id : String} {session : Session} {final : Registry} {previous : Option Session}
    (valid : panel.registry.WellFormed) (free : panel.registry.session? id = none)
    (wired : Registry.Wiring cwd id panel.registry (.ok session final))
    (known : ∀ old, previous = some old → panel.registry.Knows old) {registered : Panel}
    (start : registered = { panel with registry := Registry.register cwd session final }.drained) :
    (registered.settleTab previous session).registry.WellFormed ∧
      ∃ before, (registered.settleTab previous session).face = panel.face.welcome id session.tag before ∧
        ∀ name current, panel.registry.session? name = some current →
          previous.map Session.serial = some current.serial → before = some name := by
  have named : session.id = id := by cases wired; rfl
  obtain ⟨sound, grown⟩ := Registry.register_sound free wired valid
  have faces : registered.face = panel.face.onRegistry (·.enroll id session.tag) := by
    rw [start]
    exact Face.ext (Registry.register_face free wired) rfl rfl rfl
  have lookup (name : String) : registered.registry.session? name =
      if name = id then some session else panel.registry.session? name := by
    have kept : final.session? name = panel.registry.session? name := by cases wired; rfl
    rw [start, ← kept, ← named]
    exact Registry.session?_register cwd session final name
  have live : registered.registry.session? id = some session := (lookup id).trans (if_pos rfl)
  have sane : registered.registry.WellFormed := by
    rw [start]
    exact sound.of_stance rfl
  have active : registered.registry.active = some id := by
    rw [start]
    exact congrArg some named
  have knows (old : Session) (remembered : previous = some old) (name : String) (current : Session)
      (there : registered.registry.session? name = some current) (same : current.serial = old.serial) :
      current.id = old.id := by
    have member := Registry.everyone_of_live there
    rw [start] at member
    exact ((known old remembered).grow grown).2 current member same
  obtain ⟨before, settled, recalls⟩ := settleTab_face sane live active knows
  refine ⟨(Quiet.rules.settleTab previous session registered sane).1, before, ?_, fun name current there same => ?_⟩
  · rw [settled, faces, Face.welcome]
  · have other : name ≠ id := by
      intro here
      rw [here, free] at there
      cases there
    exact recalls name current ((lookup name).trans ((if_neg other).trans there)) other same

private theorem landed_step {β : Type} {cwd : String} {spawned : Except Failure String} {faults : String → WiringFaults}
    {purpose : Purpose} (valid : panel.registry.WellFormed)
    (known : purpose.Known (Request.tabbed strict : Request β → Bool) panel.registry)
    (recalls : strict = true → purpose.Recalls panel.registry) :
    Step strict panel.face (panel.landed cwd spawned faults purpose).face := by
  have ends := Registry.create_ends cwd spawned faults panel.registry
  unfold landed
  generalize Registry.create cwd spawned faults panel.registry = result at ends
  cases ends with
  | refused answered record => exact .still
  | taken answered live reason => exact .still
  | @spoiled id failure final answered free failed wired =>
    have same : Face.mk final.face panel.isOpen panel.fitting panel.face.draft = panel.face :=
      Face.ext (Registry.wiring_still wired valid).2 rfl rfl rfl
    exact same ▸ .still
  | @made id session final answered free built wired =>
    have absent := free_face free
    obtain ⟨registered, start⟩ : ∃ registered : Panel,
        registered = { panel with registry := Registry.register cwd session final }.drained := ⟨_, rfl⟩
    change Step strict panel.face (purpose.finish session
      { panel with registry := Registry.register cwd session final }.drained).face
    rw [← start]
    cases purpose with
    | create =>
      obtain ⟨_, loose⟩ := known
      have faces : registered.face = panel.face.onRegistry (·.enroll id session.tag) := by
        rw [start]
        exact Face.ext (Registry.register_face free wired) rfl rfl rfl
      exact faces ▸ .enrolled _ (Bool.not_eq_true' _ ▸ loose) absent
    | addTab previous | addSession previous =>
      obtain ⟨_, before, faces, tracked⟩ := welcome_face valid free wired known start
      exact faces ▸ .made _ before absent fun strictly => recalled_face valid tracked (recalls strictly)
    | openPanel previous =>
      obtain ⟨sound, before, faces, tracked⟩ := welcome_face valid free wired known start
      have shown := revealFirst_face (drained_quiet _ sound).1
      rw [Purpose.finish, drained_face, shown, drained_face, faces]
      exact .opened _ before absent fun strictly => recalled_face valid tracked (recalls strictly)

end Panel

namespace Stroke
open Panel.Face (Step)
variable {β : Type} [SessionBackend β] {strict : Bool} {landing : Option (String × Purpose)}
variable {panel next : Panel} {backend other : β}

theorem step (stroke : Stroke (Request.tabbed strict) landing panel backend next other)
    (valid : panel.registry.WellFormed) (recalls : strict = true → ∀ cwd purpose, landing = some (cwd, purpose) →
      purpose.Recalls panel.registry) : Step strict panel.face next.face := by
  cases stroke with
  | rest | ask _ | call _ | adjust _ | sweep => exact .still
  | perform allowed found => exact Panel.perform_step allowed found valid
  | hide =>
    have found : Panel.perform? (.hide : Request β) = some (Panel.quietly Panel.hide) := rfl
    exact Panel.perform_step rfl found valid
  | reveal peopled =>
    have revealed : (after Panel.reveal panel).drained.face = _ := Panel.reveal_face valid
    refine revealed ▸ .revealed _ fun nobody => ?_
    have empty : panel.registry.sessions = [] := List.map_eq_nil_iff.mp nobody
    rw [Registry.isEmpty, empty] at peopled
    cases peopled
  | land waited known =>
    exact Panel.landed_step valid known fun strictly => recalls strictly _ _ waited
  | landAtOnce free fresh =>
    exact Panel.landed_step valid (fresh.known valid) fun _ => fresh.recalls

end Stroke

def Move.isTurn {β : Type} : Move β → Bool
  | .turn => true
  | _ => false

namespace Dock
open Panel.Face (Step)
variable {β : Type} [SessionBackend β] {strict : Bool} {dock : Dock β}

/-- Whoever goes on with a process remembers the session that is active now, unless that is neither focused nor
shown. -/
def Timely (dock : Dock β) : Prop :=
  ∀ landing, dock.landing? = some landing → landing.2.Recalls dock.panel.registry

instance (dock : Dock β) : Decidable dock.Timely :=
  inferInstanceAs (Decidable (∀ landing, dock.landing? = some landing → landing.2.Recalls dock.panel.registry))

/-- In every turn that is served, whoever goes on with a process remembers the session that is active then. -/
def Punctual (dock : Dock β) : List (Move β) → Prop
  | [] => True
  | move :: rest => (move.isTurn = true → dock.Timely) ∧ Punctual (dock.move move) rest

instance decidablePunctual (dock : Dock β) : (moves : List (Move β)) → Decidable (dock.Punctual moves)
  | [] => .isTrue trivial
  | move :: rest =>
    have := decidablePunctual (dock.move move) rest
    inferInstanceAs (Decidable ((move.isTurn = true → dock.Timely) ∧ Punctual (dock.move move) rest))

theorem move_step {move : Move β} (valid : dock.Valid (Request.tabbed strict))
    (allowed : move.only (Request.tabbed strict) = true)
    (timely : strict = true → move.isTurn = true → dock.Timely) :
    Step strict dock.panel.face (dock.move move).panel.face := by
  cases move with
  | ask request =>
    have strikes : Strikes (Request.tabbed strict) none dock (dock.move (.ask request)) := ask_strikes dock allowed
    obtain ⟨panel, backend, stroke, yields⟩ := strikes
    rw [yields.panel]
    exact stroke.step valid.registry fun _ _ _ waited => nomatch waited
  | turn =>
    obtain ⟨panel, backend, stroke, yields⟩ := turn_strikes dock valid.licensed
    rw [show (dock.move .turn).panel = panel from yields.panel]
    exact stroke.step valid.registry fun strictly cwd purpose waited => timely strictly rfl (cwd, purpose) waited
  | answer task =>
    have calm : Calm (fun _ => False) dock (dock.move (.answer task)) := answer_calm dock task
    rw [calm.panel]
    exact .still
  | announce event payload =>
    have yields : Yields (fun _ => False) dock (dock.panel.emit event payload).2.drained dock.backend
        (dock.move (.announce event payload)) := announce_yields dock event payload
    rw [yields.panel]
    have same : (dock.panel.emit event payload).2.drained.face = dock.panel.face :=
      Panel.tellAll_face valid.registry event payload _
    exact same ▸ .still

/-- What every step preserves holds after every run. -/
theorem run_faces {invariant : Panel.Face → Prop} (step : ∀ {face next : Panel.Face},
      face.registry.sessions.keys.Nodup → invariant face → Step strict face next → invariant next) {moves : List (Move β)}
    (valid : dock.Valid (Request.tabbed strict)) (allowed : ∀ move ∈ moves, move.only (Request.tabbed strict) = true)
    (punctual : strict = true → dock.Punctual moves)
    (start : invariant dock.panel.face) : invariant (dock.run moves).panel.face := by
  induction moves generalizing dock with
  | nil => exact start
  | cons first rest ih =>
    have now := allowed first (List.mem_cons_self ..)
    refine ih (valid.move now) (fun move member => allowed move (List.mem_cons_of_mem _ member)) ?_ ?_
    · exact fun strictly => (punctual strictly).2
    · exact step (Panel.keys_unique valid.registry) start (move_step valid now fun strictly => (punctual strictly).1)

end Dock

end TerminalDock
