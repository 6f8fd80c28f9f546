import TerminalDock.Proofs.DockRuns
import TerminalDock.Proofs.Telling

/-! What is written to a session is what it was told, in order, from its creation to its removal. The end of
its process is marked where it was told of it first. No other session and no operation has a part in it. -/

namespace TerminalDock
open Proofs.Steps

/-- What a session is told. -/
inductive Tiding
  | output (payload : Event.Payload)
  | ended
  deriving DecidableEq, Repr

namespace Tiding

def of (id event : String) (payload : Event.Payload) : List Tiding :=
  if event = Event.outputOf id then [.output payload]
  else if event = Event.exitOf id then [.ended]
  else []

def endedIn (tidings : List Tiding) : Bool :=
  tidings.contains .ended

/-- What has to be written for tidings, if the end was marked before or not: malformed output is left out, and
the end is marked once. -/
def transcript (marked : Bool) : List Tiding → List (List UInt8)
  | [] => []
  | .output payload :: rest => Event.chunks payload ++ transcript marked rest
  | .ended :: rest => (if marked then [] else [Registry.exitMarker]) ++ transcript true rest

theorem transcript_append (marked : Bool) (first second : List Tiding) :
    transcript marked (first ++ second) = transcript marked first ++ transcript (marked || endedIn first) second := by
  induction first generalizing marked with
  | nil => simp [transcript, endedIn]
  | cons tiding rest ih =>
    cases tiding with
    | output payload => simp [transcript, ih, endedIn]
    | ended => simp [transcript, ih, endedIn]

theorem transcript_prefix (marked : Bool) {first second : List Tiding} (beginning : first <+: second) :
    transcript marked first <+: transcript marked second := by
  obtain ⟨rest, rfl⟩ := beginning
  rw [transcript_append]
  exact List.prefix_append _ _

private theorem endedIn_append (first second : List Tiding) :
    endedIn (first ++ second) = (endedIn first || endedIn second) := by
  simp [endedIn]

end Tiding

namespace Registry

def tidings (registry : Registry) (serial : Nat) (event : String) (payload : Event.Payload) : List Tiding :=
  match registry.sessions.values.find? (·.serial == serial) with
  | none => []
  | some session => Tiding.of session.id event payload

/-- Every session was written what it was told. `told` is what each was told so far, by serial number, and the
sessions that `registered` were not forgotten. -/
structure Faithful (registry : Registry) (registered : Nat × String → Prop) (told : Nat → List Tiding) : Prop where
  wired : registry.Wired
  kept : ∀ tag, registered tag → registry.Holds tag
  live : ∀ id session, registry.session? id = some session → session.account =
    (session.tag, Tiding.endedIn (told session.serial), Tiding.transcript false (told session.serial))
  gone : ∀ session ∈ registry.retired, registry.Deaf session.serial →
    session.surface.written = Tiding.transcript false (told session.serial)
  unborn : ∀ serial, registry.serial ≤ serial → told serial = []

namespace Faithful
variable {first last : Registry} {registered : Nat × String → Prop} {told : Nat → List Tiding}

theorem of_hearing (faithful : first.Faithful registered told) (valid : last.WellFormed)
    (same : last.hearing = first.hearing) :
    last.Faithful registered told := by
  have accounts : last.seen Session.account = first.seen Session.account := congrArg Hearing.sessions same
  have bus : last.bus = first.bus := congrArg Hearing.bus same
  have serial : last.serial = first.serial := congrArg Hearing.serial same
  have tags : last.seen Session.tag = first.seen Session.tag := seen_comp Prod.fst accounts
  refine ⟨faithful.wired.of_live valid (session?_seen tags) serial bus,
    fun tag known => (faithful.kept tag known).of_seen tags bus,
    ?_, ?_, ?_⟩
  · intro id session live
    obtain ⟨old, before, alike⟩ := live_of_seen accounts live
    have tag : old.tag = session.tag := congrArg Prod.fst alike
    rw [← alike, faithful.live id old before, tag, show old.serial = session.serial from congrArg Prod.fst tag]
  · intro session member deaf
    obtain ⟨old, before, alike⟩ := retired_of_seen accounts member
    have number : old.serial = session.serial := congrArg (·.1.1) alike
    rw [← number, ← show old.surface.written = session.surface.written from congrArg (·.2.2) alike]
    refine faithful.gone old before ⟨fun event => ?_, fun event => ?_⟩
    · rw [number, ← hears_of_bus bus]; exact deaf.output event
    · rw [number, ← hears_of_bus bus]; exact deaf.exit event
  · rw [serial]
    exact faithful.unborn

theorem holding (faithful : first.Faithful registered told) {id : String} {session : Session}
    (live : first.session? id = some session) : first.Faithful (· = session.tag) told := by
  refine { faithful with kept := fun tag same => .inl ⟨session, ?_, same.symm⟩ }
  rw [same, show session.tag.2 = id from faithful.wired.valid.named id session live]
  exact live

theorem apart (faithful : first.Faithful registered told) {id : String} {session : Session}
    (live : first.session? id = some session) : (first.apart id session).Faithful registered told := by
  have valid := faithful.wired.valid
  refine ⟨wired_apart faithful.wired live, fun tag known => (faithful.kept tag known).apart faithful.wired live,
    ?_, ?_, faithful.unborn⟩
  · intro name other found
    rw [session?_apart valid live] at found
    split at found
    · cases found
    · exact faithful.live name other found
  · intro other member deaf
    obtain ⟨gone, retired, account⟩ := retired_apart valid live
    rw [retired] at member
    rcases List.mem_cons.mp member with rfl | older
    · have number : other.serial = session.serial := congrArg (·.1.1) account
      rw [show other.surface.written = session.surface.written from congrArg (·.2.2) account, number]
      exact congrArg (·.2.2) (faithful.live id session live)
    · exact faithful.gone other older (Deaf.of_apart valid (valid.gone_of_retired live older) deaf)

section Creation
variable {cwd id : String} {failure : Failure} {session : Session}

theorem abandoned (faithful : first.Faithful registered told) (failed : Wiring cwd id first (.error failure last)) :
    last.Faithful registered told := by
  have valid := faithful.wired.valid
  have kept {other : Session} (member : other ∈ first.retired) (deaf : last.Deaf other.serial) :
      first.Deaf other.serial := by
    have older := valid.fresh other (List.mem_append_right _ member)
    refine ⟨fun event => ?_, fun event => ?_⟩
    · rw [← hears_abandoned valid failed (by simp; omega)]; exact deaf.output event
    · rw [← hears_abandoned valid failed (by simp)]; exact deaf.exit event
  refine ⟨wired_abandoned faithful.wired failed, fun tag known => (faithful.kept tag known).abandoned valid failed,
    ?_, ?_, ?_⟩
  · intro name other live
    rw [session?, sessions_abandoned failed] at live
    exact faithful.live name other live
  · intro other member deaf
    rcases retired_abandoned failed with ⟨retired, _, _⟩ | ⟨gone, retired, account, _⟩
    · rw [retired] at member
      exact faithful.gone other member (kept member deaf)
    · rw [retired] at member
      rcases List.mem_cons.mp member with rfl | older
      · have number : other.serial = first.serial := congrArg (·.1.1) account
        rw [show other.surface.written = [] from congrArg (·.2.2) account, number, faithful.unborn _ (Nat.le_refl _)]
        rfl
      · exact faithful.gone other older (kept older deaf)
  · intro serial later
    exact faithful.unborn serial (Nat.le_trans (wiring_sound failed valid).2.serial later)

theorem enrolled (faithful : first.Faithful registered told) (free : first.session? id = none)
    (made : Wiring cwd id first (.ok session last)) : (register cwd session last).Faithful registered told := by
  have valid := faithful.wired.valid
  obtain ⟨_, account, retired, number, sessions⟩ := account_register made
  refine ⟨wired_register faithful.wired free made,
    fun tag known => (faithful.kept tag known).register valid free made, ?_, ?_, ?_⟩
  · intro name other live
    rw [sessions] at live
    split at live
    · cases live
      have serial : session.serial = first.serial := congrArg (·.1.1) account
      rw [serial, faithful.unborn _ (Nat.le_refl _), account, show session.tag = _ from congrArg Prod.fst account]
      rfl
    · exact faithful.live name other live
  · intro other member deaf
    rw [retired] at member
    have older : other.serial ≠ first.serial := Nat.ne_of_lt (valid.fresh other (List.mem_append_right _ member))
    refine faithful.gone other member ⟨fun event => ?_, fun event => ?_⟩
    · have silent := deaf.output event
      simpa [hears_register made, older] using silent
    · have silent := deaf.exit event
      simpa [hears_register made, older] using silent
  · intro serial later
    rw [number] at later
    exact faithful.unborn serial (by omega)

end Creation

end Faithful

section Events
variable {registry : Registry} {event : String} {payload : Event.Payload}

theorem tidings_live (valid : registry.WellFormed) {id : String} {session : Session}
    (live : registry.session? id = some session) :
    registry.tidings session.serial event payload = Tiding.of id event payload := by
  have named := valid.named id session live
  simp only [tidings, valid.find?_of_live live, named]

theorem tidings_gone (valid : registry.WellFormed) {session : Session} (member : session ∈ registry.retired) :
    registry.tidings session.serial event payload = [] := by
  unfold tidings
  split
  · rfl
  next other found =>
    have inside := List.mem_of_find?_eq_some found
    have same := List.find?_some found
    exact absurd (beq_iff_eq.mp same).symm (valid.gone_of_retired (valid.live_of_mem inside) member)

private theorem impressed_live (wired : registry.Wired) {id : String} {session : Session}
    (live : registry.session? id = some session) :
    impressed payload (registry.bus.handlers event) session.account =
      (session.tag, session.exited || Tiding.endedIn (registry.tidings session.serial event payload),
        session.surface.written ++
          Tiding.transcript session.exited (registry.tidings session.serial event payload)) := by
  have listens := wired.live id session live
  have output := listens.output event
  have exit := listens.exit event
  rw [tidings_live wired.valid live]
  unfold Tiding.of
  split
  next spoken =>
    subst spoken
    rw [if_pos rfl] at output
    rw [if_neg (Event.outputOf_ne_exitOf id id)] at exit
    have endless : .exit session.account.1.1 ∉ registry.bus.handlers (Event.outputOf id) := List.count_eq_zero.mp exit
    rw [impressed_once output (fun other => absurd rfl other) fun _ => endless]
    simp [impress, Session.account, Session.tag, Tiding.endedIn, Tiding.transcript]
  next elsewhere =>
    split
    next ended =>
      subst ended
      rw [if_neg elsewhere] at output
      rw [if_pos rfl] at exit
      have wordless : .output session.account.1.1 ∉ registry.bus.handlers (Event.exitOf id) :=
        List.count_eq_zero.mp output
      rw [impressed_once exit (fun _ => wordless) fun other => absurd rfl other]
      cases marked : session.exited <;>
        simp [impress, Session.account, Session.tag, Tiding.endedIn, Tiding.transcript, marked]
    next other =>
      rw [if_neg elsewhere] at output
      rw [if_neg other] at exit
      have wordless : .output session.account.1.1 ∉ registry.bus.handlers event := List.count_eq_zero.mp output
      have endless : .exit session.account.1.1 ∉ registry.bus.handlers event := List.count_eq_zero.mp exit
      rw [impressed_deaf wordless endless]
      simp [Session.account, Tiding.endedIn, Tiding.transcript]

theorem impressed_gone {session : Session} (deaf : registry.Deaf session.serial) :
    impressed payload (registry.bus.handlers event) session.account = session.account := by
  have wordless : .output session.account.1.1 ∉ registry.bus.handlers event :=
    List.count_eq_zero.mp (deaf.output event)
  have endless : .exit session.account.1.1 ∉ registry.bus.handlers event := List.count_eq_zero.mp (deaf.exit event)
  exact impressed_deaf wordless endless

end Events

end Registry

namespace Panel

/-- A step in which no session is told of anything. -/
def Silent (first last : Panel) : Prop :=
  ∀ registered told, first.registry.Faithful registered told → last.registry.Faithful registered told

theorem silent_lenient : Lenient Silent where
  trans before later registered told faithful := later registered told (before registered told faithful)
  quiet quiet registered told faithful := by
    obtain ⟨valid, same⟩ := quiet faithful.wired.valid
    exact faithful.of_hearing valid same

theorem remove_silent (id : String) : Moves Silent (onRegistry (Registry.remove id {})) := by
  intro panel registered told faithful
  rw [after_onRegistry]
  rcases Registry.after_remove id panel.registry with ⟨-, same⟩ | ⟨session, record, found, removed⟩
  · rw [same]
    exact faithful
  · rw [removed]
    have apart := faithful.apart found
    exact apart.of_hearing (apart.wired.valid.of_stance rfl) rfl

theorem create_silent (cwd : String) (spawned : Except Failure String) (faults : String → WiringFaults)
    (panel : Panel) :
    Silent panel { panel with registry := after (Registry.create cwd spawned faults) panel.registry } := by
  intro registered told faithful
  have ends := Registry.create_ends cwd spawned faults panel.registry
  unfold after
  generalize Registry.create cwd spawned faults panel.registry = result at ends
  cases ends with
  | refused answered record => exact faithful.of_hearing (faithful.wired.valid.of_stance rfl) rfl
  | taken answered live reason => exact faithful
  | spoiled answered free failed wired => exact faithful.abandoned wired
  | made answered free built wired => exact faithful.enrolled free wired

section Emission
variable {panel : Panel} (event : String) (payload : Event.Payload)

theorem emit_account (wired : panel.registry.Wired) :
    (panel.emit event payload).2.registry.seen Session.account =
      panel.registry.seen fun other =>
        Registry.impressed payload (panel.registry.bus.handlers event) other.account := by
  have ending : ∀ serial, .exit serial ∈ panel.registry.bus.handlers event →
      ∃ id session, panel.registry.session? id = some session ∧ session.serial = serial :=
    fun serial member => wired.ending event serial (Nat.ne_of_gt (List.count_pos_iff.mpr member))
  exact tellAll_account wired.valid ending

theorem emit_tags (wired : panel.registry.Wired) :
    (panel.emit event payload).2.registry.seen Session.tag = panel.registry.seen Session.tag := by
  refine (Registry.seen_comp Prod.fst (emit_account event payload wired)).trans (Registry.seen_congr fun other _ => ?_)
  exact Registry.tag_impressed payload _ other.account

/-- An event tells each live session what it has to tell it, and nobody else anything. -/
theorem emit_faithful {registered : Nat × String → Prop} {told : Nat → List Tiding}
    (faithful : panel.registry.Faithful registered told) :
    (panel.emit event payload).2.registry.Faithful registered
      fun serial => told serial ++ panel.registry.tidings serial event payload := by
  have valid := faithful.wired.valid
  have heard := emit_account event payload faithful.wired
  have tags := emit_tags event payload faithful.wired
  have sound := (tellAll_sound event payload (panel.registry.bus.handlers event) panel valid).1
  obtain ⟨bus, number⟩ : Registry.Framed panel.registry (panel.emit event payload).2.registry :=
    tellAll_framed event payload (panel.registry.bus.handlers event) panel
  refine ⟨faithful.wired.of_live sound (Registry.session?_seen tags) number bus,
    fun tag known => (faithful.kept tag known).of_seen tags bus,
    ?_, ?_, ?_⟩
  · intro id session live
    obtain ⟨old, before, alike⟩ := Registry.live_of_seen heard live
    have tag : session.tag = old.tag := (congrArg Prod.fst alike).symm.trans (Registry.tag_impressed payload _ _)
    have account := faithful.live id old before
    rw [← alike, Registry.impressed_live faithful.wired before, tag, show session.serial =
      old.serial from congrArg Prod.fst tag,
      show old.exited = _ from congrArg (·.2.1) account, show old.surface.written = _ from congrArg (·.2.2) account,
      Tiding.endedIn_append, Tiding.transcript_append, Bool.false_or]
  · intro session member deaf
    obtain ⟨old, before, alike⟩ := Registry.retired_of_seen heard member
    have number : session.serial = old.serial :=
      congrArg Prod.fst ((congrArg Prod.fst alike).symm.trans (Registry.tag_impressed payload _ _))
    have quiet : panel.registry.Deaf old.serial := by
      rw [number] at deaf
      refine ⟨fun event => ?_, fun event => ?_⟩
      · rw [← Registry.hears_of_bus bus]; exact deaf.output event
      · rw [← Registry.hears_of_bus bus]; exact deaf.exit event
    rw [Registry.impressed_gone quiet] at alike
    rw [number, Registry.tidings_gone valid before, List.append_nil,
      ← show old.surface.written = session.surface.written from congrArg (·.2.2) alike]
    exact faithful.gone old before quiet
  · intro serial later
    rw [number] at later
    rw [faithful.unborn serial later, List.nil_append]
    unfold Registry.tidings
    split
    · rfl
    next session found =>
      have member : session ∈ panel.registry.everyone := List.mem_append_left _ (List.mem_of_find?_eq_some found)
      have older := valid.fresh session member
      have same := List.find?_some found
      rw [beq_iff_eq] at same
      omega

end Emission

namespace Blank
variable {panel : Panel}

theorem nobody (blank : panel.Blank) (id : String) : panel.registry.session? id = none := by
  rw [Registry.session?, blank.sessions]
  rfl

theorem unheard (blank : panel.Blank) (event : String) (who : Subscriber) : panel.registry.hears event who = 0 := by
  rw [Registry.hears, Event.Bus.handlers, blank.bus]
  rfl

theorem wired (blank : panel.Blank) : panel.registry.Wired where
  valid := blank.wellFormed
  live id _ live := absurd ((blank.nobody id).symm.trans live) (by simp)
  ending event _ told := absurd (blank.unheard event _) told
  old event _ told := absurd (blank.unheard event _) told

end Blank

end Panel

/-- The operations of a panel. What a test may do besides, to announce an event, to type into a surface and to
mark an end, is left to the backend. -/
def Request.ordinary {β : Type} : Request β → Bool
  | .emit .. | .surface .. | .markExited _ => false
  | _ => true

theorem Request.ordinary_moves {β : Type} {relation : Panel → Panel → Prop} (lenient : Panel.Lenient relation)
    (removes : ∀ id, Moves relation (Panel.onRegistry (Registry.remove id {}))) {request : Request β}
    {act : PanelStep Answer} (allowed : request.ordinary = true) (found : Panel.perform? request = some act)
    (loud : Panel.quietly? request = false) : Moves relation act := by
  cases request with
  | closeSession id => cases found; exact lenient.rules.answer (lenient.closeTab (removes id)) _
  | remove id => cases found; exact lenient.rules.answer (removes id) _
  | markExited _ | emit _ _ | surface _ _ => cases allowed
  | _ => cases loud

namespace Dock
variable {β : Type} [SessionBackend β]

def hearsOf (dock : Dock β) (serial : Nat) : Move β → List Tiding
  | .announce event payload => dock.panel.registry.tidings serial event payload
  | _ => []

def tidings (serial : Nat) (dock : Dock β) : List (Move β) → List Tiding
  | [] => []
  | move :: rest => dock.hearsOf serial move ++ tidings serial (dock.move move) rest

variable {dock : Dock β} {registered : Nat × String → Prop} {told : Nat → List Tiding}

private theorem strikes_faithful {last : Dock β} {landing : Option (String × Purpose)}
    (strikes : Strikes Request.ordinary landing dock last) (faithful : dock.panel.registry.Faithful registered told) :
    last.panel.registry.Faithful registered told := by
  obtain ⟨panel, backend, stroke, yields⟩ := strikes
  have silent : Panel.Silent dock.panel panel :=
    stroke.moves Panel.silent_lenient (Request.ordinary_moves Panel.silent_lenient Panel.remove_silent)
      fun cwd spawned faults => Panel.create_silent cwd spawned faults _
  rw [yields.panel]
  exact silent registered told faithful

private theorem move_faithful {move : Move β} (valid : dock.Valid Request.ordinary)
    (allowed : move.only Request.ordinary = true)
    (faithful : dock.panel.registry.Faithful registered told) :
    (dock.move move).panel.registry.Faithful registered fun serial => told serial ++ dock.hearsOf serial move := by
  cases move with
  | ask request =>
    have strikes : Strikes Request.ordinary none dock (dock.move (.ask request)) := ask_strikes dock allowed
    simpa [hearsOf] using strikes_faithful strikes faithful
  | turn => simpa [hearsOf, move] using strikes_faithful (turn_strikes dock valid.licensed) faithful
  | answer task =>
    have calm : Calm (fun _ => False) dock (dock.move (.answer task)) := answer_calm dock task
    simpa [hearsOf, calm.panel] using faithful
  | announce event payload =>
    have told := Panel.emit_faithful event payload faithful
    exact told.of_hearing (told.wired.valid.of_stance rfl) rfl

private theorem run_faithful {moves : List (Move β)} (valid : dock.Valid Request.ordinary)
    (allowed : ∀ move ∈ moves, move.only Request.ordinary = true)
    (faithful : dock.panel.registry.Faithful registered told) :
    (dock.run moves).panel.registry.Faithful registered fun serial => told serial ++ dock.tidings serial moves := by
  induction moves generalizing dock told with
  | nil => simpa [run, tidings] using faithful
  | cons move rest ih =>
    have first := allowed move (List.mem_cons_self ..)
    have step := move_faithful valid first faithful
    have rest := ih (valid.move first) (fun other member => allowed other (List.mem_cons_of_mem _ member)) step
    simpa [run, tidings] using rest

theorem run_append (dock : Dock β) (before after : List (Move β)) :
    dock.run (before ++ after) = (dock.run before).run after :=
  List.foldl_append ..

private theorem tidings_append (serial : Nat) (dock : Dock β) (before after : List (Move β)) :
    dock.tidings serial (before ++ after) = dock.tidings serial before ++ (dock.run before).tidings serial after := by
  induction before generalizing dock with
  | nil => rfl
  | cons move rest ih => simp [tidings, ih, run]

omit [SessionBackend β] in
theorem fresh_faithful {panel : Panel} (blank : panel.Blank) (backend : β) (hook : Transport.FailureHook) :
    (Dock.fresh panel backend hook).panel.registry.Faithful (fun _ => False) fun _ => [] := by
  refine ⟨blank.wired, fun _ => False.elim, ?_, ?_, fun _ _ => rfl⟩
  · intro id session live
    exact absurd ((blank.nobody id).symm.trans live) (by simp)
  · intro session member
    rw [show (Dock.fresh panel backend hook).panel.registry.retired = [] from blank.retired] at member
    cases member

/-- What is written to a session. It may be live after `before`; whatever happens then, and whether it is still
live at the end or not, exactly what it was told from its creation to its removal was written to it, in order. -/
theorem written_in_order {panel : Panel} (blank : panel.Blank) (backend : β) (hook : Transport.FailureHook)
    (before after : List (Move β)) (allowed : ∀ move ∈ before ++ after, move.only Request.ordinary = true)
    {id : String} {session : Session}
    (live : ((Dock.fresh panel backend hook).run before).panel.registry.session? id = some session) :
    ∃ current, ((Dock.fresh panel backend hook).run (before ++ after)).panel.registry.bySerial? session.serial =
      some current ∧
      current.id = id ∧
      current.surface.written =
        Tiding.transcript false ((Dock.fresh panel backend hook).tidings session.serial (before ++ after)) := by
  have early : ∀ move ∈ before, move.only Request.ordinary = true :=
    fun move member => allowed move (List.mem_append_left _ member)
  have late : ∀ move ∈ after, move.only Request.ordinary = true :=
    fun move member => allowed move (List.mem_append_right _ member)
  have start : (Dock.fresh panel backend hook).Valid Request.ordinary := valid_fresh blank backend hook
  have created := run_faithful start early (fresh_faithful blank backend hook)
  have ended := run_faithful (start.run early) late (created.holding live)
  rw [← run_append] at ended
  have number {current : Session} (tag : current.tag = session.tag) : current.serial = session.serial :=
    congrArg Prod.fst tag
  have named {current : Session} (tag : current.tag = session.tag) : current.id = id :=
    (congrArg Prod.snd tag).trans (created.wired.valid.named id session live)
  rw [tidings_append]
  rcases ended.kept session.tag rfl with ⟨current, now, tag⟩ | ⟨⟨current, member, tag⟩, deaf⟩
  · refine ⟨current, ?_, named tag, ?_⟩
    · rw [← number tag]
      exact ended.wired.valid.bySerial_of_live now
    · rw [← number tag]
      exact congrArg (·.2.2) (ended.live _ current now)
  · refine ⟨current, ?_, named tag, ?_⟩
    · rw [← number tag]
      exact ended.wired.valid.bySerial_of_mem (List.mem_append_right _ member)
    · rw [← number tag]
      exact ended.gone current member (number tag ▸ deaf)

/-- Two sessions are made. -/
def twoTabs : List (Move PuppetBackend) :=
  [.ask (.add none), .ask (.add none)]

/-- They are told of this and that, and the first is removed: its process ended twice, one chunk was malformed, and
one came too late. -/
def crosstalk : List (Move PuppetBackend) :=
  [.announce "terminal-output-term-1" (.chunk "QQ=="), .announce "terminal-exit-term-1" .nothing,
    .announce "terminal-output-term-2" (.chunk "Qg=="), .announce "terminal-output-term-1" (.chunk "?"),
    .announce "terminal-exit-term-1" .nothing, .announce "terminal-output-term-1" (.chunk "Qw=="),
    .ask (.closeSession "term-1"), .announce "terminal-output-term-1" (.chunk "RA==")]

theorem written_in_order_crosstalk :
    ∃ session current,
      ((Dock.fresh Panel.standard {} .log).run twoTabs).panel.registry.session? "term-1" = some session ∧
      ((Dock.fresh Panel.standard {} .log).run (twoTabs ++ crosstalk)).panel.registry.bySerial? session.serial =
        some current ∧
      current.id = "term-1" ∧ current.surface.written = [[65], Registry.exitMarker, [67]] := by
  have present : (((Dock.fresh Panel.standard {} .log).run twoTabs).panel.registry.session? "term-1").map
      Session.serial = some 0 := by decide +kernel
  obtain ⟨session, live, serial⟩ := Option.map_eq_some_iff.mp present
  have allowed : ∀ move ∈ twoTabs ++ crosstalk, move.only Request.ordinary = true := by decide +kernel
  obtain ⟨current, found, named, written⟩ :=
    written_in_order Panel.standard_blank ({} : PuppetBackend) .log twoTabs crosstalk allowed live
  refine ⟨session, current, live, found, named, written.trans ?_⟩
  rw [serial]
  decide +kernel

end Dock

end TerminalDock
