import TerminalDock.Proofs.ConfigBounds
import TerminalDock.Proofs.DockBeats
import TerminalDock.Proofs.FocusRuns

/-! What every beat of a run does to the scale of the panel: it is one of a few steps, surfaces stay pliable and views
attached, and the panel is shown exactly if views are fitted. -/

namespace TerminalDock
open Proofs.Steps

namespace Registry.Face
variable {face : Face}

def Attached (face : Face) : Prop :=
  ∀ name session, (name, session) ∈ face.sessions → session.attached = true

namespace Attached

theorem each (attached : face.Attached) {f : String → Session.Face → Session.Face}
    (kept : ∀ name session, (f name session).attached = session.attached) : (face.each f).Attached := by
  intro name session member
  obtain ⟨old, inside, rfl⟩ := mem_each member
  rw [kept]
  exact attached name old inside

theorem alter (attached : face.Attached) (id : String) {f : Session.Face → Session.Face}
    (kept : ∀ session, (f session).attached = session.attached) : (face.alter id f).Attached :=
  attached.each fun _ session => by split <;> simp [kept]

theorem enroll (attached : face.Attached) (id : String) (tag : Nat × String) : (face.enroll id tag).Attached := by
  intro name session member
  rcases List.mem_append.mp member with live | new
  · exact attached name session live
  · cases List.mem_singleton.mp new
    rfl

theorem without (attached : face.Attached) (id : String) : (face.without id).Attached :=
  fun name session member => attached name session ((Assoc.remove_sublist id face.sessions).subset member)

end Attached

end Registry.Face

namespace Panel.Face
variable {face next : Face}

private theorem attached_aside (attached : face.registry.Attached) (who : Option String) :
    (face.aside who).registry.Attached := by
  cases who with
  | none => exact attached
  | some id => exact attached.alter id fun _ => rfl

private theorem attached_exhibit (attached : face.registry.Attached) (visible : Bool) :
    (face.exhibit visible).registry.Attached :=
  attached.each fun _ _ => rfl

private theorem attached_unfocus (attached : face.registry.Attached) : face.unfocus.registry.Attached := by
  unfold unfocus
  split
  · exact attached
  · exact attached.alter _ fun _ => rfl

private theorem attached_spotlight (attached : face.registry.Attached) (fitted : Bool) :
    (face.spotlight fitted).registry.Attached := by
  unfold spotlight
  split
  · exact attached
  · refine attached.alter _ fun session => ?_
    cases fitted <;> rfl

private theorem attached_select (attached : face.registry.Attached) (id : String) (fitted : Bool) :
    (face.select id fitted).registry.Attached := by
  refine attached.alter id fun session => ?_
  cases fitted <;> rfl

private theorem attached_welcome (attached : face.registry.Attached) (id : String) (tag : Nat × String)
    (before : Option String) :
    (face.welcome id tag before).registry.Attached :=
  attached_select (attached_aside (attached.enroll id tag) before) id true

theorem Step.attached (step : Step false face next) (attached : face.registry.Attached) : next.registry.Attached := by
  cases step with
  | still | drafted => exact attached
  | themed theme =>
    have kept : (face.registry.each fun _ old => { old with theme := theme }).Attached := attached.each fun _ _ => rfl
    exact kept
  | selected fitted other live => exact attached_select (attached_aside attached _) _ fitted
  | hidden => exact attached_exhibit (attached_unfocus attached) false
  | revealed fitted peopled => exact attached_spotlight (attached_exhibit attached true) fitted
  | emptied last => exact attached_exhibit (attached.without _) false
  | closed other left => exact attached.without _
  | succeeded fitted active live => exact attached_select (attached.without _) _ fitted
  | made tag before free recalled => exact attached_welcome attached _ tag before
  | opened tag before free recalled => exact attached_exhibit (attached_welcome attached _ tag before) true
  | enrolled tag loose free => exact attached.enroll _ tag
  | chosen loose live => exact attached
  | spotlit fitted loose => exact attached_spotlight attached fitted

end Panel.Face

namespace Panel.Scale
variable {ended : Ending Failure Panel} {notify : Bool} {scale next : Scale} {given : List String}

theorem Fit.pliable (fit : Fit ended notify scale next) (pliable : scale.registry.Pliable) : next.registry.Pliable := by
  cases fit with
  | idle | missed => exact pliable
  | fitted => exact pliable.measure _ _ _

theorem Fit.shown (fit : Fit ended notify scale next) (shown : scale.isOpen = scale.fitting) :
    next.isOpen = next.fitting := by
  cases fit <;> exact shown

/-- What a fit has no part in. -/
structure Abides (scale next : Scale) : Prop where
  active : next.registry.active = scale.registry.active
  keys : next.registry.gauges.keys = scale.registry.gauges.keys
  swept : next.registry.swept = scale.registry.swept
  dragging : next.dragging = scale.dragging

theorem Fit.abides (fit : Fit ended notify scale next) : Abides scale next := by
  cases fit with
  | idle | missed => exact ⟨rfl, rfl, rfl, rfl⟩
  | fitted => exact ⟨rfl, Assoc.keys_update _ _ _, rfl, rfl⟩

/-- What a step leaves as it should be: surfaces that take any size, and views that are fitted while they are shown. -/
structure Sane (scale : Scale) : Prop where
  pliable : scale.registry.Pliable
  shown : scale.isOpen = scale.fitting

theorem Fit.sane (fit : Fit ended notify scale next) (sane : scale.Sane) : next.Sane :=
  ⟨fit.pliable sane.pliable, fit.shown sane.shown⟩

theorem Step.sane (step : Step ended scale given next) (unique : scale.registry.gauges.keys.Nodup) (sane : scale.Sane) :
    next.Sane := by
  obtain ⟨pliable, shown⟩ := sane
  have same {registry : Registry.Scale} (gauges : registry.gauges = scale.registry.gauges)
      (stock : registry.stock = scale.registry.stock) : registry.Pliable :=
    ⟨gauges ▸ pliable.live, stock ▸ pliable.stock⟩
  have gone (id : String) := pliable.without unique id
  cases step with
  | still | grabbed | lapsed | taken => exact ⟨pliable, shown⟩
  | typed | swept | spoiled => exact ⟨same rfl rfl, shown⟩
  | fitted fit | released fit | fired _ fit => exact fit.sane ⟨pliable, shown⟩
  | selected other live fit => exact fit.sane ⟨same rfl rfl, shown⟩
  | hidden => exact ⟨pliable, rfl⟩
  | revealed fit => exact fit.sane ⟨pliable, rfl⟩
  | emptied => exact ⟨gone _, rfl⟩
  | closed => exact ⟨gone _, shown⟩
  | @succeeded id successor next live active fit => exact fit.sane ⟨⟨(gone id).live, (gone id).stock⟩, shown⟩
  | made free => exact ⟨pliable.enroll free, shown⟩
  | opened free => exact ⟨pliable.enroll free, rfl⟩

/-- What precedes a fit tells no size, and no session that stays gets another one. -/
structure Prepares (scale base : Scale) : Prop where
  calls : ∀ call ∈ base.registry.outbox, call ∈ scale.registry.outbox ∨ call.isResize = false
  gauges : ∀ id gauge, base.registry.gauges.find? id = some gauge →
    scale.registry.gauges.find? id = some gauge ∨ scale.registry.gauges.find? id = none ∧
      gauge = ⟨scale.registry.serial, Session.Gauge.classic, none, scale.registry.stock⟩
  serial : scale.registry.serial ≤ base.registry.serial

namespace Prepares

private theorem of_gauges {base : Scale} (same : base.registry.gauges = scale.registry.gauges)
    (serial : scale.registry.serial ≤ base.registry.serial)
    (calls : ∀ call ∈ base.registry.outbox, call ∈ scale.registry.outbox ∨ call.isResize = false) : Prepares scale base :=
  ⟨calls, fun _ _ there => .inl (same ▸ there), serial⟩

theorem of_registry {base : Scale} (same : base.registry = scale.registry) : Prepares scale base := by
  refine of_gauges (by rw [same]) (Nat.le_of_eq (by rw [same])) ?_
  rw [same]
  exact fun _ => .inl

theorem submit {base : Scale} {calls : List BackendCall} (quiet : ∀ call ∈ calls, call.isResize = false)
    (outbox : base.registry.outbox = scale.registry.outbox ++ calls) :
    ∀ call ∈ base.registry.outbox, call ∈ scale.registry.outbox ∨ call.isResize = false := by
  rw [outbox]
  intro call member
  exact (List.mem_append.mp member).imp_right (quiet call)

theorem without {base : Scale} (unique : scale.registry.gauges.keys.Nodup) {id : String}
    (gauges : base.registry.gauges = (scale.registry.without id).gauges)
    (serial : base.registry.serial = scale.registry.serial)
    (outbox : base.registry.outbox = scale.registry.outbox ++ [.close id]) : Prepares scale base := by
  refine ⟨submit (by simp [BackendCall.isResize]) outbox, fun name gauge there => .inl ?_, Nat.le_of_eq serial.symm⟩
  rw [gauges] at there
  exact Assoc.find?_of_remove unique there

theorem welcome {base : Scale} {id : String} (free : id ∉ scale.registry.gauges.keys)
    (registry : base.registry = scale.registry.enroll id) : Prepares scale base := by
  refine ⟨?_, fun name gauge there => ?_, ?_⟩
  · rw [registry]
    exact fun _ => .inl
  · rw [registry] at there
    have absent := Assoc.find?_eq_none.mpr free
    rcases Assoc.find?_append_single absent there with ⟨rfl, rfl⟩ | ⟨_, before⟩
    · exact .inr ⟨absent, rfl⟩
    · exact .inl before
  · rw [registry]
    exact Nat.le_succ _

theorem quiet {base : Scale} (prepares : Prepares scale base) (calm : scale.registry.outbox = []) :
    ∀ call ∈ base.registry.outbox, call.isResize = false := by
  intro call member
  rcases prepares.calls call member with old | quiet
  · rw [calm] at old
    cases old
  · exact quiet

end Prepares

/-- Whatever else a step is, a fit is the only part of it that tells sizes; one that the backend is not told of happens
in a drag. -/
inductive Comes (ended : Ending Failure Panel) (scale next : Scale) : Prop
  | plain (prepares : Prepares scale next)
  | fitted {base : Scale} {notify : Bool} (prepares : Prepares scale base)
      (untold : notify = false → scale.dragging = true) (fit : Fit ended notify base next)

theorem Step.comes (step : Step ended scale given next) (unique : scale.registry.gauges.keys.Nodup) :
    Comes ended scale next := by
  have told {base : Scale} (fit : Fit ended true base next) (prepares : Prepares scale base) : Comes ended scale next :=
    .fitted prepares Bool.noConfusion fit
  cases step with
  | still | grabbed | hidden | lapsed | taken => exact .plain (.of_registry rfl)
  | typed inputs =>
    refine .plain (.of_gauges rfl (Nat.le_refl _) (Prepares.submit (fun call member => ?_) rfl))
    have input := inputs call member
    cases call with
    | sendInput => rfl
    | _ => cases input
  | fitted fit untold => exact .fitted (.of_registry rfl) untold fit
  | released fit | fired _ fit | revealed fit => exact told fit (.of_registry rfl)
  | selected _ _ fit => exact told fit (.of_gauges rfl (Nat.le_refl _) fun _ => .inl)
  | emptied | closed => exact .plain (.without unique rfl rfl rfl)
  | succeeded _ _ fit => exact told fit (.without unique rfl rfl rfl)
  | swept first =>
    refine .plain (.of_gauges rfl (Nat.le_refl _) (Prepares.submit (fun call member => ?_) rfl))
    obtain ⟨id, _, rfl⟩ := List.mem_map.mp member
    rfl
  | spoiled free later => exact .plain (.of_gauges rfl later (Prepares.submit (by simp [BackendCall.isResize]) rfl))
  | made free => exact .plain (.welcome free rfl)
  | opened free => exact .plain (.welcome free rfl)

end Panel.Scale

namespace Request
variable {β : Type} {simple other : Request β → Bool}

mutual

theorem only_mono (weaker : ∀ request, simple request = true → other request = true) (request : Request β)
    (allowed : request.only simple = true) : request.only other = true := by
  cases request with
  | background name request => exact only_mono weaker request allowed
  | gather requests => exact onlyAll_mono weaker requests allowed
  | _ => exact weaker _ allowed

private theorem onlyAll_mono (weaker : ∀ request, simple request = true → other request = true) :
    ∀ requests : List (Request β), Request.onlyAll simple requests = true → Request.onlyAll other requests = true
  | [], _ => rfl
  | request :: rest, allowed => by
    rw [onlyAll, Bool.and_eq_true] at *
    exact ⟨only_mono weaker request allowed.1, onlyAll_mono weaker rest allowed.2⟩

end

end Request

theorem Request.tabbed_of_panelwise {β : Type} {strict : Bool} (request : Request β) (allowed : request.panelwise = true) :
    request.tabbed strict = true := by
  cases request with
  | remove _ | surface _ _ | create _ | setActive _ | focusActive => cases allowed
  | _ => rfl

theorem Move.tabbed {β : Type} {strict : Bool} {move : Move β} (allowed : move.only Request.panelwise = true) :
    move.only (Request.tabbed strict) = true := by
  cases move with
  | ask request => exact Request.only_mono Request.tabbed_of_panelwise request allowed
  | _ => rfl

theorem Beat.only_of_panelwise {β : Type} {move : Move β} (allowed : (Beat.move move).panelwise = true) :
    move.only Request.panelwise = true := by
  cases move with
  | announce event payload => cases allowed
  | ask _ | turn | answer _ => exact allowed

namespace Dock
variable {β : Type}

theorem Valid.tabbed {strict : Bool} {dock : Dock β} (valid : dock.Valid Request.panelwise) :
    dock.Valid (Request.tabbed strict) := by
  refine ⟨valid.registry, fun job member => ?_⟩
  have licensed := valid.licensed job member
  cases stage : job.stage with
  | begin request =>
    rw [stage] at licensed
    exact Request.only_mono Request.tabbed_of_panelwise request licensed
  | spawning cwd purpose =>
    rw [stage] at licensed
    cases purpose with
    | create =>
      obtain ⟨_, allowed⟩ := licensed
      cases allowed
    | _ => exact licensed
  | _ => trivial

variable [SessionBackend β] {dock : Dock β} {beat : Beat β}

/-- What holds along every run. -/
structure Steady (dock : Dock β) : Prop where
  valid : dock.Valid Request.panelwise
  orderly : dock.Orderly
  sane : dock.panel.scale.Sane
  attached : dock.panel.face.registry.Attached

/-- What a beat comes to, and what it does to the scale. -/
structure Advance (dock : Dock β) (beat : Beat β) (given : List String) (ended : Ending Failure Panel) : Prop where
  account : Account (dock.actor? beat) given ended dock (dock.beat beat)
  failed : ∀ failure, ended.failure = some failure → dock.failure? beat = some failure
  step : Panel.Scale.Step ended dock.panel.scale given ended.state.scale

theorem Advance.scale {given : List String} {ended : Ending Failure Panel} (advance : Advance dock beat given ended) :
    (dock.beat beat).panel.scale = ended.state.scale.onRegistry (·.posting []) := by
  rw [advance.account.panel, Panel.scale_drained]

namespace Steady

omit [SessionBackend β] in
theorem calm (steady : dock.Steady) : dock.panel.scale.registry.outbox = [] :=
  steady.orderly.silent.1

omit [SessionBackend β] in
theorem unique (steady : dock.Steady) : dock.panel.scale.registry.gauges.keys.Nodup :=
  Panel.gauges_unique steady.valid.registry

theorem advance (steady : dock.Steady) (allowed : beat.panelwise = true) : ∃ given ended, Advance dock beat given ended := by
  obtain ⟨given, ended, account, failed⟩ := beat_account dock steady.orderly steady.valid.licensed allowed
  refine ⟨given, ended, account, failed, account.deal.step steady.valid.registry steady.sane.pliable fun id session
    live => ?_⟩
  exact steady.attached id session.face (Assoc.mem_of_find? (Panel.live_face live))

private theorem valid_beat (steady : dock.Steady) (allowed : beat.panelwise = true) :
    (dock.beat beat).Valid Request.panelwise := by
  cases beat with
  | fire place =>
    have yields : Yields (Novel Request.panelwise dock.panel.registry) dock _ _ (dock.beat (.fire place)) :=
      onPanel_yields dock (Panel.fire place)
    have quiet := (Panel.Mild.rules.fire place dock.panel).quiet.trans (Panel.drained_quiet _)
    exact steady.valid.of_yields yields quiet.sound
  | move move => exact steady.valid.move (Beat.only_of_panelwise allowed)

private theorem attached_beat (steady : dock.Steady) (allowed : beat.panelwise = true) :
    (dock.beat beat).panel.face.registry.Attached := by
  cases beat with
  | fire place =>
    have yields : Yields (fun _ => True) dock _ _ (dock.beat (.fire place)) := onPanel_yields dock (Panel.fire place)
    have same : (dock.beat (.fire place)).panel.face = dock.panel.face := by
      rw [yields.panel, Panel.drained_face]
      exact Panel.face_of_stance (Panel.Mild.rules.fire place dock.panel steady.valid.registry)
    exact same ▸ steady.attached
  | move move =>
    have only : move.only (Request.tabbed false) = true := Move.tabbed (Beat.only_of_panelwise allowed)
    exact (move_step steady.valid.tabbed only Bool.noConfusion).attached steady.attached

theorem next (steady : dock.Steady) (allowed : beat.panelwise = true) : (dock.beat beat).Steady := by
  obtain ⟨given, ended, advance⟩ := steady.advance allowed
  have sane := advance.step.sane steady.unique steady.sane
  refine ⟨steady.valid_beat allowed, advance.account.orderly, ?_, steady.attached_beat allowed⟩
  rw [advance.account.panel]
  exact ⟨⟨sane.pliable.live, sane.pliable.stock⟩, sane.shown⟩

theorem play {beats : List (Beat β)} (steady : dock.Steady) (allowed : ∀ beat ∈ beats, beat.panelwise = true) :
    (dock.play beats).Steady := by
  induction beats generalizing dock with
  | nil => exact steady
  | cons first rest ih =>
    exact ih (steady.next (allowed first (List.mem_cons_self ..))) fun beat member =>
      allowed beat (List.mem_cons_of_mem _ member)

end Steady

/-- In a run, this holds of each state and the beat that follows. -/
def Along (holds : Dock β → Beat β → Prop) (dock : Dock β) : List (Beat β) → Prop
  | [] => True
  | beat :: rest => holds dock beat ∧ Along holds (dock.beat beat) rest

instance decidableAlong (holds : Dock β → Beat β → Prop) [∀ dock beat, Decidable (holds dock beat)] (dock : Dock β) :
    (beats : List (Beat β)) → Decidable (dock.Along holds beats)
  | [] => .isTrue trivial
  | beat :: rest =>
    have := decidableAlong holds (dock.beat beat) rest
    inferInstanceAs (Decidable (holds dock beat ∧ Along holds (dock.beat beat) rest))

theorem Along.mono {holds other : Dock β → Beat β → Prop} (weaker : ∀ dock beat, holds dock beat → other dock beat)
    {beats : List (Beat β)} (along : dock.Along holds beats) : dock.Along other beats := by
  induction beats generalizing dock with
  | nil => trivial
  | cons first rest ih => exact ⟨weaker dock first along.1, ih along.2⟩

theorem Steady.along {holds : Dock β → Beat β → Prop}
    (each : ∀ {dock : Dock β} {beat : Beat β}, dock.Steady → beat.panelwise = true → holds dock beat)
    {beats : List (Beat β)} (steady : dock.Steady) (allowed : ∀ beat ∈ beats, beat.panelwise = true) :
    dock.Along holds beats := by
  induction beats generalizing dock with
  | nil => trivial
  | cons first rest ih =>
    have now := allowed first (List.mem_cons_self ..)
    exact ⟨each steady now, ih (steady.next now) fun beat member => allowed beat (List.mem_cons_of_mem _ member)⟩

theorem play_invariant {invariant : Dock β → Prop} {holds : Dock β → Beat β → Prop}
    (step : ∀ {dock : Dock β} {beat : Beat β}, dock.Steady → beat.panelwise = true → holds dock beat → invariant dock →
      invariant (dock.beat beat))
    {beats : List (Beat β)} (steady : dock.Steady) (allowed : ∀ beat ∈ beats, beat.panelwise = true)
    (along : dock.Along holds beats) (start : invariant dock) : invariant (dock.play beats) := by
  induction beats generalizing dock with
  | nil => exact start
  | cons first rest ih =>
    have now := allowed first (List.mem_cons_self ..)
    exact ih (steady.next now) (fun beat member => allowed beat (List.mem_cons_of_mem _ member)) along.2
      (step steady now along.1 start)

end Dock

structure Panel.New (panel : Panel) : Prop where
  blank : panel.Blank
  drained : panel.drained = panel
  still : panel.drag = none
  frames : panel.frames = []
  rows : 1 ≤ panel.registry.factory.minRows
  columns : 1 ≤ panel.registry.factory.minColumns

theorem Panel.create_new {given : List (String × Json)} {config : PanelConfig} {scheme : String} {font : Font}
    {height : Json}
    {panel : Panel} (valid : Config.validate given = .ok config)
    (created : Panel.create config scheme font height = .ok panel) : panel.New := by
  have blank := create_blank created
  have sound := Config.validate_sound valid
  simp only [create, bind, Except.bind] at created
  split at created
  · cases created
  · cases created
    exact ⟨blank, rfl, rfl, rfl, sound.minRows, sound.minCols⟩

theorem Panel.standard_new : standard.New :=
  ⟨standard_blank, rfl, rfl, rfl, by decide, by decide⟩

namespace Dock

theorem steady_fresh {β : Type} [SessionBackend β] {panel : Panel} (new : panel.New) (backend : β)
    (hook : Transport.FailureHook) : (Dock.fresh panel backend hook).Steady := by
  have nobody : panel.registry.sessions = [] := new.blank.sessions
  refine ⟨valid_fresh new.blank backend hook, ⟨List.nodup_nil, List.forall_mem_nil _, new.drained⟩, ⟨⟨?_, ?_⟩, ?_⟩, ?_⟩
  · intro id gauge there
    rw [show (Dock.fresh panel backend hook).panel.scale.registry = panel.registry.scale from rfl, Registry.find?_scale,
      Registry.session?, nobody] at there
    cases there
  · exact ⟨new.rows, new.columns, rfl, beq_self_eq_true _⟩
  · exact new.blank.hidden.trans new.blank.unfit.symm
  · intro name session member
    obtain ⟨entry, there, -⟩ := List.mem_map.mp member
    rw [show (Dock.fresh panel backend hook).panel.registry.sessions = [] from nobody] at there
    cases there

end Dock

end TerminalDock
