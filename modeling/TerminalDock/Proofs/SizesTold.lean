import TerminalDock.Proofs.ScaleRuns

/-! The sizes that the backend was told of a session in a run. What is remembered with the session is the last of
them, also if its identifier belonged to another session before. -/

namespace TerminalDock
open Proofs.Steps

namespace Registry.Scale

def sizeFor? (serial : Nat) (gauges : Assoc String Session.Gauge) : BackendCall → Option Geometry
  | .resize id size => if (gauges.find? id).any (·.serial == serial) then some size else none
  | _ => none

def sizesFor (serial : Nat) (scale : Scale) : List Geometry :=
  scale.outbox.filterMap (sizeFor? serial scale.gauges)

/-- Live sessions are told apart by their serial numbers, which were all given out. -/
structure Numbered (scale : Scale) : Prop where
  apart : ∀ id other gauge another, scale.gauges.find? id = some gauge → scale.gauges.find? other = some another →
    gauge.serial = another.serial → id = other
  given : ∀ id gauge, scale.gauges.find? id = some gauge → gauge.serial < scale.serial

/-- What is remembered with each live session is the last size that the backend was told of it. -/
structure Tells (told : Nat → List Geometry) (scale : Scale) : Prop where
  live : ∀ id gauge, scale.gauges.find? id = some gauge → gauge.told = (told gauge.serial).getLast?
  fresh : ∀ serial, scale.serial ≤ serial → told serial = []

variable {scale base : Scale} {told : Nat → List Geometry} {notify : Bool} {id : String} {size : Geometry}

private theorem sizeFor?_quiet (serial : Nat) (gauges : Assoc String Session.Gauge) {calls : List BackendCall}
    (quiet : ∀ call ∈ calls, call.isResize = false) : calls.filterMap (sizeFor? serial gauges) = [] := by
  refine List.filterMap_eq_nil_iff.mpr fun call member => ?_
  have silent := quiet call member
  cases call with
  | resize => cases silent
  | _ => rfl

private theorem sizesFor_measure (serial : Nat) (notify : Bool) (id : String) (size : Geometry)
    (quiet : ∀ call ∈ scale.outbox, call.isResize = false) : (scale.measure notify id size).sizesFor serial =
      if notify = true ∧ (scale.gauges.find? id).any (·.serial == serial) then [size] else [] := by
  have there : ((scale.measure notify id size).gauges.find? id).any (·.serial == serial) =
      (scale.gauges.find? id).any (·.serial == serial) := by
    rw [show (scale.measure notify id size).gauges.find? id = _ from Assoc.find?_update_self _ _ _, Option.any_map]
    rfl
  rw [sizesFor, outbox_measure, List.filterMap_append,
    sizeFor?_quiet serial _ quiet, List.nil_append]
  cases notify with
  | false => rfl
  | true =>
    simp only [if_true, true_and, List.filterMap_cons, List.filterMap_nil, sizeFor?, there]
    by_cases mine : (scale.gauges.find? id).any (·.serial == serial) = true
    · simp only [mine, if_true]
    · simp only [mine, if_false, Bool.false_eq_true]

namespace Tells

theorem measure (tells : base.Tells told) (numbered : (base.measure notify id size).Numbered)
    (quiet : ∀ call ∈ base.outbox, call.isResize = false) :
    (base.measure notify id size).Tells fun serial => told serial ++ (base.measure notify id size).sizesFor serial := by
  have measured {gauge : Session.Gauge} (there : base.gauges.find? id = some gauge) :
      (base.measure notify id size).gauges.find? id = some (gauge.measure notify size) := by
    rw [show (base.measure notify id size).gauges.find? id = _ from Assoc.find?_update_self _ _ _, there]
    rfl
  have others {serial : Nat} (other : ∀ gauge, base.gauges.find? id = some gauge → gauge.serial ≠ serial) :
      told serial ++ (base.measure notify id size).sizesFor serial = told serial := by
    rw [sizesFor_measure serial notify id size quiet, if_neg, List.append_nil]
    rintro ⟨-, mine⟩
    obtain ⟨gauge, there, same⟩ := (Option.any_eq_true _ _).mp mine
    exact other gauge there (beq_iff_eq.mp same)
  refine ⟨fun name gauge there => ?_, fun serial later => ?_⟩
  · rcases find?_measure there with ⟨rfl, old, before, rfl⟩ | ⟨here, before⟩
    · rw [sizesFor_measure _ notify name size quiet]
      cases notify with
      | false => simpa [Session.Gauge.measure] using tells.live name old before
      | true => simp [Session.Gauge.measure, before]
    · rw [others fun mine found same => here (numbered.apart name id gauge _ there (measured found) same.symm)]
      exact tells.live name gauge before
  · rw [others fun mine found same => ?_]
    · exact tells.fresh serial later
    · have young := numbered.given id _ (measured found)
      exact Nat.lt_irrefl _ (Nat.lt_of_lt_of_le (same ▸ young) later)

end Tells

theorem Tells.quietly (tells : scale.Tells told) (quiet : ∀ call ∈ scale.outbox, call.isResize = false) :
    scale.Tells fun serial => told serial ++ scale.sizesFor serial := by
  have none_told (serial : Nat) : told serial ++ scale.sizesFor serial = told serial := by
    rw [sizesFor, sizeFor?_quiet serial _ quiet, List.append_nil]
  simp only [none_told]
  exact tells

end Registry.Scale

theorem Registry.numbered_scale {registry : Registry} (valid : registry.WellFormed) : registry.scale.Numbered := by
  refine ⟨fun id other gauge another there elsewhere same => ?_, fun id gauge there => ?_⟩
  · rw [find?_scale] at there elsewhere
    obtain ⟨session, live, rfl⟩ := Option.map_eq_some_iff.mp there
    obtain ⟨stranger, present, rfl⟩ := Option.map_eq_some_iff.mp elsewhere
    exact valid.same_id live present same
  · rw [find?_scale] at there
    obtain ⟨session, live, rfl⟩ := Option.map_eq_some_iff.mp there
    exact valid.fresh session (everyone_of_live live)

namespace Panel.Scale
variable {ended : Ending Failure Panel} {scale base next : Scale} {told : Nat → List Geometry}

theorem Prepares.tells (prepares : Prepares scale base) (tells : scale.registry.Tells told) : base.registry.Tells told := by
  refine ⟨fun id gauge there => ?_, fun serial later => tells.fresh serial (Nat.le_trans prepares.serial later)⟩
  rcases prepares.gauges id gauge there with old | ⟨-, rfl⟩
  · exact tells.live id gauge old
  · rw [tells.fresh _ (Nat.le_refl _)]
    rfl

theorem Comes.tells (comes : Comes ended scale next) (calm : scale.registry.outbox = [])
    (tells : scale.registry.Tells told) (numbered : next.registry.Numbered) :
    next.registry.Tells fun serial => told serial ++ next.registry.sizesFor serial := by
  cases comes with
  | plain prepares => exact (prepares.tells tells).quietly (prepares.quiet calm)
  | fitted prepares untold fit =>
    cases fit with
    | idle | missed => exact (prepares.tells tells).quietly (prepares.quiet calm)
    | fitted => exact (prepares.tells tells).measure numbered (prepares.quiet calm)

end Panel.Scale

namespace Dock
variable {β : Type} {dock : Dock β} {told : Nat → List Geometry}

def toldIn (serial : Nat) (first last : Dock β) : List Geometry :=
  (first.submitted last).filterMap fun
    | .resize id size => if (last.panel.registry.session? id).any (·.serial == serial) then some size else none
    | _ => none

variable [SessionBackend β]

def toldTo (serial : Nat) (dock : Dock β) : List (Beat β) → List Geometry
  | [] => []
  | beat :: rest => dock.toldIn serial (dock.beat beat) ++ (dock.beat beat).toldTo serial rest

theorem Steady.tells {beat : Beat β} (steady : dock.Steady) (allowed : beat.panelwise = true)
    (tells : dock.panel.scale.registry.Tells told) : (dock.beat beat).panel.scale.registry.Tells fun serial =>
      told serial ++ dock.toldIn serial (dock.beat beat) := by
  obtain ⟨given, ended, advance⟩ := steady.advance allowed
  have numbered := Registry.numbered_scale (steady.next allowed).valid.registry
  rw [show (dock.beat beat).panel.registry.scale = ended.state.scale.registry.posting [] from
    congrArg Panel.Scale.registry advance.scale] at numbered
  have comes := advance.step.comes steady.unique
  have next := comes.tells steady.calm tells ⟨numbered.apart, numbered.given⟩
  have same (serial : Nat) : dock.toldIn serial (dock.beat beat) = ended.state.scale.registry.sizesFor serial := by
    rw [toldIn, advance.account.submitted, advance.account.panel]
    refine List.filterMap_congr fun call _ => ?_
    cases call with
    | resize id size =>
      have there : (ended.state.scale.registry.gauges.find? id).any (·.serial == serial) =
          (ended.state.registry.session? id).any (·.serial == serial) := by
        rw [show ended.state.scale.registry.gauges.find? id = _ from Registry.find?_scale _ _, Option.any_map]
        rfl
      simp only [Registry.Scale.sizeFor?, there]
      rfl
    | _ => rfl
  simp only [same]
  rw [advance.scale]
  exact ⟨next.live, next.fresh⟩

theorem play_tells {beats : List (Beat β)} (steady : dock.Steady) (allowed : ∀ beat ∈ beats, beat.panelwise = true)
    (tells : dock.panel.scale.registry.Tells told) :
    (dock.play beats).panel.scale.registry.Tells fun serial => told serial ++ dock.toldTo serial beats := by
  induction beats generalizing dock told with
  | nil =>
    simp only [toldTo, List.append_nil]
    exact tells
  | cons first rest ih =>
    have now := allowed first (List.mem_cons_self ..)
    have later := ih (steady.next now) (fun beat member => allowed beat (List.mem_cons_of_mem _ member))
      (steady.tells now tells)
    simp only [List.append_assoc] at later
    exact later

/-- What is remembered with a live session is the last size that the backend was told of it. -/
theorem geometry_told {panel : Panel} (new : panel.New) (backend : β) (hook : Transport.FailureHook)
    {beats : List (Beat β)} (allowed : ∀ beat ∈ beats, beat.panelwise = true) {id : String} {session : Session}
    (live : ((Dock.fresh panel backend hook).play beats).panel.registry.session? id = some session) :
    session.geometry = ((Dock.fresh panel backend hook).toldTo session.serial beats).getLast? := by
  have nobody : panel.registry.sessions = [] := new.blank.sessions
  have untold : (Dock.fresh panel backend hook).panel.scale.registry.Tells fun _ => [] := by
    refine ⟨fun id gauge there => ?_, fun _ _ => rfl⟩
    rw [show (Dock.fresh panel backend hook).panel.scale.registry = panel.registry.scale from rfl, Registry.find?_scale,
      Registry.session?, nobody] at there
    cases there
  exact (play_tells (steady_fresh new backend hook) allowed untold).live id session.gauge (Registry.live_scale live)

end Dock

end TerminalDock
