import TerminalDock.Proofs.ScaleRuns

/-! The processes that are closed in a run. Whatever process the backend gave for a session is closed or lives on with
it; the sweep closes those that live then, but lets them live. So a process is closed once if it lives on since the
sweep, or is gone and was not swept; one that comes after the sweep is closed only with its session, and one whose
session goes after the sweep is closed twice. -/

namespace TerminalDock
open Proofs.Steps

def BackendCall.closing? : BackendCall → Option String
  | .close id => some id
  | _ => none

namespace Registry.Scale

def closing (scale : Scale) : List String :=
  scale.outbox.filterMap BackendCall.closing?

/-- The sessions that live when everything is swept, if it is. -/
def sweeping (first last : Scale) : List String :=
  if last.swept && !first.swept then first.gauges.keys else []

/-- Whatever process there was, or was given, is closed or lives on, and those that are swept are closed besides. -/
def Tallies (given : List String) (first last : Scale) : Prop :=
  (last.closing ++ last.gauges.keys).Perm (first.gauges.keys ++ given ++ first.sweeping last)

variable {scale last : Scale}

private theorem sweeping_same (same : last.swept = scale.swept) : scale.sweeping last = [] := by
  rw [sweeping, same, Bool.and_not_self]
  rfl

theorem Tallies.of_alike {given : List String} (swept : last.swept = scale.swept)
    (tally : (last.closing ++ last.gauges.keys).Perm (scale.gauges.keys ++ given)) : Tallies given scale last := by
  rw [Tallies, sweeping_same swept, List.append_nil]
  exact tally

theorem Tallies.quiet (swept : last.swept = scale.swept) (keys : last.gauges.keys = scale.gauges.keys)
    (closing : last.closing = []) : Tallies [] scale last := by
  refine .of_alike swept ?_
  rw [closing, keys, List.append_nil]
  exact .refl _

theorem Tallies.without {id : String} (live : id ∈ scale.gauges.keys) (swept : last.swept = scale.swept)
    (gauges : last.gauges = scale.gauges.remove id) (closing : last.closing = [id]) : Tallies [] scale last := by
  obtain ⟨gauge, found⟩ := Assoc.mem_keys_iff.mp live
  refine .of_alike swept ?_
  rw [closing, gauges, List.append_nil]
  exact ((Assoc.perm_remove found).map Prod.fst).symm

end Registry.Scale

namespace Panel.Scale
variable {ended : Ending Failure Panel} {notify : Bool} {scale next : Scale} {given : List String}

open Registry.Scale (closing Tallies)

theorem Fit.closing_same (fit : Fit ended notify scale next) : closing next.registry = closing scale.registry := by
  cases fit with
  | idle | missed => rfl
  | @fitted id size active shown room =>
    change closing (scale.registry.measure notify id size) = _
    rw [closing, Registry.Scale.outbox_measure, List.filterMap_append]
    cases notify <;> exact List.append_nil _

theorem Fit.tallies {base : Scale} (fit : Fit ended notify base next)
    (tallies : Tallies given scale.registry base.registry) : Tallies given scale.registry next.registry := by
  rw [Tallies, fit.closing_same, fit.abides.keys, Registry.Scale.sweeping, fit.abides.swept]
  exact tallies

/-- Only a process with the identifier of a session that lives gets lost. -/
theorem Step.tallies (step : Step ended scale given next) (calm : scale.registry.outbox = []) :
    Tallies given scale.registry next.registry ∨
      ∃ id ∈ scale.registry.gauges.keys, given = [id] ∧ next = scale := by
  have silent : closing scale.registry = [] := by rw [closing, calm]; rfl
  have posted (calls : List BackendCall) {registry : Registry.Scale}
      (outbox : registry.outbox = scale.registry.outbox ++ calls) :
      closing registry = calls.filterMap BackendCall.closing? := by
    rw [closing, outbox, calm, List.nil_append]
  have idle : Tallies [] scale.registry scale.registry := .quiet rfl rfl silent
  -- Only three steps submit calls that close: a tab is closed, everything is swept, or a session is spoiled while it
  -- is made.
  cases step with
  | still | grabbed | hidden | lapsed => exact .inl idle
  | @typed calls inputs =>
    refine .inl (.quiet rfl rfl ((posted calls rfl).trans (List.filterMap_eq_nil_iff.mpr fun call member => ?_)))
    have input := inputs call member
    cases call with
    | close => cases input
    | _ => rfl
  | fitted fit | released fit | fired _ fit | revealed fit => exact .inl (fit.tallies idle)
  | selected _ _ fit => exact .inl (fit.tallies (.quiet rfl rfl silent))
  | emptied live | closed live => exact .inl (.without live rfl rfl (posted [.close _] rfl))
  | succeeded live _ fit => exact .inl (fit.tallies (.without live rfl rfl (posted [.close _] rfl)))
  | swept first =>
    refine .inl ?_
    have every : (scale.registry.gauges.keys.map BackendCall.close).filterMap BackendCall.closing? =
        scale.registry.gauges.keys := by
      rw [List.filterMap_map]
      exact List.filterMap_some
    rw [Tallies, posted _ rfl, every, List.append_nil, Registry.Scale.sweeping]
    simp only [first, Bool.not_false, Bool.and_true]
    exact .refl _
  | taken live => exact .inr ⟨_, live, rfl, rfl⟩
  | @spoiled id serial free later =>
    refine .inl (.of_alike rfl ?_)
    rw [posted [.close id] rfl]
    exact List.perm_append_comm
  | @made id free | @opened id free =>
    have enrolled : Tallies [id] scale.registry (scale.registry.enroll id) := by
      refine .of_alike rfl ?_
      rw [show closing (scale.registry.enroll id) = [] from silent]
      exact .of_eq (List.map_append ..)
    exact .inl enrolled

theorem Step.stays_swept (step : Step ended scale given next) (swept : scale.registry.swept = true) :
    next.registry.swept = true := by
  cases step with
  | still | typed | grabbed | hidden | lapsed | emptied | closed | taken | spoiled | made | opened => exact swept
  | fitted fit | released fit | fired _ fit | revealed fit | selected _ _ fit | succeeded _ _ fit =>
    exact fit.abides.swept.trans swept
  | swept => rfl

end Panel.Scale

/-- A backend with the identifiers that it gave, oldest first. -/
structure Recorder (β : Type) where
  inner : β
  given : List String := []

namespace Recorder
variable {β : Type} [SessionBackend β]

instance : SessionBackend (Recorder β) where
  ask cwd recorder :=
    let (wait, records, inner) := SessionBackend.ask cwd recorder.inner
    (wait, records, { recorder with inner := inner })
  spawn cwd recorder :=
    let (spawned, records, inner) := SessionBackend.spawn cwd recorder.inner
    (spawned, records, { inner := inner, given := recorder.given ++ spawned.toOption.toList })
  begin call recorder :=
    let (progress, records, inner) := SessionBackend.begin call recorder.inner
    (progress, records, { recorder with inner := inner })
  wiring recorder := SessionBackend.wiring recorder.inner

private theorem served_given {recorder other : Recorder β} (served : Served Request.panelwise recorder other) :
    other.given = recorder.given := by
  cases served with
  | rest | ask | call => rfl
  | adjust allowed => cases allowed

private theorem deal_given {panel : Panel} {recorder other : Recorder β} {given : List String} {ended : Ending Failure Panel}
    (deal : Deal panel recorder given ended other) : other.given = recorder.given ++ given := by
  cases deal with
  | rest served => rw [served_given served, List.append_nil]
  | perform | reveal | fire | sweep => exact (List.append_nil _).symm
  | @land cwd purpose asked served tabbed =>
    rw [← served_given served]
    rfl

end Recorder

namespace Dock
variable {β : Type} {dock : Dock β}

def closed (dock : Dock β) : List String :=
  dock.begun.filterMap BackendCall.closing?

def sweptIn (first last : Dock β) : List String :=
  if last.panel.registry.swept && !first.panel.registry.swept then first.panel.registry.sessions.keys else []

def sweptOver [SessionBackend β] (dock : Dock β) : List (Beat β) → List String
  | [] => []
  | beat :: rest => dock.sweptIn (dock.beat beat) ++ (dock.beat beat).sweptOver rest

/-- The account of the processes so far. -/
structure Balanced (sweeps : List String) (dock : Dock (Recorder β)) : Prop where
  known : ∀ id ∈ dock.panel.registry.sessions.keys, id ∈ dock.backend.given
  balance : ∀ id, dock.backend.given.count id ≤ 1 →
    (dock.issued.filterMap BackendCall.closing?).count id + dock.panel.registry.sessions.keys.count id =
      dock.backend.given.count id + sweeps.count id
  distinct : sweeps.Nodup
  pending : dock.panel.registry.swept = false → sweeps = []

variable [SessionBackend β] {dock : Dock (Recorder β)} {beat : Beat (Recorder β)} {sweeps : List String}

/-- A beat tallies, unless a process has the identifier of a session that lives. -/
structure Counted (given : List String) (first last : Dock (Recorder β)) : Prop where
  gave : last.backend.given = first.backend.given ++ given
  kept : last.panel.registry.swept = false → first.panel.registry.swept = false
  tally : ∃ closing, (last.issued.filterMap BackendCall.closing?).Perm
      (first.issued.filterMap BackendCall.closing? ++ closing) ∧
    ((closing ++ last.panel.registry.sessions.keys).Perm
        (first.panel.registry.sessions.keys ++ given ++ first.sweptIn last) ∨
      ∃ id ∈ first.panel.registry.sessions.keys, given = [id] ∧ closing = [] ∧
        last.panel.registry.sessions.keys = first.panel.registry.sessions.keys ∧ first.sweptIn last = [])

theorem Steady.counted (steady : dock.Steady) (allowed : beat.panelwise = true) :
    ∃ given, Counted given dock (dock.beat beat) := by
  obtain ⟨given, ended, advance⟩ := steady.advance allowed
  have keys : (dock.beat beat).panel.registry.sessions.keys = ended.state.scale.registry.gauges.keys := by
    rw [advance.account.panel]
    exact (Registry.keys_scale _).symm
  have before : dock.panel.registry.sessions.keys = dock.panel.scale.registry.gauges.keys := (Registry.keys_scale _).symm
  have swept : dock.sweptIn (dock.beat beat) = dock.panel.scale.registry.sweeping ended.state.scale.registry := by
    rw [sweptIn, before, advance.account.panel]
    rfl
  refine ⟨given, Recorder.deal_given advance.account.deal, fun unswept => ?_, ended.state.scale.registry.closing, ?_, ?_⟩
  · rw [advance.account.panel] at unswept
    refine Bool.eq_false_iff.mpr fun already => ?_
    exact Bool.noConfusion (unswept.symm.trans (advance.step.stays_swept already))
  · have issued := advance.account.issued.filterMap BackendCall.closing?
    rw [List.filterMap_append] at issued
    exact issued
  · rw [keys, before, swept]
    rcases advance.step.tallies steady.calm with tally | ⟨id, live, same, stays⟩
    · exact .inl tally
    · refine .inr ⟨id, live, same, ?_, ?_, ?_⟩
      · rw [stays, Registry.Scale.closing, steady.calm]
        rfl
      · rw [stays]
      · rw [stays]
        exact Registry.Scale.sweeping_same rfl

omit [SessionBackend β] in
theorem Counted.balanced {given : List String} {last : Dock (Recorder β)} (counted : Counted given dock last)
    (unique : dock.panel.registry.sessions.keys.Nodup) (balanced : dock.Balanced sweeps) :
    last.Balanced (sweeps ++ dock.sweptIn last) := by
  obtain ⟨gave, kept, closing, issued, tally⟩ := counted
  have within : ∀ id ∈ dock.sweptIn last, id ∈ dock.panel.registry.sessions.keys := by
    intro id member
    rw [sweptIn] at member
    split at member
    · exact member
    · cases member
  refine ⟨fun id live => ?_, fun id once => ?_, ?_, fun unswept => ?_⟩
  · rw [gave, List.mem_append]
    rcases tally with tally | ⟨-, -, -, -, keys, -⟩
    · have among := tally.subset (List.mem_append_right closing live)
      rw [List.mem_append, List.mem_append] at among
      rcases among with (old | new) | swept
      · exact .inl (balanced.known id old)
      · exact .inr new
      · exact .inl (balanced.known id (within id swept))
    · exact .inl (balanced.known id (keys ▸ live))
  · rw [gave, List.count_append] at once
    have before := balanced.balance id (by omega)
    rw [issued.count_eq, List.count_append, gave, List.count_append, List.count_append]
    rcases tally with tally | ⟨other, live, rfl, rfl, keys, swept⟩
    · have now := tally.count_eq id
      simp only [List.count_append] at now
      omega
    · -- a process that is given for a session that lives was given before
      have known := List.count_pos_iff.mpr (balanced.known other live)
      have different : other ≠ id := by
        rintro rfl
        rw [List.count_singleton_self] at once
        omega
      rw [keys, swept, List.count_singleton, List.count_nil, if_neg (mt beq_iff_eq.mp different)]
      exact before
  · rw [sweptIn]
    split
    next fires =>
      rw [Bool.and_eq_true, Bool.not_eq_true'] at fires
      rw [balanced.pending fires.2, List.nil_append]
      exact unique
    next =>
      rw [List.append_nil]
      exact balanced.distinct
  · rw [sweptIn, unswept, balanced.pending (kept unswept)]
    rfl

private theorem play_balanced {beats : List (Beat (Recorder β))} (steady : dock.Steady)
    (allowed : ∀ beat ∈ beats, beat.panelwise = true) (balanced : dock.Balanced sweeps) :
    (dock.play beats).Balanced (sweeps ++ dock.sweptOver beats) := by
  induction beats generalizing dock sweeps with
  | nil =>
    rw [sweptOver, List.append_nil]
    exact balanced
  | cons first rest ih =>
    have now := allowed first (List.mem_cons_self ..)
    obtain ⟨given, counted⟩ := steady.counted now
    rw [sweptOver, ← List.append_assoc]
    exact ih (steady.next now) (fun beat member => allowed beat (List.mem_cons_of_mem _ member))
      (counted.balanced steady.valid.registry.keys balanced)

section Fresh
variable {panel : Panel} {backend : β} {hook : Transport.FailureHook} {beats : List (Beat (Recorder β))} {id : String}

omit [SessionBackend β] in
private theorem balanced_fresh (new : panel.New) (backend : β) (hook : Transport.FailureHook) :
    (Dock.fresh panel (⟨backend, []⟩ : Recorder β) hook).Balanced [] := by
  have nobody : panel.registry.sessions.keys = [] := by
    rw [new.blank.sessions]
    rfl
  refine ⟨fun id live => ?_, fun id _ => ?_, List.nodup_nil, fun _ => rfl⟩
  · have live : id ∈ panel.registry.sessions.keys := live
    rw [nobody] at live
    cases live
  · have none_live : (Dock.fresh panel (⟨backend, []⟩ : Recorder β) hook).panel.registry.sessions.keys = [] := nobody
    rw [none_live]
    rfl

/-- However operations overlap: once everything is done, a process that was given once was closed once exactly if it was
swept and its session lives on, or its session is gone and was not swept. -/
theorem closed_once (new : panel.New) (allowed : ∀ beat ∈ beats, beat.panelwise = true)
    (finished : ((Dock.fresh panel (⟨backend, []⟩ : Recorder β) hook).play beats).jobs = [])
    (once : ((Dock.fresh panel (⟨backend, []⟩ : Recorder β) hook).play beats).backend.given.count id = 1) :
    ((Dock.fresh panel (⟨backend, []⟩ : Recorder β) hook).play beats).closed.count id = 1 ↔
      (((Dock.fresh panel (⟨backend, []⟩ : Recorder β) hook).play beats).panel.registry.has id = true ↔
        id ∈ (Dock.fresh panel (⟨backend, []⟩ : Recorder β) hook).sweptOver beats) := by
  have start : (Dock.fresh panel (⟨backend, []⟩ : Recorder β) hook).Steady := steady_fresh new _ hook
  have balanced := play_balanced start allowed (balanced_fresh new backend hook)
  rw [List.nil_append] at balanced
  have steady := start.play allowed
  generalize (Dock.fresh panel (⟨backend, []⟩ : Recorder β) hook).play beats = last at *
  have begun : last.issued = last.begun := by
    have idle : last.callsFrom 0 = [] := by
      refine List.filterMap_eq_nil_iff.mpr fun entry member => ?_
      have among : entry.2 ∈ last.jobs := List.mem_map_of_mem member
      rw [finished] at among
      cases among
    rw [issued, idle, List.append_nil]
  have balance := balanced.balance id (Nat.le_of_eq once)
  rw [begun, once] at balance
  have live : last.panel.registry.has id = true ↔ id ∈ last.panel.registry.sessions.keys := Assoc.has_iff_mem
  rw [steady.valid.registry.keys.count, balanced.distinct.count] at balance
  rw [live, closed]
  split_ifs at balance with present swept swept
  · exact ⟨fun _ => ⟨fun _ => swept, fun _ => present⟩, fun _ => Nat.add_right_cancel balance⟩
  · exact ⟨fun single => by omega, fun same => absurd (same.mp present) swept⟩
  · exact ⟨fun single => by omega, fun same => absurd (same.mpr swept) present⟩
  · exact ⟨fun _ => ⟨fun here => absurd here present, fun here => absurd here swept⟩, fun _ => balance⟩

/-- One tab is closed, and the other one is left for the sweep. -/
def farewell : List (Beat (Recorder PuppetBackend)) :=
  [.move (.ask .openPanel), .move (.answer 0), .move .turn, .move (.ask (.add none)), .move (.answer 1), .move .turn,
    .move (.ask (.closeSession "term-1")), .move (.ask .shutdown), .move .turn, .move .turn, .move .turn, .move .turn,
    .move .turn, .move .turn]

theorem closed_once_farewell :
    ((Dock.fresh Panel.standard (⟨{ hold := true }, []⟩ : Recorder PuppetBackend) .log).play farewell).closed.count
      "term-1" = 1 ∧
    ((Dock.fresh Panel.standard (⟨{ hold := true }, []⟩ : Recorder PuppetBackend) .log).play farewell).closed.count
      "term-2" = 1 := by
  have allowed : ∀ beat ∈ farewell, beat.panelwise = true := by decide
  have finished : ((Dock.fresh Panel.standard (⟨{ hold := true }, []⟩ : Recorder PuppetBackend) .log).play
      farewell).jobs = [] := List.isEmpty_iff.mp (by decide +kernel)
  exact ⟨(closed_once Panel.standard_new allowed finished (by decide +kernel)).mpr (by decide +kernel),
    (closed_once Panel.standard_new allowed finished (by decide +kernel)).mpr (by decide +kernel)⟩

/-- A session is added, and its process comes after everything was swept. -/
def stranded : List (Beat (Recorder PuppetBackend)) :=
  [.move (.ask .openPanel), .move (.answer 0), .move .turn, .move (.ask (.add none)), .move (.ask .shutdown), .move .turn,
    .move .turn, .move .turn, .move .turn, .move (.answer 1), .move .turn]

/-- Nobody ever closes the process, although the session was made and nothing is left to do. -/
theorem closed_once_fails : (∀ beat ∈ stranded, beat.panelwise = true) ∧
    ((Dock.fresh Panel.standard (⟨{ hold := true }, []⟩ : Recorder PuppetBackend) .log).play stranded).jobs = [] ∧
    ((Dock.fresh Panel.standard (⟨{ hold := true }, []⟩ : Recorder PuppetBackend) .log).play
      stranded).panel.registry.swept = true ∧
    ((Dock.fresh Panel.standard (⟨{ hold := true }, []⟩ : Recorder PuppetBackend) .log).play
      stranded).backend.given = ["term-1", "term-2"] ∧
    ((Dock.fresh Panel.standard (⟨{ hold := true }, []⟩ : Recorder PuppetBackend) .log).play
      stranded).panel.registry.has "term-2" = true ∧
    ((Dock.fresh Panel.standard (⟨{ hold := true }, []⟩ : Recorder PuppetBackend) .log).play stranded).closed =
      ["term-1"] :=
  ⟨by decide, List.isEmpty_iff.mp (by decide +kernel), by decide +kernel, by decide +kernel, by decide +kernel,
    by decide +kernel⟩

end Fresh

end Dock

end TerminalDock
