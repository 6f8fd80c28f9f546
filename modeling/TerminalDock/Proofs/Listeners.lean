import TerminalDock.Proofs.PanelSteps
import TerminalDock.Proofs.Subscriptions

/-! Who listens to what is typed. A live session listens to its surface, and nobody listens to one that is gone; so
what is typed into a live session is submitted once, and what is typed into any other is lost. -/

namespace TerminalDock
open Proofs.Steps

def Session.ears (session : Session) : List Nat :=
  session.surface.inputListeners

namespace Registry

/-- The live sessions listen to what is typed into them, and nobody listens to those that are gone. -/
structure Attentive (registry : Registry) : Prop where
  live : ∀ session ∈ registry.sessions.values, session.ears = [Session.inputListener]
  gone : ∀ session ∈ registry.retired, session.ears = []

/-- A step in which these calls are submitted; whoever is still live is not to be closed. -/
structure Heeds (calls : List BackendCall) (first last : Registry) : Prop where
  attentive : last.Attentive
  live : ∀ id, last.has id = true → first.has id = true ∧ .close id ∉ calls
  outbox : last.outbox = first.outbox ++ calls

variable {first last : Registry}

theorem Attentive.of_seen (attentive : first.Attentive) (same : last.seen Session.ears = first.seen Session.ears) :
    last.Attentive := by
  have values (registry : Registry) : Assoc.values (registry.seen Session.ears).1 =
    registry.sessions.values.map Session.ears :=
    Assoc.values_map ..
  refine ⟨fun session member => ?_, fun session member => ?_⟩
  · have inside : session.ears ∈ last.sessions.values.map Session.ears := List.mem_map_of_mem member
    rw [← values, same, values] at inside
    obtain ⟨old, before, alike⟩ := List.mem_map.mp inside
    exact alike.symm.trans (attentive.live old before)
  · obtain ⟨old, before, alike⟩ := retired_of_seen same member
    exact alike.symm.trans (attentive.gone old before)

namespace Heeds

theorem of_seen {calls : List BackendCall} (attentive : first.Attentive)
    (same : last.seen Session.ears = first.seen Session.ears) (outbox : last.outbox = first.outbox ++ calls)
    (closes : ∀ id, .close id ∉ calls) : Heeds calls first last :=
  ⟨attentive.of_seen same, fun id lives => ⟨(has_of_seen same id).symm.trans lives, closes id⟩, outbox⟩

theorem quietly (attentive : first.Attentive) (same : last.seen Session.ears = first.seen Session.ears)
    (outbox : last.outbox = first.outbox) : Heeds [] first last :=
  .of_seen attentive same (outbox.trans (List.append_nil _).symm) fun _ => List.not_mem_nil

end Heeds

private theorem ears_of_stance (same : last.stance = first.stance) : last.seen Session.ears = first.seen Session.ears :=
  seen_comp (fun side : Session.Stance => if side.surface.disposed then [] else side.surface.listeners)
    (congrArg Stance.sessions same)

/-- A step that neither concerns those who listen to what is typed nor submits anything. -/
def Aloof (first last : Registry) : Prop :=
  first.WellFormed → last.WellFormed ∧ last.seen Session.ears = first.seen Session.ears ∧ last.outbox = first.outbox

namespace Aloof

protected theorem refl (registry : Registry) : Aloof registry registry := fun valid => ⟨valid, rfl, rfl⟩

protected theorem trans {middle : Registry} (before : Aloof first middle) (later : Aloof middle last) :
    Aloof first last := by
  intro valid
  obtain ⟨valid, ears, outbox⟩ := before valid
  obtain ⟨valid, still, silent⟩ := later valid
  exact ⟨valid, still.trans ears, silent.trans outbox⟩

theorem of_stance (same : last.stance = first.stance) (outbox : last.outbox = first.outbox) : Aloof first last :=
  fun valid => ⟨valid.of_stance same, ears_of_stance same, outbox⟩

end Aloof

private theorem write_aloof {registry : Registry} {session : Session} (bytes : List UInt8) (known : registry.Owns session) :
    Aloof registry (after (onSurface session (Surface.write bytes)) registry) := by
  intro valid
  refine ⟨(onSurface_sound session _ registry valid).1, ?_⟩
  rw [after_onSurface]
  refine ⟨seen_change_of fun other member same => ?_, rfl⟩
  have poise := Surface.poise_write bytes session.surface
  exact (congrArg (fun side : Surface.Poise => if side.disposed then [] else side.listeners) poise).trans
    (congrArg Surface.inputListeners (known other member same)).symm

private theorem markExited_aloof (registry : Registry) (id : String) : Aloof registry (registry.markExited id).2 := by
  intro valid
  refine ⟨(markExited_sound registry id valid).1, ?_⟩
  rcases markExited_cases registry id with same | ⟨serial, same⟩
  · rw [same]
    exact ⟨rfl, rfl⟩
  · rw [same]
    refine ⟨seen_change ?_ _ _, rfl⟩
    exact fun _ => rfl

private theorem aloof_tells : TellRules Owns Aloof where
  refl := .refl
  trans before later := before.trans later
  log _ _ := .of_stance rfl rfl
  mark id registry := markExited_aloof registry id
  marked owned := owned.marked
  write owned bytes := write_aloof bytes owned

private theorem remove_heeds (valid : first.WellFormed) (attentive : first.Attentive) (id : String) :
    Heeds (if first.has id then [.close id] else []) first (after (remove id {}) first) := by
  rcases after_remove id first with ⟨found, same⟩ | ⟨session, record, found, removed⟩
  · have absent : first.has id = false := Option.isSome_eq_false_iff.mpr (Option.isNone_iff_eq_none.mpr found)
    rw [same, absent]
    exact .quietly attentive rfl rfl
  · have present : first.has id = true := Assoc.has_iff.mpr ⟨session, found⟩
    rw [removed, if_pos present]
    have left {name : String} {other : Session} (live : (apart id session first).session? name = some other) :
        name ≠ id ∧ first.session? name = some other := by
      rw [session?_apart valid found] at live
      split at live
      next => cases live
      next elsewhere => exact ⟨elsewhere, live⟩
    refine ⟨⟨fun other member => ?_, fun other member => ?_⟩, fun name lives => ?_, rfl⟩
    · have inside : other ∈ (apart id session first).sessions.values := member
      have live := ((apart_sound found) valid).1.live_of_mem inside
      exact attentive.live other (Assoc.mem_values_of_find? (left live).2)
    · rcases List.mem_cons.mp member with rfl | older
      · rfl
      · obtain ⟨old, before, rfl⟩ := List.mem_map.mp older
        dsimp only
        split
        · rfl
        · exact attentive.gone old before
    · obtain ⟨other, live⟩ := Assoc.has_iff.mp lives
      obtain ⟨elsewhere, before⟩ := left live
      refine ⟨Assoc.has_iff.mpr ⟨other, before⟩, fun closed => elsewhere ?_⟩
      exact BackendCall.close.inj (List.mem_singleton.mp closed)

inductive Greets (spawned : Except Failure String) (first last : Registry) : Prop
  | nobody (heeds : Heeds [] first last)
  | spoiled {id : String} (answered : spawned = .ok id) (heeds : Heeds [.close id] first last)
  | welcome {id : String} (answered : spawned = .ok id) (attentive : last.Attentive)
      (live : ∀ other, last.has other = true → first.has other = true ∨ other = id) (outbox : last.outbox = first.outbox)

theorem create_greets (attentive : first.Attentive) (cwd : String) (spawned : Except Failure String)
    (faults : String → WiringFaults) : Greets spawned first (after (create cwd spawned faults) first) := by
  have ends := create_ends cwd spawned faults first
  unfold after
  generalize create cwd spawned faults first = result at ends
  cases ends with
  | refused answered record => exact .nobody (.quietly attentive rfl rfl)
  | taken answered live reason => exact .nobody (.quietly attentive rfl rfl)
  | @spoiled id failure final answered free failed wired =>
    have sessions := sessions_abandoned wired
    have retired : (∀ session ∈ final.retired, session.ears = []) ∧ final.outbox = first.outbox ++ [.close id] := by
      have abandoned (session : Session) : ∀ other ∈ session.retire :: first.retired, other.ears = [] :=
        List.forall_mem_cons.mpr ⟨rfl, attentive.gone⟩
      cases wired with
      | unbuilt failure => exact ⟨attentive.gone, rfl⟩
      | unheard failure => exact ⟨abandoned _, rfl⟩
      | leaking failure => exact ⟨abandoned _, rfl⟩
      | unattached failure => exact ⟨abandoned _, rfl⟩
    refine .spoiled answered ⟨⟨sessions ▸ attentive.live, retired.1⟩, fun other lives => ?_, retired.2⟩
    have before : first.has other = true := by rwa [has, sessions] at lives
    refine ⟨before, fun closed => ?_⟩
    cases BackendCall.close.inj (List.mem_singleton.mp closed)
    obtain ⟨session, live⟩ := Assoc.has_iff.mp before
    cases free.symm.trans live
  | made answered free built wired =>
    cases wired with
    | done =>
      refine .welcome answered ⟨fun session member => ?_, attentive.gone⟩ (fun other lives => ?_) rfl
      · rcases Assoc.mem_values_put member with rfl | old
        · rfl
        · exact attentive.live session old
      · rcases Assoc.mem_keys_put (Assoc.has_iff_mem.mp lives) with same | old
        · exact .inr same
        · exact .inl (Assoc.has_iff_mem.mpr old)

private theorem typed_outbox {session : Session} (bytes : List UInt8) (heard : session.ears = [Session.inputListener]) :
    (typed session bytes first).outbox = first.outbox ++ [.sendInput session.id bytes] := by
  rw [typed, show session.surface.inputListeners = _ from heard]
  rfl

private theorem typed_deaf {session : Session} (bytes : List UInt8) (deaf : session.ears = []) :
    typed session bytes first = first := by
  rw [typed, show session.surface.inputListeners = _ from deaf]
  rfl

end Registry

/-- The requests that are about the sessions and what is typed into them, and not about what is shown. -/
def Request.clerical {β : Type} : Request β → Bool
  | .create _ | .remove _ | .type .. | .rename .. | .setActive _ | .get _ | .mostRecent | .contains _ | .list
  | .markExited _ | .recordGeometry .. | .text _ | .listeners _ | .drain => true
  | _ => false

def Request.typing {β : Type} (registry : Registry) : Request β → List (String × List UInt8)
  | .type id bytes => if registry.has id then [(id, bytes)] else []
  | _ => []

def Request.calls {β : Type} (registry : Registry) : Request β → List BackendCall
  | .type id bytes => if registry.has id then [.sendInput id bytes] else []
  | .remove id => if registry.has id then [.close id] else []
  | _ => []

namespace Panel

private theorem typeInto_heeds {panel : Panel} (valid : panel.registry.WellFormed)
    (attentive : panel.registry.Attentive) (id : String)
    (bytes : List UInt8) : Registry.Heeds (if panel.registry.has id then [.sendInput id bytes] else []) panel.registry
      (after (typeInto id bytes) panel).registry := by
  unfold typeInto
  rw [after_get_bind]
  cases live : panel.registry.session? id with
  | some session =>
    have owner : panel.surfaceOwner? id = some session := by rw [surfaceOwner?, live]
    have heard := attentive.live session (Assoc.mem_values_of_find? live)
    have outbox : (Registry.typed session bytes panel.registry).outbox = _ := Registry.typed_outbox bytes heard
    rw [valid.named id session live] at outbox
    have present : panel.registry.has id = true := Assoc.has_iff.mpr ⟨session, live⟩
    rw [owner, if_pos present]
    exact .of_seen attentive (Registry.ears_of_stance
      (Registry.typed_view Registry.stance Registry.stance_submit session bytes panel.registry)) outbox (by simp)
  | none =>
    have absent : panel.registry.has id = false := Option.isSome_eq_false_iff.mpr (Option.isNone_iff_eq_none.mpr live)
    rw [absent]
    cases owner : panel.surfaceOwner? id with
    | none => exact .quietly attentive rfl rfl
    | some session =>
      rw [surfaceOwner?, live] at owner
      have deaf := attentive.gone session (List.mem_of_find?_eq_some owner)
      have same : Registry.typed session bytes panel.registry = panel.registry := Registry.typed_deaf bytes deaf
      rw [after_modify, changeRegistry, same]
      exact .quietly attentive rfl rfl

theorem tellAll_aloof (event : String) (payload : Event.Payload) (subscribers : List Subscriber) (panel : Panel) :
    Registry.Aloof panel.registry (tellAll event payload subscribers panel).registry :=
  tellAll_registry Registry.aloof_tells (fun subscriber _ valid =>
    Registry.aloof_tells.of_valid subscriber payload valid valid)
    (fun _ _ => .of_stance rfl rfl) event subscribers panel

/-- Whatever is asked of the sessions, those who are live go on to listen. -/
theorem perform_heeds {β : Type} {request : Request β} {act : PanelStep Answer} (found : perform? request = some act)
    (clerical : request.clerical = true) {panel : Panel} (valid : panel.registry.WellFormed)
    (attentive : panel.registry.Attentive) :
    Registry.Heeds (request.calls panel.registry) panel.registry (after act panel).registry := by
  have answered {α : Type} (step : PanelStep α) (answer : α → Answer) :
      (after (do return answer (← step)) panel).registry = (after step panel).registry :=
    after_bind_view Panel.registry (fun _ _ => rfl) panel
  have mild {last : Registry} (same : last.stance = panel.registry.stance) (outbox : last.outbox = panel.registry.outbox) :
      Registry.Heeds [] panel.registry last := .quietly attentive (Registry.ears_of_stance same) outbox
  cases request with
  | type id bytes =>
    cases found
    exact answered (typeInto id bytes) (fun _ => .nothing) ▸ typeInto_heeds valid attentive id bytes
  | remove id =>
    cases found
    rw [answered, after_onRegistry]
    exact Registry.remove_heeds valid attentive id
  | rename id name =>
    cases found
    rw [answered, after_onRegistry]
    refine mild (rename_stance id name panel.registry) ?_
    simp only [Registry.rename, after_get_bind]
    split
    · rfl
    · split <;> rfl
  | setActive id =>
    cases found
    rw [answered, after_onRegistry]
    unfold Registry.setActive
    rw [after_get_bind]
    split <;> exact .quietly attentive rfl rfl
  | markExited id =>
    cases found
    obtain ⟨-, ears, outbox⟩ := Registry.markExited_aloof panel.registry id valid
    exact .quietly attentive ears outbox
  | recordGeometry id size =>
    cases found
    refine mild (recordGeometry_stance panel.registry id size) ?_
    change (panel.registry.recordGeometry id size).outbox = _
    unfold Registry.recordGeometry
    split <;> rfl
  | text id =>
    cases found
    refine mild (congrArg Stance.registry (textOf_mild id panel valid)) ?_
    simp only [textOf, after_get_bind]
    split
    · rfl
    · split <;> rfl
  | get | mostRecent | contains | list | listeners =>
    cases found
    exact mild rfl rfl
  | create | drain => cases found
  | _ => cases clerical

end Panel

end TerminalDock
