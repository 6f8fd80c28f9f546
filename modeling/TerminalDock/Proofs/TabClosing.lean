import TerminalDock.Proofs.Drags
import TerminalDock.Proofs.Forefront
import TerminalDock.Proofs.OneAtATime

/-! What becomes of a panel as a tab is closed: without such a tab nothing, with a tab in the background it goes and all
else stays, after the active one the newest of the others is brought to the front, and after the last one the panel is
hidden. -/

namespace TerminalDock
open Proofs.Steps

theorem Registry.mostRecent?_newest {registry : Registry} (ascending : registry.numbers.Pairwise (· < ·)) {newest : Session}
    (found : registry.mostRecent? = some newest) {session : Session} (member : session ∈ registry.sessions.values)
    (other : session ≠ newest) : session.number < newest.number := by
  rw [mostRecent?_of_ascending ascending] at found
  obtain ⟨before, sessions⟩ := List.getLast?_eq_some_iff.mp found
  rw [numbers, sessions, List.map_append, List.pairwise_append] at ascending
  rw [sessions] at member
  rcases List.mem_append.mp member with older | last
  · exact ascending.2.2 _ (List.mem_map_of_mem older) _ (List.mem_map_of_mem (List.mem_singleton_self newest))
  · exact absurd (List.mem_singleton.mp last) other

theorem Registry.isEmpty_iff_absent {registry : Registry} :
    registry.isEmpty = true ↔ ∀ name, registry.session? name = none := by
  rw [isEmpty, List.isEmpty_iff]
  refine ⟨fun empty name => ?_, fun absent => ?_⟩
  · rw [session?, empty]
    rfl
  · cases sessions : registry.sessions with
    | nil => rfl
    | cons entry rest =>
      have gone := absent entry.1
      rw [session?, sessions, Assoc.find?, if_pos rfl] at gone
      cases gone

namespace Panel

/-- A panel once a session is gone, and its rename with it. -/
structure Bereft (id : String) (panel gone : Panel) : Prop where
  valid : gone.registry.WellFormed
  sessions : ∀ name, gone.registry.session? name = if name = id then none else panel.registry.session? name
  face : gone.face = panel.face.closed id
  scale : gone.scale = panel.scale.onRegistry (·.without id)

def succession (id : String) (panel : Panel) (removal : Removal) : PanelStep Removal := do
  if (← get).registry.isEmpty then modify hideEmpty
  else if panel.registry.active == some id then
    if let some successor := (← get).registry.mostRecent? then activate successor.id
  modify drawTabs
  return removal

section Closing
variable {panel gone : Panel} {id : String} {session : Session}

private theorem closeTab_absent (absent : panel.registry.session? id = none) (idle : panel.face.draft ≠ some id) :
    closeTab id {} panel = .ok { removed := false, nowEmpty := panel.registry.isEmpty } panel := by
  have stays : (if panel.editing.any (·.session == id) then { panel with editing := none } else panel) = panel := by
    refine if_neg fun named => idle ?_
    unfold face
    cases editing : panel.editing with
    | none => simp [editing] at named
    | some edit => simpa [editing] using named
  have removed : onRegistry (Registry.remove id {}) panel =
      .ok { removed := false, nowEmpty := panel.registry.isEmpty } panel := by
    rw [onRegistry, Registry.remove_absent absent]
  unfold closeTab
  rw [bind_ok (modify_ends _ panel), stays, bind_ok removed]
  rfl

private theorem closeTab_live (valid : panel.registry.WellFormed) (live : panel.registry.session? id = some session) :
    ∃ gone removal, Bereft id panel gone ∧ closeTab id {} panel = succession id panel removal gone := by
  obtain ⟨begun, start, registry, undrafted, scaled⟩ : ∃ begun : Panel,
      (if panel.editing.any (·.session == id) then { panel with editing := none } else panel) = begun ∧
        begun.registry = panel.registry ∧ begun.face = panel.face.undraft id ∧ begun.scale = panel.scale := by
    have named : panel.editing.any (·.session == id) = true ↔ panel.face.draft = some id := by
      unfold face
      cases panel.editing <;> simp
    refine ⟨_, rfl, by split <;> rfl, ?_, by split <;> rfl⟩
    split
    next here => exact Face.ext rfl rfl rfl (if_pos (named.mp here)).symm
    next other => exact Face.ext rfl rfl rfl (if_neg (mt named.mpr other)).symm
  obtain ⟨removal, last, removed, told, empty, was, stance, sessions, scale⟩ : ∃ removal last,
      Registry.remove id {} panel.registry = .ok removal last ∧ removal.removed = true ∧
        removal.nowEmpty = last.isEmpty ∧ removal.wasActive = (panel.registry.active == some id) ∧
        last.stance = (Registry.apart id session panel.registry).stance ∧
        last.sessions = (Registry.apart id session panel.registry).sessions ∧
        last.scale = panel.registry.scale.without id := by
    obtain ⟨record, removed⟩ := Registry.remove_live live
    refine ⟨_, _, removed, rfl, rfl, rfl, rfl, rfl, ?_⟩
    rw [Registry.scale_log, Registry.scale_submit, Registry.scale_note, ← Registry.scale_submit]
    exact Registry.scale_apart valid live
  have taken : onRegistry (Registry.remove id {}) begun = .ok removal { begun with registry := last } := by
    rw [onRegistry, registry, removed]
  refine ⟨{ begun with registry := last }, removal, ⟨?_, fun name => ?_, ?_, ?_⟩, ?_⟩
  · exact (Registry.apart_sound live valid).1.of_stance stance
  · have found : last.session? name = (Registry.apart id session panel.registry).session? name :=
      congrArg (Assoc.find? name) sessions
    exact found.trans (Registry.session?_apart valid live name)
  · have isOpen := congrArg Face.isOpen undrafted
    have fitting := congrArg Face.fitting undrafted
    have draft := congrArg Face.draft undrafted
    exact Face.ext ((Registry.face_of_stance stance).trans (Registry.apart_face valid live)) isOpen fitting draft
  · exact Scale.ext scale (congrArg (·.isOpen) scaled) (congrArg (·.fitting) scaled) (congrArg (·.dragging) scaled)
      (congrArg (·.frames) scaled)
  · unfold closeTab
    rw [bind_ok (modify_ends _ panel), start, bind_ok taken]
    dsimp only
    rw [if_pos told, empty, was]
    rfl

namespace Bereft

theorem isEmpty (bereft : Bereft id panel gone) :
    gone.registry.isEmpty = true ↔ ∀ name, panel.registry.has name = true → name = id := by
  rw [Registry.isEmpty_iff_absent]
  refine ⟨fun absent name live => ?_, fun alone name => ?_⟩
  · by_contra other
    obtain ⟨session, found⟩ := Assoc.has_iff.mp live
    have left := bereft.sessions name
    rw [if_neg other, absent name] at left
    cases left.trans found
  · rw [bereft.sessions]
    split
    · rfl
    next other =>
      by_contra live
      obtain ⟨session, found⟩ := Option.ne_none_iff_exists'.mp live
      exact other (alone name (Assoc.has_iff.mpr ⟨session, found⟩))

theorem ascending (bereft : Bereft id panel gone) (firm : panel.face.base.Firm) :
    gone.registry.numbers.Pairwise (· < ·) := by
  have fewer : (gone.face.base.roll.values.map Prod.fst).Sublist (panel.face.base.roll.values.map Prod.fst) := by
    rw [bereft.face, Face.base_closed]
    exact ((Assoc.remove_sublist id panel.face.base.roll).map Prod.snd).map Prod.fst
  have numbers := (firm.numbered.fewer fewer).ascending
  rwa [roll_values, List.map_map] at numbers

theorem newest (bereft : Bereft id panel gone) (firm : panel.face.base.Firm) {heir : Session}
    (found : gone.registry.mostRecent? = some heir) :
    heir.id ≠ id ∧ panel.registry.session? heir.id = some heir ∧
      ∀ name session, panel.registry.session? name = some session → name ≠ id → name ≠ heir.id →
        session.number < heir.number := by
  have some_values : gone.registry.sessions.values ≠ [] := by
    intro nobody
    rw [Registry.mostRecent?, nobody] at found
    cases found
  obtain ⟨newest, member, same⟩ := Registry.mostRecent?_mem some_values
  obtain rfl : newest = heir := Option.some.inj (same.symm.trans found)
  have left := bereft.valid.live_of_mem member
  have there := bereft.sessions newest.id
  rw [left] at there
  have other : newest.id ≠ id := by
    intro here
    rw [if_pos here] at there
    cases there
  rw [if_neg other] at there
  refine ⟨other, there.symm, fun name session live elsewhere apart => ?_⟩
  have stays : gone.registry.session? name = some session := by
    rw [bereft.sessions, if_neg elsewhere]
    exact live
  refine Registry.mostRecent?_newest (bereft.ascending firm) found (Assoc.mem_values_of_find? stays) ?_
  rintro rfl
  exact apart (bereft.valid.named name session stays).symm

end Bereft

private theorem succession_last (removal : Removal) (empty : gone.registry.isEmpty = true) :
    succession id panel removal gone = .ok removal gone.hideEmpty.drawTabs := by
  unfold succession
  rw [get_bind, if_pos empty]
  rfl

private theorem succession_background (removal : Removal) (peopled : gone.registry.isEmpty = false)
    (other : panel.registry.active ≠ some id) : succession id panel removal gone = .ok removal gone.drawTabs := by
  unfold succession
  rw [get_bind, if_neg (by simp [peopled]), if_neg (by simpa using other)]
  rfl

private theorem succession_active (removal : Removal) (peopled : gone.registry.isEmpty = false)
    (active : panel.registry.active = some id) {heir : Session} (found : gone.registry.mostRecent? = some heir) :
    succession id panel removal gone = (do
      activate heir.id
      modify drawTabs
      return removal : PanelStep Removal) gone := by
  unfold succession
  rw [get_bind, if_neg (by simp [peopled]), if_pos (by simp [active]), get_bind, found]

end Closing

/-- The newest session apart from one that goes. -/
structure Heir (id : String) (panel : Panel) (heir : Session) : Prop where
  live : panel.registry.session? heir.id = some heir
  other : heir.id ≠ id
  newest : ∀ name session, panel.registry.session? name = some session → name ≠ id → name ≠ heir.id →
    session.number < heir.number

/-- A session goes, and another one is brought to the front; it gets the focus if that follows. -/
structure Succeeded (id : String) (heir : Session) (focus : Bool) (panel closed : Panel) : Prop where
  active : closed.registry.active = some heir.id
  isOpen : closed.isOpen = panel.isOpen
  survivors : ∀ name, closed.registry.has name = true ↔ panel.registry.has name = true ∧ name ≠ id
  visible : ∀ name session, closed.registry.session? name = some session →
    (session.view.visible = true ↔ panel.isOpen = true ∧ name = heir.id)
  focused : ∀ name session, closed.registry.session? name = some session →
    (session.surface.focused = true ↔ name = heir.id ∧ focus = true)

/-- How the closing of a tab changes the panel, with the calls that it submits and the failure that it comes to. -/
structure TabClosed (id : String) (panel closed : Panel) (calls : List BackendCall) (failure : Option Failure) : Prop where
  unknown : panel.registry.session? id = none → closed = panel ∧ calls = [] ∧ failure = none
  background : panel.registry.has id = true → panel.registry.active ≠ some id →
    closed.registry.active = panel.registry.active ∧ closed.isOpen = panel.isOpen ∧
      (∀ name, closed.registry.session? name = if name = id then none else panel.registry.session? name) ∧
      calls = [.close id] ∧ failure = none
  succeeded : panel.registry.active = some id → (∃ other, other ≠ id ∧ panel.registry.has other = true) →
    ∃ heir told focus, Heir id panel heir ∧ heir.Fronted panel.isOpen told failure focus ∧
      Succeeded id heir focus panel closed ∧ calls = .close id :: told
  last : panel.registry.has id = true → (∀ other, panel.registry.has other = true → other = id) →
    closed.registry.active = none ∧ closed.registry.isEmpty = true ∧ closed.isOpen = false ∧ closed.editing = none ∧
      calls = [.close id] ∧ failure = none

section Closed
variable {panel gone closed : Panel} {id : String} {heir : Session}

theorem Bereft.bare (bereft : Bereft id panel gone) (firm : panel.face.base.Firm)
    (empty : gone.registry.isEmpty = true) : gone.registry.active = none ∧ gone.face.draft = none := by
  refine ⟨?_, ?_⟩
  · by_contra some
    obtain ⟨name, active⟩ := Option.ne_none_iff_exists'.mp some
    obtain ⟨session, found⟩ := Assoc.has_iff.mp (bereft.valid.chosen name active)
    cases (Registry.isEmpty_iff_absent.mp empty name).symm.trans found
  · have draft : gone.face.draft = if panel.face.draft = some id then none else panel.face.draft :=
      congrArg Face.draft bereft.face
    rw [draft]
    split
    · rfl
    next other =>
      by_contra some
      obtain ⟨name, drafted⟩ := Option.ne_none_iff_exists'.mp some
      have live : name ∈ panel.face.base.roll.keys := firm.drafted name drafted
      rw [Face.keys_base, ← has_face] at live
      rw [bereft.isEmpty.mp empty name live] at drafted
      exact other drafted

private theorem bare_hidden (bereft : Bereft id panel gone) (firm : panel.face.base.Firm)
    (empty : gone.registry.isEmpty = true)
    (faces : closed.face = gone.face.exhibit false) :
    closed.registry.active = none ∧ closed.registry.isEmpty = true ∧ closed.isOpen = false ∧ closed.editing = none := by
  obtain ⟨active, draft⟩ := bereft.bare firm empty
  have undrafted : closed.face.draft = none := (congrArg Face.draft faces).trans draft
  have roll : closed.face.base.roll = [] := by
    rw [faces, Face.base_exhibit]
    exact (roll_isEmpty gone).mpr empty
  exact ⟨(congrArg (·.registry.active) faces).trans active, (roll_isEmpty closed).mp roll, congrArg Face.isOpen faces,
    Option.map_eq_none_iff.mp undrafted⟩

theorem Succeeded.of_face (valid : panel.registry.WellFormed) (staged : panel.face.Staged)
    (active : panel.registry.active = some id) {focus : Bool}
    (faces : closed.face = (panel.face.closed id).select heir.id focus) : Succeeded id heir focus panel closed := by
  have unique := keys_unique valid
  have stage : closed.face.Staged := faces ▸ staged.succeeded unique active heir.id _
  have chosen : closed.registry.active = some heir.id := congrArg (·.registry.active) faces
  have isOpen : closed.isOpen = panel.isOpen := congrArg Face.isOpen faces
  refine ⟨chosen, isOpen, fun name => ?_, fun name session live => ?_, fun name session live => ?_⟩
  · have keys : closed.face.registry.sessions.keys = (panel.face.closed id).registry.sessions.keys := by
      rw [← Face.keys_base, faces, Face.base_select, Face.keys_base]
    rw [has_face, has_face, keys, ← Assoc.has_iff_mem, ← Assoc.has_iff_mem, Assoc.has_iff, Assoc.has_iff]
    change (∃ face, Assoc.find? name (panel.face.registry.sessions.remove id) = some face) ↔ _
    by_cases here : name = id
    · subst here
      rw [Assoc.find?_remove_self unique]
      exact ⟨fun gone => (Option.some_ne_none _ gone.choose_spec.symm).elim, fun both => absurd rfl both.2⟩
    · rw [Assoc.find?_remove_of_ne here]
      exact ⟨fun there => ⟨there, here⟩, And.left⟩
  · rw [(Exclusive.of_staged stage).visible name session live, isOpen, chosen, Option.some.injEq]
    exact and_congr_right fun _ => eq_comm
  · have member : (name, session.face) ∈ ((panel.face.closed id).registry.alter heir.id
        (Session.Face.lit (panel.face.closed id).fitting focus)).sessions := by
      have there := Assoc.mem_of_find? (live_face live)
      rwa [faces] at there
    obtain ⟨old, inside, here⟩ := Registry.Face.mem_alter member
    have dark : old.focused = false := by
      obtain ⟨other, before⟩ := Face.mem_closed unique inside
      refine Bool.eq_false_iff.mpr fun focused => other ?_
      have named := beq_iff_eq.mp ((staged.lit name old before).focused focused)
      exact Option.some.inj (named.symm.trans active)
    rcases here with ⟨same, lit⟩ | ⟨elsewhere, unlit⟩
    · have focused : session.surface.focused = (focus || old.focused) :=
        congrArg Session.Face.focused lit
      rw [focused, dark, Bool.or_false]
      exact ⟨fun focused => ⟨same, focused⟩, And.right⟩
    · have focused : session.surface.focused = old.focused := congrArg Session.Face.focused unlit
      rw [focused, dark]
      exact ⟨Bool.noConfusion, fun both => absurd both.1 elsewhere⟩

end Closed

@[simp] theorem face_drawTabs (panel : Panel) : panel.drawTabs.face = panel.face := rfl

section Policy
variable {panel gone : Panel} {id : String}

private theorem absent_closed (valid : panel.registry.WellFormed) (firm : panel.face.base.Firm)
    (drained : panel.drained = panel)
    (found : panel.registry.session? id = none) :
    TabClosed id panel (after (closeTab id {}) panel).drained (after (closeTab id {}) panel).registry.outbox
      (ending (closeTab id {}) panel).failure := by
  have silent : panel.registry.outbox = [] := by
    rw [← drained]
    rfl
  have absent : ¬panel.registry.has id = true := by
    intro live
    obtain ⟨session, there⟩ := Assoc.has_iff.mp live
    cases found.symm.trans there
  have idle : panel.face.draft ≠ some id := by
    intro drafted
    have live : id ∈ panel.face.base.roll.keys := firm.drafted id drafted
    rw [Face.keys_base, ← has_face] at live
    exact absent live
  rw [after, ending, closeTab_absent found idle]
  exact ⟨fun _ => ⟨drained, silent, rfl⟩, fun live => absurd live absent,
    fun active _ => absurd (valid.chosen id active) absent, fun live => absurd live absent⟩

theorem Bereft.outbox (bereft : Bereft id panel gone) (drained : panel.drained = panel) :
    gone.registry.outbox = [.close id] := by
  have submitted : gone.registry.outbox = panel.registry.outbox ++ [.close id] :=
    congrArg (·.registry.outbox) bereft.scale
  rw [submitted, ← drained]
  rfl

private theorem last_closed (bereft : Bereft id panel gone) (firm : panel.face.base.Firm) (drained : panel.drained = panel)
    (live : panel.registry.has id = true) (active : panel.registry.active = some id)
    (empty : gone.registry.isEmpty = true) :
    TabClosed id panel gone.hideEmpty.drawTabs.drained gone.hideEmpty.drawTabs.registry.outbox none := by
  have last := bereft.isEmpty.mp empty
  have calls : gone.hideEmpty.drawTabs.registry.outbox = [.close id] := by
    have hidden : gone.hideEmpty.drawTabs.scale = gone.scale.exhibit false := by
      rw [scale_drawTabs, hideEmpty, scale_log, scale_setVisible]
    have same : gone.hideEmpty.drawTabs.registry.outbox = gone.registry.outbox := congrArg (·.registry.outbox) hidden
    rw [same, bereft.outbox drained]
  have faces : gone.hideEmpty.drawTabs.drained.face = gone.face.exhibit false := by
    rw [drained_face, face_drawTabs, hideEmpty_face bereft.valid]
  obtain ⟨nobody, bare, hidden, unnamed⟩ := bare_hidden bereft firm empty faces
  refine ⟨fun absent => ?_, fun _ other => absurd active other, fun _ some => ?_, fun _ _ => ?_⟩
  · rw [Registry.has, Assoc.has, show panel.registry.sessions.find? id = none from absent] at live
    cases live
  · obtain ⟨other, different, there⟩ := some
    exact absurd (last other there) different
  · exact ⟨nobody, bare, hidden, unnamed, calls, rfl⟩

private theorem background_closed (bereft : Bereft id panel gone) (drained : panel.drained = panel)
    (live : panel.registry.has id = true) (other : panel.registry.active ≠ some id)
    (peopled : gone.registry.isEmpty = false) :
    TabClosed id panel gone.drawTabs.drained gone.drawTabs.registry.outbox none := by
  have active : gone.registry.active = panel.registry.active :=
    (congrArg (·.registry.active) bereft.face).trans (if_neg (mt beq_iff_eq.mp other))
  refine ⟨fun absent => ?_, fun _ _ => ?_, fun active => absurd active other, fun _ last => ?_⟩
  · rw [Registry.has, Assoc.has, show panel.registry.sessions.find? id = none from absent] at live
    cases live
  · exact ⟨active, congrArg Face.isOpen bereft.face, bereft.sessions, bereft.outbox drained, rfl⟩
  · cases peopled.symm.trans (bereft.isEmpty.mpr last)

private theorem active_closed (bereft : Bereft id panel gone) (valid : panel.registry.WellFormed)
    (staged : panel.face.Staged)
    (firm : panel.face.base.Firm) (pliable : panel.scale.registry.Pliable) (attached : panel.face.registry.Attached)
    (drained : panel.drained = panel) (active : panel.registry.active = some id) (peopled : gone.registry.isEmpty = false)
    (removal : Removal) :
    TabClosed id panel (after (succession id panel removal) gone).drained
      (after (succession id panel removal) gone).registry.outbox (ending (succession id panel removal) gone).failure := by
  have some_values : gone.registry.sessions.values ≠ [] := by
    intro nobody
    have empty := List.map_eq_nil_iff.mp nobody
    rw [Registry.isEmpty, empty] at peopled
    cases peopled
  obtain ⟨heir, member, found⟩ := Registry.mostRecent?_mem some_values
  have left := bereft.valid.live_of_mem member
  obtain ⟨other, there, newest⟩ := bereft.newest firm found
  have prospect : gone.prospect heir = panel.prospect heir := by
    have fitting : gone.fitting = panel.fitting := congrArg Face.fitting bereft.face
    simp only [Panel.prospect, fitting]
  have shape : heir.surface.build.Pliable := pliable.live heir.id heir.gauge (Registry.live_scale there)
  have placed : heir.view.attached = true := attached heir.id heir.face (Assoc.mem_of_find? (live_face there))
  let follow : PanelStep Removal := do
    activate heir.id
    modify drawTabs
    return removal
  have goes : succession id panel removal gone = follow gone := succession_active removal peopled active found
  have settles : Settles follow heir.id (gone.prospect heir) gone (gone.scale.onRegistry (·.select heir.id)) :=
    (activate_settles bereft.valid shape left placed).followed (fun _ _ => rfl) fun _ _ => rfl
  have faces : (after follow gone).face =
      (panel.face.closed id).select heir.id (ending (activate heir.id) gone).failure.isNone := by
    rw [after_bind_view Panel.face fun _ _ => rfl, activate_face bereft.valid left, bereft.face]
  rw [(activate_settles bereft.valid shape left placed).failure, prospect] at faces
  rw [prospect] at settles
  have submitted : (after follow gone).registry.outbox = .close id :: (panel.prospect heir).calls heir.id := by
    have outbox := congrArg (·.registry.outbox) settles.scale
    rw [Scale.outbox_settle] at outbox
    exact outbox.trans (congrArg (· ++ (panel.prospect heir).calls heir.id) (bereft.outbox drained))
  have same : after (succession id panel removal) gone = after follow gone := by rw [after, goes, after]
  have alike : ending (succession id panel removal) gone = ending follow gone := by rw [ending, goes, ending]
  have failure := settles.failure
  rw [same, alike]
  rw [← drained_face] at faces
  generalize after follow gone = closed at faces submitted
  refine ⟨fun absent => ?_, fun _ other => absurd active other, fun _ _ => ?_, fun _ last => ?_⟩
  · obtain ⟨session, live⟩ := Assoc.has_iff.mp (valid.chosen id active)
    cases absent.symm.trans live
  · rw [failure]
    have front := panel.fronted heir
    rw [← show panel.isOpen = panel.fitting from firm.fitted] at front
    exact ⟨heir, _, _, ⟨there, other, newest⟩, front, .of_face valid staged active faces, submitted⟩
  · cases peopled.symm.trans (bereft.isEmpty.mpr last)

private theorem closeTab_closed (valid : panel.registry.WellFormed) (staged : panel.face.Staged)
    (firm : panel.face.base.Firm)
    (occupied : panel.registry.active = none → panel.face.base.roll = []) (pliable : panel.scale.registry.Pliable)
    (attached : panel.face.registry.Attached) (drained : panel.drained = panel) (id : String) :
    TabClosed id panel (after (closeTab id {}) panel).drained (after (closeTab id {}) panel).registry.outbox
      (ending (closeTab id {}) panel).failure := by
  cases found : panel.registry.session? id with
  | none => exact absent_closed valid firm drained found
  | some session =>
    have live : panel.registry.has id = true := Assoc.has_iff.mpr ⟨session, found⟩
    obtain ⟨gone, removal, bereft, ends⟩ := closeTab_live valid found
    have same : after (closeTab id {}) panel = after (succession id panel removal) gone := by rw [after, ends, after]
    have alike : ending (closeTab id {}) panel = ending (succession id panel removal) gone := by rw [ending, ends, ending]
    rw [same, alike]
    cases empty : gone.registry.isEmpty with
    | true =>
      have last := bereft.isEmpty.mp empty
      have active : panel.registry.active = some id := by
        cases chosen : panel.registry.active with
        | some name => rw [last name (valid.chosen name chosen)]
        | none =>
          have nobody := (roll_isEmpty panel).mp (occupied chosen)
          rw [Registry.has, List.isEmpty_iff.mp nobody] at live
          cases live
      rw [after, ending, succession_last removal empty]
      exact last_closed bereft firm drained live active empty
    | false =>
      by_cases active : panel.registry.active = some id
      · exact active_closed bereft valid staged firm pliable attached drained active empty removal
      · rw [after, ending, succession_background removal empty active]
        exact background_closed bereft drained live active empty

end Policy

end Panel

namespace Dock
variable {β : Type} [SessionBackend β] {dock : Dock β}

private theorem asked_ended {request : Request β} {act : PanelStep Answer} (found : Panel.perform? request = some act)
    (dock : Dock β) : (dock.beat (.move (.ask request))).scheduler.results.has dock.scheduler.fresh = true ∧
      dock.failure? (.move (.ask request)) = (ending act dock.panel).failure := by
  let start : Dock β := { dock with scheduler := (dock.scheduler.create ⟨.begin request, none⟩).2 }
  have ends : (dock.move (.ask request)).scheduler.results.find? dock.scheduler.fresh = some (start.onPanel act).1 := by
    rw [move_ask, begin_performs found]
    have concluded := congrArg (·.scheduler.results)
      (conclude_agenda (start.onPanel act).2 dock.scheduler.fresh (start.onPanel act).1)
    refine (congrArg (Assoc.find? dock.scheduler.fresh) concluded).trans ?_
    exact Assoc.find?_put_self _ _ _
  refine ⟨Assoc.has_iff.mpr ⟨_, ends⟩, ?_⟩
  have result : ((dock.actor? (.move (.ask request))).bind (dock.move (.ask request)).scheduler.results.find?) =
      some (start.onPanel act).1 := ends
  simp only [failure?, result]
  unfold onPanel ending
  cases act dock.panel <;> rfl

theorem Untangled.closes (untangled : dock.Untangled) (id : String) :
    (dock.beat (.move (.ask (.closeSession id)))).scheduler.results.has dock.scheduler.fresh = true ∧
      Panel.TabClosed id dock.panel (dock.beat (.move (.ask (.closeSession id)))).panel
        (dock.submitted (dock.beat (.move (.ask (.closeSession id)))))
        (dock.failure? (.move (.ask (.closeSession id)))) := by
  have found : Panel.perform? (.closeSession id : Request β) = some (do return .removal (← Panel.closeTab id {})) := rfl
  have asked : dock.asked? (.move (.ask (.closeSession id))) = some (.closeSession id) := asked_ask dock _
  obtain ⟨ended, failed⟩ := asked_ended found dock
  have account := asked_account untangled.steady.orderly asked rfl found
  have closed := Panel.closeTab_closed untangled.steady.valid.registry untangled.staged untangled.firm untangled.occupied
    untangled.steady.sane.pliable untangled.steady.attached untangled.steady.orderly.drained id
  rw [ending_map] at account failed
  rw [account.panel, account.submitted, failed, state_ending]
  exact ⟨ended, closed⟩

/-- Whatever operations were run one at a time before, closing a tab leaves everything alone if there is no such tab, takes
a session in the background away and nothing else, brings the newest of the others to the front after the active one,
and hides the panel after the last one. -/
theorem close_policy {given : List (String × Json)} {config : PanelConfig} (valid : Config.validate given = .ok config)
    {scheme : String} {font : Font} {height : Json} {panel : Panel}
    (created : Panel.create config scheme font height = .ok panel) (backend : β) (hook : Transport.FailureHook)
    {beats : List (Beat β)} (allowed : ∀ beat ∈ beats, beat.lively = true)
    (singly : (Dock.fresh panel backend hook).Along Single beats) (id : String) :
    let dock := (Dock.fresh panel backend hook).play beats
    let closed := dock.beat (.move (.ask (.closeSession id)))
    closed.scheduler.results.has dock.scheduler.fresh = true ∧
      Panel.TabClosed id dock.panel closed.panel (dock.submitted closed)
        (dock.failure? (.move (.ask (.closeSession id)))) := by
  obtain ⟨firm, empty⟩ := Panel.create_firm created
  have fresh := untangled_fresh (Panel.create_new valid created) firm empty backend hook
  exact (fresh.play allowed singly).closes id

/-- Three sessions, of which the second one is selected while the third one has been asked for. -/
def threesome : List (Beat PuppetBackend) :=
  [.move (.ask .openPanel), .fire 0, .move (.ask (.add none)), .move .turn, .move (.ask (.add none)), .move .turn,
    .move (.ask (.click "term-2")), .move .turn, .move (.announce (Event.outputOf "term-1") (Event.encodeChunk [104, 105]))]

theorem close_policy_threesome : ∃ config panel, Config.validate [] = .ok config ∧
    Panel.create config "dark" (.measured "Menlo" 13) .null = .ok panel ∧
    let dock := (Dock.fresh panel ({} : PuppetBackend) .log).play threesome
    let closed := dock.beat (.move (.ask (.closeSession "term-2")))
    dock.panel.registry.active = some "term-2" ∧ closed.panel.registry.active = some "term-3" ∧
      dock.submitted closed = [.close "term-2", .resize "term-3" ⟨8, 60⟩] ∧
      Panel.TabClosed "term-2" dock.panel closed.panel (dock.submitted closed)
        (dock.failure? (.move (.ask (.closeSession "term-2")))) := by
  have valid : Config.validate [] = .ok {} := by decide +kernel
  have created : Panel.create {} "dark" (.measured "Menlo" 13) .null = .ok _ := rfl
  have allowed : ∀ beat ∈ threesome, beat.lively = true := by decide +kernel
  have closes := close_policy valid created ({} : PuppetBackend) .log allowed (by decide +kernel) "term-2"
  exact ⟨_, _, valid, created, by decide +kernel, by decide +kernel, by decide +kernel, closes.2⟩

/-- Two sessions in a panel with such a font, neither of which was ever fitted. -/
def pair : List (Beat PuppetBackend) :=
  [.move (.ask .openPanel), .move (.ask (.add none))]

/-- The one that is left becomes active, but it cannot be fitted, and so it is neither resized nor focused. -/
theorem close_policy_fails : ∃ panel, Panel.create {} "dark" .flat .null = .ok panel ∧
    (∀ beat ∈ pair, beat.lively = true) ∧ (Dock.fresh panel ({} : PuppetBackend) .log).Along Single pair ∧
    let dock := (Dock.fresh panel ({} : PuppetBackend) .log).play pair
    let closed := dock.beat (.move (.ask (.closeSession "term-2")))
    dock.panel.isOpen = true ∧ dock.panel.registry.active = some "term-2" ∧
      closed.panel.registry.active = some "term-1" ∧
      (closed.panel.registry.session? "term-1").map (fun session => (session.laidOut, session.surface.focused)) =
        some (true, false) ∧
      dock.submitted closed = [.close "term-2"] ∧
      dock.failure? (.move (.ask (.closeSession "term-2"))) = some (.fault .zeroDivision "division by zero") := by
  refine ⟨_, rfl, by decide +kernel, by decide +kernel, by decide +kernel, by decide +kernel, by decide +kernel,
    by decide +kernel, by decide +kernel, by decide +kernel⟩

end Dock

end TerminalDock
