import Mathlib.Data.List.Basic
import TerminalDock.Proofs.RegistryOrder
import TerminalDock.Proofs.Titles
import TerminalDock.Proofs.Trimming

/-! Drafting sessions. One draft serves all tabs: to begin a rename elsewhere commits it, and the end of its session
ends it. The name of a session is the last text that was committed for it and was not blank. -/

namespace TerminalDock
open Proofs.Steps

namespace Text

/-- A text with neither a blank at its beginning nor one at its end, and not an empty one. -/
structure Trimmed (text : String) : Prop where
  filled : text ≠ ""
  first : ∀ c ∈ text.toList.head?, isBlank c = false
  last : ∀ c ∈ text.toList.getLast?, isBlank c = false

private theorem toList_stripped (text : String) : (stripped text).toList = strip text.toList :=
  String.toList_ofList

theorem Trimmed.stripped_self {text : String} (trimmed : Trimmed text) : stripped text = text := by
  have led : text.toList.dropWhile isBlank = text.toList := by
    cases shape : text.toList with
    | nil => rfl
    | cons first rest =>
      have solid : isBlank first = false := trimmed.first first (by rw [shape]; rfl)
      rw [List.dropWhile_cons, solid]
      rfl
  rw [stripped, strip, led, dropRightWhile_of_last trimmed.last]
  exact String.ofList_toList

private theorem stripped_trimmed {text : String} (filled : stripped text ≠ "") : Trimmed (stripped text) := by
  refine ⟨filled, ?_, ?_⟩
  · rw [toList_stripped, strip]
    have solid : ∀ c ∈ (text.toList.dropWhile isBlank).head?, isBlank c = false := by
      intro c first
      have solid := List.head?_dropWhile_not isBlank text.toList
      rwa [Option.mem_def.mp first] at solid
    cases shape : text.toList.dropWhile isBlank with
    | nil => exact nofun
    | cons first rest =>
      have solid : isBlank first = false := solid first (by rw [shape]; rfl)
      have step : dropRightWhile isBlank (first :: rest) = first :: dropRightWhile isBlank rest := by
        change (if (dropRightWhile isBlank rest).isEmpty && isBlank first then [] else _) = _
        rw [solid, Bool.and_false]
        rfl
      rw [step]
      intro c same
      cases same
      exact solid
  · rw [toList_stripped]
    exact last_dropRightWhile isBlank _

private theorem stripped_stripped (text : String) : stripped (stripped text) = stripped text := by
  by_cases filled : stripped text = ""
  · rw [filled]
    rfl
  · exact (stripped_trimmed filled).stripped_self

private theorem digit_solid {c : Char} (digit : c.isDigit = true) : isBlank c = false := by
  simp only [Char.isDigit, ge_iff_le, Bool.and_eq_true, decide_eq_true_eq] at digit
  have least : 48 ≤ c.toNat := UInt32.le_iff_toNat_le.mp digit.1
  have most : c.toNat ≤ 57 := UInt32.le_iff_toNat_le.mp digit.2
  simp only [isBlank, Bool.or_eq_false_iff, Bool.and_eq_false_iff, decide_eq_false_iff_not, beq_eq_false_iff_ne]
  omega

private theorem defaultName_trimmed (number : Nat) : Trimmed (Session.defaultName number) := by
  have shape : (Session.defaultName number).toList = "Terminal ".toList ++ Nat.toDigits 10 number := by
    rw [Session.defaultName, String.toList_append]
    exact congrArg _ Nat.toList_repr
  refine ⟨?_, ?_, ?_⟩
  · intro empty
    have none := congrArg String.toList empty
    rw [shape] at none
    cases none
  · rw [shape]
    intro c same
    cases same
    rfl
  · rw [shape, List.getLast?_append_of_ne_nil _ Nat.toDigits_ne_nil]
    intro c last
    exact digit_solid (Nat.isDigit_of_mem_toDigits (by omega) (by omega) (List.mem_of_getLast? last))

end Text

/-- What was typed so far, with the session that it is for, and the texts that were committed, oldest first. -/
structure Drafting where
  draft : Option (Nat × String) := none
  commits : List (Nat × String) := []

namespace Drafting
variable {β : Type} {drafting : Drafting}

/-- The texts that were committed for a session and were not blank, without the blanks around them. -/
def texts (drafting : Drafting) (serial : Nat) : List String :=
  drafting.commits.filterMap fun (owner, text) =>
    if owner = serial ∧ Text.stripped text ≠ "" then some (Text.stripped text) else none

def nameOf (drafting : Drafting) (serial number : Nat) : String :=
  (drafting.texts serial).getLast?.getD (Session.defaultName number)

def commit (drafting : Drafting) : Drafting where
  draft := none
  commits := drafting.commits ++ drafting.draft.toList

def heed (panel : Panel) (drafting : Drafting) : Request β → Drafting
  | .beginRename id =>
    match panel.registry.session? id with
    | none => drafting
    | some session =>
      let before := if drafting.draft.any (·.1 != session.serial) then drafting.commit else drafting
      { before with draft := some (session.serial, before.nameOf session.serial session.number) }
  | .editRename text => { drafting with draft := drafting.draft.map fun draft => (draft.1, text) }
  | .keyRename key =>
    if key = "Return" ∨ key = "Enter" then drafting.commit
    else if key = "Escape" then { drafting with draft := none }
    else drafting
  | .blurRename => drafting.commit
  | .cancelRename => { drafting with draft := none }
  | _ => drafting

def outlive (panel : Panel) (drafting : Drafting) : Drafting :=
  { drafting with draft := drafting.draft.filter fun draft => panel.registry.sessions.values.any (·.serial == draft.1) }

/-- A request after which every session has the name that it had. -/
def Spares (panel : Panel) (drafting : Drafting) : Request β → Prop
  | .editRename _ | .cancelRename | .closeSession _ => True
  | .beginRename id => panel.registry.session? id = none
  | .keyRename key => key = "Return" ∨ key = "Enter" → ∀ draft, drafting.draft = some draft → Text.stripped draft.2 = ""
  | .blurRename => ∀ draft, drafting.draft = some draft → Text.stripped draft.2 = ""
  | _ => False

def tab (drafting : Drafting) (active : Option String) (session : Session) : Tab where
  session := session.id
  label :=
    match drafting.draft with
    | some (serial, text) => if serial = session.serial then text else drafting.nameOf session.serial session.number
    | none => drafting.nameOf session.serial session.number
  active := active == some session.id
  editing := drafting.draft.any (·.1 == session.serial)
  exited := session.exited

private theorem texts_commit (serial : Nat) : drafting.commit.texts serial = drafting.texts serial ++
    drafting.draft.toList.filterMap fun (owner, text) =>
      if owner = serial ∧ Text.stripped text ≠ "" then some (Text.stripped text) else none :=
  List.filterMap_append

private theorem nameOf_commit_other {serial : Nat} (number : Nat)
    (other : ∀ draft, drafting.draft = some draft → draft.1 ≠ serial) :
    drafting.commit.nameOf serial number = drafting.nameOf serial number := by
  rw [nameOf, texts_commit, nameOf]
  cases drafted : drafting.draft with
  | none => simp
  | some draft => simp [other draft drafted]

private theorem nameOf_commit_blank (serial number : Nat)
    (blank : ∀ draft, drafting.draft = some draft → Text.stripped draft.2 = "") :
    drafting.commit.nameOf serial number = drafting.nameOf serial number := by
  rw [nameOf, texts_commit, nameOf]
  cases drafted : drafting.draft with
  | none => simp
  | some draft => simp [blank draft drafted]

private theorem nameOf_commit_filled {serial : Nat} {text : String} (number : Nat)
    (drafted : drafting.draft = some (serial, text)) (filled : Text.stripped text ≠ "") :
    drafting.commit.nameOf serial number = Text.stripped text := by
  rw [nameOf, texts_commit, drafted]
  simp [filled]

private theorem nameOf_unknown {serial : Nat} (number : Nat) (unknown : ∀ commit ∈ drafting.commits, commit.1 < serial) :
    drafting.nameOf serial number = Session.defaultName number := by
  have none : drafting.texts serial = [] := by
    refine List.filterMap_eq_nil_iff.mpr fun commit member => ?_
    have older := unknown commit member
    exact if_neg fun both => by omega
  rw [nameOf, none]
  rfl

private theorem nameOf_trimmed (drafting : Drafting) (serial number : Nat) :
    Text.Trimmed (drafting.nameOf serial number) := by
  rw [nameOf]
  cases last : (drafting.texts serial).getLast? with
  | none => exact Text.defaultName_trimmed number
  | some text =>
    obtain ⟨commit, -, kept⟩ := List.mem_filterMap.mp (List.mem_of_getLast? last)
    dsimp only at kept
    split at kept
    next filled =>
      cases kept
      exact Text.stripped_trimmed filled.2
    next => cases kept

end Drafting

def Request.drafting {β : Type} : Request β → Bool
  | .beginRename _ | .editRename _ | .keyRename _ | .blurRename | .cancelRename => true
  | _ => false

/-- The requests that the surroundings of the tabs make: they rename by the tabs, and close sessions by them. -/
def Request.tabwise {β : Type} : Request β → Bool
  | .rename .. | .remove _ => false
  | _ => true

theorem Request.drafting_performed {β : Type} {request : Request β} (drafts : request.drafting = true) :
    ∃ act, Panel.perform? request = some act := by
  cases request with
  | beginRename _ | editRename _ | keyRename _ | blurRename | cancelRename => exact ⟨_, rfl⟩
  | _ => cases drafts

namespace Panel

namespace Roster

def committed (roster : Roster) : Roster :=
  match roster.editing with
  | none => roster
  | some edit =>
    { roster with
      titles :=
        if Text.stripped edit.text = "" then roster.titles
        else roster.titles.update edit.session fun title => { title with name := Text.stripped edit.text }
      editing := none }

def begun (id : String) (roster : Roster) : Roster :=
  match roster.titles.find? id with
  | none => roster
  | some title =>
    let before := if roster.editing.any (·.session != id) then roster.committed else roster
    { before with editing := some ⟨id, title.name, (0, title.name.length)⟩ }

end Roster

variable {panel : Panel}

private theorem titles_unique (valid : panel.registry.WellFormed) : panel.roster.titles.keys.Nodup := by
  change panel.registry.titles.keys.Nodup
  rw [Registry.titles, Assoc.keys_map]
  exact valid.keys

private theorem rename_roster (valid : panel.registry.WellFormed) {id name : String} (live : panel.registry.has id = true)
    (filled : Text.stripped name ≠ "") : ∃ session last, onRegistry (Registry.rename id name) panel = .ok session last ∧
      last.roster = { panel.roster with
        titles := panel.roster.titles.update id fun title => { title with name := Text.stripped name } } := by
  obtain ⟨session, live⟩ := Assoc.has_iff.mp live
  have live : panel.registry.session? id = some session := live
  have solid : (Text.stripped name).isEmpty = false := by simpa using filled
  have titles : (panel.registry.change session.serial fun old => { old with name := Text.stripped name }).titles =
      panel.roster.titles.update id fun title => { title with name := Text.stripped name } := by
    rw [Assoc.update_eq_map (titles_unique valid)]
    simp only [roster, Registry.titles, Registry.change, List.map_map]
    refine List.map_congr_left fun entry member => congrArg (Prod.mk entry.1) ?_
    obtain ⟨other, found⟩ := entry
    have there : panel.registry.session? other = some found := Assoc.find?_of_mem valid.keys member
    by_cases here : other = id
    · have same : found = session := Option.some.inj (there.symm.trans (here ▸ live))
      simp [here, same, Session.title]
    · have different : found.serial ≠ session.serial := fun equal => here (valid.same_id there live equal)
      simp [here, different]
  obtain ⟨renamed, registry, ends, changed, serial⟩ : ∃ renamed registry,
      Registry.rename id name panel.registry = .ok renamed registry ∧
        registry.titles = (panel.registry.change session.serial fun old =>
          { old with name := Text.stripped name }).titles ∧ registry.serial = panel.registry.serial := by
    rw [Registry.rename, get_bind, live]
    simp only [solid, Bool.false_eq_true, if_false]
    exact ⟨_, _, rfl, rfl, rfl⟩
  refine ⟨renamed, { panel with registry := registry }, ?_, ?_⟩
  · rw [onRegistry, ends]
  · rw [roster, changed.trans titles, serial]
    rfl

private theorem commitRename_roster (valid : panel.registry.WellFormed)
    (live : ∀ edit, panel.editing = some edit → panel.registry.has edit.session = true) :
    ∃ last, commitRename panel = .ok () last ∧ last.roster = panel.roster.committed := by
  rw [commitRename, get_bind, Roster.committed]
  change ∃ last : Panel, _ ∧ last.roster = match panel.editing with | none => panel.roster | some edit => _
  cases editing : panel.editing with
  | none => exact ⟨panel, rfl, rfl⟩
  | some edit =>
    dsimp only
    by_cases blank : Text.stripped edit.text = ""
    · refine ⟨{ panel with editing := none }.drawTabs, ?_, ?_⟩
      · simp only [blank]
        rfl
      · rw [if_pos blank]
        rfl
    · have solid : (Text.stripped edit.text).isEmpty = false := by simpa using blank
      have settled : Text.stripped (Text.stripped edit.text) ≠ "" := by
        rw [Text.stripped_stripped]
        exact blank
      have dropped : ({ panel with editing := none } : Panel).registry.WellFormed := valid
      obtain ⟨session, last, renamed, same⟩ := rename_roster dropped (live edit editing) settled
      refine ⟨last.drawTabs, ?_, ?_⟩
      · simp only [solid, live edit editing, Bool.not_false, Bool.and_self, if_true]
        exact (bind_ok rfl _).trans (bind_ok renamed _)
      · rw [if_neg blank]
        rw [Text.stripped_stripped] at same
        exact same

private theorem beginRename_roster (valid : panel.registry.WellFormed)
    (live : ∀ edit, panel.editing = some edit → panel.registry.has edit.session = true) (id : String) :
    (after (beginRename id) panel).roster = panel.roster.begun id := by
  have lookup : panel.roster.titles.find? id = (panel.registry.session? id).map Session.title :=
    Registry.find?_titles panel.registry id
  rw [beginRename, after_get_bind, Roster.begun, lookup]
  cases found : panel.registry.session? id with
  | none => rfl
  | some session =>
    simp only [Option.map_some, after_get_bind]
    by_cases other : panel.editing.any (·.session != id) = true
    · obtain ⟨last, committed, same⟩ := commitRename_roster valid live
      have elsewhere : panel.roster.editing.any (·.session != id) = true := other
      simp only [other, elsewhere, if_true]
      rw [after, bind_ok committed, ← same]
      rfl
    · have elsewhere : ¬ panel.roster.editing.any (·.session != id) = true := other
      simp only [other, elsewhere]
      rfl

/-- No two sessions share a serial number, and none has the next one. -/
structure Roster.Sane (roster : Roster) : Prop where
  known : ∀ id title, roster.titles.find? id = some title → title.serial < roster.serial
  distinct : ∀ id other title found, roster.titles.find? id = some title → roster.titles.find? other = some found →
    title.serial = found.serial → id = other

private theorem roster_sane (valid : panel.registry.WellFormed) : panel.roster.Sane := by
  have lookup (id : String) : panel.roster.titles.find? id = (panel.registry.session? id).map Session.title :=
    Registry.find?_titles panel.registry id
  refine ⟨?_, ?_⟩
  · intro id title found
    obtain ⟨session, live, rfl⟩ := Option.map_eq_some_iff.mp ((lookup id).symm.trans found)
    exact valid.fresh session (Registry.everyone_of_live live)
  · intro id other title found first second same
    obtain ⟨session, live, rfl⟩ := Option.map_eq_some_iff.mp ((lookup id).symm.trans first)
    obtain ⟨another, there, rfl⟩ := Option.map_eq_some_iff.mp ((lookup other).symm.trans second)
    exact valid.same_id live there same

end Panel

namespace Drafting
open Panel

/-- The tabs show what renaming came to. -/
structure Describes (drafting : Drafting) (roster : Roster) : Prop where
  names : ∀ id title, roster.titles.find? id = some title → title.name = drafting.nameOf title.serial title.number
  past : ∀ commit ∈ drafting.commits, commit.1 < roster.serial
  drafted : ∀ edit, roster.editing = some edit →
    ∃ title, roster.titles.find? edit.session = some title ∧ drafting.draft = some (title.serial, edit.text)
  idle : roster.editing = none → drafting.draft = none

variable {drafting : Drafting} {roster : Roster}

theorem Describes.live {panel : Panel} (describes : drafting.Describes panel.roster) (edit : RenameEdit)
    (editing : panel.editing = some edit) : panel.registry.has edit.session = true := by
  obtain ⟨title, there, -⟩ := describes.drafted edit editing
  obtain ⟨session, found, -⟩ := Option.map_eq_some_iff.mp ((Registry.find?_titles _ _).symm.trans there)
  exact Assoc.has_iff.mpr ⟨session, found⟩

private theorem describes_commit (sane : roster.Sane) (describes : drafting.Describes roster) :
    drafting.commit.Describes roster.committed := by
  unfold Roster.committed
  cases editing : roster.editing with
  | none =>
    have nothing := describes.idle editing
    refine ⟨fun id title found => ?_, ?_, fun edit drafted => ?_, fun _ => rfl⟩
    · rw [nameOf_commit_blank _ _ fun draft drafted => absurd (nothing.symm.trans drafted) nofun]
      exact describes.names id title found
    · simpa [commit, nothing] using describes.past
    · exact absurd (editing.symm.trans drafted) nofun
  | some edit =>
    obtain ⟨title, live, drafted⟩ := describes.drafted edit editing
    have past : ∀ commit ∈ drafting.commit.commits, commit.1 < roster.serial := by
      intro old member
      rw [commit, drafted] at member
      rcases List.mem_append.mp member with before | now
      · exact describes.past old before
      · rw [List.mem_singleton.mp now]
        exact sane.known edit.session title live
    refine ⟨fun id found there => ?_, past, nofun, fun _ => rfl⟩
    dsimp only at there
    by_cases blank : Text.stripped edit.text = ""
    · rw [if_pos blank] at there
      rw [nameOf_commit_blank]
      · exact describes.names id found there
      · intro draft same
        rw [drafted] at same
        cases same
        exact blank
    · rw [if_neg blank] at there
      by_cases here : id = edit.session
      · rw [here, Assoc.find?_update_self, live] at there
        cases there
        exact (nameOf_commit_filled _ drafted blank).symm
      · rw [Assoc.find?_update_of_ne here] at there
        rw [nameOf_commit_other]
        · exact describes.names id found there
        · intro draft same equal
          rw [drafted] at same
          cases same
          exact here (sane.distinct id edit.session found title there live equal.symm)

private theorem describes_draft (describes : drafting.Describes roster) (edit : RenameEdit) {title : Session.Title}
    (live : roster.titles.find? edit.session = some title) :
    ({ drafting with draft := some (title.serial, edit.text) } : Drafting).Describes
      { roster with editing := some edit } := by
  refine ⟨describes.names, describes.past, fun other same => ?_, nofun⟩
  cases same
  exact ⟨title, live, rfl⟩

private theorem describes_dropped (describes : drafting.Describes roster) :
    ({ drafting with draft := none } : Drafting).Describes { roster with editing := none } :=
  ⟨describes.names, describes.past, nofun, fun _ => rfl⟩

private theorem committed_elsewhere {id : String} (other : ∀ edit, roster.editing = some edit → edit.session ≠ id) :
    roster.committed.titles.find? id = roster.titles.find? id := by
  unfold Roster.committed
  cases editing : roster.editing with
  | none => rfl
  | some edit =>
    dsimp only
    split
    · rfl
    · exact Assoc.find?_update_of_ne (other edit editing).symm _ _

private theorem describes_begun {β : Type} {panel : Panel} (valid : panel.registry.WellFormed)
    (describes : drafting.Describes panel.roster) (id : String) :
    (drafting.heed panel (.beginRename id : Request β)).Describes (panel.roster.begun id) := by
  have lookup : panel.roster.titles.find? id = (panel.registry.session? id).map Session.title :=
    Registry.find?_titles panel.registry id
  have sane := roster_sane valid
  rw [heed, Roster.begun]
  cases found : panel.registry.session? id with
  | none =>
    rw [found] at lookup
    rw [lookup]
    exact describes
  | some session =>
    rw [found] at lookup
    have live : panel.roster.titles.find? id = some session.title := lookup
    rw [live]
    dsimp only
    cases editing : panel.roster.editing with
    | none =>
      have same : drafting.nameOf session.serial session.number = session.title.name :=
        (describes.names id session.title live).symm
      rw [describes.idle editing]
      simp only [Option.any_none, Bool.false_eq_true, if_false]
      rw [same]
      exact describes_draft describes ⟨id, session.title.name, _⟩ live
    | some edit =>
      obtain ⟨title, there, drafted⟩ := describes.drafted edit editing
      rw [drafted]
      simp only [Option.any_some]
      by_cases here : edit.session = id
      · rw [here, live] at there
        cases there
        have same : drafting.nameOf session.serial session.number = session.title.name :=
          (describes.names id session.title live).symm
        simp only [here, Session.title, bne_self_eq_false, Bool.false_eq_true, if_false]
        rw [same]
        exact describes_draft describes ⟨id, session.title.name, _⟩ live
      · have apart : title.serial ≠ session.serial := fun equal =>
          here (sane.distinct edit.session id title session.title there live equal)
        have begins := describes_commit sane describes
        have kept : panel.roster.committed.titles.find? id = some session.title := by
          refine (committed_elsewhere fun other same => ?_).trans live
          rw [editing] at same
          cases same
          exact here
        have same : drafting.commit.nameOf session.serial session.number = session.title.name :=
          (begins.names id session.title kept).symm
        have elsewhere : (title.serial != session.serial) = true := bne_iff_ne.mpr apart
        have other : (edit.session != id) = true := bne_iff_ne.mpr here
        simp only [elsewhere, other, if_true]
        rw [same]
        exact describes_draft begins ⟨id, session.title.name, _⟩ kept

/-- Whatever a rename is asked to do, it comes to what it should. -/
theorem describes_heed {β : Type} {panel : Panel} (valid : panel.registry.WellFormed)
    (describes : drafting.Describes panel.roster) {request : Request β} {act : PanelStep Answer}
    (found : Panel.perform? request = some act) (drafts : Request.drafting request = true) :
    (drafting.heed panel request).Describes (after act panel).roster := by
  have live := describes.live
  have commits : drafting.commit.Describes (after commitRename panel).roster := by
    obtain ⟨last, ends, same⟩ := commitRename_roster valid live
    rw [after, ends]
    exact same ▸ describes_commit (roster_sane valid) describes
  have drops : ({ drafting with draft := none } : Drafting).Describes panel.cancelRename.roster := by
    unfold cancelRename
    cases editing : panel.editing with
    | none =>
      have same : panel.roster = { panel.roster with editing := none } := by rw [roster, editing]
      simp only [Option.isSome_none, Bool.false_eq_true, if_false]
      rw [same]
      exact describes_dropped describes
    | some edit => exact describes_dropped describes
  have answering {step : PanelStep Unit} (answer : Unit → Answer) {after' : Drafting}
      (comes : after'.Describes (after step panel).roster) :
      after'.Describes (after (do return answer (← step)) panel).roster := by
    rw [after_bind_view roster (fun _ _ => rfl)]
    exact comes
  cases request with
  | beginRename id =>
    cases found
    rw [after_bind_view roster (fun _ _ => rfl), beginRename_roster valid live]
    exact describes_begun valid describes id
  | editRename text =>
    cases found
    change Describes _ (panel.editRename text).roster
    rw [heed, editRename]
    cases editing : panel.editing with
    | none =>
      obtain ⟨draft, texts⟩ := drafting
      cases describes.idle editing
      exact describes
    | some edit =>
      obtain ⟨title, there, drafted⟩ := describes.drafted edit editing
      rw [drafted]
      exact describes_draft describes { edit with text := text, selection := (text.length, text.length) } there
  | keyRename key =>
    cases found
    refine answering _ ?_
    rw [keyRename, after_get_bind, heed]
    simp only [Bool.or_eq_true, beq_iff_eq]
    cases editing : panel.editing with
    | none =>
      obtain ⟨draft, texts⟩ := drafting
      cases describes.idle editing
      have nothing : commit ⟨none, texts⟩ = ⟨none, texts⟩ := by simp [commit]
      rw [nothing, ite_self, ite_self]
      exact describes
    | some edit =>
      simp only [Option.isSome_some, if_true]
      split
      · exact commits
      · split
        · exact drops
        · exact describes
  | blurRename => cases found; exact answering _ commits
  | cancelRename => cases found; exact drops
  | _ => cases drafts

private theorem heed_calm {β : Type} {panel : Panel} {request : Request β} (calm : request.drafting = false) :
    drafting.heed panel request = drafting := by
  cases request with
  | beginRename _ | editRename _ | keyRename _ | blurRename | cancelRename => cases calm
  | _ => rfl

private theorem tabs_eq {panel : Panel} (valid : panel.registry.WellFormed) (describes : drafting.Describes panel.roster) :
    panel.tabs = panel.registry.ordered.map (drafting.tab panel.registry.active) := by
  refine List.map_congr_left fun session member => ?_
  have member : session ∈ panel.registry.sessions.values := panel.registry.ordered_perm.mem_iff.mp member
  have live := valid.live_of_mem member
  have title : panel.roster.titles.find? session.id = some session.title :=
    (Registry.find?_titles _ _).trans (congrArg (Option.map Session.title) live)
  have name : session.name = drafting.nameOf session.serial session.number :=
    describes.names session.id session.title title
  rw [tab, ← name]
  cases editing : panel.editing with
  | none =>
    rw [describes.idle editing]
    rfl
  | some edit =>
    obtain ⟨other, there, drafted⟩ := describes.drafted edit editing
    have same : other.serial = session.serial ↔ edit.session = session.id := by
      refine ⟨fun same => ?_, fun here => ?_⟩
      · exact (roster_sane valid).distinct edit.session session.id other session.title there title same
      · rw [here, title] at there
        cases there
        rfl
    rw [drafted]
    by_cases here : edit.session = session.id
    · simp [here, same.mpr here, Option.filter_some]
    · simp [here, mt same.mp here, Option.filter_some]

private theorem spares_performed {β : Type} {panel : Panel} {request : Request β} (spares : drafting.Spares panel request) :
    ∃ act, Panel.perform? request = some act := by
  cases request with
  | editRename _ | cancelRename | closeSession _ | beginRename _ | keyRename _ | blurRename => exact ⟨_, rfl⟩
  | _ => cases spares

private theorem spares_titles {β : Type} {panel : Panel} (valid : panel.registry.WellFormed)
    (describes : drafting.Describes panel.roster) {request : Request β} {act : PanelStep Answer}
    (found : Panel.perform? request = some act) (spares : drafting.Spares panel request) (id : String)
    (title : Session.Title) (there : (after act panel).roster.titles.find? id = some title) :
    panel.roster.titles.find? id = some title := by
  have live := describes.live
  have sane := roster_sane (perform_sound found panel valid).1
  have blank (unsaid : ∀ draft, drafting.draft = some draft → Text.stripped draft.2 = "") :
      (after commitRename panel).roster.titles = panel.roster.titles := by
    obtain ⟨last, ends, same⟩ := commitRename_roster valid live
    rw [after, ends]
    refine (congrArg Roster.titles same).trans ?_
    unfold Roster.committed
    cases editing : panel.roster.editing with
    | none => rfl
    | some edit =>
      obtain ⟨title, -, drafted⟩ := describes.drafted edit editing
      exact if_pos (unsaid _ drafted)
  have dropped : panel.cancelRename.roster.titles = panel.roster.titles := by
    unfold cancelRename
    split <;> rfl
  have answering {step : PanelStep Unit} (answer : Unit → Answer)
      (same : (after step panel).roster.titles = panel.roster.titles)
      (there : (after (do return answer (← step)) panel).roster.titles.find? id = some title) :
      panel.roster.titles.find? id = some title := by
    rw [after_bind_view roster (fun _ _ => rfl), same] at there
    exact there
  cases request with
  | beginRename other =>
    cases found
    rw [after_bind_view roster (fun _ _ => rfl), beginRename_roster valid live, Roster.begun] at there
    have absent : panel.roster.titles.find? other = none :=
      (Registry.find?_titles _ _).trans (congrArg (Option.map Session.title) spares)
    rw [absent] at there
    exact there
  | editRename text =>
    cases found
    have same : (panel.editRename text).roster.titles = panel.roster.titles := by
      unfold editRename
      split <;> rfl
    exact same ▸ there
  | keyRename key =>
    cases found
    refine answering _ ?_ there
    rw [keyRename, after_get_bind]
    split
    · split
      next commits =>
        refine blank (spares ?_)
        simpa only [Bool.or_eq_true, beq_iff_eq] using commits
      next =>
        split
        · exact dropped
        · rfl
    · rfl
  | blurRename =>
    cases found
    exact answering _ (blank spares) there
  | cancelRename =>
    cases found
    exact dropped ▸ there
  | closeSession other =>
    cases found
    rw [after_bind_view roster (fun _ _ => rfl)] at there sane
    rcases (closeTab_spared other valid).live id title there with old | ⟨new, -⟩
    · exact old
    · -- closing a tab makes no session
      have known := sane.known id title there
      rw [closeTab_serial other valid] at known
      omega
  | _ => cases spares

private theorem outlive_live {panel : Panel} (describes : drafting.Describes panel.roster) :
    drafting.outlive panel = drafting := by
  have kept : drafting.draft.filter (fun draft => panel.registry.sessions.values.any (·.serial == draft.1)) =
      drafting.draft := by
    cases editing : panel.editing with
    | none => rw [describes.idle editing]; rfl
    | some edit =>
      obtain ⟨title, there, drafted⟩ := describes.drafted edit editing
      obtain ⟨session, found, rfl⟩ := Option.map_eq_some_iff.mp ((Registry.find?_titles _ _).symm.trans there)
      have member := Assoc.mem_values_of_find? found
      rw [drafted]
      refine Option.filter_eq_some_iff.mpr ⟨rfl, List.any_eq_true.mpr ⟨session, member, ?_⟩⟩
      exact beq_self_eq_true _
  rw [outlive, kept]

private theorem describes_outlive {panel last : Panel} (valid : panel.registry.WellFormed) (sound : last.registry.WellFormed)
    (describes : drafting.Describes panel.roster) (spared : Spared panel.roster last.roster) :
    (drafting.outlive last).Describes last.roster := by
  have names (id : String) (title : Session.Title) (found : last.roster.titles.find? id = some title) :
      title.name = drafting.nameOf title.serial title.number := by
    rcases spared.live id title found with old | ⟨new, name⟩
    · exact describes.names id title old
    · rw [nameOf_unknown title.number fun commit member => Nat.lt_of_lt_of_le (describes.past commit member) new]
      exact name
  have past : ∀ commit ∈ drafting.commits, commit.1 < last.roster.serial :=
    fun commit member => Nat.lt_of_lt_of_le (describes.past commit member) spared.serial
  rcases spared.draft with ⟨same, stays⟩ | ⟨ended, gone⟩
  · have kept : drafting.Describes last.roster := by
      refine ⟨names, past, fun edit editing => ?_, fun idle => describes.idle (same ▸ idle)⟩
      rw [same] at editing
      obtain ⟨title, there, drafted⟩ := describes.drafted edit editing
      exact ⟨title, stays edit title editing there, drafted⟩
    rw [outlive_live kept]
    exact kept
  · refine ⟨names, past, fun edit editing => absurd (ended.symm.trans editing) nofun, fun _ => ?_⟩
    cases editing : panel.editing with
    | none => rw [outlive, describes.idle editing]; rfl
    | some edit =>
      obtain ⟨title, there, drafted⟩ := describes.drafted edit editing
      rw [outlive, drafted]
      dsimp only
      refine Option.filter_eq_none_iff.mpr fun draft only found => ?_
      cases only
      obtain ⟨session, member, same⟩ := List.any_eq_true.mp found
      have same : session.serial = title.serial := beq_iff_eq.mp same
      have now : last.roster.titles.find? session.id = some session.title := by
        refine (Registry.find?_titles _ _).trans ?_
        rw [sound.live_of_mem member]
        rfl
      rcases spared.live session.id session.title now with old | ⟨new, -⟩
      · have here := (roster_sane valid).distinct session.id edit.session session.title title old there same
        rw [here, gone edit editing] at now
        cases now
      · have older := (roster_sane valid).known edit.session title there
        have newer : panel.roster.serial ≤ title.serial := same ▸ new
        omega

end Drafting

namespace Dock
variable {β : Type}

/-- The request that begins with a move, if one does. -/
def due? (dock : Dock β) : Move β → Option (Request β)
  | .ask request => some request
  | .turn =>
    match dock.scheduler.ready with
    | .resume task :: _ =>
      match dock.stageOf? task with
      | some (.begin request) => some request
      | _ => none
    | _ => none
  | _ => none

variable [SessionBackend β]

def follow (dock : Dock β) (drafting : Drafting) (move : Move β) : Drafting :=
  match dock.due? move with
  | some request => (drafting.heed dock.panel request).outlive (dock.move move).panel
  | none => drafting.outlive (dock.move move).panel

def drafting (dock : Dock β) (sofar : Drafting) : List (Move β) → Drafting
  | [] => sofar
  | move :: rest => (dock.move move).drafting (dock.follow sofar move) rest

end Dock

theorem Stroke.spared [SessionBackend β] {landing : Option (String × Purpose)} {panel next : Panel} {backend other : β}
    (stroke : Stroke Request.nameless landing panel backend next other) (valid : panel.registry.WellFormed) :
    Panel.Spared panel.roster next.roster := by
  cases stroke with
  | rest | ask _ | call _ | adjust _ | sweep => exact .refl _
  | perform allowed found => exact Panel.perform_spared found allowed valid
  | hide => exact (Panel.Plain.shows.hide panel).spared
  | reveal peopled => exact (Panel.Plain.shows.reveal panel).spared
  | land waited known => exact Panel.landed_spared _ _ _ _ panel
  | landAtOnce free fresh => exact Panel.landed_spared _ _ _ _ panel

namespace Dock
variable [SessionBackend β] {dock : Dock β}

theorem Strikes.spared {landing : Option (String × Purpose)} {last : Dock β}
    (strikes : Strikes Request.nameless landing dock last) (valid : dock.panel.registry.WellFormed) :
    Panel.Spared dock.panel.roster last.panel.roster := by
  obtain ⟨panel, backend, stroke, yields⟩ := strikes
  rw [yields.panel]
  exact stroke.spared valid

omit [SessionBackend β] in
theorem Calm.spared {extra : Stage β → Prop} {last : Dock β} (calm : Calm extra dock last) :
    Panel.Spared dock.panel.roster last.panel.roster := by
  rw [calm.panel]
  exact .refl _

private theorem begin_roster (dock : Dock β) (task : Loop.TaskId) {request : Request β} {act : PanelStep Answer}
    (found : Panel.perform? request = some act) :
    (dock.begin task request).panel.roster = (after act dock.panel).roster := by
  have begins : dock.begin task request = (dock.onPanel act).2.conclude task (dock.onPanel act).1 := by
    cases request with
    | openPanel | toggle | add _ | shutdown | addTab _ | create _ | closeAll | adjust _ | release | background _ _
    | gather _ | drain => cases found
    | _ => cases found; rfl
  have yields : Yields (fun _ => False) dock _ _ (dock.begin task request) :=
    begins ▸ (onPanel_yields dock act).calmly (conclude_calm (dock.onPanel act).2 task (dock.onPanel act).1)
  rw [yields.panel]
  rfl

private theorem begin_apart (dock : Dock β) (task : Loop.TaskId) (request : Request β) :
    request.only Request.nameless = true ∨ request.drafting = true ∨ Request.tabwise request = false ∨
      Calm (fun _ => True) dock (dock.begin task request) := by
  cases request with
  | beginRename _ | editRename _ | keyRename _ | blurRename | cancelRename => exact .inr (.inl rfl)
  | rename _ _ | remove _ => exact .inr (.inr (.inl rfl))
  | background name request =>
    refine .inr (.inr (.inr (Yields.calmly ?_ (conclude_calm _ task _))))
    exact .of_put rfl rfl rfl (.inr trivial)
  | gather requests =>
    have started : Calm (fun _ => True) dock (dock.startAll (requests.map Stage.begin)).2 :=
      (calm_rules task).startAll dock fun _ _ => .inr trivial
    refine .inr (.inr (.inr (started.calmly ?_)))
    simp only [begin]
    exact (calm_rules task).waitFor _ rfl (conclude_calm _ task _)
  | _ => exact .inl rfl

private theorem begin_spared (dock : Dock β) (task : Loop.TaskId) {request : Request β}
    (valid : dock.panel.registry.WellFormed)
    (allowed : request.only Request.tabwise = true) (drafts : request.drafting = false) :
    Panel.Spared dock.panel.roster (dock.begin task request).panel.roster := by
  rcases begin_apart dock task request with nameless | drafting | wild | calm
  · have strikes : Strikes Request.nameless none dock (dock.begin task request) := begin_strikes dock task nameless
    exact strikes.spared valid
  · rw [drafts] at drafting
    cases drafting
  · cases request with
    | rename _ _ | remove _ => cases allowed
    | _ => cases wild
  · exact calm.spared

private theorem resume_spared (dock : Dock β) (task : Loop.TaskId) (valid : dock.panel.registry.WellFormed)
    (begun : ∀ request, dock.stageOf? task ≠ some (.begin request)) :
    Panel.Spared dock.panel.roster (dock.resume task).panel.roster := by
  have calm {last : Dock β} (calm : Calm (fun _ => True) dock last) := calm.spared
  unfold resume
  split
  · exact .refl _
  next stage label found =>
    cases stage with
    | begin request => exact absurd (by simp [stageOf?, found]) (begun request)
    | call call =>
      have yields : Yields (fun _ => True) dock _ _ _ := beginCall_yields dock task call
      rw [yields.panel]
      exact .refl _
    | callEnding call failure records => exact calm ((calm_rules task).concludeCall dock call failure records)
    | spawning cwd purpose =>
      have yields : Yields (fun _ => True) dock _ _ _ := endSpawn_yields dock task cwd purpose
      rw [yields.panel]
      exact Panel.landed_spared cwd _ _ purpose dock.panel
    | queued =>
      have entered : Strikes Request.nameless none dock (dock.enter task) := enter_strikes dock task
      exact entered.spared valid
    | sweeping calls drainAfter => exact calm ((calm_rules task).endSweep dock calls drainAfter)
    | draining answer => exact calm ((calm_rules task).drain dock answer)
    | gathering tasks => exact calm (conclude_calm dock task (.ok (.all (dock.resultsOf tasks))))

private theorem move_due {move : Move β} {request : Request β} (due : dock.due? move = some request) :
    (∃ scheduler task, dock.move move = { dock with scheduler := scheduler }.begin task request) ∧
      (dock.Valid Request.tabwise → move.only Request.tabwise = true → request.only Request.tabwise = true) := by
  cases move with
  | ask other =>
    cases due
    exact ⟨⟨_, _, move_ask dock request⟩, fun _ allowed => allowed⟩
  | turn =>
    simp only [due?] at due
    split at due
    next task rest ready =>
      split at due
      next other stage =>
        cases due
        obtain ⟨⟨_, label⟩, found, rfl⟩ := Option.map_eq_some_iff.mp stage
        refine ⟨⟨{ dock.scheduler with ready := rest }, task, ?_⟩, fun valid _ => ?_⟩
        · simp only [Dock.move, turn, Loop.Scheduler.next?, ready, resume, found]
        · exact valid.licensed _ (Assoc.mem_values_of_find? found)
      next => cases due
    next => cases due
  | answer task => cases due
  | announce event payload => cases due

private theorem move_roster {move : Move β} {request : Request β} {act : PanelStep Answer}
    (due : dock.due? move = some request) (found : Panel.perform? request = some act) :
    (dock.move move).panel.roster = (after act dock.panel).roster := by
  obtain ⟨⟨scheduler, task, begins⟩, -⟩ := move_due due
  rw [begins]
  exact begin_roster { dock with scheduler := scheduler } task found

private theorem move_spared {move : Move β} (valid : dock.Valid Request.tabwise) (allowed : move.only Request.tabwise = true)
    (calm : ∀ request, dock.due? move = some request → request.drafting = false) :
    Panel.Spared dock.panel.roster (dock.move move).panel.roster := by
  cases due : dock.due? move with
  | some request =>
    obtain ⟨⟨scheduler, task, begins⟩, fair⟩ := move_due due
    rw [begins]
    exact begin_spared { dock with scheduler := scheduler } task valid.registry (fair valid allowed) (calm request due)
  | none =>
    cases move with
    | ask request => cases due
    | turn =>
      simp only [Dock.move, turn, Loop.Scheduler.next?]
      cases ready : dock.scheduler.ready with
      | nil => exact .refl _
      | cons first rest =>
        cases first with
        | resume task =>
          refine resume_spared { dock with scheduler := { dock.scheduler with ready := rest } } task valid.registry ?_
          intro request stage
          have stage : dock.stageOf? task = some (.begin request) := stage
          simp only [due?, ready, stage] at due
          cases due
        | leave task => exact .refl _
        | arrive group => exact .refl _
    | answer task =>
      have still : Calm (fun _ => True) dock (dock.move (.answer task)) := answer_calm dock task
      exact still.spared
    | announce event payload =>
      have yields : Yields (fun _ => True) dock _ _ _ := announce_yields dock event payload
      rw [yields.panel]
      exact (Panel.tellAll_plain event payload _ dock.panel).spared

private theorem follow_describes {move : Move β} {drafting : Drafting} (valid : dock.Valid Request.tabwise)
    (allowed : move.only Request.tabwise = true) (describes : drafting.Describes dock.panel.roster) :
    (dock.follow drafting move).Describes (dock.move move).panel.roster := by
  have sound := (valid.move allowed).registry
  have outlived (calm : ∀ request, dock.due? move = some request → request.drafting = false) :
      (drafting.outlive (dock.move move).panel).Describes (dock.move move).panel.roster :=
    Drafting.describes_outlive valid.registry sound describes (move_spared valid allowed calm)
  unfold follow
  cases due : dock.due? move with
  | none => exact outlived fun request same => absurd (due.symm.trans same) nofun
  | some request =>
    dsimp only
    cases drafts : request.drafting with
    | false =>
      rw [Drafting.heed_calm drafts]
      refine outlived fun other same => ?_
      cases due.symm.trans same
      exact drafts
    | true =>
      obtain ⟨act, found⟩ := Request.drafting_performed drafts
      have heeded := Drafting.describes_heed valid.registry describes found drafts
      rw [← move_roster due found] at heeded
      rw [Drafting.outlive_live heeded]
      exact heeded

private theorem run_describes {moves : List (Move β)} {drafting : Drafting} (valid : dock.Valid Request.tabwise)
    (allowed : ∀ move ∈ moves, move.only Request.tabwise = true) (describes : drafting.Describes dock.panel.roster) :
    (dock.drafting drafting moves).Describes (dock.run moves).panel.roster := by
  induction moves generalizing dock drafting with
  | nil => exact describes
  | cons first rest ih =>
    have fair := allowed first (List.mem_cons_self ..)
    exact ih (valid.move fair) (fun move member => allowed move (List.mem_cons_of_mem _ member))
      (follow_describes valid fair describes)

/-- The sessions have the names, and the tabs the labels, that renaming came to. -/
structure Named (dock : Dock β) (drafting : Drafting) : Prop where
  names : ∀ id session, dock.panel.registry.session? id = some session →
    session.name = drafting.nameOf session.serial session.number
  trimmed : ∀ id session, dock.panel.registry.session? id = some session → Text.Trimmed session.name
  tabs : dock.panel.tabs = dock.panel.registry.ordered.map (drafting.tab dock.panel.registry.active)
  spared : ∀ move request, move.only Request.tabwise = true → dock.due? move = some request →
    drafting.Spares dock.panel request → ∀ id session, (dock.move move).panel.registry.session? id = some session →
      ∃ old, dock.panel.registry.session? id = some old ∧ old.serial = session.serial ∧ old.name = session.name

theorem Named.of_describes {drafting : Drafting} (valid : dock.Valid Request.tabwise)
    (describes : drafting.Describes dock.panel.roster) : dock.Named drafting := by
  have names (id : String) (session : Session) (live : dock.panel.registry.session? id = some session) :
      session.name = drafting.nameOf session.serial session.number := by
    have title : dock.panel.roster.titles.find? id = some session.title :=
      (Registry.find?_titles _ _).trans (congrArg (Option.map Session.title) live)
    exact describes.names id session.title title
  refine ⟨names, fun id session live => ?_, ?_, fun move request allowed due spares id session live => ?_⟩
  · rw [names id session live]
    exact drafting.nameOf_trimmed session.serial session.number
  · exact Drafting.tabs_eq valid.registry describes
  · obtain ⟨act, found⟩ := Drafting.spares_performed spares
    have title : (dock.move move).panel.roster.titles.find? id = some session.title :=
      (Registry.find?_titles _ _).trans (congrArg (Option.map Session.title) live)
    rw [move_roster due found] at title
    have before := Drafting.spares_titles valid.registry describes found spares id session.title title
    obtain ⟨old, there, same⟩ := Option.map_eq_some_iff.mp ((Registry.find?_titles _ _).symm.trans before)
    exact ⟨old, there, congrArg Session.Title.serial same, congrArg Session.Title.name same⟩

private theorem created_describes {config : PanelConfig} {scheme : String} {font : Font} {height : Json} {panel : Panel}
    (created : Panel.create config scheme font height = .ok panel) : ({} : Drafting).Describes panel.roster := by
  simp only [Panel.create, bind, Except.bind] at created
  split at created
  · cases created
  · cases created
    refine ⟨fun id title found => ?_, fun commit member => ?_, fun edit drafted => ?_, fun _ => rfl⟩
    · cases found
    · cases member
    · cases drafted

/-- Whatever is done to the tabs, and whatever happens meanwhile, each session has the name that was committed last for
it, or the one of its number. -/
theorem run_named {config : PanelConfig} {scheme : String} {font : Font} {height : Json} {panel : Panel}
    (created : Panel.create config scheme font height = .ok panel) (backend : β) (hook : Transport.FailureHook)
    {moves : List (Move β)} (allowed : ∀ move ∈ moves, move.only Request.tabwise = true) :
    ((fresh panel backend hook).run moves).Named ((fresh panel backend hook).drafting {} moves) := by
  have start : (fresh panel backend hook).Valid Request.tabwise := valid_fresh (Panel.create_blank created) backend hook
  exact .of_describes (start.run allowed) (run_describes start allowed (created_describes created))

/-- Another tab is renamed before the first rename ends; the second one ends blank, the third one with Escape, and the
last one is under way. -/
def renamings : List (Move PuppetBackend) :=
  [.ask .openPanel, .ask (.add none), .ask (.add none), .ask (.beginRename "term-1"), .ask (.editRename " build\t"),
    .ask (.beginRename "term-2"), .ask (.closeSession "term-3"), .ask (.editRename "  "), .ask (.keyRename "Return"),
    .ask (.beginRename "term-2"), .ask (.editRename "logs"), .ask (.keyRename "Escape"), .ask (.beginRename "term-9"),
    .ask (.background "click" (.beginRename "term-2")), .turn, .turn, .turn, .turn, .ask (.editRename "tests ")]

theorem run_named_renamings : ∃ panel, Panel.create {} "dark" (.measured "Menlo" 13) .null = .ok panel ∧
    ((fresh panel {} .log).run renamings).panel.tabs.map Tab.label = ["build", "tests "] ∧
    ((fresh panel {} .log).run renamings).panel.registry.sessions.values.map Session.name = ["build", "Terminal 2"] ∧
    ((fresh panel {} .log).run renamings).Named ((fresh panel {} .log).drafting {} renamings) := by
  have created : Panel.create {} "dark" (.measured "Menlo" 13) .null = .ok _ := rfl
  have allowed : ∀ move ∈ renamings, move.only Request.tabwise = true := by decide +kernel
  exact ⟨_, created, by decide +kernel, by decide +kernel, run_named created ({} : PuppetBackend) .log allowed⟩

end Dock

end TerminalDock
