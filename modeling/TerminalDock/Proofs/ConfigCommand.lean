import TerminalDock.Command.Execute
import TerminalDock.Proofs.ConfigFile

/-! What the command that sets a key of the configuration leaves behind: the old file if it fails, and the changed
configuration if it succeeds. The one exception is a text that was saved and that the console then refuses to print. A
plain console refuses none without a bracket, for only the tags of a text decide about that. -/

namespace TerminalDock

namespace Console

/-- The tags of a text, from its front to its end. -/
inductive Tags : List Char → List (List Char) → Prop
  | done : Tags [] []
  | plain {c : Char} {text : List Char} {names : List (List Char)} (untagged : tagAt? (c :: text) = none)
      (more : Tags text names) : Tags (c :: text) names
  | escaped {text body : List Char} {slashes : Nat} {names : List (List Char)} (found : tagAt? text = some (slashes, body))
      (odd : slashes % 2 = 1) (more : Tags (text.drop (slashes + body.length + 2)) names) : Tags text names
  | tag {text body : List Char} {slashes : Nat} {names : List (List Char)} (found : tagAt? text = some (slashes, body))
      (even : slashes % 2 ≠ 1) (more : Tags (text.drop (slashes + body.length + 2)) names) : Tags text (body :: names)

private theorem partsFrom_tags (position : Nat) (plain : List Char) {fuel : Nat} {text : List Char}
    (enough : text.length < fuel) :
    Tags text (((partsFrom position plain fuel text).filterMap Part.tag?).map Prod.snd) := by
  induction fuel generalizing position plain text with
  | zero => cases enough
  | succ fuel ih =>
    cases text with
    | nil => exact .done
    | cons c rest =>
      rw [partsFrom]
      cases found : tagAt? (c :: rest) with
      | none => exact .plain found (ih _ _ (Nat.lt_of_succ_lt_succ enough))
      | some tag =>
        obtain ⟨slashes, body⟩ := tag
        have shorter : ((c :: rest).drop (slashes + body.length + 2)).length < fuel := by
          rw [List.length_cons] at enough
          rw [List.length_drop, List.length_cons]
          omega
        dsimp only
        split
        next odd => exact .escaped found (eq_of_beq odd) (ih _ _ shorter)
        next even => exact .tag found (fun odd => even (beq_iff_eq.mpr odd)) (ih _ _ shorter)

theorem Tags.unique {text : List Char} {names others : List (List Char)} (tags : Tags text names)
    (tagsToo : Tags text others) :
    names = others := by
  induction tags generalizing others with
  | done =>
    cases tagsToo with
    | done => rfl
    | escaped found | tag found => cases found
  | plain untagged more ih =>
    cases tagsToo with
    | plain _ more => exact ih more
    | escaped found | tag found =>
      rw [untagged] at found
      cases found
  | escaped found odd more ih =>
    cases tagsToo with
    | done => cases found
    | plain untagged =>
      rw [untagged] at found
      cases found
    | escaped foundToo _ more =>
      cases found.symm.trans foundToo
      exact ih more
    | tag foundToo even =>
      cases found.symm.trans foundToo
      exact absurd odd even
  | tag found even more ih =>
    cases tagsToo with
    | done => cases found
    | plain untagged =>
      rw [untagged] at found
      cases found
    | escaped foundToo odd =>
      cases found.symm.trans foundToo
      exact absurd odd even
    | tag foundToo _ more =>
      cases found.symm.trans foundToo
      rw [ih more]

/-- Neither a bracket nor a backslash, so that no tag starts with it. -/
def Bare (c : Char) : Prop := c ≠ '[' ∧ c ≠ '\\'

instance (c : Char) : Decidable (Bare c) := inferInstanceAs (Decidable (_ ∧ _))

private theorem tagAt?_bare {c : Char} (bare : Bare c) (rest : List Char) : tagAt? (c :: rest) = none := by
  have noSlash : (c :: rest).takeWhile (· == '\\') = [] :=
    List.takeWhile_cons_of_neg fun slash => bare.2 (eq_of_beq slash)
  rw [tagAt?, noSlash, List.length_nil, List.drop_zero]
  split
  next same => exact absurd (List.cons.inj same).1 bare.1
  next => rfl

theorem Tags.bare {front text : List Char} {names : List (List Char)} (bare : ∀ c ∈ front, Bare c) (tags : Tags text names) :
    Tags (front ++ text) names := by
  induction front with
  | nil => exact tags
  | cons c front ih =>
    obtain ⟨first, bare⟩ := List.forall_mem_cons.mp bare
    exact .plain (tagAt?_bare first _) (ih bare)

private theorem tags_of_unbracketed {text : List Char} (unbracketed : '[' ∉ text) : Tags text [] := by
  induction text with
  | nil => exact .done
  | cons c rest ih =>
    refine .plain ?_ (ih fun member => unbracketed (List.mem_cons_of_mem c member))
    rw [tagAt?]
    split
    next behind bracket =>
      have member := List.mem_of_mem_drop (bracket ▸ List.mem_cons_self : '[' ∈ List.drop _ (c :: rest))
      exact absurd member unbracketed
    next => rfl

/-- The tags before the value of a setting that is printed are a pair, whatever the setting. -/
theorem tags_line {key value : String} {names : List (List Char)} (bare : ∀ c ∈ key.toList, Bare c)
    (tags : Tags value.toList names) :
    Tags s!"[green]{key}[/green] = {value}".toList ("green".toList :: "/green".toList :: names) := by
  have shape : s!"[green]{key}[/green] = {value}".toList =
      '[' :: 'g' :: 'r' :: 'e' :: 'e' :: 'n' :: ']' :: (key.toList ++
        ('[' :: '/' :: 'g' :: 'r' :: 'e' :: 'e' :: 'n' :: ']' :: ([' ', '=', ' '] ++ value.toList))) := by
    show ("[green]" ++ key ++ "[/green] = " ++ value).toList = _
    rw [String.toList_append, String.toList_append, String.toList_append, List.append_assoc, List.append_assoc]
    rfl
  rw [shape]
  have opening (rest : List Char) : tagAt? ('[' :: 'g' :: 'r' :: 'e' :: 'e' :: 'n' :: ']' :: rest) =
    some (0, "green".toList) := rfl
  have closing (rest : List Char) :
      tagAt? ('[' :: '/' :: 'g' :: 'r' :: 'e' :: 'e' :: 'n' :: ']' :: rest) = some (0, "/green".toList) := rfl
  have between : ∀ c ∈ [' ', '=', ' '], Bare c := by simp [Bare]
  exact .tag (opening _) (by decide) (.bare bare (.tag (closing _) (by decide) (.bare between tags)))

/-- A line about a setting is printed if there is no bracket in its value: the only tags are then the pair around the key. -/
def Prints (console : Console) : Prop :=
  ∀ key text : String, (∀ c ∈ key.toList, Bare c) → '[' ∉ text.toList →
    ∃ printed, console.line s!"[green]{key}[/green] = {text}" = .ok printed

private theorem Tag.close_plain (name : List Char) : Tag.close ⟨name, none⟩ = .ok () := by
  unfold Tag.close
  split
  next parameters => cases parameters
  next => rfl

private theorem settle_green (first last : Nat) : [(first, "green".toList), (last, "/green".toList)].foldlM
    (fun opened (position, body) => settleTag opened position body) [] = .ok [] := by
  have named : styleName "green".toList = .ok "green".toList := by decide +kernel
  have opens : settleTag [] first "green".toList = (styleName "green".toList).map fun style => [⟨style, none⟩] := rfl
  have closes (opened : List Tag) : settleTag opened last "/green".toList =
      closeTag opened last "/green".toList "green".toList := rfl
  have filled : "green".toList.isEmpty = false := by decide +kernel
  simp only [List.foldlM_cons, List.foldlM_nil, opens, closes, closeTag, filled, named]
  generalize "green".toList = name
  simp [Except.map, bind, Except.bind, pure, Except.pure, Tag.close_plain]

private theorem plain_prints : plain.Prints := by
  intro key text bare unbracketed
  have tags := partsFrom_tags 0 [] (Nat.lt_succ_self s!"[green]{key}[/green] = {text}".toList.length)
  have same := (tags_line bare (tags_of_unbracketed unbracketed)).unique tags
  obtain ⟨⟨first, _⟩, rest, found, rfl, others⟩ := List.map_eq_cons_iff.mp same.symm
  obtain ⟨⟨last, _⟩, rest, rfl, rfl, none⟩ := List.map_eq_cons_iff.mp others
  obtain rfl := List.map_eq_nil_iff.mp none
  have prints : plain.line = printLine := rfl
  rw [prints, printLine, plainText, parts, found]
  dsimp only
  rw [settle_green]
  exact ⟨_, rfl⟩

end Console

/-- For words without the letters whose lower case is unusual, only the capital letters matter. -/
theorem Text.lower_eq_iff {word text : List Char} (usual : ∀ c ∈ ['k', '\u212a', '\u0130', '\u0307'], c ∉ word) :
    lower text = word ↔ text.map Char.toLower = word := by
  induction text generalizing word with
  | nil => rfl
  | cons c text ih =>
    have step : lower (c :: text) = lowerChar c ++ lower text := rfl
    have absent {mark : Char} (unusual : mark ∈ ['k', '\u212a', '\u0130', '\u0307']) (front : List Char)
      {behind : List Char} :
        front ++ mark :: behind ≠ word := by
      rintro rfl
      exact usual mark unusual (by simp)
    rw [step, lowerChar, List.map_cons]
    split
    next kelvin =>
      rw [eq_of_beq kelvin]
      exact iff_of_false (absent (by decide) []) (absent (by decide) [])
    split
    next dotted =>
      rw [eq_of_beq dotted]
      exact iff_of_false (absent (by decide) ['i']) (absent (by decide) [])
    cases word with
    | nil => exact iff_of_false (List.cons_ne_nil _ _) (List.cons_ne_nil _ _)
    | cons first word =>
      have later := ih fun mark unusual member => usual mark unusual (List.mem_cons_of_mem first member)
      rw [List.singleton_append, List.cons_eq_cons, List.cons_eq_cons, later]

namespace Command

variable {console : Console} {directory : Directory} {config changed : PanelConfig} {key value : String}

/-- What is offered to a field by a word: for the shell the words for nothing are none. -/
def offered (key value : String) : Json :=
  if key = "shell" ∧ value.toList.map Char.toLower ∈ ["none".toList, "null".toList, []] then .null else .str value

private theorem offered_eq (key value : String) :
    (let word := String.ofList (Text.lower value.toList)
      if key == "shell" && (word == "none" || word == "null" || word == "") then Json.null else .str value) =
      offered key value := by
  have same {word : String} (usual : ∀ c ∈ ['k', '\u212a', '\u0130', '\u0307'], c ∉ word.toList) :
      String.ofList (Text.lower value.toList) = word ↔ value.toList.map Char.toLower = word.toList := by
    rw [← Text.lower_eq_iff usual, ← String.toList_inj, String.toList_ofList]
  rw [offered]
  refine if_congr ?_ rfl rfl
  rw [Bool.and_eq_true, Bool.or_eq_true, Bool.or_eq_true, beq_iff_eq, beq_iff_eq, beq_iff_eq, beq_iff_eq,
    same (by simp), same (by simp), same (by simp)]
  simp [or_assoc]

def Outcome.Fails : Outcome → Prop
  | .exit code _ => code ≠ 0
  | .failed _ => True
  | .window .. => False

private theorem sayAndExit_fails {code : Nat} (nonzero : code ≠ 0) (lines : List String) :
    (sayAndExit console code lines).Fails := by
  rw [sayAndExit]
  split
  · exact nonzero
  · exact trivial

private theorem sayAndExit_line (console : Console) (code : Nat) (line : String) :
    ((∃ printed, console.line line = .ok printed) → ∃ output, sayAndExit console code [line] = .exit code output) ∧
    ((¬∃ printed, console.line line = .ok printed) →
      ∃ failure, sayAndExit console code [line] = .failed (.console failure)) := by
  cases printed : console.line line with
  | ok text =>
    refine ⟨fun _ => ⟨String.join [text], ?_⟩, fun refused => absurd ⟨text, rfl⟩ refused⟩
    simp [sayAndExit, printed, pure, Except.pure, bind, Except.bind]
  | error fault =>
    refine ⟨nofun, fun _ => ⟨fault, ?_⟩⟩
    simp [sayAndExit, printed, bind, Except.bind]

/-- The command, told by what is offered to the field. -/
theorem setConfig_eq (accepted : Config.load directory.config = .ok config) (key value : String) :
    setConfig console directory key value =
    if !Assoc.has key config.fields then (sayAndExit console 1 [s!"[red]Unknown config key: {key}[/red]"], directory)
    else
      match Config.validate (Assoc.put key (offered key value) config.fields) with
      | .error problems =>
        let message := (problems.head?.map Config.Problem.message).getD ""
        (sayAndExit console 1 [s!"[red]Invalid value for {key}:[/red] {message}"], directory)
      | .ok changed =>
        let result := ((Assoc.find? key changed.fields).map Json.display).getD ""
        (sayAndExit console 0 [s!"[green]{key}[/green] = {result}"],
          { directory with config := some (Config.save changed) }) := by
  have told := offered_eq key value
  rw [setConfig, accepted]
  generalize offered key value = given at told ⊢
  subst told
  rfl

private theorem unbracketed_whole {read : Except Config.FieldFault Int} {result : Json} (told : read.map .int = .ok result) :
    '[' ∉ result.display.toList := by
  cases read with
  | error fault => cases told
  | ok number =>
    cases told
    exact Json.not_mem_toString (by decide) (by decide) number

private theorem unbracketed_truth {read : Except Config.FieldFault Bool} {result : Json}
    (told : read.map .bool = .ok result) :
    '[' ∉ result.display.toList := by
  cases read with
  | error fault => cases told
  | ok value =>
    cases told
    cases value <;> decide

def Textual (key : String) : Prop := key = "shell" ∨ key = "font_family"

instance (key : String) : Decidable (Textual key) := inferInstanceAs (Decidable (_ ∨ _))

private theorem shown_shell {result : Json}
    (told : ((Config.textOrNone (offered "shell" value)).map fun shell => shell.elim .null .str) = .ok result) :
    result = .str value ∨ ('[' ∉ result.display.toList ∧ '[' ∉ value.toList) := by
  by_cases nothing : value.toList.map Char.toLower ∈ ["none".toList, "null".toList, []]
  · rw [offered, if_pos ⟨rfl, nothing⟩] at told
    cases told
    refine .inr ⟨by decide, fun bracket => ?_⟩
    have lowered : '[' ∈ value.toList.map Char.toLower := List.mem_map.mpr ⟨'[', bracket, rfl⟩
    have words : ∀ word ∈ ["none".toList, "null".toList, []], '[' ∉ word := by decide
    exact words _ nothing lowered
  · rw [offered, if_neg fun both => nothing both.2] at told
    cases told
    exact .inl rfl

private theorem shown_cases {read : Json → Except Config.FieldFault Json} {result : Json}
    (listed : (key, read) ∈ Config.readers)
    (told : read (offered key value) = .ok result) : (Textual key ∧ result = .str value) ∨
      ('[' ∉ result.display.toList ∧ (Textual key → '[' ∉ value.toList)) := by
  have plainly (other : key ≠ "shell") : offered key value = .str value := if_neg fun both => other both.1
  have whole {read : Except Config.FieldFault Int} (other : ¬Textual key) (told : read.map .int = .ok result) :
      (Textual key ∧ result = .str value) ∨ ('[' ∉ result.display.toList ∧ (Textual key → '[' ∉ value.toList)) :=
    .inr ⟨unbracketed_whole told, fun textual => absurd textual other⟩
  simp only [Config.readers, List.mem_cons, Prod.mk.injEq, List.not_mem_nil, or_false] at listed
  obtain ⟨rfl, rfl⟩ | ⟨rfl, rfl⟩ | ⟨rfl, rfl⟩ | ⟨rfl, rfl⟩ | ⟨rfl, rfl⟩ | ⟨rfl, rfl⟩ | ⟨rfl, rfl⟩ | ⟨rfl, rfl⟩ | ⟨rfl, rfl⟩ |
    ⟨rfl, rfl⟩ | ⟨rfl, rfl⟩ | ⟨rfl, rfl⟩ := listed
  case inl => exact (shown_shell told).imp (⟨.inl rfl, ·⟩) (And.imp_right fun unbracketed _ => unbracketed)
  case inr.inl => exact .inr ⟨unbracketed_truth told, fun textual => absurd textual (by decide)⟩
  case inr.inr.inl =>
    rw [plainly (by decide)] at told
    cases told
    exact .inl ⟨.inr rfl, rfl⟩
  all_goals exact whole (by decide) told

/-- The value is kept as a text, and the console does not print it. -/
def Unprintable (console : Console) (key value : String) : Prop :=
  Textual key ∧ ¬∃ printed, console.line s!"[green]{key}[/green] = {value}" = .ok printed

private theorem printed_iff (prints : console.Prints) {read : Json → Except Config.FieldFault Json} {result : Json}
    (listed : (key, read) ∈ Config.readers) (told : read (offered key value) = .ok result) :
    (∃ printed, console.line s!"[green]{key}[/green] = {result.display}" = .ok printed) ↔
      ¬Unprintable console key value := by
  have names : ∀ name ∈ Assoc.keys Config.readers, ∀ c ∈ name.toList, Console.Bare c := by
    simp [Config.readers, Assoc.keys, Console.Bare]
  have bare := names key (List.mem_map.mpr ⟨_, listed, rfl⟩)
  rw [Unprintable, not_and_not_right]
  obtain ⟨textual, rfl⟩ | ⟨shown, given⟩ := shown_cases listed told
  · exact ⟨fun printed _ => printed, fun printed => printed textual⟩
  · exact iff_of_true (prints key _ bare shown) fun textual => prints key value bare (given textual)

/-- The file holds the configuration with one field changed, to what its reader makes of what was offered. -/
def Changed (config : PanelConfig) (key value : String) (file : Config.File) : Prop :=
  ∃ changed read result, Config.load file = .ok changed ∧ (key, read) ∈ Config.readers ∧
    read (offered key value) = .ok result ∧
    changed.fields = Assoc.put key result config.fields

theorem load_save (sound : config.Sound) (short : ∀ value ∈ config.integers, Json.Short value) :
    Config.load (some (Config.save config)) = .ok config := by
  have holds := Config.holds_render ⟨false, some 2⟩ (config.fields_plain short)
  rw [Config.load, Config.save, Json.prettyUnescaped, Config.readJson_ok_iff.mpr holds]
  dsimp only
  rw [Config.validate_fields sound]
  rfl

private theorem offered_plain (key value : String) : (offered key value).Plain := by
  rw [offered]
  split
  · exact .null
  · exact .str value

private theorem changed_of_valid (accepted : Config.load directory.config = .ok config)
    (known : key ∈ config.fields.map Prod.fst)
    (valid : Config.validate (Assoc.put key (offered key value) config.fields) = .ok changed) :
    Changed config key value (some (Config.save changed)) := by
  obtain ⟨sound, short⟩ := Config.load_sound accepted
  obtain ⟨read, result, listed, told, same⟩ := Config.validate_put sound known valid
  have written : ∀ field ∈ Assoc.put key (offered key value) config.fields, Json.Told field.2 := by
    intro field member
    rcases Assoc.mem_put member with rfl | before
    · exact (offered_plain key value).told
    · cases config.fields_plain short with
      | obj named plain => exact (plain field before).told
  exact ⟨changed, read, result, load_save (Config.validate_sound valid) (Config.validate_short valid written), listed,
    told, same⟩

private theorem setConfig_valid (prints : console.Prints) (accepted : Config.load directory.config = .ok config)
    (known : key ∈ config.fields.map Prod.fst)
    (valid : Config.validate (Assoc.put key (offered key value) config.fields) = .ok changed) :
    Changed config key value (setConfig console directory key value).2.config ∧
      (¬Unprintable console key value → ∃ output, (setConfig console directory key value).1 = .exit 0 output) ∧
      (Unprintable console key value → ∃ failure, (setConfig console directory key value).1 =
        .failed (.console failure)) := by
  obtain ⟨read, result, listed, told, same⟩ := Config.validate_put (Config.load_sound accepted).1 known valid
  have saves : setConfig console directory key value = (sayAndExit console 0 [s!"[green]{key}[/green] = {result.display}"],
      { directory with config := some (Config.save changed) }) := by
    rw [setConfig_eq accepted, Assoc.has_iff_mem.mpr known, valid]
    dsimp only
    rw [same, Assoc.find?_put_self]
    rfl
  have line := sayAndExit_line console 0 s!"[green]{key}[/green] = {result.display}"
  rw [printed_iff prints listed told, not_not] at line
  rw [saves]
  exact ⟨changed_of_valid accepted known valid, line⟩

private theorem setConfig_invalid (accepted : Config.load directory.config = .ok config)
    (unchanged : ¬∃ changed, key ∈ config.fields.map Prod.fst ∧
      Config.validate (Assoc.put key (offered key value) config.fields) = .ok changed) :
    (setConfig console directory key value).1.Fails ∧ (setConfig console directory key value).2 = directory := by
  rw [setConfig_eq accepted]
  split
  · exact ⟨sayAndExit_fails (by decide) _, rfl⟩
  next known =>
    rw [Bool.not_eq_true', Bool.not_eq_false, Assoc.has_iff_mem] at known
    cases valid : Config.validate (Assoc.put key (offered key value) config.fields) with
    | error problems => exact ⟨sayAndExit_fails (by decide) _, rfl⟩
    | ok changed => exact absurd ⟨changed, known, valid⟩ unchanged

private theorem valid_of_textual (sound : config.Sound) (textual : Textual key) (value : String) :
    ∃ changed, key ∈ config.fields.map Prod.fst ∧
      Config.validate (Assoc.put key (offered key value) config.fields) = .ok changed := by
  obtain rfl | rfl := textual
  · have known : "shell" ∈ config.fields.map Prod.fst := List.mem_cons_self
    rw [offered]
    split
    · have sound : PanelConfig.Sound { config with shell := none } := { sound with }
      exact ⟨_, known, Config.validate_fields sound⟩
    · have sound : PanelConfig.Sound { config with shell := some value } := { sound with }
      exact ⟨_, known, Config.validate_fields sound⟩
  · have known : "font_family" ∈ config.fields.map Prod.fst := by
      show "font_family" ∈ ({} : PanelConfig).fields.map Prod.fst
      decide
    have sound : PanelConfig.Sound { config with fontFamily := value } := { sound with }
    exact ⟨_, known, Config.validate_fields sound⟩

/-- Setting a key of the configuration is all or nothing, but for texts that the console does not print: it succeeds and the
file holds the changed configuration, or it fails and the files are as they were. A text that is not printed is saved before
the command fails. -/
theorem set_all_or_nothing (prints : console.Prints) (accepted : Config.load directory.config = .ok config)
    {words : List String} (command : parse? words = some (.configSet key value)) (system : FileSystem) :
    let result := executeWords system directory words console
    (¬Unprintable console key value → (∃ output, result.1 = .exit 0 output ∧ Changed config key value result.2.config) ∨
      (result.1.Fails ∧ result.2 = directory)) ∧
    (Unprintable console key value →
      ∃ failure, result.1 = .failed (.console failure) ∧ Changed config key value result.2.config) := by
  intro result
  have same : result = setConfig console directory key value := by
    show executeWords system directory words console = _
    rw [executeWords, command]
    rfl
  rw [same]
  constructor
  · intro printable
    by_cases accepts : ∃ changed, key ∈ config.fields.map Prod.fst ∧
        Config.validate (Assoc.put key (offered key value) config.fields) = .ok changed
    · obtain ⟨changed, known, valid⟩ := accepts
      obtain ⟨holds, printed, -⟩ := setConfig_valid prints accepted known valid
      obtain ⟨output, ends⟩ := printed printable
      exact .inl ⟨output, ends, holds⟩
    · exact .inr (setConfig_invalid accepted accepts)
  · intro unprintable
    obtain ⟨changed, known, valid⟩ := valid_of_textual (Config.load_sound accepted).1 unprintable.1 value
    obtain ⟨holds, -, refused⟩ := setConfig_valid prints accepted known valid
    obtain ⟨failure, ends⟩ := refused unprintable
    exact ⟨failure, ends, holds⟩

/-- Behind a double dash every key and every value is taken as it is. -/
example (key value : String) : parse? ["config", "set", "--", key, value] = some (.configSet key value) := rfl

/-- A closing tag that is escaped is printed as it is. -/
theorem set_all_or_nothing_escaped :
    let result := executeWords .basic {} ["config", "set", "shell", "\\[/x]"]
    Config.load ({} : Directory).config = .ok {} ∧
      parse? ["config", "set", "shell", "\\[/x]"] = some (.configSet "shell" "\\[/x]") ∧
      ∃ output, result.1 = .exit 0 output ∧ Changed {} "shell" "\\[/x]" result.2.config := by
  intro result
  have accepted : Config.load ({} : Directory).config = .ok {} := rfl
  have command : parse? ["config", "set", "shell", "\\[/x]"] = some (.configSet "shell" "\\[/x]") := rfl
  have printed : Console.plain.line "[green]shell[/green] = \\[/x]" = .ok "shell = [/x]\n" := by decide +kernel
  have written : result.2.config.isSome = true := by decide +kernel
  obtain done | ⟨-, same⟩ :=
    (set_all_or_nothing Console.plain_prints accepted command .basic).1 fun unprintable => unprintable.2 ⟨_, printed⟩
  · exact ⟨accepted, command, done⟩
  · rw [same] at written
    cases written

/-- A shell whose name is a closing tag is saved, and then the command fails. -/
theorem set_all_or_nothing_fails : ¬∀ (console : Console) directory config words key value system, console.Prints →
    Config.load directory.config = .ok config → parse? words = some (.configSet key value) →
    let result := executeWords system directory words console
    (∃ output, result.1 = .exit 0 output ∧ Changed config key value result.2.config) ∨
      (result.1.Fails ∧ result.2 = directory) := by
  intro settles
  have written : (executeWords .basic {} ["config", "set", "shell", "[/x]"]).2.config.isSome = true := by
    decide +kernel
  have fails : (match (executeWords .basic {} ["config", "set", "shell", "[/x]"]).1 with
      | .failed _ => true
      | _ => false) = true := by decide +kernel
  obtain ⟨output, ends, -⟩ | ⟨-, same⟩ :=
    settles .plain {} {} ["config", "set", "shell", "[/x]"] "shell" "[/x]" .basic Console.plain_prints rfl rfl
  · rw [ends] at fails
    cases fails
  · rw [same] at written
    cases written

end Command
end TerminalDock
