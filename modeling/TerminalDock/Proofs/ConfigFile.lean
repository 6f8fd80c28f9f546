import TerminalDock.Config.Store
import TerminalDock.Proofs.ConfigBounds
import TerminalDock.Proofs.JsonCodec
import TerminalDock.Proofs.Utf8Codec

/-! A configuration that is saved is loaded again. The file holds an object with a field for each part; it goes out as text
and bytes and comes back through the decoder, the parser and the validation of each field. An accepted configuration has in
every field what the field's reader makes of the value that was given for it, or the default. -/

namespace TerminalDock

namespace PanelConfig

def integers (config : PanelConfig) : List Int := [
  config.fontSize, config.scrollback, config.minHeight, config.maxHeight, config.defaultHeight, config.padding,
  config.minRows, config.minCols, config.frameDelayMs]

private theorem names_nodup (config : PanelConfig) : (config.fields.map Prod.fst).Nodup := by
  show (({} : PanelConfig).fields.map Prod.fst).Nodup
  decide

theorem fields_plain {config : PanelConfig} (short : ∀ value ∈ config.integers, Json.Short value) :
    Json.Plain (.obj config.fields) := by
  have number {value : Int} (member : value ∈ config.integers) : Json.Plain (.int value) := .int (short value member)
  refine .obj config.names_nodup (List.forall_mem_cons.mpr ⟨?_, ?_⟩)
  · cases config.shell with
    | none => exact .null
    | some shell => exact .str shell
  · simp only [List.forall_mem_cons]
    exact ⟨.bool _, .str _, number (by simp [integers]), number (by simp [integers]), number (by simp [integers]),
      number (by simp [integers]), number (by simp [integers]), number (by simp [integers]), number (by simp [integers]),
      number (by simp [integers]), number (by simp [integers]), List.forall_mem_nil _⟩

end PanelConfig

namespace Config

private theorem unifyLines_eq {text : List Char} (quiet : '\r' ∉ text) : unifyLines text = text := by
  induction text with
  | nil => rfl
  | cons c text ih =>
    rw [List.mem_cons, not_or] at quiet
    rw [unifyLines, ih quiet.2]
    · exact fun rest first _ => quiet.1 first.symm
    · exact fun first => quiet.1 first.symm

/-- What bytes say: a text, with line ends of any kind, that stands for a value. -/
def Holds (bytes : List UInt8) (value : Json) : Prop :=
  ∃ text, Text.Utf8.encode text = bytes ∧ Json.Document (unifyLines text) value

theorem readJson_ok_iff {bytes : List UInt8} {value : Json} : readJson bytes = .ok value ↔ Holds bytes value := by
  rw [readJson]
  constructor
  · intro read
    cases decoded : Text.Utf8.decode bytes with
    | error fault =>
      rw [decoded] at read
      cases read
    | ok text =>
      rw [decoded] at read
      dsimp only at read
      refine ⟨text, Text.Utf8.decode_ok_iff.mp decoded, Json.parse_ok_iff.mp ?_⟩
      cases parsed : Json.parse (unifyLines text) with
      | error fault =>
        rw [parsed] at read
        cases read
      | ok found =>
        rw [parsed] at read
        cases read
        rfl
  · rintro ⟨text, encoded, document⟩
    rw [Text.Utf8.decode_ok_iff.mpr encoded]
    dsimp only
    rw [Json.parse_ok_iff.mpr document]
    rfl

theorem holds_render (layout : Json.Layout) {value : Json} (plain : value.Plain) :
    Holds (Text.Utf8.encode (Json.render layout 0 value)) value := by
  refine ⟨_, rfl, ?_⟩
  rw [unifyLines_eq plain.not_mem_render]
  exact Json.parse_ok_iff.mp (Json.parse_render layout plain)

private theorem readJson_pretty {value : Json} (plain : value.Plain) :
    readJson (Text.Utf8.encode (Json.prettyUnescaped value)) = .ok value :=
  readJson_ok_iff.mpr (holds_render ⟨false, some 2⟩ plain)

/-- A configuration that was accepted is loaded as it was saved. -/
theorem load_saved {given : List (String × Json)} {config : PanelConfig} (valid : validate given = .ok config)
    (short : ∀ value ∈ config.integers, Json.Short value) : load (some (save config)) = .ok config := by
  rw [save, load, readJson_pretty (config.fields_plain short)]
  dsimp only
  rw [validate_fields (validate_sound valid)]
  rfl

/-- Quotes, escapes, line ends of every kind, control characters and characters above the first plane, in a configuration
at the edge of its bounds. -/
theorem load_saved_unusual : ∃ config : PanelConfig, config.shell = some "\"z\\sh\" \x00\x1f\x7f\u2028🐚" ∧
    config.fontFamily = "Ménlo\r\n\t" ∧ config.maxHeight = 50 ∧ config.defaultHeight = -40 ∧
    load (some (save config)) = .ok config := by
  have valid : validate [
      ("shell", .str "\"z\\sh\" \x00\x1f\x7f\u2028🐚"), ("login_shell", .str "No"), ("font_family", .str "Ménlo\r\n\t"),
      ("min_height", .str "050"), ("max_height", .int 50), ("default_height", .int (-40))] =
    .ok { shell := some "\"z\\sh\" \x00\x1f\x7f\u2028🐚", loginShell := false, fontFamily := "Ménlo\r\n\t", minHeight := 50,
          maxHeight := 50, defaultHeight := -40 } := rfl
  exact ⟨_, rfl, rfl, rfl, rfl, load_saved valid (by decide)⟩

def number (low high : Option Int) (value : Json) : Except FieldFault Json :=
  (bounded low high value).map .int

def readers : Assoc String (Json → Except FieldFault Json) := [
  ("shell", fun value => (textOrNone value).map fun shell => shell.elim .null .str),
  ("login_shell", fun value => (truth value).map .bool),
  ("font_family", fun value => (text value).map .str),
  ("font_size", number (some 6) (some 28)),
  ("scrollback", number (some 0) none),
  ("min_height", number (some 50) none),
  ("max_height", number (some 50) none),
  ("default_height", fun value => (integer value).map .int),
  ("padding", number (some 0) none),
  ("min_rows", number (some 1) none),
  ("min_cols", number (some 1) none),
  ("frame_delay_ms", number (some 0) none)]

variable {given : List (String × Json)} {config : PanelConfig} {name : String}

/-- What a field is, if there is nothing wrong with it. -/
def Taken {α : Type} (given : List (String × Json)) (name : String) (default : α) (read : Json → Except FieldFault α)
    (result : α) : Prop :=
  (Assoc.find? name given = none ∧ result = default) ∨ ∃ value, Assoc.find? name given = some value ∧ read value = .ok result

private theorem readField_clean {α : Type} {default : α} {read : Json → Except FieldFault α} {problems : List Problem}
    (clean : (readField given name default read problems).2.isEmpty = true) :
    problems.isEmpty = true ∧ Taken given name default read (readField given name default read problems).1 := by
  unfold readField at clean ⊢
  split at clean
  next absent => exact ⟨clean, .inl ⟨absent, rfl⟩⟩
  next value found =>
    split at clean
    next result told => exact ⟨clean, .inr ⟨value, found, by simp [told]⟩⟩
    next fault told => simp at clean

theorem Taken.encoded {α : Type} {default result : α} {read : Json → Except FieldFault α}
    (taken : Taken given name default read result)
    (encode : α → Json) : Taken given name (encode default) (fun value => (read value).map encode) (encode result) := by
  obtain ⟨absent, rfl⟩ | ⟨value, found, told⟩ := taken
  · exact .inl ⟨absent, rfl⟩
  · exact .inr ⟨value, found, by simp [told, Except.map]⟩

theorem Taken.read_ok {α : Type} {default result : α} {read : Json → Except FieldFault α}
    (taken : Taken given name default read result) {value : Json} (found : Assoc.find? name given = some value) :
    read value = .ok result := by
  obtain ⟨absent, -⟩ | ⟨same, foundToo, told⟩ := taken
  · rw [absent] at found
    cases found
  · cases found.symm.trans foundToo
    exact told

/-- In an accepted configuration each field is what its reader made of the given value, or the default. -/
theorem validate_taken (valid : validate given = .ok config) : ∀ reader ∈ readers, ∃ default result,
    Assoc.find? reader.1 ({} : PanelConfig).fields = some default ∧ Assoc.find? reader.1 config.fields = some result ∧
      Taken given reader.1 default reader.2 result := by
  simp only [validate] at valid
  split at valid
  · cases valid
  next clean =>
    split at valid
    · cases valid
    cases valid
    rw [Bool.not_eq_true', Bool.not_eq_false] at clean
    obtain ⟨clean, frameDelay⟩ := readField_clean clean
    obtain ⟨clean, minCols⟩ := readField_clean clean
    obtain ⟨clean, minRows⟩ := readField_clean clean
    obtain ⟨clean, padding⟩ := readField_clean clean
    obtain ⟨clean, defaultHeight⟩ := readField_clean clean
    obtain ⟨clean, maxHeight⟩ := readField_clean clean
    obtain ⟨clean, minHeight⟩ := readField_clean clean
    obtain ⟨clean, scrollback⟩ := readField_clean clean
    obtain ⟨clean, fontSize⟩ := readField_clean clean
    obtain ⟨clean, fontFamily⟩ := readField_clean clean
    obtain ⟨clean, loginShell⟩ := readField_clean clean
    obtain ⟨-, shell⟩ := readField_clean clean
    simp only [readers, List.forall_mem_cons]
    exact ⟨⟨_, _, rfl, rfl, shell.encoded fun shell => shell.elim .null .str⟩, ⟨_, _, rfl, rfl, loginShell.encoded .bool⟩,
      ⟨_, _, rfl, rfl, fontFamily.encoded .str⟩, ⟨_, _, rfl, rfl, fontSize.encoded .int⟩,
      ⟨_, _, rfl, rfl, scrollback.encoded .int⟩, ⟨_, _, rfl, rfl, minHeight.encoded .int⟩,
      ⟨_, _, rfl, rfl, maxHeight.encoded .int⟩, ⟨_, _, rfl, rfl, defaultHeight.encoded .int⟩,
      ⟨_, _, rfl, rfl, padding.encoded .int⟩, ⟨_, _, rfl, rfl, minRows.encoded .int⟩,
      ⟨_, _, rfl, rfl, minCols.encoded .int⟩, ⟨_, _, rfl, rfl, frameDelay.encoded .int⟩, List.forall_mem_nil _⟩

private theorem reader_of_known (known : name ∈ config.fields.map Prod.fst) : ∃ read, (name, read) ∈ readers := by
  have order : config.fields.map Prod.fst = readers.map Prod.fst := rfl
  rw [order] at known
  obtain ⟨⟨_, read⟩, listed, rfl⟩ := List.mem_map.mp known
  exact ⟨read, listed⟩

/-- If the value of one field is changed, and what this makes is accepted, the others are as they were. -/
theorem validate_put {value : Json} {changed : PanelConfig} (sound : config.Sound)
    (known : name ∈ config.fields.map Prod.fst)
    (valid : validate (Assoc.put name value config.fields) = .ok changed) : ∃ read result, (name, read) ∈ readers ∧
      read value = .ok result ∧ changed.fields = Assoc.put name result config.fields := by
  have before := validate_taken (validate_fields sound)
  have after := validate_taken valid
  obtain ⟨read, listed⟩ := reader_of_known known
  obtain ⟨default, result, -, now, taken⟩ := after _ listed
  dsimp only at now taken
  refine ⟨read, result, listed, taken.read_ok (Assoc.find?_put_self name value config.fields), ?_⟩
  refine Assoc.eq_of_find? (Assoc.keys_put_of_present known result).symm changed.names_nodup fun other member => ?_
  by_cases here : other = name
  · rw [here, Assoc.find?_put_self, now]
  · obtain ⟨read, listed⟩ := reader_of_known member
    obtain ⟨_, held, -, old, own⟩ := before _ listed
    obtain ⟨_, kept, -, new, taken⟩ := after _ listed
    dsimp only at old own new taken
    have unchanged := (Assoc.find?_put_of_ne here value config.fields).trans old
    have same : held = kept := Except.ok.inj ((own.read_ok old).symm.trans (taken.read_ok unchanged))
    rw [Assoc.find?_put_of_ne here, old, new, same]

private theorem short_of_lt {value : Int} (small : value.natAbs < 10 ^ Json.digitLimit) : Json.Short value :=
  (Nat.length_toDigits_le_iff (by omega) (by decide)).mpr small

private theorem digit_lt {c : Char} (digit : isDigit c = true) : c.toNat - 48 < 10 := by
  have top : c.toNat ≤ 57 := Json.digit_le digit
  omega

private theorem digitsFrom_lt {text : List Char} {value number : Nat} (read : digitsFrom value text = some number) :
    number < (value + 1) * 10 ^ text.length := by
  have grown {value digit length : Nat} (small : digit < 10) :
    (value * 10 + digit + 1) * 10 ^ length ≤ (value + 1) * 10 ^ (length + 1) := by
    rw [Nat.pow_succ, Nat.mul_comm (10 ^ length), ← Nat.mul_assoc]
    exact Nat.mul_le_mul_right _ (by omega)
  have one (length : Nat) : 0 < 10 ^ length := Nat.pow_pos (by omega)
  fun_induction digitsFrom value text with
  | case1 value =>
    cases read
    simp
  | case2 value zeros =>
    cases read
    exact Nat.lt_of_lt_of_le (Nat.lt_succ_self _) (Nat.le_mul_of_pos_right _ (one _))
  | case3 | case5 | case7 => cases read
  | case4 value c rest digit ih =>
    refine Nat.lt_of_lt_of_le (ih read) (Nat.le_trans (grown (digit_lt digit)) ?_)
    exact Nat.mul_le_mul_left _ (Nat.pow_le_pow_right (by omega) (by simp))
  | case6 value c rest _ _ digit ih => exact Nat.lt_of_lt_of_le (ih read) (grown (digit_lt digit))

private theorem unsigned?_lt {text : List Char} {number : Nat} (read : unsigned? text = some number) :
    number < 10 ^ text.length := by
  cases text with
  | nil => cases read
  | cons c rest =>
    rw [unsigned?] at read
    split at read
    next digit =>
      have small := digit_lt digit
      refine Nat.lt_of_lt_of_le (digitsFrom_lt read) ?_
      rw [List.length_cons, Nat.pow_succ, Nat.mul_comm]
      exact Nat.mul_le_mul_left _ (by omega)
    next => cases read

private theorem length_le_encoded (text : List Char) : text.length ≤ (Text.Utf8.encode text).length := by
  induction text with
  | nil => exact Nat.le_refl _
  | cons c rest ih =>
    have some : 0 < (String.utf8EncodeChar c).length := List.length_pos_of_ne_nil String.utf8EncodeChar_ne_nil
    rw [Text.Utf8.encode, List.flatMap_cons, List.length_append, List.length_cons]
    exact Nat.add_comm _ _ ▸ Nat.add_le_add some ih

private theorem integerOfText_short {text : List Char} {value : Int} (read : integerOfText text = .ok value) :
    Json.Short value := by
  rw [integerOfText] at read
  dsimp only at read
  split at read
  · cases read
  next limited =>
    have few {rest : List Char} {number : Nat} (told : unsigned? rest = some number)
      (part : rest.length ≤ (trim text).length) :
        number < 10 ^ Json.digitLimit := by
      refine Nat.lt_of_lt_of_le (unsigned?_lt told) (Nat.pow_le_pow_right (by omega) ?_)
      exact Nat.le_trans part (Nat.le_trans (length_le_encoded _) (Nat.not_lt.mp limited))
    split at read
    next number found =>
      cases read
      split at found
      next rest body =>
        obtain ⟨_, counted, rfl⟩ := Option.map_eq_some_iff.mp found
        obtain ⟨number, told, same⟩ := Option.bind_eq_some_iff.mp counted
        cases same
        refine short_of_lt ?_
        rw [Int.natAbs_neg, Int.natAbs_natCast]
        exact few told (by simp [body])
      next rest body =>
        obtain ⟨number, told, rfl⟩ := Option.map_eq_some_iff.mp found
        exact short_of_lt (few told (by simp [body]))
      next =>
        obtain ⟨number, told, rfl⟩ := Option.map_eq_some_iff.mp found
        exact short_of_lt (few told (Nat.le_refl _))
    next => cases read

/-- A number that is read from a value of a file can be written into one. -/
theorem integer_short {value : Json} (told : value.Told) {number : Int} (read : integer value = .ok number) :
    Json.Short number := by
  cases value with
  | int =>
    cases read
    exact told.short
  | bool value =>
    cases read
    cases value <;> decide
  | float value =>
    rw [integer] at read
    split at read
    · cases read
    split at read
    · cases read
    split at read
    next whole truncated =>
      split at read
      next small =>
        cases read
        refine short_of_lt (Nat.lt_of_lt_of_le small ?_)
        exact Nat.le_trans (Nat.pow_le_pow_left (by omega : 2 ≤ 10) 63) (Nat.pow_le_pow_right (by omega) (by decide))
      next => cases read
    next => cases read
  | str text => exact integerOfText_short read
  | null | units | arr | obj => cases read

private theorem readers_integer : ∀ reader ∈ readers, ∀ value number, reader.2 value = .ok (.int number) →
    integer value = .ok number := by
  have bounds (low high : Option Int) (value : Json) (number : Int)
    (read : Config.number low high value = .ok (.int number)) :
      integer value = .ok number := by
    rw [Config.number] at read
    cases told : bounded low high value with
    | error fault =>
      rw [told] at read
      cases read
    | ok found =>
      rw [told] at read
      cases read
      exact (bounded_ok_iff.mp told).1
  simp only [readers, List.forall_mem_cons]
  refine ⟨fun value number read => ?_, fun value number read => ?_, fun value number read => ?_, bounds _ _,
    bounds _ _, bounds _ _,
    bounds _ _, fun value number read => ?_, bounds _ _, bounds _ _, bounds _ _, bounds _ _, List.forall_mem_nil _⟩
  · cases told : textOrNone value with
    | error fault =>
      rw [told] at read
      cases read
    | ok shell =>
      rw [told] at read
      cases shell <;> cases read
  · cases told : truth value <;> rw [told] at read <;> cases read
  · cases told : text value <;> rw [told] at read <;> cases read
  · cases told : integer value with
    | error fault =>
      rw [told] at read
      cases read
    | ok found =>
      rw [told] at read
      cases read
      rfl

private theorem default_short : ∀ field ∈ ({} : PanelConfig).fields, ∀ value, field.2 = .int value → Json.Short value := by
  simp only [PanelConfig.fields, List.forall_mem_cons, Option.elim, reduceCtorEq, false_implies, Json.int.injEq, forall_eq',
    implies_true, List.not_mem_nil, true_and, and_true]
  decide

theorem validate_short (valid : validate given = .ok config) (told : ∀ field ∈ given, Json.Told field.2) :
    ∀ value ∈ config.integers, Json.Short value := by
  have field (name : String) (value : Int) (listed : Assoc.find? name config.fields = some (.int value)) :
    Json.Short value := by
    obtain ⟨read, reader⟩ := reader_of_known (Assoc.mem_keys_iff.mpr ⟨_, listed⟩)
    obtain ⟨default, result, initial, found, taken⟩ := validate_taken valid _ reader
    cases listed.symm.trans found
    obtain ⟨-, same⟩ | ⟨source, there, read⟩ := taken
    · cases same
      exact default_short _ (Assoc.mem_of_find? initial) _ rfl
    · exact integer_short (told _ (Assoc.mem_of_find? there)) (readers_integer _ reader source value read)
  simp only [PanelConfig.integers, List.forall_mem_cons]
  exact ⟨field "font_size" _ rfl, field "scrollback" _ rfl, field "min_height" _ rfl, field "max_height" _ rfl,
    field "default_height" _ rfl, field "padding" _ rfl, field "min_rows" _ rfl, field "min_cols" _ rfl,
    field "frame_delay_ms" _ rfl, List.forall_mem_nil _⟩

theorem load_sound {file : File} (loaded : load file = .ok config) :
    config.Sound ∧ ∀ value ∈ config.integers, Json.Short value := by
  cases file with
  | none =>
    cases loaded
    have valid : validate [] = .ok {} := rfl
    exact ⟨validate_sound valid, by decide⟩
  | some bytes =>
    rw [load] at loaded
    split at loaded
    · cases loaded
    next fields read =>
      obtain ⟨text, -, document⟩ := readJson_ok_iff.mp read
      cases valid : validate fields with
      | error problems =>
        rw [valid] at loaded
        cases loaded
      | ok found =>
        rw [valid] at loaded
        cases loaded
        exact ⟨validate_sound valid, validate_short valid (Json.Told.document document).object.2⟩
    · cases loaded

end Config
end TerminalDock
