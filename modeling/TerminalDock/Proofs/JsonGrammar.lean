import TerminalDock.Proofs.JsonSpelling

/-! The grammar of the data format, said apart from the reader. The reader finds a value in a text exactly if the grammar
gives the text that value. -/

namespace TerminalDock.Json

def Blank (text : List Char) : Prop := ∀ c ∈ text, isSpace c = true

private theorem skipSpace_blank {blank : List Char} (empty : Blank blank) (rest : List Char) :
    skipSpace (blank ++ rest) = skipSpace rest :=
  List.dropWhile_append_of_pos empty

private theorem blank_skipSpace (text : List Char) : ∃ blank, Blank blank ∧ text = blank ++ skipSpace text :=
  ⟨text.takeWhile isSpace, fun _ => List.mem_takeWhile_imp, List.takeWhile_append_dropWhile.symm⟩

mutual

/-- The values that texts stand for. -/
inductive Denotes : List Char → Json → Prop
  | word {text : List Char} {value : Json} (listed : (text, value) ∈ words) : Denotes text value
  | number {text : List Char} {value : Json} (numeral : Numeral text value) : Denotes text value
  | text {body : List Char} {codes : List Nat} (spelt : Spells body codes) : Denotes ('"' :: (body ++ ['"'])) (ofCodes codes)
  | emptyArray {blank : List Char} (empty : Blank blank) : Denotes ('[' :: (blank ++ [']'])) (.arr [])
  | array {blank body : List Char} {items : List Json} (empty : Blank blank) (listed : Lists body items) :
      Denotes ('[' :: (blank ++ (body ++ [']']))) (.arr items)
  | emptyObject {blank : List Char} (empty : Blank blank) : Denotes ('\x7b' :: (blank ++ ['\x7d'])) (.obj [])
  | object {blank body : List Char} {fields : List (String × Json)} (empty : Blank blank) (named : Names body fields) :
      Denotes ('\x7b' :: (blank ++ (body ++ ['\x7d']))) (.obj (Assoc.union [] fields))

/-- The items of an array, with commas between them and blanks around the commas. -/
inductive Lists : List Char → List Json → Prop
  | last {text blank : List Char} {item : Json} (denotes : Denotes text item) (empty : Blank blank) :
      Lists (text ++ blank) [item]
  | more {text blank lead body : List Char} {item : Json} {items : List Json} (denotes : Denotes text item)
      (empty : Blank blank) (emptyLead : Blank lead) (listed : Lists body items) :
      Lists (text ++ (blank ++ ',' :: (lead ++ body))) (item :: items)

/-- The fields of an object, in the same way. Of two fields with one key the later value counts in the place of the
earlier one. -/
inductive Names : List Char → List (String × Json) → Prop
  | last {text blank : List Char} {field : String × Json} (entry : Entry text field) (empty : Blank blank) :
      Names (text ++ blank) [field]
  | more {text blank lead body : List Char} {field : String × Json} {fields : List (String × Json)}
      (entry : Entry text field)
      (empty : Blank blank) (emptyLead : Blank lead) (named : Names body fields) :
      Names (text ++ (blank ++ ',' :: (lead ++ body))) (field :: fields)

/-- One field: a key in quotes, a colon and a value. -/
inductive Entry : List Char → String × Json → Prop
  | mk {key before after text : List Char} {codes : List Nat} {value : Json} (spelt : Spells key codes)
      (emptyBefore : Blank before) (emptyAfter : Blank after) (denotes : Denotes text value) :
      Entry ('"' :: (key ++ '"' :: (before ++ ':' :: (after ++ text)))) (keyOfCodes codes, value)

end

/-- A whole text: a value with blanks around it. -/
def Document (text : List Char) (value : Json) : Prop :=
  ∃ lead body trail, text = lead ++ (body ++ trail) ∧ Blank lead ∧ Blank trail ∧ Denotes body value

private theorem word?_listed {text rest : List Char} {value : Json} (read : word? text = some (value, rest)) :
    ∃ word, text = word ++ rest ∧ (word, value) ∈ words := by
  obtain ⟨⟨word, told⟩, listed, found⟩ := List.exists_of_findSome?_eq_some read
  dsimp only at found
  split at found
  next starts =>
    cases found
    exact ⟨word, (List.prefix_iff_eq_append.mp (List.isPrefixOf_iff_prefix.mp starts)).symm, listed⟩
  next => cases found

/-- What the readers find with so much fuel follows the grammar. -/
structure Sound (fuel : Nat) : Prop where
  value {text rest : List Char} {value : Json} (read : readValue fuel text = .ok (value, rest)) :
    ∃ body, text = body ++ rest ∧ Denotes body value
  items {text rest : List Char} {done items : List Json} (read : readItems fuel text done = .ok (items, rest)) :
    ∃ body found, text = body ++ ']' :: rest ∧ Lists body found ∧ items = done.reverse ++ found
  fields {text rest : List Char} {done fields : List (String × Json)}
    (read : readFields fuel text done = .ok (fields, rest)) :
    ∃ body found, text = body ++ '\x7d' :: rest ∧ Names body found ∧ fields = Assoc.union done found

private theorem readValue_denotes {fuel : Nat} (sound : Sound fuel) {text rest : List Char} {value : Json}
    (read : readValue (fuel + 1) text = .ok (value, rest)) : ∃ body, text = body ++ rest ∧ Denotes body value := by
  unfold readValue at read
  split at read
  next body =>
    cases found : readCodes body with
    | error stop =>
      rw [found] at read
      cases read
    | ok result =>
      obtain ⟨codes, after⟩ := result
      rw [found] at read
      cases read
      obtain ⟨text, rfl, spelt⟩ := readCodes_spells found
      exact ⟨_, by simp, .text spelt⟩
  next behind =>
    obtain ⟨blank, empty, whole⟩ := blank_skipSpace behind
    split at read
    next after ends =>
      cases read
      rw [ends] at whole
      subst whole
      exact ⟨_, by simp, .emptyArray empty⟩
    next =>
      cases found : readItems fuel (skipSpace behind) [] with
      | error stop =>
        rw [found] at read
        cases read
      | ok result =>
        obtain ⟨items, after⟩ := result
        rw [found] at read
        cases read
        obtain ⟨body, items, split, listed, rfl⟩ := sound.items found
        rw [split] at whole
        subst whole
        exact ⟨_, by simp, .array empty listed⟩
  next behind =>
    obtain ⟨blank, empty, whole⟩ := blank_skipSpace behind
    split at read
    next after ends =>
      cases read
      rw [ends] at whole
      subst whole
      exact ⟨_, by simp, .emptyObject empty⟩
    next =>
      cases found : readFields fuel (skipSpace behind) [] with
      | error stop =>
        rw [found] at read
        cases read
      | ok result =>
        obtain ⟨fields, after⟩ := result
        rw [found] at read
        cases read
        obtain ⟨body, fields, split, named, rfl⟩ := sound.fields found
        rw [split] at whole
        subst whole
        exact ⟨_, by simp, .object empty named⟩
  next =>
    split at read
    next found word =>
      cases read
      obtain ⟨word, whole, listed⟩ := word?_listed word
      exact ⟨word, whole, .word listed⟩
    next =>
      obtain ⟨body, whole, numeral⟩ := readNumber_numeral read
      exact ⟨body, whole, .number numeral⟩

private theorem readItems_lists {fuel : Nat} (sound : Sound fuel) {text rest : List Char} {done items : List Json}
    (read : readItems (fuel + 1) text done = .ok (items, rest)) :
    ∃ body found, text = body ++ ']' :: rest ∧ Lists body found ∧ items = done.reverse ++ found := by
  unfold readItems at read
  split at read
  · cases read
  next item behind first =>
    obtain ⟨body, rfl, denotes⟩ := sound.value first
    obtain ⟨blank, empty, whole⟩ := blank_skipSpace behind
    split at read
    next after ends =>
      cases read
      rw [ends] at whole
      subst whole
      exact ⟨_, _, by simp, .last denotes empty, List.reverse_cons⟩
    next after goesOn =>
      rw [goesOn] at whole
      subst whole
      obtain ⟨more, found, split, listed, rfl⟩ := sound.items read
      obtain ⟨lead, emptyLead, joined⟩ := blank_skipSpace after
      rw [split] at joined
      subst joined
      exact ⟨_, _, by simp, .more denotes empty emptyLead listed, by simp⟩
    next => cases read

private theorem readFields_names {fuel : Nat} (sound : Sound fuel) {text rest : List Char}
    {done fields : List (String × Json)}
    (read : readFields (fuel + 1) text done = .ok (fields, rest)) :
    ∃ body found, text = body ++ '\x7d' :: rest ∧ Names body found ∧ fields = Assoc.union done found := by
  unfold readFields at read
  split at read
  next body =>
    split at read
    · cases read
    next codes behind key =>
      obtain ⟨key, rfl, spelt⟩ := readCodes_spells key
      obtain ⟨before, emptyBefore, whole⟩ := blank_skipSpace behind
      split at read
      next behind colon =>
        rw [colon] at whole
        subst whole
        obtain ⟨after, emptyAfter, whole⟩ := blank_skipSpace behind
        split at read
        · cases read
        next value behind first =>
          obtain ⟨text, split, denotes⟩ := sound.value first
          rw [split] at whole
          subst whole
          have entry := Entry.mk spelt emptyBefore emptyAfter denotes
          obtain ⟨blank, empty, whole⟩ := blank_skipSpace behind
          dsimp only at read
          split at read
          next last ends =>
            cases read
            rw [ends] at whole
            subst whole
            exact ⟨_, _, by simp, .last entry empty, rfl⟩
          next next goesOn =>
            rw [goesOn] at whole
            subst whole
            obtain ⟨more, found, split, named, rfl⟩ := sound.fields read
            obtain ⟨lead, emptyLead, joined⟩ := blank_skipSpace next
            rw [split] at joined
            subst joined
            exact ⟨_, _, by simp, .more entry empty emptyLead named, rfl⟩
          next => cases read
      next => cases read
  next => cases read

theorem sound (fuel : Nat) : Sound fuel := by
  -- The three readers call one another with less fuel, so what is said of them is proved together.
  induction fuel with
  | zero =>
    constructor
    · intro _ _ _ read
      cases read
    · intro _ _ _ _ read
      cases read
    · intro _ _ _ _ read
      cases read
  | succ fuel ih => exact ⟨readValue_denotes ih, readItems_lists ih, readFields_names ih⟩

structure Opens (c : Char) : Prop where
  solid : isSpace c = false
  noBracket : c ≠ ']'
  noBrace : c ≠ '\x7d'
  noMark : c ≠ '\ufeff'

theorem Opens.number {c : Char} (starts : c = '-' ∨ isDigit c = true) : Opens c := by
  refine ⟨Bool.eq_false_iff.mpr fun blank => ?_, ?_, ?_, ?_⟩
  · simp only [isSpace, Bool.or_eq_true, beq_iff_eq] at blank
    obtain ((rfl | rfl) | rfl) | rfl := blank <;> exact absurd starts (by decide)
  all_goals
    rintro rfl
    exact absurd starts (by decide)

private theorem skipSpace_solid {c : Char} (solid : isSpace c = false) (rest : List Char) :
    skipSpace (c :: rest) = c :: rest := by
  rw [skipSpace, List.dropWhile_cons, solid]
  rfl

/-- A text that has no blanks in front and neither ends an array nor an object. -/
def Solid (text : List Char) : Prop := ∃ c more, text = c :: more ∧ Opens c

namespace Solid

variable {text : List Char}

theorem append (solid : Solid text) (rest : List Char) : Solid (text ++ rest) := by
  obtain ⟨c, more, rfl, opens⟩ := solid
  exact ⟨c, more ++ rest, rfl, opens⟩

theorem skipSpace (solid : Solid text) : skipSpace text = text := by
  obtain ⟨c, more, rfl, opens⟩ := solid
  exact skipSpace_solid opens.solid more

theorem length_pos (solid : Solid text) : 0 < text.length := by
  obtain ⟨c, more, rfl, opens⟩ := solid
  exact Nat.succ_pos _

end Solid

theorem Numeral.starts {text : List Char} {value : Json} (numeral : Numeral text value) :
    ∃ negative c more, text = sign negative ++ c :: more ∧ isDigit c = true := by
  cases numeral with
  | int negative whole few =>
    obtain ⟨c, more, rfl⟩ := List.exists_cons_of_ne_nil whole.digits.1
    exact ⟨negative, c, more, rfl, whole.digits.2 c List.mem_cons_self⟩
  | real negative whole placed raised broken =>
    obtain ⟨c, more, rfl⟩ := List.exists_cons_of_ne_nil whole.digits.1
    exact ⟨negative, c, _, rfl, whole.digits.2 c List.mem_cons_self⟩

theorem Numeral.solid {text : List Char} {value : Json} (numeral : Numeral text value) : Solid text := by
  obtain ⟨negative, c, more, rfl, digit⟩ := numeral.starts
  cases negative with
  | false => exact ⟨c, more, rfl, .number (.inr digit)⟩
  | true => exact ⟨'-', c :: more, rfl, .number (.inl rfl)⟩

theorem Denotes.solid {text : List Char} {value : Json} (denotes : Denotes text value) : Solid text := by
  have mark {c : Char} (opens : Opens c) (more : List Char) : Solid (c :: more) := ⟨c, more, rfl, opens⟩
  cases denotes with
  | word listed =>
    simp only [words, List.mem_cons, Prod.mk.injEq, List.not_mem_nil, or_false] at listed
    obtain ⟨rfl, -⟩ | ⟨rfl, -⟩ | ⟨rfl, -⟩ | ⟨rfl, -⟩ | ⟨rfl, -⟩ | ⟨rfl, -⟩ := listed <;>
      exact mark (by constructor <;> decide) _
  | number numeral => exact numeral.solid
  | text spelt => exact mark (by constructor <;> decide) _
  | emptyArray empty => exact mark (by constructor <;> decide) _
  | array empty listed => exact mark (by constructor <;> decide) _
  | emptyObject empty => exact mark (by constructor <;> decide) _
  | object empty named => exact mark (by constructor <;> decide) _

theorem Lists.solid {text : List Char} {items : List Json} (listed : Lists text items) : Solid text := by
  cases listed with
  | last denotes empty => exact denotes.solid.append _
  | more denotes empty emptyLead listed => exact denotes.solid.append _

theorem Entry.solid {text : List Char} {field : String × Json} (entry : Entry text field) : Solid text := by
  cases entry
  exact ⟨_, _, rfl, by constructor <;> decide⟩

theorem Names.solid {text : List Char} {fields : List (String × Json)} (named : Names text fields) : Solid text := by
  cases named with
  | last entry empty => exact entry.solid.append _
  | more entry empty emptyLead named => exact entry.solid.append _

theorem Ended.cons {c : Char} (closing : isSpace c = true ∨ c = ',' ∨ c = ']' ∨ c = '\x7d') (rest : List Char) :
    Ended (c :: rest) := by
  intro first head
  obtain rfl := Option.some.inj head
  exact closing

theorem Ended.blank {blank rest : List Char} (empty : Blank blank) (ended : Ended rest) : Ended (blank ++ rest) := by
  cases blank with
  | nil => exact ended
  | cons c blank => exact .cons (.inl (empty c List.mem_cons_self)) _

theorem Numeral.readValue {text rest : List Char} {value : Json} (numeral : Numeral text value) (ended : Ended rest)
    (fuel : Nat) : readValue (fuel + 1) (text ++ rest) = .ok (value, rest) := by
  have read := numeral.readNumber ended
  obtain ⟨negative, c, more, rfl, digit⟩ := numeral.starts
  have other : c ≠ '"' ∧ c ≠ '[' ∧ c ≠ '\x7b' := by
    refine ⟨?_, ?_, ?_⟩ <;> rintro rfl <;> exact absurd digit (by decide)
  have noLetter : 'n' ≠ c ∧ 't' ≠ c ∧ 'f' ≠ c ∧ 'N' ≠ c ∧ 'I' ≠ c ∧ '-' ≠ c := by
    refine ⟨?_, ?_, ?_, ?_, ?_, ?_⟩ <;> rintro rfl <;> exact absurd digit (by decide)
  have noWord : word? (sign negative ++ c :: more ++ rest) = none := by
    cases negative with
    | true => simp [sign, word?, words, noLetter]
    | false => simp [sign, word?, words, noLetter]
  cases negative with
  | true =>
    rw [sign, if_pos rfl] at read noWord ⊢
    simp only [List.cons_append, List.nil_append] at read noWord ⊢
    simp [Json.readValue, noWord, read]
  | false =>
    rw [sign, if_neg Bool.false_ne_true] at read noWord ⊢
    simp only [List.cons_append, List.nil_append] at read noWord ⊢
    simp [Json.readValue, other, noWord, read]

private theorem readValue_array {fuel : Nat} {blank solid after : List Char} {items : List Json} (empty : Blank blank)
    (opens : Solid solid) (read : readItems fuel solid [] = .ok (items, after)) :
    readValue (fuel + 1) ('[' :: (blank ++ solid)) = .ok (.arr items, after) := by
  have starts : skipSpace (blank ++ solid) = solid := (skipSpace_blank empty solid).trans opens.skipSpace
  obtain ⟨c, more, rfl, opens⟩ := opens
  simp [readValue, starts, opens.noBracket, read, Except.map]

private theorem readValue_object {fuel : Nat} {blank solid after : List Char} {fields : List (String × Json)}
    (empty : Blank blank)
    (opens : Solid solid) (read : readFields fuel solid [] = .ok (fields, after)) :
    readValue (fuel + 1) ('\x7b' :: (blank ++ solid)) = .ok (.obj fields, after) := by
  have starts : skipSpace (blank ++ solid) = solid := (skipSpace_blank empty solid).trans opens.skipSpace
  obtain ⟨c, more, rfl, opens⟩ := opens
  simp [readValue, starts, opens.noBrace, read, Except.map]

mutual

/-- A value is read as what its text stands for, if it is told where it ends. -/
theorem Denotes.readValue {text : List Char} {value : Json} (denotes : Denotes text value) :
    ∀ {fuel : Nat} {rest : List Char}, 2 * text.length ≤ fuel → Ended rest →
      readValue fuel (text ++ rest) = .ok (value, rest) := by
  intro fuel rest enough ended
  have some := denotes.solid.length_pos
  obtain ⟨fuel, rfl⟩ := Nat.exists_eq_add_one.mpr (by omega : 0 < fuel)
  match denotes with
  | .word listed =>
    simp only [words, List.mem_cons, Prod.mk.injEq, List.not_mem_nil, or_false] at listed
    obtain ⟨rfl, rfl⟩ | ⟨rfl, rfl⟩ | ⟨rfl, rfl⟩ | ⟨rfl, rfl⟩ | ⟨rfl, rfl⟩ | ⟨rfl, rfl⟩ := listed <;>
      simp [Json.readValue, word?, words]
  | .number numeral => exact numeral.readValue ended fuel
  | .text spelt => simp [Json.readValue, spelt.readCodes, Except.map]
  | .emptyArray empty =>
    have ends : skipSpace (']' :: rest) = ']' :: rest := skipSpace_solid rfl rest
    simp [Json.readValue, skipSpace_blank empty, ends]
  | .array empty listed =>
    simp only [List.length_cons, List.length_append, List.length_nil] at enough
    simp only [List.cons_append, List.append_assoc, List.nil_append]
    exact readValue_array empty (listed.solid.append _) (listed.readItems (by omega))
  | .emptyObject empty =>
    have ends : skipSpace ('\x7d' :: rest) = '\x7d' :: rest := skipSpace_solid rfl rest
    simp [Json.readValue, skipSpace_blank empty, ends]
  | .object empty named =>
    simp only [List.length_cons, List.length_append, List.length_nil] at enough
    simp only [List.cons_append, List.append_assoc, List.nil_append]
    exact readValue_object empty (named.solid.append _) (named.readFields (by omega))

theorem Lists.readItems {text : List Char} {items : List Json} (listed : Lists text items) :
    ∀ {fuel : Nat} {done : List Json} {rest : List Char}, 2 * text.length + 1 ≤ fuel →
      readItems fuel (text ++ ']' :: rest) done = .ok (done.reverse ++ items, rest) := by
  intro fuel done rest enough
  obtain ⟨fuel, rfl⟩ := Nat.exists_eq_add_one.mpr (by omega : 0 < fuel)
  match listed with
  | .last denotes empty =>
    simp only [List.length_append] at enough
    have ended := Ended.blank empty (.cons (.inr (.inr (.inl rfl))) rest)
    rw [Json.readItems, List.append_assoc, denotes.readValue (by omega) ended]
    dsimp only
    rw [skipSpace_blank empty, skipSpace_solid rfl, List.reverse_cons]
    rfl
  | @Lists.more _ _ lead body item _ denotes empty emptyLead listed =>
    simp only [List.length_append, List.length_cons] at enough
    have ended := Ended.blank empty (.cons (.inr (.inl rfl)) (lead ++ (body ++ ']' :: rest)))
    have more : Json.readItems fuel (body ++ ']' :: rest) (item :: done) = .ok ((item :: done).reverse ++ _, rest) :=
      listed.readItems (by omega)
    rw [List.reverse_cons, List.append_assoc] at more
    simp only [List.append_assoc, List.cons_append]
    rw [Json.readItems, denotes.readValue (by omega) ended]
    dsimp only
    rw [skipSpace_blank empty, skipSpace_solid rfl]
    show Json.readItems fuel (skipSpace (lead ++ (body ++ ']' :: rest))) (item :: done) = _
    rw [skipSpace_blank emptyLead, (listed.solid.append _).skipSpace, more]
    rfl

theorem Entry.readFields {text : List Char} {field : String × Json} (entry : Entry text field) :
    ∀ {fuel : Nat} {done : List (String × Json)} {rest : List Char}, 2 * text.length ≤ fuel + 1 → Ended rest →
      readFields (fuel + 1) (text ++ rest) done =
        match skipSpace rest with
        | '\x7d' :: last => .ok (Assoc.put field.1 field.2 done, last)
        | ',' :: next => Json.readFields fuel (skipSpace next) (Assoc.put field.1 field.2 done)
        | rest => stopAt .comma rest := by
  intro fuel done rest enough ended
  match entry with
  | @Entry.mk _ _ after text _ _ spelt emptyBefore emptyAfter denotes =>
    simp only [List.length_append, List.length_cons] at enough
    have colon := skipSpace_blank emptyBefore (':' :: (after ++ (text ++ rest)))
    have first := skipSpace_blank emptyAfter (text ++ rest)
    rw [skipSpace_solid rfl] at colon
    rw [(denotes.solid.append rest).skipSpace] at first
    simp only [List.cons_append, List.append_assoc]
    rw [Json.readFields, spelt.readCodes]
    simp only [colon, first]
    have told := denotes.readValue (by omega : 2 * text.length ≤ fuel) ended
    generalize Json.readValue fuel (text ++ rest) = read at told ⊢
    subst told
    rfl

theorem Names.readFields {text : List Char} {fields : List (String × Json)} (named : Names text fields) :
    ∀ {fuel : Nat} {done : List (String × Json)} {rest : List Char}, 2 * text.length + 1 ≤ fuel →
      readFields fuel (text ++ '\x7d' :: rest) done = .ok (Assoc.union done fields, rest) := by
  intro fuel done rest enough
  obtain ⟨fuel, rfl⟩ := Nat.exists_eq_add_one.mpr (by omega : 0 < fuel)
  match named with
  | .last entry empty =>
    simp only [List.length_append] at enough
    have ended := Ended.blank empty (.cons (.inr (.inr (.inr rfl))) rest)
    rw [List.append_assoc, entry.readFields (by omega) ended, skipSpace_blank empty, skipSpace_solid rfl]
    rfl
  | @Names.more _ _ lead body _ _ entry empty emptyLead named =>
    simp only [List.length_append, List.length_cons] at enough
    have ended := Ended.blank empty (.cons (.inr (.inl rfl)) (lead ++ (body ++ '\x7d' :: rest)))
    simp only [List.append_assoc, List.cons_append]
    rw [entry.readFields (by omega) ended, skipSpace_blank empty, skipSpace_solid rfl]
    show Json.readFields fuel (skipSpace (lead ++ (body ++ '\x7d' :: rest))) _ = _
    rw [skipSpace_blank emptyLead, (named.solid.append _).skipSpace, named.readFields (by omega)]
    rfl

end

theorem Ended.of_blank {blank : List Char} (empty : Blank blank) : Ended blank :=
  fun c head => .inl (empty c (List.mem_of_mem_head? head))

theorem parse_ok_iff {text : List Char} {value : Json} : parse text = .ok value ↔ Document text value := by
  rw [parse, readAll]
  constructor
  · intro read
    split at read
    · cases read
    next =>
      obtain ⟨lead, emptyLead, whole⟩ := blank_skipSpace text
      cases found : readValue (2 * text.length + 1) (skipSpace text) with
      | error stop =>
        rw [found] at read
        cases read
      | ok result =>
        obtain ⟨told, rest⟩ := result
        rw [found] at read
        obtain ⟨body, split, denotes⟩ := (sound _).value found
        obtain ⟨trail, emptyTrail, ends⟩ := blank_skipSpace rest
        dsimp only at read
        split at read
        next nothing =>
          cases read
          rw [nothing, List.append_nil] at ends
          subst ends
          exact ⟨lead, body, rest, split ▸ whole, emptyLead, emptyTrail, denotes⟩
        next => cases read
  · rintro ⟨lead, body, trail, rfl, emptyLead, emptyTrail, denotes⟩
    have solid := denotes.solid
    have noMark : (lead ++ (body ++ trail)).head? ≠ some '\ufeff' := by
      cases lead with
      | nil =>
        obtain ⟨c, more, rfl, opens⟩ := solid
        exact fun mark => opens.noMark (Option.some.inj mark)
      | cons c lead =>
        intro mark
        obtain rfl := Option.some.inj mark
        exact absurd (emptyLead _ List.mem_cons_self) (by decide)
    have enough : 2 * body.length ≤ 2 * (lead ++ (body ++ trail)).length + 1 := by
      simp only [List.length_append]
      omega
    have nothing : skipSpace trail = [] := by
      have all := skipSpace_blank emptyTrail []
      rwa [List.append_nil] at all
    rw [if_neg (mt beq_iff_eq.mp noMark), skipSpace_blank emptyLead, (solid.append trail).skipSpace,
      denotes.readValue enough (.of_blank emptyTrail)]
    dsimp only
    rw [nothing]
    rfl

end TerminalDock.Json
