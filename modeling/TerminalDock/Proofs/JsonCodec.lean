import Mathlib.Algebra.Group.Nat.Defs
import Mathlib.Data.List.Induction
import TerminalDock.Json.Printer
import TerminalDock.Proofs.JsonGrammar
import TerminalDock.Proofs.TableLaws

/-! A value that was written is read back, in any layout: what is written for it stands for it, by the grammar. A
character is an escape of its own code, a number is written without a leading zero, and blanks stand where the grammar
has them. -/

namespace TerminalDock

theorem Text.mem_hexDigits {c : Char} {value : Nat} (member : c ∈ hexDigits value) : ∃ digit < 16, c = hexDigit digit := by
  induction value using Nat.strongRecOn with
  | ind value ih =>
    rw [hexDigits] at member
    split at member
    next small => exact ⟨value, small, List.mem_singleton.mp member⟩
    next large =>
      rcases List.mem_append.mp member with front | last
      · exact ih (value / 16) (by omega) front
      · exact ⟨value % 16, by omega, List.mem_singleton.mp last⟩

namespace Json

private theorem hexValue?_hexDigit : ∀ value < 16, Text.hexValue? (Text.hexDigit value) = some value := by
  decide

private theorem padZeros_hexDigits (width value : Nat) :
    Text.padZeros (width + 2) (Text.hexDigits value) =
      Text.padZeros (width + 1) (Text.hexDigits (value / 16)) ++ [Text.hexDigit (value % 16)] := by
  rw [Text.hexDigits]
  split
  next small =>
    rw [Nat.div_eq_of_lt small, Nat.mod_eq_of_lt small, Text.hexDigits, if_pos (by omega)]
    exact congrArg (· ++ [Text.hexDigit value]) List.replicate_succ'
  next large =>
    rw [Text.padZeros, Text.padZeros, List.length_append, List.append_assoc]
    exact congrArg (List.replicate · '0' ++ _) (by rw [List.length_singleton]; omega)

private theorem unitEscape_escape {unit : Nat} (small : unit < 0x10000) : EscapeOf (unitEscape unit) unit := by
  refine ⟨Text.hexDigit (unit / 16 / 16 / 16), Text.hexDigit (unit / 16 / 16 % 16), Text.hexDigit (unit / 16 % 16),
    Text.hexDigit (unit % 16), ?_, fun rest => ?_⟩
  · rw [unitEscape, padZeros_hexDigits, padZeros_hexDigits, padZeros_hexDigits, Text.hexDigits, if_pos (by omega)]
    rfl
  · rw [fourDigits?, hexValue?_hexDigit _ (by omega), hexValue?_hexDigit _ (by omega), hexValue?_hexDigit _ (by omega),
      hexValue?_hexDigit _ (by omega)]
    exact congrArg (fun unit => some (unit, rest)) (by omega)

private theorem hexValue?_lt {c : Char} {value : Nat} (read : Text.hexValue? c = some value) : value < 16 := by
  unfold Text.hexValue? at read
  simp only [Bool.and_eq_true, decide_eq_true_eq, Char.le_def, UInt32.le_iff_toNat_le] at read
  split at read
  next digit =>
    cases read
    exact Nat.lt_of_le_of_lt (Nat.sub_le_sub_right digit.2 _) (by decide)
  next =>
    split at read
    next letter =>
      cases read
      exact Nat.lt_of_le_of_lt (Nat.add_le_add_right (Nat.sub_le_sub_right letter.2 _) 10) (by decide)
    next =>
      split at read
      next capital =>
        cases read
        exact Nat.lt_of_le_of_lt (Nat.add_le_add_right (Nat.sub_le_sub_right capital.2 _) 10) (by decide)
      next => cases read

namespace EscapeOf

variable {escape : List Char} {unit : Nat}

theorem small (escaped : EscapeOf escape unit) : unit < 0x10000 := by
  obtain ⟨a, b, c, d, rfl, reads⟩ := escaped
  have read := reads []
  simp only [fourDigits?, Option.bind_eq_bind, Option.bind_eq_some_iff, Option.pure_def, Option.some.injEq,
    Prod.mk.injEq] at read
  obtain ⟨first, readFirst, second, readSecond, third, readThird, fourth, readFourth, whole, -⟩ := read
  have := hexValue?_lt readFirst
  have := hexValue?_lt readSecond
  have := hexValue?_lt readThird
  have := hexValue?_lt readFourth
  omega

theorem inj {other text rest : List Char} {second : Nat} (escaped : EscapeOf escape unit)
    (escapedToo : EscapeOf other second)
    (same : escape ++ text = other ++ rest) : unit = second := by
  obtain ⟨a, b, c, d, rfl, reads⟩ := escaped
  obtain ⟨e, f, g, h, rfl, readsToo⟩ := escapedToo
  simp only [List.cons_append, List.nil_append, List.cons.injEq, true_and] at same
  obtain ⟨rfl, rfl, rfl, rfl, -⟩ := same
  exact congrArg Prod.fst (Option.some.inj ((reads []).symm.trans (readsToo [])))

end EscapeOf

private theorem not_isSurrogate (c : Char) : isHighSurrogate c.toNat = false ∧ isLowSurrogate c.toNat = false := by
  have valid : c.toNat < 0xD800 ∨ (0xDFFF < c.toNat ∧ c.toNat < 0x110000) := c.valid
  rw [isHighSurrogate, isLowSurrogate, Bool.and_eq_false_iff, Bool.and_eq_false_iff, decide_eq_false_iff_not,
    decide_eq_false_iff_not, decide_eq_false_iff_not, decide_eq_false_iff_not]
  omega

private theorem isHighSurrogate_iff {unit : Nat} : isHighSurrogate unit = true ↔ 0xD800 ≤ unit ∧ unit ≤ 0xDBFF := by
  rw [isHighSurrogate, Bool.and_eq_true, decide_eq_true_iff, decide_eq_true_iff]

private theorem isLowSurrogate_iff {unit : Nat} : isLowSurrogate unit = true ↔ 0xDC00 ≤ unit ∧ unit ≤ 0xDFFF := by
  rw [isLowSurrogate, Bool.and_eq_true, decide_eq_true_iff, decide_eq_true_iff]

section

variable {text : List Char} {codes : List Nat}

/-- The two halves of a code above the first plane are one code. -/
theorem Spells.codeEscapes {code : Nat} (valid : code < 0xD800 ∨ (0xDFFF < code ∧ code < 0x110000))
    (more : Spells text codes) :
    Spells (codeEscapes code ++ text) (code :: codes) := by
  rw [Json.codeEscapes]
  split
  next small =>
    refine .unit (unitEscape_escape small) (fun isHigh => ?_) more
    have := isHighSurrogate_iff.mp isHigh
    omega
  next large =>
    rw [List.append_assoc]
    have whole : paired (0xD800 + (code - 0x10000) / 0x400) (0xDC00 + (code - 0x10000) % 0x400) = code := by
      unfold paired
      omega
    have high : 0xD800 + (code - 0x10000) / 0x400 < 0x10000 := by omega
    have low : 0xDC00 + (code - 0x10000) % 0x400 < 0x10000 := by omega
    have spelt := Spells.pair (unitEscape_escape high) (isHighSurrogate_iff.mpr (by omega)) (unitEscape_escape low)
      (isLowSurrogate_iff.mpr (by omega)) more
    rwa [whole] at spelt

/-- A character is spelt by what is written for it. -/
theorem Spells.escaped (ascii : Bool) (c : Char) (more : Spells text codes) :
    Spells (escaped ascii c ++ text) (c.toNat :: codes) := by
  have valid : c.toNat < 0xD800 ∨ (0xDFFF < c.toNat ∧ c.toNat < 0x110000) := c.valid
  rw [Json.escaped]
  split
  next mark =>
    rw [Bool.or_eq_true, beq_iff_eq, beq_iff_eq] at mark
    obtain rfl | rfl := mark <;> exact .short rfl more
  next unmarked =>
    rw [Bool.or_eq_true, beq_iff_eq, beq_iff_eq, not_or] at unmarked
    iterate 5
      split
      next mark =>
        rw [beq_iff_eq.mp mark]
        exact .short rfl more
    split
    next control =>
      refine .unit (unitEscape_escape (by omega)) (fun isHigh => ?_) more
      rw [(not_isSurrogate c).1] at isHigh
      cases isHigh
    next printed =>
      split
      next => exact more.codeEscapes valid
      next => exact .plain unmarked.1 unmarked.2 (by omega) more

theorem Spells.startsLow_iff (spelt : Spells text codes) :
    StartsLow text ↔ ∃ code ∈ codes.head?, isLowSurrogate code = true := by
  have first {escape more : List Char} {unit : Nat} (escaped : EscapeOf escape unit) :
      StartsLow (escape ++ more) ↔ isLowSurrogate unit = true := by
    constructor
    · rintro ⟨other, low, behind, escapedLow, isLow, same⟩
      rwa [escaped.inj escapedLow same]
    · exact fun isLow => ⟨escape, unit, more, escaped, isLow, rfl⟩
  have noEscape {c d : Char} {more : List Char} (other : c ≠ '\\' ∨ d ≠ 'u') : ¬ StartsLow (c :: d :: more) := by
    rintro ⟨_, low, behind, ⟨a, b, e, f, rfl, -⟩, -, same⟩
    simp only [List.cons_append, List.cons.injEq] at same
    exact other.elim (fun noEscape => noEscape same.1) (fun noUnit => noUnit same.2.1)
  have tooShort {text : List Char} (short : text.length < 2) : ¬ StartsLow text := by
    rintro ⟨_, low, behind, ⟨a, b, e, f, rfl, -⟩, -, rfl⟩
    simp only [List.cons_append, List.length_cons] at short
    omega
  have character {c : Char} {more : List Nat} : ¬ ∃ code ∈ (c.toNat :: more).head?, isLowSurrogate code = true := by
    rintro ⟨code, head, isLow⟩
    obtain rfl := Option.some.inj head
    rw [(not_isSurrogate c).2] at isLow
    cases isLow
  cases spelt with
  | done => exact iff_of_false (tooShort (by decide)) (by simp)
  | @plain c text codes noQuote noSlash printed more =>
    refine iff_of_false ?_ character
    cases text with
    | nil => exact tooShort (by simp)
    | cons d text => exact noEscape (.inl noSlash)
  | @short c meaning text codes short more =>
    refine iff_of_false (noEscape (.inr ?_)) character
    rintro rfl
    cases (show none = some meaning from short)
  | unit escaped single more => simp [first escaped]
  | @pair one other text high low codes escapedHigh isHigh escapedLow isLow more =>
    have := isHighSurrogate_iff.mp isHigh
    have := isLowSurrogate_iff.mp isLow
    rw [first escapedHigh]
    simp only [List.head?_cons, Option.mem_def, Option.some.injEq, exists_eq_left', isLowSurrogate_iff]
    unfold paired
    omega

end

private theorem spells_quoted (ascii : Bool) (text : List Char) :
    Spells (text.flatMap (escaped ascii)) (text.map Char.toNat) := by
  induction text with
  | nil => exact .done
  | cons c text ih =>
    rw [List.flatMap_cons, List.map_cons]
    exact ih.escaped ascii c

/-- What is written for one code; a half of a pair is escaped. -/
def codeText (code : Nat) : List Char :=
  if 0xD800 ≤ code && code ≤ 0xDFFF then unitEscape code else escaped true (Char.ofNat code)

theorem Spells.codeText {text : List Char} {codes : List Nat} {code : Nat} (valid : code.isValidChar)
    (more : Spells text codes) :
    Spells (codeText code ++ text) (code :: codes) := by
  have told : (Char.ofNat code).toNat = code := by
    rw [Char.ofNat, dif_pos valid]
    rfl
  have single : ¬ (decide (0xD800 ≤ code) && decide (code ≤ 0xDFFF)) = true := by
    rw [Bool.and_eq_true, decide_eq_true_iff, decide_eq_true_iff]
    rw [Nat.isValidChar] at valid
    omega
  rw [Json.codeText, if_neg single]
  have spelt := more.escaped true (Char.ofNat code)
  rwa [told] at spelt

/-- Codes that are spelt somehow are spelt by what is written for them. -/
theorem Spells.written {body : List Char} {codes : List Nat} (spelt : Spells body codes) :
    Spells (codes.flatMap Json.codeText) codes := by
  induction spelt with
  | done => exact .done
  | @plain c text codes noQuote noSlash printed more ih => exact ih.codeText c.valid
  | @short c meaning text codes short more ih => exact ih.codeText meaning.valid
  | @unit escape text unit codes escaped single more ih =>
    have small := escaped.small
    by_cases half : 0xD800 ≤ unit ∧ unit ≤ 0xDFFF
    · have halved : (decide (0xD800 ≤ unit) && decide (unit ≤ 0xDFFF)) = true := by
        rw [Bool.and_eq_true, decide_eq_true_iff, decide_eq_true_iff]
        exact half
      rw [List.flatMap_cons, Json.codeText, if_pos halved]
      refine .unit (unitEscape_escape small) (fun isHigh starts => single isHigh ?_) ih
      exact more.startsLow_iff.mpr (ih.startsLow_iff.mp starts)
    · exact ih.codeText (by rw [Nat.isValidChar]; omega)
  | @pair first second text high low codes escapedHigh isHigh escapedLow isLow more ih =>
    have := isHighSurrogate_iff.mp isHigh
    have := isLowSurrogate_iff.mp isLow
    exact ih.codeText (.inr (by unfold paired; omega))

private theorem ofNat_map_toNat (text : List Char) : (text.map Char.toNat).map Char.ofNat = text := by
  rw [List.map_map]
  exact (List.map_congr_left fun c _ => Char.ofNat_toNat c).trans (List.map_id text)

private theorem ofCodes_text (text : List Char) : ofCodes (text.map Char.toNat) = .str (String.ofList text) := by
  have whole : (text.map Char.toNat).any (fun code => isHighSurrogate code || isLowSurrogate code) = false := by
    rw [List.any_eq_false]
    intro code member
    obtain ⟨c, -, rfl⟩ := List.mem_map.mp member
    rw [(not_isSurrogate c).1, (not_isSurrogate c).2]
    exact Bool.false_ne_true
  rw [ofCodes, whole, ofNat_map_toNat]
  rfl

private theorem keyOfCodes_text (text : List Char) : keyOfCodes (text.map Char.toNat) = String.ofList text := by
  rw [keyOfCodes, List.map_map]
  refine congrArg String.ofList ((List.map_congr_left fun c _ => ?_).trans (List.map_id text))
  rw [Function.comp_apply, (not_isSurrogate c).1, (not_isSurrogate c).2]
  exact Char.ofNat_toNat c

private theorem natOfDigits_toDigits (value : Nat) : natOfDigits (Nat.toDigits 10 value) = value := by
  refine Eq.trans ?_ (Nat.ofDigitChars_toDigits (by omega : 1 < 10) (Nat.le_refl 10))
  rw [natOfDigits, Nat.ofDigitChars]
  exact congrArg (fun step => List.foldl step 0 _) (funext fun value => funext fun c => by rw [Nat.mul_comm])

theorem isDigit_of_mem_toDigits {value : Nat} {c : Char} (member : c ∈ Nat.toDigits 10 value) : isDigit c = true :=
  Nat.isDigit_of_mem_toDigits (by omega) (Nat.le_refl 10) member

private theorem eq_zero_of_leading {value : Nat} {digits : List Char}
    (leading : Nat.toDigits 10 value = '0' :: digits) : value = 0 := by
  induction value using Nat.strongRecOn generalizing digits with
  | ind value ih =>
    by_cases small : value < 10
    · rw [Nat.toDigits_of_lt_base small] at leading
      have same := natOfDigits_toDigits value
      rw [Nat.toDigits_of_lt_base small, leading, (List.cons.inj leading).2.symm] at same
      exact same.symm
    · rw [Nat.toDigits_of_base_le (by omega) (by omega)] at leading
      obtain ⟨c, more, digits⟩ := List.exists_cons_of_ne_nil (Nat.toDigits_ne_nil : Nat.toDigits 10 (value / 10) ≠ [])
      rw [digits, List.cons_append] at leading
      rw [(List.cons.inj leading).1] at digits
      have := ih (value / 10) (by omega) digits
      omega

private theorem wholeDigits_toDigits (value : Nat) : WholeDigits (Nat.toDigits 10 value) := by
  by_cases zero : value = 0
  · subst zero
    exact .inl rfl
  · refine .inr ⟨⟨Nat.toDigits_ne_nil, fun _ => isDigit_of_mem_toDigits⟩, fun leading => zero ?_⟩
    obtain ⟨c, more, digits⟩ := List.exists_cons_of_ne_nil (Nat.toDigits_ne_nil : Nat.toDigits 10 value ≠ [])
    rw [digits, List.head?_cons, Option.some.injEq] at leading
    rw [leading] at digits
    exact eq_zero_of_leading digits

private theorem toString_int (value : Int) :
    (toString value).toList = sign (decide (value < 0)) ++ Nat.toDigits 10 value.natAbs := by
  cases value with
  | ofNat value => exact Nat.toList_repr
  | negSucc value =>
    rw [show toString (Int.negSucc value) = "-" ++ value.succ.repr from rfl, String.toList_append, Nat.toList_repr]
    simp [sign]

private theorem signed_natAbs (value : Int) : signed (decide (value < 0)) value.natAbs = value := by
  rw [signed]
  split
  next negative => have := of_decide_eq_true negative; omega
  next positive => have := of_decide_eq_false (Bool.eq_false_iff.mpr positive); omega

/-- A number with no more digits than can be read. -/
def Short (value : Int) : Prop := (Nat.toDigits 10 value.natAbs).length ≤ digitLimit

instance (value : Int) : Decidable (Short value) := inferInstanceAs (Decidable (_ ≤ _))

/-- A whole number stands for itself, if it is not too long to be read at all. -/
theorem numeral_int {value : Int} (short : Short value) : Numeral (toString value).toList (.int value) := by
  have numeral := Numeral.int (decide (value < 0)) (wholeDigits_toDigits value.natAbs) short
  rwa [natOfDigits_toDigits, signed_natAbs, ← toString_int] at numeral

theorem digit_le {c : Char} (digit : isDigit c = true) : c.toNat ≤ 57 := by
  rw [isDigit, Bool.and_eq_true, decide_eq_true_iff, decide_eq_true_iff, Char.le_def, Char.le_def, UInt32.le_iff_toNat_le,
    UInt32.le_iff_toNat_le] at digit
  exact digit.2

private theorem natOfDigits_lt {digits : List Char} (digital : ∀ c ∈ digits, isDigit c = true) :
    natOfDigits digits < 10 ^ digits.length := by
  induction digits using List.reverseRecOn with
  | nil => exact Nat.one_pos
  | append_singleton digits c ih =>
    have before := ih fun d member => digital d (List.mem_append_left _ member)
    have top := digit_le (digital c (List.mem_append_right _ (List.mem_singleton_self c)))
    have zero : '0'.toNat = 48 := rfl
    have step : natOfDigits (digits ++ [c]) = natOfDigits digits * 10 + (c.toNat - '0'.toNat) := by
      rw [natOfDigits, List.foldl_append]
      rfl
    rw [step, List.length_append, List.length_singleton, Nat.pow_succ]
    omega

private theorem short_of_length {digits : List Char} (digital : Digits digits) (few : digits.length ≤ digitLimit)
    (negative : Bool) :
    Short (signed negative (natOfDigits digits)) := by
  have size : (signed negative (natOfDigits digits)).natAbs = natOfDigits digits := by
    cases negative <;> simp [signed]
  have some : 0 < digits.length := List.length_pos_iff.mpr digital.1
  rw [Short, size]
  exact Nat.le_trans ((Nat.length_toDigits_le_iff (by omega) some).mpr (natOfDigits_lt digital.2)) few

/-- The values that every text of theirs tells: no numbers with a fraction, and no two fields of one name. A half of a
character is told too, unless it stands by its other half. -/
inductive Plain : Json → Prop
  | null : Plain .null
  | bool (value : Bool) : Plain (.bool value)
  | int {value : Int} (short : Short value) : Plain (.int value)
  | str (text : String) : Plain (.str text)
  | units {body : List Char} {codes : List Nat} (spelt : Spells body codes) (halved : ofCodes codes = .units codes) :
      Plain (.units codes)
  | arr {items : List Json} (plain : ∀ item ∈ items, Plain item) : Plain (.arr items)
  | obj {fields : List (String × Json)} (named : (fields.map Prod.fst).Nodup)
      (plain : ∀ field ∈ fields, Plain field.2) : Plain (.obj fields)

variable {layout : Layout} {depth : Nat}

private theorem blank_lineBreak (layout : Layout) (depth : Nat) : Blank (layout.lineBreak depth) := by
  intro c member
  rw [Layout.lineBreak] at member
  split at member
  next => cases member
  next =>
    obtain rfl | blank := List.mem_cons.mp member
    · rfl
    · rw [List.eq_of_mem_replicate blank]
      rfl

private theorem comma_lineBreak (layout : Layout) (depth : Nat) (rest : List Char) : ∃ lead, Blank lead ∧
    layout.comma ++ (layout.lineBreak depth ++ rest) = ',' :: (lead ++ rest) := by
  have empty := blank_lineBreak layout depth
  rw [Layout.comma]
  split
  next => exact ⟨' ' :: layout.lineBreak depth, List.forall_mem_cons.mpr ⟨rfl, empty⟩, rfl⟩
  next => exact ⟨layout.lineBreak depth, empty, rfl⟩

private theorem blank_nil : Blank [] := List.forall_mem_nil _

private theorem lists_rendered {blank : List Char} {item : Json} {items : List Json} (empty : Blank blank)
    (denotes : ∀ one ∈ item :: items, Denotes (render layout depth one) one) :
    Lists (render layout depth item ++ (renderItems layout depth items ++ blank)) (item :: items) := by
  induction items generalizing item with
  | nil => exact .last (denotes item List.mem_cons_self) empty
  | cons next items ih =>
    have more := ih fun one member => denotes one (List.mem_cons_of_mem item member)
    obtain ⟨lead, emptyLead, separated⟩ := comma_lineBreak layout depth
      (render layout depth next ++ (renderItems layout depth items ++ blank))
    rw [renderItems, List.append_assoc, List.append_assoc, List.append_assoc, separated]
    exact .more (denotes item List.mem_cons_self) blank_nil emptyLead more

private theorem entry_rendered {key : String} {value : Json} (denotes : Denotes (render layout depth value) value) :
    Entry (quote layout.ascii key.toList ++ ([':', ' '] ++ render layout depth value)) (key, value) := by
  have blank : Blank [' '] := List.forall_mem_singleton.mpr rfl
  have entry := Entry.mk (spells_quoted layout.ascii key.toList) blank_nil blank denotes
  rw [keyOfCodes_text, String.ofList_toList] at entry
  simpa [quote] using entry

private theorem names_rendered {blank : List Char} {key : String} {value : Json} {fields : List (String × Json)}
    (empty : Blank blank)
    (denotes : ∀ field ∈ (key, value) :: fields, Denotes (render layout depth field.2) field.2) :
    Names (quote layout.ascii key.toList ++ ([':', ' '] ++ render layout depth value) ++
      (renderFields layout depth fields ++ blank)) ((key, value) :: fields) := by
  induction fields generalizing key value with
  | nil => exact .last (entry_rendered (denotes (key, value) List.mem_cons_self)) empty
  | cons next fields ih =>
    obtain ⟨name, next⟩ := next
    have more := ih fun field member => denotes field (List.mem_cons_of_mem (key, value) member)
    obtain ⟨lead, emptyLead, separated⟩ := comma_lineBreak layout depth
      (quote layout.ascii name.toList ++ ([':', ' '] ++ render layout depth next) ++
        (renderFields layout depth fields ++ blank))
    have text : renderFields layout depth ((name, next) :: fields) ++ blank =
        [] ++ (layout.comma ++ (layout.lineBreak depth ++ (quote layout.ascii name.toList ++
          ([':', ' '] ++ render layout depth next) ++ (renderFields layout depth fields ++ blank)))) := by
      simp [renderFields]
    rw [text, separated]
    exact .more (entry_rendered (denotes (key, value) List.mem_cons_self)) blank_nil emptyLead more

/-- What is written for a plain value stands for it. -/
theorem Plain.denotes {value : Json} (plain : Plain value) : Denotes (render layout depth value) value := by
  induction plain generalizing depth with
  | null => exact .word (by simp [render, words, scalarText])
  | bool value => cases value <;> exact .word (by simp [render, words, scalarText])
  | int short => exact .number (numeral_int short)
  | str text =>
    have denotes := Denotes.text (spells_quoted layout.ascii text.toList)
    rwa [ofCodes_text, String.ofList_toList] at denotes
  | units spelt halved =>
    have denotes := Denotes.text spelt.written
    rwa [halved] at denotes
  | @arr items plain ih =>
    cases items with
    | nil => exact .emptyArray blank_nil
    | cons item items =>
      have items (one : Json) (member : one ∈ item :: items) : Denotes (render layout (depth + 1) one) one := ih one member
      have listed := lists_rendered (blank_lineBreak layout depth) items
      have denotes := Denotes.array (blank_lineBreak layout (depth + 1)) listed
      simpa [render] using denotes
  | @obj fields named plain ih =>
    cases fields with
    | nil => exact .emptyObject blank_nil
    | cons field fields =>
      obtain ⟨key, value⟩ := field
      have values (field : String × Json) (member : field ∈ (key, value) :: fields) :
          Denotes (render layout (depth + 1) field.2) field.2 := ih field member
      have listed := names_rendered (blank_lineBreak layout depth) values
      have denotes := Denotes.object (blank_lineBreak layout (depth + 1)) listed
      rw [Assoc.union_nil named] at denotes
      simpa [render] using denotes

theorem parse_render (layout : Layout) {value : Json} (plain : Plain value) : parse (render layout 0 value) = .ok value :=
  parse_ok_iff.mpr ⟨[], render layout 0 value, [], by simp, blank_nil, blank_nil, plain.denotes⟩

def Told (value : Json) : Prop := ∃ text, Denotes text value

theorem Plain.told {value : Json} (plain : Plain value) : Told value :=
  ⟨render ⟨true, none⟩ 0 value, plain.denotes⟩

private theorem ofCodes_cases (codes : List Nat) :
    ofCodes codes = .units codes ∨ ofCodes codes = .str (String.ofList (codes.map Char.ofNat)) := by
  rw [ofCodes]
  split
  · exact .inl rfl
  · exact .inr rfl

theorem Told.document {text : List Char} {value : Json} (document : Document text value) : Told value := by
  obtain ⟨lead, body, trail, -, -, -, denotes⟩ := document
  exact ⟨body, denotes⟩

theorem Entry.told {text : List Char} {field : String × Json} (entry : Entry text field) : Told field.2 := by
  cases entry with
  | mk spelt emptyBefore emptyAfter denotes => exact ⟨_, denotes⟩

theorem Names.told {text : List Char} {fields : List (String × Json)} (named : Names text fields) :
    ∀ field ∈ fields, Told field.2 := by
  match named with
  | .last entry _ => exact List.forall_mem_singleton.mpr entry.told
  | .more entry _ _ named => exact List.forall_mem_cons.mpr ⟨entry.told, named.told⟩

theorem Told.short {value : Int} (told : Told (.int value)) : Short value := by
  obtain ⟨text, denotes⟩ := told
  generalize same : Json.int value = number at denotes
  cases denotes with
  | word listed =>
    subst same
    simp [words] at listed
  | number numeral =>
    cases numeral with
    | int negative whole few =>
      cases same
      exact short_of_length whole.digits few negative
    | real => cases same
  | @text body codes spelt => rcases ofCodes_cases codes with units | whole <;> simp_all
  | emptyArray | array | emptyObject | object => cases same

theorem Told.units {codes : List Nat} (told : Told (.units codes)) : Plain (.units codes) := by
  obtain ⟨text, denotes⟩ := told
  generalize same : Json.units codes = half at denotes
  cases denotes with
  | word listed =>
    subst same
    simp [words] at listed
  | number numeral => cases numeral <;> cases same
  | @text body told spelt =>
    rcases ofCodes_cases told with units | whole
    · rw [units] at same
      cases same
      rw [units]
      exact .units spelt units
    · rw [whole] at same
      cases same
  | emptyArray | array | emptyObject | object => cases same

theorem Told.object {fields : List (String × Json)} (told : Told (.obj fields)) :
    (fields.map Prod.fst).Nodup ∧ ∀ field ∈ fields, Told field.2 := by
  obtain ⟨text, denotes⟩ := told
  generalize same : Json.obj fields = object at denotes
  cases denotes with
  | word listed =>
    subst same
    simp [words] at listed
  | number numeral => cases numeral <;> cases same
  | @text body codes spelt => rcases ofCodes_cases codes with units | whole <;> simp_all
  | emptyArray | array => cases same
  | emptyObject =>
    cases same
    exact ⟨List.nodup_nil, List.forall_mem_nil _⟩
  | object empty named =>
    cases same
    refine ⟨Assoc.union_keys_nodup List.nodup_nil, fun field member => ?_⟩
    rcases Assoc.mem_union member with nowhere | there
    · cases nowhere
    · exact named.told field there

theorem not_mem_toString {mark : Char} (noDigit : isDigit mark = false) (noSign : mark ≠ '-') (value : Int) :
    mark ∉ (toString value).toList := by
  intro member
  rw [toString_int, List.mem_append] at member
  rcases member with sign | digit
  · rw [Json.sign] at sign
    split at sign
    · exact noSign (List.mem_singleton.mp sign)
    · cases sign
  · rw [isDigit_of_mem_toDigits digit] at noDigit
    cases noDigit

private theorem not_mem_hexDigits (value : Nat) : '\r' ∉ Text.hexDigits value := by
  have noDigit : ∀ digit < 16, '\r' ≠ Text.hexDigit digit := by decide
  intro member
  obtain ⟨digit, small, same⟩ := Text.mem_hexDigits member
  exact noDigit digit small same

private theorem not_mem_unitEscape (unit : Nat) : '\r' ∉ unitEscape unit := by
  intro member
  simp only [unitEscape, Text.padZeros, List.mem_cons, List.mem_append, List.mem_replicate, Char.reduceEq, and_false,
    false_or] at member
  exact not_mem_hexDigits unit member

private theorem not_mem_escaped (ascii : Bool) (c : Char) : '\r' ∉ escaped ascii c := by
  by_cases itself : c = '\r'
  · subst itself
    cases ascii <;> decide
  rw [escaped]
  split
  next mark =>
    rw [Bool.or_eq_true, beq_iff_eq, beq_iff_eq] at mark
    obtain rfl | rfl := mark <;> decide
  iterate 5
    split
    next => decide
  split
  next => exact not_mem_unitEscape _
  split
  next =>
    rw [codeEscapes]
    split
    next => exact not_mem_unitEscape _
    next => exact fun member => (List.mem_append.mp member).elim (not_mem_unitEscape _) (not_mem_unitEscape _)
  next => exact fun member => itself (List.mem_singleton.mp member).symm

private theorem not_mem_quote (ascii : Bool) (text : List Char) : '\r' ∉ quote ascii text := by
  simp only [quote, List.mem_cons, List.mem_append, List.mem_flatMap, not_or, not_exists, not_and, List.not_mem_nil]
  exact ⟨by decide, fun c _ => not_mem_escaped ascii c, by decide, id⟩

private theorem not_mem_quoteCodes (codes : List Nat) : '\r' ∉ quoteCodes codes := by
  simp only [quoteCodes, List.mem_cons, List.mem_append, List.mem_flatMap, not_or, not_exists, not_and, List.not_mem_nil]
  refine ⟨by decide, fun code _ => ?_, by decide, id⟩
  split
  next => exact not_mem_unitEscape code
  next => exact not_mem_escaped true _

private theorem not_mem_lineBreak (layout : Layout) (depth : Nat) : '\r' ∉ layout.lineBreak depth := by
  rw [Layout.lineBreak]
  split
  next => exact List.not_mem_nil
  next =>
    intro member
    rcases List.mem_cons.mp member with first | blank
    · exact absurd first (by decide)
    · exact absurd (List.eq_of_mem_replicate blank) (by decide)

private theorem not_mem_comma (layout : Layout) : '\r' ∉ layout.comma := by
  rw [Layout.comma]
  split <;> decide

private theorem not_mem_renderItems {items : List Json} (quiet : ∀ item ∈ items, '\r' ∉ render layout depth item) :
    '\r' ∉ renderItems layout depth items := by
  induction items with
  | nil => exact List.not_mem_nil
  | cons item items ih =>
    rw [renderItems, List.mem_append, List.mem_append, List.mem_append, not_or, not_or, not_or]
    exact ⟨⟨⟨not_mem_comma layout, not_mem_lineBreak layout depth⟩, quiet item List.mem_cons_self⟩,
      ih fun item member => quiet item (List.mem_cons_of_mem _ member)⟩

private theorem not_mem_renderFields {fields : List (String × Json)}
    (quiet : ∀ field ∈ fields, '\r' ∉ render layout depth field.2) :
    '\r' ∉ renderFields layout depth fields := by
  induction fields with
  | nil => exact List.not_mem_nil
  | cons field fields ih =>
    rw [renderFields, List.mem_append, List.mem_append, List.mem_append, List.mem_append, List.mem_append, not_or, not_or,
      not_or, not_or, not_or]
    exact ⟨⟨⟨⟨⟨not_mem_comma layout, not_mem_lineBreak layout depth⟩, not_mem_quote layout.ascii _⟩, by decide⟩,
      quiet field List.mem_cons_self⟩, ih fun field member => quiet field (List.mem_cons_of_mem _ member)⟩

theorem Plain.not_mem_render {value : Json} (plain : Plain value) : '\r' ∉ render layout depth value := by
  induction plain generalizing depth with
  | null => exact (by decide : '\r' ∉ "null".toList)
  | bool value =>
    cases value with
    | false => exact (by decide : '\r' ∉ "false".toList)
    | true => exact (by decide : '\r' ∉ "true".toList)
  | int short => exact not_mem_toString (by decide) (by decide) _
  | str text => exact not_mem_quote layout.ascii text.toList
  | units spelt halved => exact not_mem_quoteCodes _
  | @arr items plain ih =>
    cases items with
    | nil => exact (by decide : '\r' ∉ ['[', ']'])
    | cons item items =>
      simp only [render, List.mem_append, List.mem_cons, List.not_mem_nil, not_or, not_false_eq_true, and_true]
      exact ⟨⟨⟨⟨⟨by decide, not_mem_lineBreak _ _⟩, ih item List.mem_cons_self⟩,
        not_mem_renderItems fun item member => ih item (List.mem_cons_of_mem _ member)⟩, not_mem_lineBreak _ _⟩, by decide⟩
  | @obj fields named plain ih =>
    cases fields with
    | nil => exact (by decide : '\r' ∉ ['\x7b', '\x7d'])
    | cons field fields =>
      simp only [render, List.mem_append, List.mem_cons, List.not_mem_nil, not_or, not_false_eq_true, and_true]
      exact ⟨⟨⟨⟨⟨⟨⟨by decide, not_mem_lineBreak _ _⟩, not_mem_quote _ _⟩, by decide⟩, ih field List.mem_cons_self⟩,
        not_mem_renderFields fun field member => ih field (List.mem_cons_of_mem _ member)⟩,
          not_mem_lineBreak _ _⟩, by decide⟩

end Json

end TerminalDock
