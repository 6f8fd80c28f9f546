import Mathlib.Data.List.TakeWhile
import TerminalDock.Json.Parser

/-! How the texts and the numbers of the data format are spelt, said apart from how they are read. What is read is a
spelling at the front of the text, and a spelling is read as what it stands for, up to where it ends. -/

namespace TerminalDock.Json

def EscapeOf (text : List Char) (unit : Nat) : Prop :=
  ∃ a b c d, text = ['\\', 'u', a, b, c, d] ∧ ∀ rest, fourDigits? (a :: b :: c :: d :: rest) = some (unit, rest)

def StartsLow (text : List Char) : Prop :=
  ∃ escape unit more, EscapeOf escape unit ∧ isLowSurrogate unit = true ∧ text = escape ++ more

def paired (high low : Nat) : Nat := 0x10000 + (high - 0xD800) * 0x400 + (low - 0xDC00)

/-- The codes that the characters between two quotes stand for. Two escaped halves of a pair, one behind the other, are
one code; a half on its own is a code too. -/
inductive Spells : List Char → List Nat → Prop
  | done : Spells [] []
  | plain {c : Char} {text : List Char} {codes : List Nat} (noQuote : c ≠ '"') (noEscape : c ≠ '\\')
      (printed : 0x20 ≤ c.toNat)
      (more : Spells text codes) : Spells (c :: text) (c.toNat :: codes)
  | short {c meaning : Char} {text : List Char} {codes : List Nat} (short : shortEscape? c = some meaning)
      (more : Spells text codes) : Spells ('\\' :: c :: text) (meaning.toNat :: codes)
  | unit {escape text : List Char} {unit : Nat} {codes : List Nat} (escaped : EscapeOf escape unit)
      (single : isHighSurrogate unit = true → ¬ StartsLow text) (more : Spells text codes) :
      Spells (escape ++ text) (unit :: codes)
  | pair {first second text : List Char} {high low : Nat} {codes : List Nat} (escapedHigh : EscapeOf first high)
      (isHigh : isHighSurrogate high = true) (escapedLow : EscapeOf second low) (isLow : isLowSurrogate low = true)
      (more : Spells text codes) : Spells (first ++ (second ++ text)) (paired high low :: codes)

private theorem fourDigits?_escape {digits after : List Char} {unit : Nat} (read : fourDigits? digits = some (unit, after)) :
    ∃ escape, EscapeOf escape unit ∧ '\\' :: 'u' :: digits = escape ++ after := by
  match digits, read with
  | a :: b :: c :: d :: more, read =>
    simp only [fourDigits?, Option.bind_eq_bind, Option.bind_eq_some_iff, Option.pure_def, Option.some.injEq,
      Prod.mk.injEq] at read
    obtain ⟨first, readFirst, second, readSecond, third, readThird, fourth, readFourth, whole, rfl⟩ := read
    refine ⟨_, ⟨a, b, c, d, rfl, fun rest => ?_⟩, rfl⟩
    simp [fourDigits?, readFirst, readSecond, readThird, readFourth, whole]

private theorem lowHalf_pair {escape rest : List Char} {low : Nat} (escaped : EscapeOf escape low)
    (isLow : isLowSurrogate low = true) (more : rest ≠ []) : lowHalf (escape ++ rest) = .ok (some (low, rest)) := by
  obtain ⟨a, b, c, d, rfl, reads⟩ := escaped
  obtain ⟨next, rest, rfl⟩ := List.exists_cons_of_ne_nil more
  simp [lowHalf, reads, isLow]

private theorem lowHalf_some {text after : List Char} {low : Nat} (read : lowHalf text = .ok (some (low, after))) :
    ∃ escape, EscapeOf escape low ∧ isLowSurrogate low = true ∧ text = escape ++ after := by
  unfold lowHalf at read
  split at read
  next digits =>
    split at read
    · cases read
    · split at read
      · cases read
      next unit behind found =>
        by_cases isLow : isLowSurrogate unit = true
        · rw [if_pos isLow] at read
          cases read
          obtain ⟨escape, escaped, whole⟩ := fourDigits?_escape found
          exact ⟨escape, escaped, isLow, whole⟩
        · rw [if_neg isLow] at read
          cases read
  next => cases read

/-- What is read up to the closing quote is a spelling. -/
theorem stringCodes_spells {opening body rest : List Char} {fuel : Nat} {codes all : List Nat}
    (read : stringCodes opening fuel body codes = .ok (all, rest)) :
    ∃ text told, body = text ++ '"' :: rest ∧ Spells text told ∧ all = told.reverse ++ codes := by
  fun_induction stringCodes opening fuel body codes with
  | case3 _ after codes =>
    cases read
    exact ⟨[], [], rfl, .done, rfl⟩
  | case8 fuel digits codes _ unit behind found isHigh low after half ih =>
    obtain ⟨text, told, rfl, spelt, rfl⟩ := ih read
    obtain ⟨first, escaped, whole⟩ := fourDigits?_escape found
    obtain ⟨second, escapedLow, isLow, rfl⟩ := lowHalf_some half
    refine ⟨_, _, ?_, .pair escaped isHigh escapedLow isLow spelt, ?_⟩
    · rw [whole, List.append_assoc, List.append_assoc]
    · rw [List.reverse_cons, List.append_assoc]
      rfl
  | case9 fuel digits codes _ unit behind found isHigh alone ih =>
    obtain ⟨text, told, rfl, spelt, rfl⟩ := ih read
    obtain ⟨escape, escaped, whole⟩ := fourDigits?_escape found
    refine ⟨_, _, ?_, .unit escaped (fun _ => ?_) spelt, by simp⟩
    · rw [whole, List.append_assoc]
    · rintro ⟨second, low, more, escapedLow, isLow, rfl⟩
      rw [List.append_assoc, lowHalf_pair escapedLow isLow (by simp)] at alone
      cases alone
  | case10 fuel digits codes _ unit behind found single ih =>
    obtain ⟨text, told, rfl, spelt, rfl⟩ := ih read
    obtain ⟨escape, escaped, whole⟩ := fourDigits?_escape found
    refine ⟨_, _, ?_, .unit escaped (fun isHigh => absurd isHigh single) spelt, by simp⟩
    rw [whole, List.append_assoc]
  | case11 fuel c rest codes _ meaning short ih =>
    obtain ⟨text, told, rfl, spelt, rfl⟩ := ih read
    exact ⟨_, _, rfl, .short short spelt, by simp⟩
  | case14 fuel c rest codes noQuote noEnd noUnit noShort printed ih =>
    obtain ⟨text, told, rfl, spelt, rfl⟩ := ih read
    refine ⟨_, _, rfl, .plain noQuote (fun escape => ?_) (Nat.not_lt.mp printed) spelt, by simp⟩
    cases text with
    | nil => exact noShort _ _ escape rfl
    | cons next text => exact noShort _ _ escape rfl
  | case1 | case2 | case4 | case5 | case6 | case7 | case12 | case13 => cases read

theorem readCodes_spells {body rest : List Char} {codes : List Nat} (read : readCodes body = .ok (codes, rest)) :
    ∃ text, body = text ++ '"' :: rest ∧ Spells text codes := by
  unfold readCodes at read
  cases found : stringCodes ('"' :: body) (body.length + 1) body [] with
  | error stop =>
    rw [found] at read
    cases read
  | ok result =>
    rw [found] at read
    cases read
    obtain ⟨text, told, whole, spelt, all⟩ := stringCodes_spells found
    refine ⟨text, whole, ?_⟩
    rw [all, List.append_nil, List.reverse_reverse]
    exact spelt

private theorem stringCodes_short {opening rest : List Char} {fuel : Nat} {codes : List Nat} {c meaning : Char}
    (short : shortEscape? c = some meaning) :
    stringCodes opening (fuel + 1) ('\\' :: c :: rest) codes = stringCodes opening fuel rest (meaning.toNat :: codes) := by
  rw [stringCodes, short]
  rintro rfl
  cases (show none = some meaning from short)

private theorem stringCodes_plain {opening rest : List Char} {fuel : Nat} {codes : List Nat} {c : Char} (noQuote : c ≠ '"')
    (noEscape : c ≠ '\\') (printed : 0x20 ≤ c.toNat) :
    stringCodes opening (fuel + 1) (c :: rest) codes = stringCodes opening fuel rest (c.toNat :: codes) := by
  rw [stringCodes, if_neg (by omega)]
  · exact noQuote
  · exact fun escape _ => noEscape escape
  · exact fun digits escape _ => noEscape escape
  · exact fun c rest escape _ => noEscape escape

private theorem stringCodes_escape {opening escape rest : List Char} {fuel unit : Nat} {codes : List Nat}
    (escaped : EscapeOf escape unit) (more : rest ≠ []) :
    stringCodes opening (fuel + 1) (escape ++ rest) codes =
      if isHighSurrogate unit = true then
        match lowHalf rest with
        | .error stop => .error stop
        | .ok (some (low, after)) => stringCodes opening fuel after (paired unit low :: codes)
        | .ok none => stringCodes opening fuel rest (unit :: codes)
      else stringCodes opening fuel rest (unit :: codes) := by
  obtain ⟨a, b, c, d, rfl, reads⟩ := escaped
  obtain ⟨next, rest, rfl⟩ := List.exists_cons_of_ne_nil more
  simp only [List.cons_append, List.nil_append]
  rw [stringCodes, reads]
  rfl

theorem Spells.lowHalf {text : List Char} {codes : List Nat} (spelt : Spells text codes) (alone : ¬ StartsLow text)
    (rest : List Char) : lowHalf (text ++ '"' :: rest) = .ok none := by
  have other {escape more : List Char} {unit : Nat} (escaped : EscapeOf escape unit) (alone : ¬ StartsLow (escape ++ more)) :
      Json.lowHalf (escape ++ (more ++ '"' :: rest)) = .ok none := by
    have isLow : isLowSurrogate unit = false :=
      Bool.eq_false_iff.mpr fun isLow => alone ⟨escape, unit, more, escaped, isLow, rfl⟩
    obtain ⟨a, b, c, d, rfl, reads⟩ := escaped
    obtain ⟨next, after, filled⟩ := List.exists_cons_of_ne_nil (by simp : more ++ '"' :: rest ≠ [])
    simp [Json.lowHalf, filled, reads, isLow]
  cases spelt with
  | done => simp [Json.lowHalf]
  | plain noQuote noEscape printed more => simp [Json.lowHalf, noEscape]
  | @short c meaning text codes short more =>
    have noUnit : c ≠ 'u' := by
      rintro rfl
      cases (show none = some meaning from short)
    simp [Json.lowHalf, noUnit]
  | unit escaped single more =>
    rw [List.append_assoc]
    exact other escaped alone
  | pair escapedHigh isHigh escapedLow isLow more =>
    rw [List.append_assoc]
    exact other escapedHigh alone

theorem Spells.stringCodes {text : List Char} {codes : List Nat} (spelt : Spells text codes) {opening rest : List Char}
    {fuel : Nat} {before : List Nat} (enough : text.length < fuel) :
    stringCodes opening fuel (text ++ '"' :: rest) before = .ok (codes.reverse ++ before, rest) := by
  induction spelt generalizing fuel before with
  | done =>
    obtain ⟨fuel, rfl⟩ := Nat.exists_eq_add_one.mpr enough
    rfl
  | @plain c text codes noQuote noEscape printed more ih =>
    obtain ⟨fuel, rfl⟩ := Nat.exists_eq_add_one.mpr (Nat.zero_lt_of_lt enough)
    rw [List.length_cons] at enough
    rw [List.cons_append, stringCodes_plain noQuote noEscape printed, ih (by omega), List.reverse_cons, List.append_assoc]
    rfl
  | @short c meaning text codes short more ih =>
    obtain ⟨fuel, rfl⟩ := Nat.exists_eq_add_one.mpr (Nat.zero_lt_of_lt enough)
    rw [List.length_cons, List.length_cons] at enough
    rw [List.cons_append, List.cons_append, stringCodes_short short, ih (by omega), List.reverse_cons, List.append_assoc]
    rfl
  | @unit escape text unit codes escaped single more ih =>
    obtain ⟨fuel, rfl⟩ := Nat.exists_eq_add_one.mpr (Nat.zero_lt_of_lt enough)
    have long : 0 < escape.length := by
      obtain ⟨a, b, c, d, rfl, -⟩ := escaped
      simp
    rw [List.length_append] at enough
    rw [List.append_assoc, stringCodes_escape escaped (by simp), List.reverse_cons, List.append_assoc,
      List.singleton_append]
    split
    next isHigh =>
      rw [more.lowHalf (single isHigh)]
      exact ih (by omega)
    next => exact ih (by omega)
  | @pair first second text high low codes escapedHigh isHigh escapedLow isLow more ih =>
    obtain ⟨fuel, rfl⟩ := Nat.exists_eq_add_one.mpr (Nat.zero_lt_of_lt enough)
    have long : 0 < first.length := by
      obtain ⟨a, b, c, d, rfl, -⟩ := escapedHigh
      simp
    rw [List.length_append, List.length_append] at enough
    rw [List.append_assoc, stringCodes_escape escapedHigh (by simp), if_pos isHigh, List.append_assoc,
      lowHalf_pair escapedLow isLow (by simp), List.reverse_cons, List.append_assoc, List.singleton_append]
    exact ih (by omega)

theorem Spells.readCodes {text : List Char} {codes : List Nat} (spelt : Spells text codes) (rest : List Char) :
    readCodes (text ++ '"' :: rest) = .ok (codes, rest) := by
  have enough : text.length < (text ++ '"' :: rest).length + 1 := by
    rw [List.length_append]
    omega
  rw [Json.readCodes, spelt.stringCodes enough, List.append_nil]
  exact congrArg (fun codes => Except.ok (codes, rest)) (List.reverse_reverse codes)

def Digits (text : List Char) : Prop := text ≠ [] ∧ ∀ c ∈ text, isDigit c = true

/-- The digits before the point. Only zero itself starts with a zero. -/
def WholeDigits (text : List Char) : Prop := text = ['0'] ∨ (Digits text ∧ text.head? ≠ some '0')

def sign (negative : Bool) : List Char := if negative then ['-'] else []

def signed (negative : Bool) (value : Nat) : Int := if negative then -value else value

inductive Places : List Char → List Char → Prop
  | none : Places [] []
  | point {digits : List Char} (digital : Digits digits) : Places ('.' :: digits) digits

inductive Power : List Char → Option Int → Prop
  | none : Power [] none
  | mark {mark : Char} {lead digits : List Char} {negative : Bool} (marked : mark = 'e' ∨ mark = 'E')
      (leads : lead = [] ∧ negative = false ∨ lead = ['+'] ∧ negative = false ∨ lead = ['-'] ∧ negative = true)
      (digital : Digits digits) : Power (mark :: (lead ++ digits)) (some (signed negative (natOfDigits digits)))

/-- The numbers that texts stand for. One without a fraction and an exponent is whole, and may not be too long. -/
inductive Numeral : List Char → Json → Prop
  | int {digits : List Char} (negative : Bool) (whole : WholeDigits digits) (few : digits.length ≤ digitLimit) :
      Numeral (sign negative ++ digits) (.int (signed negative (natOfDigits digits)))
  | real {digits point places power : List Char} {size : Option Int} (negative : Bool) (whole : WholeDigits digits)
      (placed : Places point places) (raised : Power power size) (broken : places ≠ [] ∨ size ≠ none) :
      Numeral (sign negative ++ (digits ++ (point ++ power)))
        (.float (Decimal.floatOfDecimal negative (natOfDigits (digits ++ places)) (size.getD 0 - places.length)))

def NoDigit (text : List Char) : Prop := ∀ c ∈ text.head?, isDigit c = false

private theorem takeWhile_digits {digits rest : List Char} (digital : ∀ c ∈ digits, isDigit c = true) (ends : NoDigit rest) :
    (digits ++ rest).takeWhile isDigit = digits ∧ (digits ++ rest).dropWhile isDigit = rest := by
  rw [List.takeWhile_append_of_pos digital, List.dropWhile_append_of_pos digital]
  cases rest with
  | nil => exact ⟨List.append_nil digits, rfl⟩
  | cons c rest =>
    have first : ¬ isDigit c = true := Bool.eq_false_iff.mp (ends c rfl)
    rw [List.takeWhile_cons_of_neg first, List.dropWhile_cons_of_neg first, List.append_nil]
    exact ⟨rfl, rfl⟩

private theorem digits_takeWhile {text : List Char} (some : text.takeWhile isDigit ≠ []) : Digits (text.takeWhile isDigit) :=
  ⟨some, fun _ => List.mem_takeWhile_imp⟩

private theorem fraction_places (text : List Char) :
    ∃ point, text = point ++ (fraction text).2 ∧ Places point (fraction text).1 := by
  unfold fraction
  split
  next c rest =>
    split
    next digit =>
      have digital : Digits (c :: rest.takeWhile isDigit) := by
        refine ⟨List.cons_ne_nil _ _, fun d member => ?_⟩
        rcases List.mem_cons.mp member with rfl | later
        · exact digit
        · exact List.mem_takeWhile_imp later
      refine ⟨_, ?_, .point digital⟩
      simp
    next => exact ⟨[], rfl, .none⟩
  next => exact ⟨[], rfl, .none⟩

def signOf : List Char → Bool × List Char
  | '-' :: digits => (true, digits)
  | '+' :: digits => (false, digits)
  | digits => (false, digits)

private theorem exponent?_cons (mark : Char) (rest : List Char) :
    exponent? (mark :: rest) =
      if mark == 'e' || mark == 'E' then
        if ((signOf rest).2.takeWhile isDigit).isEmpty then none
        else some (signed (signOf rest).1 (natOfDigits ((signOf rest).2.takeWhile isDigit)),
          (signOf rest).2.dropWhile isDigit)
      else none := rfl

private theorem signOf_leads (text : List Char) : ∃ lead, text = lead ++ (signOf text).2 ∧
    (lead = [] ∧ (signOf text).1 = false ∨ lead = ['+'] ∧ (signOf text).1 = false ∨
      lead = ['-'] ∧ (signOf text).1 = true) := by
  unfold signOf
  split
  · exact ⟨['-'], rfl, .inr (.inr ⟨rfl, rfl⟩)⟩
  · exact ⟨['+'], rfl, .inr (.inl ⟨rfl, rfl⟩)⟩
  · exact ⟨[], rfl, .inl ⟨rfl, rfl⟩⟩

private theorem exponent?_power {text rest : List Char} {size : Int} (read : exponent? text = some (size, rest)) :
    ∃ power, text = power ++ rest ∧ Power power (some size) := by
  cases text with
  | nil => cases read
  | cons mark behind =>
    rw [exponent?_cons] at read
    split at read
    next marked =>
      rw [Bool.or_eq_true, beq_iff_eq, beq_iff_eq] at marked
      split at read
      · cases read
      next filled =>
        cases read
        obtain ⟨lead, whole, leads⟩ := signOf_leads behind
        refine ⟨_, ?_, .mark marked leads (digits_takeWhile (mt List.isEmpty_iff.mpr filled))⟩
        rw [List.cons_append, List.append_assoc, List.takeWhile_append_dropWhile, ← whole]
    next => cases read

def minusOf : List Char → Bool × List Char
  | '-' :: body => (true, body)
  | body => (false, body)

def wholeOf : List Char → List Char
  | '0' :: _ => ['0']
  | body => body.takeWhile isDigit

/-- What a number is, once its sign and the digits before the point are known. -/
def numberFrom (start : List Char) (negative : Bool) (digits behind : List Char) : Read Json :=
  let (places, rest) := fraction behind
  match exponent? rest, places.isEmpty with
  | none, true =>
    if digitLimit < digits.length then stopAt (.hugeNumber digits.length) start
    else .ok (.int (signed negative (natOfDigits digits)), rest)
  | none, false =>
    .ok (.float (Decimal.floatOfDecimal negative (natOfDigits (digits ++ places)) (-(places.length : Int))), rest)
  | some (size, rest), _ =>
    .ok (.float (Decimal.floatOfDecimal negative (natOfDigits (digits ++ places)) (size - places.length)), rest)

private theorem readNumber_eq (start : List Char) :
    readNumber start =
      if (wholeOf (minusOf start).2).isEmpty then stopAt .value start
      else numberFrom start (minusOf start).1 (wholeOf (minusOf start).2)
        ((minusOf start).2.drop (wholeOf (minusOf start).2).length) := rfl

private theorem sign_minusOf (start : List Char) : start = sign (minusOf start).1 ++ (minusOf start).2 := by
  unfold minusOf
  split <;> rfl

private theorem wholeOf_digits {body : List Char} (filled : wholeOf body ≠ []) :
    WholeDigits (wholeOf body) ∧ body = wholeOf body ++ body.drop (wholeOf body).length := by
  unfold wholeOf at filled ⊢
  split at filled
  · exact ⟨.inl rfl, rfl⟩
  next noZero =>
    refine ⟨.inr ⟨digits_takeWhile filled, fun zero => ?_⟩, ?_⟩
    · cases body with
      | nil => exact filled rfl
      | cons c body =>
        by_cases digit : isDigit c = true
        · rw [List.takeWhile_cons_of_pos digit, List.head?_cons, Option.some.injEq] at zero
          exact noZero body (by rw [zero])
        · exact filled (List.takeWhile_cons_of_neg digit)
    · exact (List.prefix_iff_eq_append.mp (List.takeWhile_prefix isDigit)).symm

private theorem numberFrom_numeral {start digits behind rest : List Char} {negative : Bool} {value : Json}
    (whole : WholeDigits digits) (read : numberFrom start negative digits behind = .ok (value, rest)) :
    ∃ text, sign negative ++ (digits ++ behind) = text ++ rest ∧ Numeral text value := by
  obtain ⟨point, rejoined, placed⟩ := fraction_places behind
  unfold numberFrom at read
  generalize fraction behind = parts at read rejoined placed
  obtain ⟨places, tail⟩ := parts
  dsimp only at read rejoined placed
  subst rejoined
  cases powered : exponent? tail with
  | some found =>
    obtain ⟨size, after⟩ := found
    rw [powered] at read
    obtain ⟨rfl, rfl⟩ := Prod.mk.inj (Except.ok.inj read)
    obtain ⟨power, rfl, raised⟩ := exponent?_power powered
    have told := Numeral.real negative whole placed raised (.inr (Option.some_ne_none size))
    rw [Option.getD_some] at told
    exact ⟨_, by simp only [List.append_assoc], told⟩
  | none =>
    cases pointed : places.isEmpty with
    | true =>
      rw [powered, pointed] at read
      dsimp only at read
      split at read
      · cases read
      next few =>
        obtain ⟨rfl, rfl⟩ := Prod.mk.inj (Except.ok.inj read)
        cases placed with
        | none => exact ⟨_, by simp only [List.append_assoc, List.nil_append], .int negative whole (Nat.not_lt.mp few)⟩
        | point digital => exact absurd (List.isEmpty_iff.mp pointed) digital.1
    | false =>
      rw [powered, pointed] at read
      obtain ⟨rfl, rfl⟩ := Prod.mk.inj (Except.ok.inj read)
      have told := Numeral.real negative whole placed .none (.inl (List.isEmpty_eq_false_iff.mp pointed))
      rw [Option.getD_none, Int.zero_sub, List.append_nil] at told
      exact ⟨_, by simp only [List.append_assoc], told⟩

theorem readNumber_numeral {start rest : List Char} {value : Json} (read : readNumber start = .ok (value, rest)) :
    ∃ text, start = text ++ rest ∧ Numeral text value := by
  rw [readNumber_eq] at read
  split at read
  · cases read
  next filled =>
    obtain ⟨whole, rejoined⟩ := wholeOf_digits (mt List.isEmpty_iff.mpr filled)
    obtain ⟨text, same, numeral⟩ := numberFrom_numeral whole read
    refine ⟨text, ?_, numeral⟩
    rw [← same, ← rejoined, ← sign_minusOf]

/-- What may come behind a value: the end, a blank, a separator or a closing mark. -/
def Ended (rest : List Char) : Prop := ∀ c ∈ rest.head?, isSpace c = true ∨ c = ',' ∨ c = ']' ∨ c = '\x7d'

theorem Ended.cases {c : Char} {rest : List Char} (ended : Ended (c :: rest)) :
    c = ' ' ∨ c = '\t' ∨ c = '\n' ∨ c = '\r' ∨ c = ',' ∨ c = ']' ∨ c = '\x7d' := by
  have first := ended c rfl
  simp only [isSpace, Bool.or_eq_true, beq_iff_eq, or_assoc] at first
  exact first

theorem Ended.stops {rest : List Char} (ended : Ended rest) :
    NoDigit rest ∧ fraction rest = ([], rest) ∧ exponent? rest = none := by
  cases rest with
  | nil => exact ⟨fun _ none => (by cases none), rfl, rfl⟩
  | cons c rest =>
    obtain rfl | rfl | rfl | rfl | rfl | rfl | rfl := ended.cases <;>
      exact ⟨fun _ head => by cases head; rfl, rfl, rfl⟩

theorem Power.stops {power rest : List Char} {size : Option Int} (raised : Power power size) (ended : Ended rest) :
    NoDigit (power ++ rest) ∧ fraction (power ++ rest) = ([], power ++ rest) := by
  cases raised with
  | none => exact ⟨ended.stops.1, ended.stops.2.1⟩
  | mark marked leads digital =>
    obtain rfl | rfl := marked <;> exact ⟨fun _ head => by cases head; rfl, rfl⟩

theorem Digits.noDigit_ne {digits rest : List Char} (digital : Digits digits) {c : Char} (other : isDigit c = false) :
    (digits ++ rest).head? ≠ some c := by
  obtain ⟨first, more, rfl⟩ := List.exists_cons_of_ne_nil digital.1
  intro head
  obtain rfl := Option.some.inj head
  rw [digital.2 first List.mem_cons_self] at other
  cases other

private theorem signOf_append {lead digits rest : List Char} {negative : Bool} (digital : Digits digits)
    (leads : lead = [] ∧ negative = false ∨ lead = ['+'] ∧ negative = false ∨ lead = ['-'] ∧ negative = true) :
    signOf (lead ++ (digits ++ rest)) = (negative, digits ++ rest) := by
  obtain ⟨rfl, rfl⟩ | ⟨rfl, rfl⟩ | ⟨rfl, rfl⟩ := leads
  · rw [List.nil_append]
    unfold signOf
    split
    next starts => exact absurd (congrArg List.head? starts) (digital.noDigit_ne rfl)
    next starts => exact absurd (congrArg List.head? starts) (digital.noDigit_ne rfl)
    next => rfl
  · rfl
  · rfl

theorem Power.exponent? {power rest : List Char} {size : Option Int} (raised : Power power size) (ended : Ended rest) :
    exponent? (power ++ rest) = size.map fun size => (size, rest) := by
  cases raised with
  | none => exact ended.stops.2.2
  | @mark mark lead digits negative marked leads digital =>
    have marks : (mark == 'e' || mark == 'E') = true := by
      rw [Bool.or_eq_true, beq_iff_eq, beq_iff_eq]
      exact marked
    obtain ⟨taken, left⟩ := takeWhile_digits digital.2 ended.stops.1
    have filled : ¬ digits.isEmpty = true := mt List.isEmpty_iff.mp digital.1
    rw [List.cons_append, List.append_assoc, exponent?_cons, if_pos marks, signOf_append digital leads]
    dsimp only
    rw [taken, left, if_neg filled]
    rfl

theorem Places.fraction {point places tail : List Char} (placed : Places point places) (ends : NoDigit tail)
    (none : fraction tail = ([], tail)) : fraction (point ++ tail) = (places, tail) := by
  cases placed with
  | none => exact none
  | point digital =>
    obtain ⟨c, more, rfl⟩ := List.exists_cons_of_ne_nil digital.1
    obtain ⟨taken, left⟩ := takeWhile_digits (fun d member => digital.2 d (List.mem_cons_of_mem c member)) ends
    rw [List.cons_append, List.cons_append, Json.fraction, if_pos (digital.2 c List.mem_cons_self), taken, left]

theorem Places.stops {point places tail : List Char} (placed : Places point places) (ends : NoDigit tail) :
    NoDigit (point ++ tail) := by
  cases placed with
  | none => exact ends
  | point digital => exact fun _ head => by cases head; rfl

theorem WholeDigits.digits {digits : List Char} (whole : WholeDigits digits) : Digits digits := by
  rcases whole with rfl | ⟨digital, -⟩
  · exact ⟨List.cons_ne_nil _ _, List.forall_mem_singleton.mpr rfl⟩
  · exact digital

theorem WholeDigits.wholeOf {digits behind : List Char} (whole : WholeDigits digits) (ends : NoDigit behind) :
    wholeOf (digits ++ behind) = digits := by
  rcases whole with rfl | ⟨digital, noZero⟩
  · rfl
  · obtain ⟨c, more, rfl⟩ := List.exists_cons_of_ne_nil digital.1
    have other : c ≠ '0' := fun zero => noZero (congrArg some zero)
    have front : Json.wholeOf (c :: more ++ behind) = (c :: more ++ behind).takeWhile isDigit := by
      rw [List.cons_append, Json.wholeOf]
      exact fun _ same => other (List.cons.inj same).1
    rw [front, (takeWhile_digits digital.2 ends).1]

private theorem minusOf_append (negative : Bool) {digits behind : List Char} (digital : Digits digits) :
    minusOf (sign negative ++ (digits ++ behind)) = (negative, digits ++ behind) := by
  cases negative with
  | true => rfl
  | false =>
    rw [sign, if_neg Bool.false_ne_true, List.nil_append]
    unfold minusOf
    split
    next starts => exact absurd (congrArg List.head? starts) (digital.noDigit_ne rfl)
    next => rfl

private theorem readNumber_append (negative : Bool) {digits behind : List Char} (whole : WholeDigits digits)
    (ends : NoDigit behind) :
    readNumber (sign negative ++ (digits ++ behind)) =
      numberFrom (sign negative ++ (digits ++ behind)) negative digits behind := by
  have filled : ¬ digits.isEmpty = true := mt List.isEmpty_iff.mp whole.digits.1
  rw [readNumber_eq, minusOf_append negative whole.digits]
  dsimp only
  rw [whole.wholeOf ends, if_neg filled, List.drop_left]

theorem Numeral.readNumber {text rest : List Char} {value : Json} (numeral : Numeral text value) (ended : Ended rest) :
    readNumber (text ++ rest) = .ok (value, rest) := by
  cases numeral with
  | @int digits negative whole few =>
    rw [List.append_assoc, readNumber_append negative whole ended.stops.1, numberFrom, ended.stops.2.1]
    dsimp only
    rw [ended.stops.2.2]
    exact if_neg (Nat.not_lt.mpr few)
  | @real digits point places power size negative whole placed raised broken =>
    obtain ⟨ends, plain⟩ := raised.stops ended
    rw [List.append_assoc, List.append_assoc, List.append_assoc, readNumber_append negative whole (placed.stops ends),
      numberFrom,
      placed.fraction ends plain]
    dsimp only
    rw [raised.exponent? ended]
    cases size with
    | some size => rfl
    | none =>
      have filled : places.isEmpty = false :=
        List.isEmpty_eq_false_iff.mpr (broken.resolve_right (fun some => some rfl))
      cases raised
      rw [filled, Option.getD_none, Int.zero_sub]
      rfl

end TerminalDock.Json
