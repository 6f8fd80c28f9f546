import TerminalDock.Proofs.Trimming
import TerminalDock.Text.IntegerLiteral

/-! Which texts are whole numbers as people type them, said apart from how they are read. -/

namespace TerminalDock.Text

/-- Digits, and between two of them an underscore at most. -/
inductive Run (base : Nat) : List Char → List Nat → Prop
  | last {c : Char} {digit : Nat} (read : digitIn? base c = some digit) : Run base [c] [digit]
  | next {c : Char} {digit : Nat} {text : List Char} {digits : List Nat} (read : digitIn? base c = some digit)
      (more : Run base text digits) : Run base (c :: text) (digit :: digits)
  | apart {c : Char} {digit : Nat} {text : List Char} {digits : List Nat} (read : digitIn? base c = some digit)
      (more : Run base text digits) : Run base (c :: '_' :: text) (digit :: digits)

def positional (base : Nat) (digits : List Nat) : Nat :=
  digits.foldl (fun value digit => value * base + digit) 0

/-- What may follow a digit: more digits, with or without an underscore before them, or nothing. -/
inductive Tail (base : Nat) : List Char → List Nat → Prop
  | done : Tail base [] []
  | next {text : List Char} {digits : List Nat} (more : Run base text digits) : Tail base text digits
  | apart {text : List Char} {digits : List Nat} (more : Run base text digits) : Tail base ('_' :: text) digits

variable {base value number digit : Nat} {c : Char} {text : List Char} {digits : List Nat}

theorem Tail.run (tail : Tail base text digits) (read : digitIn? base c = some digit) :
    Run base (c :: text) (digit :: digits) := by
  cases tail with
  | done => exact .last read
  | next more => exact .next read more
  | apart more => exact .apart read more

theorem Run.tail (run : Run base text digits) : ∃ c rest digit more, text = c :: rest ∧ digits = digit :: more ∧
    digitIn? base c = some digit ∧ Tail base rest more := by
  cases run with
  | last read => exact ⟨_, _, _, _, rfl, rfl, read, .done⟩
  | next read more => exact ⟨_, _, _, _, rfl, rfl, read, .next more⟩
  | apart read more => exact ⟨_, _, _, _, rfl, rfl, read, .apart more⟩

private theorem digitIn?_mark (base : Nat) : ∀ mark ∈ ['_', '-', '+'], digitIn? base mark = none := by
  have noDigit : digitValue? '_' = none ∧ digitValue? '-' = none ∧ digitValue? '+' = none := by decide
  obtain ⟨underscore, minus, plus⟩ := noDigit
  intro mark member
  simp only [List.mem_cons, List.not_mem_nil, or_false] at member
  rcases member with rfl | rfl | rfl <;> simp [digitIn?, underscore, minus, plus]

private theorem moreDigits?_tail (read : moreDigits? base value text = some number) :
    ∃ digits, Tail base text digits ∧ number = digits.foldl (fun value digit => value * base + digit) value := by
  fun_induction moreDigits? base value text with
  | case1 value =>
    cases read
    exact ⟨[], .done, rfl⟩
  | case2 value c rest ih =>
    obtain ⟨digit, first, later⟩ := Option.bind_eq_some_iff.mp read
    obtain ⟨digits, tail, rfl⟩ := ih digit later
    exact ⟨digit :: digits, .apart (tail.run first), rfl⟩
  | case3 value c rest other ih =>
    obtain ⟨digit, first, later⟩ := Option.bind_eq_some_iff.mp read
    obtain ⟨digits, tail, rfl⟩ := ih digit later
    exact ⟨digit :: digits, .next (tail.run first), rfl⟩

private theorem moreDigits?_cons (read : digitIn? base c = some digit) (value : Nat) (rest : List Char) :
    moreDigits? base value (c :: rest) = moreDigits? base (value * base + digit) rest := by
  rw [moreDigits?, read]
  · rfl
  · rintro d more rfl -
    rw [digitIn?_mark base '_' (by decide)] at read
    cases read

theorem Run.moreDigits? (run : Run base text digits) (value : Nat) :
    moreDigits? base value text = some (digits.foldl (fun value digit => value * base + digit) value) := by
  induction run generalizing value with
  | last read => rw [moreDigits?_cons read, Text.moreDigits?, List.foldl_cons, List.foldl_nil]
  | next read more ih => rw [moreDigits?_cons read, ih, List.foldl_cons]
  | apart read more ih =>
    obtain ⟨c, rest, digit, digits, rfl, rfl, first, tail⟩ := more.tail
    rw [moreDigits?_cons read, Text.moreDigits?, first, Option.bind_some, ← moreDigits?_cons first, ih]
    simp only [List.foldl_cons]

/-- A run of digits is read as the number it stands for, and nothing else is read. -/
theorem digits?_iff : digits? base text = some number ↔ ∃ digits, Run base text digits ∧
    number = positional base digits := by
  constructor
  · intro read
    cases text with
    | nil => cases read
    | cons c rest =>
      obtain ⟨digit, first, later⟩ := Option.bind_eq_some_iff.mp read
      obtain ⟨digits, tail, rfl⟩ := moreDigits?_tail later
      exact ⟨digit :: digits, tail.run first, by rw [positional, List.foldl_cons, Nat.zero_mul, Nat.zero_add]⟩
  · rintro ⟨digits, run, rfl⟩
    have whole := run.moreDigits? 0
    obtain ⟨c, rest, digit, digits, rfl, rfl, first, tail⟩ := run.tail
    rw [moreDigits?_cons first, Nat.zero_mul, Nat.zero_add] at whole
    rw [digits?, first, Option.bind_some, whole, positional]

def blankCodes : List Nat := [
  9, 10, 11, 12, 13, 28, 29, 30, 31, 32, 0x85, 0xA0, 0x1680, 0x2000, 0x2001, 0x2002, 0x2003, 0x2004, 0x2005, 0x2006, 0x2007,
  0x2008, 0x2009, 0x200A, 0x2028, 0x2029, 0x202F, 0x205F, 0x3000]

private theorem mem_blankCodes (blank : isBlank c = true) : c.toNat ∈ blankCodes := by
  simp only [isBlank, Bool.or_eq_true, Bool.and_eq_true, decide_eq_true_eq, beq_iff_eq] at blank
  simp only [blankCodes, List.mem_cons]
  omega

private theorem digitValue?_blank (blank : isNumberBlank c = true) : digitValue? c = none := by
  have apart : ∀ code ∈ blankCodes,
      (digitZeros.find? fun start => decide (start ≤ code) && decide (code < start + 10)) = none := by
    decide
  rw [isNumberBlank, Bool.and_eq_true] at blank
  rw [digitValue?, apart _ (mem_blankCodes blank.1)]
  rfl

private theorem digitIn?_blank (base : Nat) (blank : isNumberBlank c = true) : digitIn? base c = none := by
  have apart : ∀ code ∈ blankCodes, code < 65 ∨ 122 < code := by decide
  have code := apart _ (mem_blankCodes (Bool.and_eq_true_iff.mp blank).1)
  have noSmall : ¬('a' ≤ c ∧ c ≤ 'z') := by
    intro small
    have bounds : 97 ≤ c.toNat ∧ c.toNat ≤ 122 := small
    omega
  have noLarge : ¬('A' ≤ c ∧ c ≤ 'Z') := by
    intro large
    have bounds : 65 ≤ c.toNat ∧ c.toNat ≤ 90 := large
    omega
  simp [digitIn?, digitValue?_blank blank, noSmall, noLarge]

private theorem digitIn?_solid (read : digitIn? base c = some digit) : isNumberBlank c = false := by
  refine Bool.eq_false_iff.mpr ?_
  intro blank
  rw [digitIn?_blank base blank] at read
  cases read

private theorem digitValue?_of_digitIn? (read : digitIn? 10 c = some digit) : digitValue? c = some digit := by
  rw [digitIn?] at read
  obtain ⟨found, small⟩ := Option.filter_eq_some_iff.mp read
  split at found
  next value decimal =>
    cases found
    exact decimal
  next =>
    simp only [decide_eq_true_eq] at small
    split at found
    · cases found
      omega
    · split at found
      · cases found
        omega
      · cases found

/-- What a sign may stand before: neither blanks nor another sign are at its ends. -/
structure Body (text : List Char) : Prop where
  filled : text ≠ []
  head : ∀ c ∈ text.head?, isNumberBlank c = false ∧ c ≠ '-' ∧ c ≠ '+'
  last : ∀ c ∈ text.getLast?, isNumberBlank c = false

private theorem head_of_digit (read : digitIn? base c = some digit) : isNumberBlank c = false ∧ c ≠ '-' ∧ c ≠ '+' := by
  refine ⟨digitIn?_solid read, ?_, ?_⟩
  all_goals
    rintro rfl
    rw [digitIn?_mark base _ (by decide)] at read
    cases read

theorem Run.body (run : Run base text digits) : Body text := by
  induction run with
  | last read => exact ⟨List.cons_ne_nil _ _, by simpa using head_of_digit read, by simpa using digitIn?_solid read⟩
  | next read more ih =>
    refine ⟨List.cons_ne_nil _ _, by simpa using head_of_digit read, ?_⟩
    rw [List.getLast?_cons_of_ne_nil ih.filled]
    exact ih.last
  | apart read more ih =>
    refine ⟨List.cons_ne_nil _ _, by simpa using head_of_digit read, ?_⟩
    rw [List.getLast?_cons_cons, List.getLast?_cons_of_ne_nil ih.filled]
    exact ih.last

inductive Signed : List Char → Bool → Prop
  | bare : Signed [] false
  | plus : Signed ['+'] false
  | minus : Signed ['-'] true

/-- A decimal number: blanks, a sign or none, digits, and blanks again. -/
inductive Typed : List Char → Bool → List Nat → Prop
  | mk {lead sign run trail : List Char} {digits : List Nat} {negative : Bool}
      (blankLead : ∀ c ∈ lead, isNumberBlank c = true)
      (signed : Signed sign negative) (digital : Run 10 run digits) (blankTrail : ∀ c ∈ trail, isNumberBlank c = true) :
      Typed (lead ++ (sign ++ run ++ trail)) negative digits

private theorem numberBody_eq {lead body trail : List Char} (blankLead : ∀ c ∈ lead, isNumberBlank c = true)
    (filled : body ≠ []) (head : ∀ c ∈ body.head?, isNumberBlank c = false)
      (last : ∀ c ∈ body.getLast?, isNumberBlank c = false)
    (blankTrail : ∀ c ∈ trail, isNumberBlank c = true) : numberBody (lead ++ (body ++ trail)) = body := by
  have front : (body ++ trail).dropWhile isNumberBlank = body ++ trail := by
    obtain ⟨c, rest, rfl⟩ := List.exists_cons_of_ne_nil filled
    rw [List.cons_append, List.dropWhile_cons_of_neg (by simp [head c rfl])]
  obtain ⟨most, final, rfl⟩ : ∃ most final, body = most ++ [final] := ⟨_, _, (List.dropLast_concat_getLast filled).symm⟩
  rw [numberBody, List.dropWhile_append_of_pos blankLead, front, List.append_assoc, List.singleton_append,
    dropRightWhile_append (last final (by simp)), dropRightWhile_eq_nil.mpr blankTrail]

private theorem numberBody_signed {lead sign body trail : List Char} {negative : Bool}
    (blankLead : ∀ c ∈ lead, isNumberBlank c = true)
    (signed : Signed sign negative) (unsigned : Body body) (blankTrail : ∀ c ∈ trail, isNumberBlank c = true) :
    numberBody (lead ++ (sign ++ body ++ trail)) = sign ++ body := by
  refine numberBody_eq blankLead (List.append_ne_nil_of_right_ne_nil _ unsigned.filled) ?_ ?_ blankTrail
  · cases signed with
    | bare => exact fun c member => (unsigned.head c member).1
    | plus | minus =>
      rintro c same
      cases same
      decide
  · rw [List.getLast?_append_of_ne_nil _ unsigned.filled]
    exact unsigned.last

private theorem body_numberBody (text : List Char) : ∃ lead trail, text = lead ++ (numberBody text ++ trail) ∧
    (∀ c ∈ lead, isNumberBlank c = true) ∧ ∀ c ∈ trail, isNumberBlank c = true := by
  obtain ⟨trail, whole, blank⟩ := dropRightWhile_dropped isNumberBlank (text.dropWhile isNumberBlank)
  refine ⟨text.takeWhile isNumberBlank, trail, ?_, fun _ => List.mem_takeWhile_imp, blank⟩
  rw [numberBody, ← whole, List.takeWhile_append_dropWhile]

/-- What is read has a sign, or none, before what is read without one. -/
theorem integer?_signed {value : Int} (read : integer? base text = some value) : ∃ sign negative body number,
    numberBody text = sign ++ body ∧ Signed sign negative ∧ unsigned? base body = some number ∧
      value = if negative then -(number : Int) else number := by
  rw [integer?] at read
  split at read
  next rest body =>
    obtain ⟨whole, counted, rfl⟩ := Option.map_eq_some_iff.mp read
    obtain ⟨number, digital, same⟩ := Option.bind_eq_some_iff.mp counted
    cases same
    exact ⟨['-'], true, rest, number, body, .minus, digital, rfl⟩
  next rest body =>
    obtain ⟨number, digital, rfl⟩ := Option.map_eq_some_iff.mp read
    exact ⟨['+'], false, rest, number, body, .plus, digital, rfl⟩
  next =>
    obtain ⟨number, digital, rfl⟩ := Option.map_eq_some_iff.mp read
    exact ⟨[], false, _, number, rfl, .bare, digital, rfl⟩

private theorem integer?_of_signed {sign body : List Char} {negative : Bool} (whole : numberBody text = sign ++ body)
    (signed : Signed sign negative) (unsigned : Body body) (digital : unsigned? base body = some number) :
    integer? base text = some (if negative then -(number : Int) else number) := by
  rw [integer?, whole]
  cases signed with
  | bare =>
    obtain ⟨c, rest, rfl⟩ := List.exists_cons_of_ne_nil unsigned.filled
    obtain ⟨-, noMinus, noPlus⟩ := unsigned.head c rfl
    split
    next same => exact absurd (List.cons.inj same).1 noMinus
    next same => exact absurd (List.cons.inj same).1 noPlus
    next => rw [List.nil_append, digital]; rfl
  | plus => exact (congrArg (Option.map Int.ofNat) digital).trans rfl
  | minus =>
    show Option.map _ (unsigned? base body >>= _) = _
    rw [digital]
    rfl

private theorem unsigned?_ten (text : List Char) : unsigned? 10 text = digits? 10 text := by
  rw [unsigned?.eq_def]
  split <;> simp

def signedNumber (negative : Bool) (digits : List Nat) : Int :=
  if negative then -(positional 10 digits : Int) else positional 10 digits

/-- A text is read as a whole number exactly if it is typed as one. -/
theorem integer?_iff {value : Int} :
    integer? 10 text = some value ↔ ∃ negative digits, Typed text negative digits ∧
      value = signedNumber negative digits := by
  constructor
  · intro read
    obtain ⟨sign, negative, body, number, whole, signed, digital, rfl⟩ := integer?_signed read
    rw [unsigned?_ten] at digital
    obtain ⟨digits, run, rfl⟩ := digits?_iff.mp digital
    obtain ⟨lead, trail, around, blankLead, blankTrail⟩ := body_numberBody text
    rw [whole] at around
    exact ⟨negative, digits, around ▸ .mk blankLead signed run blankTrail, rfl⟩
  · rintro ⟨negative, digits, ⟨blankLead, signed, digital, blankTrail⟩, rfl⟩
    refine integer?_of_signed (numberBody_signed blankLead signed digital.body blankTrail) signed digital.body ?_
    rw [unsigned?_ten]
    exact digits?_iff.mpr ⟨digits, digital, rfl⟩

/-- The mark of base sixteen, or none: a zero and an x, and an underscore behind them or none. -/
inductive Marked : List Char → Prop
  | bare : Marked []
  | mark {zero cross : Char} (zeroed : digitValue? zero = some 0) (crossed : cross = 'x' ∨ cross = 'X') :
      Marked [zero, cross]
  | apart {zero cross : Char} (zeroed : digitValue? zero = some 0) (crossed : cross = 'x' ∨ cross = 'X') :
    Marked [zero, cross, '_']

/-- A hexadecimal number: blanks, a sign or none, the mark of its base or none, digits, and blanks again. -/
inductive Hexadecimal : List Char → Prop
  | mk {lead sign mark run trail : List Char} {digits : List Nat} {negative : Bool}
      (blankLead : ∀ c ∈ lead, isNumberBlank c = true) (signed : Signed sign negative) (marked : Marked mark)
      (digital : Run 16 run digits) (blankTrail : ∀ c ∈ trail, isNumberBlank c = true) :
      Hexadecimal (lead ++ (sign ++ (mark ++ run) ++ trail))

private theorem digitIn?_cross {cross : Char} (crossed : cross = 'x' ∨ cross = 'X') : digitIn? 16 cross = none := by
  rcases crossed with rfl | rfl <;> decide

theorem Run.unmarked {zero cross : Char} {rest : List Char} (run : Run 16 (zero :: cross :: rest) digits) :
    ¬(cross = 'x' ∨ cross = 'X') := by
  intro crossed
  have noDigit := digitIn?_cross crossed
  cases run with
  | next read more =>
    obtain ⟨c, more, digit, digits, same, -, first, -⟩ := more.tail
    obtain ⟨rfl, rfl⟩ := List.cons.inj same
    rw [noDigit] at first
    cases first
  | apart read more => exact absurd crossed (by decide)

private theorem unsigned?_sixteen : unsigned? 16 text = some number ↔
    ∃ mark run digits, text = mark ++ run ∧ Marked mark ∧ Run 16 run digits ∧ number = positional 16 digits := by
  constructor
  · intro read
    rw [unsigned?.eq_def] at read
    split at read
    next zero cross rest =>
      split at read
      next begins =>
        obtain ⟨zeroed, crossed⟩ : digitValue? zero = some 0 ∧ (cross = 'x' ∨ cross = 'X') := by simpa using begins
        split at read
        next digits =>
          obtain ⟨digits, run, rfl⟩ := digits?_iff.mp read
          exact ⟨[zero, cross, '_'], _, digits, rfl, .apart zeroed crossed, run, rfl⟩
        next =>
          obtain ⟨digits, run, rfl⟩ := digits?_iff.mp read
          exact ⟨[zero, cross], _, digits, rfl, .mark zeroed crossed, run, rfl⟩
      next =>
        obtain ⟨digits, run, rfl⟩ := digits?_iff.mp read
        exact ⟨[], _, digits, rfl, .bare, run, rfl⟩
    next =>
      obtain ⟨digits, run, rfl⟩ := digits?_iff.mp read
      exact ⟨[], _, digits, rfl, .bare, run, rfl⟩
  · rintro ⟨mark, run, digits, rfl, marked, digital, rfl⟩
    have read := digits?_iff.mpr ⟨digits, digital, rfl⟩
    cases marked with
    | bare =>
      rw [List.nil_append, unsigned?.eq_def]
      split
      next zero cross rest => rw [if_neg (by simp [digital.unmarked]), read]
      next => exact read
    | mark zeroed crossed =>
      obtain ⟨c, rest, digit, more, rfl, -, first, -⟩ := digital.tail
      rw [List.cons_append, List.cons_append, List.nil_append, unsigned?.eq_def]
      dsimp only
      rw [if_pos (by simpa using ⟨zeroed, crossed⟩)]
      split
      next same =>
        rw [(List.cons.inj same).1, digitIn?_mark 16 '_' (by decide)] at first
        cases first
      next => exact read
    | apart zeroed crossed =>
      rw [List.cons_append, List.cons_append, List.cons_append, List.nil_append, unsigned?.eq_def]
      dsimp only
      rw [if_pos (by simpa using ⟨zeroed, crossed⟩)]
      exact read

theorem Marked.body {mark run : List Char} (marked : Marked mark) (digital : Run 16 run digits) : Body (mark ++ run) := by
  have zero {c : Char} (zeroed : digitValue? c = some 0) : isNumberBlank c = false ∧ c ≠ '-' ∧ c ≠ '+' := by
    have read : digitIn? 16 c = some 0 := by simp [digitIn?, zeroed]
    exact head_of_digit read
  refine ⟨List.append_ne_nil_of_right_ne_nil _ digital.body.filled, ?_, ?_⟩
  · cases marked with
    | bare => exact digital.body.head
    | mark zeroed | apart zeroed =>
      rintro c same
      cases same
      exact zero zeroed
  · rw [List.getLast?_append_of_ne_nil _ digital.body.filled]
    exact digital.body.last

/-- A text is read in base sixteen exactly if it is a hexadecimal number. -/
theorem integer?_sixteen : (integer? 16 text).isSome ↔ Hexadecimal text := by
  constructor
  · intro read
    obtain ⟨value, read⟩ := Option.isSome_iff_exists.mp read
    obtain ⟨sign, negative, body, number, whole, signed, digital, -⟩ := integer?_signed read
    obtain ⟨mark, run, digits, rfl, marked, run', -⟩ := unsigned?_sixteen.mp digital
    obtain ⟨lead, trail, around, blankLead, blankTrail⟩ := body_numberBody text
    rw [whole] at around
    exact around ▸ .mk blankLead signed marked run' blankTrail
  · rintro ⟨blankLead, signed, marked, digital, blankTrail⟩
    have body := marked.body digital
    have read := unsigned?_sixteen.mpr ⟨_, _, _, rfl, marked, digital, rfl⟩
    rw [integer?_of_signed (numberBody_signed blankLead signed body blankTrail) signed body read]
    rfl

theorem Run.digitCount (run : Run 10 text digits) : digitCount text = digits.length := by
  have noDigit : digitValue? '_' = none := by decide
  induction run with
  | last read => simp [Text.digitCount, digitValue?_of_digitIn? read]
  | next read more ih => simpa [Text.digitCount, digitValue?_of_digitIn? read] using ih
  | apart read more ih => simpa [Text.digitCount, digitValue?_of_digitIn? read, noDigit] using ih

private theorem digitCount_blank {blank : List Char} (blanks : ∀ c ∈ blank, isNumberBlank c = true) :
    digitCount blank = 0 := by
  refine List.countP_eq_zero.mpr fun c member => ?_
  rw [digitValue?_blank (blanks c member)]
  decide

/-- Of the characters of a number exactly its digits are counted. -/
theorem Typed.digitCount {negative : Bool} (typed : Typed text negative digits) : digitCount text = digits.length := by
  obtain ⟨blankLead, signed, digital, blankTrail⟩ := typed
  have front := digitCount_blank blankLead
  have back := digitCount_blank blankTrail
  have middle := digital.digitCount
  simp only [Text.digitCount, List.countP_append] at front back middle ⊢
  rw [front, back, middle]
  cases signed with
  | bare => simp
  | plus | minus => simp [show digitValue? '+' = none by decide, show digitValue? '-' = none by decide]

end TerminalDock.Text
