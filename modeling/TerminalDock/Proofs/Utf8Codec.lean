import TerminalDock.Text.Utf8

/-! Text that was written as UTF-8 is read back, and nothing else is read. The first byte of a character tells how
many follow it and, where it could begin a code that another size or no character at all has, between which bounds the
second one lies. -/

namespace TerminalDock.Text.Utf8

private theorem toNat_byte {value : Nat} (small : value < 256) : (UInt8.ofNat value).toNat = value :=
  Nat.mod_eq_of_lt small

private theorem finish_byte {value size low high needed byte : Nat} (small : byte < 256) (above : low ≤ byte)
    (below : byte ≤ high)
    (rest : List UInt8) : finish value size low high (needed + 1) (UInt8.ofNat byte :: rest) =
      finish (value * 64 + byte % 64) (size + 1) 0x80 0xBF needed rest := by
  have within : (decide (low ≤ byte) && decide (byte ≤ high)) = true := by simp [above, below]
  simp only [finish, toNat_byte small, within, if_true]

private theorem finish_done (value size low high : Nat) (rest : List UInt8) :
    finish value size low high 0 rest = .char (Char.ofNat value) size := rfl

private theorem front_two {code : Nat} (low : 0x80 ≤ code) (high : code ≤ 0x7FF) (rest : List UInt8) :
    front (UInt8.ofNat (code / 64 % 32 + 192)) (UInt8.ofNat (code % 64 + 128) :: rest) = .char (Char.ofNat code) 2 := by
  rw [front, toNat_byte (by omega), if_neg (by omega), if_neg (by omega), if_pos (by omega),
    finish_byte (by omega) (by omega) (by omega), finish_done]
  exact congrArg (fun code => Front.char (Char.ofNat code) 2) (by omega)

private theorem front_three {code : Nat} (low : 0x800 ≤ code) (high : code ≤ 0xFFFF) (valid : code < 0xD800 ∨ 0xDFFF < code)
    (rest : List UInt8) :
    front (UInt8.ofNat (code / 4096 % 16 + 224))
      (UInt8.ofNat (code / 64 % 64 + 128) :: UInt8.ofNat (code % 64 + 128) :: rest) = .char (Char.ofNat code) 3 := by
  have reads {value least most : Nat} (whole : value = code / 4096) (above : least ≤ code / 64 % 64 + 128)
      (below : code / 64 % 64 + 128 ≤ most) :
      finish value 1 least most 2 (UInt8.ofNat (code / 64 % 64 + 128) :: UInt8.ofNat (code % 64 + 128) :: rest) =
        .char (Char.ofNat code) 3 := by
    rw [finish_byte (by omega) above below, finish_byte (by omega) (by omega) (by omega), finish_done]
    exact congrArg (fun code => Front.char (Char.ofNat code) 3) (by omega)
  rw [front, toNat_byte (by omega), if_neg (by omega), if_neg (by omega), if_neg (by omega)]
  -- After the bytes E0 and ED the second byte has narrower bounds.
  by_cases first : code / 4096 = 0
  · rw [if_pos (beq_iff_eq.mpr (by omega)), reads first.symm (by omega) (by omega)]
  rw [if_neg (mt beq_iff_eq.mp (by omega))]
  by_cases surrogates : code / 4096 = 0xD
  · rw [if_pos (beq_iff_eq.mpr (by omega)), reads surrogates.symm (by omega) (by omega)]
  rw [if_neg (mt beq_iff_eq.mp (by omega)), if_pos (by omega), reads (by omega) (by omega) (by omega)]

private theorem front_four {code : Nat} (low : 0x10000 ≤ code) (high : code < 0x110000) (rest : List UInt8) :
    front (UInt8.ofNat (code / 262144 % 8 + 240))
      (UInt8.ofNat (code / 4096 % 64 + 128) :: UInt8.ofNat (code / 64 % 64 + 128) :: UInt8.ofNat (code % 64 + 128) :: rest) =
        .char (Char.ofNat code) 4 := by
  have reads {value least most : Nat} (whole : value = code / 262144) (above : least ≤ code / 4096 % 64 + 128)
      (below : code / 4096 % 64 + 128 ≤ most) :
      finish value 1 least most 3 (UInt8.ofNat (code / 4096 % 64 + 128) :: UInt8.ofNat (code / 64 % 64 + 128) ::
        UInt8.ofNat (code % 64 + 128) :: rest) = .char (Char.ofNat code) 4 := by
    rw [finish_byte (by omega) above below, finish_byte (by omega) (by omega) (by omega),
      finish_byte (by omega) (by omega) (by omega), finish_done]
    exact congrArg (fun code => Front.char (Char.ofNat code) 4) (by omega)
  rw [front, toNat_byte (by omega), if_neg (by omega), if_neg (by omega), if_neg (by omega),
    if_neg (mt beq_iff_eq.mp (by omega)), if_neg (mt beq_iff_eq.mp (by omega)), if_neg (by omega)]
  by_cases first : code / 262144 = 0
  · rw [if_pos (beq_iff_eq.mpr (by omega)), reads first.symm (by omega) (by omega)]
  rw [if_neg (mt beq_iff_eq.mp (by omega))]
  by_cases last : code / 262144 = 4
  · rw [if_neg (by omega), if_pos (beq_iff_eq.mpr (by omega)), reads last.symm (by omega) (by omega)]
  rw [if_pos (by omega), reads (by omega) (by omega) (by omega)]

/-- A character stands at the front of its own bytes, whatever comes after them. -/
theorem front_encode (c : Char) : ∃ byte more, String.utf8EncodeChar c = byte :: more ∧
    ∀ rest, front byte (more ++ rest) = .char c (more.length + 1) := by
  have valid : c.val.toNat < 0xD800 ∨ (0xDFFF < c.val.toNat ∧ c.val.toNat < 0x110000) := c.valid
  have same : Char.ofNat c.val.toNat = c := Char.ofNat_toNat c
  unfold String.utf8EncodeChar
  generalize c.val.toNat = code at valid same
  subst same
  dsimp only
  split
  next one =>
    refine ⟨_, [], rfl, fun rest => ?_⟩
    rw [front, toNat_byte (by omega), if_pos (by omega)]
    rfl
  next =>
    split
    next two => exact ⟨_, _, rfl, front_two (by omega) two⟩
    next =>
      split
      next three => exact ⟨_, _, rfl, front_three (by omega) three (by omega)⟩
      next => exact ⟨_, _, rfl, front_four (by omega) (by omega)⟩

private theorem decodeFrom_encode (text : List Char) {position fuel : Nat} (enough : (encode text).length ≤ fuel) :
    decodeFrom position fuel (encode text) = .ok text := by
  induction text generalizing position fuel with
  | nil => exact decodeFrom.eq_1 ..
  | cons c rest ih =>
    obtain ⟨byte, more, bytes, stands⟩ := front_encode c
    have whole : encode (c :: rest) = byte :: (more ++ encode rest) := by
      rw [encode, List.flatMap_cons, bytes, List.cons_append]
      rfl
    rw [whole, List.length_cons, List.length_append] at enough
    obtain ⟨fuel, rfl⟩ : ∃ less, fuel = less + 1 := ⟨fuel - 1, by omega⟩
    rw [whole, decodeFrom, stands]
    dsimp only
    rw [Nat.add_sub_cancel, List.drop_left, ih (by omega)]

theorem decode_encode (text : List Char) : decode (encode text) = .ok text :=
  decodeFrom_encode text (Nat.le_refl _)

private theorem toNat_ofNat {code : Nat} (valid : code.isValidChar) : (Char.ofNat code).val.toNat = code := by
  rw [Char.ofNat, dif_pos valid]
  rfl

private theorem same_byte {byte : UInt8} {value : Nat} (same : value = byte.toNat) : UInt8.ofNat value = byte := by
  rw [same, UInt8.ofNat_toNat]

private theorem finish_char {value size low high needed total : Nat} {bytes : List UInt8} {c : Char}
    (read : finish value size low high (needed + 1) bytes = .char c total) :
    ∃ byte rest, bytes = byte :: rest ∧ low ≤ byte.toNat ∧ byte.toNat ≤ high ∧
      finish (value * 64 + byte.toNat % 64) (size + 1) 0x80 0xBF needed rest = .char c total := by
  cases bytes with
  | nil => cases read
  | cons byte rest =>
    rw [finish] at read
    split at read
    next within =>
      rw [Bool.and_eq_true, decide_eq_true_iff, decide_eq_true_iff] at within
      exact ⟨byte, rest, rfl, within.1, within.2, read⟩
    next => cases read

section

variable {byte : UInt8} {rest : List UInt8} {c : Char} {value low high size : Nat}

private theorem one_char (small : byte.toNat < 0x80) : String.utf8EncodeChar (Char.ofNat byte.toNat) = [byte] := by
  have valid : byte.toNat.isValidChar := .inl (by omega)
  rw [String.utf8EncodeChar, toNat_ofNat valid, if_pos (by omega), UInt8.ofNat_toNat]

private theorem two_char (lead : byte.toNat = value + 0xC0) (bounds : 2 ≤ value ∧ value < 32)
    (read : finish value 1 0x80 0xBF 1 rest = .char c size) :
    byte :: rest = String.utf8EncodeChar c ++ rest.drop (size - 1) := by
  obtain ⟨second, rest, rfl, above, below, read⟩ := finish_char read
  rw [finish_done] at read
  cases read
  have valid : (value * 64 + second.toNat % 64).isValidChar := .inl (by omega)
  rw [String.utf8EncodeChar, toNat_ofNat valid, if_neg (by omega), if_pos (by omega), same_byte (by omega : _ = byte.toNat),
    same_byte (by omega : _ = second.toNat)]
  rfl

/-- The bounds of the second byte leave out what fewer bytes could say, and the surrogates. -/
theorem three_char (lead : byte.toNat = value + 0xE0)
    (bounds : value = 0 ∧ low = 0xA0 ∧ high = 0xBF ∨ value = 0xD ∧ low = 0x80 ∧ high = 0x9F ∨
      0 < value ∧ value < 16 ∧ value ≠ 0xD ∧ low = 0x80 ∧ high = 0xBF)
    (read : finish value 1 low high 2 rest = .char c size) :
    byte :: rest = String.utf8EncodeChar c ++ rest.drop (size - 1) := by
  obtain ⟨second, rest, rfl, above, below, read⟩ := finish_char read
  obtain ⟨third, rest, rfl, aboveThird, belowThird, read⟩ := finish_char read
  rw [finish_done] at read
  cases read
  have valid : ((value * 64 + second.toNat % 64) * 64 + third.toNat % 64).isValidChar := by
    rw [Nat.isValidChar]
    omega
  rw [String.utf8EncodeChar, toNat_ofNat valid, if_neg (by omega), if_neg (by omega), if_pos (by omega),
    same_byte (by omega : _ = byte.toNat), same_byte (by omega : _ = second.toNat), same_byte (by omega : _ = third.toNat)]
  rfl

private theorem four_char (lead : byte.toNat = value + 0xF0)
    (bounds : value = 0 ∧ low = 0x90 ∧ high = 0xBF ∨ value = 4 ∧ low = 0x80 ∧ high = 0x8F ∨
      0 < value ∧ value < 4 ∧ low = 0x80 ∧ high = 0xBF)
    (read : finish value 1 low high 3 rest = .char c size) :
    byte :: rest = String.utf8EncodeChar c ++ rest.drop (size - 1) := by
  obtain ⟨second, rest, rfl, above, below, read⟩ := finish_char read
  obtain ⟨third, rest, rfl, aboveThird, belowThird, read⟩ := finish_char read
  obtain ⟨fourth, rest, rfl, aboveFourth, belowFourth, read⟩ := finish_char read
  rw [finish_done] at read
  cases read
  have valid : (((value * 64 + second.toNat % 64) * 64 + third.toNat % 64) * 64 + fourth.toNat % 64).isValidChar := by
    rw [Nat.isValidChar]
    omega
  rw [String.utf8EncodeChar, toNat_ofNat valid, if_neg (by omega), if_neg (by omega), if_neg (by omega),
    same_byte (by omega : _ = byte.toNat), same_byte (by omega : _ = second.toNat), same_byte (by omega : _ = third.toNat),
    same_byte (by omega : _ = fourth.toNat)]
  rfl

private theorem front_char (read : front byte rest = .char c size) :
    byte :: rest = String.utf8EncodeChar c ++ rest.drop (size - 1) := by
  have top : byte.toNat < 256 := byte.toNat_lt
  unfold front at read
  dsimp only at read
  split at read
  · cases read
    rw [one_char (by omega)]
    rfl
  split at read
  · cases read
  split at read
  · exact two_char (by omega) (by omega) read
  split at read
  next zero => exact three_char (by rw [beq_iff_eq] at zero; omega) (.inl ⟨rfl, rfl, rfl⟩) read
  next notZero =>
    rw [beq_iff_eq] at notZero
    split at read
    next surrogates => exact three_char (by rw [beq_iff_eq] at surrogates; omega) (.inr (.inl ⟨rfl, rfl, rfl⟩)) read
    next notSurrogates =>
      rw [beq_iff_eq] at notSurrogates
      split at read
      · exact three_char (by omega) (.inr (.inr ⟨by omega, by omega, by omega, rfl, rfl⟩)) read
      split at read
      next zero => exact four_char (by rw [beq_iff_eq] at zero; omega) (.inl ⟨rfl, rfl, rfl⟩) read
      next notFirst =>
        rw [beq_iff_eq] at notFirst
        split at read
        · exact four_char (by omega) (.inr (.inr ⟨by omega, by omega, rfl, rfl⟩)) read
        split at read
        next last => exact four_char (by rw [beq_iff_eq] at last; omega) (.inr (.inl ⟨rfl, rfl, rfl⟩)) read
        next => cases read

end

private theorem decodeFrom_ok {position fuel : Nat} {bytes : List UInt8} {text : List Char} (enough : bytes.length ≤ fuel)
    (read : decodeFrom position fuel bytes = .ok text) : encode text = bytes := by
  induction fuel generalizing position bytes text with
  | zero =>
    obtain rfl := List.eq_nil_of_length_eq_zero (Nat.le_zero.mp enough)
    cases read
    rfl
  | succ fuel ih =>
    cases bytes with
    | nil =>
      cases read
      rfl
    | cons byte rest =>
      rw [List.length_cons] at enough
      rw [decodeFrom] at read
      split at read
      next c size first =>
        split at read
        next text more =>
          cases read
          have shorter : (rest.drop (size - 1)).length ≤ fuel := by
            rw [List.length_drop]
            omega
          rw [front_char first, encode, List.flatMap_cons, ← ih shorter more]
          rfl
        next => cases read
      next => cases read
      next => cases read

/-- Bytes are read as a text exactly if they are written for it. -/
theorem decode_ok_iff {bytes : List UInt8} {text : List Char} : decode bytes = .ok text ↔ encode text = bytes := by
  constructor
  · exact decodeFrom_ok (Nat.le_refl _)
  · rintro rfl
    exact decode_encode text

end TerminalDock.Text.Utf8
