import TerminalDock.Proofs.ChunkCodec

/-! Which texts read as data. The strict reader takes more than what is written: it lets padding follow whole groups,
and it passes over the bits of the last symbol that no byte takes. The written form is the one text that has neither. -/

namespace TerminalDock

namespace Codec.Base64

private theorem code_between {low high c : Char} (inside : (decide (low ≤ c) && decide (c ≤ high)) = true) :
    low.toNat ≤ c.toNat ∧ c.toNat ≤ high.toNat := by
  simp only [Bool.and_eq_true, decide_eq_true_eq] at inside
  exact inside

private theorem symbol_of_value {c : Char} {value : Nat} (read : value? c = some value) : value < 64 ∧ c = symbol value := by
  have codes : 'A'.toNat = 65 ∧ 'Z'.toNat = 90 ∧ 'a'.toNat = 97 ∧ 'z'.toNat = 122 ∧ '0'.toNat = 48 ∧ '9'.toNat = 57 := by
    decide
  have same {number : Nat} (code : number = c.toNat) : c = Char.ofNat number := by rw [code, Char.ofNat_toNat]
  unfold value? at read
  split at read
  next upper =>
    have inside := code_between upper
    cases read
    refine ⟨by omega, ?_⟩
    rw [symbol, if_pos (by omega)]
    exact same (by omega)
  split at read
  next lower =>
    have inside := code_between lower
    cases read
    refine ⟨by omega, ?_⟩
    rw [symbol, if_neg (by omega), if_pos (by omega)]
    exact same (by omega)
  split at read
  next digit =>
    have inside := code_between digit
    cases read
    refine ⟨by omega, ?_⟩
    rw [symbol, if_neg (by omega), if_neg (by omega), if_pos (by omega)]
    exact same (by omega)
  split at read
  next plus =>
    cases read
    exact ⟨by decide, beq_iff_eq.mp plus⟩
  split at read
  next slash =>
    cases read
    exact ⟨by decide, beq_iff_eq.mp slash⟩
  next => cases read

/-- How data may end, by the number of symbols in its last group: any padding follows whole groups. -/
inductive Closing : Nat → List Char → Prop
  | whole (extra : Nat) : Closing 0 (List.replicate extra '=')
  | two : Closing 2 ['=', '=']
  | three : Closing 3 ['=']

namespace Reader

variable {reader : Reader} {text : List Char} {data : List UInt8}

/-- After padding where no group could end, only padding that follows whole groups is read. -/
theorem run_padded (early : reader.place < 2) (padded : reader.padded = true) :
    reader.run text = .ok data ↔ reader.place = 0 ∧ (∀ c ∈ text, c = '=') ∧ reader.bytes.reverse = data := by
  induction text with
  | nil =>
    have places : reader.place = 0 ∨ reader.place = 1 := by omega
    rcases places with place | place <;> simp [run, place]
  | cons c rest ih =>
    have same : { reader with padded := true } = reader := by rw [← padded]
    by_cases padding : c = '='
    · simp [run, padding, early, same, ih]
    · simp only [run, beq_eq_false_iff_ne.mpr padding, Bool.false_eq_true, if_false, padded, if_true]
      cases value? c <;> simp [padding]

private theorem run_half_padded (place : reader.place = 2) (padded : reader.padded = true) (half : reader.paddings = 1)
    (read : reader.run text = .ok data) : text = ['='] ∧ reader.bytes.reverse = data := by
  cases text with
  | nil => simp [run, place] at read
  | cons c rest =>
    by_cases padding : c = '='
    · cases rest with
      | nil => simpa [run, padding, place, half] using read
      | cons => simp [run, padding, place, half] at read
    · simp only [run, beq_eq_false_iff_ne.mpr padding, Bool.false_eq_true, if_false, padded, if_true] at read
      split at read <;> cases read

/-- A reader closes the data or takes in one symbol more. -/
theorem run_ok (unpadded : reader.padded = false) (fresh : reader.paddings = 0) (inside : reader.place < 4)
    (read : reader.run text = .ok data) :
    (Closing reader.place text ∧ reader.bytes.reverse = data) ∨
      ∃ value < 64, ∃ rest, text = symbol value :: rest ∧ (reader.push value).run rest = .ok data := by
  obtain ⟨place, carry, paddings, padded, bytes⟩ := reader
  dsimp only at unpadded fresh inside ⊢
  subst unpadded fresh
  have places : place = 0 ∨ place = 1 ∨ place = 2 ∨ place = 3 := by omega
  cases text with
  | nil =>
    left
    rcases places with rfl | rfl | rfl | rfl
    · exact ⟨.whole 0, by simpa [run] using read⟩
    all_goals simp [run] at read
  | cons c rest =>
    by_cases padding : c = '='
    · left
      subst padding
      rcases places with rfl | rfl | rfl | rfl
      · have later : (Reader.mk 0 carry 0 true bytes).run rest = .ok data := read
        obtain ⟨-, paddings, bytes⟩ := (run_padded Nat.two_pos rfl).mp later
        have all : '=' :: rest = List.replicate (rest.length + 1) '=' := by
          rw [List.replicate_succ, ← List.eq_replicate_of_mem paddings]
        exact ⟨all ▸ .whole _, bytes⟩
      · have later : (Reader.mk 1 carry 0 true bytes).run rest = .ok data := read
        cases ((run_padded Nat.one_lt_two rfl).mp later).1
      · have later : (Reader.mk 2 carry 1 true bytes).run rest = .ok data := read
        obtain ⟨rfl, bytes⟩ := run_half_padded rfl rfl rfl later
        exact ⟨.two, bytes⟩
      · cases rest with
        | nil => exact ⟨.three, by simpa [run] using read⟩
        | cons => simp [run] at read
    · right
      simp only [run, beq_eq_false_iff_ne.mpr padding, Bool.false_eq_true, if_false] at read
      cases known : value? c with
      | none => simp [known] at read
      | some value =>
        obtain ⟨small, rfl⟩ := symbol_of_value known
        exact ⟨value, small, rest, rfl, by simpa [known] using read⟩

end Reader

/-- What is read between groups is loosely written there. -/
theorem loose_of_run {carry : Nat} {bytes : List UInt8} {text : List Char} {data : List UInt8}
    (read : (Reader.mk 0 carry 0 false bytes).run text = .ok data) :
    ∃ later, data = bytes.reverse ++ later ∧ Loose later text := by
  have byte (number : Nat) (small : number < 256) : (UInt8.ofNat number).toNat = number := UInt8.toNat_ofNat_of_lt' small
  induction size : text.length using Nat.strongRecOn generalizing carry bytes text with
  | ind size ih =>
  rcases Reader.run_ok rfl rfl (by simp) read with ⟨closing, rfl⟩ | ⟨v, vSmall, rest, rfl, one⟩
  · cases closing with
    | whole extra => exact ⟨[], by simp, .whole extra⟩
  replace one : (Reader.mk 1 v 0 false bytes).run rest = .ok data := one
  rcases Reader.run_ok rfl rfl (by simp) one with ⟨closing, -⟩ | ⟨w, wSmall, rest, rfl, two⟩
  · cases closing
  have first := byte (v * 4 + w / 16) (by omega)
  replace two : (Reader.mk 2 (w % 16) 0 false (UInt8.ofNat (v * 4 + w / 16) :: bytes)).run rest = .ok data := two
  generalize UInt8.ofNat (v * 4 + w / 16) = a at first two
  obtain rfl : v = a.toNat / 4 := by omega
  rcases Reader.run_ok rfl rfl (by simp) two with ⟨closing, rfl⟩ | ⟨x, xSmall, rest, rfl, three⟩
  · cases closing with
    | two =>
      have spare : w = a.toNat % 4 * 16 + w % 16 := by omega
      refine ⟨[a], by simp, ?_⟩
      rw [spare]
      exact .one a (Nat.mod_lt _ (by decide))
  have second := byte (w % 16 * 16 + x / 4) (by omega)
  replace three : (Reader.mk 3 (x % 4) 0 false (UInt8.ofNat (w % 16 * 16 + x / 4) :: a :: bytes)).run rest = .ok data :=
    three
  generalize UInt8.ofNat (w % 16 * 16 + x / 4) = b at second three
  obtain rfl : w = a.toNat % 4 * 16 + b.toNat / 16 := by omega
  rcases Reader.run_ok rfl rfl (by simp) three with ⟨closing, rfl⟩ | ⟨y, ySmall, rest, rfl, four⟩
  · cases closing with
    | three =>
      have spare : x = b.toNat % 16 * 4 + x % 4 := by omega
      refine ⟨[a, b], by simp, ?_⟩
      rw [spare]
      exact .two a b (Nat.mod_lt _ (by decide))
  have third := byte (x % 4 * 64 + y) (by omega)
  replace four : (Reader.mk 0 0 0 false (UInt8.ofNat (x % 4 * 64 + y) :: b :: a :: bytes)).run rest = .ok data := four
  generalize UInt8.ofNat (x % 4 * 64 + y) = c at third four
  obtain rfl : x = b.toNat % 16 * 4 + c.toNat / 64 := by omega
  obtain rfl : y = c.toNat % 64 := by omega
  obtain ⟨later, rfl, loose⟩ := ih rest.length (by simp [← size]; omega) four rfl
  exact ⟨a :: b :: c :: later, by simp, .group a b c loose⟩

/-- The reader takes exactly what is loosely written, unless it begins with padding. -/
theorem decode_ok_iff {text : List Char} {data : List UInt8} :
    decode text = .ok data ↔ text.head? ≠ some '=' ∧ Loose data text := by
  constructor
  · intro read
    unfold decode at read
    split at read
    · cases read
    split at read
    · cases read
    next started =>
      obtain ⟨later, rfl, loose⟩ := loose_of_run read
      exact ⟨fun padding => started (beq_iff_eq.mpr padding), loose⟩
  · rintro ⟨started, loose⟩
    exact decode_loose started loose

/-- No more padding than fills the last group, and no bits in the last symbol that this padding cuts off. -/
def Tight (text : List Char) : Prop :=
  text.count '=' = (4 - (text.filter (· != '=')).length % 4) % 4 ∧
    ∀ value ∈ (text.filter (· != '=')).getLast?.bind value?, 4 ^ text.count '=' ∣ value

private theorem symbol_inj {value other : Nat} (small : value < 64) (otherSmall : other < 64) :
    symbol value = symbol other ↔ value = other := by
  refine ⟨fun same => ?_, congrArg symbol⟩
  have read := value_symbol small
  rw [same, value_symbol otherSmall] at read
  exact (Option.some.inj read).symm

private theorem tight_written {digits : List Nat} (small : ∀ digit ∈ digits, digit < 64) (paddings : Nat) :
    Tight (digits.map symbol ++ List.replicate paddings '=') ↔
      paddings = (4 - digits.length % 4) % 4 ∧ ∀ digit ∈ digits.getLast?, 4 ^ paddings ∣ digit := by
  have kept : (digits.map symbol ++ List.replicate paddings '=').filter (· != '=') = digits.map symbol := by
    have symbols : (digits.map symbol).filter (· != '=') = digits.map symbol := by
      rw [List.filter_eq_self]
      intro c member
      obtain ⟨digit, present, rfl⟩ := List.mem_map.mp member
      exact bne_iff_ne.mpr (symbol_ne_padding (small digit present))
    simp [symbols]
  have counted : (digits.map symbol ++ List.replicate paddings '=').count '=' = paddings := by
    have none : (digits.map symbol).count '=' = 0 := by
      rw [List.count_eq_zero]
      intro member
      obtain ⟨digit, present, padding⟩ := List.mem_map.mp member
      exact symbol_ne_padding (small digit present) padding
    rw [List.count_append, none, List.count_replicate_self, Nat.zero_add]
  have last : (digits.map symbol).getLast?.bind value? = digits.getLast? := by
    rw [List.getLast?_map]
    cases shape : digits.getLast? with
    | none => rfl
    | some digit => exact value_symbol (small digit (List.mem_of_getLast? shape))
  rw [Tight, kept, counted, last, List.length_map]

/-- What goes before has no say in how tightly the last group is written. -/
theorem Loose.tight_group {data : List UInt8} {text : List Char} (rest : Loose data text) {v w x y : Nat}
    (vSmall : v < 64) (wSmall : w < 64) (xSmall : x < 64) (ySmall : y < 64) :
    Tight (symbol v :: symbol w :: symbol x :: symbol y :: text) ↔ Tight text := by
  obtain ⟨digits, paddings, rfl, small⟩ := rest.written
  have more : ∀ digit ∈ v :: w :: x :: y :: digits, digit < 64 := by
    simp only [List.forall_mem_cons]
    exact ⟨vSmall, wSmall, xSmall, ySmall, small⟩
  have length : (digits.length + 4) % 4 = digits.length % 4 := Nat.add_mod_right _ _
  rw [tight_written small]
  refine (tight_written more paddings).trans ?_
  simp only [List.length_cons, length]
  refine and_congr_right fun filled => ?_
  cases digits with
  | nil =>
    obtain rfl : paddings = 0 := filled
    simp
  | cons => simp only [List.getLast?_cons_cons]

/-- The encoding is the one tight text among those that say the same. -/
theorem Loose.tight_iff {data : List UInt8} {text : List Char} (loose : Loose data text) :
    Tight text ↔ encode data = text := by
  induction loose with
  | whole extra => simp [Tight, encode]
  | @one a spare small =>
    have bound := a.toNat_lt
    have tight : Tight [symbol (a.toNat / 4), symbol (a.toNat % 4 * 16 + spare), '=', '='] ↔
      16 ∣ a.toNat % 4 * 16 + spare := by
      have written := @tight_written [a.toNat / 4, a.toNat % 4 * 16 + spare] (by simp; omega) 2
      simpa using written
    rw [tight, encode, List.cons_inj_right, List.cons.injEq, symbol_inj (by omega) (by omega)]
    simp only [and_true]
    omega
  | @two a b spare small =>
    have bounds := And.intro a.toNat_lt b.toNat_lt
    have tight : Tight [symbol (a.toNat / 4), symbol (a.toNat % 4 * 16 + b.toNat / 16),
        symbol (b.toNat % 16 * 4 + spare), '='] ↔ 4 ∣ b.toNat % 16 * 4 + spare := by
      have written := @tight_written [a.toNat / 4, a.toNat % 4 * 16 + b.toNat / 16, b.toNat % 16 * 4 + spare]
        (by simp; omega) 1
      simpa using written
    rw [tight, encode, List.cons_inj_right, List.cons_inj_right, List.cons.injEq, symbol_inj (by omega) (by omega)]
    simp only [and_true]
    omega
  | group a b c rest ih =>
    have bounds := And.intro a.toNat_lt (And.intro b.toNat_lt c.toNat_lt)
    rw [rest.tight_group (by omega) (by omega) (by omega) (by omega), ih]
    simp only [encode, List.cons_inj_right]

end Codec.Base64

namespace Event
open Codec.Base64

/-- A chunk is read exactly if it says the same as the chunk of some data and does not begin with padding, and what is
read is that data. Every other text is a fault of its value. The text is the chunk of that data itself if and only if it
has no padding beyond the last group and no spare bits. -/
theorem chunks_recognised (text : String) (data : List UInt8) :
    (decodeChunk (.chunk text) = .ok data ↔ text.toList.head? ≠ some '=' ∧ Loose data text.toList) ∧
    (decodeChunk (.chunk text) = .ok data ∧ Tight text.toList ↔ encodeChunk data = .chunk text) ∧
    ((∃ data, decodeChunk (.chunk text) = .ok data) ∨
      ∃ error message, decodeChunk (.chunk text) = .error error ∧ error.failure = .fault .value message) := by
  have read_iff (data : List UInt8) : decodeChunk (.chunk text) = .ok data ↔ decode text.toList = .ok data := by
    rw [decodeChunk]
    cases decode text.toList with
    | ok read => exact ⟨fun same => congrArg _ (Except.ok.inj same), fun same => congrArg _ (Except.ok.inj same)⟩
    | error fault => exact iff_of_false (by rintro ⟨⟩) (by rintro ⟨⟩)
  refine ⟨(read_iff data).trans decode_ok_iff, ?_, ?_⟩
  · rw [read_iff, decode_ok_iff]
    constructor
    · rintro ⟨⟨-, loose⟩, tight⟩
      rw [encodeChunk, loose.tight_iff.mp tight, String.ofList_toList]
    · intro written
      obtain rfl : String.ofList (encode data) = text := Payload.chunk.inj written
      rw [String.toList_ofList]
      exact ⟨⟨head_encode data, loose_encode data⟩, (loose_encode data).tight_iff.mpr rfl⟩
  · cases read : decodeChunk (.chunk text) with
    | ok data => exact .inl ⟨data, rfl⟩
    | error error => exact .inr ⟨error, error.message, rfl, rfl⟩

/-- Padding may follow a whole group, and the last symbol may have spare bits set; neither text is the chunk of anything. -/
theorem chunks_recognised_fails :
    (decodeChunk (.chunk "AAAA=") = .ok [0, 0, 0] ∧ ∀ data, encodeChunk data ≠ .chunk "AAAA=") ∧
    decodeChunk (.chunk "AB==") = .ok [0] ∧ ∀ data, encodeChunk data ≠ .chunk "AB==" := by
  have padded : decode "AAAA=".toList = .ok [0, 0, 0] := rfl
  have spare : decode "AB==".toList = .ok [0] := rfl
  have unwritten {text : String} {read : List UInt8} (reads : decode text.toList = .ok read)
      (other : encode read ≠ text.toList) (data : List UInt8) : encodeChunk data ≠ .chunk text := by
    intro written
    have same : String.ofList (encode data) = text := Payload.chunk.inj written
    rw [← same, String.toList_ofList, decode_encode] at reads
    cases reads
    rw [← same, String.toList_ofList] at other
    exact other rfl
  refine ⟨⟨?_, unwritten padded (by decide)⟩, ?_, unwritten spare (by decide)⟩
  · rw [decodeChunk, padded]
    rfl
  · rw [decodeChunk, spare]
    rfl

end Event

end TerminalDock
