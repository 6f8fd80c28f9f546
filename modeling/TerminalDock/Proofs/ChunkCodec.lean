import Mathlib.Algebra.Group.Nat.Defs
import TerminalDock.Event.Chunk

/-! Encoded data reads back as it was: whatever bytes are put into a chunk come out of it again. So does what is written
more loosely, with spare bits set in the last symbol or with padding after whole groups. What is written is the standard
form: the data as one number, in digits of six bits and with the characters of the alphabet, padded to whole groups of
four. -/

namespace TerminalDock

namespace Codec.Base64

theorem value_symbol {value : Nat} (small : value < 64) : value? (symbol value) = some value := by
  have each : ∀ value : Fin 64, value? (symbol value) = some value.val := by decide
  exact each ⟨value, small⟩

theorem symbol_ne_padding {value : Nat} (small : value < 64) : symbol value ≠ '=' := by
  intro padding
  have read := value_symbol small
  rw [padding] at read
  have none : value? '=' = none := by decide
  rw [none] at read
  cases read

private theorem symbol_ascii {value : Nat} (small : value < 64) : (symbol value).toNat < 128 := by
  have each : ∀ value : Fin 64, (symbol value).toNat < 128 := by decide
  exact each ⟨value, small⟩

/-- A text that says the same as the encoding of data, group by group. The last symbol may have spare bits set, and any
padding may follow whole groups. -/
inductive Loose : List UInt8 → List Char → Prop
  | whole (extra : Nat) : Loose [] (List.replicate extra '=')
  | one (a : UInt8) {spare : Nat} (small : spare < 16) :
    Loose [a] [symbol (a.toNat / 4), symbol (a.toNat % 4 * 16 + spare), '=', '=']
  | two (a b : UInt8) {spare : Nat} (small : spare < 4) :
    Loose [a, b] [symbol (a.toNat / 4), symbol (a.toNat % 4 * 16 + b.toNat / 16), symbol (b.toNat % 16 * 4 + spare), '=']
  | group (a b c : UInt8) {data : List UInt8} {text : List Char} (rest : Loose data text) :
    Loose (a :: b :: c :: data) (symbol (a.toNat / 4) :: symbol (a.toNat % 4 * 16 + b.toNat / 16) ::
      symbol (b.toNat % 16 * 4 + c.toNat / 64) :: symbol (c.toNat % 64) :: text)

theorem loose_encode (data : List UInt8) : Loose data (encode data) := by
  induction data using encode.induct with
  | case1 => exact .whole 0
  | case2 a => exact .one a (by decide : 0 < 16)
  | case3 a b => exact .two a b (by decide : 0 < 4)
  | case4 a b c rest ih => exact .group a b c ih

theorem Loose.written {data : List UInt8} {text : List Char} (loose : Loose data text) :
    ∃ (digits : List Nat) (paddings : Nat), text = digits.map symbol ++ List.replicate paddings '=' ∧
      ∀ digit ∈ digits, digit < 64 := by
  induction loose with
  | whole extra => exact ⟨[], extra, rfl, nofun⟩
  | @one a spare small =>
    have bound := a.toNat_lt
    exact ⟨[_, _], 2, rfl, by simp; omega⟩
  | @two a b spare small =>
    have bounds := And.intro a.toNat_lt b.toNat_lt
    exact ⟨[_, _, _], 1, rfl, by simp; omega⟩
  | group a b c rest ih =>
    have bounds := And.intro a.toNat_lt (And.intro b.toNat_lt c.toNat_lt)
    obtain ⟨digits, paddings, rfl, small⟩ := ih
    refine ⟨_ :: _ :: _ :: _ :: digits, paddings, rfl, ?_⟩
    simp only [List.forall_mem_cons]
    exact ⟨by omega, by omega, by omega, by omega, small⟩

theorem Loose.ascii {data : List UInt8} {text : List Char} (loose : Loose data text) :
    (text.any fun c => 128 ≤ c.toNat) = false := by
  obtain ⟨digits, paddings, rfl, small⟩ := loose.written
  rw [List.any_eq_false]
  intro c member
  rcases List.mem_append.mp member with symbols | padding
  · obtain ⟨digit, present, rfl⟩ := List.mem_map.mp symbols
    have plain := symbol_ascii (small digit present)
    simpa using plain
  · rw [List.eq_of_mem_replicate padding]
    decide

theorem head_encode (data : List UInt8) : (encode data).head? ≠ some '=' := by
  have plain (a : UInt8) : symbol (a.toNat / 4) ≠ '=' := by
    have := a.toNat_lt
    exact symbol_ne_padding (by omega)
  cases data using encode.induct with
  | case1 => exact nofun
  | case2 a | case3 a _ | case4 a _ _ _ => simpa [encode] using plain a

namespace Reader

private theorem run_symbol {reader : Reader} {value : Nat} (small : value < 64) (unpadded : reader.padded = false)
    (rest : List Char) : reader.run (symbol value :: rest) = (reader.push value).run rest := by
  have plain : (symbol value == '=') = false := beq_eq_false_iff_ne.mpr (symbol_ne_padding small)
  simp [run, plain, value_symbol small, unpadded]

private theorem byte_of {byte : UInt8} {number : Nat} (same : number = byte.toNat) : UInt8.ofNat number = byte := by
  rw [same, UInt8.ofNat_toNat]

/-- A reader that stands between groups reads what is loosely written, and nothing else. -/
theorem run_loose {data : List UInt8} {text : List Char} (loose : Loose data text) {reader : Reader}
    (between : reader.place = 0) (unpadded : reader.padded = false) :
    reader.run text = .ok (reader.bytes.reverse ++ data) := by
  induction loose generalizing reader with
  | whole extra =>
    rw [List.append_nil]
    clear unpadded
    induction extra generalizing reader with
    | zero => simp [run, between]
    | succ extra ih => simpa [run, between, List.replicate_succ] using @ih { reader with padded := true } between
  | @one a spare small =>
    have bound := a.toNat_lt
    have first : UInt8.ofNat (a.toNat / 4 * 4 + (a.toNat % 4 * 16 + spare) / 16) = a := byte_of (by omega)
    rw [run_symbol (by omega) unpadded, run_symbol (by omega) (by simp [push, between, unpadded])]
    simp only [push, between, first]
    simp [run]
  | @two a b spare small =>
    have bounds := And.intro a.toNat_lt b.toNat_lt
    have first : UInt8.ofNat (a.toNat / 4 * 4 + (a.toNat % 4 * 16 + b.toNat / 16) / 16) = a := byte_of (by omega)
    have second : UInt8.ofNat ((a.toNat % 4 * 16 + b.toNat / 16) % 16 * 16 + (b.toNat % 16 * 4 + spare) / 4) = b :=
      byte_of (by omega)
    rw [run_symbol (by omega) unpadded, run_symbol (by omega) (by simp [push, between, unpadded]),
      run_symbol (by omega) (by simp [push, between, unpadded])]
    simp only [push, between, first, second]
    simp [run]
  | group a b c rest ih =>
    have bounds := And.intro a.toNat_lt (And.intro b.toNat_lt c.toNat_lt)
    have first : UInt8.ofNat (a.toNat / 4 * 4 + (a.toNat % 4 * 16 + b.toNat / 16) / 16) = a := byte_of (by omega)
    have second : UInt8.ofNat ((a.toNat % 4 * 16 + b.toNat / 16) % 16 * 16 + (b.toNat % 16 * 4 + c.toNat / 64) / 4) = b :=
      byte_of (by omega)
    have third : UInt8.ofNat ((b.toNat % 16 * 4 + c.toNat / 64) % 4 * 64 + c.toNat % 64) = c := byte_of (by omega)
    rw [run_symbol (by omega) unpadded, run_symbol (by omega) (by simp [push, between, unpadded]),
      run_symbol (by omega) (by simp [push, between, unpadded]), run_symbol (by omega) (by simp [push, between, unpadded]),
      ih (by simp [push, between]) (by simp [push, between, unpadded])]
    simp only [push, between, first, second, third]
    simp

end Reader

theorem decode_loose {data : List UInt8} {text : List Char} (started : text.head? ≠ some '=') (loose : Loose data text) :
    decode text = .ok data := by
  have leading : (text.head? == some '=') = false := beq_eq_false_iff_ne.mpr started
  rw [decode, loose.ascii, leading]
  exact Reader.run_loose loose rfl rfl

theorem decode_encode (data : List UInt8) : decode (encode data) = .ok data :=
  decode_loose (head_encode data) (loose_encode data)

def alphabet : List Char :=
  "ABCDEFGHIJKLMNOPQRSTUVWXYZabcdefghijklmnopqrstuvwxyz0123456789+/".toList

private theorem alphabet_symbol {value : Nat} (small : value < 64) : alphabet[value]? = some (symbol value) := by
  have each : ∀ value : Fin 64, alphabet[value.val]? = some (symbol value.val) := by decide +kernel
  exact each ⟨value, small⟩

/-- Digits as one number, the first digit counting most. -/
def number (base : Nat) (digits : List Nat) : Nat :=
  digits.foldl (fun sum digit => sum * base + digit) 0

/-- The standard form of data: the last digits are filled up with zero bits, two for each padding. -/
structure Standard (data : List UInt8) (digits : List Nat) (padding : Nat) (text : List Char) : Prop where
  written : text.map some = digits.map (alphabet[·]?) ++ List.replicate padding (some '=')
  small : ∀ digit ∈ digits, digit < 64
  whole : text.length = 4 * ((data.length + 2) / 3)
  padded : padding = (3 - data.length % 3) % 3
  same : number 64 digits = number 256 (data.map UInt8.toNat) * 4 ^ padding

def digits : List UInt8 → List Nat
  | [] => []
  | [a] => [a.toNat / 4, a.toNat % 4 * 16]
  | [a, b] => [a.toNat / 4, a.toNat % 4 * 16 + b.toNat / 16, b.toNat % 16 * 4]
  | a :: b :: c :: rest =>
    a.toNat / 4 :: (a.toNat % 4 * 16 + b.toNat / 16) :: (b.toNat % 16 * 4 + c.toNat / 64) :: c.toNat % 64 :: digits rest

private theorem digits_small (data : List UInt8) : ∀ digit ∈ digits data, digit < 64 := by
  induction data using digits.induct with
  | case1 => simp [digits]
  | case2 a =>
    have bound := a.toNat_lt
    intro digit member
    simp only [digits, List.mem_cons, List.not_mem_nil, or_false] at member
    omega
  | case3 a b =>
    have bounds := And.intro a.toNat_lt b.toNat_lt
    intro digit member
    simp only [digits, List.mem_cons, List.not_mem_nil, or_false] at member
    omega
  | case4 a b c rest ih =>
    have bounds := And.intro a.toNat_lt (And.intro b.toNat_lt c.toNat_lt)
    intro digit member
    simp only [digits, List.mem_cons] at member
    rcases member with first | second | third | fourth | later
    · omega
    · omega
    · omega
    · omega
    · exact ih digit later

def padding (data : List UInt8) : Nat :=
  (3 - data.length % 3) % 3

private theorem encode_digits (data : List UInt8) :
    encode data = (digits data).map symbol ++ List.replicate (padding data) '=' := by
  induction data using digits.induct with
  | case1 | case2 | case3 => rfl
  | case4 a b c rest ih =>
    have same : padding (a :: b :: c :: rest) = padding rest := by
      simp only [padding, List.length_cons]
      omega
    simp [encode, digits, ih, same]

private theorem length_encode (data : List UInt8) : (encode data).length = 4 * ((data.length + 2) / 3) := by
  induction data using encode.induct with
  | case1 => rfl
  | case2 | case3 => simp [encode]
  | case4 a b c rest ih =>
    simp only [encode, List.length_cons, ih]
    omega

/-- Whatever number stands before, digits and bytes continue it alike. -/
theorem number_digits (data : List UInt8) (before : Nat) :
    (digits data).foldl (fun sum digit => sum * 64 + digit) before =
      (data.map UInt8.toNat).foldl (fun sum digit => sum * 256 + digit) before * 4 ^ padding data := by
  induction data using digits.induct generalizing before with
  | case1 => simp [digits, padding]
  | case2 a =>
    have two : padding [a] = 2 := rfl
    simp only [digits, List.map_cons, List.map_nil, List.foldl_cons, List.foldl_nil, two]
    omega
  | case3 a b =>
    have one : padding [a, b] = 1 := rfl
    simp only [digits, List.map_cons, List.map_nil, List.foldl_cons, List.foldl_nil, one]
    omega
  | case4 a b c rest ih =>
    have same : padding (a :: b :: c :: rest) = padding rest := by
      simp only [padding, List.length_cons]
      omega
    have group : (((before * 64 + a.toNat / 4) * 64 + (a.toNat % 4 * 16 + b.toNat / 16)) * 64 +
        (b.toNat % 16 * 4 + c.toNat / 64)) * 64 + c.toNat % 64 =
          ((before * 256 + a.toNat) * 256 + b.toNat) * 256 + c.toNat := by omega
    simp only [digits, List.map_cons, List.foldl_cons, same, ← group]
    exact ih _

private theorem standard_encode (data : List UInt8) : Standard data (digits data) (padding data) (encode data) where
  written := by
    have symbols : (digits data).map (alphabet[·]?) = (digits data).map fun digit => some (symbol digit) :=
      List.map_congr_left fun digit member => alphabet_symbol (digits_small data digit member)
    rw [encode_digits, symbols]
    simp
  small := digits_small data
  whole := length_encode data
  padded := rfl
  same := number_digits data 0

end Codec.Base64

namespace Event
open Codec.Base64

theorem decodeChunk_encodeChunk (bytes : List UInt8) : decodeChunk (encodeChunk bytes) = .ok bytes := by
  rw [encodeChunk, decodeChunk, String.toList_ofList, Codec.Base64.decode_encode]
  rfl

/-- Whatever the data, its chunk is written in the standard form and reads back as it was. -/
theorem chunk_round_trip (data : List UInt8) :
    ∃ text digits padding, encodeChunk data = .chunk text ∧ Standard data digits padding text.toList ∧
      decodeChunk (.chunk text) = .ok data := by
  refine ⟨String.ofList (encode data), digits data, padding data, rfl, ?_, decodeChunk_encodeChunk data⟩
  rw [String.toList_ofList]
  exact standard_encode data

end Event

end TerminalDock
