import TerminalDock.Proofs.JsonCodec
import TerminalDock.Proofs.TypedNumbers
import TerminalDock.Theme.Color

/-! What colour a text stands for: the one that it names, the six characters that a hexadecimal number begins with, or the
one at a place of the table. Whatever a theme gives for a text is a sign and six digits, unless the number is spelled with
more than digits or the place lies outside the table. -/

namespace TerminalDock

namespace Text

def hexAlphabet : List Char := "0123456789abcdef".toList

private theorem mem_alphabet {c : Char} {value : Nat} (member : c ∈ hexDigits value) : c ∈ hexAlphabet := by
  have listed : ∀ digit < 16, hexDigit digit ∈ hexAlphabet := by decide
  obtain ⟨digit, small, rfl⟩ := mem_hexDigits member
  exact listed digit small

private theorem length_hexDigits_le (value places : Nat) :
    (hexDigits value).length ≤ places + 1 ↔ value < 16 ^ (places + 1) := by
  induction places generalizing value with
  | zero =>
    rw [hexDigits]
    split
    next small => simpa using small
    next large =>
      have filled : 0 < (hexDigits (value / 16)).length := by
        rw [hexDigits]
        split <;> simp
      rw [List.length_append, List.length_singleton]
      omega
  | succ places ih =>
    rw [hexDigits, Nat.pow_succ]
    split
    next small =>
      have one : 1 ≤ 16 ^ (places + 1) := Nat.one_le_pow _ _ (by decide)
      simp only [List.length_singleton]
      omega
    next =>
      rw [List.length_append, List.length_singleton, Nat.add_le_add_iff_right, ih, Nat.div_lt_iff_lt_mul (by decide)]

private theorem hexadecimal_of_alphabet {text : List Char} (filled : text ≠ [])
    (plain : ∀ c ∈ text, c ∈ hexAlphabet) : Hexadecimal text := by
  have listed : hexAlphabet.all (fun c => (digitIn? 16 c).isSome) = true := by decide
  have run : ∃ digits, Run 16 text digits := by
    induction text with
    | nil => exact absurd rfl filled
    | cons c rest ih =>
      obtain ⟨digit, first⟩ := Option.isSome_iff_exists.mp (List.all_eq_true.mp listed c (plain c List.mem_cons_self))
      cases rest with
      | nil => exact ⟨[digit], .last first⟩
      | cons d more =>
        obtain ⟨digits, run⟩ := ih (List.cons_ne_nil d more) fun c member => plain c (List.mem_cons_of_mem _ member)
        exact ⟨digit :: digits, .next first run⟩
  obtain ⟨digits, run⟩ := run
  have whole : text = [] ++ ([] ++ ([] ++ text) ++ []) := by simp
  rw [whole]
  exact .mk (fun _ member => absurd member List.not_mem_nil) .bare .bare run fun _ member => absurd member List.not_mem_nil

end Text

namespace Theme
open Text

/-- A sign and six hexadecimal digits in lower case. -/
def Formed (color : String) : Prop :=
  color.toList.head? = some '#' ∧ color.toList.length = 7 ∧ ∀ c ∈ color.toList.drop 1, c ∈ hexAlphabet

instance (color : String) : Decidable (Formed color) :=
  haveI : Decidable (∀ c ∈ color.toList.drop 1, c ∈ hexAlphabet) := List.decidableBAll _ _
  inferInstanceAs (Decidable (_ ∧ _))

private theorem formed_ofList {digits : List Char} :
    Formed (String.ofList ('#' :: digits)) ↔ digits.length = 6 ∧ ∀ c ∈ digits, c ∈ hexAlphabet := by
  simp [Formed]

/-- Sixteen colours of its own, all of that form. -/
structure Complete (theme : Theme) : Prop where
  count : theme.ansi.length = 16
  formed : ∀ color ∈ theme.ansi, Formed color

private theorem ofScheme_complete (scheme : String) : (ofScheme scheme).Complete := by
  have both : (light.ansi.length = 16 ∧ ∀ color ∈ light.ansi, Formed color) ∧
      dark.ansi.length = 16 ∧ ∀ color ∈ dark.ansi, Formed color := by decide +kernel
  unfold ofScheme
  split
  · exact ⟨both.1.1, both.1.2⟩
  · exact ⟨both.2.1, both.2.2⟩

theorem mem_component {c : Char} {value : Nat} (member : c ∈ component value) : c ∈ hexAlphabet := by
  rcases List.mem_append.mp member with zero | digit
  · rw [List.eq_of_mem_replicate zero]
    decide
  · exact mem_alphabet digit

theorem two_le_component (value : Nat) : 2 ≤ (component value).length := by
  rw [component, padZeros, List.length_append, List.length_replicate]
  omega

private theorem length_component_eq (value : Nat) : (component value).length = 2 ↔ value < 256 := by
  have digits := length_hexDigits_le value 1
  rw [component, padZeros, List.length_append, List.length_replicate]
  omega

private theorem formed_ofParts {red green blue : Nat} :
    Formed (ofParts red green blue) ↔ red < 256 ∧ green < 256 ∧ blue < 256 := by
  have least := And.intro (two_le_component red) (And.intro (two_le_component green) (two_le_component blue))
  rw [ofParts, formed_ofList, ← length_component_eq, ← length_component_eq, ← length_component_eq]
  simp only [List.length_append]
  constructor
  · rintro ⟨six, -⟩
    omega
  · intro two
    refine ⟨by omega, ?_⟩
    intro c member
    simp only [List.mem_append] at member
    rcases member with (first | second) | third
    · exact mem_component first
    · exact mem_component second
    · exact mem_component third

/-- What stands at a place of the table: the sixteen colours, which are also counted from the end, all mixtures of six
strengths of red, green and blue, and greys of which there is no last one. -/
inductive Stands (theme : Theme) : Int → Except ColorError String → Prop
  | before {place : Int} (early : place < -16) : Stands theme place (.error .outOfRange)
  | fromEnd {place : Nat} {color : String} (inside : place < 16) (there : theme.ansi[place]? = some color) :
      Stands theme (place - 16) (.ok color)
  | own {place : Nat} {color : String} (there : theme.ansi[place]? = some color) : Stands theme place (.ok color)
  | cube {red green blue : Nat} (red' : red < 6) (green' : green < 6) (blue' : blue < 6) :
      Stands theme (16 + 36 * red + 6 * green + blue) (.ok (ofParts (red * 51) (green * 51) (blue * 51)))
  | gray (step : Nat) : Stands theme (232 + step) (.ok (ofParts (step * 10 + 8) (step * 10 + 8) (step * 10 + 8)))

private theorem ansiAt_of_there {theme : Theme} {place : Nat} {color : String} (there : theme.ansi[place]? = some color) :
    theme.ansiAt place = .ok color := by
  have upward : ¬(place : Int) < 0 := by omega
  rw [ansiAt]
  simp only [upward, if_false, Int.toNat_natCast, there]

section
variable {theme : Theme} (complete : theme.Complete)
include complete

theorem Complete.there {place : Nat} (inside : place < 16) : ∃ color, theme.ansi[place]? = some color :=
  ⟨_, List.getElem?_eq_getElem (complete.count.symm ▸ inside)⟩

theorem Complete.inside {place : Nat} {color : String} (there : theme.ansi[place]? = some color) : place < 16 := by
  have bound := (List.getElem?_eq_some_iff.mp there).1
  rwa [complete.count] at bound

theorem Complete.ansiAt_negative {place : Int} (negative : place < 0) : theme.ansiAt place =
    if place + 16 < 0 then .error .outOfRange else theme.ansiAt (place + 16).toNat := by
  have count : (theme.ansi.length : Int) = 16 := congrArg Nat.cast complete.count
  have upward : ¬((place + 16).toNat : Int) < 0 := by omega
  rw [Theme.ansiAt, Theme.ansiAt]
  simp only [negative, if_true, count, upward, if_false, Int.toNat_natCast]

theorem Complete.stands (place : Int) : Stands theme place (theme.indexed place) := by
  rw [indexed]
  split
  next small =>
    by_cases negative : place < 0
    · rw [complete.ansiAt_negative negative]
      split
      next early => exact .before (by omega)
      next =>
        obtain ⟨shifted, rfl⟩ : ∃ shifted : Nat, place = shifted - 16 := ⟨(place + 16).toNat, by omega⟩
        have inside : shifted < 16 := by omega
        obtain ⟨color, there⟩ := complete.there inside
        rw [Int.sub_add_cancel, Int.toNat_natCast, ansiAt_of_there there]
        exact .fromEnd inside there
    · obtain ⟨place, rfl⟩ := Int.eq_ofNat_of_zero_le (Int.not_lt.mp negative)
      obtain ⟨color, there⟩ := complete.there (Int.ofNat_lt.mp small)
      rw [ansiAt_of_there there]
      exact .own there
  next large =>
    split
    next =>
      obtain ⟨behind, rfl⟩ : ∃ behind : Nat, place = 16 + behind := ⟨(place - 16).toNat, by omega⟩
      have same : (16 + behind : Int) = 16 + 36 * (behind / 36 : Nat) + 6 * (behind / 6 % 6 : Nat) +
        (behind % 6 : Nat) := by omega
      have reached : (16 + behind - 16 : Int).toNat = behind := by omega
      rw [reached, same]
      exact .cube (by omega) (by omega) (by omega)
    next =>
      obtain ⟨step, rfl⟩ : ∃ step : Nat, place = 232 + step := ⟨(place - 232).toNat, by omega⟩
      have reached : (232 + step - 232 : Int).toNat = step := by omega
      rw [reached]
      exact .gray step

/-- From the sixteenth place before the table to the grey behind its last one, colours have the right form. -/
theorem Stands.formed_iff {place : Int} {result : Except ColorError String} (stands : Stands theme place result) :
    (∃ color, result = .ok color ∧ Formed color) ↔ -16 ≤ place ∧ place ≤ 256 := by
  cases stands with
  | before early =>
    constructor
    · rintro ⟨color, failed, -⟩
      cases failed
    · intro inside
      omega
  | fromEnd inside there => exact ⟨fun _ => by omega, fun _ => ⟨_, rfl, complete.formed _ (List.mem_of_getElem? there)⟩⟩
  | own there =>
    have inside := complete.inside there
    exact ⟨fun _ => by omega, fun _ => ⟨_, rfl, complete.formed _ (List.mem_of_getElem? there)⟩⟩
  | cube => exact ⟨fun _ => by omega, fun _ => ⟨_, rfl, formed_ofParts.mpr (by omega)⟩⟩
  | gray step =>
    constructor
    · rintro ⟨color, same, formed⟩
      cases same
      have small := formed_ofParts.mp formed
      omega
    · intro inside
      exact ⟨_, rfl, formed_ofParts.mpr (by omega)⟩

end

def plainNames : List (String × Nat) := [
  ("black", 0), ("red", 1), ("green", 2), ("brown", 3), ("yellow", 3), ("blue", 4), ("magenta", 5), ("cyan", 6),
    ("white", 7)]

/-- The names of the sixteen colours, one of them with two. -/
def colorNames : List (String × Nat) :=
  plainNames ++ plainNames.map fun (name, place) => ("bright" ++ name, place + 8)

inductive Meaning
  | nothing
  | own (place : Nat)
  | digits (six : List Char)
  | table (place : Int)

def unsignedWord : List Char → List Char
  | '#' :: word => word
  | word => word

/-- What a text in lower case stands for: the colour that it names; the six characters that it begins with, if they are a
hexadecimal number; the place in the table, if it is shorter and a decimal number; and nothing else. -/
inductive Means (text : List Char) : Meaning → Prop
  | named {name : String} {place : Nat} (known : (name, place) ∈ colorNames) (same : text = name.toList) :
      Means text (.own place)
  | digits (long : 6 ≤ (unsignedWord text).length) (number : Hexadecimal ((unsignedWord text).take 6)) :
      Means text (.digits ((unsignedWord text).take 6))
  | typed {negative : Bool} {digits : List Nat} (short : (unsignedWord text).length < 6)
      (number : Typed (unsignedWord text) negative digits) : Means text (.table (signedNumber negative digits))
  | nothing (unnamed : ∀ entry ∈ colorNames, text ≠ entry.1.toList)
      (noDigits : 6 ≤ (unsignedWord text).length → ¬Hexadecimal ((unsignedWord text).take 6))
      (noNumber : (unsignedWord text).length < 6 → ∀ negative digits, ¬Typed (unsignedWord text) negative digits) :
      Means text .nothing

section
variable {name : String} {place : Nat}

private theorem nameIndex?_known (known : (name, place) ∈ colorNames) : nameIndex? name.toList = some place := by
  have listed : ∀ entry ∈ colorNames, nameIndex? entry.1.toList = some entry.2 := by decide
  exact listed (name, place) known

private theorem plainNames_of_idxOf? {base : String}
    (found : ansiNames.idxOf? (if base == "yellow" then "brown" else base) = some place) : (base, place) ∈ plainNames := by
  obtain ⟨inside, same, -⟩ := List.idxOf?_eq_some_iff.mp found
  have listed : ∀ place (inside : place < ansiNames.length), (ansiNames[place], place) ∈ plainNames := by decide
  split at same
  next yellow =>
    obtain rfl : base = "yellow" := eq_of_beq yellow
    obtain rfl : place = 3 := by
      have only : ∀ place (inside : place < ansiNames.length), ansiNames[place] = "brown" → place = 3 := by decide
      exact only place inside same
    decide
  next => exact same ▸ listed place inside

private theorem nameIndex?_iff {text : List Char} :
    nameIndex? text = some place ↔ ∃ name, (name, place) ∈ colorNames ∧ text = name.toList := by
  constructor
  · intro found
    obtain ⟨base, known, shift⟩ := Option.map_eq_some_iff.mp found
    replace known := plainNames_of_idxOf? known
    split at known
    next bright =>
      obtain ⟨rest, rfl⟩ := List.isPrefixOf_iff_prefix.mp bright
      rw [if_pos bright] at shift
      refine ⟨"bright" ++ String.ofList rest, List.mem_append.mpr (.inr (List.mem_map.mpr ⟨_, known, ?_⟩)), by simp⟩
      rw [← shift]
      rfl
    next plain =>
      rw [if_neg plain] at shift
      exact ⟨String.ofList text, List.mem_append.mpr (.inl (shift ▸ known)), by simp⟩
  · rintro ⟨name, known, rfl⟩
    exact nameIndex?_known known

private theorem names_apart (known : (name, place) ∈ colorNames) :
    integer? 16 ((unsignedWord name.toList).take 6) = none ∧ integer? 10 (unsignedWord name.toList) = none := by
  have listed : ∀ entry ∈ colorNames, integer? 16 ((unsignedWord entry.1.toList).take 6) = none ∧
      integer? 10 (unsignedWord entry.1.toList) = none := by decide
  exact listed (name, place) known

end

private theorem not_hexadecimal {text : List Char} (unread : integer? 16 text = none) : ¬Hexadecimal text := by
  intro number
  have read := integer?_sixteen.mpr number
  rw [unread] at read
  cases read

theorem Means.of_number {text : List Char} {value : Int} (short : (unsignedWord text).length < 6)
    (read : integer? 10 (unsignedWord text) = some value) : Means text (.table value) := by
  obtain ⟨negative, digits, number, rfl⟩ := integer?_iff.mp read
  exact .typed short number

private theorem not_typed {text : List Char} (unread : integer? 10 text = none) (negative : Bool) (digits : List Nat) :
    ¬Typed text negative digits := by
  intro number
  have read := integer?_iff.mpr ⟨negative, digits, number, rfl⟩
  rw [unread] at read
  cases read

theorem Means.unique {text : List Char} {meaning other : Meaning} (means : Means text meaning) (means' : Means text other) :
    other = meaning := by
  cases means with
  | named known same =>
    subst same
    obtain ⟨noDigits, noNumber⟩ := names_apart known
    cases means' with
    | named known' same' =>
      have place' := nameIndex?_known known'
      rw [← same', nameIndex?_known known] at place'
      exact congrArg Meaning.own (Option.some.inj place').symm
    | digits long number => exact absurd number (not_hexadecimal noDigits)
    | typed short number => exact absurd number (not_typed noNumber _ _)
    | nothing unnamed => exact absurd rfl (unnamed _ known)
  | digits long number =>
    cases means' with
    | named known same =>
      subst same
      exact absurd number (not_hexadecimal (names_apart known).1)
    | digits => rfl
    | typed short => omega
    | nothing unnamed noDigits => exact absurd number (noDigits long)
  | typed short number =>
    cases means' with
    | named known same =>
      subst same
      exact absurd number (not_typed (names_apart known).2 _ _)
    | digits long => omega
    | typed short' number' =>
      have first := integer?_iff.mpr ⟨_, _, number, rfl⟩
      have second := integer?_iff.mpr ⟨_, _, number', rfl⟩
      exact congrArg Meaning.table (Option.some.inj (second.symm.trans first))
    | nothing unnamed noDigits noNumber => exact absurd number (noNumber short _ _)
  | nothing unnamed noDigits noNumber =>
    cases means' with
    | named known same => exact absurd same (unnamed _ known)
    | digits long number => exact absurd number (noDigits long)
    | typed short number => exact absurd number (noNumber short _ _)
    | nothing => rfl

def Meaning.answer (theme : Theme) (default : Option String) : Meaning → Except ColorError (Option String)
  | .nothing => .ok default
  | .own place => (theme.ansiAt place).map some
  | .digits six => .ok (some (String.ofList ('#' :: six)))
  | .table place => (theme.indexed place).map some

private theorem unsignedWord_eq (text : List Char) :
    (if text.head? == some '#' then text.drop 1 else text) = unsignedWord text := by
  cases text with
  | nil => rfl
  | cons c rest =>
    by_cases signed : c = '#'
    · subst signed
      rfl
    · simp [unsignedWord, signed]

private theorem color_named {text : String} (other : text ≠ "default") (theme : Theme) (default : Option String) :
    theme.color (.named text) default =
      match nameIndex? (lower text.toList) with
      | some index => (theme.ansiAt index).map some
      | none =>
        let word := unsignedWord (lower text.toList)
        if 6 ≤ word.length then
          .ok (if (integer? 16 (word.take 6)).isSome then some (String.ofList ('#' :: word.take 6)) else default)
        else
          match integer? 10 word with
          | some index => (theme.indexed index).map some
          | none => .ok default := by
  have noDefault : ¬(text == "default") = true := by simpa using other
  rw [← unsignedWord_eq, color]
  exact if_neg noDefault

private theorem unnamed_of {text : List Char} (missing : nameIndex? text = none) :
    ∀ entry ∈ colorNames, text ≠ entry.1.toList := by
  rintro ⟨name, place⟩ known rfl
  rw [nameIndex?_known known] at missing
  cases missing

/-- Every text stands for something, and that is what a theme gives for it. -/
theorem means_answered (text : String) : ∃ meaning, Means (lower text.toList) meaning ∧
    ∀ theme default, color theme (.named text) default = meaning.answer theme default := by
  by_cases isDefault : text = "default"
  · subst isDefault
    refine ⟨.nothing, .nothing (unnamed_of (by decide)) (fun _ => not_hexadecimal (by decide)) ?_, fun _ _ => rfl⟩
    intro short
    exact absurd short (by decide)
  cases named : nameIndex? (lower text.toList) with
  | some place =>
    obtain ⟨name, known, same⟩ := nameIndex?_iff.mp named
    refine ⟨.own place, .named known same, ?_⟩
    intro theme default
    rw [color_named isDefault, named]
    rfl
  | none =>
    have unnamed := unnamed_of named
    by_cases long : 6 ≤ (unsignedWord (lower text.toList)).length
    · by_cases number : Hexadecimal ((unsignedWord (lower text.toList)).take 6)
      · refine ⟨_, .digits long number, ?_⟩
        intro theme default
        simp only [color_named isDefault, named, long, integer?_sixteen.mpr number, if_true, Meaning.answer]
      · refine ⟨_, .nothing unnamed (fun _ => number) (fun short => absurd long (by omega)), ?_⟩
        intro theme default
        have unread := mt integer?_sixteen.mp number
        simp only [color_named isDefault, named, long, unread, if_true, Meaning.answer]
        rfl
    · have short : (unsignedWord (lower text.toList)).length < 6 := by omega
      cases read : integer? 10 (unsignedWord (lower text.toList)) with
      | some value =>
        refine ⟨.table value, .of_number short read, ?_⟩
        intro theme default
        simp only [color_named isDefault, named, long, if_false, read, Meaning.answer]
      | none =>
        refine ⟨_, .nothing unnamed (fun long' => absurd long' long) (fun _ => not_typed read), ?_⟩
        intro theme default
        simp only [color_named isDefault, named, long, if_false, read, Meaning.answer]

private theorem lower_unchanged {text : List Char} (small : ∀ c ∈ text, lowerChar c = [c]) : lower text = text := by
  induction text with
  | nil => rfl
  | cons c rest ih =>
    have later := ih fun c member => small c (List.mem_cons_of_mem _ member)
    rw [lower, List.flatMap_cons, small c List.mem_cons_self, List.singleton_append]
    exact congrArg (c :: ·) later

theorem color_of_formed {given : String} (formed : Formed given) (theme : Theme) (default : Option String) :
    theme.color (.named given) default = .ok (some given) := by
  obtain ⟨digits, shape⟩ := List.head?_eq_some_iff.mp formed.1
  obtain rfl : given = String.ofList ('#' :: digits) := by rw [← shape, String.ofList_toList]
  obtain ⟨count, plain⟩ := formed_ofList.mp formed
  have small : ('#' :: hexAlphabet).all (fun c => lowerChar c == [c]) = true := by decide
  have same : lower ('#' :: digits) = '#' :: digits := by
    apply lower_unchanged
    intro c member
    apply eq_of_beq
    apply List.all_eq_true.mp small c
    rcases List.mem_cons.mp member with rfl | digit
    · exact List.mem_cons_self
    · exact List.mem_cons_of_mem _ (plain c digit)
  have six : digits.take 6 = digits := List.take_of_length_le (by omega)
  have number : Hexadecimal (digits.take 6) := by
    rw [six]
    exact hexadecimal_of_alphabet (List.ne_nil_of_length_pos (by omega)) plain
  have means : Means (lower (String.ofList ('#' :: digits)).toList) (.digits (digits.take 6)) := by
    rw [String.toList_ofList, same]
    exact .digits count.ge number
  obtain ⟨meaning, means', answered⟩ := means_answered (String.ofList ('#' :: digits))
  rw [answered, ← means'.unique means, Meaning.answer, six]

inductive Gives (theme : Theme) (default : Option String) : Meaning → Except ColorError (Option String) → Prop
  | nothing : Gives theme default .nothing (.ok default)
  | own {place : Nat} {color : String} (there : theme.ansi[place]? = some color) :
      Gives theme default (.own place) (.ok (some color))
  | digits {six : List Char} (count : six.length = 6) :
      Gives theme default (.digits six) (.ok (some (String.ofList ('#' :: six))))
  | table {place : Int} {result : Except ColorError String} (stands : Stands theme place result) :
      Gives theme default (.table place) (result.map some)

/-- A request is met with the default or with a colour of the right form. -/
def Proper (default : Option String) (result : Except ColorError (Option String)) : Prop :=
  ∃ color, result = .ok color ∧ (color = default ∨ ∃ own, color = some own ∧ Formed own)

/-- What is met properly: all but numbers that are spelled with other characters than digits, and places that lie too far
before or behind the table. -/
def Meaning.Sound : Meaning → Prop
  | .nothing | .own _ => True
  | .digits six => ∀ c ∈ six, c ∈ hexAlphabet
  | .table place => -16 ≤ place ∧ place ≤ 256

section
variable {theme : Theme} {default : Option String} {text : List Char} {meaning : Meaning}

theorem Complete.gives (complete : theme.Complete) (means : Means text meaning) (default : Option String) :
    Gives theme default meaning (meaning.answer theme default) := by
  cases means with
  | nothing => exact .nothing
  | named known =>
    have inside : ∀ entry ∈ colorNames, entry.2 < 16 := by decide
    obtain ⟨color, there⟩ := complete.there (inside _ known)
    rw [Meaning.answer, ansiAt_of_there there]
    exact .own there
  | digits long => exact .digits (List.length_take_of_le long)
  | typed => exact .table (complete.stands _)

theorem Proper.formed {color : String} (proper : Proper none (.ok (some color))) : Formed color := by
  obtain ⟨given, same, none | ⟨own, rfl, formed⟩⟩ := proper
  · subst none
    cases same
  · cases same
    exact formed

variable {result : Except ColorError (Option String)} (complete : theme.Complete)
include complete

theorem Gives.proper (gives : Gives theme default meaning result) (sound : meaning.Sound) : Proper default result := by
  cases gives with
  | nothing => exact ⟨default, rfl, .inl rfl⟩
  | own there => exact ⟨_, rfl, .inr ⟨_, rfl, complete.formed _ (List.mem_of_getElem? there)⟩⟩
  | digits count => exact ⟨_, rfl, .inr ⟨_, rfl, formed_ofList.mpr ⟨count, sound⟩⟩⟩
  | table stands =>
    obtain ⟨color, rfl, formed⟩ := (stands.formed_iff complete).mpr sound
    exact ⟨_, rfl, .inr ⟨color, rfl, formed⟩⟩

theorem Gives.sound (gives : Gives theme none meaning result) (proper : Proper none result) : meaning.Sound := by
  cases gives with
  | nothing => trivial
  | own => trivial
  | digits => exact (formed_ofList.mp proper.formed).2
  | @table place result stands =>
    apply (stands.formed_iff complete).mp
    cases result with
    | error error =>
      obtain ⟨color, failed, -⟩ := proper
      cases failed
    | ok color => exact ⟨color, rfl, proper.formed⟩

end

/-- What a theme with sixteen colours gives for a text, for every text: it stands for one thing, and what is given for
that is the default or a sign and six digits, whatever the default, exactly if it is neither a number spelled with
other characters than digits nor a place too far before or behind the table. -/
theorem colors_formed {theme : Theme} (complete : theme.Complete) (text : String) : ∃ meaning,
    Means (lower text.toList) meaning ∧ (∀ other, Means (lower text.toList) other → other = meaning) ∧
    (∀ default, Gives theme default meaning (theme.color (.named text) default)) ∧
    ((∀ default, Proper default (theme.color (.named text) default)) ↔ meaning.Sound) := by
  obtain ⟨meaning, means, answered⟩ := means_answered text
  have gives (default : Option String) : Gives theme default meaning (theme.color (.named text) default) := by
    rw [answered]
    exact complete.gives means default
  refine ⟨meaning, means, fun other => means.unique, gives, ?_, ?_⟩
  · intro proper
    exact (gives none).sound complete (proper none)
  · intro sound default
    exact (gives default).proper complete sound

/-- A digit of another script, behind a sign and before an underscore. -/
theorem colors_formed_early : (ofScheme "light").Complete ∧ Means (lower "-１_7".toList) (.table (-17)) ∧
    (∀ other, Means (lower "-１_7".toList) other → other = .table (-17)) ∧
    (∀ default, Gives (ofScheme "light") default (.table (-17)) ((ofScheme "light").color (.named "-１_7") default)) ∧
    ((∀ default, Proper default ((ofScheme "light").color (.named "-１_7") default)) ↔ (Meaning.table (-17)).Sound) := by
  have complete := ofScheme_complete "light"
  have means : Means (lower "-１_7".toList) (.table (-17)) := .of_number (by decide) (by decide)
  obtain ⟨meaning, -, unique, gives, proper⟩ := colors_formed complete "-１_7"
  obtain rfl := unique _ means
  exact ⟨complete, means, unique, gives, proper⟩

/-- A place before the table is a failure. -/
theorem colors_formed_fails : ¬∀ theme : Theme, theme.Complete → ∀ text default,
    Proper default (theme.color (.named text) default) := by
  intro formed
  obtain ⟨color, given, -⟩ := formed _ (ofScheme_complete "dark") "-17" none
  have failed : (ofScheme "dark").color (.named "-17") none = .error .outOfRange := rfl
  rw [failed] at given
  cases given

end Theme

end TerminalDock
