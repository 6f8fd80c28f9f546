import TerminalDock.Link
import TerminalDock.Proofs.Trimming

/-! The search for links. A match is the longest run of address characters from where it starts, so the search goes on
behind a character that belongs to no address, and no two links touch. A scheme is linked exactly if the run after it
holds more than sentence punctuation and does not end, that punctuation apart, like a scheme. -/

namespace TerminalDock.Link
open Text

/-- What a scheme ends with. -/
def mark : List Char := [':', '/', '/']

def Address (text : List Char) : Prop :=
  ∃ scheme ∈ schemes, ∃ body, body ≠ [] ∧ text = scheme ++ body

theorem Address.length_pos {text : List Char} (address : Address text) : 0 < text.length := by
  obtain ⟨scheme, -, body, filled, rfl⟩ := address
  have body := List.length_pos_iff.mpr filled
  rw [List.length_append]
  omega

theorem isUrlChar_iff {c : Char} : isUrlChar c = true ↔
    isBlank c = false ∧ c ∉ ['\'', '"', '<', '>', '(', ')', '[', ']', '\x7b', '\x7d'] := by
  simp [isUrlChar]

theorem isTrailingPunctuation_iff {c : Char} : isTrailingPunctuation c = true ↔ c ∈ ['.', ',', ';', ':', '!', '?'] := by
  simp [isTrailingPunctuation]

private theorem trim_marked (front body : List Char) : dropRightWhile isTrailingPunctuation (front ++ mark ++ body) =
    front ++ mark ++ dropRightWhile isTrailingPunctuation body := by
  have shape (rest : List Char) : front ++ mark ++ rest = (front ++ [':', '/']) ++ '/' :: rest := by simp [mark]
  rw [shape, dropRightWhile_append (by decide), ← shape]

/-- A text that goes on after the mark of a scheme ends like a scheme only if what comes then does. -/
theorem ends_marked (front : List Char) {tail : List Char} (filled : tail ≠ []) :
    mark <:+ front ++ mark ++ tail ↔ mark <:+ tail := by
  refine ⟨fun ended => ?_, fun ended => ended.trans (List.suffix_append ..)⟩
  rcases List.suffix_or_suffix_of_suffix ended (List.suffix_append _ tail) with inside | short
  · exact inside
  rcases List.suffix_cons_iff.mp short with rfl | short
  · exact List.suffix_rfl
  rw [← List.reverse_prefix] at ended
  rcases List.suffix_cons_iff.mp short with rfl | short
  · simp [mark] at ended
  rcases List.suffix_cons_iff.mp short with rfl | short
  · simp [mark] at ended
  · exact absurd (List.suffix_nil.mp short) filled

section Schemes
variable {scheme : List Char} (known : scheme ∈ schemes)
include known

private theorem scheme_marked : ∃ name, scheme = name ++ mark := by
  have ended : ∀ scheme ∈ schemes, mark.isSuffixOf scheme = true := by decide
  obtain ⟨name, rfl⟩ := List.isSuffixOf_iff_suffix.mp (ended scheme known)
  exact ⟨name, rfl⟩

private theorem scheme_solid : ∀ c ∈ scheme, isUrlChar c = true := by
  have solid : ∀ scheme ∈ schemes, scheme.all isUrlChar = true := by decide
  exact List.all_eq_true.mp (solid scheme known)

private theorem takeWhile_scheme (rest : List Char) :
    (scheme ++ rest).takeWhile isUrlChar = scheme ++ rest.takeWhile isUrlChar :=
  List.takeWhile_append_of_pos (scheme_solid known)

private theorem schemeOf?_append (rest : List Char) : schemeOf? (scheme ++ rest) = some scheme := by
  have apart : ∀ first ∈ schemes, ∀ second ∈ schemes, first.isPrefixOf second = true → first = second := by decide
  have found : ∃ other, schemeOf? (scheme ++ rest) = some other := by
    rw [← Option.isSome_iff_exists, schemeOf?, List.find?_isSome]
    exact ⟨scheme, known, List.isPrefixOf_iff_prefix.mpr (List.prefix_append ..)⟩
  obtain ⟨other, found⟩ := found
  have begins := List.find?_some found
  rw [List.isPrefixOf_iff_prefix] at begins
  have member : other ∈ schemes := List.mem_of_find?_eq_some found
  rcases List.prefix_or_prefix_of_prefix begins (List.prefix_append scheme rest) with shorter | longer
  · rw [found, apart other member scheme known (List.isPrefixOf_iff_prefix.mpr shorter)]
  · rw [found, apart scheme known other member (List.isPrefixOf_iff_prefix.mpr longer)]

private theorem matchOf?_scheme (rest : List Char) : matchOf? (scheme ++ rest) =
    if rest.takeWhile isUrlChar = [] then none else some (scheme ++ rest.takeWhile isUrlChar) := by
  simp [matchOf?, schemeOf?_append known]

end Schemes

private theorem matchOf?_eq_some {text found : List Char} :
    matchOf? text = some found ↔ text.takeWhile isUrlChar = found ∧ Address found := by
  constructor
  · intro matched
    cases known : schemeOf? text with
    | none => simp [matchOf?, known] at matched
    | some scheme =>
      have member : scheme ∈ schemes := List.mem_of_find?_eq_some known
      have begins := List.find?_some known
      obtain ⟨rest, rfl⟩ := List.isPrefixOf_iff_prefix.mp begins
      rw [matchOf?_scheme member] at matched
      split at matched
      · cases matched
      next filled =>
        cases matched
        exact ⟨takeWhile_scheme member rest, scheme, member, _, filled, rfl⟩
  · rintro ⟨run, scheme, member, body, filled, rfl⟩
    have whole : text = scheme ++ (body ++ text.dropWhile isUrlChar) := by
      rw [← List.append_assoc, ← run, List.takeWhile_append_dropWhile]
    have rest : (body ++ text.dropWhile isUrlChar).takeWhile isUrlChar = body := by
      rw [whole, takeWhile_scheme member] at run
      exact List.append_cancel_left run
    rw [whole, matchOf?_scheme member, rest, if_neg filled]

theorem run_ended {found rest : List Char} (run : (found ++ rest).takeWhile isUrlChar = found) :
    (∀ c ∈ found, isUrlChar c = true) ∧ rest.takeWhile isUrlChar = [] := by
  have solid : ∀ c ∈ found, isUrlChar c = true := by
    rw [← run]
    exact fun c member => List.mem_takeWhile_imp member
  rw [List.takeWhile_append_of_pos solid] at run
  exact ⟨solid, List.append_right_eq_self.mp run⟩

/-- What follows any scheme in a match is trimmed. There is no link if nothing is left of it, nor if what is left ends like
a scheme. -/
theorem ofMatch?_marked (start : Nat) (front body : List Char) :
    ofMatch? start (front ++ mark ++ body) =
      let tail := dropRightWhile isTrailingPunctuation body
      if tail = [] ∨ mark <:+ tail then none
      else some ⟨start, start + (front ++ mark ++ tail).length, String.ofList (front ++ mark ++ tail)⟩ := by
  have same : "://".toList = mark := rfl
  simp only [ofMatch?, same, List.isSuffixOf_iff_suffix, trim_marked]
  generalize dropRightWhile isTrailingPunctuation body = tail
  by_cases filled : tail = []
  · simp [filled]
  · simp only [ends_marked front filled, filled, false_or]

private theorem ofMatch?_covers (start : Nat) (before : List Char) {scheme : List Char} (known : scheme ∈ schemes)
    (body : List Char) :
    (∃ link ∈ (ofMatch? start (before ++ (scheme ++ body))).toList,
        link.start ≤ start + before.length ∧ start + before.length < link.stop) ↔
      dropRightWhile isTrailingPunctuation body ≠ [] ∧ ¬mark <:+ dropRightWhile isTrailingPunctuation body := by
  obtain ⟨name, rfl⟩ := scheme_marked known
  have parts : before ++ (name ++ mark ++ body) = before ++ name ++ mark ++ body := by simp only [List.append_assoc]
  have made := ofMatch?_marked start (before ++ name) body
  simp only at made
  generalize dropRightWhile isTrailingPunctuation body = tail at made ⊢
  rw [parts, made, ← not_or]
  by_cases kept : tail = [] ∨ mark <:+ tail
  · simp [kept]
  · rw [if_neg kept]
    refine iff_of_true ⟨_, List.mem_singleton_self _, Nat.le_add_right .., ?_⟩ kept
    have marked : mark.length = 3 := rfl
    simp only [List.length_append]
    omega

/-- A link that was made of a match, and what the match is made of. -/
structure Made (place : Nat) (found scheme tail dropped : List Char) (link : Link) : Prop where
  known : scheme ∈ schemes
  filled : tail ≠ []
  whole : found = scheme ++ tail ++ dropped
  last : ∀ c ∈ tail.getLast?, isTrailingPunctuation c = false
  trimmed : ∀ c ∈ dropped, isTrailingPunctuation c = true
  unmarked : ¬mark <:+ tail
  start : link.start = place
  stop : link.stop = place + (scheme ++ tail).length
  url : link.url.toList = scheme ++ tail

namespace Made
variable {place : Nat} {found scheme tail dropped : List Char} {link : Link}

theorem address (made : Made place found scheme tail dropped link) : Address found :=
  ⟨scheme, made.known, tail ++ dropped, List.append_ne_nil_of_left_ne_nil made.filled _,
    by rw [made.whole, List.append_assoc]⟩

private theorem stop_le (made : Made place found scheme tail dropped link) : link.stop ≤ place + found.length := by
  rw [made.stop, made.whole]
  exact Nat.add_le_add_left (List.prefix_append ..).length_le place

end Made

theorem Address.made {place : Nat} {found : List Char} {link : Link} (address : Address found)
    (made : ofMatch? place found = some link) : ∃ scheme tail dropped, Made place found scheme tail dropped link := by
  obtain ⟨scheme, known, body, -, rfl⟩ := address
  obtain ⟨dropped, whole, trimmed⟩ := dropRightWhile_dropped isTrailingPunctuation body
  have last := last_dropRightWhile isTrailingPunctuation body
  obtain ⟨name, rfl⟩ := scheme_marked known
  rw [ofMatch?_marked] at made
  simp only at made
  split at made
  · cases made
  next kept =>
    cases made
    obtain ⟨filled, unmarked⟩ := not_or.mp kept
    have parts : name ++ mark ++ body = name ++ mark ++ dropRightWhile isTrailingPunctuation body ++ dropped := by
      rw [List.append_assoc (name ++ mark), ← whole]
    exact ⟨name ++ mark, _, dropped, known, filled, parts, last, trimmed, unmarked, rfl, rfl, String.toList_ofList⟩

/-- How a text is searched: at a match the search goes on behind it, and elsewhere at the next character. -/
inductive Search : Nat → List Char → List Link → Prop
  | done (start : Nat) : Search start [] []
  | skip {start : Nat} {c : Char} {rest : List Char} {links : List Link} (unmatched : matchOf? (c :: rest) = none)
    (later : Search (start + 1) rest links) : Search start (c :: rest) links
  | found {start : Nat} {found rest : List Char} {links : List Link} (matched : matchOf? (found ++ rest) = some found)
    (later : Search (start + found.length) rest links) :
    Search start (found ++ rest) ((ofMatch? start found).toList ++ links)

private theorem linksFrom_search (start fuel : Nat) (text : List Char) (enough : text.length ≤ fuel) :
    Search start text (linksFrom start fuel text) := by
  induction fuel generalizing start text with
  | zero =>
    obtain rfl : text = [] := List.eq_nil_of_length_eq_zero (Nat.le_zero.mp enough)
    exact .done start
  | succ fuel ih =>
    cases text with
    | nil => exact .done start
    | cons c rest =>
      have enough : rest.length ≤ fuel := Nat.le_of_succ_le_succ enough
      rw [linksFrom]
      cases matched : matchOf? (c :: rest) with
      | none => exact .skip matched (ih _ _ enough)
      | some found =>
        obtain ⟨run, address⟩ := matchOf?_eq_some.mp matched
        obtain ⟨later, whole⟩ : ∃ later, c :: rest = found ++ later :=
          ⟨_, by rw [← run, List.takeWhile_append_dropWhile]⟩
        have shorter : later.length ≤ fuel := by
          have filled := address.length_pos
          have length := congrArg List.length whole
          rw [List.length_cons, List.length_append] at length
          omega
        simp only [whole, List.drop_left]
        exact .found (whole ▸ matched) (ih _ later shorter)

theorem findLinks_search (text : List Char) : Search 0 text (findLinks text) :=
  linksFrom_search 0 text.length text (Nat.le_refl _)

private theorem findLinks_address {text : List Char} (address : Address text) (solid : ∀ c ∈ text, isUrlChar c = true) :
    findLinks text = (ofMatch? 0 text).toList := by
  have matched : matchOf? text = some text := matchOf?_eq_some.mpr ⟨List.takeWhile_eq_self_iff.mpr solid, address⟩
  have length := address.length_pos
  cases text with
  | nil => cases length
  | cons c rest =>
    have nothing (start : Nat) : ∀ fuel, linksFrom start fuel [] = []
      | 0 => rfl
      | _ + 1 => rfl
    rw [findLinks, List.length_cons, linksFrom, matched]
    simp only [List.drop_length, nothing, List.append_nil]

namespace Search
variable {start : Nat} {text : List Char} {links : List Link}

theorem origin (search : Search start text links) {link : Link} (member : link ∈ links) :
    ∃ before found rest, text = before ++ (found ++ rest) ∧ (found ++ rest).takeWhile isUrlChar = found ∧
      ∃ scheme tail dropped, Made (start + before.length) found scheme tail dropped link := by
  induction search with
  | done => cases member
  | @skip start c rest links unmatched later ih =>
    obtain ⟨before, found, after, rfl, run, made⟩ := ih member
    refine ⟨c :: before, found, after, rfl, run, ?_⟩
    rwa [List.length_cons, Nat.add_comm before.length, ← Nat.add_assoc]
  | @found start found rest links matched later ih =>
    rcases List.mem_append.mp member with here | there
    · obtain ⟨run, address⟩ := matchOf?_eq_some.mp matched
      exact ⟨[], found, rest, rfl, run, address.made (Option.mem_toList.mp here)⟩
    · obtain ⟨before, other, after, rfl, run, made⟩ := ih there
      refine ⟨found ++ before, other, after, by rw [List.append_assoc], run, ?_⟩
      rwa [List.length_append, ← Nat.add_assoc]

private theorem start_le (search : Search start text links) {link : Link} (member : link ∈ links) : start ≤ link.start := by
  obtain ⟨before, found, rest, -, -, scheme, tail, dropped, made⟩ := search.origin member
  rw [made.start]
  exact Nat.le_add_right ..

private theorem start_lt {found rest : List Char} (run : (found ++ rest).takeWhile isUrlChar = found)
    (search : Search start rest links)
    {link : Link} (member : link ∈ links) : start < link.start := by
  obtain ⟨before, other, after, rfl, next, scheme, tail, dropped, made⟩ := search.origin member
  rw [made.start]
  cases before with
  | cons c before => simp
  | nil =>
    have stopped : (other ++ after).takeWhile isUrlChar = [] := (run_ended run).2
    have filled := made.address.length_pos
    rw [← next, stopped] at filled
    cases filled

theorem ordered (search : Search start text links) :
    links.Pairwise fun first second => first.stop < second.start := by
  induction search with
  | done => exact .nil
  | skip _ _ ih => exact ih
  | @found start found rest links matched later ih =>
    obtain ⟨run, address⟩ := matchOf?_eq_some.mp matched
    rw [List.pairwise_append]
    refine ⟨by cases ofMatch? start found <;> simp, ih, fun first here second there => ?_⟩
    obtain ⟨scheme, tail, dropped, made⟩ := address.made (Option.mem_toList.mp here)
    exact Nat.lt_of_le_of_lt made.stop_le (start_lt run later there)

end Search

/-- A link of a text: a scheme and more, in characters that an address can have, and without the punctuation that closes
a sentence, which is all that stands between it and the next character of no address. -/
structure Sound (text : List Char) (link : Link) : Prop where
  inside : link.start < link.stop ∧ link.stop ≤ text.length
  shown : (text.drop link.start).take (link.stop - link.start) = link.url.toList
  scheme : ∃ scheme ∈ ["http://", "https://", "ftp://"], ∃ body ≠ "", link.url = scheme ++ body
  solid : ∀ c ∈ link.url.toList, isBlank c = false ∧ c ∉ ['\'', '"', '<', '>', '(', ')', '[', ']', '\x7b', '\x7d']
  last : ∀ c ∈ link.url.toList.getLast?, c ∉ ['.', ',', ';', ':', '!', '?']
  whole : ∀ c ∈ (text.drop link.stop).takeWhile isUrlChar, c ∈ ['.', ',', ';', ':', '!', '?']
  alone : findLinks link.url.toList = [⟨0, link.url.length, link.url⟩]

theorem Made.alone {found scheme tail dropped : List Char} {place : Nat} {link : Link}
    (made : Made place found scheme tail dropped link) (solid : ∀ c ∈ link.url.toList, isUrlChar c = true) :
    findLinks link.url.toList = [⟨0, link.url.length, link.url⟩] := by
  have kept : ¬(tail = [] ∨ mark <:+ tail) := not_or.mpr ⟨made.filled, made.unmarked⟩
  have same : String.ofList (scheme ++ tail) = link.url := by rw [← made.url, String.ofList_toList]
  have length : (scheme ++ tail).length = link.url.length := by rw [← made.url, String.length_toList]
  rw [findLinks_address ⟨scheme, made.known, tail, made.filled, made.url⟩ solid, made.url]
  obtain ⟨name, rfl⟩ := scheme_marked made.known
  rw [ofMatch?_marked, dropRightWhile_of_last made.last]
  simp only [if_neg kept, same, length, Nat.zero_add, Option.toList_some]

theorem Made.sound {found rest before scheme tail dropped : List Char} {link : Link}
    (run : (found ++ rest).takeWhile isUrlChar = found) (made : Made before.length found scheme tail dropped link) :
    Sound (before ++ (found ++ rest)) link := by
  obtain ⟨solid, ended⟩ := run_ended run
  have urlSolid : ∀ c ∈ link.url.toList, isUrlChar c = true := by
    rw [made.url]
    exact fun c member => solid c (made.whole ▸ List.mem_append_left _ member)
  have behind : (before ++ (found ++ rest)).drop link.stop = dropped ++ rest := by
    rw [made.stop, made.whole, List.drop_length_add_append, List.append_assoc (scheme ++ tail), List.drop_left]
  constructor
  case inside =>
    have filled := List.length_pos_iff.mpr made.filled
    rw [made.start, made.stop, made.whole]
    simp only [List.length_append]
    omega
  case shown =>
    rw [made.start, made.stop, made.url, made.whole, List.drop_left, Nat.add_sub_cancel_left,
      List.append_assoc (scheme ++ tail),
      List.take_left]
  case scheme =>
    obtain ⟨name, listed, spelt⟩ : ∃ name ∈ ["http://", "https://", "ftp://"], scheme = name.toList :=
      (List.mem_map.mp made.known).imp fun name named => ⟨named.1, named.2.symm⟩
    refine ⟨name, listed, String.ofList tail, ?_, ?_⟩
    · intro empty
      exact made.filled (by rw [← @String.toList_ofList tail, empty, String.toList_empty])
    · rw [← String.toList_inj, made.url, spelt, String.toList_append, String.toList_ofList]
  case solid => exact fun c member => isUrlChar_iff.mp (urlSolid c member)
  case last =>
    rw [made.url, List.getLast?_append_of_ne_nil _ made.filled]
    intro c member punctuation
    have kept := made.last c member
    rw [isTrailingPunctuation_iff.mpr punctuation] at kept
    cases kept
  case whole =>
    have droppedSolid : ∀ c ∈ dropped, isUrlChar c = true := fun c member =>
      solid c (made.whole ▸ List.mem_append_right _ member)
    rw [behind, List.takeWhile_append_of_pos droppedSolid, ended, List.append_nil]
    exact fun c member => isTrailingPunctuation_iff.mp (made.trimmed c member)
  case alone => exact made.alone urlSolid

/-- Whatever the text, its links stand in order, with a character at least between any two, and each of them is an
address that the text shows there. -/
theorem links_sound (text : List Char) :
    (findLinks text).Pairwise (fun first second => first.stop < second.start) ∧
      ∀ link ∈ findLinks text, Sound text link := by
  have search := findLinks_search text
  refine ⟨search.ordered, fun link member => ?_⟩
  obtain ⟨before, found, rest, rfl, run, scheme, tail, dropped, made⟩ := search.origin member
  rw [Nat.zero_add] at made
  exact made.sound run

namespace Search
variable {start : Nat} {text : List Char} {links : List Link}

private theorem linked_iff (search : Search start text links) {before scheme rest : List Char} (known : scheme ∈ schemes)
    (shape : text = before ++ (scheme ++ rest)) :
    (∃ link ∈ links, link.start ≤ start + before.length ∧ start + before.length < link.stop) ↔
      dropRightWhile isTrailingPunctuation (rest.takeWhile isUrlChar) ≠ [] ∧
        ¬mark <:+ dropRightWhile isTrailingPunctuation (rest.takeWhile isUrlChar) := by
  have begun : scheme ≠ [] := by
    obtain ⟨name, rfl⟩ := scheme_marked known
    simp [mark]
  induction search generalizing before with
  | done => simp [begun] at shape
  | @skip start c others links unmatched later ih =>
    cases before with
    | nil =>
      have empty : rest.takeWhile isUrlChar = [] := by
        rw [shape, List.nil_append, matchOf?_scheme known] at unmatched
        by_contra filled
        rw [if_neg filled] at unmatched
        cases unmatched
      have nothing : dropRightWhile isTrailingPunctuation (rest.takeWhile isUrlChar) = [] := by rw [empty]; rfl
      refine iff_of_false ?_ fun more => more.1 nothing
      rintro ⟨link, member, begins, -⟩
      have after := later.start_le member
      rw [List.length_nil] at begins
      omega
    | cons first before =>
      have same : start + 1 + before.length = start + (first :: before).length := by
        rw [List.length_cons]
        omega
      rw [← same]
      exact ih (List.cons.inj shape).2
  | @found start found others links matched later ih =>
    obtain ⟨run, address⟩ := matchOf?_eq_some.mp matched
    rcases List.append_eq_append_iff.mp shape with ⟨between, rfl, behind⟩ | ⟨inside, rfl, here⟩
    · -- The scheme stands behind the match, whose own link is over by then.
      rw [List.length_append, ← Nat.add_assoc]
      refine Iff.trans ⟨?_, fun ⟨link, member, covers⟩ => ⟨link, List.mem_append_right _ member, covers⟩⟩ (ih behind)
      rintro ⟨link, member, begins, ends⟩
      rcases List.mem_append.mp member with own | there
      · obtain ⟨_, _, _, made⟩ := address.made (Option.mem_toList.mp own)
        have ended := made.stop_le
        omega
      · exact ⟨link, there, begins, ends⟩
    · -- The scheme stands in the match, and whatever is linked of it is in the link of the match.
      obtain ⟨solid, ended⟩ := run_ended run
      have span : inside = scheme ++ rest.takeWhile isUrlChar := by
        rw [← takeWhile_scheme known, here, List.takeWhile_append_of_pos fun c member => solid c
          (List.mem_append_right _ member),
          ended, List.append_nil]
      rw [← ofMatch?_covers start before known, ← span]
      refine ⟨?_, fun ⟨link, member, covers⟩ => ⟨link, List.mem_append_left _ member, covers⟩⟩
      rintro ⟨link, member, begins, ends⟩
      rcases List.mem_append.mp member with own | there
      · exact ⟨link, own, begins, ends⟩
      · have after := start_lt run later there
        rw [List.length_append] at after
        omega

end Search

/-- A scheme lies inside a link if and only if the run of address characters after it holds more than the punctuation of
sentences, and does not, that punctuation at its end apart, end like a scheme. -/
theorem schemes_linked (text : List Char) (place : Nat) {scheme : List Char} (known : scheme ∈ schemes)
    (stands : scheme <+: text.drop place) :
    let run := (text.drop (place + scheme.length)).takeWhile isUrlChar
    (∃ link ∈ findLinks text, link.start ≤ place ∧ place < link.stop) ↔
      (∃ c ∈ run, isTrailingPunctuation c = false) ∧ ¬"://".toList <:+ dropRightWhile isTrailingPunctuation run := by
  obtain ⟨rest, shape⟩ := stands
  have behind : text.drop (place + scheme.length) = rest := by
    rw [← List.drop_drop, ← shape, List.drop_left]
  have placed : (text.take place).length = place := by
    have filled : (text.drop place).length ≠ 0 := by
      obtain ⟨name, rfl⟩ := scheme_marked known
      simp [← shape, mark]
    rw [List.length_drop] at filled
    rw [List.length_take]
    omega
  have linked := (findLinks_search text).linked_iff known (by rw [shape, List.take_append_drop])
  rw [placed, Nat.zero_add, ne_eq, dropRightWhile_eq_nil] at linked
  simp only [behind]
  refine linked.trans (and_congr_left' ?_)
  simp

/-- A scheme in the middle of a link, between which and the next blank a slash closes the link and a comma the clause. -/
theorem schemes_linked_nested :
    let text := "see http://a.io/?to=ftp://b.io/, or (https://) ...".toList
    ("ftp://".toList ∈ schemes ∧ "ftp://".toList <+: text.drop 20) ∧
      ∃ link ∈ findLinks text, link.start ≤ 20 ∧ 20 < link.stop := by
  intro text
  have known : "ftp://".toList ∈ schemes := by decide
  have stands : "ftp://".toList <+: text.drop 20 := List.isPrefixOf_iff_prefix.mp (by decide)
  have linked := schemes_linked text 20 known stands
  have letter : ∃ c ∈ (text.drop (20 + "ftp://".toList.length)).takeWhile isUrlChar, isTrailingPunctuation c = false :=
    ⟨'b', by decide, by decide⟩
  have unmarked : ¬"://".toList <:+
      dropRightWhile isTrailingPunctuation ((text.drop (20 + "ftp://".toList.length)).takeWhile isUrlChar) := by
    rw [← List.isSuffixOf_iff_suffix]
    decide
  exact ⟨⟨known, stands⟩, linked.mpr ⟨letter, unmarked⟩⟩

/-- An address that ends like a scheme is no link at all. -/
theorem schemes_linked_fails :
    let text := "http://a.io/?to=https://".toList
    "http://".toList <+: text ∧
      (∃ c ∈ (text.drop "http://".toList.length).takeWhile isUrlChar, isTrailingPunctuation c = false) ∧
      ¬∃ link ∈ findLinks text, link.start ≤ 0 ∧ 0 < link.stop := by
  intro text
  have none : findLinks text = [] := by decide
  refine ⟨List.isPrefixOf_iff_prefix.mp (by decide), ⟨'a', by decide, by decide⟩, ?_⟩
  rintro ⟨link, member, -⟩
  rw [none] at member
  cases member

end TerminalDock.Link
