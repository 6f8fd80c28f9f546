import Mathlib.Data.List.DropRight
import TerminalDock.Text.Blank

/-! Trimming at the end of a text. What is left is a beginning of the text whose last character stays, and what went
is all of the kind that goes. -/

namespace TerminalDock.Text

variable {test : Char → Bool}

private theorem dropRightWhile_eq (test : Char → Bool) (text : List Char) :
    dropRightWhile test text = text.rdropWhile test := by
  induction text with
  | nil => rfl
  | cons first rest ih =>
    have step : dropRightWhile test (first :: rest) =
        if (dropRightWhile test rest).isEmpty && test first then [] else first :: dropRightWhile test rest := rfl
    rw [step, ih]
    simp only [List.rdropWhile, List.reverse_cons, List.dropWhile_append, List.isEmpty_reverse]
    cases List.dropWhile test rest.reverse with
    | nil => cases kept : test first <;> simp [kept]
    | cons => simp

theorem dropRightWhile_of_last {text : List Char} (kept : ∀ c ∈ text.getLast?, test c = false) :
    dropRightWhile test text = text := by
  rw [dropRightWhile_eq, List.rdropWhile_eq_self_iff]
  intro filled dropped
  have last := kept _ (List.getLast_mem_getLast? filled)
  rw [dropped] at last
  cases last

theorem last_dropRightWhile (test : Char → Bool) (text : List Char) :
    ∀ c ∈ (dropRightWhile test text).getLast?, test c = false := by
  rw [dropRightWhile_eq]
  intro c last
  obtain ⟨filled, rfl⟩ := List.mem_getLast?_eq_getLast last
  exact Bool.eq_false_iff.mpr (List.rdropWhile_last_not test text filled)

theorem dropRightWhile_dropped (test : Char → Bool) (text : List Char) :
    ∃ dropped, text = dropRightWhile test text ++ dropped ∧ ∀ c ∈ dropped, test c = true := by
  refine ⟨text.rtakeWhile test, ?_, fun c member => List.mem_rtakeWhile_imp member⟩
  rw [dropRightWhile_eq, List.rdropWhile_append_rtakeWhile]

/-- Trimming goes no further than a character that stays. -/
theorem dropRightWhile_append {front : List Char} {last : Char} (stays : test last = false) (rest : List Char) :
    dropRightWhile test (front ++ last :: rest) = front ++ last :: dropRightWhile test rest := by
  simp only [dropRightWhile_eq, List.rdropWhile, List.reverse_append, List.reverse_cons, List.append_assoc]
  rw [List.dropWhile_append]
  split
  next gone => simp [List.isEmpty_iff.mp gone, stays]
  next => simp

theorem dropRightWhile_eq_nil {text : List Char} : dropRightWhile test text = [] ↔ ∀ c ∈ text, test c = true := by
  rw [dropRightWhile_eq, List.rdropWhile_eq_nil_iff]

end TerminalDock.Text
