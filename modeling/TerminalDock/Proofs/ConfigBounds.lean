import TerminalDock.Config.Validation

/-! The bounds of a configuration. What is read keeps them, and a configuration that keeps them is read from its own
fields. -/

namespace TerminalDock

/-- The bounds that are checked when a configuration is read. -/
structure PanelConfig.Sound (config : PanelConfig) : Prop where
  fontSize : 6 ≤ config.fontSize ∧ config.fontSize ≤ 28
  scrollback : 0 ≤ config.scrollback
  minHeight : 50 ≤ config.minHeight
  maxHeight : 50 ≤ config.maxHeight
  heights : config.minHeight ≤ config.maxHeight
  padding : 0 ≤ config.padding
  minRows : 1 ≤ config.minRows
  minCols : 1 ≤ config.minCols
  frameDelay : 0 ≤ config.frameDelayMs

namespace Config

variable {low high : Option Int} {given : List (String × Json)} {config : PanelConfig}

def Within (low high : Option Int) (value : Int) : Prop :=
  (∀ bound ∈ low, bound ≤ value) ∧ ∀ bound ∈ high, value ≤ bound

instance (low high : Option Int) (value : Int) : Decidable (Within low high value) :=
  inferInstanceAs (Decidable (_ ∧ _))

theorem bounded_ok_iff {value : Json} {number : Int} :
    bounded low high value = .ok number ↔ integer value = .ok number ∧ Within low high number := by
  unfold bounded Within
  cases integer value with
  | error => simp [bind, Except.bind]
  | ok whole =>
    cases low <;> cases high <;>
      simp [bind, Except.bind, throw, throwThe, MonadExceptOf.throw, pure, Except.pure] <;>
      grind

/-- A field that is read leaves the problems as they were. -/
theorem readField_found {α : Type} {name : String} {value : Json} {result : α} {read : Json → Except FieldFault α}
    (found : Assoc.find? name given = some value) (reads : read value = .ok result) (default : α) (problems : List Problem) :
    readField given name default read problems = (result, problems) := by
  rw [readField, found]
  dsimp only
  rw [reads]

private theorem readField_within {default : Int} (sound : Within low high default) (given : List (String × Json))
    (name : String)
    (problems : List Problem) : Within low high (readField given name default (bounded low high) problems).1 := by
  unfold readField
  split
  · exact sound
  · split
    next result read => exact (bounded_ok_iff.mp read).2
    next => exact sound

theorem validate_sound (valid : validate given = .ok config) : config.Sound := by
  simp only [validate] at valid
  split at valid
  · cases valid
  · split at valid
    · cases valid
    next ordered =>
      cases valid
      have atLeast {low default : Int} (sound : low ≤ default) (name : String) (problems : List Problem) :
          low ≤ (readField given name default (bounded (some low) none) problems).1 :=
        (readField_within (by simp [Within, sound]) given name problems).1 low rfl
      have font := readField_within (by decide : Within (some 6) (some 28) (13 : Int)) given
      exact {
        fontSize := ⟨(font _ _).1 6 rfl, (font _ _).2 28 rfl⟩
        scrollback := atLeast (by decide) _ _
        minHeight := atLeast (by decide) _ _
        maxHeight := atLeast (by decide) _ _
        heights := Int.not_lt.mp ordered
        padding := atLeast (by decide) _ _
        minRows := atLeast (by decide) _ _
        minCols := atLeast (by decide) _ _
        frameDelay := atLeast (by decide) _ _ }

private theorem textOrNone_elim (shell : Option String) : textOrNone (shell.elim .null .str) = .ok shell := by
  cases shell <;> rfl

theorem validate_fields (sound : config.Sound) : validate config.fields = .ok config := by
  have number {low high : Option Int} {value : Int} (within : Within low high value) :
      bounded low high (.int value) = .ok value :=
    bounded_ok_iff.mpr ⟨rfl, within⟩
  have above {low value : Int} (sound : low ≤ value) : bounded (some low) none (.int value) = .ok value :=
    number ⟨fun bound same => by cases same; exact sound, fun bound none => by cases none⟩
  have font : bounded (some 6) (some 28) (.int config.fontSize) = .ok config.fontSize :=
    number ⟨fun bound same => by cases same; exact sound.fontSize.1, fun bound same => by cases same; exact sound.fontSize.2⟩
  have found (name : String) {value : Json} (there : Assoc.find? name config.fields = some value) := there
  have noProblem : (!([] : List Problem).isEmpty) = false := rfl
  simp only [validate, readField_found (found "shell" rfl) (textOrNone_elim config.shell),
    readField_found (found "login_shell" rfl) (rfl : truth _ = .ok config.loginShell),
    readField_found (found "font_family" rfl) (rfl : text _ = .ok config.fontFamily),
    readField_found (found "font_size" rfl) font, readField_found (found "scrollback" rfl) (above sound.scrollback),
    readField_found (found "min_height" rfl) (above sound.minHeight),
    readField_found (found "max_height" rfl) (above sound.maxHeight),
    readField_found (found "default_height" rfl) (rfl : integer _ = .ok config.defaultHeight),
    readField_found (found "padding" rfl) (above sound.padding),
    readField_found (found "min_rows" rfl) (above sound.minRows),
      readField_found (found "min_cols" rfl) (above sound.minCols),
    readField_found (found "frame_delay_ms" rfl) (above sound.frameDelay), noProblem, Bool.false_eq_true, if_false,
    if_neg (Int.not_lt.mpr sound.heights)]

end Config
end TerminalDock
