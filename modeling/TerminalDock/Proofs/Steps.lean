import TerminalDock.Assoc

/-! Steps that may fail keep what they changed before they failed. A relation between the states before and
after that holds of every part of a step holds of the whole step. -/

namespace TerminalDock.Proofs.Steps

variable {ε σ α β : Type}

/-- The state in which a step ends, whether it fails or not. -/
def after (act : EStateM ε σ α) (state : σ) : σ :=
  match act state with
  | .ok _ final | .error _ final => final

theorem modify_ends (change : σ → σ) (state : σ) : (modify change : EStateM ε σ PUnit) state = .ok () (change state) := rfl

theorem get_bind (next : σ → EStateM ε σ β) (state : σ) : (get >>= next) state = next state state := rfl

theorem bind_ok {act : EStateM ε σ α} {value : α} {state middle : σ} (seen : act state = .ok value middle)
    (next : α → EStateM ε σ β) : (act >>= next) state = next value middle := by
  simp only [bind, EStateM.bind, seen]

theorem bind_error {act : EStateM ε σ α} {failure : ε} {state middle : σ} (seen : act state = .error failure middle)
    (next : α → EStateM ε σ β) : (act >>= next) state = .error failure middle := by
  simp only [bind, EStateM.bind, seen]

theorem of_bind_ok {act : EStateM ε σ α} {next : α → EStateM ε σ β} {state last : σ} {value : β}
    (seen : (act >>= next) state = .ok value last) :
    ∃ first middle, act state = .ok first middle ∧ next first middle = .ok value last := by
  simp only [bind, EStateM.bind] at seen
  cases ends : act state with
  | ok first middle =>
    rw [ends] at seen
    exact ⟨first, middle, rfl, seen⟩
  | error failure middle =>
    rw [ends] at seen
    cases seen

/-- From wherever a step starts, it ends in a related state. -/
def Moves (relation : σ → σ → Prop) (act : EStateM ε σ α) : Prop :=
  ∀ state, relation state (after act state)

theorem after_bind (act : EStateM ε σ α) (next : α → EStateM ε σ β) (state : σ) :
    after (act >>= next) state =
      match act state with
      | .ok value middle => after (next value) middle
      | .error _ middle => middle := by
  simp only [after, bind, EStateM.bind]
  cases act state <;> rfl

/-- What a step does at its end may not show. -/
theorem after_bind_view {τ : Type} (view : σ → τ) {act : EStateM ε σ α} {next : α → EStateM ε σ β}
    (same : ∀ value state, view (after (next value) state) = view state) (state : σ) :
    view (after (act >>= next) state) = view (after act state) := by
  rw [after_bind]
  unfold after
  cases act state with
  | ok value middle => exact same value middle
  | error failure middle => rfl

@[simp] theorem after_pure (value : α) (state : σ) :
    after (pure value : EStateM ε σ α) state = state := rfl

@[simp] theorem after_modify (change : σ → σ) (state : σ) :
    after (modify change : EStateM ε σ PUnit) state = change state := rfl

@[simp] theorem after_get_bind (next : σ → EStateM ε σ β) (state : σ) :
    after (get >>= next) state = after (next state) state := rfl

@[simp] theorem after_set_bind (fixed : σ) (next : PUnit → EStateM ε σ β) (state : σ) :
    after (set fixed >>= next) state = after (next ⟨⟩) fixed := rfl

@[simp] theorem after_modify_bind (change : σ → σ) (next : PUnit → EStateM ε σ β) (state : σ) :
    after (modify change >>= next) state = after (next ⟨⟩) (change state) := rfl

/-- How a step ends: in which state, and with which failure if it fails. -/
structure Ending (ε σ : Type) where
  state : σ
  failure : Option ε

def ending (act : EStateM ε σ α) (state : σ) : Ending ε σ :=
  match act state with
  | .ok _ final => ⟨final, none⟩
  | .error failure final => ⟨final, some failure⟩

theorem Ending.unfailing {state : σ} {failure : ε} {goal : Prop}
    (raised : (Ending.mk state none : Ending ε σ).failure = some failure) : goal := by
  cases raised

theorem ending_bind (act : EStateM ε σ α) (next : α → EStateM ε σ β) (state : σ) :
    ending (act >>= next) state =
      match act state with
      | .ok value middle => ending (next value) middle
      | .error failure middle => ⟨middle, some failure⟩ := by
  simp only [ending, bind, EStateM.bind]
  cases act state <;> rfl

theorem state_ending (act : EStateM ε σ α) (state : σ) : (ending act state).state = after act state := by
  unfold ending after
  cases act state <;> rfl

theorem ending_eq (act : EStateM ε σ α) (state : σ) : ending act state = ⟨after act state, (ending act state).failure⟩ := by
  rw [← state_ending]

theorem ending_map (act : EStateM ε σ α) (f : α → β) (state : σ) :
    ending (do return f (← act)) state = ending act state := by
  rw [ending_bind]
  unfold ending
  cases act state <;> rfl

@[simp] theorem ending_modify (change : σ → σ) (state : σ) :
    ending (modify change : EStateM ε σ PUnit) state = ⟨change state, none⟩ := rfl

@[simp] theorem ending_get_bind (next : σ → EStateM ε σ β) (state : σ) :
    ending (get >>= next) state = ending (next state) state := rfl

@[simp] theorem ending_set_bind (fixed : σ) (next : PUnit → EStateM ε σ β) (state : σ) :
    ending (set fixed >>= next) state = ending (next ⟨⟩) fixed := rfl

@[simp] theorem ending_modify_bind (change : σ → σ) (next : PUnit → EStateM ε σ β) (state : σ) :
    ending (modify change >>= next) state = ending (next ⟨⟩) (change state) := rfl

variable {relation : σ → σ → Prop}

theorem after_chain (relation : σ → σ → Prop)
    (trans : ∀ {first middle last}, relation first middle → relation middle last → relation first last)
      {act : EStateM ε σ α} {next : α → EStateM ε σ β} {state : σ} (first : relation state (after act state))
    (rest : ∀ value, Moves relation (next value)) : relation state (after (act >>= next) state) := by
  rw [after_bind]
  unfold after at first
  cases seen : act state with
  | ok value middle =>
    rw [seen] at first
    exact trans first (rest value middle)
  | error failure middle =>
    rw [seen] at first
    exact first

namespace Moves

protected theorem pure (refl : ∀ state, relation state state) (value : α) :
    Moves relation (pure value : EStateM ε σ α) := fun state => refl state

protected theorem modify {change : σ → σ} (moved : ∀ state, relation state (change state)) :
    Moves relation (modify change : EStateM ε σ PUnit) := moved

protected theorem bind (trans : ∀ {first middle last}, relation first middle → relation middle last → relation first last)
    {act : EStateM ε σ α} {next : α → EStateM ε σ β} (first : Moves relation act)
    (rest : ∀ value, Moves relation (next value)) : Moves relation (act >>= next) :=
  fun state => after_chain relation (fun before later => trans before later) (first state) rest

protected theorem get_bind {next : σ → EStateM ε σ β}
    (rest : ∀ state, relation state (after (next state) state)) : Moves relation (get >>= next) := rest

end Moves

end TerminalDock.Proofs.Steps
