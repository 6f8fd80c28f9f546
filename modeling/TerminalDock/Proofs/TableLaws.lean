import TerminalDock.Assoc
import Mathlib.Data.List.Nodup

/-! What is found in a table after it was changed. A key that stands in a table once is found with its own
value. -/

namespace TerminalDock.Assoc

variable {κ : Type} [DecidableEq κ] {α β : Type}

/-! How a table is read and changed, entry by entry. -/

private theorem find?_nil (key : κ) : Assoc.find? key ([] : Assoc κ α) = none := rfl

theorem find?_cons (key name : κ) (value : α) (rest : Assoc κ α) :
    Assoc.find? key ((name, value) :: rest) = if name = key then some value else rest.find? key := rfl

private theorem put_nil (key : κ) (value : α) : Assoc.put key value ([] : Assoc κ α) = [(key, value)] := rfl

private theorem put_cons (key name : κ) (value old : α) (rest : Assoc κ α) : Assoc.put key value ((name, old) :: rest) =
    if name = key then (name, value) :: rest else (name, old) :: rest.put key value := rfl

private theorem update_cons (key name : κ) (change : α → α) (value : α) (rest : Assoc κ α) :
    Assoc.update key change ((name, value) :: rest) =
      if name = key then (name, change value) :: rest else (name, value) :: rest.update key change := rfl

private theorem remove_nil (key : κ) : Assoc.remove key ([] : Assoc κ α) = [] := rfl

private theorem remove_cons (key name : κ) (value : α) (rest : Assoc κ α) :
    Assoc.remove key ((name, value) :: rest) = if name = key then rest else (name, value) :: rest.remove key := rfl

theorem mem_of_find? {key : κ} {value : α} {table : Assoc κ α} (found : table.find? key = some value) :
    (key, value) ∈ table := by
  induction table with
  | nil => cases found
  | cons entry rest ih =>
    obtain ⟨name, old⟩ := entry
    simp only [find?_cons] at found
    split at found
    next same => cases found; subst same; exact List.mem_cons_self
    next => exact List.mem_cons_of_mem _ (ih found)

theorem find?_of_mem {key : κ} {value : α} {table : Assoc κ α} (unique : table.keys.Nodup)
    (member : (key, value) ∈ table) : table.find? key = some value := by
  induction table with
  | nil => cases member
  | cons entry rest ih =>
    obtain ⟨name, old⟩ := entry
    obtain ⟨absent, unique⟩ := List.nodup_cons.mp unique
    simp only [find?_cons]
    rcases List.mem_cons.mp member with same | member
    · cases same; simp
    · have different : name ≠ key := by
        rintro rfl
        exact absent (List.mem_map.mpr ⟨_, member, rfl⟩)
      simpa [different] using ih unique member

theorem find?_eq_none {key : κ} {table : Assoc κ α} : table.find? key = none ↔ key ∉ table.keys := by
  induction table with
  | nil => simp [find?_nil, keys]
  | cons entry rest ih =>
    obtain ⟨name, old⟩ := entry
    by_cases same : name = key
    · simp [find?_cons, keys, same]
    · simpa [find?_cons, keys, same, Ne.symm same] using ih

theorem has_iff {key : κ} {table : Assoc κ α} : table.has key = true ↔ ∃ value, table.find? key = some value := by
  simp [has, Option.isSome_iff_exists]

theorem has_iff_mem {key : κ} {table : Assoc κ α} : table.has key = true ↔ key ∈ table.keys := by
  rw [has, Option.isSome_iff_ne_none, ne_eq, find?_eq_none, not_not]

theorem mem_keys_iff {key : κ} {table : Assoc κ α} : key ∈ table.keys ↔ ∃ value, table.find? key = some value :=
  has_iff_mem.symm.trans has_iff

theorem find?_map (f : α → β) (key : κ) (table : Assoc κ α) :
    Assoc.find? key (table.map fun (name, value) => (name, f value)) = (table.find? key).map f := by
  induction table with
  | nil => rfl
  | cons entry rest ih =>
    obtain ⟨name, old⟩ := entry
    simp only [List.map_cons, find?_cons]
    split
    · rfl
    · exact ih

omit [DecidableEq κ] in
theorem keys_map (f : α → β) (table : Assoc κ α) :
    Assoc.keys (table.map fun (name, value) => (name, f value)) = table.keys := by
  simp [keys, Function.comp_def]

omit [DecidableEq κ] in
theorem values_map (f : α → β) (table : Assoc κ α) :
    Assoc.values (table.map fun (name, value) => (name, f value)) = table.values.map f := by
  simp [values, Function.comp_def]

theorem mem_values_of_find? {key : κ} {value : α} {table : Assoc κ α} (found : table.find? key = some value) :
    value ∈ table.values :=
  List.mem_map.mpr ⟨_, mem_of_find? found, rfl⟩

theorem find?_put_self (key : κ) (value : α) (table : Assoc κ α) :
    Assoc.find? key (table.put key value) = some value := by
  induction table with
  | nil => simp [put_nil, find?_cons]
  | cons entry rest ih =>
    obtain ⟨name, old⟩ := entry
    simp only [put_cons]
    split
    next same => simp [find?_cons, same]
    next different => simpa [find?_cons, different] using ih

theorem find?_put_of_ne {key other : κ} (different : other ≠ key) (value : α) (table : Assoc κ α) :
    Assoc.find? other (table.put key value) = table.find? other := by
  induction table with
  | nil => simp [put_nil, find?_nil, find?_cons, Ne.symm different]
  | cons entry rest ih =>
    obtain ⟨name, old⟩ := entry
    simp only [put_cons]
    split
    next same => subst same; simp [find?_cons, Ne.symm different]
    next => simp only [find?_cons, ih]

theorem mem_put {value : α} {key : κ} {table : Assoc κ α} {entry : κ × α} (member : entry ∈ table.put key value) :
    entry = (key, value) ∨ entry ∈ table := by
  induction table with
  | nil => exact .inl (List.mem_singleton.mp member)
  | cons first rest ih =>
    obtain ⟨name, old⟩ := first
    simp only [put_cons] at member
    split at member
    next same =>
      rcases List.mem_cons.mp member with here | there
      · exact .inl (same ▸ here)
      · exact .inr (List.mem_cons_of_mem _ there)
    next =>
      rcases List.mem_cons.mp member with here | there
      · exact .inr (here ▸ List.mem_cons_self ..)
      · exact (ih there).imp_right (List.mem_cons_of_mem _)

theorem mem_values_put {table : Assoc κ α} {key : κ} {value other : α}
    (member : other ∈ (table.put key value).values) : other = value ∨ other ∈ table.values := by
  obtain ⟨entry, inside, rfl⟩ := List.mem_map.mp member
  exact (mem_put inside).imp (congrArg Prod.snd) List.mem_map_of_mem

theorem put_of_absent {key : κ} {table : Assoc κ α} (absent : table.find? key = none) (value : α) :
    table.put key value = table ++ [(key, value)] := by
  induction table with
  | nil => rfl
  | cons entry rest ih =>
    obtain ⟨name, old⟩ := entry
    simp only [find?_cons] at absent
    split at absent
    next => cases absent
    next different => simp [put_cons, different, ih absent]

private theorem union_append_of_nodup {table more : Assoc κ α} (unique : (table ++ more).keys.Nodup) :
    table.union more = table ++ more := by
  induction more generalizing table with
  | nil => exact (List.append_nil table).symm
  | cons entry more ih =>
    obtain ⟨key, value⟩ := entry
    have absent : key ∉ table.keys := by
      rw [keys, List.map_append, List.map_cons] at unique
      exact fun present => (List.nodup_append.mp unique).2.2 key present key List.mem_cons_self rfl
    rw [List.append_cons] at unique ⊢
    rw [← ih unique, ← put_of_absent (find?_eq_none.mpr absent)]
    rfl

theorem union_nil {table : Assoc κ α} (unique : table.keys.Nodup) : Assoc.union [] table = table :=
  union_append_of_nodup unique

/-- Tables with the same keys in the same order are told apart by what they hold for one of them. -/
theorem eq_of_find? {table other : Assoc κ α} (order : table.keys = other.keys) (unique : table.keys.Nodup)
    (same : ∀ key ∈ table.keys, table.find? key = other.find? key) : table = other := by
  induction table generalizing other with
  | nil => exact (List.map_eq_nil_iff.mp order.symm).symm
  | cons entry rest ih =>
    obtain ⟨key, value⟩ := entry
    obtain ⟨⟨name, held⟩, more, rfl⟩ := List.exists_cons_of_ne_nil fun nil : other = [] => by simp [nil, keys] at order
    obtain ⟨rfl, behind⟩ := List.cons.inj order
    obtain ⟨absent, unique⟩ := List.nodup_cons.mp unique
    have first := same key List.mem_cons_self
    simp only [find?_cons, if_pos] at first
    cases first
    refine congrArg _ (ih behind unique fun other member => ?_)
    have later := same other (List.mem_cons_of_mem _ member)
    have different : key ≠ other := by
      rintro rfl
      exact absent member
    simpa only [find?_cons, if_neg different] using later

theorem find?_append_absent {key : κ} {table more : Assoc κ α} (absent : key ∉ more.keys) :
    Assoc.find? key (table ++ more) = table.find? key := by
  induction table with
  | nil => exact find?_eq_none.mpr absent
  | cons entry rest ih =>
    obtain ⟨name, old⟩ := entry
    simp only [List.cons_append, find?_cons]
    split
    · rfl
    · exact ih

theorem find?_append_new {key : κ} {table more : Assoc κ α} (absent : key ∉ table.keys) :
    Assoc.find? key (table ++ more) = more.find? key := by
  induction table with
  | nil => rfl
  | cons entry rest ih =>
    obtain ⟨name, old⟩ := entry
    simp only [keys, List.map_cons, List.mem_cons, not_or] at absent
    simp only [List.cons_append, find?_cons, if_neg (Ne.symm absent.1)]
    exact ih absent.2

theorem find?_append_single {key name : κ} {value found : α} {table : Assoc κ α} (absent : table.find? key = none)
    (there : Assoc.find? name (table ++ [(key, value)]) = some found) :
    name = key ∧ found = value ∨ name ≠ key ∧ table.find? name = some found := by
  rw [← put_of_absent absent] at there
  by_cases here : name = key
  · rw [here, find?_put_self] at there
    exact .inl ⟨here, (Option.some.inj there).symm⟩
  · rw [find?_put_of_ne here] at there
    exact .inr ⟨here, there⟩

theorem keys_put_of_present {key : κ} {table : Assoc κ α} (present : key ∈ table.keys) (value : α) :
    (table.put key value).keys = table.keys := by
  induction table with
  | nil => cases present
  | cons entry rest ih =>
    obtain ⟨name, old⟩ := entry
    simp only [put_cons]
    split
    next => rfl
    next different =>
      rcases List.mem_cons.mp present with same | present
      · exact absurd same.symm different
      · exact congrArg (name :: ·) (ih present)

theorem mem_keys_put {key other : κ} {value : α} {table : Assoc κ α} (member : other ∈ (table.put key value).keys) :
    other = key ∨ other ∈ table.keys := by
  by_cases present : key ∈ table.keys
  · rw [keys_put_of_present present] at member
    exact .inr member
  · rw [put_of_absent (find?_eq_none.mpr present), keys, List.map_append] at member
    exact (List.mem_append.mp member).symm.imp List.mem_singleton.mp id

theorem keys_subset_put (key : κ) (value : α) (table : Assoc κ α) : table.keys ⊆ (table.put key value).keys := by
  by_cases present : key ∈ table.keys
  · rw [keys_put_of_present present]
    exact List.Subset.refl _
  · rw [put_of_absent (find?_eq_none.mpr present), keys, keys, List.map_append]
    exact List.subset_append_left _ _

theorem keys_put_nodup {key : κ} {table : Assoc κ α} (unique : table.keys.Nodup) (value : α) :
    (table.put key value).keys.Nodup := by
  by_cases present : key ∈ table.keys
  · rw [keys_put_of_present present]
    exact unique
  · rw [put_of_absent (find?_eq_none.mpr present)]
    simp only [keys, List.map_append, List.map_cons, List.map_nil]
    exact unique.append (List.nodup_singleton key) (by simpa [keys] using present)

theorem union_keys_nodup {table more : Assoc κ α} (unique : table.keys.Nodup) : (table.union more).keys.Nodup := by
  induction more generalizing table with
  | nil => exact unique
  | cons entry more ih => exact ih (keys_put_nodup unique entry.2)

theorem mem_union {table more : Assoc κ α} {entry : κ × α} (member : entry ∈ table.union more) :
    entry ∈ table ∨ entry ∈ more := by
  induction more generalizing table with
  | nil => exact .inl member
  | cons first more ih =>
    rcases ih member with changed | later
    · rcases mem_put changed with rfl | before
      · exact .inr List.mem_cons_self
      · exact .inl before
    · exact .inr (List.mem_cons_of_mem _ later)

theorem remove_sublist (key : κ) (table : Assoc κ α) : (table.remove key).Sublist table := by
  induction table with
  | nil => exact List.Sublist.refl _
  | cons entry rest ih =>
    obtain ⟨name, old⟩ := entry
    simp only [remove_cons]
    split
    · exact List.sublist_cons_self _ _
    · exact ih.cons_cons _

theorem remove_map (f : α → β) (key : κ) (table : Assoc κ α) :
    Assoc.remove key (table.map fun (name, value) => (name, f value)) =
      (table.remove key).map fun (name, value) => (name, f value) := by
  induction table with
  | nil => rfl
  | cons entry rest ih =>
    obtain ⟨name, old⟩ := entry
    simp only [List.map_cons, remove_cons]
    split
    · rfl
    · simp only [List.map_cons, ih]

theorem keys_remove_nodup {table : Assoc κ α} (unique : table.keys.Nodup) (key : κ) :
    (table.remove key).keys.Nodup :=
  unique.sublist ((remove_sublist key table).map Prod.fst)

theorem find?_remove_of_ne {key other : κ} (different : other ≠ key) (table : Assoc κ α) :
    Assoc.find? other (table.remove key) = table.find? other := by
  induction table with
  | nil => rfl
  | cons entry rest ih =>
    obtain ⟨name, old⟩ := entry
    simp only [remove_cons]
    split
    next same => subst same; simp [find?_cons, Ne.symm different]
    next => simp only [find?_cons, ih]

theorem find?_of_remove {key other : κ} {value : α} {table : Assoc κ α} (unique : table.keys.Nodup)
    (found : (table.remove key).find? other = some value) : table.find? other = some value :=
  find?_of_mem unique ((remove_sublist key table).subset (mem_of_find? found))

theorem find?_remove_self {key : κ} {table : Assoc κ α} (unique : table.keys.Nodup) :
    Assoc.find? key (table.remove key) = none := by
  induction table with
  | nil => rfl
  | cons entry rest ih =>
    obtain ⟨name, old⟩ := entry
    obtain ⟨absent, unique⟩ := List.nodup_cons.mp unique
    simp only [remove_cons]
    split
    next same => subst same; exact find?_eq_none.mpr absent
    next different => simpa [find?_cons, different] using ih unique

section FilterMap
variable {γ : Type} {key : κ} {f : κ × α → Option γ} {table : Assoc κ α}

/-- What does not count may stand for what was taken out. -/
theorem filterMap_put_blank {value : α} (blank : f (key, value) = none) :
    (table.put key value).filterMap f = (table.remove key).filterMap f := by
  induction table with
  | nil => simp [put_nil, remove_nil, blank]
  | cons entry rest ih =>
    obtain ⟨name, old⟩ := entry
    simp only [put_cons, remove_cons]
    split
    next same => subst same; simp [blank]
    next => rw [List.filterMap_cons, List.filterMap_cons, ih]

theorem filterMap_remove_blank (blank : ∀ value, table.find? key = some value → f (key, value) = none) :
    (table.remove key).filterMap f = table.filterMap f := by
  induction table with
  | nil => rfl
  | cons entry rest ih =>
    obtain ⟨name, old⟩ := entry
    simp only [remove_cons]
    split
    next same => subst same; simp [blank old (by simp [find?])]
    next different =>
      rw [List.filterMap_cons, List.filterMap_cons,
        ih fun value found => blank value (by simpa [find?_cons, different] using found)]

theorem filterMap_put_new (absent : key ∉ table.keys) (value : α) :
    (table.put key value).filterMap f = table.filterMap f ++ (f (key, value)).toList := by
  rw [put_of_absent (find?_eq_none.mpr absent), List.filterMap_append]
  cases counted : f (key, value) <;> simp [counted]

end FilterMap

theorem find?_update_self (key : κ) (change : α → α) (table : Assoc κ α) :
    Assoc.find? key (table.update key change) = (table.find? key).map change := by
  induction table with
  | nil => rfl
  | cons entry rest ih =>
    obtain ⟨name, old⟩ := entry
    simp only [update_cons]
    split
    next same => simp [find?_cons, same]
    next different => simpa [find?_cons, different] using ih

theorem find?_update_of_ne {key other : κ} (different : other ≠ key) (change : α → α) (table : Assoc κ α) :
    Assoc.find? other (table.update key change) = table.find? other := by
  induction table with
  | nil => rfl
  | cons entry rest ih =>
    obtain ⟨name, old⟩ := entry
    simp only [update_cons]
    split
    next same => subst same; simp [find?_cons, Ne.symm different]
    next => simp only [find?_cons, ih]

@[simp] theorem keys_update (key : κ) (change : α → α) (table : Assoc κ α) :
    (table.update key change).keys = table.keys := by
  induction table with
  | nil => rfl
  | cons entry rest ih =>
    obtain ⟨name, old⟩ := entry
    simp only [update_cons]
    split
    next => rfl
    next => exact congrArg (name :: ·) ih

theorem remove_update (key : κ) (change : α → α) (table : Assoc κ α) :
    Assoc.remove key (table.update key change) = table.remove key := by
  induction table with
  | nil => rfl
  | cons entry rest ih =>
    obtain ⟨name, old⟩ := entry
    simp only [update_cons]
    split
    next same => simp [remove_cons, same]
    next different => simp [remove_cons, different, ih]

theorem update_update (key : κ) (first second : α → α) (table : Assoc κ α) :
    Assoc.update key second (table.update key first) = table.update key (second ∘ first) := by
  induction table with
  | nil => rfl
  | cons entry rest ih =>
    obtain ⟨name, old⟩ := entry
    simp only [update_cons]
    split
    next same => simp [update_cons, same]
    next different => simp [update_cons, different, ih]

theorem update_eq_map {table : Assoc κ α} (unique : table.keys.Nodup) (key : κ) (change : α → α) :
    table.update key change = table.map fun (name, value) => (name, if name = key then change value else value) := by
  induction table with
  | nil => rfl
  | cons entry rest ih =>
    obtain ⟨name, old⟩ := entry
    obtain ⟨absent, unique⟩ := List.nodup_cons.mp unique
    simp only [update_cons, List.map_cons]
    split
    next here =>
      refine congrArg _ (((List.map_congr_left fun entry member => ?_).trans (List.map_id rest)).symm)
      have elsewhere : entry.1 ≠ key := fun same => absent (List.mem_map.mpr ⟨entry, member, same.trans here.symm⟩)
      rw [if_neg elsewhere]
      rfl
    next => rw [ih unique]

theorem perm_remove {key : κ} {value : α} {table : Assoc κ α} (found : table.find? key = some value) :
    table.Perm ((key, value) :: table.remove key) := by
  induction table with
  | nil => cases found
  | cons entry rest ih =>
    obtain ⟨name, old⟩ := entry
    simp only [find?_cons] at found
    simp only [remove_cons]
    split at found
    next same => cases found; subst same; simp
    next different =>
      simp only [different, if_false]
      exact ((ih found).cons _).trans (List.Perm.swap _ _ _)

theorem flatten_put (table : Assoc κ (List α)) (key : κ) (more : List α) :
    (table.put key ((table.find? key).getD [] ++ more)).values.flatten.Perm (table.values.flatten ++ more) := by
  induction table with
  | nil => exact .of_eq (List.append_nil _)
  | cons entry rest ih =>
    obtain ⟨name, old⟩ := entry
    simp only [find?_cons, put_cons]
    split
    next =>
      change (old ++ more ++ (values rest).flatten).Perm (old ++ (values rest).flatten ++ more)
      rw [List.append_assoc, List.append_assoc]
      exact List.perm_append_comm.append_left _
    next =>
      change (old ++ _).Perm (old ++ (values rest).flatten ++ more)
      rw [List.append_assoc]
      exact ih.append_left _

theorem flatten_remove (table : Assoc κ (List α)) (key : κ) :
    table.values.flatten.Perm ((table.find? key).getD [] ++ (table.remove key).values.flatten) := by
  induction table with
  | nil => exact .refl _
  | cons entry rest ih =>
    obtain ⟨name, old⟩ := entry
    simp only [find?_cons, remove_cons]
    split
    next => exact .refl _
    next =>
      change (old ++ (values rest).flatten).Perm (_ ++ (old ++ _))
      refine (ih.append_left old).trans ?_
      rw [← List.append_assoc, ← List.append_assoc]
      exact List.perm_append_comm.append_right _

end TerminalDock.Assoc
