import Mathlib.Data.List.Perm.Subperm
import TerminalDock.Host.ProcessTree
import TerminalDock.Proofs.TableLaws

/-! Processes that vanish while a process and everything under it is killed. Whoever is gone when it is looked up or when
its turn to be killed comes is passed over; one that vanishes while the children are listed keeps everybody alive. -/

namespace TerminalDock.ProcessTree

/-- A process and the families of its children. -/
inductive Family
  | node (pid : Int) (children : List Family)

namespace Family

def pid : Family → Int
  | .node pid _ => pid

def children : Family → List Family
  | .node _ children => children

mutual

/-- The processes of a family, each before its own children. -/
def pids : Family → List Int
  | .node pid children => pid :: pidsAll children

def pidsAll : List Family → List Int
  | [] => []
  | first :: rest => first.pids ++ pidsAll rest

end

def under (family : Family) : List Int :=
  pidsAll family.children

@[simp] theorem pids_eq (family : Family) : family.pids = family.pid :: family.under := by
  cases family
  rfl

mutual

/-- Each process of the family that is still in the table has there the children that it has in the family. -/
def Describes (table : Table) : Family → Prop
  | .node pid children =>
    (∀ entry, table.find? pid = some entry → entry.children = children.map Family.pid) ∧ DescribesAll table children

def DescribesAll (table : Table) : List Family → Prop
  | [] => True
  | first :: rest => first.Describes table ∧ DescribesAll table rest

end

theorem Describes.entry {table : Table} {family : Family} (described : family.Describes table) {entry : Entry}
    (found : table.find? family.pid = some entry) : entry.children = family.children.map Family.pid := by
  cases family
  exact described.1 entry found

theorem Describes.under {table : Table} {family : Family} (described : family.Describes table) :
    DescribesAll table family.children := by
  cases family
  exact described.2

theorem Describes.listed {table : Table} {family : Family} (described : family.Describes table)
    (there : table.has family.pid = true) :
    (table.find? family.pid).elim [] Entry.children = family.children.map Family.pid := by
  obtain ⟨entry, found⟩ := Assoc.has_iff.mp there
  rw [found]
  exact described.entry found

private theorem descendants_cons (table : Table) (depth : Nat) (pid : Int) (rest : List Int) :
    descendants table (depth + 1) (pid :: rest) =
      pid :: descendants table depth ((table.find? pid).elim [] Entry.children) ++ descendants table (depth + 1) rest := by
  simp [descendants]

/-- When nobody has vanished, everybody is listed, each before its own children. -/
theorem descendants_pidsAll {table : Table} {depth : Nat} {families : List Family}
    (described : DescribesAll table families) (there : ∀ pid ∈ pidsAll families, table.has pid = true)
    (deep : (pidsAll families).length ≤ depth) : descendants table depth (families.map pid) = pidsAll families := by
  induction depth generalizing families with
  | zero => exact (List.eq_nil_of_length_eq_zero (Nat.le_zero.mp deep)).symm
  | succ depth deeper =>
    induction families with
    | nil => simp [descendants, pidsAll]
    | cons first rest beside =>
      rw [pidsAll, List.length_append] at deep
      simp only [pidsAll, List.forall_mem_append] at there
      have short : first.under.length ≤ depth := by
        rw [pids_eq, List.length_cons] at deep
        omega
      rw [pids_eq, List.forall_mem_cons] at there
      rw [List.map_cons, descendants_cons, described.1.listed there.1.1, deeper described.1.under there.1.2 short,
        beside described.2 there.2 (by omega), pidsAll, pids_eq]
      rfl

/-- When somebody has vanished, one who has is listed: its parent, or an older one who has vanished as well, is still in
the table and names it. -/
theorem lost_listed {table : Table} {depth : Nat} {families : List Family} (described : DescribesAll table families)
    {lost : Int} (member : lost ∈ pidsAll families) (gone : table.has lost = false)
    (deep : (pidsAll families).countP table.has < depth) :
    ∃ lost ∈ descendants table depth (families.map pid), table.has lost = false := by
  -- Inside a family the depth goes down with every process that is still in the table; beside it the siblings are one
  -- fewer.
  induction depth generalizing families with
  | zero => omega
  | succ depth deeper =>
    induction families with
    | nil => cases member
    | cons first rest beside =>
      rw [pidsAll, List.countP_append, pids_eq, List.countP_cons] at deep
      rw [List.map_cons, descendants_cons]
      by_cases there : table.has first.pid = true
      · rw [if_pos there] at deep
        rcases List.mem_append.mp member with here | later
        · have inside : lost ∈ first.under := by
            rw [pids_eq] at here
            refine (List.mem_cons.mp here).resolve_left ?_
            rintro rfl
            simp [there] at gone
          obtain ⟨other, listed, missing⟩ := deeper described.1.under inside (by rw [under] at deep; omega)
          rw [← described.1.listed there] at listed
          exact ⟨other, List.mem_append_left _ (List.mem_cons_of_mem _ listed), missing⟩
        · obtain ⟨other, listed, missing⟩ := beside described.2 later (by omega)
          exact ⟨other, List.mem_append_right _ listed, missing⟩
      · exact ⟨first.pid, List.mem_append_left _ List.mem_cons_self, by simpa using there⟩

/-- A table has room for the first process of a family and all that are under it, if no two are the same. -/
theorem count_under_lt {table : Table} {family : Family} (distinct : family.pids.Nodup)
    (there : table.has family.pid = true) : family.under.countP table.has < table.length := by
  have counted : family.pids.countP table.has = family.under.countP table.has + 1 := by
    rw [pids_eq, List.countP_cons, if_pos there]
  have within : family.pids.filter table.has ⊆ table.keys := by
    intro pid member
    exact Assoc.has_iff_mem.mp (List.mem_filter.mp member).2
  have room := (List.subperm_of_subset (distinct.filter _) within).length_le
  rw [← List.countP_eq_length_filter, counted, Assoc.keys, List.length_map] at room
  omega

private theorem listing_ok {table : Table} {family : Family} (distinct : family.pids.Nodup)
    (described : family.Describes table)
    (there : ∀ pid ∈ family.pids, table.has pid = true) : table.listing family.pid = .ok family.under := by
  rw [pids_eq, List.forall_mem_cons] at there
  have deep := count_under_lt distinct there.1
  rw [List.countP_eq_length.mpr there.2] at deep
  have listed : descendants table table.length ((table.find? family.pid).elim [] Entry.children) = family.under := by
    rw [described.listed there.1]
    exact descendants_pidsAll described.under there.2 (Nat.le_of_lt deep)
  have nobody : family.under.find? (!table.has ·) = none := by
    simpa using there.2
  simp only [Table.listing, listed, nobody]

private theorem listing_error {table : Table} {family : Family} (distinct : family.pids.Nodup)
    (described : family.Describes table) (there : table.has family.pid = true) {lost : Int} (member : lost ∈ family.under)
    (gone : table.has lost = false) :
    ∃ lost, table.listing family.pid = .error lost ∧ table.has lost = false := by
  obtain ⟨other, listed, missing⟩ := lost_listed described.under member gone (count_under_lt distinct there)
  rw [← described.listed there] at listed
  cases found : (descendants table table.length ((table.find? family.pid).elim [] Entry.children)).find?
      (!table.has ·) with
  | none =>
    have present := List.find?_eq_none.mp found other listed
    simp [missing] at present
  | some first =>
    refine ⟨first, by simp only [Table.listing, found], ?_⟩
    simpa using List.find?_some found

end Family

/-- Everybody is tried once: the root last, and nobody if the root was not there. -/
structure Answers.Thorough (answers : Answers) (pid : Int) (attempts : List Attempt) : Prop where
  absent : answers.present = false → attempts = []
  root : answers.present = true → (attempts.map Attempt.pid).getLast? = some pid ∧ (attempts.map Attempt.pid).count pid = 1
  under : answers.present = true →
    ∃ under, answers.listing = .ok under ∧ (∀ other ∈ under, (attempts.map Attempt.pid).count other = 1) ∧
      ∀ attempt ∈ attempts, attempt.pid = pid ∨ attempt.pid ∈ under
  found : ∀ attempt ∈ attempts, attempt.found = answers.alive attempt.pid

namespace Answers
variable {answers : Answers} {pid : Int}

private theorem killTree_absent (absent : answers.present = false) : answers.killTree pid = .ok [] := by
  simp [killTree, absent]

private theorem killTree_listed (present : answers.present = true) {under : List Int}
    (listed : answers.listing = .ok under) :
    answers.killTree pid = .ok ((under ++ [pid]).map answers.attempt) := by
  simp [killTree, present, listed]

private theorem killTree_vanished (present : answers.present = true) {lost : Int}
    (vanished : answers.listing = .error lost) :
    answers.killTree pid = .error (.vanished lost) := by
  simp [killTree, present, vanished]

private theorem thorough_absent (absent : answers.present = false) : answers.Thorough pid [] where
  absent _ := rfl
  root present := by simp [absent] at present
  under present := by simp [absent] at present
  found _ member := by cases member

private theorem thorough_listed (present : answers.present = true) {under : List Int} (listed : answers.listing = .ok under)
    (distinct : (pid :: under).Nodup) : answers.Thorough pid ((under ++ [pid]).map answers.attempt) := by
  have tried : ((under ++ [pid]).map answers.attempt).map Attempt.pid = under ++ [pid] := by
    simp [Function.comp_def, attempt]
  have once : (under ++ [pid]).Nodup := (List.perm_append_singleton pid under).nodup_iff.mpr distinct
  constructor
  · intro absent
    simp [present] at absent
  · intro _
    rw [tried]
    exact ⟨List.getLast?_concat, List.count_eq_one_of_mem once (by simp)⟩
  · intro _
    refine ⟨under, listed, ?_, ?_⟩
    · intro other member
      rw [tried]
      exact List.count_eq_one_of_mem once (List.mem_append_left _ member)
    · intro attempt member
      have member : attempt.pid ∈ under ++ [pid] := tried ▸ List.mem_map_of_mem member
      simpa [or_comm] using member
  · intro attempt member
    obtain ⟨other, -, rfl⟩ := List.mem_map.mp member
    rfl

private theorem thorough_of_lists (lists : answers.present = true → ∃ under, answers.listing = .ok under ∧
    (pid :: under).Nodup) :
    ∃ attempts, answers.killTree pid = .ok attempts ∧ answers.Thorough pid attempts := by
  cases there : answers.present with
  | false => exact ⟨[], killTree_absent there, thorough_absent there⟩
  | true =>
    obtain ⟨under, listed, distinct⟩ := lists there
    exact ⟨_, killTree_listed there listed, thorough_listed there listed distinct⟩

end Answers

/-- A process is killed after everybody that was listed under it, each once, whatever has vanished before it is looked up
or before its turn to be killed comes; but nobody is killed if one vanishes while the children are listed. Of a family in a
table nobody must be missing under a process that is still there, and then the whole family is listed. -/
theorem killed_whatever_vanishes (family : Family) (distinct : family.pids.Nodup) :
    (∀ answers : Answers, (∀ under, answers.listing = .ok under → under.Subperm family.under) →
      ((∃ attempts, answers.killTree family.pid = .ok attempts ∧ answers.Thorough family.pid attempts) ↔
        (answers.present = true → ∃ under, answers.listing = .ok under)) ∧
      ∀ lost, answers.present = true → answers.listing = .error lost →
        answers.killTree family.pid = .error (.vanished lost)) ∧
    ∀ table : Table, family.Describes table →
      let answers := table.answers family.pid
      ((∃ attempts, answers.killTree family.pid = .ok attempts ∧ answers.Thorough family.pid attempts) ↔
        (table.has family.pid = true → ∀ pid ∈ family.under, table.has pid = true)) ∧
      ((∀ pid ∈ family.pids, table.has pid = true) → answers.listing = .ok family.under) := by
  have apart := Family.pids_eq family ▸ distinct
  constructor
  · intro answers part
    refine ⟨⟨?_, ?_⟩, fun lost there vanished => Answers.killTree_vanished there vanished⟩
    · rintro ⟨attempts, -, thorough⟩ there
      obtain ⟨under, listed, -⟩ := thorough.under there
      exact ⟨under, listed⟩
    · intro lists
      refine Answers.thorough_of_lists fun there => ?_
      obtain ⟨under, listed⟩ := lists there
      obtain ⟨same, sorted, within⟩ := (List.subperm_cons family.pid).mpr (part under listed)
      exact ⟨under, listed, sorted.nodup_iff.mp (within.nodup apart)⟩
  · intro table described answers
    refine ⟨⟨?_, ?_⟩, Family.listing_ok distinct described⟩
    · rintro ⟨attempts, killed, -⟩ there pid member
      by_contra missing
      obtain ⟨lost, vanished, -⟩ :=
        Family.listing_error distinct described there member (Bool.eq_false_iff.mpr missing)
      rw [Answers.killTree_vanished there vanished] at killed
      cases killed
    · intro all
      refine Answers.thorough_of_lists fun there => ⟨family.under, ?_, apart⟩
      apply Family.listing_ok distinct described
      rw [Family.pids_eq, List.forall_mem_cons]
      exact ⟨there, all there⟩

/-- A process with two children and a grandchild, which is gone when it is to be killed. -/
theorem killed_whatever_vanishes_late :
    let table : Table := [(1, { children := [2, 4] }), (2, { children := [3] }), (3, { gone := true }), (4, {})]
    (∃ attempts, (table.answers 1).killTree 1 = .ok attempts ∧ (table.answers 1).Thorough 1 attempts) ∧
      (table.answers 1).killTree 1 = .ok [⟨2, true⟩, ⟨3, false⟩, ⟨4, true⟩, ⟨1, true⟩] := by
  intro table
  let family := Family.node 1 [.node 2 [.node 3 []], .node 4 []]
  have described : family.Describes table := by
    simp [family, table, Family.Describes, Family.DescribesAll, Family.pid, Assoc.find?]
  have kills := ((killed_whatever_vanishes family (by decide)).2 table described).1
  exact ⟨kills.mpr (by decide), by decide⟩

/-- The process is there when it is looked up, but its child vanishes while the children are listed. -/
theorem killed_whatever_vanishes_fails :
    let answers := Table.answers [(1, { children := [2] })] 1
    answers.present = true ∧ answers.killTree 1 = .error (.vanished 2) ∧
      ¬ ∃ attempts, answers.killTree 1 = .ok attempts := by
  refine ⟨rfl, rfl, ?_⟩
  rintro ⟨attempts, killed⟩
  cases killed

end TerminalDock.ProcessTree
