/-! Tables that keep the order in which their keys were first put in: a key that is set again keeps its
place, and one that was erased comes last when it is put in again. -/

namespace TerminalDock

/-- A table from keys to values in insertion order. -/
abbrev Assoc (κ : Type) (α : Type u) := List (κ × α)

namespace Assoc

variable {κ : Type} [DecidableEq κ] {α : Type u}

def find? (key : κ) : Assoc κ α → Option α
  | [] => none
  | (name, value) :: rest => if name = key then some value else find? key rest

/-- Whether the key is in the table. -/
def has (key : κ) (table : Assoc κ α) : Bool :=
  (find? key table).isSome

def put (key : κ) (value : α) : Assoc κ α → Assoc κ α
  | [] => [(key, value)]
  | (name, old) :: rest =>
    if name = key then (name, value) :: rest else (name, old) :: put key value rest

/-- Changes the value of a key that is there. -/
def update (key : κ) (change : α → α) : Assoc κ α → Assoc κ α
  | [] => []
  | (name, value) :: rest =>
    if name = key then (name, change value) :: rest else (name, value) :: update key change rest

def remove (key : κ) : Assoc κ α → Assoc κ α
  | [] => []
  | (name, value) :: rest => if name = key then rest else (name, value) :: remove key rest

def keys (table : Assoc κ α) : List κ :=
  table.map Prod.fst

def values (table : Assoc κ α) : List α :=
  table.map Prod.snd

/-- Puts every entry of the second table into the first. -/
def union (table more : Assoc κ α) : Assoc κ α :=
  more.foldl (fun table (key, value) => put key value table) table

end Assoc

end TerminalDock
