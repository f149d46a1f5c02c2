import Clickwork.Registry.Entries

/-!
# Registries

A `Registry κ α` is a finite map from keys to values that remembers the order in which its keys
were first inserted. Answers list nodes, variables, records and properties in this order, so it is
part of every type that holds them. The keys are distinct by a field of the structure.
-/

namespace Clickwork

/-- **A finite map in order of first insertion.** -/
structure Registry (κ α : Type) where
  /-- The entries, oldest key first. -/
  entries : List (κ × α)
  /-- No key has two entries. -/
  nodup : (entries.map Prod.fst).Nodup

namespace Registry

variable {κ α β : Type}

/-- The registry without entries. -/
def empty : Registry κ α :=
  ⟨[], List.nodup_nil⟩

instance : EmptyCollection (Registry κ α) := ⟨empty⟩

instance : Inhabited (Registry κ α) := ⟨empty⟩

/-- The keys, oldest first. -/
def keys (r : Registry κ α) : List κ :=
  r.entries.map Prod.fst

/-- The values in the order of their keys. -/
def values (r : Registry κ α) : List α :=
  r.entries.map Prod.snd

/-- Whether there is no entry. -/
def isEmpty (r : Registry κ α) : Bool :=
  r.entries.isEmpty

/-- Changes each value by a function of its key and the value. -/
def mapValues (f : κ → α → β) (r : Registry κ α) : Registry κ β where
  entries := r.entries.map fun e => (e.1, f e.1 e.2)
  nodup := by simpa [Function.comp_def] using r.nodup

/-- Keeps the entries that satisfy `p`. -/
def filter (p : κ → α → Bool) (r : Registry κ α) : Registry κ α where
  entries := r.entries.filter fun e => p e.1 e.2
  nodup := Entries.nodup_filter r.nodup

section Keyed

variable [DecidableEq κ]

/-- The value of a key. -/
def find? (r : Registry κ α) (k : κ) : Option α :=
  Entries.find? k r.entries

/-- Whether the key has an entry. -/
def contains (r : Registry κ α) (k : κ) : Bool :=
  (r.find? k).isSome

/-- **Sets the value of a key**, which keeps its place if it is there already. -/
def insert (r : Registry κ α) (k : κ) (v : α) : Registry κ α where
  entries := Entries.put k v r.entries
  nodup := Entries.nodup_put r.nodup

/-- Drops a key. Inserted again, it comes last. -/
def erase (r : Registry κ α) (k : κ) : Registry κ α where
  entries := Entries.remove k r.entries
  nodup := Entries.nodup_remove r.nodup

/-- Changes the value of one key, if it is there. -/
def modify (r : Registry κ α) (k : κ) (f : α → α) : Registry κ α :=
  r.mapValues fun k' v => if k' = k then f v else v

/-- Sets the value of a key that is not there yet. -/
def insertNew (r : Registry κ α) (k : κ) (v : α) : Registry κ α :=
  if r.contains k then r else r.insert k v

/-- The registry of a list of entries, inserted one after the other. -/
def ofList (entries : List (κ × α)) : Registry κ α :=
  entries.foldl (fun r e => r.insert e.1 e.2) empty

end Keyed

end Registry

end Clickwork
