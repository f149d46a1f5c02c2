import Clickwork.Registry.Basic

/-!
# Look-ups in registries

One equation per operation, stated through `Registry.find?`, the view by which a registry is known
to everything that does not list it.
-/

namespace Clickwork.Registry

variable {κ α : Type}

@[ext] theorem ext {r s : Registry κ α} (h : r.entries = s.entries) : r = s := by
  cases r; cases s; simp_all

variable [DecidableEq κ]

@[simp] theorem find?_empty (k : κ) : (empty : Registry κ α).find? k = none := rfl

@[grind =] theorem find?_insert (r : Registry κ α) (k k' : κ) (v : α) :
    (r.insert k v).find? k' = if k = k' then some v else r.find? k' :=
  Entries.find?_put k k' v r.entries

@[grind =] theorem find?_erase (r : Registry κ α) (k k' : κ) :
    (r.erase k).find? k' = if k = k' then none else r.find? k' :=
  Entries.find?_remove k k' r.entries

@[simp] theorem find?_insert_self (r : Registry κ α) (k : κ) (v : α) :
    (r.insert k v).find? k = some v := by
  simp [find?_insert]

theorem find?_insert_of_ne (r : Registry κ α) {k k' : κ} (v : α) (h : k ≠ k') :
    (r.insert k v).find? k' = r.find? k' := by
  simp [find?_insert, h]

@[simp] theorem find?_erase_self (r : Registry κ α) (k : κ) : (r.erase k).find? k = none := by
  simp [find?_erase]

@[grind =] theorem find?_mapValues {β : Type} (r : Registry κ α) (f : κ → α → β) (k : κ) :
    (r.mapValues f).find? k = (r.find? k).map (f k) := by
  obtain ⟨entries, nodup⟩ := r
  simp only [find?, mapValues]
  clear nodup
  induction entries with
  | nil => rfl
  | cons e rest ih =>
    obtain ⟨k₀, v₀⟩ := e
    by_cases h : k₀ = k
    · subst h; simp [Entries.find?]
    · simp [Entries.find?, h, ih]

@[grind =] theorem find?_modify (r : Registry κ α) (k k' : κ) (f : α → α) :
    (r.modify k f).find? k' = if k' = k then (r.find? k').map f else r.find? k' := by
  rw [modify, find?_mapValues]
  by_cases h : k' = k <;> simp [h]

/-- Entries and look-ups say the same. -/
theorem find?_eq_some_iff {r : Registry κ α} {k : κ} {v : α} :
    r.find? k = some v ↔ (k, v) ∈ r.entries :=
  ⟨Entries.mem_of_find?, Entries.find?_of_mem r.nodup⟩

theorem find?_eq_none_iff {r : Registry κ α} {k : κ} : r.find? k = none ↔ k ∉ r.keys :=
  Entries.find?_eq_none_iff

end Clickwork.Registry
