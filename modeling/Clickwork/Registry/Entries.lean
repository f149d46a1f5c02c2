/-!
# Keyed entries in order

Lists of key–value pairs in which a key keeps the place where it first appeared. They are the raw
form of `Clickwork.Registry`, which adds that the keys are distinct, and of the fields of a JSON
object, which are read before anything is known about them.

* `find?_put`, `find?_remove` say what each operation does to look-ups;
* `nodup_put`, `nodup_remove` say that it keeps the keys distinct.
-/

namespace Clickwork.Entries

variable {κ α : Type} [DecidableEq κ]

/-- The value of the first entry with the key. -/
def find? (k : κ) : List (κ × α) → Option α
  | [] => none
  | (k', v) :: rest => if k' = k then some v else find? k rest

/-- **Sets the value of a key**: in place if the key is there, at the end otherwise. -/
def put (k : κ) (v : α) : List (κ × α) → List (κ × α)
  | [] => [(k, v)]
  | (k', v') :: rest => if k' = k then (k', v) :: rest else (k', v') :: put k v rest

/-- Drops the entries with the key. -/
def remove (k : κ) (entries : List (κ × α)) : List (κ × α) :=
  entries.filter fun e => decide (e.1 ≠ k)

/-! ### Look-ups -/

theorem find?_put (k k' : κ) (v : α) (entries : List (κ × α)) :
    find? k' (put k v entries) = if k = k' then some v else find? k' entries := by
  induction entries with
  | nil => simp [put, find?]
  | cons e rest ih =>
    obtain ⟨k₀, v₀⟩ := e
    grind [put, find?]

theorem find?_remove (k k' : κ) (entries : List (κ × α)) :
    find? k' (remove k entries) = if k = k' then none else find? k' entries := by
  induction entries with
  | nil => simp [remove, find?]
  | cons e rest ih =>
    obtain ⟨k₀, v₀⟩ := e
    simp only [remove] at ih
    grind [remove, find?]

theorem find?_eq_none_iff {k : κ} {entries : List (κ × α)} :
    find? k entries = none ↔ k ∉ entries.map Prod.fst := by
  induction entries with
  | nil => simp [find?]
  | cons e rest ih =>
    obtain ⟨k₀, v₀⟩ := e
    by_cases h : k₀ = k <;> simp_all [find?, eq_comm]

theorem mem_of_find? {k : κ} {v : α} {entries : List (κ × α)} (h : find? k entries = some v) :
    (k, v) ∈ entries := by
  induction entries with
  | nil => simp [find?] at h
  | cons e rest ih =>
    obtain ⟨k₀, v₀⟩ := e
    by_cases hk : k₀ = k <;> simp_all [find?]

theorem find?_of_mem {k : κ} {v : α} {entries : List (κ × α)}
    (hnd : (entries.map Prod.fst).Nodup) (h : (k, v) ∈ entries) : find? k entries = some v := by
  induction entries with
  | nil => simp at h
  | cons e rest ih =>
    obtain ⟨k₀, v₀⟩ := e
    simp only [List.map_cons, List.nodup_cons] at hnd
    rcases List.mem_cons.1 h with heq | hmem
    · simp_all [find?]
    · have hne : k₀ ≠ k := fun hk => hnd.1 (hk ▸ List.mem_map_of_mem (f := Prod.fst) hmem)
      simp [find?, hne, ih hnd.2 hmem]

/-! ### Distinct keys -/

theorem mem_keys_put {k k' : κ} {v : α} {entries : List (κ × α)} :
    k' ∈ (put k v entries).map Prod.fst ↔ k' = k ∨ k' ∈ entries.map Prod.fst := by
  induction entries with
  | nil => simp [put]
  | cons e rest ih =>
    obtain ⟨k₀, v₀⟩ := e
    by_cases h : k₀ = k
    · subst h; simp [put]
    · simp only [put, h, if_false, List.map_cons, List.mem_cons, ih]
      grind

theorem nodup_put {k : κ} {v : α} {entries : List (κ × α)} (h : (entries.map Prod.fst).Nodup) :
    ((put k v entries).map Prod.fst).Nodup := by
  induction entries with
  | nil => simp [put]
  | cons e rest ih =>
    obtain ⟨k₀, v₀⟩ := e
    simp only [List.map_cons, List.nodup_cons] at h
    by_cases hk : k₀ = k
    · simpa [put, hk] using h
    · simp only [put, hk, if_false, List.map_cons, List.nodup_cons, mem_keys_put, false_or]
      exact ⟨h.1, ih h.2⟩

omit [DecidableEq κ] in
theorem nodup_filter {p : κ × α → Bool} {entries : List (κ × α)}
    (h : (entries.map Prod.fst).Nodup) : ((entries.filter p).map Prod.fst).Nodup :=
  h.sublist (List.filter_sublist.map Prod.fst)

theorem nodup_remove {k : κ} {entries : List (κ × α)} (h : (entries.map Prod.fst).Nodup) :
    ((remove k entries).map Prod.fst).Nodup :=
  nodup_filter h

end Clickwork.Entries
