import Clickwork.Registry.Lemmas
import Mathlib.Data.List.Basic
import Mathlib.Data.List.Nodup
import Mathlib.Logic.Equiv.Defs
import Mathlib.Tactic.Common

/-!
# More on registries

Membership, filters and look-ups. `mapValues` and `filter` keep the order of the keys, so the
equations that end in one of them say all there is to say about a registry, not only what its
look-ups are.
-/

namespace Clickwork.Registry

variable {κ α β γ : Type}

/-! ### Filters and changes of all values -/

theorem mapValues_mapValues (r : Registry κ α) (f : κ → α → β) (g : κ → β → γ) :
    (r.mapValues f).mapValues g = r.mapValues fun k v => g k (f k v) := by
  ext1
  simp [mapValues]

theorem mapValues_congr {r : Registry κ α} {f g : κ → α → β}
    (h : ∀ e ∈ r.entries, f e.1 e.2 = g e.1 e.2) : r.mapValues f = r.mapValues g := by
  ext1
  simp only [mapValues]
  exact List.map_congr_left fun e he => by rw [h e he]

theorem mapValues_eq_self {r : Registry κ α} {f : κ → α → α}
    (h : ∀ e ∈ r.entries, f e.1 e.2 = e.2) : r.mapValues f = r := by
  ext1
  simp only [mapValues]
  conv_rhs => rw [← List.map_id r.entries]
  exact List.map_congr_left fun e he => by rw [h e he]; rfl

theorem filter_filter (r : Registry κ α) (p q : κ → α → Bool) :
    (r.filter p).filter q = r.filter fun k v => p k v && q k v := by
  ext1
  simp [filter, List.filter_filter, Bool.and_comm]

theorem filter_congr {r : Registry κ α} {p q : κ → α → Bool}
    (h : ∀ e ∈ r.entries, p e.1 e.2 = q e.1 e.2) : r.filter p = r.filter q := by
  ext1
  exact List.filter_congr h

theorem filter_eq_self {r : Registry κ α} {p : κ → α → Bool}
    (h : ∀ e ∈ r.entries, p e.1 e.2 = true) : r.filter p = r := by
  ext1
  exact List.filter_eq_self.mpr h

/-- Changing the values that a choice of keys leaves. -/
theorem mapValues_filter (r : Registry κ α) (p : κ → Bool) (f : κ → α → β) :
    (r.filter fun k _ => p k).mapValues f = (r.mapValues f).filter fun k _ => p k := by
  ext1
  simp [mapValues, filter, List.filter_map, Function.comp_def]

/-! ### Renamed keys -/

/-- **The same entries under other keys.** -/
def mapKeys (ρ : Equiv.Perm κ) (r : Registry κ α) : Registry κ α where
  entries := r.entries.map fun e => (ρ e.1, e.2)
  nodup := by
    have h_nodup := r.nodup.map ρ.injective
    rw [List.map_map] at h_nodup ⊢
    exact h_nodup

theorem mapKeys_eq_self {ρ : Equiv.Perm κ} {r : Registry κ α}
    (h : ∀ e ∈ r.entries, ρ e.1 = e.1) : r.mapKeys ρ = r := by
  ext1
  simp only [mapKeys]
  conv_rhs => rw [← List.map_id r.entries]
  exact List.map_congr_left fun e he => by rw [h e he]; rfl

section Keyed

variable [DecidableEq κ]

/-! ### Membership -/

theorem mem_keys_iff {r : Registry κ α} {k : κ} : k ∈ r.keys ↔ ∃ v, r.find? k = some v := by
  rw [← not_iff_not, ← find?_eq_none_iff, Option.eq_none_iff_forall_ne_some]
  simp

theorem contains_iff {r : Registry κ α} {k : κ} :
    r.contains k = true ↔ ∃ v, r.find? k = some v := by
  rw [contains, Option.isSome_iff_exists]

theorem mem_values_iff {r : Registry κ α} {v : α} : v ∈ r.values ↔ ∃ k, r.find? k = some v := by
  simp only [values, List.mem_map, find?_eq_some_iff]
  constructor
  · rintro ⟨⟨k, v'⟩, h_mem, rfl⟩
    exact ⟨k, h_mem⟩
  · rintro ⟨k, h_mem⟩
    exact ⟨(k, v), h_mem, rfl⟩

/-- With distinct keys, one element has the key of an element. -/
theorem filter_key_eq {f : α → κ} {xs : List α} (h_nodup : (xs.map f).Nodup) {x : α}
    (h_mem : x ∈ xs) : xs.filter (f · = f x) = [x] := by
  induction xs with
  | nil => cases h_mem
  | cons y xs ih =>
    rw [List.map_cons, List.nodup_cons] at h_nodup
    rcases List.mem_cons.mp h_mem with rfl | h_mem
    · -- the key is not met again further on
      rw [List.filter_cons_of_pos (by simp), List.filter_eq_nil_iff.mpr]
      intro y hy h_key
      exact h_nodup.1 (of_decide_eq_true h_key ▸ List.mem_map_of_mem hy)
    · have h_ne : f y ≠ f x := fun h_key => h_nodup.1 (h_key ▸ List.mem_map_of_mem h_mem)
      rw [List.filter_cons_of_neg (by simpa using h_ne), ih h_nodup.2 h_mem]

/-- With distinct keys, the elements but one are those with another key. -/
theorem filter_key_ne {f : α → κ} {xs : List α} (h_nodup : (xs.map f).Nodup) {i : Nat} {x : α}
    (h_get : xs[i]? = some x) : xs.filter (f · != f x) = xs.eraseIdx i := by
  induction xs generalizing i with
  | nil => cases h_get
  | cons y xs ih =>
    rw [List.map_cons, List.nodup_cons] at h_nodup
    cases i with
    | zero =>
      obtain rfl : y = x := Option.some.inj h_get
      rw [List.eraseIdx_cons_zero, List.filter_cons_of_neg (by simp), List.filter_eq_self]
      intro z hz
      exact bne_iff_ne.mpr fun h_key => h_nodup.1 (h_key ▸ List.mem_map_of_mem hz)
    | succ i =>
      rw [List.getElem?_cons_succ] at h_get
      have h_ne : f y ≠ f x := fun h_key =>
        h_nodup.1 (h_key ▸ List.mem_map_of_mem (List.mem_of_getElem? h_get))
      rw [List.eraseIdx_cons_succ, List.filter_cons_of_pos (by simpa using h_ne),
        ih h_nodup.2 h_get]

/-- With distinct keys, one entry has the key. -/
theorem filter_eq_singleton {entries : List (κ × α)} (h_nodup : (entries.map Prod.fst).Nodup)
    {k : κ} {v : α} (h : (k, v) ∈ entries) : entries.filter (·.1 = k) = [(k, v)] :=
  filter_key_eq h_nodup h

/-! ### Look-ups -/

theorem erase_eq_filter (r : Registry κ α) (k : κ) :
    r.erase k = r.filter fun k' _ => decide (k' ≠ k) := rfl

@[grind =] theorem find?_filter (r : Registry κ α) (p : κ → α → Bool) (k : κ) :
    (r.filter p).find? k = (r.find? k).filter (p k) := by
  ext v
  rw [find?_eq_some_iff, Option.filter_eq_some_iff, find?_eq_some_iff]
  simp [filter]

theorem filter_erase (r : Registry κ α) (p : κ → α → Bool) (k : κ) :
    (r.erase k).filter p = (r.filter p).erase k := by
  rw [erase_eq_filter, erase_eq_filter, filter_filter, filter_filter]
  exact filter_congr fun _ _ => Bool.and_comm _ _

/-- A filter that looks at keys only either has a new value or does not notice it. -/
theorem filter_insert (r : Registry κ α) (p : κ → Bool) (k : κ) (v : α) :
    (r.insert k v).filter (fun k _ => p k) =
      if p k then (r.filter fun k _ => p k).insert k v else r.filter fun k _ => p k := by
  have h_put : ∀ entries : List (κ × α), (Entries.put k v entries).filter (p ·.1) =
      if p k then Entries.put k v (entries.filter (p ·.1)) else entries.filter (p ·.1) := by
    intro entries
    induction entries with
    | nil => cases hp : p k <;> simp [Entries.put, hp]
    | cons e rest ih =>
      obtain ⟨k₀, v₀⟩ := e
      by_cases hk : k₀ = k
      · subst hk
        cases hp : p k₀ <;> simp [Entries.put, hp]
      · cases hp : p k <;> cases hp₀ : p k₀ <;>
          simp [Entries.put, hk, ih, hp, hp₀]
  ext1
  simp only [filter, insert, h_put]
  split <;> rfl

/-- A key that is new comes last. -/
theorem entries_insert_of_find?_eq_none {r : Registry κ α} {k : κ} {v : α}
    (h : r.find? k = none) : (r.insert k v).entries = r.entries ++ [(k, v)] := by
  have h_put : ∀ entries : List (κ × α), Entries.find? k entries = none →
      Entries.put k v entries = entries ++ [(k, v)] := by
    intro entries
    induction entries with
    | nil => intro _; rfl
    | cons e rest ih =>
      obtain ⟨k₀, v₀⟩ := e
      intro h_none
      by_cases hk : k₀ = k
      · simp [Entries.find?, hk] at h_none
      · simp only [Entries.find?, hk, if_false] at h_none
        simp [Entries.put, hk, ih h_none]
  exact h_put _ h

/-- Changing the value that was just inserted is inserting the changed value. -/
theorem modify_insert_self (r : Registry κ α) (k : κ) (v : α) (f : α → α)
    (h : r.find? k = none) : (r.insert k v).modify k f = r.insert k (f v) := by
  ext1
  simp only [modify, mapValues]
  rw [entries_insert_of_find?_eq_none h, entries_insert_of_find?_eq_none h, List.map_append]
  -- the entries that were there have other keys, and the new one is changed
  congr 1
  · conv_rhs => rw [← List.map_id r.entries]
    refine List.map_congr_left fun e he => ?_
    have hk : e.1 ≠ k := fun hk =>
      find?_eq_none_iff.mp h (hk ▸ List.mem_map_of_mem (f := Prod.fst) he)
    simp [hk]
  · simp

/-- Setting a key to what becomes of its value is changing the value. -/
theorem insert_eq_modify {r : Registry κ α} {k : κ} {v : α} (h : r.find? k = some v) (f : α → α) :
    r.insert k (f v) = r.modify k f := by
  have h_put : ∀ entries : List (κ × α), (entries.map Prod.fst).Nodup →
      Entries.find? k entries = some v → Entries.put k (f v) entries =
        entries.map fun e => (e.1, if e.1 = k then f e.2 else e.2) := by
    intro entries
    induction entries with
    | nil => intro _ h_none; cases h_none
    | cons e rest ih =>
      obtain ⟨k₀, v₀⟩ := e
      intro h_nodup h_some
      rw [List.map_cons, List.nodup_cons] at h_nodup
      by_cases hk : k₀ = k
      · -- the key is not met again further on
        subst hk
        have h_rest : rest.map (fun e => (e.1, if e.1 = k₀ then f e.2 else e.2)) = rest := by
          conv_rhs => rw [← List.map_id rest]
          refine List.map_congr_left fun e he => ?_
          have h_in := List.mem_map_of_mem (f := Prod.fst) he
          have h_ne : e.1 ≠ k₀ := fun h_eq => h_nodup.1 (h_eq ▸ h_in)
          rw [if_neg h_ne, id_eq]
        simp only [Entries.find?, if_true, Option.some.injEq] at h_some
        simp [Entries.put, h_some, h_rest]
      · simp only [Entries.find?, hk, if_false] at h_some
        simp [Entries.put, hk, ih h_nodup.2 h_some]
  ext1
  exact h_put _ r.nodup h

/-- Changing a key that is not there changes nothing. -/
theorem modify_of_find?_eq_none {r : Registry κ α} {k : κ} (h : r.find? k = none) (f : α → α) :
    r.modify k f = r := by
  refine mapValues_eq_self fun e he => if_neg fun hk => ?_
  exact find?_eq_none_iff.mp h (hk ▸ List.mem_map_of_mem (f := Prod.fst) he)

/-- The value of a key in a registry made from a list is the last one given to it. -/
theorem find?_foldl_insert (entries : List (κ × α)) (r : Registry κ α) (k : κ) :
    (entries.foldl (fun r e => r.insert e.1 e.2) r).find? k =
      ((entries.filter (·.1 = k)).getLast?.map Prod.snd).or (r.find? k) := by
  induction entries generalizing r with
  | nil => simp
  | cons e entries ih =>
    -- a later entry with the key overrides this one
    rw [List.foldl_cons, ih, find?_insert]
    by_cases hk : e.1 = k
    · simp only [hk, if_true, decide_true, List.filter_cons_of_pos, List.getLast?_cons]
      cases (entries.filter (·.1 = k)).getLast? <;> simp
    · simp [hk]

theorem find?_ofList (entries : List (κ × α)) (k : κ) :
    (ofList entries).find? k = (entries.filter (·.1 = k)).getLast?.map Prod.snd := by
  rw [ofList, find?_foldl_insert]
  simp

/-- The same keys in the same order, and the same look-ups. -/
theorem ext_find? {r r' : Registry κ α} (h_keys : r.keys = r'.keys)
    (h_find : ∀ k, r.find? k = r'.find? k) : r = r' := by
  ext1
  have h_length : r.entries.length = r'.entries.length := by
    simpa [keys] using congrArg List.length h_keys
  refine List.ext_getElem h_length fun n hn hn' => ?_
  -- the entries at one place have one key, and so one value
  have h_key : r.entries[n].1 = r'.entries[n].1 := by
    simpa [keys, hn, hn'] using congrArg (·[n]?) h_keys
  have h_value : r.find? r.entries[n].1 = some r.entries[n].2 :=
    find?_eq_some_iff.mpr (List.getElem_mem hn)
  have h_value' : r'.find? r'.entries[n].1 = some r'.entries[n].2 :=
    find?_eq_some_iff.mpr (List.getElem_mem hn')
  rw [h_key, h_find, h_value'] at h_value
  exact Prod.ext h_key (Option.some.inj h_value).symm

/-- Setting the value that a key has changes nothing. -/
theorem insert_of_find? {r : Registry κ α} {k : κ} {v : α} (h : r.find? k = some v) :
    r.insert k v = r := by
  have h_put : ∀ entries : List (κ × α), Entries.find? k entries = some v →
      Entries.put k v entries = entries := by
    intro entries
    induction entries with
    | nil => intro h_some; cases h_some
    | cons e rest ih =>
      obtain ⟨k₀, v₀⟩ := e
      intro h_some
      by_cases hk : k₀ = k
      · simp only [Entries.find?, hk, if_true, Option.some.injEq] at h_some
        simp [Entries.put, hk, h_some]
      · simp only [Entries.find?, hk, if_false] at h_some
        simp [Entries.put, hk, ih h_some]
  ext1
  exact h_put _ h

/-! ### Changes after insertions -/

theorem mapValues_insert (r : Registry κ α) (k : κ) (v : α) (f : κ → α → β) :
    (r.insert k v).mapValues f = (r.mapValues f).insert k (f k v) := by
  ext1
  simp only [mapValues, insert]
  induction r.entries with
  | nil => rfl
  | cons e rest ih =>
    obtain ⟨k₀, v₀⟩ := e
    by_cases hk : k₀ = k
    · subst hk
      simp [Entries.put]
    · simp [Entries.put, hk, ih]

/-- A change of one value, seen through a change of all. -/
theorem mapValues_modify (r : Registry κ α) {k : κ} {f : α → α} {f' : β → β} {g : κ → α → β}
    (h : ∀ v, g k (f v) = f' (g k v)) :
    (r.modify k f).mapValues g = (r.mapValues g).modify k f' := by
  rw [modify, modify, mapValues_mapValues, mapValues_mapValues]
  refine mapValues_congr fun e _ => ?_
  by_cases hk : e.1 = k
  · rw [if_pos hk, if_pos hk, hk, h]
  · rw [if_neg hk, if_neg hk]

theorem mapKeys_insert (ρ : Equiv.Perm κ) (r : Registry κ α) (k : κ) (v : α) :
    (r.insert k v).mapKeys ρ = (r.mapKeys ρ).insert (ρ k) v := by
  ext1
  simp only [mapKeys, insert]
  induction r.entries with
  | nil => rfl
  | cons e rest ih =>
    obtain ⟨k₀, v₀⟩ := e
    by_cases hk : k₀ = k
    · simp [Entries.put, hk]
    · simp [Entries.put, hk, ih]

end Keyed

end Clickwork.Registry
