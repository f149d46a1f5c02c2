import Clickwork.Proofs.Targets

/-!
# Reactions that realise a table

A table for `n` instances has `n` rows of `n` values (`TargetTable.Square`). Built through slots
with distinct variables, reaction `i` gives each variable the value at its place in row `i`, and no
other variable any (`Reaction.Realises`): once, its own variable first, and the others in the order
of the group. Slots that are vacant are passed over wherever they stand, and do not shift the values
of the others. So a click sets each variable of the group to the value in the row and leaves
everything else alone (`Realises.find?_clickBatch`).

`Reaction.build_realises` says this of every such table, and that reactions do nothing if there is
nothing to put into effect. It reads off the two equations for a row: `TargetTable.effects_natCast`,
by which the effects of a click are the entries of the row in another order, and
`Reaction.build_eq`, by which the reactions pair each slot with its entry.
-/

namespace Clickwork

/-- **A table for `n` instances**: a row for each of them, with a value for each. -/
structure TargetTable.Square (t : TargetTable) (n : Nat) : Prop where
  length_rows : t.rows.length = n
  length_row : ∀ row ∈ t.rows, row.length = n

theorem TargetTable.Square.exists_row {t : TargetTable} {n i : Nat} (h_square : t.Square n)
    (hi : i < n) : ∃ row, t.rows[i]? = some row ∧ row.length = n := by
  have hi' : i < t.rows.length := h_square.length_rows.symm ▸ hi
  exact ⟨_, List.getElem?_eq_getElem hi', h_square.length_row _ (List.getElem_mem hi')⟩

namespace Reaction

/-- **The reaction of instance `i` realises its row** through the slots of the group. -/
structure Realises (r : Reaction) (slots : List Slot) (row : List String) (i : Nat) : Prop where
  onClick : r.onClick = true
  /-- Each variable is assigned once: the value at its place in the row. -/
  once : ∀ (j : Nat) (id : String), slots[j]?.bind Slot.target? = some id →
    ∃ value, row[j]? = some value ∧ r.actions.filter (·.target = id) = [⟨id, value⟩]
  /-- Nothing else is assigned. -/
  only : ∀ a ∈ r.actions, a.target ∈ slots.filterMap Slot.target?
  /-- The variable of the instance comes first, if it has one, and the others follow in order. -/
  targets : r.targets =
    (slots[i]?.bind Slot.target?).toList ++ (slots.eraseIdx i).filterMap Slot.target?

theorem realises_ofRow {slots : List Slot} {row : List String}
    (h_length : row.length = slots.length) (h_nodup : (slots.filterMap Slot.target?).Nodup)
    (i : Nat) : (ofRow slots row i).Realises slots row i := by
  have h_targets := targets_ofRow h_length i
  -- the variables that are assigned are those of the slots, in another order
  have h_perm : (ofRow slots row i).targets.Perm (slots.filterMap Slot.target?) := by
    rw [h_targets]
    exact (TargetTable.ownFirst_perm slots i).filterMap Slot.target?
  refine ⟨rfl, fun j id h_id => ?_, fun a ha => ?_, ?_⟩
  · have hj : j < row.length := by
      obtain ⟨slot, h_slot, -⟩ := Option.bind_eq_some_iff.mp h_id
      exact h_length ▸ (List.getElem?_eq_some_iff.mp h_slot).1
    have h_value : row[j]? = some row[j] := List.getElem?_eq_getElem hj
    have h_action : (⟨id, row[j]⟩ : Assignment) ∈ (ofRow slots row i).actions :=
      mem_actions_ofRow.mpr ⟨j, h_id, h_value⟩
    exact ⟨_, h_value, Registry.filter_key_eq (h_perm.nodup_iff.mpr h_nodup) h_action⟩
  · exact h_perm.mem_iff.mp (List.mem_map_of_mem ha)
  · rw [h_targets, TargetTable.ownFirst, List.filterMap_append]
    cases slots[i]? with
    | none => rfl
    | some slot => cases h_target : slot.target? <;> simp [h_target]

/-- **A click on an instance whose reaction realises its row** sets each variable of the group to
the value at its place in the row. -/
theorem Realises.find?_clickBatch {r : Reaction} {slots : List Slot} {row : List String} {i : Nat}
    (h : r.Realises slots row i) {j : Nat} {id : String}
    (h_id : slots[j]?.bind Slot.target? = some id) :
    (Scene.clickBatch [r]).find? id = row[j]? := by
  obtain ⟨value, h_value, h_once⟩ := h.once j id h_id
  rw [Reaction.find?_clickBatch h.onClick, h_once, h_value]
  rfl

/-- The click leaves every other variable alone. -/
theorem Realises.find?_clickBatch_of_not_mem {r : Reaction} {slots : List Slot} {row : List String}
    {i : Nat} (h : r.Realises slots row i) {id : String}
    (h_id : id ∉ slots.filterMap Slot.target?) : (Scene.clickBatch [r]).find? id = none :=
  find?_clickBatch_of_ne h.onClick fun a ha h_target => h_id (h_target ▸ h.only a ha)

/-- With nothing to put into effect, reactions do nothing. -/
theorem build_inert {table : Option TargetTable} {slots : Option (List Slot)}
    (h_inert : table = none ∨ slots = none ∨
      ∃ vacant, slots = some vacant ∧ ∀ slot ∈ vacant, slot.target? = none) (count : Nat) :
    build table slots count = .ok (List.replicate count {}) := by
  rcases h_inert with rfl | rfl | ⟨vacant, rfl, h_vacant⟩
  · rfl
  · cases table <;> rfl
  · cases table with
    | none => rfl
    | some table =>
      have h_all := all_vacant_iff.mpr (List.filterMap_eq_nil_iff.mpr h_vacant)
      rw [build, if_pos h_all]

/-- **Reactions realise their table.** With a variable in some slot, and no variable in two, the
reaction of each instance gives the variables of the group the values of its row, once each and its
own variable first; the effects of a click are the entries of the row in another order. Without a
table, without slots, or with nothing but vacant slots, reactions do nothing. -/
theorem build_realises {table : TargetTable} {n : Nat} (h_square : table.Square n) :
    (∀ slots : List Slot, slots.length = n → (slots.filterMap Slot.target?).Nodup →
      slots.filterMap Slot.target? ≠ [] →
        ∃ rs, build (some table) (some slots) n = .ok rs ∧ rs.length = n ∧
          ∀ i < n, ∃ row r, table.rows[i]? = some row ∧ rs[i]? = some r ∧
            r.Realises slots row i) ∧
      (∀ i < n, ∃ row effects, table.rows[i]? = some row ∧ table.effects i = .ok effects ∧
        effects.Perm (TargetTable.indexed row)) ∧
      ∀ (table? : Option TargetTable) (slots? : Option (List Slot)) (count : Nat),
        (table? = none ∨ slots? = none ∨
          ∃ vacant, slots? = some vacant ∧ ∀ slot ∈ vacant, slot.target? = none) →
        ∃ rs, build table? slots? count = .ok rs ∧ rs.length = count ∧
          ∀ r ∈ rs, r.onClick = true ∧ r.actions = [] := by
  refine ⟨fun slots h_slots h_nodup h_present => ?_, fun i hi => ?_,
    fun table? slots? count h_inert => ?_⟩
  · obtain ⟨rs, h_build, h_length, h_each⟩ :=
      build_eq h_square.length_rows h_square.length_row h_slots h_present
    refine ⟨rs, h_build, h_length, fun i hi => ?_⟩
    obtain ⟨row, h_row, h_columns⟩ := h_square.exists_row hi
    exact ⟨row, _, h_row, h_each i row h_row,
      realises_ofRow (h_columns.trans h_slots.symm) h_nodup i⟩
  · obtain ⟨row, h_row, h_columns⟩ := h_square.exists_row hi
    have h_effects := TargetTable.effects_natCast h_row (h_columns.symm ▸ hi)
    exact ⟨row, _, h_row, h_effects, TargetTable.ownFirst_perm _ i⟩
  · refine ⟨_, build_inert h_inert count, List.length_replicate, fun r hr => ?_⟩
    rw [List.eq_of_mem_replicate hr]
    exact ⟨rfl, rfl⟩

/-- A table in which no value is at two places. -/
def crossings : TargetTable where
  property := "State"
  rows := [["0-0", "0-1", "0-2"], ["1-0", "1-1", "1-2"], ["2-0", "2-1", "2-2"]]

/-- Slots of which the one in the middle is vacant. -/
def outermost : List Slot :=
  [.bound "first", .vacant, .unbound "last"]

theorem build_realises_with_vacancy :
    crossings.Square 3 ∧ (outermost.filterMap Slot.target?).Nodup ∧
      ∃ rs, build (some crossings) (some outermost) 3 = .ok rs ∧ rs.length = 3 ∧
        ∃ r, rs[2]? = some r ∧ r.Realises outermost ["2-0", "2-1", "2-2"] 2 := by
  have h_square : crossings.Square 3 := ⟨rfl, by decide⟩
  have h_nodup : (outermost.filterMap Slot.target?).Nodup := by decide
  obtain ⟨rs, h_build, h_length, h_each⟩ :=
    (build_realises h_square).1 outermost rfl h_nodup (by decide)
  obtain ⟨row, r, h_row, h_reaction, h_realises⟩ := h_each 2 (by decide)
  obtain rfl := Option.some.inj h_row
  exact ⟨h_square, h_nodup, rs, h_build, h_length, r, h_reaction, h_realises⟩

example : build (some crossings) (some outermost) 3 = .ok
    [{ actions := [⟨"first", "0-0"⟩, ⟨"last", "0-2"⟩] },
      { actions := [⟨"first", "1-0"⟩, ⟨"last", "1-2"⟩] },
      { actions := [⟨"last", "2-2"⟩, ⟨"first", "2-0"⟩] }] := by
  rfl

end Reaction

end Clickwork
