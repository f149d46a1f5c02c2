import Clickwork.Proofs.Registry
import Clickwork.Scene.Change
import Clickwork.Targets.Slots
import Mathlib.Data.List.Forall2
import Mathlib.Data.List.Induction
import Mathlib.Data.List.InsertIdx
import Mathlib.Data.List.Perm.Basic

/-!
# What a click assigns

The value a sibling takes, said without the index that `RuleSet.build` makes: the last rule that
takes effect and asks for the sibling's value decides, or else the last one that asks for the
primary value (`RuleSet.siblingTarget`).

A click reads the row of the clicked instance from the target table, its own entry first
(`TargetTable.effects_natCast`). The reaction of an instance gives each entry of the row to the slot
at its place (`Reaction.ofRow`, `Reaction.build_eq`).

`Reaction.Assigns` says that a reaction gives each variable of a list the value at the same place of
another list, and does nothing else. If no slot is vacant, the reaction of an instance assigns the
row to the variables of the group (`Reaction.build_ok`), and a click that triggers it gives exactly
these variables these values (`Reaction.Assigns.find?_clickBatch`).
-/

namespace Clickwork

/-! ### The last rule decides -/

namespace RuleSet

section Last

variable (rules : List Rule) (primary : Setting) (resetToken : String)

/-- What the last rule does that takes effect and asks for the value. -/
def lastOutcome (value : String) : Option Outcome :=
  ((rules.filterMap (·.effect? primary.property resetToken)).filter
    (·.1 = value)).getLast?.map Prod.snd

/-- **The value a sibling takes**, from the value it was captured with. -/
def siblingTarget (captured : String) : String :=
  match (lastOutcome rules primary resetToken captured).or
      (lastOutcome rules primary resetToken primary.value) with
  | some outcome => outcome.apply captured
  | none => captured

theorem lastOutcome_append (r : Rule) (value : String) :
    lastOutcome (rules ++ [r]) primary resetToken value =
      match r.effect? primary.property resetToken with
      | none => lastOutcome rules primary resetToken value
      | some (value', outcome) =>
        if value' = value then some outcome else lastOutcome rules primary resetToken value := by
  unfold lastOutcome
  rcases h_effect : r.effect? primary.property resetToken with _ | ⟨value', outcome⟩
  · simp [h_effect]
  · by_cases h_value : value' = value <;> simp [h_effect, h_value]

theorem build_append (r : Rule) :
    build (rules ++ [r]) primary resetToken =
      add primary resetToken (build rules primary resetToken) r := by
  rw [build, List.foldl_append]
  rfl

theorem find?_byCondition_build (value : String) :
    (build rules primary resetToken).byCondition.find? value =
      lastOutcome rules primary resetToken value := by
  induction rules using List.reverseRecOn with
  | nil => rfl
  | append_singleton rules r ih =>
    rw [build_append, lastOutcome_append, add]
    rcases r.effect? primary.property resetToken with _ | ⟨value', outcome⟩
    · exact ih
    · rw [← ih]
      exact Registry.find?_insert _ _ _ _

theorem fallback_build :
    (build rules primary resetToken).fallback =
      lastOutcome rules primary resetToken primary.value := by
  induction rules using List.reverseRecOn with
  | nil => rfl
  | append_singleton rules r ih =>
    rw [build_append, lastOutcome_append, add]
    rcases r.effect? primary.property resetToken with _ | ⟨value', outcome⟩
    · exact ih
    · rw [← ih]

/-- What the index gives a sibling: the last outcome for the value it shows, or else the last one
for the primary value. -/
theorem target_eq_elim (shown captured : String) :
    (build rules primary resetToken).target shown captured =
      ((lastOutcome rules primary resetToken shown).or
        (lastOutcome rules primary resetToken primary.value)).elim captured (·.apply captured) := by
  unfold target
  rw [find?_byCondition_build, fallback_build]
  cases (lastOutcome rules primary resetToken shown).or
      (lastOutcome rules primary resetToken primary.value) <;> rfl

/-- **The index and the list of rules give a sibling the same value.** -/
theorem target_build (captured : String) :
    (build rules primary resetToken).target captured captured =
      siblingTarget rules primary resetToken captured := by
  rw [target_eq_elim, siblingTarget]
  cases (lastOutcome rules primary resetToken captured).or
      (lastOutcome rules primary resetToken primary.value) <;> rfl

end Last

end RuleSet

/-! ### Tables -/

namespace TargetTable

/-- The table of a group whose siblings have the given targets. -/
def ofSiblings (primary : Setting) (siblings : List String) : TargetTable where
  property := primary.property
  rows := (List.range siblings.length).map (row primary siblings)

/-- Values that are still shown as they were captured compile to a table. -/
theorem compile_self (rules : List Rule) (primary : Setting) (captured : List String)
    (resetToken : String) :
    compile rules primary captured captured resetToken =
      .ok (ofSiblings primary (captured.map (RuleSet.siblingTarget rules primary resetToken))) := by
  have h_siblings : List.zipWith (RuleSet.build rules primary resetToken).target captured captured =
      captured.map (RuleSet.siblingTarget rules primary resetToken) := by
    rw [List.zipWith_self]
    exact List.map_congr_left fun c _ => RuleSet.target_build rules primary resetToken c
  rw [compile, if_neg (fun h => h rfl), h_siblings, ofSiblings, List.length_map]

@[simp] theorem length_row (primary : Setting) (siblings : List String) (i : Nat) :
    (row primary siblings i).length = siblings.length := by
  simp [row]

/-- The row of a click: the primary value for the clicked instance, its target for any other. -/
theorem getElem?_row (primary : Setting) (siblings : List String) {i j : Nat}
    (hj : j < siblings.length) :
    (row primary siblings i)[j]? = if i = j then some primary.value else siblings[j]? := by
  rw [row, List.getElem?_set]
  by_cases h : i = j <;> simp [h, hj]

theorem at?_natCast {α : Type} (xs : List α) (i : Nat) : at? xs (i : Int) = xs[i]? := by
  simp [at?]

section OwnFirst

variable {α β : Type}

/-- **The elements of a list, that at index `i` first**, the others in order. -/
def ownFirst (xs : List α) (i : Nat) : List α :=
  xs[i]?.toList ++ xs.eraseIdx i

theorem ownFirst_map (f : α → β) (xs : List α) (i : Nat) :
    ownFirst (xs.map f) i = (ownFirst xs i).map f := by
  rw [ownFirst, ownFirst, List.eraseIdx_map, List.getElem?_map, List.map_append]
  cases xs[i]? <;> rfl

theorem ownFirst_perm (xs : List α) (i : Nat) : (ownFirst xs i).Perm xs := by
  rw [ownFirst]
  cases h_get : xs[i]? with
  | none =>
    rw [List.eraseIdx_of_length_le (List.getElem?_eq_none_iff.mp h_get)]
    exact .refl xs
  | some x =>
    obtain ⟨hi, rfl⟩ := List.getElem?_eq_some_iff.mp h_get
    exact List.getElem_cons_eraseIdx_perm hi

end OwnFirst

/-- **The entries of a row**, each with the index of its instance. -/
def indexed (row : List String) : List (Int × String) :=
  row.zipIdx.map fun (value, j) => ((j : Int), value)

theorem getElem?_indexed (row : List String) (j : Nat) :
    (indexed row)[j]? = row[j]?.map fun value => ((j : Int), value) := by
  rw [indexed, List.getElem?_map, List.getElem?_zipIdx, Option.map_map]
  simp [Function.comp_def]

theorem nodup_indexed (row : List String) : ((indexed row).map Prod.fst).Nodup := by
  have h_fst : (indexed row).map Prod.fst =
      (row.zipIdx.map Prod.snd).map fun j : Nat => (j : Int) := by
    rw [indexed, List.map_map, List.map_map]
    rfl
  rw [h_fst, List.zipIdx_map_snd]
  exact (List.nodup_range' ..).map fun _ _ h => Int.ofNat_inj.mp h

/-- **The effects of a click** are the entries of its row, that of the clicked instance first. -/
theorem effects_natCast {t : TargetTable} {i : Nat} {row : List String}
    (h_row : t.rows[i]? = some row) (hi : i < row.length) :
    t.effects i = .ok (ownFirst (indexed row) i) := by
  have h_entry : (indexed row)[i]? = some ((i : Int), row[i]) := by
    rw [getElem?_indexed, List.getElem?_eq_getElem hi, Option.map_some]
  rw [effects, at?_natCast, h_row]
  simp only [at?_natCast, List.getElem?_eq_getElem hi]
  rw [ownFirst, h_entry, ← Registry.filter_key_ne (nodup_indexed row) h_entry]
  rfl

end TargetTable

/-! ### Reactions -/

/-- A step of a list that succeeds for each element succeeds for the list. -/
theorem Except.mapM_ok {ε α β : Type} {f : α → Except ε β} {P : α → β → Prop} {xs : List α}
    (h : ∀ a ∈ xs, ∃ b, f a = .ok b ∧ P a b) :
    ∃ bs, xs.mapM f = .ok bs ∧ List.Forall₂ P xs bs := by
  induction xs with
  | nil => exact ⟨[], rfl, .nil⟩
  | cons x xs ih =>
    obtain ⟨b, h_first, hP⟩ := h x List.mem_cons_self
    obtain ⟨bs, h_rest, h_all⟩ := ih fun a h_mem => h a (List.mem_cons_of_mem _ h_mem)
    refine ⟨b :: bs, ?_, .cons hP h_all⟩
    rw [List.mapM_cons, h_first, h_rest]
    rfl

/-- What a step of a list comes to, it came to for the elements in turn. -/
theorem Except.forall₂_of_mapM {ε α β : Type} {f : α → Except ε β} {xs : List α} {ys : List β}
    (h : xs.mapM f = .ok ys) : List.Forall₂ (fun x y => f x = .ok y) xs ys := by
  induction xs generalizing ys with
  | nil =>
    cases h
    exact .nil
  | cons x xs ih =>
    rw [List.mapM_cons] at h
    cases h_first : f x with
    | error e => rw [h_first] at h; cases h
    | ok y =>
      cases h_rest : xs.mapM f with
      | error e => rw [h_first, h_rest] at h; cases h
      | ok ys' =>
        rw [h_first, h_rest] at h
        cases h
        exact .cons h_first (ih h_rest)

theorem Except.of_mem_mapM {ε α β : Type} {f : α → Except ε β} {xs : List α} {ys : List β}
    (h : xs.mapM f = .ok ys) : ∀ y ∈ ys, ∃ x ∈ xs, f x = .ok y := by
  have h_all := Except.forall₂_of_mapM h
  clear h
  induction h_all with
  | nil => exact nofun
  | cons h_first _ ih => exact List.forall_mem_cons.mpr ⟨⟨_, List.mem_cons_self, h_first⟩,
      fun y hy => (ih y hy).imp fun _ h_found => h_found.imp_left (List.mem_cons_of_mem _)⟩

/-- If a step of a list succeeds, it succeeds for each element. -/
theorem Except.ok_of_mapM {ε α β : Type} {f : α → Except ε β} {xs : List α} {ys : List β}
    (h : xs.mapM f = .ok ys) : ∀ x ∈ xs, ∃ y, f x = .ok y := by
  have h_all := Except.forall₂_of_mapM h
  clear h
  induction h_all with
  | nil => exact nofun
  | cons h_first _ ih => exact List.forall_mem_cons.mpr ⟨⟨_, h_first⟩, ih⟩

/-- A step of a list fails as it fails for an element. -/
theorem Except.mapM_error {ε α β : Type} {f : α → Except ε β} {xs : List α} {e : ε}
    (h : xs.mapM f = .error e) : ∃ x ∈ xs, f x = .error e := by
  induction xs with
  | nil => cases h
  | cons x xs ih =>
    rw [List.mapM_cons] at h
    cases h_first : f x with
    | error e' =>
      rw [h_first] at h
      exact ⟨x, List.mem_cons_self, h_first.trans (congrArg _ (Except.error.inj h))⟩
    | ok y =>
      cases h_rest : xs.mapM f with
      | error e' =>
        rw [h_first, h_rest] at h
        obtain ⟨x', hx', h_eq⟩ := ih (h_rest.trans (congrArg _ (Except.error.inj h)))
        exact ⟨x', List.mem_cons_of_mem x hx', h_eq⟩
      | ok ys =>
        rw [h_first, h_rest] at h
        cases h

namespace Reaction

open TargetTable (ownFirst indexed)

/-- The assignment of a value to a slot, which has to have a variable. -/
def assign? (e : Slot × String) : Option Assignment :=
  e.1.target?.map fun target => ⟨target, e.2⟩

/-- **The reaction that gives the variables of a group the values of a row**, instance `i` first. -/
def ofRow (slots : List Slot) (row : List String) (i : Nat) : Reaction where
  actions := (ownFirst (slots.zip row) i).filterMap assign?

theorem targets_ofRow {slots : List Slot} {row : List String} (h_length : row.length = slots.length)
    (i : Nat) : (ofRow slots row i).targets = (ownFirst slots i).filterMap Slot.target? := by
  have h_slots : ownFirst slots i = (ownFirst (slots.zip row) i).map Prod.fst := by
    rw [← TargetTable.ownFirst_map, List.map_fst_zip (Nat.le_of_eq h_length.symm)]
  rw [h_slots, List.filterMap_map, targets, ofRow, List.map_filterMap]
  refine List.filterMap_congr fun e _ => ?_
  rw [assign?, Option.map_map]
  exact Option.map_id'

theorem mem_actions_ofRow {slots : List Slot} {row : List String} {i : Nat} {a : Assignment} :
    a ∈ (ofRow slots row i).actions ↔
      ∃ j : Nat, slots[j]?.bind Slot.target? = some a.target ∧ row[j]? = some a.value := by
  rw [ofRow, List.mem_filterMap]
  simp only [(TargetTable.ownFirst_perm _ i).mem_iff, List.mem_iff_getElem?,
    List.getElem?_zip_eq_some, assign?, Option.map_eq_some_iff, Option.bind_eq_some_iff]
  constructor
  · rintro ⟨⟨slot, value⟩, ⟨j, h_slot, h_value⟩, target, h_target, rfl⟩
    exact ⟨j, ⟨slot, h_slot, h_target⟩, h_value⟩
  · rintro ⟨j, ⟨slot, h_slot, h_target⟩, h_value⟩
    exact ⟨(slot, a.value), ⟨j, h_slot, h_value⟩, a.target, h_target, rfl⟩

/-- Effects on slots that are there. -/
theorem assignments_eq {slots : List Slot} {es : List (Int × String)} {ps : List (Slot × String)}
    (h : es.map (fun e => (TargetTable.at? slots e.1, e.2)) = ps.map fun p => (some p.1, p.2)) :
    assignments slots es = .ok (ps.filterMap assign?) := by
  induction es generalizing ps with
  | nil =>
    rw [List.map_nil, eq_comm, List.map_eq_nil_iff] at h
    rw [h]
    rfl
  | cons e es ih =>
    cases ps with
    | nil => cases h
    | cons p ps =>
      simp only [List.map_cons, List.cons.injEq, Prod.mk.injEq] at h
      obtain ⟨⟨h_slot, h_value⟩, h_rest⟩ := h
      simp only [assignments, h_slot, h_value, ih h_rest, List.filterMap_cons, assign?]
      cases p.1.target? <;> rfl

/-- The entries of a row and the slots they are for. -/
theorem map_at?_indexed {slots : List Slot} {row : List String}
    (h_length : row.length = slots.length) :
    (indexed row).map (fun e => (TargetTable.at? slots e.1, e.2)) =
      (slots.zip row).map fun p => (some p.1, p.2) := by
  refine List.ext_getElem? fun j => ?_
  rw [List.zip, List.map_zipWith, List.getElem?_zipWith, List.getElem?_map,
    TargetTable.getElem?_indexed]
  cases h_value : row[j]? with
  | none => cases slots[j]? <;> rfl
  | some value =>
    have hj : j < slots.length := h_length ▸ (List.getElem?_eq_some_iff.mp h_value).1
    simp [TargetTable.at?_natCast, hj]

/-- **A row is put into effect** through as many slots as it has values. -/
theorem ofTable_eq {table : TargetTable} {slots : List Slot} {i : Nat} {row : List String}
    (h_row : table.rows[i]? = some row) (h_length : row.length = slots.length)
    (hi : i < slots.length) : ofTable table slots i = .ok (ofRow slots row i) := by
  have h_entries : (ownFirst (indexed row) i).map (fun e => (TargetTable.at? slots e.1, e.2)) =
      (ownFirst (slots.zip row) i).map fun p => (some p.1, p.2) := by
    rw [← TargetTable.ownFirst_map, ← TargetTable.ownFirst_map, map_at?_indexed h_length]
  rw [ofTable, TargetTable.effects_natCast h_row (h_length ▸ hi)]
  change (do return { actions := ← assignments slots (ownFirst (indexed row) i) } :
    Except Failure Reaction) = _
  rw [assignments_eq h_entries]
  rfl

theorem all_vacant (slots : List Slot) :
    slots.all (· == .vacant) = (slots.map Slot.target?).all Option.isNone := by
  induction slots with
  | nil => rfl
  | cons slot slots ih =>
    rw [List.all_cons, List.map_cons, List.all_cons, ih]
    cases slot <;> rfl

/-- All slots are vacant if and only if none has a variable. -/
theorem all_vacant_iff {slots : List Slot} :
    slots.all (· == .vacant) = true ↔ slots.filterMap Slot.target? = [] := by
  rw [all_vacant, List.all_map, List.all_eq_true, List.filterMap_eq_nil_iff]
  exact forall₂_congr fun _ _ => Option.isNone_iff_eq_none

/-- **The reactions of a group** with a square table and a variable in some slot. -/
theorem build_eq {table : TargetTable} {slots : List Slot} {n : Nat}
    (h_rows : table.rows.length = n) (h_row : ∀ row ∈ table.rows, row.length = n)
    (h_slots : slots.length = n) (h_present : slots.filterMap Slot.target? ≠ []) :
    ∃ rs, build (some table) (some slots) n = .ok rs ∧ rs.length = n ∧
      ∀ (i : Nat) (row : List String), table.rows[i]? = some row →
        rs[i]? = some (ofRow slots row i) := by
  -- the table has a row for every place, with an entry for every slot: no place can fail
  have h_each : ∀ i ∈ List.range n, ∃ r, ofTable table slots i = .ok r ∧
      ∀ row, table.rows[i]? = some row → r = ofRow slots row i := by
    intro i hi
    have hi' : i < table.rows.length := h_rows ▸ List.mem_range.mp hi
    have h_get : table.rows[i]? = some table.rows[i] := List.getElem?_eq_getElem hi'
    have h_length : table.rows[i].length = slots.length :=
      (h_row _ (List.getElem_mem hi')).trans h_slots.symm
    refine ⟨_, ofTable_eq h_get h_length (by omega), fun row h_row' => ?_⟩
    rw [Option.some.inj (h_get.symm.trans h_row')]
  obtain ⟨rs, h_mapM, h_all⟩ := Except.mapM_ok h_each
  have h_count : rs.length = n := by rw [← h_all.length_eq, List.length_range]
  refine ⟨rs, ?_, h_count, fun i row h_get => ?_⟩
  · rw [build, if_neg (fun h => h_present (all_vacant_iff.mp h)), h_rows,
      Nat.min_eq_left (Nat.le_succ n)]
    exact h_mapM
  · have hi : i < n := h_rows ▸ (List.getElem?_eq_some_iff.mp h_get).1
    have h_at := (List.forall₂_iff_get.mp h_all).2 i (by simpa using hi) (h_count.symm ▸ hi)
    simp only [List.get_eq_getElem, List.getElem_range] at h_at
    rw [List.getElem?_eq_getElem (h_count.symm ▸ hi), h_at row h_get]

/-- **A click assigns** each variable of a list the value at the same place of another list, and
nothing else. -/
structure Assigns (r : Reaction) (ids values : List String) : Prop where
  onClick : r.onClick = true
  actions : ∀ a, a ∈ r.actions ↔ ∃ j : Nat, ids[j]? = some a.target ∧ values[j]? = some a.value

/-- A row that is put into effect through slots that all have variables. -/
theorem assigns_ofRow {slots : List Slot} {ids : List String}
    (h_slots : slots.map Slot.target? = ids.map some) (row : List String) (i : Nat) :
    (ofRow slots row i).Assigns ids row := by
  refine ⟨rfl, fun a => ?_⟩
  have h_target (j : Nat) : slots[j]?.bind Slot.target? = ids[j]? := by
    have h_at := congrArg (·[j]?) h_slots
    simp only [List.getElem?_map] at h_at
    cases h_slot : slots[j]? <;> cases h_id : ids[j]? <;> simp_all
  simp only [mem_actions_ofRow, h_target]

/-- **The reactions of a group whose slots all have variables**: instance `i` assigns its row. -/
theorem build_ok {slots : List Slot} {ids : List String} (primary : Setting)
    (siblings : List String) (h_slots : slots.map Slot.target? = ids.map some)
    (h_length : siblings.length = ids.length) :
    ∃ rs, build (some (.ofSiblings primary siblings)) (some slots) ids.length = .ok rs ∧
      rs.length = ids.length ∧
      ∀ (i : Nat) (r : Reaction), rs[i]? = some r →
        r.Assigns ids (TargetTable.row primary siblings i) := by
  have h_count : slots.length = ids.length := by
    simpa using congrArg List.length h_slots
  have h_present : slots.filterMap Slot.target? = ids := by
    have h_targets := congrArg (List.filterMap id) h_slots
    rw [List.filterMap_map, List.filterMap_map] at h_targets
    exact h_targets.trans List.filterMap_some
  rcases ids with _ | ⟨id, ids⟩
  · -- there is no instance, and so no reaction
    rw [List.length_nil, List.length_eq_zero_iff] at h_count
    exact ⟨[], by rw [h_count]; rfl, rfl, nofun⟩
  · have h_table : (TargetTable.ofSiblings primary siblings).rows.length = (id :: ids).length := by
      simp [TargetTable.ofSiblings, h_length]
    obtain ⟨rs, h_build, h_length', h_each⟩ := build_eq h_table
      (by simp [TargetTable.ofSiblings, h_length]) h_count (by simp [h_present])
    refine ⟨rs, h_build, h_length', fun i r hr => ?_⟩
    have hi : i < siblings.length := by
      rw [h_length, ← h_length']
      exact (List.getElem?_eq_some_iff.mp hr).1
    have h_row : (TargetTable.ofSiblings primary siblings).rows[i]? =
        some (TargetTable.row primary siblings i) := by
      simp [TargetTable.ofSiblings, hi]
    obtain rfl := Option.some.inj (hr.symm.trans (h_each i _ h_row))
    exact assigns_ofRow h_slots _ i

/-! ### Clicks -/

/-- **What a click on a node with one reaction assigns** to a variable: the last of its actions on
the variable decides. -/
theorem find?_clickBatch {r : Reaction} (h_onClick : r.onClick = true) (id : String) :
    (Scene.clickBatch [r]).find? id =
      (r.actions.filter (·.target = id)).getLast?.map (·.value) := by
  have h_list : (([r].filter (·.onClick)).flatMap fun r =>
      r.actions.map fun a => (a.target, a.value)) = r.actions.map fun a => (a.target, a.value) := by
    simp [h_onClick]
  rw [Scene.clickBatch, h_list, Registry.find?_ofList, List.filter_map, List.getLast?_map,
    Option.map_map]
  rfl

/-- The click leaves a variable alone on which there is no action. -/
theorem find?_clickBatch_of_ne {r : Reaction} (h_onClick : r.onClick = true) {id : String}
    (h_ne : ∀ a ∈ r.actions, a.target ≠ id) : (Scene.clickBatch [r]).find? id = none := by
  have h_none : r.actions.filter (·.target = id) = [] :=
    List.filter_eq_nil_iff.mpr fun a ha h_target => h_ne a ha (of_decide_eq_true h_target)
  rw [find?_clickBatch h_onClick, h_none]
  rfl

/-- **What a click assigns**, if the variables are distinct. -/
theorem Assigns.find?_clickBatch {r : Reaction} {ids values : List String}
    (h : r.Assigns ids values) (h_nodup : ids.Nodup) {j : Nat} {id value : String}
    (h_id : ids[j]? = some id) (h_value : values[j]? = some value) :
    (Scene.clickBatch [r]).find? id = some value := by
  rw [Reaction.find?_clickBatch h.onClick]
  -- every action on the variable gives it this value, and there is one
  have h_same : ∀ a ∈ r.actions.filter (·.target = id), a.value = value := by
    intro a ha
    simp only [List.mem_filter, decide_eq_true_eq] at ha
    obtain ⟨ha, h_target⟩ := ha
    obtain ⟨j', h_id', h_value'⟩ := (h.actions a).mp ha
    obtain rfl : j = j' := by
      refine (List.getElem?_inj (List.getElem?_eq_some_iff.mp h_id).1 h_nodup).mp ?_
      rw [h_id, h_id', ← h_target]
    exact Option.some.inj (h_value'.symm.trans h_value)
  have h_in : (⟨id, value⟩ : Assignment) ∈ r.actions.filter (·.target = id) :=
    List.mem_filter.mpr ⟨(h.actions _).mpr ⟨j, h_id, h_value⟩, decide_eq_true rfl⟩
  cases h_last : (r.actions.filter (·.target = id)).getLast? with
  | none =>
    rw [List.getLast?_eq_none_iff.mp h_last] at h_in
    cases h_in
  | some a => rw [Option.map_some, h_same a (List.mem_of_getLast? h_last)]

/-- A click leaves every other variable alone. -/
theorem Assigns.find?_clickBatch_of_not_mem {r : Reaction} {ids values : List String}
    (h : r.Assigns ids values) {id : String} (h_id : id ∉ ids) :
    (Scene.clickBatch [r]).find? id = none := by
  refine find?_clickBatch_of_ne h.onClick fun a ha h_target => ?_
  obtain ⟨j, h_get, -⟩ := (h.actions a).mp ha
  exact h_id (h_target ▸ List.mem_of_getElem? h_get)

end Reaction

end Clickwork
