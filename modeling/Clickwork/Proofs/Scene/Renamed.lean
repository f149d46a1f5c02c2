import Clickwork.Proofs.Scene.Placement
import Clickwork.Proofs.Scene.Removal
import Mathlib.GroupTheory.Perm.ViaEmbedding

/-!
# Other ids for variables

Ids of variables are given out by a counter, and nothing depends on which ones they are.
`Scene.renamed` is a scene under other ids, with another state of the counter. What wiring does to
the renamed scene is what it does to the scene, renamed (`renamed_addMarkers`, `renamed_settleAll`,
`renamed_placeAll`), provided that the ids which come next are renamed to those that come next
there. Reactions are built for renamed slots as for the slots (`Reaction.build_rename`).

`exchange` is a renaming that moves a block of ids to the next block of the same length. A scene
that does not mention the ids to come is left alone by it (`renamed_eq`).
-/

namespace Clickwork

/-! ### Renaming -/

/-- The assignment to the renamed variable. -/
def Assignment.rename (ρ : Equiv.Perm String) (a : Assignment) : Assignment :=
  { a with target := ρ a.target }

/-- The reaction with the variables renamed. -/
def Reaction.rename (ρ : Equiv.Perm String) (r : Reaction) : Reaction :=
  { r with actions := r.actions.map (·.rename ρ) }

theorem Reaction.rename_eq {ρ : Equiv.Perm String} {r : Reaction}
    (h : ∀ target ∈ r.targets, ρ target = target) : r.rename ρ = r := by
  have h_actions : r.actions.map (·.rename ρ) = r.actions := by
    refine (List.map_congr_left fun a ha => ?_).trans (List.map_id _)
    rw [Assignment.rename, h a.target (List.mem_map_of_mem ha)]
    rfl
  rw [Reaction.rename, h_actions]

/-- The slot with its variable renamed. -/
def Slot.rename (ρ : Equiv.Perm String) : Slot → Slot
  | vacant => vacant
  | unbound target => unbound (ρ target)
  | bound target => bound (ρ target)

namespace Scene

/-- The node with the variables renamed that it is bound to or sets. -/
def Node.rename (ρ : Equiv.Perm String) (n : Node) : Node :=
  { n with
    bindings := n.bindings.mapValues fun _ target => ρ target
    reactions := n.reactions.map (·.rename ρ) }

/-- **The scene under other ids of variables**, with the counter at `next`. -/
def renamed (ρ : Equiv.Perm String) (next : Nat) (s : Scene) : Scene :=
  { s with
    nodes := s.nodes.mapValues fun _ n => n.rename ρ
    variableTable := s.variableTable.mapKeys ρ
    nextId := next }

/-- **A scene that does not mention renamed ids** is the same under the other ids. -/
theorem renamed_eq {ρ : Equiv.Perm String} {s : Scene} (next : Nat)
    (h_variables : ∀ id v, s.variableTable.find? id = some v → ρ id = id)
    (h_bindings : ∀ node n property target, s.nodes.find? node = some n →
      n.bindings.find? property = some target → ρ target = target)
    (h_sets : ∀ node target, s.Sets node target → ρ target = target) :
    s.renamed ρ next = { s with nextId := next } := by
  have h_nodes : s.nodes.mapValues (fun _ n => n.rename ρ) = s.nodes := by
    refine Registry.mapValues_eq_self fun e he => ?_
    have hn := Registry.find?_eq_some_iff.mpr he
    have h_bound : e.2.bindings.mapValues (fun _ target => ρ target) = e.2.bindings :=
      Registry.mapValues_eq_self fun b hb =>
        h_bindings e.1 e.2 b.1 b.2 hn (Registry.find?_eq_some_iff.mpr hb)
    have h_reactions : e.2.reactions.map (·.rename ρ) = e.2.reactions := by
      refine (List.map_congr_left fun r hr => ?_).trans (List.map_id _)
      refine Reaction.rename_eq fun target h_target => h_sets e.1 target ⟨r, ?_, h_target⟩
      rwa [reactions_of_find? hn]
    rw [Node.rename, h_bound, h_reactions]
  have h_table : s.variableTable.mapKeys ρ = s.variableTable :=
    Registry.mapKeys_eq_self fun e he =>
      h_variables e.1 e.2 (Registry.find?_eq_some_iff.mpr he)
  rw [renamed, h_nodes, h_table]

/-! ### Adding variables -/

section Equivariance

variable {ρ : Equiv.Perm String} {s : Scene} {next : Nat} {collection property : String}

/-- The next id is renamed to the next id. -/
theorem renamed_addVariable (h_next : ρ (variableId s.nextId) = variableId next)
    (collection name type : String) (value : Json) :
    (s.renamed ρ next).addVariable collection name type value =
      (s.addVariable collection name type value).renamed ρ (next + 1) := by
  simp only [addVariable, renamed, Registry.mapKeys_insert, h_next]

/-- A change of one node under other ids. -/
theorem renamed_modify (node : String) {f f' : Node → Node}
    (h : ∀ n, (f n).rename ρ = f' (n.rename ρ)) :
    ({ s with nodes := s.nodes.modify node f } : Scene).renamed ρ next =
      { s.renamed ρ next with nodes := (s.renamed ρ next).nodes.modify node f' } := by
  simp only [renamed]
  congr 1
  exact Registry.mapValues_modify (g := fun _ n => Node.rename ρ n) _ h

theorem renamed_bind (node property target : String) :
    (s.renamed ρ next).bind node property (ρ target) =
      (s.bind node property target).renamed ρ next := by
  refine (renamed_modify node fun n => ?_).symm
  simp only [Node.rename, Registry.mapValues_insert]

theorem renamed_settle (h_next : ρ (variableId s.nextId) = variableId next) (p : Placement) :
    settle collection property (s.renamed ρ next) p =
      (settle collection property s p).renamed ρ (next + 1) := by
  have h_id : variableId (s.renamed ρ next).nextId = ρ (variableId s.nextId) := h_next.symm
  simp only [settle, renamed_addVariable h_next, h_id, renamed_bind]
  split <;> rfl

/-- **The state variables of a group under other ids.** -/
theorem renamed_settleAll {ps : List Placement}
    (h_next : ∀ k < ps.length, ρ (variableId (s.nextId + k)) = variableId (next + k)) :
    settleAll collection property (s.renamed ρ next) ps =
      (settleAll collection property s ps).renamed ρ (next + ps.length) := by
  induction ps generalizing s next with
  | nil => rfl
  | cons p ps ih =>
    have h_first : ρ (variableId s.nextId) = variableId next := h_next 0 (Nat.zero_lt_succ _)
    rw [settleAll_cons, settleAll_cons, renamed_settle h_first, ih]
    · rw [List.length_cons, show next + 1 + ps.length = next + (ps.length + 1) by omega]
    · intro k hk
      rw [nextId_settle, show s.nextId + 1 + k = s.nextId + (k + 1) by omega,
        show next + 1 + k = next + (k + 1) by omega]
      exact h_next (k + 1) (Nat.succ_lt_succ hk)

/-- **The markers of an interaction under other ids.** -/
theorem renamed_addMarkers {names : List String}
    (h_next : ∀ k < names.length, ρ (variableId (s.nextId + k)) = variableId (next + k)) :
    (s.renamed ρ next).addMarkers collection names =
      (s.addMarkers collection names).renamed ρ (next + names.length) := by
  induction names generalizing s next with
  | nil => rfl
  | cons name names ih =>
    have h_first : ρ (variableId s.nextId) = variableId next := h_next 0 (Nat.zero_lt_succ _)
    have h_rest : ((s.addVariable collection name "BOOLEAN" (.bool false)).renamed ρ
        (next + 1)).addMarkers collection names = _ := ih fun k hk => by
      rw [show next + 1 + k = next + (k + 1) by omega, ← h_next (k + 1) (Nat.succ_lt_succ hk)]
      rw [addVariable, show s.nextId + 1 + k = s.nextId + (k + 1) by omega]
    rw [← renamed_addVariable h_first, show next + 1 + names.length = next + (names.length + 1) by
      omega] at h_rest
    exact h_rest

/-! ### Placing reactions -/

theorem renamed_place (node : String) (reactions : List Reaction) :
    (s.renamed ρ next).place node (reactions.map (·.rename ρ)) =
      (s.place node reactions).renamed ρ next := by
  by_cases h_rejects : node ∈ s.rejectingReactions
  · have h_rejects' : node ∈ (s.renamed ρ next).rejectingReactions := h_rejects
    rw [place, if_pos h_rejects', place, if_pos h_rejects]
  · have h_accepts : node ∉ (s.renamed ρ next).rejectingReactions := h_rejects
    rw [place, if_neg h_accepts, place, if_neg h_rejects]
    refine (renamed_modify node fun n => ?_).symm
    rfl

/-- **Reactions on variables under other ids.** -/
theorem renamed_placeAll (changes : List (String × List Reaction)) :
    (s.renamed ρ next).placeAll (changes.map fun c => (c.1, c.2.map (·.rename ρ))) =
      (s.placeAll changes).renamed ρ next := by
  induction changes generalizing s with
  | nil => rfl
  | cons c changes ih =>
    have h_rest := ih (s := s.place c.1 c.2)
    rw [← renamed_place] at h_rest
    exact h_rest

theorem slotsFrom_rename {n : Nat} {ps : List Placement}
    (h_next : ∀ k < ps.length, ρ (variableId (n + k)) = variableId (next + k)) :
    slotsFrom next ps = (slotsFrom n ps).map (·.rename ρ) := by
  refine List.ext_getElem? fun k => ?_
  by_cases hk : k < ps.length
  · simp only [slotsFrom, List.map_map, List.getElem?_map, List.getElem?_zipIdx,
      List.getElem?_eq_getElem hk, Option.map_some, Function.comp, ← h_next k hk]
    split <;> rfl
  · rw [List.getElem?_eq_none (by simpa [slotsFrom] using hk),
      List.getElem?_eq_none (by simpa [slotsFrom] using hk)]

end Equivariance

/-! ### Blocks of ids -/

/-- Exchanges the numbers of a block with those of the next block. -/
def exchanged (n count k : Nat) : Nat :=
  if n ≤ k ∧ k < n + count then k + count
  else if n + count ≤ k ∧ k < n + count + count then k - count
  else k

theorem exchanged_involutive (n count : Nat) : Function.Involutive (exchanged n count) := by
  intro k
  unfold exchanged
  split_ifs <;> omega

/-- **The renaming that exchanges a block of ids with the next one.** -/
noncomputable def exchange (n count : Nat) : Equiv.Perm String :=
  (exchanged_involutive n count).toPerm.viaEmbedding ⟨variableId, fun _ _ => variableId_injective⟩

theorem exchange_variableId (n count k : Nat) :
    exchange n count (variableId k) = variableId (exchanged n count k) :=
  Equiv.Perm.viaEmbedding_apply _ ⟨variableId, fun _ _ => variableId_injective⟩ k

/-- An id of the block becomes the one at its place in the next block. -/
theorem exchange_of_lt (n : Nat) {count k : Nat} (hk : k < count) :
    exchange n count (variableId (n + k)) = variableId (n + count + k) := by
  rw [exchange_variableId, exchanged, if_pos ⟨by omega, by omega⟩]
  congr 1
  omega

/-- An id that is not one of those from the block on stays. -/
theorem exchange_of_forall_ne {n : Nat} (count : Nat) {id : String}
    (h : ∀ k, n ≤ k → id ≠ variableId k) : exchange n count id = id := by
  by_cases h_id : ∃ k, id = variableId k
  · obtain ⟨k, rfl⟩ := h_id
    have hk : k < n := by
      by_contra h_le
      exact h k (by omega) rfl
    rw [exchange_variableId, exchanged, if_neg (by omega), if_neg (by omega)]
  · refine Equiv.Perm.viaEmbedding_apply_of_notMem _ _ _ ?_
    rintro ⟨k, rfl⟩
    exact h_id ⟨k, rfl⟩

end Scene

/-! ### Reactions for renamed slots -/

namespace Reaction

variable {ρ : Equiv.Perm String}

theorem at?_map {α β : Type} (f : α → β) (xs : List α) (index : Int) :
    TargetTable.at? (xs.map f) index = (TargetTable.at? xs index).map f := by
  simp only [TargetTable.at?, List.length_map, List.getElem?_map]
  split_ifs <;> rfl

theorem assignments_rename (slots : List Slot) (effects : List (Int × String)) :
    assignments (slots.map (·.rename ρ)) effects =
      (assignments slots effects).map (List.map (·.rename ρ)) := by
  induction effects with
  | nil => rfl
  | cons e effects ih =>
    obtain ⟨j, value⟩ := e
    rw [assignments, assignments, at?_map]
    cases TargetTable.at? slots j with
    | none => rfl
    | some slot =>
      simp only [Option.map_some, ih]
      cases assignments slots effects with
      | error e => rfl
      | ok others => cases slot <;> rfl

theorem ofTable_rename (table : TargetTable) (slots : List Slot) (i : Nat) :
    ofTable table (slots.map (·.rename ρ)) i = (ofTable table slots i).map (·.rename ρ) := by
  cases h_effects : table.effects i with
  | error e =>
    rw [ofTable, ofTable, h_effects]
    rfl
  | ok effects =>
    have h_eq : ∀ slots, ofTable table slots i =
        (assignments slots effects).map fun actions => { actions } := by
      intro slots
      rw [ofTable, h_effects]
      rfl
    rw [h_eq, h_eq, assignments_rename]
    cases assignments slots effects <;> rfl

/-- **The reactions for renamed slots** are those for the slots, renamed. -/
theorem build_rename (table : TargetTable) (slots : List Slot) (count : Nat) :
    build (some table) (some (slots.map (·.rename ρ))) count =
      (build (some table) (some slots) count).map (List.map (·.rename ρ)) := by
  have h_vacant : (slots.map (·.rename ρ)).all (· == .vacant) = slots.all (· == .vacant) := by
    rw [List.all_map]
    congr 1
    funext slot
    cases slot <;> rfl
  have h_mapM : ∀ indices : List Nat, indices.mapM (ofTable table (slots.map (·.rename ρ))) =
      (indices.mapM (ofTable table slots)).map (List.map (·.rename ρ)) := by
    intro indices
    induction indices with
    | nil => rfl
    | cons i indices ih =>
      rw [List.mapM_cons, List.mapM_cons, ofTable_rename, ih]
      cases ofTable table slots i with
      | error e => rfl
      | ok r => cases indices.mapM (ofTable table slots) <;> rfl
  simp only [build, h_vacant, h_mapM]
  split
  · -- reactions that do nothing mention no variables
    simp [Except.map, rename]
  · rfl

end Reaction

end Clickwork
