import Clickwork.Proofs.Scene.Removal
import Clickwork.Session.Records

/-!
# Retired interactions in a scene

`Scene.retired` is a scene after the variables that belong to an interaction are removed and the
reactions that set them are cleared. What is left of variables (`find?_retired`), of reactions
(`Sets.of_retired`) and of bindings (`bindings_retired`) was there before. A node that is neither
bound to such a variable nor sets one is left as it is (`nodes_retired`).

Several interactions are retired one after the other.
-/

namespace Clickwork.Scene

open Records (ownedBy)

/-- The ids of the variables of a collection that belong to an interaction. -/
def owned (s : Scene) (collection interaction : String) : List String :=
  ((s.variablesOf collection).filter fun v => ownedBy interaction v.name).map (·.id)

/-- **The scene after an interaction is retired**, with the name of the collection that holds its
variables. -/
def retired (name : String) (s : Scene) (interaction : String) : Scene :=
  match s.collections.find? name with
  | none => s
  | some collection =>
    (s.discard (s.owned collection interaction)).detach (s.owned collection interaction)

@[simp] theorem collections_retired (name : String) (s : Scene) (interaction : String) :
    (s.retired name interaction).collections = s.collections := by
  rw [retired]
  split <;> rfl

theorem collections_retiredAll (name : String) (s : Scene) (ids : List String) :
    (ids.foldl (retired name) s).collections = s.collections := by
  induction ids generalizing s with
  | nil => rfl
  | cons id ids ih => rw [List.foldl_cons, ih, collections_retired]

/-- What is listed of a collection are its variables. -/
theorem mem_variablesOf {s : Scene} {collection : String} {v : VariableInfo} :
    v ∈ s.variablesOf collection ↔ ∃ w, s.variableTable.find? v.id = some w ∧
      w.name = v.name ∧ w.collection = v.collection ∧ v.collection = collection := by
  simp only [variablesOf, List.mem_map, List.mem_filter, beq_iff_eq]
  constructor
  · rintro ⟨⟨id, w⟩, ⟨h_mem, h_collection⟩, rfl⟩
    exact ⟨w, Registry.find?_eq_some_iff.mpr h_mem, rfl, rfl, h_collection⟩
  · rintro ⟨w, h_find, h_name, h_collection, h_eq⟩
    refine ⟨(v.id, w), ⟨Registry.find?_eq_some_iff.mp h_find, h_collection.trans h_eq⟩, ?_⟩
    rw [h_name, h_collection]

theorem nodup_variablesOf (s : Scene) (collection : String) :
    ((s.variablesOf collection).map (·.id)).Nodup := by
  have h_sub : ((s.variablesOf collection).map (·.id)).Sublist
      (s.variableTable.entries.map Prod.fst) := by
    rw [variablesOf, List.map_map]
    exact (List.filter_sublist (l := s.variableTable.entries)).map Prod.fst
  exact s.variableTable.nodup.sublist h_sub

/-- What is chosen among the variables of a collection. -/
theorem mem_chosen_of {s : Scene} {collection id : String} {p : VariableInfo → Bool} :
    id ∈ ((s.variablesOf collection).filter p).map (·.id) ↔
      ∃ v, s.variableTable.find? id = some v ∧ v.collection = collection ∧
        p { id, name := v.name, collection := v.collection } = true := by
  simp only [List.mem_map, List.mem_filter, mem_variablesOf]
  constructor
  · rintro ⟨⟨id, name, _⟩, ⟨⟨w, h_find, rfl, rfl, h_eq⟩, hp⟩, rfl⟩
    exact ⟨w, h_find, h_eq, hp⟩
  · rintro ⟨w, h_find, h_eq, hp⟩
    exact ⟨⟨id, w.name, w.collection⟩, ⟨⟨w, h_find, rfl, rfl, h_eq⟩, hp⟩, rfl⟩

theorem mem_owned {s : Scene} {collection interaction id : String} :
    id ∈ s.owned collection interaction ↔ ∃ v, s.variableTable.find? id = some v ∧
      v.collection = collection ∧ ownedBy interaction v.name = true :=
  mem_chosen_of

theorem rejectingReactions_retired (name : String) (s : Scene) (interaction : String) :
    (s.retired name interaction).rejectingReactions = s.rejectingReactions := by
  rw [retired]
  split <;> rfl

theorem rejectingReactions_retiredAll (name : String) (s : Scene) (ids : List String) :
    (ids.foldl (retired name) s).rejectingReactions = s.rejectingReactions := by
  induction ids generalizing s with
  | nil => rfl
  | cons id ids ih => rw [List.foldl_cons, ih, rejectingReactions_retired]

theorem nextId_retired (name : String) (s : Scene) (interaction : String) :
    (s.retired name interaction).nextId = s.nextId := by
  rw [retired]
  split <;> rfl

theorem nextId_retiredAll (name : String) (s : Scene) (ids : List String) :
    (ids.foldl (retired name) s).nextId = s.nextId := by
  induction ids generalizing s with
  | nil => rfl
  | cons id ids ih => rw [List.foldl_cons, ih, nextId_retired]

/-! ### What is left -/

/-- **The variables that are left** are those that were there and do not belong to the interaction,
or are no managed variables. -/
theorem find?_retired {s : Scene} {name interaction id : String} {v : Variable} :
    (s.retired name interaction).variableTable.find? id = some v ↔
      s.variableTable.find? id = some v ∧
        (s.collections.find? name = some v.collection → ownedBy interaction v.name = false) := by
  rw [retired]
  split
  · rename_i h_none
    simp [h_none]
  · rename_i collection h_collection
    rw [variableTable_detach, find?_discard, h_collection, Option.some.injEq]
    -- ids are unique, so a removed variable is the one that belongs to the interaction
    by_cases h_owned : id ∈ s.owned collection interaction
    · rw [if_pos h_owned]
      obtain ⟨w, hw, h_managed, h_name⟩ := mem_owned.mp h_owned
      constructor
      · intro h_none
        cases h_none
      · rintro ⟨hv, h_left⟩
        obtain rfl := Option.some.inj (hw.symm.trans hv)
        rw [h_left h_managed.symm] at h_name
        cases h_name
    · rw [if_neg h_owned, iff_self_and]
      intro hv h_managed
      rw [← Bool.not_eq_true]
      exact fun h_name => h_owned (mem_owned.mpr ⟨v, hv, h_managed.symm, h_name⟩)

theorem find?_retiredAll {s : Scene} {name : String} {ids : List String} {id : String}
    {v : Variable} : (ids.foldl (retired name) s).variableTable.find? id = some v ↔
      s.variableTable.find? id = some v ∧ (s.collections.find? name = some v.collection →
        ∀ interaction ∈ ids, ownedBy interaction v.name = false) := by
  induction ids generalizing s with
  | nil => simp
  | cons interaction ids ih =>
    rw [List.foldl_cons, ih, find?_retired, collections_retired, and_assoc]
    simp only [List.mem_cons, forall_eq_or_imp]
    refine and_congr_right fun _ => ⟨fun h h_managed => ?_, fun h => ?_⟩
    · exact ⟨h.1 h_managed, h.2 h_managed⟩
    · exact ⟨fun h_managed => (h h_managed).1, fun h_managed => (h h_managed).2⟩

/-- What a node sets afterwards it set before, and the variable is still there. -/
theorem Sets.of_retired {s : Scene} {name interaction node target : String}
    (h_accepts : s.rejectingReactions = [])
    (h_sets : (s.retired name interaction).Sets node target) :
    s.Sets node target ∧ ∀ v, s.variableTable.find? target = some v →
      (s.retired name interaction).variableTable.find? target = some v := by
  rw [retired] at h_sets ⊢
  split
  · rename_i h_none
    rw [h_none] at h_sets
    exact ⟨h_sets, fun v hv => hv⟩
  · rename_i collection h_collection
    rw [h_collection] at h_sets
    have h_node : node ∉ (s.discard (s.owned collection interaction)).rejectingReactions := by
      change node ∉ s.rejectingReactions
      simp [h_accepts]
    obtain ⟨h_before, h_left⟩ := Sets.of_detach h_node h_sets
    refine ⟨(Sets.congr (reactions_discard _ _ _)).mp h_before, fun v hv => ?_⟩
    rw [variableTable_detach, find?_discard, if_neg h_left, hv]

theorem Sets.of_retiredAll {s : Scene} {name node target : String} {ids : List String}
    (h_accepts : s.rejectingReactions = [])
    (h_sets : (ids.foldl (retired name) s).Sets node target) :
    s.Sets node target ∧ ∀ v, s.variableTable.find? target = some v →
      (ids.foldl (retired name) s).variableTable.find? target = some v := by
  induction ids generalizing s with
  | nil => exact ⟨h_sets, fun v hv => hv⟩
  | cons interaction ids ih =>
    have h_accepts' := (rejectingReactions_retired name s interaction).trans h_accepts
    obtain ⟨h_between, h_kept⟩ := ih h_accepts' h_sets
    obtain ⟨h_before, h_kept'⟩ := h_between.of_retired h_accepts
    exact ⟨h_before, fun v hv => h_kept v (h_kept' v hv)⟩

/-- What is bound afterwards was bound before. -/
theorem bindings_retired {s : Scene} {name interaction node : String} {n' : Node}
    (hn : (s.retired name interaction).nodes.find? node = some n') {property target : String}
    (h_bound : n'.bindings.find? property = some target) :
    ∃ n, s.nodes.find? node = some n ∧ n.bindings.find? property = some target := by
  rw [retired] at hn
  split at hn
  · exact ⟨n', hn, h_bound⟩
  · rename_i collection _
    rw [nodes_detach, nodes_discard, Option.map_map, Option.map_eq_some_iff] at hn
    obtain ⟨n, hn, rfl⟩ := hn
    refine ⟨n, hn, ?_⟩
    -- clearing the reactions of a node leaves its bindings alone
    have h_left : (n.unbind (s.owned collection interaction)).bindings.find? property =
        some target := by
      simp only [Function.comp] at h_bound
      split at h_bound <;> exact h_bound
    rw [Node.unbind, Registry.find?_filter] at h_left
    exact (Option.filter_eq_some_iff.mp h_left).1

theorem bindings_retiredAll {s : Scene} {name node : String} {ids : List String} {n' : Node}
    (hn : (ids.foldl (retired name) s).nodes.find? node = some n') {property target : String}
    (h_bound : n'.bindings.find? property = some target) :
    ∃ n, s.nodes.find? node = some n ∧ n.bindings.find? property = some target := by
  induction ids generalizing s with
  | nil => exact ⟨n', hn, h_bound⟩
  | cons interaction ids ih =>
    obtain ⟨n, hn', h_between⟩ := ih hn
    exact bindings_retired hn' h_between

/-- **The node has nothing to do with an interaction**: it neither is bound to a managed variable
that belongs to the interaction nor sets one. -/
structure Apart (s : Scene) (name node interaction : String) : Prop where
  bindings : ∀ n property target v, s.nodes.find? node = some n →
    n.bindings.find? property = some target → s.variableTable.find? target = some v →
      s.collections.find? name = some v.collection → ownedBy interaction v.name = false
  sets : ∀ target v, s.Sets node target → s.variableTable.find? target = some v →
    s.collections.find? name = some v.collection → ownedBy interaction v.name = false

/-- **A node that has nothing to do with an interaction** is left as it is. -/
theorem nodes_retired {s : Scene} {name node interaction : String}
    (h_apart : s.Apart name node interaction) :
    (s.retired name interaction).nodes.find? node = s.nodes.find? node := by
  rw [retired]
  split
  · rfl
  · rename_i collection h_collection
    rw [nodes_detach, nodes_discard, Option.map_map]
    rcases hn : s.nodes.find? node with _ | n
    · rfl
    -- none of its bindings goes, and it is not cleared
    have h_unbind : n.unbind (s.owned collection interaction) = n := by
      rw [Node.unbind, Registry.filter_eq_self]
      rintro ⟨property, target⟩ h_mem
      have h_bound := Registry.find?_eq_some_iff.mpr h_mem
      refine decide_eq_true fun h_owned => ?_
      obtain ⟨v, hv, h_managed, h_name⟩ := mem_owned.mp h_owned
      rw [h_apart.bindings n property target v hn h_bound hv (h_managed ▸ h_collection)] at h_name
      cases h_name
    have h_sets : setsAny (s.owned collection interaction) n.reactions = false := by
      rw [← Bool.not_eq_true, setsAny_eq_true_iff]
      rintro ⟨r, hr, target, h_target, h_owned⟩
      obtain ⟨v, hv, h_managed, h_name⟩ := mem_owned.mp h_owned
      have h_sets : s.Sets node target := ⟨r, by rwa [reactions_of_find? hn], h_target⟩
      rw [h_apart.sets target v h_sets hv (h_managed ▸ h_collection)] at h_name
      cases h_name
    simp [h_unbind, h_sets]

theorem nodes_retiredAll {s : Scene} {name node : String} {ids : List String}
    (h_apart : ∀ interaction ∈ ids, s.Apart name node interaction) :
    (ids.foldl (retired name) s).nodes.find? node = s.nodes.find? node := by
  induction ids generalizing s with
  | nil => rfl
  | cons interaction ids ih =>
    have h_same := nodes_retired (h_apart interaction List.mem_cons_self)
    have h_reactions : (s.retired name interaction).reactions node = s.reactions node := by
      rw [reactions, reactions, h_same]
    rw [List.foldl_cons, ih fun interaction' h_mem => ?_, h_same]
    -- it has nothing to do with the others in what is left of the scene either
    have h_rest := h_apart interaction' (List.mem_cons_of_mem _ h_mem)
    refine ⟨fun n property target v hn h_bound hv h_managed => ?_,
      fun target v h_sets hv h_managed => ?_⟩
    · rw [h_same] at hn
      rw [collections_retired] at h_managed
      exact h_rest.bindings n property target v hn h_bound (find?_retired.mp hv).1 h_managed
    · rw [collections_retired] at h_managed
      exact h_rest.sets target v ((Sets.congr h_reactions).mp h_sets) (find?_retired.mp hv).1
        h_managed

/-! ### Dangling reactions -/

section

variable {s : Scene}

/-- **Retiring an interaction leaves nothing dangling.** -/
theorem Attached.retired (hs : s.Attached) (h_accepts : s.rejectingReactions = []) (name : String)
    (interaction : String) : (s.retired name interaction).Attached := by
  rw [Scene.retired]
  split
  · exact hs
  · exact hs.detach_discard h_accepts _

theorem Attached.retiredAll (hs : s.Attached) (h_accepts : s.rejectingReactions = [])
    (name : String) (ids : List String) : (ids.foldl (Scene.retired name) s).Attached := by
  induction ids generalizing s with
  | nil => exact hs
  | cons id ids ih =>
    exact ih (hs.retired h_accepts name id) ((rejectingReactions_retired name s id).trans h_accepts)

end

end Clickwork.Scene
