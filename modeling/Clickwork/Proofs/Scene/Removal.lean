import Clickwork.Proofs.Registry
import Clickwork.Scene.Change
import Mathlib.Data.List.Induction

/-!
# Removing variables from a scene

Three changes of whole scenes, each the sum of many calls to the host:

* `Scene.place` — the reactions of a node, or nothing if the node refuses them;
* `Scene.discard` — the removal of variables, with every binding to them;
* `Scene.detach` — the clearing of every reaction that sets one of the removed variables.

`Scene.Sets` says that a node sets a variable when it is triggered. A scene is attached
(`Scene.Attached`) if every variable that is set is there. Removing variables and then detaching
them keeps a scene attached (`Attached.detach_discard`), unless a node refuses to be cleared.
-/

namespace Clickwork.Scene

/-! ### Reactions -/

/-- **The node sets the variable** when one of its reactions is triggered. -/
def Sets (s : Scene) (node target : String) : Prop :=
  ∃ r ∈ s.reactions node, target ∈ r.targets

/-- **Every variable that some reaction sets is there.** -/
def Attached (s : Scene) : Prop :=
  ∀ node target, s.Sets node target → ∃ v, s.variableTable.find? target = some v

theorem Sets.congr {s s' : Scene} {node target : String}
    (h : s'.reactions node = s.reactions node) : s'.Sets node target ↔ s.Sets node target := by
  rw [Sets, Sets, h]

theorem reactions_of_find? {s : Scene} {node : String} {n : Node}
    (h : s.nodes.find? node = some n) : s.reactions node = n.reactions := by
  simp [reactions, h]

theorem reactions_of_find?_eq_none {s : Scene} {node : String} (h : s.nodes.find? node = none) :
    s.reactions node = [] := by
  simp [reactions, h]

/-- A node with other reactions. -/
def Node.react (n : Node) (reactions : List Reaction) : Node :=
  { n with reactions }

/-- **Gives a node reactions**, unless it refuses them or is not there. -/
def place (s : Scene) (id : String) (reactions : List Reaction) : Scene :=
  if id ∈ s.rejectingReactions then s
  else { s with nodes := s.nodes.modify id fun n => n.react reactions }

/-- A call that sets reactions has the effect of `place`, whether it is refused or not. -/
theorem setReactions_eq_place (s : Scene) (id : String) (reactions : List Reaction) :
    s.setReactions id reactions = .ok (s.place id reactions) ∨
      (∃ e, s.setReactions id reactions = .error e) ∧ s.place id reactions = s := by
  by_cases h_rejects : id ∈ s.rejectingReactions
  · refine Or.inr ⟨⟨_, if_pos h_rejects⟩, if_pos h_rejects⟩
  · by_cases h_there : s.nodes.contains id = true
    · refine Or.inl ?_
      simp [setReactions, place, Node.react, h_rejects, h_there]
    · refine Or.inr ⟨⟨.host (.noNode id), by simp [setReactions, h_rejects, h_there]⟩, ?_⟩
      have h_none : s.nodes.find? id = none := by
        simpa [Registry.contains] using h_there
      simp [place, h_rejects, Registry.modify_of_find?_eq_none h_none]

/-- **Gives nodes reactions**, one after the other. -/
def placeAll (s : Scene) (changes : List (String × List Reaction)) : Scene :=
  changes.foldl (fun s c => s.place c.1 c.2) s

theorem placeAll_append (s : Scene) (changes changes' : List (String × List Reaction)) :
    s.placeAll (changes ++ changes') = (s.placeAll changes).placeAll changes' :=
  List.foldl_append

/-- The reactions that a list of changes has last for a node, if the node accepts any. -/
def lastPlaced (s : Scene) (changes : List (String × List Reaction)) (id : String) :
    Option (List Reaction) :=
  if id ∈ s.rejectingReactions then none else (changes.filter (·.1 = id)).getLast?.map Prod.snd

/-- Placing reactions at nodes, one after the other, leaves each with those placed last. -/
theorem placeAll_eq (s : Scene) (changes : List (String × List Reaction)) :
    s.placeAll changes = { s with
      nodes := s.nodes.mapValues fun id n => (s.lastPlaced changes id).elim n n.react } := by
  induction changes using List.reverseRecOn with
  | nil =>
    have h_nodes : s.nodes.mapValues (fun id n => (s.lastPlaced [] id).elim n n.react) = s.nodes :=
      Registry.mapValues_eq_self fun e _ => by simp [lastPlaced]
    rw [placeAll, List.foldl_nil, h_nodes]
  | append_singleton changes c ih =>
    rw [placeAll] at ih ⊢
    rw [List.foldl_append, ih, List.foldl_cons, List.foldl_nil, place]
    -- the last change counts for its node if that accepts it, and for no other node
    split
    · rename_i h_rejects
      congr 1
      refine Registry.mapValues_congr fun e _ => ?_
      by_cases h_id : c.1 = e.1
      · have h_rejects' : e.1 ∈ s.rejectingReactions := h_id ▸ h_rejects
        simp [lastPlaced, h_rejects']
      · simp [lastPlaced, h_id]
    · rename_i h_accepts
      congr 1
      rw [Registry.modify, Registry.mapValues_mapValues]
      refine Registry.mapValues_congr fun e _ => ?_
      by_cases h_id : e.1 = c.1
      · have h_accepts' : c.1 ∉ s.rejectingReactions := h_accepts
        rw [if_pos h_id, lastPlaced, lastPlaced, h_id, if_neg h_accepts', if_neg h_accepts']
        cases h_last : (changes.filter (·.1 = c.1)).getLast? with
        | none => simp [h_last]
        | some c' => simp [h_last, Node.react]
      · have h_id' : ¬c.1 = e.1 := fun h => h_id h.symm
        simp [lastPlaced, h_id, h_id']

theorem find?_placeAll (s : Scene) (changes : List (String × List Reaction)) (node : String) :
    (s.placeAll changes).nodes.find? node =
      (s.nodes.find? node).map fun n => (s.lastPlaced changes node).elim n n.react := by
  rw [placeAll_eq, Registry.find?_mapValues]

/-- Reactions leave bindings alone. -/
theorem of_find?_placeAll {s : Scene} {changes : List (String × List Reaction)} {node : String}
    {n : Node} (hn : (s.placeAll changes).nodes.find? node = some n) :
    ∃ n₀, s.nodes.find? node = some n₀ ∧ n.bindings = n₀.bindings := by
  rw [find?_placeAll, Option.map_eq_some_iff] at hn
  obtain ⟨n₀, hn₀, rfl⟩ := hn
  exact ⟨n₀, hn₀, by cases s.lastPlaced changes node <;> rfl⟩

/-! ### Variables -/

/-- A node without its bindings to the given variables. -/
def Node.unbind (ids : List String) (n : Node) : Node :=
  { n with bindings := n.bindings.filter fun _ target => decide (target ∉ ids) }

/-- **Removes variables** and every binding to them. -/
def discard (s : Scene) (ids : List String) : Scene :=
  { s with
    variableTable := s.variableTable.filter fun id _ => decide (id ∉ ids)
    nodes := s.nodes.mapValues fun _ n => n.unbind ids }

@[simp] theorem discard_nil (s : Scene) : s.discard [] = s := by
  have h_variables : s.variableTable.filter (fun id _ => decide (id ∉ ([] : List String))) =
      s.variableTable := Registry.filter_eq_self fun _ _ => by simp
  have h_nodes : s.nodes.mapValues (fun _ n => n.unbind []) = s.nodes := by
    refine Registry.mapValues_eq_self fun e _ => ?_
    have h_bindings : e.2.bindings.filter (fun _ target => decide (target ∉ ([] : List String))) =
        e.2.bindings := Registry.filter_eq_self fun _ _ => by simp
    rw [Node.unbind, h_bindings]
  rw [discard, h_variables, h_nodes]

theorem discard_discard (s : Scene) (ids ids' : List String) :
    (s.discard ids).discard ids' = s.discard (ids ++ ids') := by
  simp only [discard, Node.unbind, Registry.filter_filter, Registry.mapValues_mapValues,
    List.mem_append, not_or, Bool.decide_and]

/-- A variable that is there can be removed. -/
theorem removeVariable_eq {s : Scene} {id : String} (h : s.variableTable.contains id = true) :
    s.removeVariable id = .ok (s.discard [id]) := by
  have h_keep : (fun _ target => target != id : String → String → Bool) =
      fun _ target => decide (target ∉ [id]) := by
    funext _ target
    by_cases h_eq : target = id <;> simp [h_eq]
  simp only [removeVariable, h, if_true, discard, Node.unbind, Registry.erase_eq_filter, h_keep,
    List.mem_singleton]

theorem find?_discard (s : Scene) (ids : List String) (id : String) :
    (s.discard ids).variableTable.find? id =
      if id ∈ ids then none else s.variableTable.find? id := by
  simp only [discard, Registry.find?_filter]
  by_cases h : id ∈ ids
  · simp [h]
  · cases hf : s.variableTable.find? id <;> simp [h]

theorem nodes_discard (s : Scene) (ids : List String) (node : String) :
    (s.discard ids).nodes.find? node = (s.nodes.find? node).map (Node.unbind ids) := by
  simp only [discard, Registry.find?_mapValues]

@[simp] theorem reactions_discard (s : Scene) (ids : List String) (node : String) :
    (s.discard ids).reactions node = s.reactions node := by
  simp only [reactions, nodes_discard]
  cases s.nodes.find? node <;> rfl

/-! ### Detaching -/

/-- Whether one of the reactions sets one of the variables. -/
def setsAny (ids : List String) (reactions : List Reaction) : Bool :=
  reactions.any fun r => r.targets.any (ids.contains ·)

/-- **Clears the reactions of every node that sets one of the variables**, unless it refuses. -/
def detach (s : Scene) (ids : List String) : Scene :=
  { s with nodes := s.nodes.mapValues fun id n =>
      if id ∉ s.rejectingReactions ∧ setsAny ids n.reactions = true then n.react []
      else n }

theorem setsAny_eq_true_iff {ids : List String} {reactions : List Reaction} :
    setsAny ids reactions = true ↔ ∃ r ∈ reactions, ∃ target ∈ r.targets, target ∈ ids := by
  simp [setsAny]

@[simp] theorem setsAny_nil (reactions : List Reaction) : setsAny [] reactions = false := by
  rw [Bool.eq_false_iff, ne_eq, setsAny_eq_true_iff]
  simp

@[simp] theorem detach_nil (s : Scene) : s.detach [] = s := by
  have h_nodes : (s.nodes.mapValues fun id n =>
      if id ∉ s.rejectingReactions ∧ setsAny [] n.reactions = true then n.react []
      else n) = s.nodes := Registry.mapValues_eq_self fun _ _ => by simp
  rw [detach, h_nodes]

/-- **The changes that clear every node** whose reactions set one of the variables. -/
def clearings (s : Scene) (ids : List String) : List (String × List Reaction) :=
  (s.allReactions.entries.filter fun e => setsAny ids e.2).map fun e => (e.1, [])

/-- A node is cleared if it sets one of the variables: the nodes of a scene are distinct. -/
theorem mem_clearings {s : Scene} {ids : List String} {id : String} {n : Node}
    (hn : s.nodes.find? id = some n) {c : String × List Reaction} :
    c ∈ (s.clearings ids).filter (·.1 = id) ↔ c = (id, []) ∧ setsAny ids n.reactions = true := by
  simp only [clearings, allReactions, Registry.mapValues, Registry.filter, List.mem_filter,
    List.mem_map, decide_eq_true_eq]
  constructor
  · rintro ⟨⟨-, ⟨⟨⟨id', n'⟩, ⟨h_entry, -⟩, rfl⟩, h_sets⟩, rfl⟩, rfl⟩
    have h_same := Registry.find?_eq_some_iff.mpr h_entry
    rw [hn] at h_same
    obtain rfl := Option.some.inj h_same
    exact ⟨rfl, h_sets⟩
  · rintro ⟨rfl, h_sets⟩
    -- only nodes with reactions are listed, and a node without any sets nothing
    have h_some : n.reactions ≠ [] := by
      intro h_nil
      rw [h_nil] at h_sets
      cases h_sets
    have h_entry := Registry.find?_eq_some_iff.mp hn
    refine ⟨⟨(id, n.reactions), ⟨⟨(id, n), ⟨h_entry, ?_⟩, rfl⟩, h_sets⟩, rfl⟩, rfl⟩
    simpa using h_some

/-- Clearing node by node, from a list of all reactions, detaches the variables. -/
theorem placeAll_clearings (s : Scene) (ids : List String) :
    s.placeAll (s.clearings ids) = s.detach ids := by
  rw [placeAll_eq, detach]
  congr 1
  refine Registry.mapValues_congr fun e he => ?_
  obtain ⟨id, n⟩ := e
  have h_mem : ∀ c, c ∈ (s.clearings ids).filter (·.1 = id) ↔
      c = (id, []) ∧ setsAny ids n.reactions = true :=
    fun _ => mem_clearings (Registry.find?_eq_some_iff.mpr he)
  by_cases h_rejects : id ∈ s.rejectingReactions
  · simp [lastPlaced, h_rejects]
  simp only [lastPlaced, h_rejects, if_false, not_false_eq_true, true_and]
  cases h_last : ((s.clearings ids).filter (·.1 = id)).getLast? with
  | none =>
    have h_not : ¬setsAny ids n.reactions = true := by
      intro h_sets
      have h_in := (h_mem (id, [])).mpr ⟨rfl, h_sets⟩
      rw [List.getLast?_eq_none_iff.mp h_last] at h_in
      cases h_in
    rw [if_neg h_not, Option.map_none, Option.elim_none]
  | some c =>
    obtain ⟨rfl, h_sets⟩ := (h_mem c).mp (List.mem_of_getLast? h_last)
    rw [if_pos h_sets, Option.map_some, Option.elim_some]

theorem nodes_detach (s : Scene) (ids : List String) (node : String) :
    (s.detach ids).nodes.find? node = (s.nodes.find? node).map fun n =>
      if node ∉ s.rejectingReactions ∧ setsAny ids n.reactions = true then n.react []
      else n := by
  simp only [detach, Registry.find?_mapValues]

@[simp] theorem variableTable_detach (s : Scene) (ids : List String) :
    (s.detach ids).variableTable = s.variableTable := rfl

/-- A node that accepts being cleared either sets none of the variables, and is left as it is, or is
cleared. -/
theorem reactions_detach (s : Scene) (ids : List String) {node : String}
    (h : node ∉ s.rejectingReactions) :
    (s.detach ids).reactions node =
      if setsAny ids (s.reactions node) = true then [] else s.reactions node := by
  cases hn : s.nodes.find? node with
  | none => simp [reactions, nodes_detach, hn]
  | some n =>
    simp only [reactions, nodes_detach, hn, h, not_false_eq_true, true_and, Option.map_some,
      Option.getD_some]
    split <;> rfl

/-- What a node sets after detaching it set before, and it is not among the variables. -/
theorem Sets.of_detach {s : Scene} {ids : List String} {node target : String}
    (h_accepts : node ∉ s.rejectingReactions) (h : (s.detach ids).Sets node target) :
    s.Sets node target ∧ target ∉ ids := by
  rw [Sets, reactions_detach s ids h_accepts] at h
  split at h
  · obtain ⟨r, hr, -⟩ := h
    cases hr
  · rename_i h_none
    refine ⟨h, fun h_mem => h_none ?_⟩
    obtain ⟨r, hr, ht⟩ := h
    exact setsAny_eq_true_iff.mpr ⟨r, hr, target, ht, h_mem⟩

/-- **Variables that are removed and detached leave an attached scene attached.** -/
theorem Attached.detach_discard {s : Scene} (hs : s.Attached)
    (h_accepts : s.rejectingReactions = []) (ids : List String) :
    ((s.discard ids).detach ids).Attached := by
  intro node target h_sets
  have h_node : node ∉ (s.discard ids).rejectingReactions := by
    change node ∉ s.rejectingReactions
    rw [h_accepts]
    simp
  obtain ⟨h_before, h_kept⟩ := h_sets.of_detach h_node
  obtain ⟨v, hv⟩ := hs node target ((Sets.congr (reactions_discard s ids node)).mp h_before)
  exact ⟨v, by rw [variableTable_detach, find?_discard, if_neg h_kept, hv]⟩

end Clickwork.Scene
