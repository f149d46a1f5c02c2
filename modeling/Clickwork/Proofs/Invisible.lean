import Clickwork.Proofs.Isolated
import Clickwork.Proofs.Live
import Clickwork.Proofs.Restarted
import Clickwork.Proofs.Tied

/-!
# Cleanups are invisible

A cleanup removes the managed variables that no reaction sets, whoever is bound to them. Still
nobody sees it, then or after any clicks (`World.unseen_after_cleanup`): as long as records are not
forgotten on demand, a node that is bound sets its variable itself.

That is not enough to stay true. When an interaction is retired, every node that sets one of its
variables is cleared, also a node that is bound to a variable that stays. So all that a bound node
sets has to go at once: it sets state variables of one interaction only (`Scene.Runs`), and no id
of another interaction reads like a part of their names. The time stamp in an id is meant to see to
that (`Interaction.MadeFor.apart_from_states`), but whoever sends an interaction chooses its id.

Both conditions are needed. A node stays bound when the records are forgotten and its group is
given an interaction that sets nothing (`World.seen_after_forgetting`), and when an id reads like
part of the state variables of another interaction (`World.seen_after_overlap`).
-/

namespace Clickwork

open Records (Replaced ownedBy retiring)

/-! ### Names with a common beginning -/

/-- **What belongs to an interaction takes along all names with the same beginning**, unless the
interaction's own id has that beginning. -/
theorem Records.ownedBy_common {id stem name name' : String} (h_owned : ownedBy id name = true)
    (h_stem : ownedBy stem name = true) (h_stem' : ownedBy stem name' = true)
    (h_apart : ownedBy stem id = false) : ownedBy id name' = true := by
  obtain ⟨rest, h_eq⟩ := ownedBy_iff.mp h_owned
  obtain ⟨more, h_more⟩ := ownedBy_iff.mp h_stem
  -- the beginning ends in the id, or goes on after it
  rcases List.append_eq_append_iff.mp (h_eq.symm.trans h_more) with
    ⟨between, h_between, h_rest⟩ | ⟨between, h_between, h_rest⟩
  · rcases between with _ | ⟨c, between⟩
    · obtain rfl : stem = id := String.toList_inj.mp (by rw [h_between, List.append_nil])
      exact h_stem'
    · obtain rfl : '_' = c := (List.cons.inj h_rest).1
      exact ownedBy_trans (ownedBy_iff.mpr ⟨between, h_between⟩) h_stem'
  · rcases between with _ | ⟨c, between⟩
    · obtain rfl : id = stem := String.toList_inj.mp (by rw [h_between, List.append_nil])
      exact h_stem'
    · obtain rfl : '_' = c := (List.cons.inj h_rest).1
      rw [ownedBy_iff.mpr ⟨between, h_between⟩] at h_apart
      cases h_apart

/-- What the names of the state variables of an interaction begin with. -/
def Interaction.stateStem (id : String) : String :=
  s!"{id}_instance"

theorem Wiring.ownedBy_variableName (id : String) (index : Int) (property : String) :
    ownedBy (Interaction.stateStem id) (variableName id index property) = true := by
  have h_text : ∀ text : String, toString text = text := fun _ => rfl
  exact Records.ownedBy_iff.mpr ⟨(toString index).toList ++ '_' :: property.toList, by
    simp [variableName, Interaction.stateStem, h_text]⟩

/-- **Ids that are made for groups are apart**, if the ids of the groups have no underscores: none
reads like a part of the names of the state variables of another. -/
theorem Interaction.MadeFor.apart_from_states {group group' id id' : String}
    (h_made : MadeFor group id) (h_made' : MadeFor group' id') (h_group : '_' ∉ group.toList)
    (h_group' : '_' ∉ group'.toList) : ownedBy (stateStem id) id' = false := by
  refine Bool.eq_false_iff.mpr fun h_owned => ?_
  obtain ⟨rest, h_eq⟩ := Records.ownedBy_iff.mp h_owned
  have h_text : ∀ text : String, toString text = text := fun _ => rfl
  have h_stem : (stateStem id).toList = id.toList ++ '_' :: "instance".toList := by
    simp [stateStem, h_text]
  have h_pieces := congrArg pieces h_eq
  rw [pieces_append, h_stem, pieces_append,
    pieces_of_not_mem (by decide : '_' ∉ "instance".toList)] at h_pieces
  cases h_made with
  | authored t =>
    rw [pieces_freshId h_group] at h_pieces
    cases h_made' with
    | authored t' =>
      rw [pieces_freshId h_group'] at h_pieces
      simp at h_pieces
    | nested parent t' h_parent =>
      -- the third piece would be both the word for states and the word that makes an id nested
      rw [pieces_nested h_group', pieces_freshId h_parent] at h_pieces
      simp at h_pieces
  | nested parent t h_parent =>
    rw [pieces_nested h_group, pieces_freshId h_parent] at h_pieces
    cases h_made' with
    | authored t' =>
      rw [pieces_freshId h_group'] at h_pieces
      simp at h_pieces
    | nested parent' t' h_parent' =>
      -- there is no piece after the fourth
      rw [pieces_nested h_group', pieces_freshId h_parent'] at h_pieces
      simp at h_pieces

/-! ### Nodes that run an interaction -/

namespace Scene

variable {t t' : Scene} {name node id : String} {ids : String → Prop}

/-- **The node runs an interaction**: it sets what it is bound to, and nothing but state variables
of the interaction, which are there. -/
structure Runs (t : Scene) (name node id : String) : Prop where
  bound : ∀ n property target, t.nodes.find? node = some n →
    n.bindings.find? property = some target → t.Sets node target
  states : ∀ target, t.Sets node target → ∃ v, t.variableTable.find? target = some v ∧
    t.collections.find? name = some v.collection ∧
      ownedBy (Interaction.stateStem id) v.name = true

/-- **Every node that is bound runs an interaction** with one of the given ids. -/
def Coupled (t : Scene) (name : String) (ids : String → Prop) : Prop :=
  ∀ node n property target, t.nodes.find? node = some n →
    n.bindings.find? property = some target → ∃ id, ids id ∧ t.Runs name node id

/-- A node that is left as it is still runs its interaction, as long as what it sets is there. -/
theorem Runs.mono (h_runs : t.Runs name node id)
    (h_same : t'.nodes.find? node = t.nodes.find? node)
    (h_collections : t'.collections = t.collections)
    (h_variables : ∀ target v, t.Sets node target → t.variableTable.find? target = some v →
      ∃ v', t'.variableTable.find? target = some v' ∧ v'.name = v.name ∧
        v'.collection = v.collection) : t'.Runs name node id := by
  have h_sets (target : String) : t'.Sets node target ↔ t.Sets node target :=
    Sets.congr (by rw [reactions, reactions, h_same])
  refine ⟨fun n property target hn h_bound => ?_, fun target h_target => ?_⟩
  · rw [h_same] at hn
    exact (h_sets target).mpr (h_runs.bound n property target hn h_bound)
  · obtain ⟨v, hv, h_managed, h_name⟩ := h_runs.states target ((h_sets target).mp h_target)
    obtain ⟨v', hv', h_name', h_collection⟩ := h_variables target v ((h_sets target).mp h_target) hv
    exact ⟨v', hv', by rw [h_collections, h_collection, h_managed], by rw [h_name', h_name]⟩

/-- **A node that is still bound when interactions are retired** is left as it is. -/
theorem Coupled.retired {retired : List String} (h_coupled : t.Coupled name ids)
    (h_apart : ∀ id, ids id → ∀ id' ∈ retired, ownedBy (Interaction.stateStem id) id' = false)
    (h_wf : (retired.foldl (Scene.retired name) t).WellFormed) {n : Node} {property target : String}
    (hn : (retired.foldl (Scene.retired name) t).nodes.find? node = some n)
    (h_bound : n.bindings.find? property = some target) :
    ∃ id, ids id ∧ (retired.foldl (Scene.retired name) t).Runs name node id := by
  obtain ⟨v, hv⟩ := h_wf.target_exists node n property target hn h_bound
  obtain ⟨hv₀, h_left⟩ := find?_retiredAll.mp hv
  obtain ⟨n₀, hn₀, h_bound₀⟩ := bindings_retiredAll hn h_bound
  obtain ⟨id, h_id, h_runs⟩ := h_coupled node n₀ property target hn₀ h_bound₀
  obtain ⟨w, hw, h_managed, h_stem⟩ :=
    h_runs.states target (h_runs.bound n₀ property target hn₀ h_bound₀)
  obtain rfl := Option.some.inj (hw.symm.trans hv₀)
  -- what else the node sets begins like the variable that is left
  have h_free (target' : String) (v' : Variable) (h_sets : t.Sets node target')
      (hv' : t.variableTable.find? target' = some v') :
      ∀ id' ∈ retired, ownedBy id' v'.name = false := by
    intro id' h_mem
    obtain ⟨w', hw', -, h_stem'⟩ := h_runs.states target' h_sets
    obtain rfl := Option.some.inj (hw'.symm.trans hv')
    refine Bool.eq_false_iff.mpr fun h_owned => ?_
    have h_both := Records.ownedBy_common h_owned h_stem' h_stem (h_apart id h_id id' h_mem)
    rw [h_left h_managed id' h_mem] at h_both
    cases h_both
  have h_same : (retired.foldl (Scene.retired name) t).nodes.find? node = t.nodes.find? node :=
    nodes_retiredAll fun id' h_mem => ⟨fun n' property' target' v' hn' h_bound' hv' _ =>
      h_free target' v' (h_runs.bound n' property' target' hn' h_bound') hv' id' h_mem,
      fun target' v' h_sets hv' _ => h_free target' v' h_sets hv' id' h_mem⟩
  refine ⟨id, h_id, h_runs.mono h_same (collections_retiredAll _ _ _) fun target' v' h_sets hv' =>
    ⟨v', find?_retiredAll.mpr ⟨hv', fun _ => h_free target' v' h_sets hv'⟩, rfl, rfl⟩⟩

/-! ### Removing what nobody sets -/

theorem Coupled.used (h_coupled : t.Coupled name ids) (h_used : t.Used t') :
    t'.Coupled name ids := by
  intro node n property target hn h_bound
  rw [h_used.nodes] at hn
  obtain ⟨id, h_id, h_runs⟩ := h_coupled node n property target hn h_bound
  refine ⟨id, h_id, h_runs.mono (by rw [h_used.nodes]) h_used.collections fun target' v _ hv => ?_⟩
  obtain ⟨v', hv', h_name, h_collection⟩ := h_used.symm.find? hv
  exact ⟨v', hv', h_name, h_collection⟩

section Unset

variable {unset : List String} (h_coupled : t.Coupled name ids)
  (h_unset : ∀ id ∈ unset, ∀ node, ¬t.Sets node id)

include h_coupled h_unset

/-- What a node is bound to is not removed. -/
theorem Coupled.target_not_mem {n : Node} {property target : String}
    (hn : t.nodes.find? node = some n) (h_bound : n.bindings.find? property = some target) :
    target ∉ unset := by
  obtain ⟨id, -, h_runs⟩ := h_coupled node n property target hn h_bound
  exact fun h_mem => h_unset target h_mem node (h_runs.bound n property target hn h_bound)

/-- **Removing what no reaction sets** leaves all bindings in place. -/
theorem Coupled.nodes_discard (node : String) :
    (t.discard unset).nodes.find? node = t.nodes.find? node := by
  rw [Scene.nodes_discard]
  cases hn : t.nodes.find? node with
  | none => rfl
  | some n =>
    have h_bindings : n.bindings.filter (fun _ target => decide (target ∉ unset)) = n.bindings :=
      Registry.filter_eq_self fun e h_mem => decide_eq_true
        (h_coupled.target_not_mem h_unset hn (Registry.find?_eq_some_iff.mpr h_mem))
    rw [Option.map_some, Node.unbind, h_bindings]

theorem Coupled.discard : (t.discard unset).Coupled name ids := by
  intro node n property target hn h_bound
  have h_same := h_coupled.nodes_discard h_unset node
  rw [h_same] at hn
  obtain ⟨id, h_id, h_runs⟩ := h_coupled node n property target hn h_bound
  refine ⟨id, h_id, h_runs.mono h_same rfl fun target' v h_sets hv => ⟨v, ?_, rfl, rfl⟩⟩
  rw [find?_discard, if_neg fun h_mem => h_unset target' h_mem node h_sets]
  exact hv

/-- **Nobody shows anything else** without the variables that no reaction sets. -/
theorem Coupled.shownValue_discard (node property : String) :
    (t.discard unset).shownValue node property = t.shownValue node property := by
  rw [shownValue, shownValue, h_coupled.nodes_discard h_unset]
  cases hn : t.nodes.find? node with
  | none => rfl
  | some n =>
    cases h_bound : n.bindings.find? property with
    | none => simp only [h_bound, Option.bind_none]
    | some target =>
      have h_value : (t.discard unset).variableValue? target = t.variableValue? target :=
        variableValue?_congr
          ((find?_discard _ _ _).trans (if_neg (h_coupled.target_not_mem h_unset hn h_bound)))
      simp only [h_bound, Option.bind_some, h_value]

end Unset

/-- **A click does the same** without some of the variables, as far as they are left. -/
theorem click_discard (t : Scene) (removed : List String) (node : String) :
    ((t.discard removed).operate (.click node)).2 =
      ((t.operate (.click node)).2).discard removed := by
  simp only [operate, click, nodes_discard]
  cases t.nodes.find? node with
  | none => rfl
  | some n =>
    simp only [Option.map_some, changed, Node.unbind, assignAll, discard]
    rw [Registry.mapValues_filter]

end Scene

/-! ### Wired groups -/

namespace Wiring

variable {collection : String} {part : Interaction} {g : Group} {config : Config} {h : Host}
  {w : Wiring} {t : Scene}

/-- **A new binding** is to a state variable that is reported. -/
theorem Performed.bindings (h_performed : Performed collection part g config h w t)
    (hb : h.scene.Built) {node property target : String} {n : Scene.Node}
    (hn : t.nodes.find? node = some n) (h_bound : n.bindings.find? property = some target) :
    (∃ n₀, h.scene.nodes.find? node = some n₀ ∧ n₀.bindings.find? property = some target) ∨
      target ∈ w.variables := by
  obtain ⟨-, -, h_nodes⟩ := extended_marked hb collection part
  cases h_performed with
  | inert _ _ h_scene =>
    rw [h_scene] at hn
    obtain ⟨n₀, hn₀, h_same⟩ := Scene.of_find?_placeAll hn
    rw [h_nodes] at hn₀
    exact .inl ⟨n₀, hn₀, h_same ▸ h_bound⟩
  | @resolved primary declared rs _ _ _ h_wiring h_scene =>
    rw [h_scene, find?_wired, h_nodes, Option.map_eq_some_iff] at hn
    obtain ⟨n₀, hn₀, rfl⟩ := hn
    rw [Scene.Node.bindings_equip] at h_bound
    rcases Scene.of_find?_bindAll h_bound with h_mem | h_before
    · obtain ⟨k, p, hk, -, rfl⟩ := Scene.mem_boundIds h_mem
      rw [getElem?_placements, Option.map_eq_some_iff] at hk
      obtain ⟨i, hi, -⟩ := hk
      right
      rw [h_wiring, Wiring.variables, Option.getD_some, filterMap_target?_slotsOf]
      exact List.mem_of_getElem? (Scene.getElem?_idsFrom (List.getElem?_eq_some_iff.mp hi).1)
    · exact .inl ⟨n₀, hn₀, h_before⟩

/-- **An instance that was unbound** runs the interaction that is wired. -/
theorem Performed.runs (h_performed : Performed collection part g config h w t)
    (h_wired : Wired collection part g h.scene t) (hb : h.scene.Built)
    (h_accepts : h.scene.rejectingReactions = [])
    (h_there : ∀ node ∈ g.instances.map (·.id), h.scene.nodes.contains node = true)
    {name node : String} (h_collection : h.scene.collections.find? name = some collection)
    (h_mem : node ∈ g.instances.map (·.id))
    (h_unbound : ∀ n, h.scene.nodes.find? node = some n → n.bindings = ∅) :
    t.Runs name node part.id := by
  obtain ⟨h_states, rs, h_build, -, h_placed⟩ := h_performed.live hb h_accepts h_there
  obtain ⟨k, r, -, hr, h_reactions⟩ := h_placed node h_mem
  refine ⟨fun n property target hn h_bound => ?_, fun target h_sets => ?_⟩
  · rcases h_performed.bindings hb hn h_bound with ⟨n₀, hn₀, h_before⟩ | h_target
    · rw [h_unbound n₀ hn₀] at h_before
      cases h_before
    · exact h_performed.sets hb h_accepts h_there h_mem h_target
  · obtain ⟨h_none, -⟩ := h_wired.reactions node h_mem (by simp [h_accepts]) target h_sets
    obtain ⟨r', h_mem', h_target⟩ := h_sets
    rw [h_reactions, List.mem_singleton] at h_mem'
    subst h_mem'
    obtain ⟨v, hv, primary, -, j, -, h_name⟩ :=
      h_states target (Reaction.targets_build h_build _ (List.mem_of_getElem? hr) target h_target)
    refine ⟨v, hv, ?_, h_name ▸ ownedBy_variableName _ _ _⟩
    rcases h_wired.extended.new target v hv with h_old | ⟨-, h_managed, -⟩
    · rw [h_none] at h_old
      cases h_old
    · rw [h_wired.extended.collections, h_managed, h_collection]

end Wiring

/-! ### Sessions -/

namespace Session

variable {ids : String → Prop} {s s' : Session} {h h₁ h' : Host} {part : Interaction} {g : Group}
  {collection : String}

/-- **Wiring a group** leaves all that are bound coupled. -/
theorem Tied.coupled (h_tied : s.Tied h.scene) (h_accepts : h.scene.rejectingReactions = [])
    (h_coupled : h.scene.Coupled s.config.collection ids) (h_part : ids part.id)
    (h_apart : ∀ id, ids id → ∀ id' ∈ retiring (s.records.find? part.group) part,
      ownedBy (Interaction.stateStem id) id' = false)
    (hb : h₁.scene.Built) (h_between : h.Later h₁) (h_group : s.context.group part.group = .ok g)
    (h_collection : h.scene.collections.find? s.config.collection = some collection)
    (h_replaced : Replaced (retiring (s.records.find? part.group) part) part s s' h h₁)
    (h_wired : Wiring.Wired collection part g h₁.scene h'.scene)
    {w : Wiring} (h_performed : Wiring.Performed collection part g s'.config h₁ w h'.scene) :
    h'.scene.Coupled s.config.collection ids := by
  intro node n property target hn h_bound
  by_cases h_mem : node ∈ g.instances.map (·.id)
  · -- the instances of the group were unbound in between
    refine ⟨part.id, h_part, h_performed.runs h_wired hb
      (h_between.kept.rejectingReactions.trans h_accepts) (fun node' h_mem' => ?_) ?_ h_mem
      fun n₁ hn₁ => h_tied.bindings_eq_empty hb h_between h_group h_replaced h_mem hn₁⟩
    · exact (h_tied.families.kept h_between.kept).contains (Context.group_eq_ok h_group).1 h_mem'
    · rw [h_replaced.collections]
      exact h_collection
  · -- the other nodes are left alone
    have h_same := h_wired.frame node h_mem
    rw [h_same] at hn
    obtain ⟨id, h_id, h_runs⟩ : ∃ id, ids id ∧ h₁.scene.Runs s.config.collection node id := by
      rw [h_replaced.scene] at hb hn ⊢
      exact h_coupled.retired h_apart hb.wellFormed hn h_bound
    exact ⟨id, h_id, h_runs.mono h_same h_wired.extended.collections fun target' v _ hv =>
      ⟨v, h_wired.extended.old target' v hv, rfl, rfl⟩⟩

/-- **What a session keeps to** that wires interactions with the given ids only: bindings are tied
to records, and every node that is bound runs one of the interactions. -/
structure Steady (ids : String → Prop) (s : Session) (h : Host) : Prop where
  stores : h.Stores
  accepts : h.scene.rejectingReactions = []
  known : ∀ group r, s.recorded h group = .ok (some r) → ids r.id
  tied : s.Tied h.scene
  coupled : h.scene.Coupled s.config.collection ids

theorem Steady.used (h_steady : s.Steady ids h) {t : Scene} (h_used : h.scene.Used t) :
    s.Steady ids { h with scene := t } where
  stores := ⟨h_steady.stores.available, h_steady.stores.spares⟩
  accepts := h_used.kept.rejectingReactions.trans h_steady.accepts
  known := h_steady.known
  tied := h_steady.tied.used h_used
  coupled := h_steady.coupled.used h_used

/-- **Nothing but the part that is wired comes on record.** -/
theorem Steady.known_of_step (h_steady : s.Steady ids h) {a : Act}
    (h_retains : ∀ group, a ≠ .purge group) (h_ids : ∀ i part, a = .wire i part → ids part.id)
    (h_step : Step a s h s' h') {group : String} {r : Interaction}
    (h_found : s'.recorded h' group = .ok (some r)) : ids r.id := by
  cases h_step with
  | load h_loaded _ h_storage =>
    exact h_steady.known group r (h_loaded.recorded h_storage h_found)
  | create _ _ h_storage | sweep _ _ h_storage | close _ h_storage =>
    refine h_steady.known group r (Eq.trans ?_ h_found)
    exact (recorded_congr rfl rfl (by rw [h_storage])).symm
  | analyse => exact h_steady.known group r h_found
  | purge => exact (h_retains _ rfl).elim
  | wire i part g collection _ _ _ _ h_replaced _ h_storage =>
    rcases h_replaced.of_recorded h_steady.stores
      ((recorded_congr rfl rfl (by rw [h_storage])).symm.trans h_found) with rfl | h_before
    · exact h_ids i r rfl
    · exact h_steady.known group r h_before

/-- **Every node that is bound still runs one of the interactions** after an act. -/
theorem Steady.coupled_of_step (h_apart : ∀ id id', ids id → ids id' →
      ownedBy (Interaction.stateStem id) id' = false)
    (h_steady : s.Steady ids h) {a : Act} (h_retains : ∀ group, a ≠ .purge group)
    (h_ids : ∀ i part, a = .wire i part → ids part.id) (hb : h.scene.Built)
    (h_step : Step a s h s' h') : h'.scene.Coupled s'.config.collection ids := by
  cases h_step with
  | load h_loaded h_scene =>
    rw [h_scene, h_loaded.config]
    exact h_steady.coupled
  | create h_absent h_scene =>
    -- without the collection nothing was bound
    intro node n property target hn h_bound
    rw [h_scene] at hn
    obtain ⟨-, -, v, -, -, -, h_managed, -⟩ := h_steady.tied.owns node n property target hn h_bound
    rw [h_absent] at h_managed
    cases h_managed
  | analyse => exact h_steady.coupled
  | sweep h_scene h_unset =>
    rw [h_scene]
    exact h_steady.coupled.discard h_unset
  | purge => exact (h_retains _ rfl).elim
  | close h_scene =>
    rw [h_scene]
    exact h_steady.coupled.used ⟨⟨rfl, rfl, rfl, rfl, rfl⟩, rfl, rfl, rfl, fun _ => rfl⟩
  | wire i part g collection _ h_group h_collection h_between h_replaced h_wired _ h_performed =>
    have h_part := h_ids i part rfl
    obtain ⟨w, h_performed⟩ := h_performed
    rw [h_replaced.config]
    refine h_steady.tied.coupled h_steady.accepts h_steady.coupled h_part ?_
      (h_between.built hb) h_between h_group h_collection h_replaced h_wired h_performed
    -- what is retired was on record
    intro id h_id id' h_mem
    rcases Records.mem_retiring.mp h_mem with rfl | ⟨previous, h_record, rfl⟩
    · exact h_apart id _ h_id h_part
    · exact h_apart id _ h_id (h_steady.known _ _ (recorded_of_find? h_record))

/-- **A session stays steady** as long as it forgets no record on demand and wires interactions with
such ids only, none of which reads like part of a state variable of another. -/
theorem Stable.steady (h_apart : ∀ id id', ids id → ids id' →
      ownedBy (Interaction.stateStem id) id' = false) :
    Stable (fun a => (∀ group, a ≠ .purge group) ∧ ∀ i part, a = .wire i part → ids part.id)
      (Steady ids) where
  quiet := by
    intro s s' h h_alike h_steady
    refine ⟨h_steady.stores, h_steady.accepts, fun group r h_found => ?_,
      Stable.tied.quiet h_alike h_steady.tied, ?_⟩
    · refine h_steady.known group r (Eq.trans ?_ h_found)
      exact (recorded_congr h_alike.config (by rw [h_alike.records]) rfl).symm
    · rw [h_alike.config]
      exact h_steady.coupled
  act := by
    rintro a s s' h h' ⟨h_retains, h_ids⟩ hr hb h_later h_step h_steady
    exact
      { stores := h_later.stores h_steady.stores
        accepts := h_later.kept.rejectingReactions.trans h_steady.accepts
        known := fun _ _ h_found => h_steady.known_of_step h_retains h_ids h_step h_found
        tied := Stable.tied.act h_retains hr hb h_later h_step h_steady.tied
        coupled := h_steady.coupled_of_step h_apart h_retains h_ids hb h_step }

/-- Sweeps alone remove variables that no reaction sets, and nothing else. -/
theorem Steps.swept {may : Act → Prop} (h_steps : Steps may s h s' h')
    (h_may : ∀ a, may a → a = .sweep) : ∃ unset, h'.scene = h.scene.discard unset ∧
      ∀ id ∈ unset, ∀ node, ¬h.scene.Sets node id := by
  induction h_steps with
  | refl => exact ⟨[], (Scene.discard_nil _).symm, nofun⟩
  | quiet _ _ ih => exact ih
  | act _ _ h_does h_step ih =>
    obtain ⟨unset, h_before, h_unset⟩ := ih
    obtain rfl := h_may _ h_does
    cases h_step with
    | sweep h_scene h_unset' =>
      refine ⟨unset ++ _, by rw [h_scene, h_before, Scene.discard_discard], fun id h_mem node => ?_⟩
      rcases List.mem_append.mp h_mem with h_mem | h_mem
      · exact h_unset id h_mem node
      · have h_free := h_unset' id h_mem node
        rwa [h_before, Scene.Sets.congr (Scene.reactions_discard _ _ _)] at h_free

end Session

/-! ### Histories -/

namespace World

/-- **Nobody who clicks sees** that variables are gone that no reaction sets. -/
theorem shownValue_after_clicks {w w' : World Unit} {name : String} {ids : String → Prop}
    {unset : List String} (h_coupled : w.host.scene.Coupled name ids)
    (h_unset : ∀ id ∈ unset, ∀ node, ¬w.host.scene.Sets node id)
    (h_scene : w'.host.scene = w.host.scene.discard unset) (clicks : List String)
    (node property : String) :
    (w'.after (clicks.map .click)).host.scene.shownValue node property =
      (w.after (clicks.map .click)).host.scene.shownValue node property := by
  induction clicks generalizing w w' with
  | nil =>
    rw [List.map_nil, after, after, List.foldl_nil, List.foldl_nil, h_scene]
    exact h_coupled.shownValue_discard h_unset node property
  | cons clicked clicks ih =>
    have h_used := Scene.Used.click w.host.scene clicked
    have h_scene' : (w'.advance (.click clicked)).host.scene =
        (w.advance (.click clicked)).host.scene.discard unset := by
      show (w'.host.scene.operate (.click clicked)).2 = _
      rw [h_scene]
      exact Scene.click_discard _ _ _
    refine ih (h_coupled.used h_used) (fun id h_mem node' h_sets => ?_) h_scene'
    exact h_unset id h_mem node' ((h_used.sets node' id).mp h_sets)

/-- **Cleanups are invisible.** Let a session begin on a scene that can be built, whose nodes accept
reactions and where no property is bound, with a host whose storage works. Let any messages,
notices, selections and clicks follow. None asks to forget the stored records, and no id of an
interaction that is asked for, nested in one or stored at first reads like a part of the names of
the state variables of another. Then whatever is clicked after a cleanup, every property of every
node shows the same as if there had been no cleanup. -/
theorem unseen_after_cleanup (w : World Unit) (moves : List Move) (config : Config)
    (listeners : List String) (h_start : w.current = Session.start config listeners)
    (hw : w.Sound) (h_stores : w.host.Stores) (h_accepts : w.host.scene.rejectingReactions = [])
    (h_unbound : ∀ node n, w.host.scene.nodes.find? node = some n → n.bindings = ∅)
    (h_retains : ∀ m ∈ moves, m.Retains config) (h_calm : ∀ m ∈ moves, m.Calm)
    (ids : String → Prop)
    (h_asks : ∀ m ∈ moves, ∀ i, m.Asks config.limits i → ∀ part ∈ i.parts, ids part.id)
    (h_stored : ∀ group i, w.host.recorded config group = .ok (some i) → ids i.id)
    (h_apart : ∀ id id', ids id → ids id' → ownedBy (Interaction.stateStem id) id' = false)
    (cleanup : Inbound) (e : Envelope) (h_decodes : cleanup.toEnvelope config.limits = .ok e)
    (h_type : e.type = "cleanup") (clicks : List String) (node property : String) :
    (((w.after moves).advance (.message cleanup)).after (clicks.map .click)).host.scene.shownValue
        node property =
      ((w.after moves).after (clicks.map .click)).host.scene.shownValue node property := by
  have h_initial : w.current.Configured config ∧ w.current.Steady ids w.host := by
    rw [h_start]
    refine ⟨⟨rfl, rfl⟩, h_stores, h_accepts, h_stored, .of_unbound nofun h_unbound, ?_⟩
    intro node n property target hn h_bound
    rw [h_unbound node n hn] at h_bound
    cases h_bound
  obtain ⟨h_sound, ⟨h_config, h_handlers⟩, h_steady⟩ := after_keeps
    (fun m hm => (h_retains m hm).keeps_wiring (h_calm m hm) (h_asks m hm)
      (Session.Stable.steady h_apart) fun _ _ _ h_used h_steady => h_steady.used h_used)
    hw h_initial
  -- the message calls for sweeps only
  have h_steps := runProgram_ends
    (Session.dispatch_steps h_sound.reliable h_sound.built (w.after moves).current cleanup)
  obtain ⟨unset, h_scene, h_unset⟩ := h_steps.swept fun a h_handling => by
    obtain ⟨e', handler, h_decodes', h_handler, h_does⟩ := h_handling
    rw [h_config] at h_decodes'
    obtain rfl := Except.ok.inj (h_decodes.symm.trans h_decodes')
    rw [h_handlers, h_type] at h_handler
    obtain rfl : Handler.sweep = handler := Option.some.inj h_handler
    cases a with
    | sweep => rfl
    | _ => simp [Handler.Does] at h_does
  exact shownValue_after_clicks h_steady.coupled h_unset h_scene clicks node property

/-- The tabs are authored with the badges and again without them. The cleanup removes the marker of
the second interaction, and whatever is clicked then, nobody sees it. -/
theorem unseen_after_reauthoring :
    let w := panel.after [.notice, .message (.authoring (.switchingOn "tabs" 1 ["badges"])),
      .click "tab-1", .message (.authoring (.switchingOn "tabs" 2 []))]
    let w' := w.advance (.message (.envelope { type := "cleanup" }))
    "tabs_2_primary" ∈ w.host.scene.variableNames ∧
      "tabs_2_primary" ∉ w'.host.scene.variableNames ∧
        ∀ (clicks : List String) (node property : String),
          (w'.after (clicks.map .click)).host.scene.shownValue node property =
            (w.after (clicks.map .click)).host.scene.shownValue node property := by
  intro w w'
  refine ⟨by decide +kernel, by decide +kernel, fun clicks node property => ?_⟩
  refine unseen_after_cleanup panel _ {} [] rfl sound_panel stores_panel rfl
    (Scene.unbound_of_entries (by decide +kernel)) ?_ ?_
    (fun id => ∃ group, '_' ∉ group.toList ∧ Interaction.MadeFor group id) ?_ ?_ ?_
    (.envelope { type := "cleanup" }) { type := "cleanup" } rfl rfl clicks node property
  · intro m hm
    simp only [List.mem_cons, List.not_mem_nil, or_false] at hm
    rcases hm with rfl | rfl | rfl | rfl
    · trivial
    · exact Move.retains_authoring _ _
    · trivial
    · exact Move.retains_authoring _ _
  · intro m hm
    simp only [List.mem_cons, List.not_mem_nil, or_false] at hm
    rcases hm with rfl | rfl | rfl | rfl <;> trivial
  · -- all ids are made for the tabs or the badges
    have h_made (t : Int) {others : List String} (h_empty : "" ∉ others)
        (h_others : ∀ other ∈ others, '_' ∉ other.toList) (i : Interaction)
        (h_asks : (Inbound.authoring (.switchingOn "tabs" t others)).Asks .standard i) :
        ∀ part ∈ i.parts, ∃ group, '_' ∉ group.toList ∧ Interaction.MadeFor group part.id := by
      have h_storable : (Interaction.switchingOn "tabs" t others).Storable .standard :=
        Interaction.storable_switchingOn rfl (by decide) h_empty
      obtain rfl := Inbound.eq_of_asks_authoring h_storable h_asks
      have h_tabs : '_' ∉ "tabs".toList := by decide
      intro part h_part
      refine ⟨part.group, ?_, Interaction.madeFor_of_mem_parts h_part rfl h_tabs⟩
      rcases List.mem_cons.mp h_part with rfl | h_nested
      · exact h_tabs
      · obtain ⟨action, h_mem, rfl⟩ := List.mem_map.mp h_nested
        obtain ⟨other, h_other, rfl⟩ := List.mem_map.mp (List.mem_filter.mp h_mem).1
        exact h_others other h_other
    intro m hm i h_asks
    simp only [List.mem_cons, List.not_mem_nil, or_false] at hm
    rcases hm with rfl | rfl | rfl | rfl
    · exact h_asks.elim
    · exact h_made 1 (by decide) (by decide) i h_asks
    · exact h_asks.elim
    · exact h_made 2 (by decide) (by decide) i h_asks
  · intro group i h_found
    rw [Host.recorded_of_absent rfl] at h_found
    cases h_found
  · rintro id id' ⟨group, h_group, h_made⟩ ⟨group', h_group', h_made'⟩
    exact h_made.apart_from_states h_made' h_group h_group'

/-- **A cleanup is seen after the records have been forgotten.** The tabs are authored, a tab is
clicked, the stored records are forgotten, and the tabs are given an interaction whose property they
do not have. The tab stays bound to the variable of the first interaction, which no reaction sets
any more, and loses it to the cleanup. -/
theorem seen_after_forgetting :
    let inert : Interaction := { id := "tabs_2", group := "tabs", primaryAction := "Foo=On" }
    let w := panel.after [.notice, .message (.authoring (.switchingOn "tabs" 1 [])),
      .click "tab-1", .message (.envelope { type := "cleanup-stored-data" }),
      .message (.authoring inert)]
    let w' := w.advance (.message (.envelope { type := "cleanup" }))
    (w.host.scene.shownValue "tab-1" "State").toOption = some "On" ∧
      (w'.host.scene.shownValue "tab-1" "State").toOption = some "Off" := by
  decide +kernel

/-- **A cleanup is seen after ids got in each other's way.** The tabs are authored, the second tab
is clicked, and the badges are given an interaction whose id reads like the state of the first tab.
What that retires is set by both tabs, so both are cleared, and the second one is still bound. -/
theorem seen_after_overlap :
    let on (id group : String) : Interaction := { id, group, primaryAction := "State=On" }
    let w := panel.after [.notice, .message (.authoring (on "x" "tabs")), .click "tab-2",
      .message (.authoring (on "x_instance_0" "badges"))]
    let w' := w.advance (.message (.envelope { type := "cleanup" }))
    (w.host.scene.shownValue "tab-2" "State").toOption = some "On" ∧
      (w'.host.scene.shownValue "tab-2" "State").toOption = some "Off" := by
  decide +kernel

end World

end Clickwork
