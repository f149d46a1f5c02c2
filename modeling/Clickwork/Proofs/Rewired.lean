import Clickwork.Proofs.Clicks
import Clickwork.Proofs.Records
import Clickwork.Proofs.Authoring
import Clickwork.Proofs.Scene.Renamed

/-!
# Wiring a group once more

An interaction is wired onto a group whose instances are unbound, instances of the group are
clicked, and the interaction is retired. What is left is the scene from before, but for the counter
and for reactions of the group (`Wired.retired`): the variables that clicks have changed are gone,
and so are the bindings to them.

So wiring the interaction once more finds what it found the first time, and leads to the same scene
under other ids (`Performed.again`).
-/

namespace Clickwork

open Records (ownedBy)

namespace Scene

/-! ### What stays -/

/-- **The stage**: what wiring, retiring and clicks leave alone, which is everything but nodes,
variables and the counter. -/
def stage (s : Scene) : Scene :=
  { s with nodes := ∅, variableTable := ∅, nextId := 0 }

theorem eq_of_stage_eq {s t : Scene} (h_stage : s.stage = t.stage) (h_nodes : s.nodes = t.nodes)
    (h_variables : s.variableTable = t.variableTable) (h_next : s.nextId = t.nextId) : s = t := by
  cases s
  cases t
  simp_all [stage]

section Stage

variable {s : Scene} {collection property : String}

@[simp] theorem stage_addMarkers (names : List String) :
    (s.addMarkers collection names).stage = s.stage := by
  induction names generalizing s with
  | nil => rfl
  | cons name names ih => exact ih.trans rfl

@[simp] theorem nodes_addMarkers (names : List String) :
    (s.addMarkers collection names).nodes = s.nodes := by
  induction names generalizing s with
  | nil => rfl
  | cons name names ih => exact ih.trans rfl

@[simp] theorem stage_settleAll (ps : List Placement) :
    (settleAll collection property s ps).stage = s.stage := by
  induction ps generalizing s with
  | nil => rfl
  | cons p ps ih =>
    rw [settleAll_cons, ih, settle]
    split <;> rfl

@[simp] theorem stage_placeAll (changes : List (String × List Reaction)) :
    (s.placeAll changes).stage = s.stage := by
  rw [placeAll_eq]
  rfl

@[simp] theorem stage_retired (name interaction : String) :
    (s.retired name interaction).stage = s.stage := by
  rw [retired]
  split <;> rfl

/-- The same nodes on the same stage. -/
theorem Kept.of_stage {t : Scene} (h_stage : t.stage = s.stage) (h_nodes : t.nodes = s.nodes) :
    Kept s t where
  nodes := by rw [h_nodes]
  components := by simpa only [stage] using congrArg Scene.components h_stage
  sets := by simpa only [stage] using congrArg Scene.sets h_stage
  rejectingBindings := by simpa only [stage] using congrArg Scene.rejectingBindings h_stage
  rejectingReactions := by simpa only [stage] using congrArg Scene.rejectingReactions h_stage

end Stage

/-- **No node sets a variable whose id is still to be given out.** -/
def Unforeseen (s : Scene) : Prop :=
  ∀ n, s.nextId ≤ n → ∀ node, ¬s.Sets node (variableId n)

/-! ### Clicks -/

/-- **The same scene but for the values of some variables**: not of the fixed ones. -/
def Revalued (fixed : String → Prop) (s t : Scene) : Prop :=
  ∃ f : String → Variable → Variable,
    (∀ id v, (f id v).name = v.name ∧ (f id v).collection = v.collection) ∧
    (∀ id v, fixed id → f id v = v) ∧
    t = { s with variableTable := s.variableTable.mapValues f }

theorem Revalued.refl (fixed : String → Prop) (s : Scene) : Revalued fixed s s := by
  refine ⟨fun _ v => v, fun _ _ => ⟨rfl, rfl⟩, fun _ _ _ => rfl, ?_⟩
  rw [Registry.mapValues_eq_self fun _ _ => rfl]

/-- The variable after it is assigned a value, if there is one. -/
def Variable.assigned (v : Variable) (value : Option String) : Variable :=
  { v with value := value.elim v.value .str }

theorem assignAll_eq (s : Scene) (batch : Registry String String) :
    s.assignAll batch = { s with
      variableTable := s.variableTable.mapValues fun id v => v.assigned (batch.find? id) } := by
  rw [assignAll]
  congr 2
  funext id v
  cases batch.find? id <;> rfl

/-- A click assigns no variable that no reaction of the node sets. -/
theorem find?_clickBatch_eq_none {reactions : List Reaction} {id : String}
    (h : ∀ r ∈ reactions, id ∉ r.targets) : (clickBatch reactions).find? id = none := by
  rw [clickBatch, Registry.find?_ofList, Option.map_eq_none_iff, List.getLast?_eq_none_iff,
    List.filter_eq_nil_iff]
  intro e he h_id
  obtain ⟨r, hr, h_action⟩ := List.mem_flatMap.mp he
  obtain ⟨a, ha, rfl⟩ := List.mem_map.mp h_action
  exact h r (List.mem_of_mem_filter hr) (of_decide_eq_true h_id ▸ List.mem_map_of_mem ha)

/-- **A click on a node that sets no fixed variable.** -/
theorem Revalued.click {fixed : String → Prop} {s t : Scene} (h : Revalued fixed s t)
    {node : String} (h_sets : ∀ target, s.Sets node target → ¬fixed target) :
    Revalued fixed s (t.operate (.click node)).2 := by
  obtain ⟨f, h_same, h_fixed, rfl⟩ := h
  simp only [operate, Scene.click]
  cases hn : s.nodes.find? node with
  | none => exact ⟨f, h_same, h_fixed, rfl⟩
  | some n =>
    refine ⟨fun id v => (f id v).assigned ((clickBatch n.reactions).find? id),
      fun id v => h_same id v, fun id v h_id => ?_, ?_⟩
    · have h_none : (clickBatch n.reactions).find? id = none :=
        find?_clickBatch_eq_none fun r hr h_target =>
          h_sets id ⟨r, by rwa [reactions_of_find? hn], h_target⟩ h_id
      simp only [h_none]
      exact h_fixed id v h_id
    · rw [changed, assignAll_eq, Registry.mapValues_mapValues]

/-! ### More variables -/

section Grown

variable {s : Scene} {collection property : String}

theorem entries_addVariable (hs : s.Fresh) (name type : String) (value : Json) :
    (s.addVariable collection name type value).variableTable.entries =
      s.variableTable.entries ++ [(variableId s.nextId, ⟨name, collection, type, value⟩)] :=
  Registry.entries_insert_of_find?_eq_none (hs s.nextId (Nat.le_refl _))

/-- New variables come after those that were there. -/
theorem grown_addMarkers (hs : s.Fresh) (names : List String) :
    s.variableTable.entries <+: (s.addMarkers collection names).variableTable.entries := by
  induction names generalizing s with
  | nil => exact List.prefix_rfl
  | cons name names ih =>
    refine List.IsPrefix.trans ?_ (ih (hs.addVariable collection name "BOOLEAN" (.bool false)))
    rw [entries_addVariable hs]
    exact List.prefix_append _ _

theorem grown_settleAll (hs : s.Fresh) (ps : List Placement) :
    s.variableTable.entries <+: (settleAll collection property s ps).variableTable.entries := by
  induction ps generalizing s with
  | nil => exact List.prefix_rfl
  | cons p ps ih =>
    rw [settleAll_cons]
    refine List.IsPrefix.trans ?_ (ih (hs.settle p))
    rw [variableTable_settle, entries_addVariable hs]
    exact List.prefix_append _ _

theorem nextId_addMarkers (names : List String) :
    (s.addMarkers collection names).nextId = s.nextId + names.length := by
  induction names generalizing s with
  | nil => rfl
  | cons name names ih =>
    rw [List.length_cons, show s.nextId + (names.length + 1) = s.nextId + 1 + names.length by omega]
    exact ih

theorem nextId_settleAll (ps : List Placement) :
    (settleAll collection property s ps).nextId = s.nextId + ps.length := by
  induction ps generalizing s with
  | nil => rfl
  | cons p ps ih =>
    rw [settleAll_cons, ih, nextId_settle, List.length_cons]
    omega

end Grown

/-! ### Reactions that are placed before -/

section Placed

variable {s : Scene} {collection property : String}

theorem addVariable_place (name type : String) (value : Json) (c : String × List Reaction) :
    (s.place c.1 c.2).addVariable collection name type value =
      (s.addVariable collection name type value).place c.1 c.2 := by
  unfold place
  split
  · rename_i h_rejects
    rw [if_pos (show c.1 ∈ (s.addVariable collection name type value).rejectingReactions from
      h_rejects)]
  · rename_i h_accepts
    rw [if_neg (show c.1 ∉ (s.addVariable collection name type value).rejectingReactions from
      h_accepts)]
    rfl

theorem bind_place (node target : String) (c : String × List Reaction) :
    (s.place c.1 c.2).bind node property target = (s.bind node property target).place c.1 c.2 := by
  unfold place
  split
  · rename_i h_rejects
    rw [if_pos (show c.1 ∈ (s.bind node property target).rejectingReactions from h_rejects)]
  · rename_i h_accepts
    rw [if_neg (show c.1 ∉ (s.bind node property target).rejectingReactions from h_accepts)]
    simp only [bind, Registry.modify, Registry.mapValues_mapValues]
    congr 2
    funext node' n
    -- a binding and a reaction of one node do not get in each other's way
    split_ifs <;> rfl

theorem settle_place (p : Placement) (c : String × List Reaction) :
    settle collection property (s.place c.1 c.2) p =
      (settle collection property s p).place c.1 c.2 := by
  have h_next : (s.place c.1 c.2).nextId = s.nextId := by
    unfold place
    split <;> rfl
  simp only [settle, h_next, addVariable_place]
  split
  · exact bind_place _ _ _
  · rfl

theorem settleAll_placeAll (ps : List Placement) (changes : List (String × List Reaction)) :
    settleAll collection property (s.placeAll changes) ps =
      (settleAll collection property s ps).placeAll changes := by
  have h_one : ∀ (s : Scene) (c : String × List Reaction),
      settleAll collection property (s.place c.1 c.2) ps =
        (settleAll collection property s ps).place c.1 c.2 := by
    intro s c
    induction ps generalizing s with
    | nil => rfl
    | cons p ps ih => rw [settleAll_cons, settleAll_cons, settle_place, ih]
  induction changes generalizing s with
  | nil => rfl
  | cons c changes ih =>
    have h_rest := ih (s := s.place c.1 c.2)
    rw [h_one] at h_rest
    exact h_rest

theorem addMarkers_placeAll (names : List String) (changes : List (String × List Reaction)) :
    (s.placeAll changes).addMarkers collection names =
      (s.addMarkers collection names).placeAll changes := by
  have h_one : ∀ (s : Scene) (c : String × List Reaction),
      (s.place c.1 c.2).addMarkers collection names =
        (s.addMarkers collection names).place c.1 c.2 := by
    intro s c
    induction names generalizing s with
    | nil => rfl
    | cons name names ih =>
      have h_rest := ih (s := s.addVariable collection name "BOOLEAN" (.bool false))
      rw [← addVariable_place] at h_rest
      exact h_rest
  induction changes generalizing s with
  | nil => rfl
  | cons c changes ih =>
    have h_rest := ih (s := s.place c.1 c.2)
    rw [h_one] at h_rest
    exact h_rest

end Placed

end Scene

namespace Wiring

open Scene (Placement settleAll variableId exchange)

variable {s s' t u : Scene} {collection property : String} {i : Interaction} {g : Group}

/-! ### Blanks -/

/-- Nothing is placed at each instance. -/
def blanks (instances : List Instance) : List (String × List Reaction) :=
  instances.map fun i => (i.id, [])

/-- An instance is left without reactions. -/
theorem lastPlaced_blanks {instances : List Instance} {node : String}
    (h_mem : node ∈ instances.map (·.id)) (h_accepts : node ∉ s.rejectingReactions) :
    s.lastPlaced (blanks instances) node = some [] := by
  obtain ⟨j, hj, rfl⟩ := List.mem_map.mp h_mem
  rw [Scene.lastPlaced, if_neg h_accepts]
  cases h_last : ((blanks instances).filter (·.1 = j.id)).getLast? with
  | none =>
    rw [List.getLast?_eq_none_iff, List.filter_eq_nil_iff] at h_last
    exact (h_last (j.id, []) (List.mem_map.mpr ⟨j, hj, rfl⟩) (by simp)).elim
  | some c =>
    obtain ⟨h_in, -⟩ := List.mem_filter.mp (List.mem_of_getLast? h_last)
    obtain ⟨j', -, rfl⟩ := List.mem_map.mp h_in
    rfl

/-- Other nodes keep their reactions. -/
theorem lastPlaced_blanks_of_not_mem {instances : List Instance} {node : String}
    (h_other : node ∉ instances.map (·.id)) : s.lastPlaced (blanks instances) node = none := by
  rw [Scene.lastPlaced]
  split
  · rfl
  · rw [Option.map_eq_none_iff, List.getLast?_eq_none_iff, List.filter_eq_nil_iff]
    intro c hc h_node
    obtain ⟨j, hj, rfl⟩ := List.mem_map.mp hc
    exact h_other (List.mem_map.mpr ⟨j, hj, of_decide_eq_true h_node⟩)

/-- **Nodes agree once a group is blank**, if other nodes agree and the instances are unbound. -/
theorem nodes_placeAll_blanks {instances : List Instance} (h_kept : Scene.Kept s t)
    (h_accepts : s.rejectingReactions = [])
    (h_unbound : ∀ node ∈ instances.map (·.id), ∀ n, s.nodes.find? node = some n → n.bindings = ∅)
    (h_unbound' : ∀ node ∈ instances.map (·.id), ∀ n, t.nodes.find? node = some n → n.bindings = ∅)
    (h_other : ∀ node, node ∉ instances.map (·.id) → t.nodes.find? node = s.nodes.find? node) :
    (t.placeAll (blanks instances)).nodes = (s.placeAll (blanks instances)).nodes := by
  have h_accept : ∀ node, node ∉ t.rejectingReactions ∧ node ∉ s.rejectingReactions := by
    intro node
    rw [h_kept.rejectingReactions, h_accepts]
    simp
  have h_keys : t.nodes.keys = s.nodes.keys := by
    have h_same := congrArg Registry.keys h_kept.nodes
    simpa [Registry.keys, Registry.mapValues, Function.comp_def] using h_same
  rw [Scene.placeAll_eq, Scene.placeAll_eq]
  refine Registry.ext_find? ?_ fun node => ?_
  · simpa [Registry.keys, Registry.mapValues, Function.comp_def] using h_keys
  rw [Registry.find?_mapValues, Registry.find?_mapValues]
  by_cases h_mem : node ∈ instances.map (·.id)
  · rw [lastPlaced_blanks h_mem (h_accept node).1, lastPlaced_blanks h_mem (h_accept node).2]
    -- without bindings and reactions nothing is left that could differ
    have h_blank : ∀ {x : Scene}, (∀ n, x.nodes.find? node = some n → n.bindings = ∅) →
        (x.nodes.find? node).map (·.react []) = (x.nodes.find? node).map Scene.Node.bare := by
      intro x h_empty
      refine Option.map_congr fun n hn => ?_
      rw [Scene.Node.bare, ← h_empty n hn]
      rfl
    calc (t.nodes.find? node).map (·.react [])
        = (t.nodes.find? node).map Scene.Node.bare := h_blank (h_unbound' node h_mem)
      _ = (s.nodes.find? node).map Scene.Node.bare := h_kept.bare_find? node
      _ = (s.nodes.find? node).map (·.react []) := (h_blank (h_unbound node h_mem)).symm
  · rw [lastPlaced_blanks_of_not_mem h_mem, lastPlaced_blanks_of_not_mem h_mem, h_other node h_mem]

/-! ### Equipped groups -/

/-- **The scene after a group is equipped**: markers of the given names, state variables, and
reactions. -/
def equipped (collection property : String) (names : List String) (ps : List Placement)
    (instances : List Instance) (rs : List Reaction) (s : Scene) : Scene :=
  (settleAll collection property (s.addMarkers collection names) ps).placeAll
    (installations instances rs)

/-- Reactions that the instances had before do not matter. -/
theorem equipped_eq (names : List String) (ps : List Placement) (instances : List Instance)
    (rs : List Reaction) :
    equipped collection property names ps instances rs s =
      (settleAll collection property ((s.placeAll (blanks instances)).addMarkers collection names)
        ps).placeAll ((instances.zip rs).map fun e => (e.1.id, [e.2])) := by
  rw [Scene.addMarkers_placeAll, Scene.settleAll_placeAll, ← Scene.placeAll_append]
  rfl

/-- **A group equipped once more**, on the same scene but for the counter and for reactions of its
instances: the scene is the same under other ids. -/
theorem equipped_again {ρ : Equiv.Perm String} {names : List String} {ps : List Placement}
    {instances : List Instance} {next : Nat}
    (h_cleared : s'.placeAll (blanks instances) =
      (s.placeAll (blanks instances)).renamed ρ next)
    (h_next : ∀ k < names.length + ps.length,
      ρ (variableId (s.nextId + k)) = variableId (next + k)) (rs : List Reaction) :
    equipped collection property names ps instances (rs.map (·.rename ρ)) s' =
      (equipped collection property names ps instances rs s).renamed ρ
        (next + names.length + ps.length) := by
  have h_counter : (s.placeAll (blanks instances)).nextId = s.nextId := by
    rw [Scene.placeAll_eq]
  have h_changes : (instances.zip (rs.map (·.rename ρ))).map (fun e => (e.1.id, [e.2])) =
      ((instances.zip rs).map fun e => (e.1.id, [e.2])).map
        fun c => (c.1, c.2.map (·.rename ρ)) := by
    rw [List.zip_map_right, List.map_map, List.map_map]
    rfl
  rw [equipped_eq, equipped_eq, h_cleared, h_changes, Scene.renamed_addMarkers,
    Scene.renamed_settleAll, Scene.renamed_placeAll]
  · intro k hk
    rw [Scene.nextId_addMarkers, h_counter, Nat.add_assoc, Nat.add_assoc]
    exact h_next (names.length + k) (by omega)
  · intro k hk
    rw [h_counter]
    exact h_next k (by omega)

/-! ### Retired wirings -/

/-- **What is there before a group is wired**, when it can be wired once more: the instances are
unbound, no variable belongs to the interaction, and no node sets variables to come. -/
structure Ready (name collection : String) (i : Interaction) (g : Group) (s : Scene) : Prop where
  wellFormed : s.WellFormed
  managed : s.collections.find? name = some collection
  unowned : ∀ id v, s.variableTable.find? id = some v → v.collection = collection →
    ownedBy i.id v.name = false
  unbound : ∀ node ∈ g.instances.map (·.id), ∀ n, s.nodes.find? node = some n → n.bindings = ∅
  accepts : s.rejectingReactions = []
  unforeseen : s.Unforeseen

section Retired

variable {name : String} (h_ready : Ready name collection i g s)
  (h_wired : Wired collection i g s t)
  (h_clicked : Scene.Revalued (fun id => ∃ v, s.variableTable.find? id = some v) t u)

include h_ready h_wired h_clicked

/-- A variable that belongs to the interaction after wiring and clicks is new. -/
theorem Wired.owned_new {id : String} {v : Scene.Variable}
    (hv : u.variableTable.find? id = some v) (h_collection : v.collection = collection)
    (h_owned : ownedBy i.id v.name = true) :
    s.variableTable.find? id = none ∧ ∃ n, s.nextId ≤ n ∧ id = variableId n := by
  obtain ⟨f, h_same, h_fixed, rfl⟩ := h_clicked
  rw [Registry.find?_mapValues, Option.map_eq_some_iff] at hv
  obtain ⟨v, hv, rfl⟩ := hv
  rw [(h_same id v).1] at h_owned
  rw [(h_same id v).2] at h_collection
  rcases h_wired.extended.new id v hv with h_old | ⟨h_none, -, -, n, hn, -, h_id⟩
  · rw [h_ready.unowned id v h_old h_collection] at h_owned
    cases h_owned
  · exact ⟨h_none, n, hn, h_id⟩

/-- **Exactly the new variables belong to the interaction.** -/
theorem Wired.mem_owned_iff {id : String} {v : Scene.Variable}
    (hv : t.variableTable.find? id = some v) :
    id ∈ u.owned collection i.id ↔ s.variableTable.find? id = none := by
  rw [Scene.mem_owned]
  refine ⟨fun ⟨w, hw, h_collection, h_owned⟩ =>
    (h_wired.owned_new h_ready h_clicked hw h_collection h_owned).1, fun h_none => ?_⟩
  obtain ⟨f, h_same, -, rfl⟩ := h_clicked
  rcases h_wired.extended.new id v hv with h_old | ⟨-, h_collection, h_named, -⟩
  · rw [h_none] at h_old
    cases h_old
  · refine ⟨f id v, by rw [Registry.find?_mapValues, hv, Option.map_some], ?_, ?_⟩
    · rw [(h_same id v).2, h_collection]
    · rw [(h_same id v).1]
      exact h_named.ownedBy

/-- **The variables from before are left**, with their values and in their order. -/
theorem Wired.variableTable_retired
    (h_grown : s.variableTable.entries <+: t.variableTable.entries) :
    (u.retired name i.id).variableTable = s.variableTable := by
  have h_owned : ∀ {id v}, t.variableTable.find? id = some v →
      (id ∈ u.owned collection i.id ↔ s.variableTable.find? id = none) :=
    fun hv => h_wired.mem_owned_iff h_ready h_clicked hv
  obtain ⟨f, -, h_fixed, h_eq⟩ := h_clicked
  have h_collection : u.collections.find? name = some collection := by
    rw [h_eq]
    exact h_wired.extended.collections ▸ h_ready.managed
  have h_table : (u.retired name i.id).variableTable =
      u.variableTable.filter fun id _ => decide (id ∉ u.owned collection i.id) := by
    rw [Scene.retired, h_collection]
    rfl
  generalize u.owned collection i.id = owned at h_owned h_table
  obtain ⟨new, h_new⟩ := h_grown
  have h_nodup := t.variableTable.nodup
  rw [← h_new, List.map_append, List.nodup_append] at h_nodup
  have h_there : ∀ e ∈ s.variableTable.entries ++ new,
      t.variableTable.find? e.1 = some e.2 := fun e he =>
    Registry.find?_eq_some_iff.mpr (h_new ▸ he)
  rw [h_table, h_eq]
  ext1
  simp only [Registry.filter, Registry.mapValues, ← h_new, List.map_append, List.filter_append]
  -- those from before have kept their values, and the new ones go
  have h_before : s.variableTable.entries.map (fun e => (e.1, f e.1 e.2)) =
      s.variableTable.entries := by
    refine (List.map_congr_left fun e he => ?_).trans (List.map_id _)
    rw [h_fixed e.1 e.2 ⟨e.2, Registry.find?_eq_some_iff.mpr he⟩]
    rfl
  rw [h_before, List.filter_eq_self.mpr, List.filter_eq_nil_iff.mpr, List.append_nil]
  · intro e he h_left
    obtain ⟨e, h_mem, rfl⟩ := List.mem_map.mp he
    refine of_decide_eq_true h_left ?_
    rw [h_owned (h_there e (List.mem_append_right _ h_mem)), Registry.find?_eq_none_iff]
    exact fun h_key => h_nodup.2.2 e.1 h_key e.1 (List.mem_map_of_mem h_mem) rfl
  · intro e he
    refine decide_eq_true fun h_mem => ?_
    rw [h_owned (h_there e (List.mem_append_left _ he)),
      Registry.find?_eq_some_iff.mpr he] at h_mem
    cases h_mem

/-- **A node outside of the group** is as it was. -/
theorem Wired.nodes_retired {node : String} (h_other : node ∉ g.instances.map (·.id)) :
    (u.retired name i.id).nodes.find? node = s.nodes.find? node := by
  have h_frame := h_wired.frame node h_other
  have h_new : ∀ {id v}, u.variableTable.find? id = some v → v.collection = collection →
      ownedBy i.id v.name = true →
        s.variableTable.find? id = none ∧ ∃ n, s.nextId ≤ n ∧ id = variableId n :=
    fun hv => h_wired.owned_new h_ready h_clicked hv
  have h_collections : u.collections = s.collections := by
    obtain ⟨f, -, -, rfl⟩ := h_clicked
    exact h_wired.extended.collections
  have h_nodes : u.nodes = t.nodes := by
    obtain ⟨f, -, -, rfl⟩ := h_clicked
    rfl
  have h_managed : ∀ v : Scene.Variable, u.collections.find? name = some v.collection →
      v.collection = collection := by
    intro v h_find
    rw [h_collections, h_ready.managed] at h_find
    exact (Option.some.inj h_find).symm
  rw [Scene.nodes_retired, h_nodes, h_frame]
  refine ⟨fun n property target v hn h_bound hv h_find => ?_, fun target v h_sets hv h_find => ?_⟩
  · -- what it is bound to was there before
    rw [h_nodes, h_frame] at hn
    obtain ⟨w, hw⟩ := h_ready.wellFormed.target_exists node n property target hn h_bound
    refine Bool.eq_false_iff.mpr fun h_belongs => ?_
    rw [(h_new hv (h_managed v h_find) h_belongs).1] at hw
    cases hw
  · -- what it sets is not to come
    refine Bool.eq_false_iff.mpr fun h_belongs => ?_
    obtain ⟨-, n, hn, rfl⟩ := h_new hv (h_managed v h_find) h_belongs
    refine h_ready.unforeseen n hn node ((Scene.Sets.congr ?_).mp h_sets)
    rw [Scene.reactions, Scene.reactions, h_nodes, h_frame]

/-- **An instance of the group** is unbound again. -/
theorem Wired.bindings_retired (hr : (u.retired name i.id).WellFormed)
    (h_table : (u.retired name i.id).variableTable = s.variableTable) {node : String}
    (h_mem : node ∈ g.instances.map (·.id)) {n : Scene.Node}
    (hn : (u.retired name i.id).nodes.find? node = some n) : n.bindings = ∅ := by
  have h_nodes : u.nodes = t.nodes := by
    obtain ⟨f, -, -, rfl⟩ := h_clicked
    rfl
  ext1
  rcases h_entries : n.bindings.entries with _ | ⟨⟨property, target⟩, rest⟩
  · rfl
  -- a binding would be to a variable that was there before, or to one that is gone
  have h_bound : n.bindings.find? property = some target :=
    Registry.find?_eq_some_iff.mpr (by rw [h_entries]; exact List.mem_cons_self)
  obtain ⟨v, hv⟩ := hr.target_exists node n property target hn h_bound
  obtain ⟨n', hn', h_bound'⟩ := Scene.bindings_retired hn h_bound
  rw [h_nodes] at hn'
  rcases h_wired.bindings node n' property target hn' h_bound' with ⟨m, hm, h_old⟩ | ⟨h_none, -⟩
  · rw [h_ready.unbound node h_mem m hm] at h_old
    cases h_old
  · rw [h_table, h_none] at hv
    cases hv

/-- **Retiring a wired interaction restores the scene**, but for the counter and for reactions of
the group. -/
theorem Wired.retired (hr : (u.retired name i.id).WellFormed)
    (h_kept : Scene.Kept s (u.retired name i.id)) (h_stage : t.stage = s.stage)
    (h_grown : s.variableTable.entries <+: t.variableTable.entries) :
    (u.retired name i.id).placeAll (blanks g.instances) =
      { s.placeAll (blanks g.instances) with nextId := t.nextId } := by
  have h_table := h_wired.variableTable_retired h_ready h_clicked h_grown
  have h_nodes : ((u.retired name i.id).placeAll (blanks g.instances)).nodes =
      (s.placeAll (blanks g.instances)).nodes :=
    nodes_placeAll_blanks h_kept h_ready.accepts h_ready.unbound
      (fun _ h_mem _ hn => h_wired.bindings_retired h_ready h_clicked hr h_table h_mem hn)
      fun _ h_not_mem => h_wired.nodes_retired h_ready h_clicked h_not_mem
  have h_stage' : (u.retired name i.id).stage = s.stage := by
    rw [Scene.stage_retired, ← h_stage]
    obtain ⟨f, -, -, rfl⟩ := h_clicked
    rfl
  have h_next : (u.retired name i.id).nextId = t.nextId := by
    rw [Scene.nextId_retired]
    obtain ⟨f, -, -, rfl⟩ := h_clicked
    rfl
  rw [Scene.placeAll_eq, Scene.placeAll_eq] at h_nodes ⊢
  exact Scene.eq_of_stage_eq h_stage' h_nodes h_table h_next

end Retired

/-! ### Wiring once more -/

theorem nextId_equipped (names : List String) (ps : List Placement) (instances : List Instance)
    (rs : List Reaction) : (equipped collection property names ps instances rs s).nextId =
      s.nextId + (names.length + ps.length) := by
  rw [equipped, Scene.placeAll_eq, Scene.nextId_settleAll, Scene.nextId_addMarkers, Nat.add_assoc]

/-- New variables come after those that were there. -/
theorem grown_equipped (hs : s.Fresh) (names : List String) (ps : List Placement)
    (instances : List Instance) (rs : List Reaction) : s.variableTable.entries <+:
      (equipped collection property names ps instances rs s).variableTable.entries := by
  have h_fresh : (s.addMarkers collection names).Fresh :=
    (Scene.Extended.addMarkers hs collection
      (fun _ _ => trivial : ∀ name ∈ names, True)).2.1
  rw [equipped, Scene.placeAll_eq]
  exact (Scene.grown_addMarkers hs names).trans (Scene.grown_settleAll h_fresh ps)

/-- **A performed wiring equips its group.** -/
theorem Performed.eq_equipped {config : Config} {h : Host} {w : Wiring}
    (h_performed : Performed collection i g config h w t) :
    ∃ property ps rs,
      t = equipped collection property (markerNames i) ps g.instances rs h.scene := by
  cases h_performed with
  | inert _ _ h_scene => exact ⟨"", [], _, h_scene⟩
  | resolved _ _ _ h_scene => exact ⟨_, _, _, h_scene⟩

/-- **A ready group equipped once more** is equipped as before, with the next block of ids. -/
theorem Ready.equipped_again {name : String} (h_ready : Ready name collection i g s)
    {names : List String} {ps : List Placement} {rs : List Reaction}
    (h_equipped : t = equipped collection property names ps g.instances rs s)
    (h_cleared : s'.placeAll (blanks g.instances) =
      { s.placeAll (blanks g.instances) with nextId := t.nextId }) :
    equipped collection property names ps g.instances
        (rs.map (·.rename (exchange s.nextId (names.length + ps.length)))) s' =
      t.renamed (exchange s.nextId (names.length + ps.length))
        (t.nextId + names.length + ps.length) := by
  have h_next : t.nextId = s.nextId + (names.length + ps.length) := by
    rw [h_equipped, nextId_equipped]
  obtain ⟨ρ, h_ρ⟩ : ∃ ρ, ρ = exchange s.nextId (names.length + ps.length) := ⟨_, rfl⟩
  rw [← h_ρ]
  -- the ids that the scene mentions are not exchanged
  have h_stays : ∀ id v, s.variableTable.find? id = some v → ρ id = id := by
    intro id v hv
    rw [h_ρ]
    refine Scene.exchange_of_forall_ne _ fun k hk h_id => ?_
    rw [h_id, h_ready.wellFormed.find?_variableId hk] at hv
    cases hv
  have h_renamed : s.renamed ρ t.nextId = { s with nextId := t.nextId } := by
    refine Scene.renamed_eq _ h_stays (fun node n property target hn h_bound => ?_)
      fun node target h_sets => ?_
    · obtain ⟨v, hv⟩ := h_ready.wellFormed.target_exists node n property target hn h_bound
      exact h_stays target v hv
    · rw [h_ρ]
      refine Scene.exchange_of_forall_ne _ fun k hk h_id => ?_
      exact h_ready.unforeseen k hk node (h_id ▸ h_sets)
  have h_blank : (s.placeAll (blanks g.instances)).renamed ρ t.nextId =
      { s.placeAll (blanks g.instances) with nextId := t.nextId } := by
    have h_changes : (blanks g.instances).map (fun c => (c.1, c.2.map (·.rename ρ))) =
        blanks g.instances := by
      simp [blanks]
    rw [← Scene.renamed_placeAll, h_renamed, h_changes, Scene.placeAll_eq, Scene.placeAll_eq]
    rfl
  rw [h_equipped] at h_cleared h_blank ⊢
  refine Wiring.equipped_again (h_cleared.trans h_blank.symm) (fun k hk => ?_) rs
  rw [nextId_equipped, h_ρ]
  exact Scene.exchange_of_lt _ hk

section Again

variable {h h' : Host}

/-- **The placements are the same once more**, if the instances are unbound both times and no
binding fails by arrangement. -/
theorem placements_again (plan : Plan) (h h' : Host) (h_binds : h.Spares .bindProperty)
    (h_binds' : h'.Spares .bindProperty) (h_kept : Scene.Kept h.scene h'.scene)
    (h_captured : ∀ j ∈ g.instances,
      h'.scene.captured plan.property j.id = h.scene.captured plan.property j.id) :
    placements plan h' g.instances = placements plan h g.instances := by
  have h_strikes : ∀ {x : Host} (number : Nat), x.Spares .bindProperty →
      x.strikesBinding number = false := by
    intro x number h_spares
    have h_none : x.faults.find? .bindProperty = none := h_spares
    rw [Host.strikesBinding, h_none]
    rfl
  refine List.map_congr_left fun e he => ?_
  obtain ⟨j, index⟩ := e
  simp only [placement, Host.accepts, h_strikes _ h_binds, h_strikes _ h_binds', h_kept.admits,
    h_captured j (List.mem_of_getElem? (List.mem_zipIdx_iff_getElem?.mp he))]

theorem kept_marked (collection : String) (i : Interaction) (h : Host) :
    Scene.Kept h.scene (marked collection i h).scene :=
  .of_stage (Scene.stage_addMarkers _) (Scene.nodes_addMarkers _)

/-- **The same is captured once more** if the instances are unbound both times. -/
theorem captured_again (h_kept : Scene.Kept h.scene h'.scene)
    (h_unbound : ∀ node ∈ g.instances.map (·.id), ∀ n, h.scene.nodes.find? node = some n →
      n.bindings = ∅)
    (h_unbound' : ∀ node ∈ g.instances.map (·.id), ∀ n, h'.scene.nodes.find? node = some n →
      n.bindings = ∅) {j : Instance} (hj : j ∈ g.instances) (property : String) :
    (marked collection i h').scene.captured property j.id =
      (marked collection i h).scene.captured property j.id := by
  have h_marked := (kept_marked collection i h).symm.trans
    (h_kept.trans (kept_marked collection i h'))
  refine h_marked.captured (fun n hn => ?_) fun n hn => ?_
  · rw [marked, Scene.nodes_addMarkers] at hn
    rw [h_unbound j.id (List.mem_map_of_mem hj) n hn]
    rfl
  · rw [marked, Scene.nodes_addMarkers] at hn
    rw [h_unbound' j.id (List.mem_map_of_mem hj) n hn]
    rfl

/-- **The slots of a group once more**: the same, with the next block of ids. -/
theorem slotsOf_again {plan : Plan} {ps : List Placement}
    (h_placements : placements plan (marked collection i h) g.instances = ps)
    (h_placements' : placements plan (marked collection i h') g.instances = ps)
    (h_next : h'.scene.nextId = h.scene.nextId + ((markerNames i).length + ps.length)) :
    slotsOf plan (marked collection i h') g = (slotsOf plan (marked collection i h) g).map
      (·.rename (exchange h.scene.nextId ((markerNames i).length + ps.length))) := by
  rw [slotsOf, slotsOf, h_placements, h_placements', marked, marked, Scene.nextId_addMarkers,
    Scene.nextId_addMarkers, h_next]
  refine Scene.slotsFrom_rename fun k hk => ?_
  rw [Nat.add_assoc, Nat.add_assoc]
  exact Scene.exchange_of_lt _ (by omega)

/-- **A wiring that is performed once more** compiles the same table and leads to the same scene
under other ids. -/
theorem Performed.again {name : String} {config : Config} {w w' : Wiring} {t' : Scene}
    (h_performed : Performed collection i g config h w t)
    (h_performed' : Performed collection i g config h' w' t') (hr : h.Reliable)
    (hr' : h'.Reliable) (h_binds : h.Spares .bindProperty) (h_binds' : h'.Spares .bindProperty)
    (h_kept : Scene.Kept h.scene h'.scene) (h_ready : Ready name collection i g h.scene)
    (h_unbound : ∀ node ∈ g.instances.map (·.id), ∀ n, h'.scene.nodes.find? node = some n →
      n.bindings = ∅)
    (h_cleared : h'.scene.placeAll (blanks g.instances) =
      { h.scene.placeAll (blanks g.instances) with nextId := t.nextId }) :
    w'.table = w.table ∧ ∃ ρ next, t' = t.renamed ρ next := by
  have h_resolved_same := resolved?_kept hr hr' h_kept i g
  cases h_performed with
  | inert h_resolved h_wiring h_scene =>
    cases h_performed' with
    | resolved h_resolved' => rw [h_resolved_same, h_resolved] at h_resolved'; cases h_resolved'
    | inert _ h_wiring' h_scene' =>
      -- reactions that do nothing are the same under other ids
      have h_scene₁ : t = equipped collection "" (markerNames i) [] g.instances
          (List.replicate g.instances.length {}) h.scene := h_scene
      have h_again := h_ready.equipped_again h_scene₁ h_cleared
      rw [List.map_replicate] at h_again
      exact ⟨by rw [h_wiring, h_wiring'], _, _, h_scene'.trans h_again⟩
  | @resolved primary property rs installed h_resolved h_build h_wiring h_scene =>
    cases h_performed' with
    | inert h_resolved' => rw [h_resolved_same, h_resolved] at h_resolved'; cases h_resolved'
    | @resolved primary' property' rs' installed' h_resolved' h_build' h_wiring' h_scene' =>
      rw [h_resolved_same, h_resolved] at h_resolved'
      obtain ⟨rfl, rfl⟩ := Prod.mk.inj (Option.some.inj h_resolved')
      have h_captured : ∀ j ∈ g.instances, (marked collection i h').scene.captured property j.id =
          (marked collection i h).scene.captured property j.id :=
        fun j hj => captured_again h_kept h_ready.unbound h_unbound hj property
      have h_siblings : siblings (marked collection i h').scene i g config primary property =
          siblings (marked collection i h).scene i g config primary property :=
        List.map_congr_left fun j hj => by rw [h_captured j hj]
      obtain ⟨ps, h_ps⟩ : ∃ ps, placements (plan collection i primary property)
        (marked collection i h) g.instances = ps := ⟨_, rfl⟩
      have h_ps' : placements (plan collection i primary property) (marked collection i h')
          g.instances = ps := by
        rw [← h_ps]
        exact placements_again _ _ _ h_binds h_binds' ((kept_marked collection i h).symm.trans
          (h_kept.trans (kept_marked collection i h'))) h_captured
      have h_scene₁ : t = equipped collection property (markerNames i) ps g.instances rs
          h.scene := by
        rw [h_scene, ← h_ps]
        rfl
      have h_next : h'.scene.nextId = h.scene.nextId + ((markerNames i).length + ps.length) := by
        have h_counter := congrArg Scene.nextId h_cleared
        rw [Scene.placeAll_eq, h_scene₁, nextId_equipped] at h_counter
        exact h_counter
      -- so the reactions are those for renamed slots
      rw [slotsOf_again h_ps h_ps' h_next, h_siblings, Reaction.build_rename, h_build] at h_build'
      obtain rfl := Except.ok.inj h_build'
      have h_scene₂ : t' = equipped collection property (markerNames i) ps g.instances
          (rs.map (·.rename (exchange h.scene.nextId ((markerNames i).length + ps.length))))
            h'.scene := by
        rw [h_scene', ← h_ps']
        rfl
      exact ⟨by rw [h_wiring, h_wiring', h_siblings], _, _,
        h_scene₂.trans (h_ready.equipped_again h_scene₁ h_cleared)⟩

end Again

end Wiring

end Clickwork
