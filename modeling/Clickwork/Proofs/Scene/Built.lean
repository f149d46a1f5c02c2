import Clickwork.Proofs.Registry
import Clickwork.Scene.Lemmas
import Std.Data.String.ToNat

/-!
# The scenes that can be built

`Scene.Built` holds of the scenes that come from the empty one by operations: those that lay out a
scene, those that a session may make, and clicks, in any order and whether they succeed or fail.

`Scene.WellFormed` is what such scenes have in common (`Built.wellFormed`): ids of variables and
collections were given out by the counter, every variable lies in a collection that was created at
some time, and a binding names a variable that exists and a property that its node has. In
particular the next id given out is new.
-/

namespace Clickwork.Scene

/-! ### Ids -/

/-- The id of the variable that is created when the counter stands at `n`. -/
def variableId (n : Nat) : String :=
  s!"VariableID:{n}"

/-- The id of the collection that is created when the counter stands at `n`. -/
def collectionId (n : Nat) : String :=
  s!"VariableCollectionId:{n}"

theorem append_repr_injective (text : String) {n n' : Nat}
    (h : text ++ Nat.repr n = text ++ Nat.repr n') : n = n' := by
  have h_list := congrArg String.toList h
  rw [String.toList_append, String.toList_append] at h_list
  exact Nat.repr_inj.mp (String.toList_inj.mp (List.append_cancel_left h_list))

theorem variableId_injective {n n' : Nat} (h : variableId n = variableId n') : n = n' :=
  append_repr_injective _ h

theorem collectionId_injective {n n' : Nat} (h : collectionId n = collectionId n') : n = n' :=
  append_repr_injective _ h

theorem createCollection_eq (s : Scene) (name : String) :
    s.createCollection name = (collectionId s.nextId,
      { s with
        collections := s.collections.insert name (collectionId s.nextId)
        nextId := s.nextId + 1 }) := rfl

theorem createVariable_eq (s : Scene) {name collection type : String}
    (h : collection ∈ s.collections.values) :
    s.createVariable name collection type = .ok (variableId s.nextId,
      { s with
        variableTable := s.variableTable.insert (variableId s.nextId) { name, collection, type }
        nextId := s.nextId + 1 }) :=
  if_pos h

theorem createVariable_eq_ok_iff {s : Scene} {name collection type : String}
    {created : String × Scene} :
    s.createVariable name collection type = .ok created ↔
      collection ∈ s.collections.values ∧
        created = (variableId s.nextId,
          { s with
            variableTable := s.variableTable.insert (variableId s.nextId) { name, collection, type }
            nextId := s.nextId + 1 }) := by
  by_cases h : collection ∈ s.collections.values
  · rw [createVariable_eq s h, Except.ok.injEq]
    simp [h, eq_comm]
  · rw [createVariable, if_neg h]
    simp [h]

attribute [irreducible] variableId collectionId

/-- An id that was given out before the counter stood at `bound`. -/
def Issued (ids : Nat → String) (bound : Nat) (id : String) : Prop :=
  ∃ n < bound, id = ids n

theorem Issued.mono {ids : Nat → String} {bound bound' : Nat} {id : String}
    (h : Issued ids bound id) (h_le : bound ≤ bound') : Issued ids bound' id := by
  obtain ⟨n, hn, h_eq⟩ := h
  exact ⟨n, by omega, h_eq⟩

/-! ### Operations -/

/-- **A step in the life of a scene.** -/
inductive Operation where
  | addVariantSet (id name : String) (definitions : Registry String Definition)
  | addComponent (id name : String) (set : Option String)
  | removeComponent (id : String)
  /-- A new node has neither bindings nor reactions nor children. -/
  | addNode (id name kind : String) (component : Option String)
      (properties : Registry String Json) (parent : Option String)
  | dropNode (id : String)
  | select (ids : List String)
  | setProperty (id property : String) (value : Json)
  | rejectBindings (ids : List String)
  | rejectReactions (ids : List String)
  | setReactions (id : String) (reactions : List Reaction)
  | close
  | createCollection (name : String)
  | createVariable (name collection type : String)
  | setValue (id : String) (value : Json)
  | bindProperty (id property target : String)
  | removeVariable (id : String)
  | click (id : String)

/-- A change as an operation: a refused one changes nothing. -/
def changed (s : Scene) (result : Except Failure Scene) : Except Failure Unit × Scene :=
  match result with
  | .ok s' => (.ok (), s')
  | .error e => (.error e, s)

/-- **Carries an operation out.** -/
def operate (s : Scene) : Operation → Except Failure Unit × Scene
  | .addVariantSet id name definitions => (.ok (), s.addVariantSet id name definitions)
  | .addComponent id name set => (.ok (), s.addComponent id name set)
  | .removeComponent id => (.ok (), s.removeComponent id)
  | .addNode id name kind component properties parent =>
    s.addNode id { name, kind, component, properties } parent
  | .dropNode id => s.changed (s.dropNode id)
  | .select ids => (.ok (), s.select ids)
  | .setProperty id property value => s.changed (s.setProperty id property value)
  | .rejectBindings ids => (.ok (), { s with rejectingBindings := ids })
  | .rejectReactions ids => (.ok (), { s with rejectingReactions := ids })
  | .setReactions id reactions => s.changed (s.setReactions id reactions)
  | .close => (.ok (), s.close)
  | .createCollection name => (.ok (), (s.createCollection name).2)
  | .createVariable name collection type =>
    s.changed ((s.createVariable name collection type).map Prod.snd)
  | .setValue id value => s.changed (s.setValue id value)
  | .bindProperty id property target => s.changed (s.bindProperty id property target)
  | .removeVariable id => s.changed (s.removeVariable id)
  | .click id => s.changed (s.click id)

/-- **The scenes that operations lead to** from the empty one. -/
inductive Built : Scene → Prop where
  | empty : Built {}
  | step {s : Scene} (h : Built s) (op : Operation) : Built (s.operate op).2

/-- The scene after operations, from the first to the last. -/
def operateAll (s : Scene) (ops : List Operation) : Scene :=
  ops.foldl (fun s op => (s.operate op).2) s

theorem Built.operateAll {s : Scene} (h : Built s) (ops : List Operation) :
    Built (s.operateAll ops) := by
  induction ops generalizing s with
  | nil => exact h
  | cons op ops ih => exact ih (h.step op)

/-! ### Well-formed scenes -/

/-- **What all scenes that can be built have in common.** -/
structure WellFormed (s : Scene) : Prop where
  /-- The ids of variables were given out. -/
  variable_issued : ∀ id v, s.variableTable.find? id = some v → Issued variableId s.nextId id
  /-- The collections of variables were created, though their names may have new ids by now. -/
  collection_known : ∀ id v, s.variableTable.find? id = some v →
    Issued collectionId s.nextId v.collection
  /-- The ids of collections were given out. -/
  collection_issued : ∀ name id, s.collections.find? name = some id →
    Issued collectionId s.nextId id
  /-- What is bound to a property is there. -/
  target_exists : ∀ node n property target, s.nodes.find? node = some n →
    n.bindings.find? property = some target → ∃ v, s.variableTable.find? target = some v
  /-- What is bound is a property of the node. -/
  property_exists : ∀ node n property target, s.nodes.find? node = some n →
    n.bindings.find? property = some target → ∃ value, n.properties.find? property = some value

theorem WellFormed.empty : WellFormed {} where
  variable_issued := fun _ _ h => absurd h (by simp [EmptyCollection.emptyCollection])
  collection_known := fun _ _ h => absurd h (by simp [EmptyCollection.emptyCollection])
  collection_issued := fun _ _ h => absurd h (by simp [EmptyCollection.emptyCollection])
  target_exists := fun _ _ _ _ h => absurd h (by simp [EmptyCollection.emptyCollection])
  property_exists := fun _ _ _ _ h => absurd h (by simp [EmptyCollection.emptyCollection])

/-- The next id of a variable is new. -/
theorem WellFormed.find?_variableId {s : Scene} (hs : WellFormed s) {n : Nat} (hn : s.nextId ≤ n) :
    s.variableTable.find? (variableId n) = none := by
  cases h : s.variableTable.find? (variableId n) with
  | none => rfl
  | some v =>
    obtain ⟨n', hn', h_eq⟩ := hs.variable_issued _ v h
    have := variableId_injective h_eq
    omega

/-- No variable is in a collection that is only created now. -/
theorem WellFormed.collection_ne_created {s : Scene} (hs : WellFormed s) {id : String}
    {v : Variable} (hv : s.variableTable.find? id = some v) (name : String) :
    (s.createCollection name).2.collections.find? name ≠ some v.collection := by
  rw [createCollection_eq, Registry.find?_insert_self]
  intro h_same
  obtain ⟨n, hn, h_id⟩ := hs.collection_known id v hv
  rw [← Option.some.inj h_same] at h_id
  have := collectionId_injective h_id
  omega

/-- A change that only touches the layout of a scene: each node it leaves bound was bound so
before. -/
theorem WellFormed.of_nodes {s s' : Scene} (hs : WellFormed s)
    (h_variables : s'.variableTable = s.variableTable)
    (h_collections : s'.collections = s.collections) (h_next : s'.nextId = s.nextId)
    (h_nodes : ∀ node n property target, s'.nodes.find? node = some n →
      n.bindings.find? property = some target →
        (∃ n₀, s.nodes.find? node = some n₀ ∧ n₀.bindings.find? property = some target) ∧
          ∃ value, n.properties.find? property = some value) : WellFormed s' where
  variable_issued := by rw [h_variables, h_next]; exact hs.variable_issued
  collection_known := by rw [h_variables, h_next]; exact hs.collection_known
  collection_issued := by rw [h_collections, h_next]; exact hs.collection_issued
  target_exists := by
    intro node n property target hn ht
    obtain ⟨⟨n₀, hn₀, ht₀⟩, -⟩ := h_nodes node n property target hn ht
    rw [h_variables]
    exact hs.target_exists node n₀ property target hn₀ ht₀
  property_exists := fun node n property target hn ht => (h_nodes node n property target hn ht).2

/-- A change that leaves nodes, variables and collections alone. -/
theorem WellFormed.of_eq {s s' : Scene} (hs : WellFormed s)
    (h_nodes : s'.nodes = s.nodes) (h_variables : s'.variableTable = s.variableTable)
    (h_collections : s'.collections = s.collections) (h_next : s'.nextId = s.nextId) :
    WellFormed s' := by
  refine hs.of_nodes h_variables h_collections h_next fun node n property target hn ht => ?_
  rw [h_nodes] at hn
  exact ⟨⟨n, hn, ht⟩, hs.property_exists node n property target hn ht⟩

/-- A change of one node that binds nothing new. -/
theorem WellFormed.modify_node {s : Scene} (hs : WellFormed s) (id : String) (f : Node → Node)
    (hf : ∀ n, s.nodes.find? id = some n → ∀ property target,
      (f n).bindings.find? property = some target →
        n.bindings.find? property = some target ∧
          ∃ value, (f n).properties.find? property = some value) :
    WellFormed { s with nodes := s.nodes.modify id f } := by
  refine hs.of_nodes rfl rfl rfl fun node n property target hn ht => ?_
  simp only [Registry.find?_modify] at hn
  by_cases h_eq : node = id
  · subst h_eq
    simp only [if_true, Option.map_eq_some_iff] at hn
    obtain ⟨n₀, hn₀, rfl⟩ := hn
    obtain ⟨ht₀, h_property⟩ := hf n₀ hn₀ property target ht
    exact ⟨⟨n₀, hn₀, ht₀⟩, h_property⟩
  · rw [if_neg h_eq] at hn
    exact ⟨⟨n, hn, ht⟩, hs.property_exists node n property target hn ht⟩

/-- A change of variables that keeps their ids and collections. -/
theorem WellFormed.mapValues_variables {s : Scene} (hs : WellFormed s)
    (f : String → Variable → Variable) (hf : ∀ id v, (f id v).collection = v.collection) :
    WellFormed { s with variableTable := s.variableTable.mapValues f } where
  variable_issued := by
    intro id v hv
    simp only [Registry.find?_mapValues, Option.map_eq_some_iff] at hv
    obtain ⟨v₀, hv₀, rfl⟩ := hv
    exact hs.variable_issued id v₀ hv₀
  collection_known := by
    intro id v hv
    simp only [Registry.find?_mapValues, Option.map_eq_some_iff] at hv
    obtain ⟨v₀, hv₀, rfl⟩ := hv
    rw [hf]
    exact hs.collection_known id v₀ hv₀
  collection_issued := hs.collection_issued
  target_exists := by
    intro node n property target hn ht
    obtain ⟨v, hv⟩ := hs.target_exists node n property target hn ht
    exact ⟨f target v, by simp [Registry.find?_mapValues, hv]⟩
  property_exists := hs.property_exists

/-! ### Each operation keeps a scene well-formed -/

theorem WellFormed.changed {s : Scene} (hs : WellFormed s) {result : Except Failure Scene}
    (h : ∀ s', result = .ok s' → WellFormed s') : WellFormed (s.changed result).2 := by
  cases result with
  | error e => exact hs
  | ok s' => exact h s' rfl

theorem WellFormed.addNode {s : Scene} (hs : WellFormed s) (id : String) {node : Node}
    (h_node : node.bindings = ∅) (parent : Option String) :
    WellFormed (s.addNode id node parent).2 := by
  have h_added : WellFormed { s with nodes := s.nodes.insert id node } := by
    refine hs.of_nodes rfl rfl rfl fun node' n property target hn ht => ?_
    simp only [Registry.find?_insert] at hn
    by_cases h_eq : id = node'
    · rw [if_pos h_eq] at hn
      obtain rfl := Option.some.inj hn
      rw [h_node] at ht
      exact absurd ht (by simp [EmptyCollection.emptyCollection])
    · rw [if_neg h_eq] at hn
      exact ⟨⟨n, hn, ht⟩, hs.property_exists node' n property target hn ht⟩
  -- a parent that is there gets a child, which does not concern its bindings
  cases parent with
  | none => exact h_added
  | some parent =>
    simp only [Scene.addNode]
    split
    · exact h_added.modify_node parent (fun n => { n with children := n.children ++ [id] })
        fun n hn property target ht => ⟨ht, h_added.property_exists parent n property target hn ht⟩
    · exact h_added

theorem WellFormed.dropNode {s s' : Scene} (hs : WellFormed s) {id : String}
    (h : s.dropNode id = .ok s') : WellFormed s' := by
  obtain ⟨-, rfl⟩ := dropNode_eq_ok_iff.mp h
  refine hs.of_nodes rfl rfl rfl fun node n property target hn ht => ?_
  simp only [Registry.find?_erase] at hn
  by_cases h_eq : id = node
  · rw [if_pos h_eq] at hn
    cases hn
  · rw [if_neg h_eq] at hn
    exact ⟨⟨n, hn, ht⟩, hs.property_exists node n property target hn ht⟩

theorem WellFormed.setProperty {s s' : Scene} (hs : WellFormed s) {id property : String}
    {value : Json} (h : s.setProperty id property value = .ok s') : WellFormed s' := by
  obtain ⟨-, rfl⟩ := setProperty_eq_ok_iff.mp h
  refine hs.modify_node id (fun n => { n with
    properties := n.properties.insert property value
    bindings := n.bindings.erase property }) fun n hn property' target ht => ?_
  simp only [Registry.find?_erase, Registry.find?_insert] at ht ⊢
  by_cases h_eq : property = property'
  · rw [if_pos h_eq] at ht
    cases ht
  · rw [if_neg h_eq] at ht ⊢
    exact ⟨ht, hs.property_exists id n property' target hn ht⟩

theorem WellFormed.setReactions {s s' : Scene} (hs : WellFormed s) {id : String}
    {reactions : List Reaction} (h : s.setReactions id reactions = .ok s') : WellFormed s' := by
  obtain ⟨-, -, rfl⟩ := setReactions_eq_ok_iff.mp h
  exact hs.modify_node id (fun n => { n with reactions }) fun n hn property target ht =>
    ⟨ht, hs.property_exists id n property target hn ht⟩

theorem WellFormed.createCollection {s : Scene} (hs : WellFormed s) (name : String) :
    WellFormed (s.createCollection name).2 where
  variable_issued := fun id v hv => (hs.variable_issued id v hv).mono (Nat.le_succ _)
  collection_known := fun id v hv => (hs.collection_known id v hv).mono (Nat.le_succ _)
  collection_issued := by
    intro name' id h
    simp only [createCollection_eq, Registry.find?_insert] at h
    by_cases h_eq : name = name'
    · rw [if_pos h_eq] at h
      exact ⟨s.nextId, Nat.lt_succ_self _, (Option.some.inj h).symm⟩
    · rw [if_neg h_eq] at h
      exact (hs.collection_issued name' id h).mono (Nat.le_succ _)
  target_exists := hs.target_exists
  property_exists := hs.property_exists

/-- A new variable, in a collection that was created, gets the next id. -/
theorem WellFormed.insert_variable {s : Scene} (hs : WellFormed s) {v : Variable}
    (hv : Issued collectionId s.nextId v.collection) :
    WellFormed { s with
      variableTable := s.variableTable.insert (variableId s.nextId) v
      nextId := s.nextId + 1 } where
  variable_issued := by
    intro id v' h
    simp only [Registry.find?_insert] at h
    by_cases h_eq : variableId s.nextId = id
    · exact ⟨s.nextId, Nat.lt_succ_self _, h_eq.symm⟩
    · rw [if_neg h_eq] at h
      exact (hs.variable_issued id v' h).mono (Nat.le_succ _)
  collection_known := by
    intro id v' h
    simp only [Registry.find?_insert] at h
    by_cases h_eq : variableId s.nextId = id
    · rw [if_pos h_eq] at h
      exact Option.some.inj h ▸ hv.mono (Nat.le_succ _)
    · rw [if_neg h_eq] at h
      exact (hs.collection_known id v' h).mono (Nat.le_succ _)
  collection_issued := fun name id h => (hs.collection_issued name id h).mono (Nat.le_succ _)
  target_exists := by
    intro node n property target hn ht
    obtain ⟨v', hv'⟩ := hs.target_exists node n property target hn ht
    simp only [Registry.find?_insert]
    by_cases h_eq : variableId s.nextId = target
    · exact ⟨v, if_pos h_eq⟩
    · exact ⟨v', by rw [if_neg h_eq]; exact hv'⟩
  property_exists := hs.property_exists

theorem WellFormed.collection_issued_of_mem {s : Scene} (hs : WellFormed s) {id : String}
    (h : id ∈ s.collections.values) : Issued collectionId s.nextId id := by
  obtain ⟨name, h_find⟩ := Registry.mem_values_iff.mp h
  exact hs.collection_issued name id h_find

theorem WellFormed.bindProperty {s s' : Scene} (hs : WellFormed s) {id property target : String}
    (h : s.bindProperty id property target = .ok s') : WellFormed s' := by
  obtain ⟨-, ⟨found, h_found, h_property⟩, h_target, rfl⟩ := bindProperty_eq_ok_iff.mp h
  have h_bound : ∀ node n property' target',
      (s.nodes.modify id fun n =>
        { n with bindings := n.bindings.insert property target }).find? node = some n →
      n.bindings.find? property' = some target' →
      (∃ v, s.variableTable.find? target' = some v) ∧
        ∃ value, n.properties.find? property' = some value := by
    intro node n property' target' hn ht
    simp only [Registry.find?_modify] at hn
    by_cases h_eq : node = id
    · subst h_eq
      simp only [if_true, Option.map_eq_some_iff] at hn
      obtain ⟨n₀, hn₀, rfl⟩ := hn
      simp only [Registry.find?_insert] at ht
      by_cases h_same : property = property'
      · -- the binding that is made: its property and its target were looked up
        rw [if_pos h_same] at ht
        obtain rfl := Option.some.inj ht
        subst h_same
        obtain rfl := Option.some.inj (hn₀.symm.trans h_found)
        exact ⟨Registry.contains_iff.mp h_target, Registry.contains_iff.mp h_property⟩
      · rw [if_neg h_same] at ht
        exact ⟨hs.target_exists node n₀ property' target' hn₀ ht,
          hs.property_exists node n₀ property' target' hn₀ ht⟩
    · rw [if_neg h_eq] at hn
      exact ⟨hs.target_exists node n property' target' hn ht,
        hs.property_exists node n property' target' hn ht⟩
  exact ⟨hs.variable_issued, hs.collection_known, hs.collection_issued,
    fun node n property' target' hn ht => (h_bound node n property' target' hn ht).1,
    fun node n property' target' hn ht => (h_bound node n property' target' hn ht).2⟩

theorem WellFormed.removeVariable {s s' : Scene} (hs : WellFormed s) {id : String}
    (h : s.removeVariable id = .ok s') : WellFormed s' := by
  obtain ⟨-, rfl⟩ := removeVariable_eq_ok_iff.mp h
  -- every node loses its bindings to the variable, and nothing else
  have h_kept : ∀ node n property target,
      (s.nodes.mapValues fun _ n =>
        { n with bindings := n.bindings.filter fun _ target => target != id }).find? node =
          some n → n.bindings.find? property = some target →
      ∃ n₀, s.nodes.find? node = some n₀ ∧ n₀.bindings.find? property = some target ∧
        n.properties = n₀.properties ∧ target ≠ id := by
    intro node n property target hn ht
    simp only [Registry.find?_mapValues, Option.map_eq_some_iff] at hn
    obtain ⟨n₀, hn₀, rfl⟩ := hn
    simp only [Registry.find?_filter, Option.filter_eq_some_iff, bne_iff_ne] at ht
    exact ⟨n₀, hn₀, ht.1, rfl, ht.2⟩
  refine ⟨?_, ?_, hs.collection_issued, ?_, ?_⟩
  · intro id' v hv
    simp only [Registry.find?_erase] at hv
    split at hv
    · cases hv
    · exact hs.variable_issued id' v hv
  · intro id' v hv
    simp only [Registry.find?_erase] at hv
    split at hv
    · cases hv
    · exact hs.collection_known id' v hv
  · intro node n property target hn ht
    obtain ⟨n₀, hn₀, ht₀, -, h_ne⟩ := h_kept node n property target hn ht
    obtain ⟨v, hv⟩ := hs.target_exists node n₀ property target hn₀ ht₀
    exact ⟨v, by rw [Registry.find?_erase, if_neg fun h => h_ne h.symm]; exact hv⟩
  · intro node n property target hn ht
    obtain ⟨n₀, hn₀, ht₀, h_same, -⟩ := h_kept node n property target hn ht
    rw [h_same]
    exact hs.property_exists node n₀ property target hn₀ ht₀

theorem WellFormed.setValue {s s' : Scene} (hs : WellFormed s) {id : String} {value : Json}
    (h : s.setValue id value = .ok s') : WellFormed s' := by
  obtain ⟨-, rfl⟩ := setValue_eq_ok_iff.mp h
  exact hs.mapValues_variables _ fun id' v => by split <;> rfl

theorem WellFormed.click {s s' : Scene} (hs : WellFormed s) {id : String}
    (h : s.click id = .ok s') : WellFormed s' := by
  obtain ⟨_, -, rfl⟩ := click_eq_ok_iff.mp h
  exact hs.mapValues_variables _ fun id' v => by split <;> rfl

/-- **Every operation keeps a scene well-formed**, also one that fails. -/
theorem WellFormed.operate {s : Scene} (hs : WellFormed s) (op : Operation) :
    WellFormed (s.operate op).2 := by
  cases op with
  -- these touch neither nodes nor variables nor collections
  | addVariantSet | addComponent | removeComponent | select | rejectBindings | rejectReactions
  | close => exact hs.of_eq rfl rfl rfl rfl
  | addNode id name kind component properties parent => exact hs.addNode id rfl parent
  | dropNode id => exact hs.changed fun s' h => hs.dropNode h
  | setProperty id property value => exact hs.changed fun s' h => hs.setProperty h
  | setReactions id reactions => exact hs.changed fun s' h => hs.setReactions h
  | createCollection name => exact hs.createCollection name
  | createVariable name collection type =>
    refine hs.changed fun s' h => ?_
    obtain ⟨created, h_created, rfl⟩ := Except.map_eq_ok_iff.mp h
    obtain ⟨h_collection, rfl⟩ := createVariable_eq_ok_iff.mp h_created
    exact hs.insert_variable (hs.collection_issued_of_mem h_collection)
  | setValue id value => exact hs.changed fun s' h => hs.setValue h
  | bindProperty id property target => exact hs.changed fun s' h => hs.bindProperty h
  | removeVariable id => exact hs.changed fun s' h => hs.removeVariable h
  | click id => exact hs.changed fun s' h => hs.click h

theorem Built.wellFormed {s : Scene} (h : Built s) : WellFormed s := by
  induction h with
  | empty => exact .empty
  | step _ op ih => exact ih.operate op

/-! ### A panel -/

/-- **A panel with two tabs and a badge**, all switched off. The panel is selected, and the
collection of managed variables is empty. -/
def panel : Scene :=
  operateAll {}
    [.addVariantSet "tabs" "Tab" (.ofList [("State", ⟨"VARIANT", ["On", "Off"]⟩)]),
      .addVariantSet "badges" "Badge" (.ofList [("State", ⟨"VARIANT", ["On", "Off"]⟩)]),
      .addComponent "tab" "State=Off" (some "tabs"),
      .addComponent "badge" "State=Off" (some "badges"),
      .addNode "panel" "Panel" "INSTANCE" none ∅ none,
      .addNode "tab-1" "Home" "INSTANCE" (some "tab") (.ofList [("State", .str "Off")])
        (some "panel"),
      .addNode "tab-2" "News" "INSTANCE" (some "tab") (.ofList [("State", .str "Off")])
        (some "panel"),
      .addNode "badge-1" "New" "INSTANCE" (some "badge") (.ofList [("State", .str "Off")])
        (some "panel"),
      .createCollection "state-machine",
      .select ["panel"]]

theorem built_panel : Built panel :=
  Built.empty.operateAll _

end Clickwork.Scene
