import Clickwork.Proofs.Scene.Shown

/-!
# What stays true of a scene

Operations on a scene share one counter, one table of variables and the bindings of its nodes. Three
things hold after any history of operations, whether they succeed or fail.

* An id is given out once (`Scene.Unrepeated`). Every id that is in use was given out by an
  operation (`Gives.operate`), and `Gives.trans` puts a history together from its operations: the
  counter only rises, so what it gives out later is new (`Drawn.ne`). An id that went out of use
  does not come back.
* What is bound is there, an operation that fails changes nothing, and the two ways of reading a
  property agree (`Scene.Sound`).

A node that is added to an unknown parent is the one exception: it is registered although the
operation fails (`Operation.orphans`).
-/

namespace Clickwork.Scene

variable {s s' s'' : Scene} {ids ids' : List String} {id : String} {m n k : Nat}

/-! ### Ids of the counter -/

/-- Ids of variables and of collections are told apart by what stands before the number. -/
theorem variableId_ne_collectionId (n k : Nat) : variableId n ≠ collectionId k := by
  intro h_same
  unfold variableId collectionId at h_same
  have h_list := congrArg String.toList h_same
  rw [String.toList_append, String.toList_append] at h_list
  -- the two prefixes differ in their ninth letter
  have h_ninth : "VariableID:".toList[8]? = "VariableCollectionId:".toList[8]? := by
    calc "VariableID:".toList[8]?
        = ("VariableID:".toList ++ (toString n).toList)[8]? :=
          (List.getElem?_append_left (by decide)).symm
      _ = ("VariableCollectionId:".toList ++ (toString k).toList)[8]? :=
          congrArg (·[8]?) h_list
      _ = "VariableCollectionId:".toList[8]? := List.getElem?_append_left (by decide)
  exact absurd h_ninth (by decide)

/-- **An id that the counter gave out** on its way from `m` to `n`. -/
def Drawn (m n : Nat) (id : String) : Prop :=
  ∃ k, m ≤ k ∧ k < n ∧ (id = variableId k ∨ id = collectionId k)

theorem Drawn.mono {m' n' : Nat} (h : Drawn m n id) (hm : m' ≤ m) (hn : n ≤ n') :
    Drawn m' n' id := by
  obtain ⟨k, h_from, h_to, h_id⟩ := h
  exact ⟨k, Nat.le_trans hm h_from, Nat.lt_of_lt_of_le h_to hn, h_id⟩

/-- The counter does not give out an id that it gave out before. -/
theorem Drawn.ne {id' : String} (h : Drawn m n id) (h' : Drawn n k id') : id ≠ id' := by
  obtain ⟨i, -, hi, h_id⟩ := h
  obtain ⟨j, hj, -, h_id'⟩ := h'
  rintro rfl
  rcases h_id with rfl | rfl <;> rcases h_id' with h_same | h_same
  · have := variableId_injective h_same
    omega
  · exact variableId_ne_collectionId i j h_same
  · exact variableId_ne_collectionId j i h_same.symm
  · have := collectionId_injective h_same
    omega

/-! ### Ids in use -/

/-- **An id in use**: a variable or a collection has it. -/
def InUse (s : Scene) (id : String) : Prop :=
  (∃ v, s.variableTable.find? id = some v) ∨ ∃ name, s.collections.find? name = some id

/-- **The ids that an operation gives out**: one if it creates a variable or a collection. -/
def givenOut (s : Scene) : Operation → List String
  | .createCollection name => [(s.createCollection name).1]
  | .createVariable name collection type =>
    match s.createVariable name collection type with
    | .ok (id, _) => [id]
    | .error _ => []
  | _ => []

/-- The ids that operations give out, from the first to the last. -/
def givenOutAll (s : Scene) : List Operation → List String
  | [] => []
  | op :: ops => s.givenOut op ++ (s.operate op).2.givenOutAll ops

/-- **New ids are given out** on the way from one scene to another, and no other id comes into
use. -/
structure Gives (s s' : Scene) (ids : List String) : Prop where
  nextId_le : s.nextId ≤ s'.nextId
  drawn : ∀ id ∈ ids, Drawn s.nextId s'.nextId id
  nodup : ids.Nodup
  inUse : ∀ id, s'.InUse id → s.InUse id ∨ id ∈ ids

/-- A change after which the variables are some of those before. -/
theorem Gives.nothing (h_variables : ∀ id v, s'.variableTable.find? id = some v →
      ∃ v₀, s.variableTable.find? id = some v₀)
    (h_collections : s'.collections = s.collections) (h_next : s'.nextId = s.nextId) :
    Gives s s' [] where
  nextId_le := Nat.le_of_eq h_next.symm
  drawn := nofun
  nodup := .nil
  inUse := by
    rintro id (⟨v, hv⟩ | ⟨name, h_name⟩)
    · exact .inl (.inl (h_variables id v hv))
    · exact .inl (.inr ⟨name, h_collections ▸ h_name⟩)

/-- A change that leaves variables and collections alone. -/
theorem Gives.of_eq (h_variables : s'.variableTable = s.variableTable)
    (h_collections : s'.collections = s.collections) (h_next : s'.nextId = s.nextId) :
    Gives s s' [] :=
  .nothing (fun _ v hv => ⟨v, h_variables ▸ hv⟩) h_collections h_next

theorem Gives.refl (s : Scene) : Gives s s [] :=
  .of_eq rfl rfl rfl

/-- A change of variables that keeps their ids. -/
theorem Gives.mapValues (s : Scene) (f : String → Variable → Variable) :
    Gives s { s with variableTable := s.variableTable.mapValues f } [] := by
  refine .nothing (fun id v hv => ?_) rfl rfl
  rw [Registry.find?_mapValues] at hv
  obtain ⟨v₀, hv₀, -⟩ := Option.map_eq_some_iff.mp hv
  exact ⟨v₀, hv₀⟩

theorem Gives.trans (h : Gives s s' ids) (h' : Gives s' s'' ids') : Gives s s'' (ids ++ ids') where
  nextId_le := Nat.le_trans h.nextId_le h'.nextId_le
  drawn := by
    intro id h_mem
    rcases List.mem_append.mp h_mem with h_id | h_id
    · exact (h.drawn id h_id).mono (Nat.le_refl _) h'.nextId_le
    · exact (h'.drawn id h_id).mono h.nextId_le (Nat.le_refl _)
  nodup := List.nodup_append.mpr ⟨h.nodup, h'.nodup, fun id h_id id' h_id' =>
    (h.drawn id h_id).ne (h'.drawn id' h_id')⟩
  inUse := by
    intro id h_use
    rcases h'.inUse id h_use with h_before | h_id
    · exact (h.inUse id h_before).imp_right (List.mem_append_left _)
    · exact .inr (List.mem_append_right _ h_id)

/-- The counter moves on by one, and the id it stood at comes into use. -/
theorem Gives.next {id : String} (h_next : s'.nextId = s.nextId + 1)
    (h_id : id = variableId s.nextId ∨ id = collectionId s.nextId)
    (h_use : ∀ id', s'.InUse id' → s.InUse id' ∨ id' = id) : Gives s s' [id] where
  nextId_le := by omega
  drawn := by
    intro id' h_mem
    obtain rfl := List.mem_singleton.mp h_mem
    exact ⟨s.nextId, Nat.le_refl _, by omega, h_id⟩
  nodup := List.nodup_singleton id
  inUse := fun id' h => (h_use id' h).imp_right List.mem_singleton.mpr

theorem Gives.createCollection (s : Scene) (name : String) :
    Gives s (s.createCollection name).2 [(s.createCollection name).1] := by
  rw [createCollection_eq]
  refine .next rfl (.inr rfl) ?_
  rintro id (h_variable | ⟨name', h_name⟩)
  · exact .inl (.inl h_variable)
  · rw [Registry.find?_insert] at h_name
    split at h_name
    · exact .inr (Option.some.inj h_name).symm
    · exact .inl (.inr ⟨name', h_name⟩)

theorem Gives.createVariable {name collection type : String}
    (h : s.createVariable name collection type = .ok (id, s')) : Gives s s' [id] := by
  obtain ⟨-, h_eq⟩ := createVariable_eq_ok_iff.mp h
  obtain ⟨rfl, rfl⟩ := Prod.mk.inj h_eq
  refine .next rfl (.inl rfl) ?_
  rintro id' (⟨v, hv⟩ | h_name)
  · rw [Registry.find?_insert] at hv
    split at hv
    · rename_i h_new
      exact .inr h_new.symm
    · exact .inl (.inl ⟨v, hv⟩)
  · exact .inl (.inr h_name)

theorem Gives.changed {result : Except Failure Scene}
    (h_ok : ∀ t, result = .ok t → Gives s t []) : Gives s (s.changed result).2 [] := by
  cases result with
  | error e => exact .refl s
  | ok t => exact h_ok t rfl

/-- **What an operation gives out**, also one that fails. -/
theorem Gives.operate (s : Scene) (op : Operation) :
    Gives s (s.operate op).2 (s.givenOut op) := by
  cases op with
  | createCollection name => exact .createCollection s name
  | createVariable name collection type =>
    simp only [Scene.operate, givenOut]
    cases h_created : s.createVariable name collection type with
    | error e => exact .refl s
    | ok created => exact .createVariable h_created
  -- these change nodes only
  | addNode id name kind component properties parent =>
    simp only [Scene.operate, Scene.addNode]
    split
    · exact .of_eq rfl rfl rfl
    · split <;> exact .of_eq rfl rfl rfl
  | dropNode id =>
    refine .changed fun t h_ok => ?_
    obtain ⟨-, rfl⟩ := dropNode_eq_ok_iff.mp h_ok
    exact .of_eq rfl rfl rfl
  | setProperty id property value =>
    refine .changed fun t h_ok => ?_
    obtain ⟨-, rfl⟩ := setProperty_eq_ok_iff.mp h_ok
    exact .of_eq rfl rfl rfl
  | setReactions id reactions =>
    refine .changed fun t h_ok => ?_
    obtain ⟨-, -, rfl⟩ := setReactions_eq_ok_iff.mp h_ok
    exact .of_eq rfl rfl rfl
  | bindProperty id property target =>
    refine .changed fun t h_ok => ?_
    obtain ⟨-, -, -, rfl⟩ := bindProperty_eq_ok_iff.mp h_ok
    exact .of_eq rfl rfl rfl
  -- these change the values of variables, or remove one
  | setValue id value =>
    refine .changed fun t h_ok => ?_
    obtain ⟨-, rfl⟩ := setValue_eq_ok_iff.mp h_ok
    exact .mapValues s _
  | click id =>
    refine .changed fun t h_ok => ?_
    obtain ⟨_, -, rfl⟩ := click_eq_ok_iff.mp h_ok
    exact .mapValues s _
  | removeVariable id =>
    refine .changed fun t h_ok => ?_
    obtain ⟨-, rfl⟩ := removeVariable_eq_ok_iff.mp h_ok
    refine .nothing (fun id' v hv => ?_) rfl rfl
    rw [Registry.find?_erase] at hv
    split at hv
    · cases hv
    · exact ⟨v, hv⟩
  | addVariantSet | addComponent | removeComponent | select | rejectBindings | rejectReactions
  | close => exact .of_eq rfl rfl rfl

theorem Gives.operateAll (s : Scene) (ops : List Operation) :
    Gives s (s.operateAll ops) (s.givenOutAll ops) := by
  induction ops generalizing s with
  | nil => exact .refl s
  | cons op ops ih => exact (Gives.operate s op).trans (ih _)

theorem not_inUse_empty (id : String) : ¬InUse {} id := by
  rintro (⟨v, hv⟩ | ⟨name, h_name⟩)
  · cases hv
  · cases h_name

/-- **Ids are never given out again.** -/
structure Unrepeated (ops : List Operation) : Prop where
  /-- Different operations give out different ids. -/
  nodup : (givenOutAll {} ops).Nodup
  /-- What is in use was given out. -/
  givenOut : ∀ id, (Scene.operateAll {} ops).InUse id → id ∈ givenOutAll {} ops
  /-- What was given out and is no longer in use stays so, whatever comes after. -/
  outOfUse : ∀ id ∈ givenOutAll {} ops, ¬(Scene.operateAll {} ops).InUse id →
    ∀ more, ¬(Scene.operateAll {} (ops ++ more)).InUse id

theorem unrepeated (ops : List Operation) : Unrepeated ops where
  nodup := (Gives.operateAll {} ops).nodup
  givenOut := fun id h_use =>
    ((Gives.operateAll {} ops).inUse id h_use).resolve_left (not_inUse_empty id)
  outOfUse := by
    intro id h_given h_gone more h_use
    rw [Scene.operateAll, List.foldl_append] at h_use
    rcases (Gives.operateAll (Scene.operateAll {} ops) more).inUse id h_use with h_before | h_again
    · exact h_gone h_before
    · -- the counter would have given it out twice
      exact ((Gives.operateAll {} ops).drawn id h_given).ne
        ((Gives.operateAll (Scene.operateAll {} ops) more).drawn id h_again) rfl

example : givenOutAll {}
    [.createVariable "state" "VariableCollectionId:1" "STRING",
      .createCollection "states",
      .createVariable "state" "VariableCollectionId:1" "STRING",
      .removeVariable "VariableID:2",
      .createCollection "states",
      .createVariable "state" "VariableCollectionId:3" "STRING"] =
    ["VariableCollectionId:1", "VariableID:2", "VariableCollectionId:3", "VariableID:4"] := by
  decide +kernel

/-! ### Operations that fail -/

/-- **A node is added to a parent that is not there.** -/
def Operation.orphans (s : Scene) : Operation → Bool
  | .addNode id _ _ _ _ (some parent) => parent != id && !s.nodes.contains parent
  | _ => false

theorem changed_of_error {result : Except Failure Scene} {e : Failure}
    (h_error : (s.changed result).1 = .error e) : (s.changed result).2 = s := by
  cases result with
  | error e => rfl
  | ok t => cases h_error

/-- **An operation that fails changes nothing**, unless it adds a node to an unknown parent. -/
theorem operate_of_error {op : Operation} {e : Failure} (h_error : (s.operate op).1 = .error e) :
    (s.operate op).2 = s ∨ op.orphans s = true := by
  cases op with
  | addNode id name kind component properties parent =>
    cases parent with
    | none => cases h_error
    | some parent =>
      simp only [operate, addNode] at h_error
      split at h_error
      · cases h_error
      · rename_i h_unknown
        refine .inr ?_
        simp only [Registry.contains, Registry.find?_insert] at h_unknown
        split at h_unknown
        · exact absurd rfl h_unknown
        · rename_i h_ne
          simpa [Operation.orphans, Registry.contains, Ne.symm h_ne] using h_unknown
  | dropNode | setProperty | setReactions | createVariable | setValue | bindProperty
  | removeVariable | click => exact .inl (changed_of_error h_error)
  | addVariantSet | addComponent | removeComponent | select | rejectBindings | rejectReactions
  | close | createCollection => cases h_error

-- the node is registered although its parent is unknown
example : (({} : Scene).operate
    (.addNode "tab" "Tab" "FRAME" none ∅ (some "panel"))).2.nodes.contains "tab" = true := by
  decide

/-! ### Sound scenes -/

/-- **What holds of a scene at any time**, for its bindings, the next operation and its queries. -/
structure Sound (s : Scene) : Prop where
  /-- What is bound to a property is there, and it is a property of the node. -/
  bound : ∀ node n property target, s.nodes.find? node = some n →
    n.bindings.find? property = some target →
      (∃ v, s.variableTable.find? target = some v) ∧
        ∃ value, n.properties.find? property = some value
  /-- An operation that fails changes nothing, unless it adds a node to an unknown parent. -/
  refused : ∀ op e, (s.operate op).1 = .error e → op.orphans s = false → (s.operate op).2 = s
  /-- The text that a property shows is that of its value among the properties of the node. -/
  shown : ∀ node n, s.nodes.find? node = some n →
    ∃ values, s.instanceProperties node = .ok values ∧
      ∀ property, s.shownValue node property = .ok (Json.shownOrEmpty (values.find? property))

theorem WellFormed.sound (hs : WellFormed s) : s.Sound where
  bound := fun node n property target hn ht =>
    ⟨hs.target_exists node n property target hn ht, hs.property_exists node n property target hn ht⟩
  refused := fun op e h_error h_known =>
    (operate_of_error h_error).resolve_right (Bool.eq_false_iff.mp h_known)
  shown := by
    intro node n hn
    obtain ⟨values, h_values, h_find⟩ := find?_instanceProperties hn
    exact ⟨values, h_values, fun property => by rw [shownValue_eq hn, h_find]⟩

/-- **Every history of operations leaves a sound scene, and gives out no id twice.** -/
theorem sound_after (ops : List Operation) : (operateAll {} ops).Sound ∧ Unrepeated ops :=
  ⟨(Built.empty.operateAll ops).wellFormed.sound, unrepeated ops⟩

end Clickwork.Scene
