import Clickwork.Proofs.Scene.Built
import Clickwork.Proofs.Scene.Kept
import Clickwork.Targets.Slots
import Mathlib.Data.List.Induction
import Mathlib.Data.List.Nodup

/-!
# State variables in a scene

What wiring does to variables and bindings, as changes of whole scenes:

* `Scene.addVariable` — a new variable with a value;
* `Scene.settle` — the state variable of an instance, bound to it if the instance accepts;
* `Scene.settleAll` — the state variables of a group.

New variables get the next ids. As long as those are not in use (`Scene.Fresh`), nothing that was
there is overwritten (`Extended`), the `k`-th state variable is found under the `k`-th next id
(`find?_settleAll`), and an instance is bound to its own one (`nodes_settleAll`).
-/

namespace Clickwork.Scene

/-! ### New variables -/

/-- **Adds a variable with a value.** -/
def addVariable (s : Scene) (collection name type : String) (value : Json) : Scene :=
  { s with
    variableTable :=
      s.variableTable.insert (variableId s.nextId) { name, collection, type, value }
    nextId := s.nextId + 1 }

/-- **The ids that come next are not in use.** -/
def Fresh (s : Scene) : Prop :=
  ∀ n, s.nextId ≤ n → s.variableTable.find? (variableId n) = none

theorem WellFormed.fresh {s : Scene} (hs : s.WellFormed) : s.Fresh :=
  fun _ hn => hs.find?_variableId hn

theorem Fresh.addVariable {s : Scene} (hs : s.Fresh) (collection name type : String)
    (value : Json) : (s.addVariable collection name type value).Fresh := by
  intro n hn
  have hn' : s.nextId + 1 ≤ n := hn
  have h_ne : variableId s.nextId ≠ variableId n := fun h => by
    have := variableId_injective h
    omega
  rw [Scene.addVariable, Registry.find?_insert_of_ne _ _ h_ne]
  exact hs n (by omega)

/-- **More variables**: a later scene that has all variables of an earlier one, and new ones under
ids that were given out in between, in a given collection and with names of a given kind. -/
structure Extended (collection : String) (named : String → Prop) (s s' : Scene) : Prop where
  next_le : s.nextId ≤ s'.nextId
  collections : s'.collections = s.collections
  old : ∀ id v, s.variableTable.find? id = some v → s'.variableTable.find? id = some v
  new : ∀ id v, s'.variableTable.find? id = some v → s.variableTable.find? id = some v ∨
    s.variableTable.find? id = none ∧ v.collection = collection ∧ named v.name ∧
      ∃ n, s.nextId ≤ n ∧ n < s'.nextId ∧ id = variableId n

section Extended

variable {collection : String} {named : String → Prop} {s s₁ s₂ s₃ : Scene}

theorem Extended.refl (s : Scene) : Extended collection named s s where
  next_le := Nat.le_refl _
  collections := rfl
  old := fun _ _ hv => hv
  new := fun _ _ hv => Or.inl hv

theorem Extended.trans (h : Extended collection named s₁ s₂)
    (h' : Extended collection named s₂ s₃) : Extended collection named s₁ s₃ where
  next_le := Nat.le_trans h.next_le h'.next_le
  collections := h'.collections.trans h.collections
  old := fun id v hv => h'.old id v (h.old id v hv)
  new := by
    intro id v hv
    have h_le := h.next_le
    have h_le' := h'.next_le
    -- new in the second part, new in the first part, or there from the beginning
    rcases h'.new id v hv with hv₂ | ⟨h_none, h_collection, h_named, n, hn, hn', rfl⟩
    · rcases h.new id v hv₂ with hv₁ | ⟨h_none, h_collection, h_named, n, hn, hn', rfl⟩
      · exact Or.inl hv₁
      · exact Or.inr ⟨h_none, h_collection, h_named, n, hn, by omega, rfl⟩
    · refine Or.inr ⟨?_, h_collection, h_named, n, by omega, hn', rfl⟩
      cases hv₁ : s₁.variableTable.find? (variableId n) with
      | none => rfl
      | some v₁ =>
        rw [h.old _ v₁ hv₁] at h_none
        cases h_none

/-- A change that does not concern variables and collections. -/
theorem Extended.of_eq {s' : Scene} (h_variables : s'.variableTable = s.variableTable)
    (h_next : s'.nextId = s.nextId) (h_collections : s'.collections = s.collections) :
    Extended collection named s s' where
  next_le := h_next.symm ▸ Nat.le_refl _
  collections := h_collections
  old := fun _ _ hv => h_variables.symm ▸ hv
  new := fun _ _ hv => Or.inl (h_variables ▸ hv)

theorem Extended.addVariable (hs : s.Fresh) (collection : String) {name : String}
    (h_named : named name) (type : String) (value : Json) :
    Extended collection named s (s.addVariable collection name type value) where
  next_le := Nat.le_succ _
  collections := rfl
  old := by
    intro id v hv
    have h_ne : variableId s.nextId ≠ id := fun h => by
      rw [← h, hs s.nextId (Nat.le_refl _)] at hv
      cases hv
    rw [Scene.addVariable, Registry.find?_insert_of_ne _ _ h_ne]
    exact hv
  new := by
    intro id v hv
    simp only [Scene.addVariable, Registry.find?_insert] at hv
    split at hv
    · rename_i h_eq
      obtain rfl := Option.some.inj hv
      exact Or.inr ⟨h_eq ▸ hs s.nextId (Nat.le_refl _), rfl, h_named, s.nextId, Nat.le_refl _,
        Nat.lt_succ_self _, h_eq.symm⟩
    · exact Or.inl hv

end Extended

/-- Adds variables that are switched off, one for each name. -/
def addMarkers (s : Scene) (collection : String) (names : List String) : Scene :=
  names.foldl (fun s name => s.addVariable collection name "BOOLEAN" (.bool false)) s

theorem Extended.addMarkers {s : Scene} (hs : s.Fresh) {named : String → Prop}
    (collection : String) {names : List String} (h_named : ∀ name ∈ names, named name) :
    Extended collection named s (s.addMarkers collection names) ∧
      (s.addMarkers collection names).Fresh ∧
      (s.addMarkers collection names).nodes = s.nodes := by
  induction names generalizing s with
  | nil => exact ⟨.refl s, hs, rfl⟩
  | cons name names ih =>
    obtain ⟨h_rest, h_fresh, h_nodes⟩ := ih (hs.addVariable collection name "BOOLEAN" (.bool false))
      fun name h_mem => h_named name (List.mem_cons_of_mem _ h_mem)
    have h_first := Extended.addVariable hs collection (h_named name List.mem_cons_self) "BOOLEAN"
      (.bool false)
    exact ⟨h_first.trans h_rest, h_fresh, h_nodes⟩

/-! ### State variables -/

/-- Binds a property of a node. -/
def bind (s : Scene) (node property target : String) : Scene :=
  { s with nodes := s.nodes.modify node fun n =>
      { n with bindings := n.bindings.insert property target } }

/-- Whether a node lets a property be bound, to a variable that is there. -/
def admits (s : Scene) (node property : String) : Bool :=
  decide (node ∉ s.rejectingBindings) &&
    (s.nodes.find? node).any (·.properties.contains property)

theorem Kept.admits {s s' : Scene} (h : Kept s s') (node property : String) :
    s'.admits node property = s.admits node property := by
  have h_property := congrArg (Option.any (·.properties.contains property)) (h.bare_find? node)
  rw [Option.any_map, Option.any_map] at h_property
  rw [Scene.admits, Scene.admits, h.rejectingBindings]
  exact congrArg _ h_property

/-- A property is bound if the node lets it, and otherwise the call is refused. -/
theorem bindProperty_cases {s : Scene} (node property : String) {target : String}
    (h_target : s.variableTable.contains target = true) :
    s.admits node property = true ∧
        s.bindProperty node property target = .ok (s.bind node property target) ∨
      s.admits node property = false ∧ ∃ e, s.bindProperty node property target = .error e := by
  unfold admits bindProperty
  by_cases h_rejects : node ∈ s.rejectingBindings
  · exact Or.inr ⟨by simp [h_rejects], _, if_pos h_rejects⟩
  · cases hn : s.nodes.find? node with
    | none => exact Or.inr ⟨by simp, .host (.noProperty node property), by simp [h_rejects]⟩
    | some n =>
      cases h_property : n.properties.contains property with
      | false =>
        exact Or.inr ⟨by simp [h_property], .host (.noProperty node property),
          by simp [h_rejects, h_property]⟩
      | true =>
        exact Or.inl ⟨by simp [h_rejects, h_property],
          by simp [h_rejects, h_property, h_target, bind]⟩

/-- **A state variable to come**: its instance, name and value, and whether it will be bound. -/
structure Placement where
  node : String
  name : String
  value : String
  bound : Bool

/-- **Adds a state variable**, and binds it if it is to be bound. -/
def settle (collection property : String) (s : Scene) (p : Placement) : Scene :=
  let s' := s.addVariable collection p.name "STRING" (.str p.value)
  if p.bound then s'.bind p.node property (variableId s.nextId) else s'

/-- **Adds the state variables of a group.** -/
def settleAll (collection property : String) (s : Scene) (ps : List Placement) : Scene :=
  ps.foldl (settle collection property) s

/-- The slots that state variables fill when the first of them gets the `n`-th id. -/
def slotsFrom (n : Nat) (ps : List Placement) : List Slot :=
  (ps.zipIdx n).map fun (p, k) =>
    if p.bound then Slot.bound (variableId k) else Slot.unbound (variableId k)

/-- As many ids of variables, from the `n`-th on. -/
def idsFrom (n count : Nat) : List String :=
  (List.range count).map fun k => variableId (n + k)

@[simp] theorem length_idsFrom (n count : Nat) : (idsFrom n count).length = count := by
  simp [idsFrom]

theorem getElem?_idsFrom {n count k : Nat} (hk : k < count) :
    (idsFrom n count)[k]? = some (variableId (n + k)) := by
  simp [idsFrom, hk]

theorem nodup_idsFrom (n count : Nat) : (idsFrom n count).Nodup := by
  refine List.Nodup.map (fun k k' h => ?_) List.nodup_range
  have := variableId_injective h
  omega

theorem map_target?_slotsFrom (n : Nat) (ps : List Placement) :
    (slotsFrom n ps).map Slot.target? = (idsFrom n ps.length).map some := by
  refine List.ext_getElem? fun k => ?_
  by_cases hk : k < ps.length
  · simp only [slotsFrom, List.map_map, List.getElem?_map, List.getElem?_zipIdx,
      List.getElem?_eq_getElem hk, getElem?_idsFrom hk, Option.map_some, Function.comp]
    split <;> rfl
  · rw [List.getElem?_eq_none (by simpa [slotsFrom] using hk),
      List.getElem?_eq_none (by simpa using hk)]

section Settle

variable {collection property : String} {s : Scene}

theorem settleAll_cons (p : Placement) (ps : List Placement) :
    settleAll collection property s (p :: ps) =
      settleAll collection property (settle collection property s p) ps := rfl

@[simp] theorem nextId_settle (p : Placement) :
    (settle collection property s p).nextId = s.nextId + 1 := by
  unfold settle
  split <;> rfl

theorem variableTable_settle (p : Placement) :
    (settle collection property s p).variableTable =
      (s.addVariable collection p.name "STRING" (.str p.value)).variableTable := by
  unfold settle
  split <;> rfl

theorem Fresh.settle (hs : s.Fresh) (p : Placement) : (settle collection property s p).Fresh := by
  intro n hn
  rw [variableTable_settle]
  rw [nextId_settle] at hn
  exact hs.addVariable collection p.name "STRING" (.str p.value) n hn

theorem Extended.settle (hs : s.Fresh) {named : String → Prop} {p : Placement}
    (h_named : named p.name) : Extended collection named s (settle collection property s p) := by
  have h_added : Extended collection named s
      (s.addVariable collection p.name "STRING" (.str p.value)) := .addVariable hs _ h_named _ _
  unfold Scene.settle
  split
  · exact h_added.trans (.of_eq rfl rfl rfl)
  · exact h_added

@[simp] theorem rejectingReactions_settleAll (ps : List Placement) :
    (settleAll collection property s ps).rejectingReactions = s.rejectingReactions := by
  induction ps generalizing s with
  | nil => rfl
  | cons p ps ih =>
    rw [settleAll_cons, ih, settle]
    split <;> rfl

theorem Extended.settleAll (hs : s.Fresh) {named : String → Prop} {ps : List Placement}
    (h_named : ∀ p ∈ ps, named p.name) :
    Extended collection named s (settleAll collection property s ps) := by
  induction ps generalizing s with
  | nil => exact .refl s
  | cons p ps ih =>
    refine (Extended.settle hs (h_named p List.mem_cons_self)).trans (ih (hs.settle p) ?_)
    exact fun p h_mem => h_named p (List.mem_cons_of_mem _ h_mem)

/-- **The variable of a placement** is found under its id. -/
theorem find?_settleAll (collection property : String) (hs : s.Fresh) {ps : List Placement}
    {k : Nat} {p : Placement} (hk : ps[k]? = some p) :
    (settleAll collection property s ps).variableTable.find? (variableId (s.nextId + k)) =
      some { name := p.name, collection, type := "STRING", value := .str p.value } := by
  induction ps generalizing s k with
  | nil => simp at hk
  | cons p₀ ps ih =>
    rw [settleAll_cons]
    cases k with
    | zero =>
      obtain rfl : p₀ = p := by simpa using hk
      -- the later placements leave the first variable as it is
      have h_later : Extended collection (fun _ => True) (settle collection property s p₀)
          (settleAll collection property (settle collection property s p₀) ps) :=
        .settleAll (hs.settle p₀) fun _ _ => trivial
      refine h_later.old _ _ ?_
      rw [variableTable_settle]
      exact Registry.find?_insert_self _ _ _
    | succ k =>
      have h_rest := ih (s := settle collection property s p₀) (hs.settle p₀) hk
      rw [nextId_settle] at h_rest
      rwa [show s.nextId + (k + 1) = s.nextId + 1 + k by omega]

/-! ### Bindings -/

/-- The variables, given out from the `n`-th id on, that a node is bound to one after the other. -/
def boundIds (n : Nat) (ps : List Placement) (node : String) : List String :=
  (ps.zipIdx n).filterMap fun (p, k) =>
    if p.bound = true ∧ p.node = node then some (variableId k) else none

/-- Binds a property of a node to variables, one after the other. -/
def Node.bindAll (property : String) (n : Node) (targets : List String) : Node :=
  { n with bindings := targets.foldl (fun b target => b.insert property target) n.bindings }

theorem boundIds_cons (n : Nat) (p : Placement) (ps : List Placement) (node : String) :
    boundIds n (p :: ps) node =
      (if p.bound = true ∧ p.node = node then [variableId n] else []) ++
        boundIds (n + 1) ps node := by
  by_cases h : p.bound = true ∧ p.node = node <;> simp [boundIds, List.zipIdx_cons, h]

theorem boundIds_singleton (n : Nat) (p : Placement) (node : String) :
    boundIds n [p] node = if p.bound = true ∧ p.node = node then [variableId n] else [] := by
  rw [boundIds_cons]
  exact List.append_nil _

theorem nodes_settle (p : Placement) (node : String) :
    (settle collection property s p).nodes.find? node =
      (s.nodes.find? node).map fun n => n.bindAll property (boundIds s.nextId [p] node) := by
  rw [boundIds_singleton]
  unfold settle
  -- adding a variable leaves the nodes alone, and a binding concerns one of them
  by_cases h_bound : p.bound = true
  · simp only [h_bound, if_true, bind, addVariable, Registry.find?_modify, true_and, eq_comm]
    by_cases h_node : node = p.node
    · simp only [h_node, if_true]
      rfl
    · simp only [h_node, if_false]
      exact Option.map_id'
  · simp only [h_bound, false_and, if_false, addVariable, Bool.false_eq_true]
    exact Option.map_id'.symm

/-- **A node after the placements**: it is bound to the variables meant for it. -/
theorem nodes_settleAll (collection property : String) (s : Scene) (ps : List Placement)
    (node : String) : (settleAll collection property s ps).nodes.find? node =
      (s.nodes.find? node).map fun n => n.bindAll property (boundIds s.nextId ps node) := by
  induction ps generalizing s with
  | nil => exact Option.map_id'.symm
  | cons p ps ih =>
    rw [settleAll_cons, ih, nodes_settle, nextId_settle, Option.map_map]
    rw [boundIds_singleton, boundIds_cons]
    simp only [Node.bindAll, List.foldl_append]
    rfl

theorem find?_bindAll (n : Node) (targets : List String) (property' : String) :
    (n.bindAll property targets).bindings.find? property' =
      if property = property' then targets.getLast?.or (n.bindings.find? property')
      else n.bindings.find? property' := by
  unfold Node.bindAll
  induction targets using List.reverseRecOn with
  | nil => simp
  | append_singleton targets target ih =>
    rw [List.foldl_append, List.foldl_cons, List.foldl_nil, Registry.find?_insert]
    by_cases h : property = property'
    · simp [h]
    · simpa [h] using ih

/-- **What a node is bound to afterwards** is one of the variables, or what it was bound to. -/
theorem of_find?_bindAll {n : Node} {targets : List String} {property' target : String}
    (h : (n.bindAll property targets).bindings.find? property' = some target) :
    target ∈ targets ∨ n.bindings.find? property' = some target := by
  rw [find?_bindAll] at h
  split at h
  · -- the property that is wired: the last variable decides, if there is one
    rcases Option.or_eq_some_iff.mp h with h_last | ⟨-, h_before⟩
    · exact Or.inl (List.mem_of_getLast? h_last)
    · exact Or.inr h_before
  · exact Or.inr h

/-- The ids a node is bound to are those of its placements. -/
theorem mem_boundIds {n : Nat} {ps : List Placement} {node id : String}
    (h : id ∈ boundIds n ps node) :
    ∃ (k : Nat) (p : Placement), ps[k]? = some p ∧ p.node = node ∧ id = variableId (n + k) := by
  simp only [boundIds, List.mem_filterMap] at h
  obtain ⟨⟨p, m⟩, h_mem, h_id⟩ := h
  obtain ⟨h_le, h_lt, h_get⟩ := List.mem_zipIdx h_mem
  split at h_id
  · rename_i h_bound
    obtain rfl := Option.some.inj h_id
    refine ⟨m - n, p, List.getElem?_eq_some_iff.mpr ⟨by omega, h_get.symm⟩, h_bound.2, ?_⟩
    rw [Nat.add_sub_cancel' h_le]
  · cases h_id

/-- A node without a placement is not bound. -/
theorem boundIds_of_forall_ne {n : Nat} {ps : List Placement} {node : String}
    (h : ∀ p ∈ ps, p.node ≠ node) : boundIds n ps node = [] := by
  rw [List.eq_nil_iff_forall_not_mem]
  intro id h_id
  obtain ⟨k, p, hk, h_node, -⟩ := mem_boundIds h_id
  exact h p (List.mem_of_getElem? hk) h_node

/-- With one placement for each node, a node is bound to the variable of its placement, or to
none. -/
theorem boundIds_of_nodup {n : Nat} {ps : List Placement} (h_nodup : (ps.map (·.node)).Nodup)
    {k : Nat} {p : Placement} (hk : ps[k]? = some p) :
    boundIds n ps p.node = if p.bound = true then [variableId (n + k)] else [] := by
  induction ps generalizing n k with
  | nil => simp at hk
  | cons p₀ ps ih =>
    rw [List.map_cons, List.nodup_cons] at h_nodup
    rw [boundIds_cons]
    cases k with
    | zero =>
      obtain rfl : p₀ = p := by simpa using hk
      -- no other placement is at this node
      have h_none : boundIds (n + 1) ps p₀.node = [] :=
        boundIds_of_forall_ne fun p h_mem h_node =>
          h_nodup.1 (h_node ▸ List.mem_map_of_mem h_mem)
      simp [h_none]
    | succ k =>
      have h_in : p ∈ ps := List.mem_of_getElem? hk
      have h_ne : p₀.node ≠ p.node := fun h => h_nodup.1 (h ▸ List.mem_map_of_mem h_in)
      rw [ih h_nodup.2 hk, if_neg fun h => h_ne h.2, List.nil_append,
        show n + 1 + k = n + (k + 1) by omega]

end Settle

end Clickwork.Scene
