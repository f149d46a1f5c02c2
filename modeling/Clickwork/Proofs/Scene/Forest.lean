import Clickwork.Proofs.Registry
import Clickwork.Scene.Query
import Mathlib.Data.Finset.Card
import Mathlib.Logic.Relation

/-!
# Forests of nodes

The child lists of a scene make it a forest if they have no cycle (`Scene.CycleFree`); that is so if
and only if the nodes can be ranked with children below their parents (`Scene.cycleFree_iff`). A node
may be listed more than once, and a child that is listed may be missing.

`Scene.preorder` lists the instances below a node, each before those below itself and siblings in
the order of the child lists. They are the instances that are nested in the node
(`Scene.mem_preorder`).
-/

namespace Clickwork.Scene

variable {s : Scene} {rank : String → Nat} {id : String} {n : NodeInfo}

theorem node?_eq_some_iff : s.node? id = some n ↔ ∃ node, s.nodes.find? id = some node ∧
    n = { id, name := node.name, kind := node.kind, children := node.children } := by
  rw [node?, Option.map_eq_some_iff]
  exact exists_congr fun node => and_congr_right fun _ => eq_comm

theorem id_of_node? (h_node : s.node? id = some n) : n.id = id := by
  obtain ⟨node, -, rfl⟩ := node?_eq_some_iff.mp h_node
  rfl

/-! ### Cycles -/

/-- **A node lists another one as a child**, which may be missing. -/
def HasChild (s : Scene) (id c : String) : Prop :=
  ∃ n, s.node? id = some n ∧ c ∈ n.children

/-- **The child lists have no cycle**: no node comes after itself on the way down. -/
def CycleFree (s : Scene) : Prop :=
  ∀ id, ¬Relation.TransGen s.HasChild id id

/-- **The child lists have no cycle**: the children of a node are ranked below it. -/
def Acyclic (s : Scene) (rank : String → Nat) : Prop :=
  ∀ id n, s.node? id = some n → ∀ c ∈ n.children, rank c < rank id

/-- Ranks are checked node by node. -/
theorem acyclic_of_entries
    (h_each : ∀ entry ∈ s.nodes.entries, ∀ c ∈ entry.2.children, rank c < rank entry.1) :
    s.Acyclic rank := by
  intro id n h_node c h_child
  obtain ⟨node, h_find, rfl⟩ := node?_eq_some_iff.mp h_node
  exact h_each (id, node) (Registry.find?_eq_some_iff.mp h_find) c h_child

theorem Acyclic.rank_lt (h_acyclic : s.Acyclic rank) {id' : String}
    (h_below : Relation.TransGen s.HasChild id id') : rank id' < rank id := by
  induction h_below with
  | single h_edge =>
    obtain ⟨n, h_node, h_child⟩ := h_edge
    exact h_acyclic _ n h_node _ h_child
  | tail _ h_edge ih =>
    obtain ⟨n, h_node, h_child⟩ := h_edge
    exact (h_acyclic _ n h_node _ h_child).trans ih

theorem Acyclic.cycleFree (h_acyclic : s.Acyclic rank) : s.CycleFree := fun _ h_cycle =>
  (h_acyclic.rank_lt h_cycle).false

/-- The ids that are listed as children. -/
def listed (s : Scene) : Finset String :=
  (s.nodes.values.flatMap (·.children)).toFinset

theorem HasChild.mem_listed {c : String} (h_edge : s.HasChild id c) : c ∈ s.listed := by
  obtain ⟨n, h_node, h_child⟩ := h_edge
  obtain ⟨node, h_find, rfl⟩ := node?_eq_some_iff.mp h_node
  exact List.mem_toFinset.mpr
    (List.mem_flatMap.mpr ⟨node, Registry.mem_values_iff.mpr ⟨id, h_find⟩, h_child⟩)

/-- Without a cycle, nodes are ranked by the number of those below them. -/
theorem CycleFree.exists_rank (h_free : s.CycleFree) : ∃ rank, s.Acyclic rank := by
  classical
  refine ⟨fun id => (s.listed.filter (Relation.TransGen s.HasChild id)).card,
    fun id n h_node c h_child => Finset.card_lt_card ?_⟩
  have h_edge : s.HasChild id c := ⟨n, h_node, h_child⟩
  -- what is below the child is below the node; so is the child, but it is not below itself
  refine (Finset.ssubset_iff_of_subset ?_).mpr ⟨c, ?_, ?_⟩
  · exact Finset.monotone_filter_right _ fun _ _ h_below => .head h_edge h_below
  · exact Finset.mem_filter.mpr ⟨h_edge.mem_listed, .single h_edge⟩
  · exact fun h_mem => h_free c (Finset.mem_filter.mp h_mem).2

/-- **The child lists have no cycle if and only if the nodes can be ranked.** -/
theorem cycleFree_iff : s.CycleFree ↔ ∃ rank, s.Acyclic rank :=
  ⟨CycleFree.exists_rank, fun ⟨_, h_acyclic⟩ => h_acyclic.cycleFree⟩

theorem CycleFree.wf (h_free : s.CycleFree) : WellFounded fun c id => s.HasChild id c := by
  obtain ⟨rank, h_acyclic⟩ := h_free.exists_rank
  exact Subrelation.wf (fun h_edge => h_acyclic.rank_lt (.single h_edge))
    (InvImage.wf rank Nat.lt_wfRel.wf)

/-! ### Descendants -/

/-- **A node is another one or below it.** -/
inductive Under (s : Scene) : String → String → Prop where
  | self (id : String) : Under s id id
  | child {top c id : String} {n : NodeInfo} (h_node : s.node? top = some n)
      (h_child : c ∈ n.children) (h_under : Under s c id) : Under s top id

/-- A node that is an instance. -/
def IsInstance (s : Scene) (id : String) : Prop :=
  ∃ n, s.node? id = some n ∧ n.isInstance = true

/-- An instance that is nested in a node. -/
def Nested (s : Scene) (container id : String) : Prop :=
  s.IsInstance id ∧ ∃ n, s.node? container = some n ∧ ∃ c ∈ n.children, s.Under c id

/-- What is under a node is the node or under a child of it. -/
theorem under_iff {top : String} (h_node : s.node? top = some n) :
    s.Under top id ↔ id = top ∨ ∃ c ∈ n.children, s.Under c id := by
  constructor
  · intro h_under
    cases h_under with
    | self => exact .inl rfl
    | child h_some h_child h_under =>
      obtain rfl := Option.some.inj (h_node.symm.trans h_some)
      exact .inr ⟨_, h_child, h_under⟩
  · rintro (rfl | ⟨c, h_child, h_under⟩)
    · exact .self id
    · exact .child h_node h_child h_under

/-- No instance is under a node that is gone. -/
theorem not_under_of_gone {top : String} (h_gone : s.node? top = none) (h_instance : s.IsInstance id) :
    ¬s.Under top id := by
  intro h_under
  cases h_under with
  | self =>
    obtain ⟨n, h_some, -⟩ := h_instance
    cases h_gone.symm.trans h_some
  | child h_some => cases h_gone.symm.trans h_some

theorem isInstance_iff (h_node : s.node? id = some n) : s.IsInstance id ↔ n.isInstance = true := by
  simp [IsInstance, h_node]

instance (s : Scene) (id : String) : Decidable (s.IsInstance id) :=
  decidable_of_iff ((s.node? id).any (·.isInstance) = true) (Option.any_eq_true _ _)

/-! ### Pre-order -/

/-- **The instances below a node in pre-order**: for each child in the order of the list, the child
itself if it is an instance, and then those below it. A child that is missing is skipped. -/
def preorder (s : Scene) (h_free : s.CycleFree) (container : String) : List String :=
  match _h_node : s.node? container with
  | none => []
  | some n => n.children.attach.flatMap fun c =>
    match s.node? c.1 with
    | none => []
    | some child => (if child.isInstance then [c.1] else []) ++ s.preorder h_free c.1
termination_by h_free.wf.wrap container
decreasing_by exact ⟨n, _h_node, c.2⟩

/-- What a walk finds when it comes to a node: the node if it is an instance, and then the instances
below it. -/
def preorderFrom (s : Scene) (h_free : s.CycleFree) (id : String) : List String :=
  match s.node? id with
  | none => []
  | some n => (if n.isInstance then [id] else []) ++ s.preorder h_free id

variable (h_free : s.CycleFree)

theorem preorder_of_gone (h_gone : s.node? id = none) : s.preorder h_free id = [] := by
  rw [preorder]
  split
  · rfl
  · rename_i n h_node
    cases h_gone.symm.trans h_node

theorem preorder_of_node? (h_node : s.node? id = some n) :
    s.preorder h_free id = n.children.flatMap (s.preorderFrom h_free) := by
  rw [preorder]
  split
  · rename_i h_gone
    cases h_gone.symm.trans h_node
  · rename_i n' h_node'
    obtain rfl := Option.some.inj (h_node.symm.trans h_node')
    have h_each : (n.children.attach.map Subtype.val).flatMap (s.preorderFrom h_free) = _ :=
      List.flatMap_map _ _ _
    rw [List.attach_map_subtype_val] at h_each
    exact h_each.symm

theorem preorderFrom_of_gone (h_gone : s.node? id = none) : s.preorderFrom h_free id = [] := by
  rw [preorderFrom, h_gone]

theorem preorderFrom_of_node? (h_node : s.node? id = some n) : s.preorderFrom h_free id =
    (if n.isInstance then [id] else []) ++ n.children.flatMap (s.preorderFrom h_free) := by
  rw [preorderFrom, h_node, preorder_of_node? h_free h_node]

/-- A walk finds the instances among the node and those below it. -/
theorem mem_preorderFrom {top : String} :
    id ∈ s.preorderFrom h_free top ↔ s.IsInstance id ∧ s.Under top id := by
  induction top using h_free.wf.induction with
  | _ top ih =>
  cases h_node : s.node? top with
  | none =>
    rw [preorderFrom_of_gone h_free h_node, and_comm]
    simp only [List.not_mem_nil, false_iff, not_and]
    exact fun h_under h_instance => not_under_of_gone h_node h_instance h_under
  | some n =>
    have h_below : ∀ c ∈ n.children,
        (id ∈ s.preorderFrom h_free c ↔ s.IsInstance id ∧ s.Under c id) :=
      fun c h_child => ih c ⟨n, h_node, h_child⟩
    have h_self : id ∈ (if n.isInstance then [top] else []) ↔ s.IsInstance id ∧ id = top := by
      by_cases h_top : id = top
      · rw [h_top, isInstance_iff h_node]
        cases n.isInstance <;> simp
      · cases n.isInstance <;> simp [h_top]
    -- both sides split alike: the node itself, or below one of its children
    rw [preorderFrom_of_node? h_free h_node, List.mem_append, h_self, List.mem_flatMap,
      under_iff h_node, and_or_left]
    refine or_congr_right ?_
    constructor
    · rintro ⟨c, h_child, h_mem⟩
      obtain ⟨h_instance, h_under⟩ := (h_below c h_child).mp h_mem
      exact ⟨h_instance, c, h_child, h_under⟩
    · rintro ⟨h_instance, c, h_child, h_under⟩
      exact ⟨c, h_child, (h_below c h_child).mpr ⟨h_instance, h_under⟩⟩

/-- **The instances below a node** are those that are nested in it. -/
theorem mem_preorder {container : String} :
    id ∈ s.preorder h_free container ↔ s.Nested container id := by
  cases h_node : s.node? container with
  | none => simp [preorder_of_gone h_free h_node, Nested, h_node]
  | some n =>
    simp only [preorder_of_node? h_free h_node, List.mem_flatMap, mem_preorderFrom, Nested, h_node,
      Option.some.injEq, exists_eq_left']
    exact ⟨fun ⟨c, h_child, h_instance, h_under⟩ => ⟨h_instance, c, h_child, h_under⟩,
      fun ⟨h_instance, c, h_child, h_under⟩ => ⟨c, h_child, h_instance, h_under⟩⟩

end Clickwork.Scene
