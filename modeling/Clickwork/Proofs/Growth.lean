import Clickwork.Proofs.Scene.Built
import Clickwork.Proofs.Scene.Kept
import Clickwork.Proofs.Walks

/-!
# Scenes that grow without cycles

A node that is added has no children yet, even if its id was in use or is still listed by an old
parent. So the one child list that it comes to closes no cycle, unless it is its own
(`Scene.HasChild.of_operate`): in a scene that can be built, a cycle is always a node that lists
itself (`Scene.Built.cycleFree_iff`).

A scene in which no node was ever added as its own parent therefore has no cycle, and no walk
through it goes on for ever (`Discovery.nestedInstances_ends_in_grown`). A node that does list itself
keeps a walk that comes to it going, so that nothing less would do
(`Discovery.nestedInstances_ends_iff`).
-/

namespace Clickwork

namespace Scene

variable {s s' : Scene} {rank : String → Nat} {id c : String}

/-! ### Child lists -/

theorem hasChild_iff : s.HasChild id c ↔ ∃ n, s.nodes.find? id = some n ∧ c ∈ n.children := by
  constructor
  · rintro ⟨n, h_node, h_child⟩
    obtain ⟨node, h_find, rfl⟩ := node?_eq_some_iff.mp h_node
    exact ⟨node, h_find, h_child⟩
  · rintro ⟨node, h_find, h_child⟩
    exact ⟨_, node?_eq_some_iff.mpr ⟨node, h_find, rfl⟩, h_child⟩

/-- Nodes that keep their child lists. -/
theorem HasChild.of_find? (h_edge : s'.HasChild id c)
    (h_nodes : ∀ n', s'.nodes.find? id = some n' →
      ∃ n, s.nodes.find? id = some n ∧ n'.children = n.children) : s.HasChild id c := by
  obtain ⟨n', h_find', h_child⟩ := hasChild_iff.mp h_edge
  obtain ⟨n, h_find, h_same⟩ := h_nodes n' h_find'
  exact hasChild_iff.mpr ⟨n, h_find, h_same ▸ h_child⟩

theorem HasChild.of_kept (h_kept : Kept s s') (h_edge : s'.HasChild id c) : s.HasChild id c := by
  refine h_edge.of_find? fun n' h_find' => ?_
  have h_bare := h_kept.bare_find? id
  rw [h_find', Option.map_some] at h_bare
  obtain ⟨n, h_find, h_same⟩ := Option.map_eq_some_iff.mp h_bare.symm
  exact ⟨n, h_find, (congrArg Node.children h_same).symm⟩

/-- One node changes, and keeps its child list. -/
theorem HasChild.of_modify {top : String} {f : Node → Node}
    (h_edge : { s with nodes := s.nodes.modify top f }.HasChild id c)
    (hf : ∀ n, (f n).children = n.children) : s.HasChild id c := by
  refine h_edge.of_find? fun n' h_find' => ?_
  simp only [Registry.find?_modify] at h_find'
  split at h_find'
  · obtain ⟨n, h_find, rfl⟩ := Option.map_eq_some_iff.mp h_find'
    exact ⟨n, h_find, hf n⟩
  · exact ⟨n', h_find', rfl⟩

/-! ### Growing -/

/-- The node that an operation adds. -/
def Operation.added? : Operation → Option String
  | .addNode id .. => some id
  | _ => none

/-- The parent that an operation adds a node to. -/
def Operation.parent? : Operation → Option String
  | .addNode _ _ _ _ _ parent => parent
  | _ => none

/-- **A node is added as its own parent.** -/
def Operation.loops (op : Operation) : Bool :=
  op.added?.any fun id => op.parent? == some id

/-- A node that is added has no children, except for itself if it is its own parent. -/
theorem HasChild.of_addNode {top : String} {node : Node} {parent : Option String}
    (h_new : node.children = []) (h_edge : (s.addNode top node parent).2.HasChild id c) :
    s.HasChild id c ∧ top ≠ id ∨ top = c ∧ parent = some id := by
  have h_inserted : { s with nodes := s.nodes.insert top node }.HasChild id c →
      s.HasChild id c ∧ top ≠ id := by
    intro h_edge
    obtain ⟨n, h_find, h_child⟩ := hasChild_iff.mp h_edge
    rw [Registry.find?_insert] at h_find
    split at h_find
    · rw [← Option.some.inj h_find, h_new] at h_child
      cases h_child
    · rename_i h_ne
      exact ⟨hasChild_iff.mpr ⟨n, h_find, h_child⟩, h_ne⟩
  cases parent with
  | none => exact .inl (h_inserted h_edge)
  | some parent =>
    simp only [Scene.addNode] at h_edge
    split at h_edge
    · -- the parent is there, and lists the node from now on
      obtain ⟨n, h_find, h_child⟩ := hasChild_iff.mp h_edge
      rw [Registry.find?_modify] at h_find
      split at h_find
      · rename_i h_parent
        obtain ⟨n₀, h_find₀, rfl⟩ := Option.map_eq_some_iff.mp h_find
        rcases List.mem_append.mp h_child with h_child | h_child
        · exact .inl (h_inserted (hasChild_iff.mpr ⟨n₀, h_find₀, h_child⟩))
        · exact .inr ⟨(List.mem_singleton.mp h_child).symm, by rw [h_parent]⟩
      · exact .inl (h_inserted (hasChild_iff.mpr ⟨n, h_find, h_child⟩))
    · exact .inl (h_inserted h_edge)

theorem HasChild.of_changed {result : Except Failure Scene}
    (h_edge : (s.changed result).2.HasChild id c)
    (h_ok : ∀ t, result = .ok t → t.HasChild id c → s.HasChild id c) : s.HasChild id c := by
  cases result with
  | error e => exact h_edge
  | ok t => exact h_ok t rfl h_edge

/-- **What an operation does to the child lists**: a node that is there before lists what it listed,
unless it is added anew, or the operation adds the child to it. -/
theorem HasChild.of_operate {op : Operation} (h_edge : (s.operate op).2.HasChild id c) :
    s.HasChild id c ∧ op.added? ≠ some id ∨ op.added? = some c ∧ op.parent? = some id := by
  have h_none : none ≠ some id := (Option.some_ne_none id).symm
  cases op with
  | addNode top name kind component properties parent =>
    rcases h_edge.of_addNode rfl with ⟨h_old, h_ne⟩ | ⟨rfl, h_parent⟩
    · exact .inl ⟨h_old, fun h_same => h_ne (Option.some.inj h_same)⟩
    · exact .inr ⟨rfl, h_parent⟩
  | dropNode top =>
    refine .inl ⟨h_edge.of_changed fun t h_dropped h_edge => ?_, h_none⟩
    obtain ⟨-, rfl⟩ := dropNode_eq_ok_iff.mp h_dropped
    refine h_edge.of_find? fun n h_find => ?_
    simp only [Registry.find?_erase] at h_find
    split at h_find
    · cases h_find
    · exact ⟨n, h_find, rfl⟩
  | setProperty top property value =>
    refine .inl ⟨h_edge.of_changed fun t h_set h_edge => ?_, h_none⟩
    obtain ⟨-, rfl⟩ := setProperty_eq_ok_iff.mp h_set
    exact h_edge.of_modify fun _ => rfl
  | click top =>
    refine .inl ⟨h_edge.of_changed fun t h_clicked h_edge => ?_, h_none⟩
    obtain ⟨_, -, rfl⟩ := click_eq_ok_iff.mp h_clicked
    exact h_edge
  -- what a session may do leaves child lists alone
  | setReactions top reactions =>
    exact .inl ⟨h_edge.of_changed fun _ h => .of_kept (.setReactions h), h_none⟩
  | setValue top value => exact .inl ⟨h_edge.of_changed fun _ h => .of_kept (.setValue h), h_none⟩
  | bindProperty top property target =>
    exact .inl ⟨h_edge.of_changed fun _ h => .of_kept (.bindProperty h), h_none⟩
  | removeVariable top =>
    exact .inl ⟨h_edge.of_changed fun _ h => .of_kept (.removeVariable h), h_none⟩
  | createVariable name collection type =>
    refine .inl ⟨h_edge.of_changed fun t h_created h_edge => ?_, h_none⟩
    obtain ⟨created, h_variable, rfl⟩ := Except.map_eq_ok_iff.mp h_created
    exact h_edge.of_kept (.createVariable h_variable)
  | addVariantSet | addComponent | removeComponent | select | rejectBindings | rejectReactions
  | close | createCollection => exact .inl ⟨h_edge, h_none⟩

/-! ### Cycles -/

/-- The children of a node are ranked below it, but for the node itself. -/
def Descends (s : Scene) (rank : String → Nat) : Prop :=
  ∀ id c, s.HasChild id c → c ≠ id → rank c < rank id

/-- **An operation keeps the nodes ranked**: one that is added comes below all others. -/
theorem Descends.operate (h_descends : s.Descends rank) (op : Operation) :
    ∃ rank', (s.operate op).2.Descends rank' := by
  refine ⟨fun id => if op.added? = some id then 0 else rank id + 1, fun id c h_edge h_ne => ?_⟩
  rcases h_edge.of_operate with ⟨h_old, h_added⟩ | ⟨h_added, -⟩
  · have h_less := h_descends id c h_old h_ne
    simp only [h_added, if_false]
    split
    · exact Nat.succ_pos _
    · exact Nat.succ_lt_succ h_less
  · -- the child is new, and its parent is another node
    have h_parent : op.added? ≠ some id := fun h_same =>
      h_ne (Option.some.inj (h_added.symm.trans h_same))
    simp only [h_added, if_true, Option.some.injEq, h_ne, if_false]
    exact Nat.succ_pos _

theorem Built.exists_descends (h_built : Built s) : ∃ rank, s.Descends rank := by
  induction h_built with
  | empty =>
    refine ⟨fun _ => 0, fun id c h_edge _ => ?_⟩
    obtain ⟨n, h_find, -⟩ := hasChild_iff.mp h_edge
    cases h_find
  | step _ op ih =>
    obtain ⟨rank, h_descends⟩ := ih
    exact h_descends.operate op

/-- **In a scene that can be built, a cycle is a node that lists itself.** -/
theorem Built.cycleFree_iff (h_built : Built s) : s.CycleFree ↔ ∀ id, ¬s.HasChild id id := by
  constructor
  · exact fun h_free id h_self => h_free id (.single h_self)
  · intro h_none
    obtain ⟨rank, h_descends⟩ := h_built.exists_descends
    have h_acyclic : s.Acyclic rank := fun id n h_node c h_child =>
      have h_edge : s.HasChild id c := ⟨n, h_node, h_child⟩
      h_descends id c h_edge fun h_same => h_none id (h_same ▸ h_edge)
    exact h_acyclic.cycleFree

/-- Only a node that is added as its own parent comes to list itself. -/
theorem not_hasChild_self_operateAll {ops : List Operation}
    (h_ops : ∀ op ∈ ops, op.loops = false) (h_none : ∀ id, ¬s.HasChild id id) (id : String) :
    ¬(s.operateAll ops).HasChild id id := by
  induction ops generalizing s with
  | nil => exact h_none id
  | cons op ops ih =>
    refine ih (fun op h_mem => h_ops op (List.mem_cons_of_mem _ h_mem)) fun id h_edge => ?_
    rcases h_edge.of_operate with ⟨h_old, -⟩ | ⟨h_added, h_parent⟩
    · exact h_none id h_old
    · have h_loops := h_ops op List.mem_cons_self
      simp [Operation.loops, h_added, h_parent] at h_loops

/-- **Scenes in which no node was added as its own parent have no cycle.** -/
theorem cycleFree_operateAll {ops : List Operation} (h_ops : ∀ op ∈ ops, op.loops = false) :
    (operateAll {} ops).CycleFree := by
  refine (Built.empty.operateAll ops).cycleFree_iff.mpr
    (not_hasChild_self_operateAll h_ops fun id h_self => ?_)
  obtain ⟨n, h_find, -⟩ := hasChild_iff.mp h_self
  cases h_find

/-! ### Visits -/

/-- **A visit of a walk**: the first node that is pending makes way for its children. -/
def Visits (s : Scene) (pending pending' : List String) : Prop :=
  ∃ id rest found, pending = id :: rest ∧ pending' = (Program.visit (s.node? id) rest found).1

/-- What is pending costs less after each visit. -/
theorem Visits.sum_cost_lt {pending pending' : List String} (h_acyclic : s.Acyclic rank)
    (h_visit : s.Visits pending pending') :
    (pending'.map (s.cost rank)).sum < (pending.map (s.cost rank)).sum := by
  obtain ⟨id, rest, found, rfl, rfl⟩ := h_visit
  rw [List.map_cons, List.sum_cons]
  cases h_node : s.node? id with
  | none => exact Nat.lt_add_of_pos_left (s.cost_pos rank id)
  | some n =>
    have h_children := sum_cost_children_lt h_acyclic h_node
    simp only [Program.visit, List.map_append, List.sum_append]
    omega

/-- **Without a cycle, no walk goes on for ever.** -/
theorem CycleFree.wf_visits (h_free : s.CycleFree) :
    WellFounded fun pending' pending => s.Visits pending pending' := by
  obtain ⟨rank, h_acyclic⟩ := h_free.exists_rank
  exact Subrelation.wf (fun h_visit => h_visit.sum_cost_lt h_acyclic)
    (InvImage.wf (fun pending : List String => (pending.map (s.cost rank)).sum) Nat.lt_wfRel.wf)

end Scene

/-! ### Searching -/

namespace Program

variable {σ : Type}

/-- **A node that lists itself keeps a walk going**, whatever the number of visits. -/
theorem explore_endless {t : Scene} {id : String} (h_self : t.HasChild id id) (visits : Nat)
    {pending : List String} (h_pending : id ∈ pending) (found : Array String) {m : Machine σ}
    (hs : m.host.Spares .node) (h_scene : m.host.scene = t) :
    (explore visits pending found m).1 = .error .endless := by
  obtain ⟨n, h_node, h_child⟩ := h_self
  induction visits generalizing pending found m with
  | zero =>
    cases pending with
    | nil => cases h_pending
    | cons top rest => rfl
  | succ visits ih =>
    cases pending with
    | nil => cases h_pending
    | cons top rest =>
      obtain ⟨m₁, h_host, h_visit⟩ := explore_visit hs visits top rest found
      rw [h_visit, h_scene]
      rw [← h_host] at hs h_scene
      refine ih ?_ _ hs h_scene
      -- the node is pending still: as a child of itself, or because another one was visited
      rcases List.mem_cons.mp h_pending with rfl | h_rest
      · rw [h_node]
        exact List.mem_append_left _ h_child
      · cases t.node? top with
        | none => exact h_rest
        | some n' => exact List.mem_append_right _ h_rest

end Program

namespace Discovery

variable {σ : Type} {s : σ} {h : Host}

theorem outcome_nestedInstances_endless (hs : h.Spares .node) {id : String}
    (h_self : h.scene.HasChild id id) :
    ((nestedInstances id : Program σ _).outcome s h).1 = .error .endless := by
  obtain ⟨n, h_node, h_child⟩ := h_self
  have h_ask := Program.outcome_ask_of_spares (s := s) (c := .node id) hs
  rw [nestedInstances, Program.outcome_bind_ok h_ask]
  simp only [Host.answer, h_node]
  rw [Program.instancesBelow, Program.outcome_walk, Program.outcome_lift]
  exact Program.explore_endless ⟨n, h_node, h_child⟩ _ h_child #[] hs rfl

/-- **In a scene that can be built, every search ends if and only if no node lists itself.** -/
theorem nestedInstances_ends_iff (h_built : h.scene.Built) (hs : h.Spares .node) :
    (∀ container, ((nestedInstances container : Program σ _).outcome s h).1 ≠ .error .endless) ↔
      ∀ id, ¬h.scene.HasChild id id := by
  constructor
  · exact fun h_ends id h_self => h_ends id (outcome_nestedInstances_endless hs h_self)
  · intro h_none container
    rw [outcome_nestedInstances s hs (h_built.cycleFree_iff.mpr h_none) container]
    nofun

/-- **The search for nested instances ends** in every scene that operations lead to of which none
adds a node as its own parent, whatever ids they use, add again or drop: the child lists have no
cycle, no sequence of visits goes on for ever, and the instances below each container are found. -/
theorem nestedInstances_ends_in_grown {ops : List Scene.Operation}
    (h_ops : ∀ op ∈ ops, op.loops = false) (m : Machine σ) (hs : m.host.Spares .node)
    (h_scene : m.host.scene = Scene.operateAll {} ops) :
    m.host.scene.CycleFree ∧
      (WellFounded fun pending' pending => m.host.scene.Visits pending pending') ∧
      ∀ container, ∃ found m', (nestedInstances container).eval m = (.ok found, m') ∧
        m'.memory = m.memory ∧ m'.host = m.host ∧
        ∀ id, id ∈ found ↔ m.host.scene.Nested container id := by
  have h_free : m.host.scene.CycleFree := h_scene ▸ Scene.cycleFree_operateAll h_ops
  refine ⟨h_free, h_free.wf_visits, fun container => ?_⟩
  obtain ⟨m', h_eval, h_memory, h_host⟩ :=
    Program.eval_of_outcome (outcome_nestedInstances m.memory hs h_free container)
  exact ⟨_, m', h_eval, h_memory, h_host, fun _ => Scene.mem_preorder h_free⟩

/-- A node is added again below its own child, dropped, and brought back while both old parents list
it still. -/
def regrown : List Scene.Operation :=
  [.addNode "a" "A" "FRAME" none ∅ none,
    .addNode "b" "B" "INSTANCE" none ∅ (some "a"),
    .addNode "a" "A" "INSTANCE" none ∅ (some "b"),
    .addNode "c" "C" "INSTANCE" none ∅ (some "gone"),
    .addNode "b" "B" "FRAME" none ∅ none,
    .dropNode "a",
    .addNode "c" "C" "INSTANCE" none ∅ (some "b"),
    .addNode "a" "A" "INSTANCE" none ∅ (some "c")]

theorem nestedInstances_ends_in_regrown :
    (∀ op ∈ regrown, op.loops = false) ∧ ∃ found m', (nestedInstances "b").eval
      ({ memory := (), host := { scene := Scene.operateAll {} regrown } } : Machine Unit) =
        (.ok found, m') ∧ found = ["c", "a"] := by
  have h_ops : ∀ op ∈ regrown, op.loops = false := by decide
  obtain ⟨found, m', h_eval, -⟩ := (nestedInstances_ends_in_grown h_ops
    ({ memory := (), host := { scene := Scene.operateAll {} regrown } } : Machine Unit)
    rfl rfl).2.2 "b"
  have h_run : ((nestedInstances "b").eval
      ({ memory := (), host := { scene := Scene.operateAll {} regrown } } :
        Machine Unit)).1.toOption = some ["c", "a"] := by decide +kernel
  rw [h_eval] at h_run
  exact ⟨h_ops, found, m', h_eval, Option.some.inj h_run⟩

end Discovery

end Clickwork
