import Clickwork.Discovery
import Clickwork.Proofs.Scene.Forest
import Clickwork.Proofs.Wiring
import Mathlib.Algebra.GroupWithZero.Nat
import Mathlib.Algebra.Order.BigOperators.Group.List
import Mathlib.Algebra.Order.Group.Nat

/-!
# Walks that end

A walk visits the nodes that are pending, and everything below them. If the child lists of a scene
have no cycle, `Scene.visitBound` bounds the number of its visits (`Scene.sum_cost_le`), so that it
ends if no visit fails, with the instances that it came across in pre-order
(`Program.explore_preorder`). So does the search for nested instances
(`Discovery.nestedInstances_in_preorder`).
-/

namespace Clickwork

open Program (Ends)

namespace Scene

variable {s : Scene} {rank : String → Nat} {id : String} {n : NodeInfo}

/-! ### Counting visits -/

/-- The largest number of children of a node. -/
def width (s : Scene) : Nat :=
  (s.nodes.values.map (·.children.length)).foldl max 0

theorem length_children_le (h_node : s.node? id = some n) : n.children.length ≤ s.width := by
  obtain ⟨node, h_find, rfl⟩ := node?_eq_some_iff.mp h_node
  have h_mem : node.children.length ∈ s.nodes.values.map (·.children.length) :=
    List.mem_map_of_mem (Registry.mem_values_iff.mpr ⟨id, h_find⟩)
  rw [width, List.foldl_max]
  exact (List.le_max?_getD_of_mem h_mem).trans (Nat.le_max_right _ _)

theorem visitBoundBelow_mono (width : Nat) : Monotone (visitBoundBelow width) := by
  refine monotone_nat_of_le_succ fun depth => ?_
  induction depth with
  | zero => exact Nat.le_add_right 1 _
  | succ depth ih => exact Nat.add_le_add_left (Nat.mul_le_mul_left width ih) 1

/-- What is bounded for each element is bounded for all. -/
theorem sum_map_le {ids : List String} {f : String → Nat} {bound : Nat}
    (h_each : ∀ id ∈ ids, f id ≤ bound) : (ids.map f).sum ≤ ids.length * bound := by
  have h_all := List.sum_le_card_nsmul (ids.map f) bound (List.forall_mem_map.mpr h_each)
  rwa [List.length_map] at h_all

/-- **The number of nodes that are ranked no higher** than a node. -/
def height (s : Scene) (rank : String → Nat) (id : String) : Nat :=
  (s.nodes.keys.toFinset.filter (rank · ≤ rank id)).card

theorem height_le (s : Scene) (rank : String → Nat) (id : String) :
    s.height rank id ≤ s.nodes.entries.length := by
  refine (Finset.card_filter_le _ _).trans ((List.toFinset_card_le _).trans_eq ?_)
  exact List.length_map _

/-- A child is less high. -/
theorem height_lt (h_acyclic : s.Acyclic rank) (h_node : s.node? id = some n) {c : String}
    (h_child : c ∈ n.children) : s.height rank c < s.height rank id := by
  have h_rank : rank c < rank id := h_acyclic id n h_node c h_child
  obtain ⟨node, h_find, -⟩ := node?_eq_some_iff.mp h_node
  refine Finset.card_lt_card (Finset.ssubset_iff_of_subset ?_ |>.mpr ⟨id, ?_, ?_⟩)
  · exact Finset.monotone_filter_right _ fun _ _ h_le => h_le.trans h_rank.le
  · exact Finset.mem_filter.mpr
      ⟨List.mem_toFinset.mpr (Registry.mem_keys_iff.mpr ⟨node, h_find⟩), Nat.le_refl _⟩
  · exact fun h_mem => (Finset.mem_filter.mp h_mem).2.not_gt h_rank

/-- **A bound on the visits to a node and what is below it.** -/
def cost (s : Scene) (rank : String → Nat) (id : String) : Nat :=
  visitBoundBelow s.width (s.height rank id)

theorem cost_pos (s : Scene) (rank : String → Nat) (id : String) : 0 < s.cost rank id := by
  unfold cost
  cases s.height rank id with
  | zero => exact Nat.one_pos
  | succ depth => exact Nat.add_pos_left Nat.one_pos _

/-- **A visit to a node and those to its children** are what the node may cost. -/
theorem sum_cost_children_lt (h_acyclic : s.Acyclic rank) (h_node : s.node? id = some n) :
    (n.children.map (s.cost rank)).sum < s.cost rank id := by
  cases h_height : s.height rank id with
  | zero =>
    -- nothing is below a node of height zero
    have h_none : n.children = [] := List.eq_nil_iff_forall_not_mem.mpr fun c h_child =>
      absurd (h_height ▸ height_lt h_acyclic h_node h_child) (Nat.not_lt_zero _)
    rw [h_none]
    exact s.cost_pos rank id
  | succ depth =>
    have h_each : ∀ c ∈ n.children, s.cost rank c ≤ visitBoundBelow s.width depth := by
      intro c h_child
      have h_less := height_lt h_acyclic h_node h_child
      rw [h_height] at h_less
      exact visitBoundBelow_mono _ (Nat.lt_succ_iff.mp h_less)
    calc (n.children.map (s.cost rank)).sum
        ≤ n.children.length * visitBoundBelow s.width depth := sum_map_le h_each
      _ ≤ s.width * visitBoundBelow s.width depth :=
        Nat.mul_le_mul_right _ (length_children_le h_node)
      _ < s.cost rank id := by
        rw [cost, h_height, visitBoundBelow]
        omega

/-- **The bound on the visits of a walk** covers what the nodes may cost with which it starts. -/
theorem sum_cost_le (s : Scene) (rank : String → Nat) (pending : List String) :
    (pending.map (s.cost rank)).sum ≤ s.visitBound pending.length :=
  sum_map_le fun id _ => visitBoundBelow_mono _ (s.height_le rank id)

end Scene

/-! ### Walking -/

namespace Program

variable {σ : Type} {rank : String → Nat}

/-- **A visit on a host that spares it** tells what the scene has at the node, and changes nothing but
what is pending and found. -/
theorem explore_visit {m : Machine σ} (hs : m.host.Spares .node) (visits : Nat) (id : String)
    (pending : List String) (found : Array String) :
    ∃ m', m'.host = m.host ∧ explore (visits + 1) (id :: pending) found m =
      explore visits (visit (m.host.scene.node? id) pending found).1
        (visit (m.host.scene.node? id) pending found).2 m' := by
  have hs' : m.host.Spares (Call.node id).method := hs
  have h_perform : m.perform (.node id) =
      (.ok (m.host.scene.node? id), { m.emit (.called (.node id)) with host := m.host }) := by
    simp only [Machine.perform, Host.perform_of_spares hs']
    rfl
  refine ⟨{ m.emit (.called (.node id)) with host := m.host }, rfl, ?_⟩
  simp only [explore, h_perform]

/-- **A walk with enough visits ends**, having found what it had and, for each pending node in turn,
the node if it is an instance and the instances below it. -/
theorem explore_preorder {t : Scene} (h_free : t.CycleFree) (h_acyclic : t.Acyclic rank)
    {m : Machine σ} (hs : m.host.Spares .node) (h_scene : m.host.scene = t) {visits : Nat}
    {pending : List String} (found : Array String)
    (h_visits : (pending.map (t.cost rank)).sum ≤ visits) :
    (explore visits pending found m).1 =
        .ok (found.toList ++ pending.flatMap (t.preorderFrom h_free)) ∧
      (explore visits pending found m).2.host = m.host := by
  -- a visit to a node pays for those to its children: what is pending costs less after each visit
  induction visits generalizing pending found m with
  | zero =>
    cases pending with
    | nil => exact ⟨by simp [explore], rfl⟩
    | cons top pending =>
      have h_pos := t.cost_pos rank top
      simp only [List.map_cons, List.sum_cons] at h_visits
      omega
  | succ visits ih =>
    cases pending with
    | nil => exact ⟨by simp [explore], rfl⟩
    | cons top pending =>
      have h_pos := t.cost_pos rank top
      simp only [List.map_cons, List.sum_cons] at h_visits
      obtain ⟨m₁, h_host, h_visit⟩ := explore_visit hs visits top pending found
      rw [h_visit, h_scene]
      rw [← h_host] at hs h_scene
      simp only [List.flatMap_cons]
      cases h_node : t.node? top with
      | none =>
        -- a node that is gone is passed over
        obtain ⟨h_ok, h_same⟩ := ih hs h_scene found
          (show (pending.map (t.cost rank)).sum ≤ visits by omega)
        refine ⟨h_ok.trans ?_, h_same.trans h_host⟩
        rw [Scene.preorderFrom_of_gone h_free h_node, List.nil_append]
      | some n =>
        have h_children := Scene.sum_cost_children_lt h_acyclic h_node
        have h_rest : ((n.children ++ pending).map (t.cost rank)).sum ≤ visits := by
          rw [List.map_append, List.sum_append]
          omega
        obtain ⟨h_ok, h_same⟩ := ih hs h_scene
          (if n.isInstance then found.push n.id else found) h_rest
        refine ⟨h_ok.trans ?_, h_same.trans h_host⟩
        rw [Scene.preorderFrom_of_node? h_free h_node, Scene.id_of_node? h_node,
          List.flatMap_append]
        cases n.isInstance <;> simp

/-- **The instances among nodes and below them** are found in pre-order if the child lists have no
cycle. -/
theorem outcome_instancesBelow (s : σ) {h : Host} (hs : h.Spares .node)
    (h_free : h.scene.CycleFree) (pending : List String) :
    (instancesBelow pending).outcome s h =
      (.ok (pending.flatMap (h.scene.preorderFrom h_free)), s, h) := by
  obtain ⟨rank, h_acyclic⟩ := h_free.exists_rank
  obtain ⟨m, h_start⟩ : ∃ m : Machine σ, m = { memory := s, host := h } := ⟨_, rfl⟩
  have h_host : m.host = h := by rw [h_start]
  have h_visits : (pending.map (h.scene.cost rank)).sum ≤ m.visitBound .never pending.length := by
    rw [Machine.visitBound, h_host]
    exact (h.scene.sum_cost_le rank pending).trans
      ((Nat.le_add_right _ _).trans (Nat.le_add_right _ _))
  obtain ⟨h_ok, h_same⟩ := explore_preorder h_free h_acyclic (h_host ▸ hs)
    (congrArg Host.scene h_host) #[] h_visits
  have h_walked : walked s h pending #[] =
      explore (m.visitBound .never pending.length) pending #[] m := by
    rw [h_start]
    rfl
  rw [instancesBelow, outcome_walk, outcome_lift, h_walked, h_ok, h_same, h_host]
  rfl

end Program

namespace Discovery

variable {σ : Type} {s : σ} {h : Host}

theorem outcome_nestedInstances (s : σ) (hs : h.Spares .node) (h_free : h.scene.CycleFree)
    (container : String) : (nestedInstances container : Program σ _).outcome s h =
      (.ok (h.scene.preorder h_free container), s, h) := by
  have h_ask := Program.outcome_ask_of_spares (s := s) (c := .node container) hs
  rw [nestedInstances, Program.outcome_bind_ok h_ask]
  cases h_node : h.scene.node? container with
  | none =>
    rw [Scene.preorder_of_gone h_free h_node]
    rfl
  | some n =>
    rw [Scene.preorder_of_node? h_free h_node]
    exact Program.outcome_instancesBelow s hs h_free n.children

/-- **The instances nested in a container** are found if the child lists have no cycle. -/
theorem nestedInstances_ends (hr : h.Reliable) {rank : String → Nat}
    (h_acyclic : h.scene.Acyclic rank) (container : String) :
    (nestedInstances container : Program σ _).Ends s h fun r s' h' => s' = s ∧ h' = h ∧
      ∃ ids, r = .ok ids ∧ ∀ id, id ∈ ids ↔ h.scene.Nested container id :=
  Ends.of_eq (outcome_nestedInstances s (hr _ rfl (by simp)) h_acyclic.cycleFree container)
    ⟨rfl, rfl, _, rfl, fun _ => Scene.mem_preorder _⟩

/-- **The instances nested in a container** are found in pre-order if the child lists have no cycle:
parents before children, and siblings in the order of the list, without the container. None are
found in a container that is missing. -/
theorem nestedInstances_in_preorder (m : Machine σ) (hs : m.host.Spares .node)
    (h_free : m.host.scene.CycleFree) (container : String) :
    ∃ m', (nestedInstances container).eval m =
        (.ok (m.host.scene.preorder h_free container), m') ∧
      m'.memory = m.memory ∧ m'.host = m.host ∧
      (m.host.scene.node? container = none →
        m.host.scene.preorder h_free container = []) := by
  have h_eval := (nestedInstances container).eval_eq_outcome m
  rw [outcome_nestedInstances m.memory hs h_free container] at h_eval
  obtain ⟨h_ok, h_rest⟩ := Prod.mk.inj h_eval
  obtain ⟨h_memory, h_host⟩ := Prod.mk.inj h_rest
  exact ⟨_, Prod.ext h_ok rfl, h_memory, h_host, Scene.preorder_of_gone h_free⟩

/-- A forest in which two nodes have a child in common, one is listed twice, and one is missing. -/
def thicket : Scene where
  nodes := .ofList
    [("root", { name := "Root", kind := "FRAME", children := ["a", "gone", "b", "a"] }),
      ("a", { name := "A", kind := "INSTANCE", children := ["c"] }),
      ("b", { name := "B", kind := "FRAME", children := ["c"] }),
      ("c", { name := "C", kind := "INSTANCE" })]

theorem nestedInstances_in_thicket :
    ∃ (h_free : thicket.CycleFree) (m' : Machine Unit),
      (nestedInstances "root").eval { memory := (), host := { scene := thicket } } =
        (.ok (thicket.preorder h_free "root"), m') ∧
      thicket.preorder h_free "root" = ["a", "c", "c", "a", "c"] := by
  have h_acyclic : thicket.Acyclic fun id =>
      if id = "root" then 2 else if id = "c" then 0 else 1 :=
    Scene.acyclic_of_entries (by decide +kernel)
  obtain ⟨m', h_eval, -⟩ := nestedInstances_in_preorder
    ({ memory := (), host := { scene := thicket } } : Machine Unit) rfl h_acyclic.cycleFree "root"
  have h_run : ((nestedInstances "root").eval
      ({ memory := (), host := { scene := thicket } } : Machine Unit)).1.toOption =
        some ["a", "c", "c", "a", "c"] := by decide +kernel
  rw [h_eval] at h_run
  exact ⟨h_acyclic.cycleFree, m', h_eval, Option.some.inj h_run⟩

end Discovery

end Clickwork
