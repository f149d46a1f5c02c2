import Clickwork.Proofs.Registry
import Clickwork.Scene.Lemmas

/-!
# What is kept of a scene

A session changes reactions, bindings, variables and collections. Everything else of a scene it
leaves as it is (`Scene.Kept`): the nodes with their components and static values, and which of them
refuse bindings or reactions. So does a click.
-/

namespace Clickwork.Scene

/-- A node without its bindings and reactions. -/
def Node.bare (n : Node) : Node :=
  { n with bindings := ∅, reactions := [] }

/-- **The same scene but for bindings, reactions, variables and collections.** -/
structure Kept (s s' : Scene) : Prop where
  /-- Nodes neither come nor go, and change in nothing but bindings and reactions. -/
  nodes : s'.nodes.mapValues (fun _ n => n.bare) = s.nodes.mapValues (fun _ n => n.bare)
  components : s'.components = s.components
  sets : s'.sets = s.sets
  rejectingBindings : s'.rejectingBindings = s.rejectingBindings
  rejectingReactions : s'.rejectingReactions = s.rejectingReactions

theorem Kept.refl (s : Scene) : Kept s s :=
  ⟨rfl, rfl, rfl, rfl, rfl⟩

theorem Kept.trans {s₁ s₂ s₃ : Scene} (h : Kept s₁ s₂) (h' : Kept s₂ s₃) : Kept s₁ s₃ where
  nodes := h'.nodes.trans h.nodes
  components := h'.components.trans h.components
  sets := h'.sets.trans h.sets
  rejectingBindings := h'.rejectingBindings.trans h.rejectingBindings
  rejectingReactions := h'.rejectingReactions.trans h.rejectingReactions

theorem Kept.symm {s s' : Scene} (h : Kept s s') : Kept s' s :=
  ⟨h.nodes.symm, h.components.symm, h.sets.symm, h.rejectingBindings.symm,
    h.rejectingReactions.symm⟩

/-- Nodes that change in nothing but bindings and reactions. -/
theorem Kept.of_mapValues {s s' : Scene} (f : String → Node → Node)
    (hf : ∀ id n, (f id n).bare = n.bare) (h_nodes : s'.nodes = s.nodes.mapValues f)
    (h_components : s'.components = s.components) (h_sets : s'.sets = s.sets)
    (h_bindings : s'.rejectingBindings = s.rejectingBindings)
    (h_reactions : s'.rejectingReactions = s.rejectingReactions) : Kept s s' where
  nodes := by
    rw [h_nodes, Registry.mapValues_mapValues]
    exact Registry.mapValues_congr fun e _ => hf e.1 e.2
  components := h_components
  sets := h_sets
  rejectingBindings := h_bindings
  rejectingReactions := h_reactions

/-- One node that changes in nothing but bindings and reactions. -/
theorem Kept.modify (s : Scene) (id : String) {f : Node → Node} (hf : ∀ n, (f n).bare = n.bare) :
    Kept s { s with nodes := s.nodes.modify id f } := by
  refine .of_mapValues (fun id' n => if id' = id then f n else n) (fun _ n => ?_)
    rfl rfl rfl rfl rfl
  split
  · exact hf n
  · rfl

theorem Kept.bare_find? {s s' : Scene} (h : Kept s s') (id : String) :
    (s'.nodes.find? id).map Node.bare = (s.nodes.find? id).map Node.bare := by
  have h_find := congrArg (Registry.find? · id) h.nodes
  simpa only [Registry.find?_mapValues] using h_find

theorem Kept.mainComponent? {s s' : Scene} (h : Kept s s') (id : String) :
    s'.mainComponent? id = s.mainComponent? id := by
  have h_component : (s'.nodes.find? id).map (·.component) =
      (s.nodes.find? id).map (·.component) := by
    have h_bare := congrArg (Option.map (·.component)) (h.bare_find? id)
    rw [Option.map_map, Option.map_map] at h_bare
    exact h_bare
  have h_set : s'.set? = s.set? := by
    funext id
    simp only [set?, h.sets]
  -- the node is there in both scenes or in neither
  rcases hn : s.nodes.find? id with _ | n <;> rcases hn' : s'.nodes.find? id with _ | n' <;>
    simp only [hn, hn', Option.map_none, Option.map_some, reduceCtorEq, Option.some.injEq]
      at h_component
  · simp [Scene.mainComponent?, hn, hn']
  · simp [Scene.mainComponent?, hn, hn', h_component, h.components, h_set]

theorem Kept.setReactions {s s' : Scene} {id : String} {reactions : List Reaction}
    (h : s.setReactions id reactions = .ok s') : Kept s s' := by
  obtain ⟨-, -, rfl⟩ := setReactions_eq_ok_iff.mp h
  exact .modify s id fun _ => rfl

theorem Kept.bindProperty {s s' : Scene} {id property target : String}
    (h : s.bindProperty id property target = .ok s') : Kept s s' := by
  obtain ⟨-, -, -, rfl⟩ := bindProperty_eq_ok_iff.mp h
  exact .modify s id fun _ => rfl

theorem Kept.removeVariable {s s' : Scene} {id : String} (h : s.removeVariable id = .ok s') :
    Kept s s' := by
  obtain ⟨-, rfl⟩ := removeVariable_eq_ok_iff.mp h
  exact .of_mapValues
    (fun _ n => { n with bindings := n.bindings.filter fun _ target => target != id })
    (fun _ _ => rfl) rfl rfl rfl rfl rfl

theorem Kept.setValue {s s' : Scene} {id : String} {value : Json}
    (h : s.setValue id value = .ok s') : Kept s s' := by
  obtain ⟨-, rfl⟩ := setValue_eq_ok_iff.mp h
  exact ⟨rfl, rfl, rfl, rfl, rfl⟩

theorem Kept.createVariable {s s' : Scene} {name collection type id : String}
    (h : s.createVariable name collection type = .ok (id, s')) : Kept s s' := by
  simp only [Scene.createVariable] at h
  split at h
  · cases h
    exact ⟨rfl, rfl, rfl, rfl, rfl⟩
  · cases h

end Clickwork.Scene
