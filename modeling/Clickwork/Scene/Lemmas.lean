import Clickwork.Scene.Build
import Clickwork.Scene.Change

/-!
# Operations that succeed

When an operation on a scene succeeds, and what it makes of the scene then. One equivalence for each
operation that can fail; whoever reasons about an operation cites it and leaves the definition
closed.
-/

namespace Clickwork

theorem Except.map_eq_ok_iff {ε α β : Type} {f : α → β} {x : Except ε α} {b : β} :
    x.map f = .ok b ↔ ∃ a, x = .ok a ∧ f a = b := by
  cases x <;> simp [Except.map]

namespace Scene

variable {s s' : Scene} {id property target : String}

/-! ### Laying out -/

theorem dropNode_eq_ok_iff :
    s.dropNode id = .ok s' ↔
      s.nodes.contains id = true ∧ s' = { s with nodes := s.nodes.erase id } := by
  unfold dropNode
  split <;> simp [*, eq_comm]

theorem setProperty_eq_ok_iff {value : Json} :
    s.setProperty id property value = .ok s' ↔
      s.nodes.contains id = true ∧
        s' = { s with nodes := s.nodes.modify id fun n =>
          { n with
            properties := n.properties.insert property value
            bindings := n.bindings.erase property } } := by
  unfold setProperty
  split <;> simp [*, eq_comm]

/-! ### Changing -/

theorem setReactions_eq_ok_iff {reactions : List Reaction} :
    s.setReactions id reactions = .ok s' ↔
      id ∉ s.rejectingReactions ∧ s.nodes.contains id = true ∧
        s' = { s with nodes := s.nodes.modify id fun n => { n with reactions } } := by
  unfold setReactions
  split
  · simp [*]
  · split <;> simp [*, eq_comm]

theorem setValue_eq_ok_iff {value : Json} :
    s.setValue id value = .ok s' ↔
      s.variableTable.contains id = true ∧
        s' = { s with variableTable := s.variableTable.modify id fun v => { v with value } } := by
  unfold setValue
  split <;> simp [*, eq_comm]

/-- A property is bound to a variable if both are there and the node does not refuse it. -/
theorem bindProperty_eq_ok_iff :
    s.bindProperty id property target = .ok s' ↔
      id ∉ s.rejectingBindings ∧
        (∃ n, s.nodes.find? id = some n ∧ n.properties.contains property = true) ∧
        s.variableTable.contains target = true ∧
        s' = { s with nodes := s.nodes.modify id fun n =>
          { n with bindings := n.bindings.insert property target } } := by
  constructor
  · intro h
    unfold bindProperty at h
    split at h
    · cases h
    · rename_i h_accepts
      split at h
      · cases h
      · rename_i h_property
        split at h <;> cases h
        rename_i h_target
        exact ⟨h_accepts, Option.map_eq_some_iff.mp (Decidable.not_not.mp h_property), h_target,
          rfl⟩
  · rintro ⟨h_accepts, ⟨n, hn, h_property⟩, h_target, rfl⟩
    simp [bindProperty, h_accepts, hn, h_property, h_target]

theorem removeVariable_eq_ok_iff :
    s.removeVariable id = .ok s' ↔
      s.variableTable.contains id = true ∧
        s' =
          { s with
            variableTable := s.variableTable.erase id
            nodes := s.nodes.mapValues fun _ n =>
              { n with bindings := n.bindings.filter fun _ target => target != id } } := by
  unfold removeVariable
  split <;> simp [*, eq_comm]

theorem click_eq_ok_iff :
    s.click id = .ok s' ↔
      ∃ n, s.nodes.find? id = some n ∧ s' = s.assignAll (clickBatch n.reactions) := by
  unfold click
  split <;> simp [*, eq_comm]

end Scene

end Clickwork
