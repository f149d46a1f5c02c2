import Clickwork.Proofs.Later
import Clickwork.Proofs.Scene.Removal
import Clickwork.Proofs.Storage

/-!
# What a call changes

`Call.Changes` lists what calls make of a scene. A call that a host performs, with or without
arranged failures, makes just that of it or changes nothing (`Host.scene_perform`), and what is
changed of the storage is told in the same way (`Host.storage_perform`). So a fact about every call
is one case for each kind of change.
-/

namespace Clickwork

/-! ### Changes of the scene -/

/-- **What a call makes of a scene**, if it changes anything. -/
inductive Call.Changes (s : Scene) : Call → Scene → Prop where
  | setReactions {id : String} {reactions : List Reaction} (h_node : s.nodes.contains id = true)
      (h_accepts : id ∉ s.rejectingReactions) :
      Changes s (.setReactions id reactions)
        { s with nodes := s.nodes.modify id fun n => { n with reactions } }
  | close : Changes s .close s.close
  | createCollection {name : String} :
      Changes s (.createCollection name) (s.createCollection name).2
  | createVariable {name collection type : String} (h_known : collection ∈ s.collections.values) :
      Changes s (.createVariable name collection type)
        { s with
          variableTable :=
            s.variableTable.insert (Scene.variableId s.nextId) { name, collection, type }
          nextId := s.nextId + 1 }
  | setValue {id : String} {value : Json} :
      Changes s (.setValue id value)
        { s with variableTable := s.variableTable.modify id fun v => { v with value } }
  | bindProperty {id property target : String} :
      Changes s (.bindProperty id property target)
        { s with nodes := s.nodes.modify id fun n =>
          { n with bindings := n.bindings.insert property target } }
  | removeVariable {id : String} :
      Changes s (.removeVariable id)
        { s with
          variableTable := s.variableTable.erase id
          nodes := s.nodes.mapValues fun _ n =>
            { n with bindings := n.bindings.filter fun _ target => target != id } }

namespace Host

/-- A change of the scene that is refused, or what it is if it is not. -/
theorem scene_change (h : Host) {c : Call} {result : Except Failure Scene}
    (h_does : ∀ s', result = .ok s' → c.Changes h.scene s') :
    (h.change result).2.scene = h.scene ∨ c.Changes h.scene (h.change result).2.scene := by
  cases result with
  | error e => exact .inl rfl
  | ok s' => exact .inr (h_does s' rfl)

theorem scene_answer (h : Host) (c : Call) :
    (h.answer c).2.scene = h.scene ∨ c.Changes h.scene (h.answer c).2.scene := by
  cases c with
  | selection | node | mainComponent | instanceProperties | allReactions | collections
  | listVariables | storageGet => exact .inl rfl
  | storageSet | storageDelete => exact .inl (h.scene_answer_of_storage rfl)
  | close => exact .inr .close
  | createCollection name => exact .inr .createCollection
  | createVariable name collection type =>
    -- the answer carries the id, so this one is no plain change of the scene
    simp only [answer]
    split
    · rename_i id s' h_created
      obtain ⟨h_known, h_eq⟩ := Scene.createVariable_eq_ok_iff.mp h_created
      obtain ⟨rfl, rfl⟩ := Prod.mk.inj h_eq
      exact .inr (.createVariable h_known)
    · exact .inl rfl
  | setReactions id reactions =>
    refine h.scene_change fun s' h_ok => ?_
    obtain ⟨h_accepts, h_node, rfl⟩ := Scene.setReactions_eq_ok_iff.mp h_ok
    exact .setReactions h_node h_accepts
  | setValue id value =>
    refine h.scene_change fun s' h_ok => ?_
    obtain ⟨-, rfl⟩ := Scene.setValue_eq_ok_iff.mp h_ok
    exact .setValue
  | bindProperty id property target =>
    refine h.scene_change fun s' h_ok => ?_
    obtain ⟨-, -, -, rfl⟩ := Scene.bindProperty_eq_ok_iff.mp h_ok
    exact .bindProperty
  | removeVariable id =>
    refine h.scene_change fun s' h_ok => ?_
    obtain ⟨-, rfl⟩ := Scene.removeVariable_eq_ok_iff.mp h_ok
    exact .removeVariable

/-- **A call changes nothing of the scene, or what it is there to change.** -/
theorem scene_perform (h : Host) (c : Call) :
    (h.perform c).2.scene = h.scene ∨ c.Changes h.scene (h.perform c).2.scene := by
  obtain ⟨faults, -, h_eq | ⟨e, h_eq⟩⟩ := h.perform_cases c <;> rw [h_eq]
  · exact h.scene_answer c
  · exact .inl rfl

end Host

/-! ### What is set and what there is -/

/-- The type of a variable. -/
def Scene.type? (s : Scene) (id : String) : Option String :=
  (s.variableTable.find? id).map (·.type)

namespace Host

/-- **The reactions of a node after a call** are as before, or those that the call gives it. -/
theorem reactions_perform (h : Host) (c : Call) (node : String) :
    (h.perform c).2.scene.reactions node = h.scene.reactions node ∨
      ∃ reactions, c = .setReactions node reactions ∧
        (h.perform c).2.scene.reactions node = reactions := by
  have h_scene := h.scene_perform c
  generalize (h.perform c).2.scene = s' at h_scene ⊢
  rcases h_scene with rfl | h_changes
  · exact .inl rfl
  · cases h_changes with
    | close | createCollection | createVariable | setValue => exact .inl rfl
    | @setReactions id reactions h_node _ =>
      simp only [Scene.reactions, Registry.find?_modify]
      by_cases h_id : node = id
      · subst h_id
        obtain ⟨n, hn⟩ := Option.isSome_iff_exists.mp h_node
        refine .inr ⟨reactions, rfl, ?_⟩
        rw [if_pos rfl, hn]
        rfl
      · rw [if_neg h_id]
        exact .inl rfl
    | bindProperty =>
      simp only [Scene.reactions, Registry.find?_modify]
      refine .inl ?_
      split <;> simp [Option.map_map, Function.comp_def]
    | removeVariable =>
      refine .inl ?_
      simp only [Scene.reactions, Registry.find?_mapValues, Option.map_map, Function.comp_def]

/-- A query changes nothing of the scene. -/
theorem scene_perform_query (h : Host) {c : Call} (hc : c.method.mutates = false) :
    (h.perform c).2.scene = h.scene := by
  rcases h.scene_perform c with h_same | h_changes
  · exact h_same
  · generalize (h.perform c).2.scene = s' at h_changes
    cases h_changes <;> cases hc

/-- **What is set after a call** was set before, or the call says so. -/
theorem sets_perform (h : Host) {c : Call} {node target : String}
    (h_sets : (h.perform c).2.scene.Sets node target) : h.scene.Sets node target ∨
      ∃ reactions, c = .setReactions node reactions ∧ ∃ r ∈ reactions, target ∈ r.targets := by
  rcases h.reactions_perform c node with h_same | ⟨reactions, rfl, h_given⟩
  · exact .inl ((Scene.Sets.congr h_same).mp h_sets)
  · rw [Scene.Sets, h_given] at h_sets
    exact .inr ⟨reactions, rfl, h_sets⟩

/-- A node that is cleared and does not refuse it has no reactions. -/
theorem reactions_perform_clear {h : Host} (hs : h.Spares .setReactions)
    (h_accepts : h.scene.rejectingReactions = []) (node : String) :
    (h.perform (.setReactions node [])).2.scene.reactions node = [] := by
  rw [perform_of_spares hs]
  simp only [answer, Scene.setReactions, h_accepts, List.not_mem_nil, if_false]
  cases hn : h.scene.nodes.find? node with
  | none =>
    rw [if_neg (by simp [Registry.contains, hn])]
    exact Scene.reactions_of_find?_eq_none hn
  | some n =>
    rw [if_pos (by simp [Registry.contains, hn])]
    simp [change, Scene.reactions, Registry.find?_modify, hn]

/-- **The type of a variable after a call** is as before, unless the call removes or creates it. -/
theorem type?_perform (h : Host) (c : Call) (id : String) :
    (h.perform c).2.scene.type? id = h.scene.type? id ∨
      (c = .removeVariable id ∧ (h.perform c).2.scene.type? id = none) ∨
      ∃ name collection type, c = .createVariable name collection type ∧
        id = Scene.variableId h.scene.nextId ∧ (h.perform c).2.scene.type? id = some type := by
  have h_scene := h.scene_perform c
  generalize (h.perform c).2.scene = s' at h_scene ⊢
  rcases h_scene with rfl | h_changes
  · exact .inl rfl
  · cases h_changes with
    | close | createCollection | setReactions | bindProperty => exact .inl rfl
    | setValue =>
      refine .inl ?_
      simp only [Scene.type?, Registry.find?_modify]
      split <;> simp [Option.map_map, Function.comp_def]
    | @createVariable name collection type _ =>
      simp only [Scene.type?, Registry.find?_insert]
      by_cases h_id : Scene.variableId h.scene.nextId = id
      · rw [if_pos h_id]
        exact .inr (.inr ⟨name, collection, type, rfl, h_id.symm, rfl⟩)
      · rw [if_neg h_id]
        exact .inl rfl
    | @removeVariable id' =>
      simp only [Scene.type?, Registry.find?_erase]
      by_cases h_id : id' = id
      · subst h_id
        exact .inr (.inl ⟨rfl, by rw [if_pos rfl]; rfl⟩)
      · rw [if_neg h_id]
        exact .inl rfl

theorem nextId_perform (h : Host) (c : Call) :
    h.scene.nextId ≤ (h.perform c).2.scene.nextId := by
  have h_scene := h.scene_perform c
  generalize (h.perform c).2.scene = s' at h_scene ⊢
  rcases h_scene with rfl | h_changes
  · exact Nat.le_refl _
  · cases h_changes with
    | createCollection | createVariable => exact Nat.le_succ _
    | _ => exact Nat.le_refl _

/-- A variable that is not removed when it should be is still there. -/
theorem scene_perform_removeVariable {h : Host} {id : String} {e : Failure}
    (h_error : (h.perform (.removeVariable id)).1 = .error e) :
    (h.perform (.removeVariable id)).2.scene = h.scene := by
  obtain ⟨faults, -, h_eq | ⟨e, h_eq⟩⟩ := h.perform_cases (.removeVariable id)
  · rw [h_eq] at h_error ⊢
    simp only [answer, change] at h_error ⊢
    split at h_error
    · cases h_error
    · rfl
  · rw [h_eq]

/-- **A variable that is created** has the next id and the given type. -/
theorem perform_createVariable {h : Host} {name collection type id : String}
    (h_ok : (h.perform (.createVariable name collection type)).1 = .ok id) :
    id = Scene.variableId h.scene.nextId ∧
      (h.perform (.createVariable name collection type)).2.scene.type? id = some type := by
  obtain ⟨faults, -, h_eq | ⟨e, h_eq⟩⟩ := h.perform_cases (.createVariable name collection type)
  · rw [h_eq] at h_ok ⊢
    simp only [answer] at h_ok ⊢
    by_cases h_known : collection ∈ h.scene.collections.values
    · rw [Scene.createVariable_eq _ h_known] at h_ok ⊢
      obtain rfl := Except.ok.inj h_ok
      refine ⟨rfl, ?_⟩
      simp [Scene.type?, Registry.find?_insert_self]
    · rw [Scene.createVariable, if_neg h_known] at h_ok
      cases h_ok
  · rw [h_eq] at h_ok
    cases h_ok

/-! ### Changes of the storage -/

/-- **A call changes nothing of the storage**, or stores or deletes the text under a key. -/
theorem storage_perform (h : Host) (c : Call) :
    (h.perform c).2.storage = h.storage ∨
      (∃ key text, c = .storageSet key text ∧
        (h.perform c).2.storage = { h.storage with texts := h.storage.texts.insert key text }) ∨
      ∃ key, c = .storageDelete key ∧
        (h.perform c).2.storage = { h.storage with texts := h.storage.texts.erase key } := by
  obtain ⟨faults, -, h_eq | ⟨e, h_eq⟩⟩ := h.perform_cases c <;> rw [h_eq]
  · cases c with
    | storageSet key text =>
      simp only [answer, Storage.set, Storage.whenAvailable]
      split
      · exact .inl rfl
      · exact .inr (.inl ⟨key, text, rfl, rfl⟩)
    | storageDelete key =>
      simp only [answer, Storage.delete, Storage.whenAvailable]
      split
      · exact .inl rfl
      · exact .inr (.inr ⟨key, rfl, rfl⟩)
    | selection | node | mainComponent | instanceProperties | allReactions | collections
    | listVariables | storageGet | close | createCollection => exact .inl rfl
    | setReactions | createVariable | setValue | bindProperty | removeVariable =>
      simp only [answer, change]
      split <;> exact .inl rfl
  · exact .inl rfl

end Host

end Clickwork
