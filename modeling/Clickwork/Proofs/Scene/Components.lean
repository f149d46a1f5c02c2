import Clickwork.Discovery
import Clickwork.Scene.Query
import Mathlib.Data.Option.Basic
import Mathlib.Tactic.Common

/-!
# Components and their variant sets

A component belongs to at most one variant set, the one that the scene has under the id it gives
(`Scene.set?_of_mainComponent?`). The family of an instance is the variant set of its component, or the
component itself if that is standalone (`Discovery.family?`). The two kinds of families are told apart
by their ids only as long as no standalone component shares its id with a variant set
(`Scene.SetsApart`).
-/

namespace Clickwork

/-! ### Sets -/

namespace Scene

variable {t : Scene} {node id : String} {c : Component} {set : VariantSet}

/-- **The variant set of a node**, if it is an instance whose component is there and belongs to
one. -/
def variantSet? (t : Scene) (node : String) : Option VariantSet :=
  (t.mainComponent? node).bind (·.set)

theorem id_of_set? (h_set : t.set? id = some set) : set.id = id := by
  rw [set?] at h_set
  split at h_set
  · cases h_set
  · obtain ⟨entry, -, rfl⟩ := Option.map_eq_some_iff.mp h_set
    rfl

/-- A component is listed, under its id and with the set that it belongs to. -/
theorem mainComponent?_eq_some (h_component : t.mainComponent? node = some c) :
    ∃ entry, t.components.find? c.id = some entry ∧ c.set = entry.set.bind t.set? := by
  simp only [mainComponent?, Option.bind_eq_bind, Option.bind_eq_some_iff, Option.pure_def,
    Option.some.injEq] at h_component
  obtain ⟨n, -, component, -, entry, h_entry, rfl⟩ := h_component
  exact ⟨entry, h_entry, rfl⟩

/-- The set of a component is the one that the scene has under its id. -/
theorem set?_of_mainComponent? (h_component : t.mainComponent? node = some c)
    (h_set : c.set = some set) : t.set? set.id = some set := by
  obtain ⟨entry, -, h_entry⟩ := mainComponent?_eq_some h_component
  obtain ⟨id, -, h_found⟩ := Option.bind_eq_some_iff.mp (h_entry.symm.trans h_set)
  rwa [id_of_set? h_found]

end Scene

/-! ### Families -/

namespace Discovery

/-- **The family of a node**, if it is an instance whose component is there. -/
def family? (t : Scene) (node : String) : Option String :=
  (t.mainComponent? node).map (·.family.1)

variable {t : Scene} {id : String} {c : Component} {set : VariantSet}

theorem family?_of_mainComponent? (h_component : t.mainComponent? id = some c) :
    family? t id = some c.family.1 := by
  rw [family?, h_component, Option.map_some]

theorem family_of_set (h_set : c.set = some set) : c.family.1 = set.id := by
  rw [Component.family, h_set]

theorem family_of_standalone (h_set : c.set = none) : c.family.1 = c.id := by
  rw [Component.family, h_set]

/-- An instance whose component belongs to a variant set is of the family of that set. -/
theorem family?_of_variantSet? (h_set : t.variantSet? id = some set) :
    family? t id = some set.id ∧ t.set? set.id = some set := by
  obtain ⟨c, h_component, h_set⟩ := Option.bind_eq_some_iff.mp h_set
  exact ⟨by rw [family?_of_mainComponent? h_component, family_of_set h_set],
    Scene.set?_of_mainComponent? h_component h_set⟩

end Discovery

namespace Scene

/-- **No standalone component shares its id with a variant set.** -/
def SetsApart (t : Scene) : Prop :=
  ∀ c ∈ t.components.entries, c.2.set.bind t.set? = none → t.set? c.1 = none

instance (t : Scene) : Decidable t.SetsApart :=
  inferInstanceAs (Decidable (∀ c ∈ t.components.entries, _ → _))

/-- The variant set of an instance is then the one that its family is named after. -/
theorem SetsApart.variantSet? {t : Scene} (h_apart : t.SetsApart) {node family : String}
    (h_family : Discovery.family? t node = some family) : t.variantSet? node = t.set? family := by
  obtain ⟨c, h_component, rfl⟩ := Option.map_eq_some_iff.mp h_family
  rw [Scene.variantSet?, h_component, Option.bind_some]
  cases h_set : c.set with
  | some set => rw [Discovery.family_of_set h_set, set?_of_mainComponent? h_component h_set]
  | none =>
    obtain ⟨entry, h_entry, h_none⟩ := mainComponent?_eq_some h_component
    rw [Discovery.family_of_standalone h_set,
      h_apart (c.id, entry) (Entries.mem_of_find? h_entry) (h_none ▸ h_set)]

end Scene

end Clickwork
