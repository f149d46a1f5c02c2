import Clickwork.Group
import Clickwork.Program.Basic

/-!
# Discovering groups

The instances nested in a container are found by walking through its descendants, parents before
children and siblings in scene order (`Discovery.nestedInstances`). They are then gathered into
groups (`Discovery.groups`): by variant set, or by component for a standalone component.
-/

namespace Clickwork

/-- The id and name of the family a component belongs to. -/
def Component.family (c : Component) : String × String :=
  match c.set with
  | some set => (set.id, set.name)
  | none => (c.id, c.name)

/-- The values that a property of an instance can take: the options of a variant property, and none
of any other. -/
def VariantSet.valuesOf (set : VariantSet) (property : String) : List String :=
  match set.definitions.find? property with
  | some definition => if definition.isVariant then definition.options else []
  | none => []

namespace Discovery

variable {σ : Type}

/-- **The instances below a container**, without the container. -/
def nestedInstances (container : String) : Program σ (List String) := do
  match ← Program.ask (.node container) with
  | none => return []
  | some node => Program.instancesBelow node.children

/-- Adds an instance to the group of its family. An instance whose component is gone is skipped. -/
def addInstance (groups : Registry String Group) (id : String) :
    Program σ (Registry String Group) := do
  match ← Program.ask (.mainComponent id) with
  | none =>
    Program.log .debug s!"Skipping {id}: main component not found"
    return groups
  | some component =>
    let (key, name) := component.family
    let node ← Program.ask (.node id)
    let group := ((groups.find? key).getD { id := key, name }).addInstance
      { id, name := (node.map (·.name)).getD "" }
    match component.set with
    | none => return groups.insert key group
    | some set =>
      let properties ← Program.ask (.instanceProperties id)
      return groups.insert key <|
        properties.keys.foldl (fun g property => g.addValues property (set.valuesOf property)) group

/-- **The groups of instances**, in the order in which their families first appear. -/
def groups (ids : List String) : Program σ (List Group) := do
  let groups ← ids.foldlM addInstance ∅
  return groups.values

end Discovery

end Clickwork
