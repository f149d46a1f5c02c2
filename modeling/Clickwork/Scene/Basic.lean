import Clickwork.Json.Basic
import Clickwork.Reaction
import Clickwork.Registry.Basic

/-!
# Scenes

A scene holds a forest of nodes, the components that its instances are made of, and variables in
named collections. A node has static property values; a property may be bound to a variable and
then shows the variable's value as long as it has one.

Everything is kept in order of insertion. Ids of collections and variables are given out in
sequence, from one counter, and never twice.
-/

namespace Clickwork

/-- The kind of a property that a component declares. -/
structure Definition where
  kind : String
  options : List String := []
  deriving DecidableEq, Repr

/-- A property that selects among the components of a set. -/
def Definition.isVariant (d : Definition) : Bool :=
  d.kind == "VARIANT"

/-- **A family of components** with the properties it declares. -/
structure VariantSet where
  id : String
  name : String
  definitions : Registry String Definition

/-- A component as its instances see it; a standalone one belongs to no set. -/
structure Component where
  id : String
  name : String
  set : Option VariantSet

/-- A node as queries see it. -/
structure NodeInfo where
  id : String
  name : String
  kind : String
  children : List String
  deriving DecidableEq, Repr

/-- Whether the node is an instance of a component. -/
def NodeInfo.isInstance (n : NodeInfo) : Bool :=
  n.kind == "INSTANCE"

/-- A variable as queries see it. -/
structure VariableInfo where
  id : String
  name : String
  collection : String
  deriving DecidableEq, Repr

namespace Scene

/-- **A node of a scene.** -/
structure Node where
  name : String
  kind : String
  children : List String := []
  component : Option String := none
  /-- The static property values. -/
  properties : Registry String Json := ∅
  /-- The variables that properties are bound to. -/
  bindings : Registry String String := ∅
  reactions : List Reaction := []

/-- **A variable.** As long as its value is `null`, it has none. -/
structure Variable where
  name : String
  collection : String
  type : String
  value : Json := .null

/-- A component: its name and the id of the set it says it belongs to. -/
structure ComponentEntry where
  name : String
  set : Option String

/-- A variant set: its name and the properties it declares. -/
structure SetEntry where
  name : String
  definitions : Registry String Definition

end Scene

/-- **A scene with its variables.** -/
structure Scene where
  nodes : Registry String Scene.Node := ∅
  selection : List String := []
  components : Registry String Scene.ComponentEntry := ∅
  sets : Registry String Scene.SetEntry := ∅
  /-- The ids of the collections, by name. -/
  collections : Registry String String := ∅
  variableTable : Registry String Scene.Variable := ∅
  /-- The number that the next id gets. -/
  nextId : Nat := 1
  closed : Bool := false
  /-- The nodes that refuse to have a property bound. -/
  rejectingBindings : List String := []
  /-- The nodes that refuse reactions. -/
  rejectingReactions : List String := []

instance : Inhabited Scene := ⟨{}⟩

end Clickwork
