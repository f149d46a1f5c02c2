import Clickwork.Json.Basic
import Clickwork.Registry.Basic

/-!
# Groups of instances

A group is a family of instances that share one component family: the instances of the components
of one variant set, or of one component that belongs to no set. `Group.properties` lists, for each
property its instances have, the values that the property can take; a property that is not a
variant lists none.
-/

namespace Clickwork

/-- An instance of a component, with its display name. -/
structure Instance where
  id : String
  name : String := ""
  deriving DecidableEq, Repr

/-- **Instances of one component family.** -/
structure Group where
  id : String
  name : String
  instances : List Instance := []
  properties : Registry String (List String) := ∅

namespace Group

/-- Appends the values that are not known yet, each once. -/
def mergeValues (known : List String) (values : List String) : List String :=
  values.foldl (fun known v => if v ∈ known then known else known ++ [v]) known

/-- **Adds values to a property**, which is listed from now on even if it has none. -/
def addValues (g : Group) (property : String) (values : List String) : Group :=
  let known := (g.properties.find? property).getD []
  { g with properties := g.properties.insert property (mergeValues known values) }

/-- Adds an instance. -/
def addInstance (g : Group) (i : Instance) : Group :=
  { g with instances := g.instances ++ [i] }

/-- The JSON form of a group. -/
def toJson (g : Group) : Json :=
  .obj [("id", .str g.id), ("name", .str g.name),
    ("instances", .arr (g.instances.map fun i => .obj [("id", .str i.id), ("name", .str i.name)])),
    ("states", .arr []),
    ("properties", .obj (g.properties.entries.map fun (p, vs) => (p, .arr (vs.map .str))))]

end Group

end Clickwork
