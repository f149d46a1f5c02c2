import Clickwork.Failure
import Clickwork.Json.Text
import Clickwork.Scene.Basic

/-!
# Queries on scenes

What a scene answers about its nodes and variables. `Json.shown` is the text that a raw property
value is shown as, and `Scene.shownValue` the text that a property of a node shows, through its
binding if it has one.
-/

namespace Clickwork

/-! ### Raw values as texts -/

namespace Json

/-- The field that carries the text of a structured value: `value`, or else `name`. -/
def carrier? (v : Json) : Option Json :=
  (v.field? "value").or (v.field? "name")

/-- **The text a raw property value is shown as.** A structured value is shown by the field that
carries its text, if it has one. -/
def shown (v : Json) : String :=
  match v.carrier? with
  | some carried => carried.plain
  | none => if v.kind = .null then "" else v.plain

/-- The text a property without a value is shown as is empty. -/
def shownOrEmpty (v : Option Json) : String :=
  (v.getD .null).shown

end Json

namespace Scene

/-! ### Nodes -/

/-- A node by its id. -/
def node? (s : Scene) (id : String) : Option NodeInfo :=
  (s.nodes.find? id).map fun n => { id, name := n.name, kind := n.kind, children := n.children }

/-- A variant set by its id. -/
def set? (s : Scene) (id : String) : Option VariantSet :=
  if id.isEmpty then none
  else (s.sets.find? id).map fun e => { id, name := e.name, definitions := e.definitions }

/-- **The component of an instance**, if it is still there. -/
def mainComponent? (s : Scene) (id : String) : Option Component := do
  let node ← s.nodes.find? id
  let component ← node.component
  let entry ← s.components.find? component
  return { id := component, name := entry.name, set := entry.set.bind s.set? }

/-- The value of a variable that has one. -/
def variableValue? (s : Scene) (id : String) : Option Json :=
  (s.variableTable.find? id).bind fun v => if v.value.kind = .null then none else some v.value

/-- **The raw property values of a node.** A bound property has the value of its variable, as long
as that has one. -/
def instanceProperties (s : Scene) (id : String) : Except Failure (Registry String Json) :=
  match s.nodes.find? id with
  | none => .error (.host (.noNode id))
  | some n => .ok <| n.bindings.entries.foldl
      (fun values (property, target) =>
        match s.variableValue? target with
        | some value => values.insert property value
        | none => values)
      n.properties

/-- **The text that a property of a node shows**, through its binding if it has one. -/
def shownValue (s : Scene) (id property : String) : Except Failure String :=
  match s.nodes.find? id with
  | none => .error (.absentKey id)
  | some n => .ok <|
    match (n.bindings.find? property).bind s.variableValue? with
    | some value => value.shown
    | none => Json.shownOrEmpty (n.properties.find? property)

/-- The variable that a property of a node is bound to. -/
def binding (s : Scene) (id property : String) : Except Failure (Option String) :=
  match s.nodes.find? id with
  | none => .error (.absentKey id)
  | some n => .ok (n.bindings.find? property)

/-! ### Reactions -/

/-- The reactions of a node. -/
def reactions (s : Scene) (id : String) : List Reaction :=
  ((s.nodes.find? id).map (·.reactions)).getD []

/-- **The reactions of all nodes** that have any. -/
def allReactions (s : Scene) : Registry String (List Reaction) :=
  (s.nodes.filter fun _ n => !n.reactions.isEmpty).mapValues fun _ n => n.reactions

/-! ### Variables -/

/-- The variables of a collection. -/
def variablesOf (s : Scene) (collection : String) : List VariableInfo :=
  (s.variableTable.entries.filter fun (_, v) => v.collection == collection).map fun (id, v) =>
    { id, name := v.name, collection := v.collection }

/-- The names of all variables. -/
def variableNames (s : Scene) : List String :=
  s.variableTable.values.map (·.name)

/-- The value of a variable, `null` if it has none yet. -/
def variableValue (s : Scene) (id : String) : Except Failure Json :=
  match s.variableTable.find? id with
  | none => .error (.absentKey id)
  | some v => .ok v.value

end Scene

end Clickwork
