import Clickwork.Scene.Query

/-!
# Changes to scenes

The changes a session may make: reactions, collections, variables and bindings. Each says by its
failure why it is refused, and a refused change leaves the scene as it is.

`Scene.click` is what the user does: it runs the reactions of a node as one batch.
-/

namespace Clickwork.Scene

/-! ### Reactions -/

/-- **Replaces the reactions of a node.** -/
def setReactions (s : Scene) (id : String) (reactions : List Reaction) : Except Failure Scene :=
  if id ∈ s.rejectingReactions then .error (.host (.reactionsRejected id))
  else if s.nodes.contains id then
    .ok { s with nodes := s.nodes.modify id fun n => { n with reactions } }
  else .error (.host (.noNode id))

/-- Closes the panel. -/
def close (s : Scene) : Scene :=
  { s with closed := true }

/-! ### Collections and variables -/

/-- **Creates a collection.** A name that is in use gets the new id; the collection that had the
name before is no longer found by it. -/
def createCollection (s : Scene) (name : String) : String × Scene :=
  let id := s!"VariableCollectionId:{s.nextId}"
  (id, { s with collections := s.collections.insert name id, nextId := s.nextId + 1 })

/-- **Creates a variable** without a value in a collection that exists. -/
def createVariable (s : Scene) (name collection type : String) : Except Failure (String × Scene) :=
  if collection ∈ s.collections.values then
    let id := s!"VariableID:{s.nextId}"
    .ok (id,
      { s with
        variableTable := s.variableTable.insert id { name, collection, type }
        nextId := s.nextId + 1 })
  else .error (.host (.noCollection collection))

/-- Gives a variable a value. -/
def setValue (s : Scene) (id : String) (value : Json) : Except Failure Scene :=
  if s.variableTable.contains id then
    .ok { s with variableTable := s.variableTable.modify id fun v => { v with value } }
  else .error (.host (.noVariable id))

/-- **Binds a property of a node to a variable.** -/
def bindProperty (s : Scene) (id property target : String) : Except Failure Scene :=
  if id ∈ s.rejectingBindings then .error (.host (.bindingRejected id property))
  else if ((s.nodes.find? id).map (·.properties.contains property)) ≠ some true then
    .error (.host (.noProperty id property))
  else if s.variableTable.contains target then
    .ok { s with nodes := s.nodes.modify id fun n =>
      { n with bindings := n.bindings.insert property target } }
  else .error (.host (.noVariable target))

/-- **Removes a variable** and every binding to it. -/
def removeVariable (s : Scene) (id : String) : Except Failure Scene :=
  if s.variableTable.contains id then
    .ok
      { s with
        variableTable := s.variableTable.erase id
        nodes := s.nodes.mapValues fun _ n =>
          { n with bindings := n.bindings.filter fun _ target => target != id } }
  else .error (.host (.noVariable id))

/-! ### Clicks -/

/-- The assignments of a click on a node with these reactions; of several to one variable the last
counts. -/
def clickBatch (reactions : List Reaction) : Registry String String :=
  Registry.ofList <| (reactions.filter (·.onClick)).flatMap fun r =>
    r.actions.map fun a => (a.target, a.value)

/-- Gives every variable of a batch that exists its value. -/
def assignAll (s : Scene) (batch : Registry String String) : Scene :=
  { s with variableTable := s.variableTable.mapValues fun id v =>
    match batch.find? id with
    | some value => { v with value := .str value }
    | none => v }

/-- **Clicks a node.** -/
def click (s : Scene) (id : String) : Except Failure Scene :=
  match s.nodes.find? id with
  | none => .error (.absentKey id)
  | some n => .ok (s.assignAll (clickBatch n.reactions))

end Clickwork.Scene
