import Clickwork.Failure
import Clickwork.Scene.Basic

/-!
# Building scenes

The operations that lay out a scene. They are not available to a session, which only queries a scene
and changes its reactions and variables.
-/

namespace Clickwork.Scene

/-! ### Components -/

/-- Declares a variant set. -/
def addVariantSet (s : Scene) (id name : String) (definitions : Registry String Definition) :
    Scene :=
  { s with sets := s.sets.insert id { name, definitions } }

/-- Adds a component, which may say that it belongs to a set. -/
def addComponent (s : Scene) (id name : String) (set : Option String) : Scene :=
  { s with components := s.components.insert id { name, set } }

/-- Deletes a component. Its instances stay and no longer resolve. -/
def removeComponent (s : Scene) (id : String) : Scene :=
  { s with components := s.components.erase id }

/-! ### Nodes -/

/-- **Adds a node**, as the last child of `parent` if one is given. An id that is in use is
registered anew. An unknown parent is a failure, and the node is registered all the same. -/
def addNode (s : Scene) (id : String) (node : Node) (parent : Option String) :
    Except Failure Unit × Scene :=
  let s := { s with nodes := s.nodes.insert id node }
  -- the parent is looked up after that, so a node may be its own parent
  match parent with
  | none => (.ok (), s)
  | some parent =>
    if s.nodes.contains parent then
      let nodes := s.nodes.modify parent fun n => { n with children := n.children ++ [id] }
      (.ok (), { s with nodes })
    else (.error (.absentKey parent), s)

/-- Removes a node from the table of nodes. Its parent lists it still. -/
def dropNode (s : Scene) (id : String) : Except Failure Scene :=
  if s.nodes.contains id then .ok { s with nodes := s.nodes.erase id }
  else .error (.absentKey id)

/-- Selects nodes. -/
def select (s : Scene) (ids : List String) : Scene :=
  { s with selection := ids }

/-- **Overwrites a static value** and drops the binding of the property. -/
def setProperty (s : Scene) (id property : String) (value : Json) : Except Failure Scene :=
  if s.nodes.contains id then
    .ok { s with nodes := s.nodes.modify id fun n =>
      { n with
        properties := n.properties.insert property value
        bindings := n.bindings.erase property } }
  else .error (.absentKey id)

end Clickwork.Scene
