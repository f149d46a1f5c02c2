import Clickwork.Host.Method
import Clickwork.Scene.Basic

/-!
# Calls to the host

A `Call` is one request to the host with its arguments, and `Call.Answer` the type of what the host
answers if it does not refuse.
-/

namespace Clickwork

/-- **A request to the host.** -/
inductive Call where
  | selection
  | node (id : String)
  | mainComponent (id : String)
  | instanceProperties (id : String)
  | setReactions (id : String) (reactions : List Reaction)
  | allReactions
  | close
  | collections
  | createCollection (name : String)
  | createVariable (name collection type : String)
  | setValue (id : String) (value : Json)
  | bindProperty (id property target : String)
  | listVariables (collection : String)
  | removeVariable (id : String)
  | storageGet (key : String)
  | storageSet (key value : String)
  | storageDelete (key : String)

namespace Call

/-- The method that is called. -/
def method : Call → Method
  | selection => .selection
  | node _ => .node
  | mainComponent _ => .mainComponent
  | instanceProperties _ => .instanceProperties
  | setReactions .. => .setReactions
  | allReactions => .allReactions
  | close => .close
  | collections => .collections
  | createCollection _ => .createCollection
  | createVariable .. => .createVariable
  | setValue .. => .setValue
  | bindProperty .. => .bindProperty
  | listVariables _ => .listVariables
  | removeVariable _ => .removeVariable
  | storageGet _ => .storageGet
  | storageSet .. => .storageSet
  | storageDelete _ => .storageDelete

/-- **What the host answers to a call.** -/
@[reducible] def Answer : Call → Type
  | selection => List String
  | node _ => Option NodeInfo
  | mainComponent _ => Option Component
  | instanceProperties _ => Registry String Json
  | allReactions => Registry String (List Reaction)
  | collections => Registry String String
  | createCollection _ => String
  | createVariable .. => String
  | listVariables _ => List VariableInfo
  | storageGet _ => Option String
  | setReactions .. | close | setValue .. | bindProperty .. | removeVariable _ | storageSet .. |
    storageDelete _ => Unit

end Call

end Clickwork
