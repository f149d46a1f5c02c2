/-!
# The methods of a host

A host offers queries and changes on its scene, on its variables and on its client storage. A
`Method` is the name of one of them, without arguments: failures are arranged for a method, runs are
suspended before a method, and a trace tells which methods with an effect were called.
-/

namespace Clickwork

/-- **A method of the host.** -/
inductive Method where
  | selection | node | mainComponent | instanceProperties | setReactions | allReactions | close
  | collections | createCollection | createVariable | setValue | bindProperty | listVariables
  | removeVariable
  | storageGet | storageSet | storageDelete
  deriving DecidableEq, Repr

namespace Method

/-- All methods. -/
def all : List Method :=
  [selection, node, mainComponent, instanceProperties, setReactions, allReactions, close,
   collections, createCollection, createVariable, setValue, bindProperty, listVariables,
   removeVariable, storageGet, storageSet, storageDelete]

/-- The name of a method, as messages and traces give it. -/
def name : Method → String
  | selection => "selection"
  | node => "node"
  | mainComponent => "main_component"
  | instanceProperties => "instance_properties"
  | setReactions => "set_reactions"
  | allReactions => "all_reactions"
  | close => "close"
  | collections => "collections"
  | createCollection => "create_collection"
  | createVariable => "create_variable"
  | setValue => "set_value"
  | bindProperty => "bind_property"
  | listVariables => "variables"
  | removeVariable => "remove_variable"
  | storageGet => "storage_get"
  | storageSet => "storage_set"
  | storageDelete => "storage_delete"

/-- The method of a name. -/
def ofName? (name : String) : Option Method :=
  all.find? fun m => m.name == name

/-- Whether the method changes the host. -/
def mutates : Method → Bool
  | setReactions | close | createCollection | createVariable | setValue | bindProperty
  | removeVariable | storageSet | storageDelete => true
  | _ => false

end Method

end Clickwork
