import Clickwork.Json.Text

/-!
# Interactions

An interaction says what a click on an instance of a group does. Its primary action is the setting
the clicked instance takes; its rules say what becomes of the siblings; its nested actions drive
other groups from the same click.

A nested action is carried out as an interaction of its own, whose id begins with the id of the
interaction it belongs to (`Interaction.nested`), so that retiring the latter by its id retires
both.
-/

namespace Clickwork

/-- **A rule about siblings**: a sibling that shows the value of `condition` takes the value of
`action`. Both are texts of settings, and the action may instead be a reset token. -/
structure Rule where
  id : Int
  condition : String
  action : String
  /-- Carried along for whoever wrote the rule. -/
  target : Option Json := none
  deriving BEq

/-- **An action on another group.** -/
structure NestedAction where
  target : String
  action : String
  deriving DecidableEq, Repr

/-- **What a click on an instance of a group does.** -/
structure Interaction where
  id : String
  group : String
  primaryAction : String
  rules : List Rule := []
  nestedActions : List NestedAction := []
  deriving BEq

namespace Interaction

/-- A new id for an interaction on a group: the group's id and a time stamp. -/
def freshId (group : String) (stamp : Json) : String :=
  s!"{group}_{stamp.plain}"

/-- An id taken apart at its last underscore. -/
def splitId (id : String) : String × String :=
  let stamp := (id.toList.reverse.takeWhile (· != '_')).reverse
  let group := (id.toList.reverse.dropWhile (· != '_')).tail.reverse
  (String.ofList group, String.ofList stamp)

/-- What the names of all variables of an interaction begin with, and the ids of the interactions
nested in it. -/
def ownPrefix (id : String) : String :=
  id ++ "_"

/-- **A nested action as an interaction of its own**, a single transition on the target group. -/
def nested (parent : Interaction) (action : NestedAction) : Interaction where
  id := s!"{parent.id}_nested_{action.target}"
  group := action.target
  primaryAction := action.action

end Interaction

end Clickwork
