import Clickwork.Json.Basic

/-!
# Reactions

A reaction is what a node does when it is triggered: it assigns values to variables, all as one
batch.
-/

namespace Clickwork

/-- The assignment of a text to a variable. -/
structure Assignment where
  target : String
  value : String
  deriving DecidableEq, Repr

/-- The JSON form of an assignment. -/
def Assignment.toJson (a : Assignment) : Json :=
  .obj [("type", .str "SET_VARIABLE"), ("variableId", .str a.target),
    ("variableValue", .obj [("resolvedType", .str "STRING"), ("type", .str "STRING"),
      ("value", .str a.value)])]

/-- **What a node does when it is triggered.** -/
structure Reaction where
  actions : List Assignment := []
  trigger : String := "ON_CLICK"
  deriving DecidableEq, Repr

namespace Reaction

/-- The variables a reaction sets, in order. -/
def targets (r : Reaction) : List String :=
  r.actions.map (·.target)

/-- Whether a click triggers the reaction. -/
def onClick (r : Reaction) : Bool :=
  r.trigger == "ON_CLICK"

/-- The JSON form of a reaction. -/
def toJson (r : Reaction) : Json :=
  .obj [("trigger", .obj [("type", .str r.trigger)]),
    ("actions", .arr (r.actions.map Assignment.toJson))]

end Reaction

end Clickwork
