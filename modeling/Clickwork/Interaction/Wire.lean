import Clickwork.Failure
import Clickwork.Interaction.Basic
import Clickwork.Json.Writer

/-!
# Interactions as JSON values

The same form serves payloads and stored records. Writing gives the fields in a fixed order and
leaves out what is not there. Reading is lenient where the form allows it: vacant optional fields
count as missing, texts may be given as other values, and list elements that are no objects are
passed over.
-/

namespace Clickwork

/-! ### Rules -/

namespace Rule

/-- The JSON form of a rule. -/
def toJson (r : Rule) : Json :=
  .obj ([("id", .int r.id), ("condition", .str r.condition), ("action", .str r.action)] ++
    (r.target.map fun t => ("targetComponent", t)).toList)

/-- **Reads a rule.** A missing id is zero; a given one must stand for an integer. -/
def ofJson (data : Json) : Except Failure Rule :=
  match ((data.field? "id").getD (.int 0)).toInteger with
  | .error fault => .error (.numeral fault)
  | .ok id => .ok
    { id
      condition := Json.plainOrEmpty (data.field? "condition")
      action := Json.plainOrEmpty (data.field? "action")
      target :=
        match data.field? "targetComponent" with
        | some .null => none
        | target => target }

end Rule

/-! ### Nested actions -/

namespace NestedAction

/-- The JSON form of a nested action. -/
def toJson (a : NestedAction) : Json :=
  .obj [("targetGroupId", .str a.target), ("action", .str a.action)]

/-- **Reads a nested action.** The target goes by two names; the second counts only if the first is
not there at all. -/
def ofJson (data : Json) : Except Failure NestedAction :=
  let target := (data.field? "targetGroupId").or (data.field? "componentId")
  match target.bind Json.present? with
  | none => .error (.protocol .noTarget)
  | some target => .ok
    { target := target.plain, action := Json.plainOrEmpty (data.field? "action") }

end NestedAction

/-! ### Interactions -/

namespace Interaction

/-- The JSON form of an interaction; nested actions are left out if there are none. -/
def toJson (i : Interaction) : Json :=
  .obj ([("id", .str i.id), ("component", .str i.group), ("primaryAction", .str i.primaryAction),
      ("conditionalRules", .arr (i.rules.map Rule.toJson))] ++
    if i.nestedActions.isEmpty then []
    else [("nestedActions", .arr (i.nestedActions.map NestedAction.toJson))])

/-- The JSON text of an interaction. -/
def text (i : Interaction) : String :=
  i.toJson.text

/-- A field that must be there and not vacant, as running text. -/
def required (data : Json) (name : String) : Except Failure String :=
  match (data.field? name).bind Json.present? with
  | none => .error (.protocol (.missingField name))
  | some v => .ok v.plain

/-- The objects of a list field; a missing or vacant field is an empty list. -/
def objects (data : Json) (name : String) : Except Failure (List Json) :=
  match (data.field? name).bind Json.present? with
  | none => .ok []
  | some (.arr items) => .ok (items.filter fun item => item.kind = .obj)
  | some _ => .error (.protocol .notLists)

/-- **Reads an interaction.** -/
def ofJson (data : Json) : Except Failure Interaction := do
  unless data.kind = .obj do
    throw (.protocol (.notInteraction data.kind))
  let id ← required data "id"
  let group ← required data "component"
  let primaryAction ← required data "primaryAction"
  let rules ← objects data "conditionalRules"
  let nestedActions ← objects data "nestedActions"
  return {
    id, group, primaryAction
    rules := ← rules.mapM Rule.ofJson
    nestedActions := ← nestedActions.mapM NestedAction.ofJson }

end Interaction

end Clickwork
