import Clickwork.Discovery
import Clickwork.Session.Records

/-!
# Analysing the selection

An analysis gathers the instances nested in the selected instance into groups, makes sure that the
collection of managed variables exists, and looks up the interactions on record for the groups. Its
result goes into the context of the session, unless another analysis has started since
(`Context.commit`).
-/

namespace Clickwork

/-- **The result of an analysis**. -/
structure Analysis where
  selectedName : String
  groups : List Group
  /-- The interactions on record, by group. -/
  existing : Registry String Interaction
  /-- Whether the session took the result over. -/
  current : Bool

namespace Analysis

/-- Starts an analysis and gives its token. -/
def begin : Program Session Int := do
  Session.modifyContext Context.beginAnalysis
  return (← Session.readContext).token

/-- The one selected instance. -/
def selectedInstance : Program Session NodeInfo := do
  match ← Program.ask .selection with
  | [id] =>
    match ← Program.ask (.node id) with
    | some node =>
      if node.isInstance then return node else Program.lift (.error (.selection .notInstance))
    | none => Program.lift (.error (.selection .notInstance))
  | _ => Program.lift (.error (.selection .notSingle))

/-- Takes a result over if the analysis is not stale, and tells whether it did. -/
def commit (token : Int) (selectedName : String) (groups : List Group) :
    Program Session Bool := do
  let context ← Session.readContext
  match context.commit token selectedName groups with
  | some context =>
    Session.modifyContext fun _ => context
    return true
  | none =>
    Program.log .debug s!"Dropping stale analysis {token} (current {context.token})"
    return false

/-- **Runs an analysis** that was started with the given token. Nothing is changed before the
selection has proved usable. -/
def run (token : Int) : Program Session Analysis := do
  let selected ← selectedInstance
  let nested ← Discovery.nestedInstances selected.id
  if nested.isEmpty then Program.lift (.error (.selection .nothingNested))
  let groups ← Discovery.groups nested
  let config ← Session.readConfig
  let _ ← Wiring.ensureCollection config.collection
  let existing ← Records.existing (groups.map (·.id))
  -- the host was asked meanwhile, so another analysis may have started
  let current ← commit token selected.name groups
  return { selectedName := selected.name, groups, existing, current }

/-- The JSON form of a result. -/
def toJson (a : Analysis) : Json :=
  .obj [("selectedInstance", .str a.selectedName),
    ("components", .arr (a.groups.map Group.toJson)),
    ("existingInteractions", .obj (a.existing.entries.map fun (group, i) => (group, i.toJson)))]

end Analysis

end Clickwork
