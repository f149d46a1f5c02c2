import Clickwork.Session.Records

/-!
# Authoring interactions

Authoring puts an interaction on record and wires it onto its group, and then does the same for each
of its nested actions on another group, whose own interaction gives way. The authoring guard is held
all the while and given back however authoring ends.
-/

namespace Clickwork.Authoring

/-- **Holds the authoring guard** during a program, and gives it back even if the program fails. -/
def guarded {α : Type} (p : Program Session α) : Program Session α := do
  let context ← Session.readContext
  let held ← Program.lift context.acquire
  Session.modifyContext fun _ => held
  let result ← p.attempt
  Session.modifyContext Context.release
  Program.lift result

/-- Puts an interaction on record and wires it onto a group. -/
def wire (collection : String) (i : Interaction) (g : Group) : Program Session Wiring := do
  Records.put i
  let _ ← Wiring.createMarkers collection i
  let config ← Session.readConfig
  Wiring.apply collection i g config

/-- **Carries out a nested action**, unless its target is unknown or the authored group itself. -/
def wireNested (collection : String) (i : Interaction) (g : Group) (action : NestedAction) :
    Program Session (Option Wiring) := do
  -- the groups are looked up now: a newer analysis may have replaced them
  match (← Session.readContext).group action.target with
  | .error _ =>
    Program.log .warning s!"Nested action targets unknown group {action.target}"
    return none
  | .ok target =>
    if target.id = g.id then
      Program.log .warning s!"Nested action on {g.name} targets its own group; skipped"
      return none
    else some <$> wire collection (i.nested action) target

/-- Authors an interaction while the guard is held. -/
def carryOut (i : Interaction) : Program Session Authoring := do
  let group ← Program.lift ((← Session.readContext).group i.group)
  if (Setting.parse? i.primaryAction).isNone then
    Program.lift (.error (.protocol (.notSetting i.primaryAction)))
  let config ← Session.readConfig
  let collection ← Wiring.ensureCollection config.collection
  let main ← wire collection i group
  let nested ← i.nestedActions.mapM (wireNested collection i group)
  return { interaction := i, group, main, nested := nested.filterMap id }

/-- **Authors an interaction.** -/
def run (i : Interaction) : Program Session Authoring :=
  guarded (carryOut i)

end Clickwork.Authoring
