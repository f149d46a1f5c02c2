import Clickwork.Config
import Clickwork.Group
import Clickwork.Interaction.Basic
import Clickwork.Resolution
import Clickwork.Scene.Query
import Clickwork.Targets.Slots

/-!
# Wiring

Wiring an interaction onto its group makes clicks do what the interaction says. Each instance gets a
variable that holds its state, with its present value, and is bound to it; each instance then gets a
reaction that sets the variables as the target table says.

A failure with one instance is logged and does not keep the others from being wired: an instance
without a variable is left out of the reactions, one that refuses the binding keeps its static
value, one that refuses reactions keeps those it has.
-/

namespace Clickwork

/-- **What wiring an interaction came to.** -/
structure Wiring where
  interaction : String
  group : String
  /-- The declared name of the primary property, if it applies to the group. -/
  property : Option String
  table : Option TargetTable
  slots : Option (List Slot)
  /-- How many instances got their reaction. -/
  installed : Nat

namespace Wiring

variable {σ : Type}

/-! ### Collections and markers -/

/-- **The collection of a name**, created if there is none. -/
def ensureCollection (name : String) : Program σ String := do
  match (← Program.ask .collections).find? name with
  | some id => return id
  | none => Program.ask (.createCollection name)

/-- The names of the variables that mark an interaction and its rules. -/
def markerNames (i : Interaction) : List String :=
  s!"{i.id}_primary" :: (List.range i.rules.length).map fun n => s!"{i.id}_conditional_{n}"

/-- Creates a marker, switched off. -/
def createMarker (collection name : String) : Program σ String := do
  let id ← Program.ask (.createVariable name collection "BOOLEAN")
  Program.ask (.setValue id (.bool false))
  return id

/-- **Creates the markers of an interaction.** -/
def createMarkers (collection : String) (i : Interaction) : Program σ (List String) :=
  (markerNames i).mapM (createMarker collection)

/-! ### State variables -/

/-- The name of the state variable of an instance. -/
def variableName (interaction : String) (index : Int) (property : String) : String :=
  s!"{interaction}_instance_{index}_{property}"

/-- **What the instances show on a property**, as texts. A value that counts as absent is empty, and
so is one that cannot be read. -/
def readValue (property : String) (i : Instance) : Program σ String := do
  match ← Program.tryAsk (.instanceProperties i.id) with
  | .error e =>
    Program.log .error s!"Failed to read {Text.quoted property} on {i.id}" (some e)
    return ""
  | .ok properties =>
    match (properties.find? property).bind Json.present? with
    | none => return ""
    | some raw => return raw.shown

/-- Creates the state variable of an instance with its value. -/
def createState (collection name : String) (captured : Option String) : Program σ String := do
  let id ← Program.ask (.createVariable name collection "STRING")
  -- without a captured value the variable stays, and nothing refers to it
  let value ← Program.lift (captured.elim (.error .pastList) .ok)
  Program.ask (.setValue id (.str value))
  return id

/-- What is needed to name and place the state variables of a group. -/
structure Plan where
  collection : String
  interaction : String
  /-- The declared name of the property, which is bound. -/
  property : String
  /-- The property as the interaction writes it, which names the variables. -/
  authored : String

/-- **Prepares the slot of one instance**: a variable with its captured value, bound to it. -/
def fillSlot (plan : Plan) (captured : List String) (entry : Instance × Nat) :
    Program σ Slot := do
  let (i, index) := entry
  let name := variableName plan.interaction index plan.authored
  match ← (createState plan.collection name captured[index]?).attempt with
  | .error e =>
    Program.log .error s!"Failed to create variable {name}" (some e)
    return .vacant
  | .ok id =>
    match ← Program.tryAsk (.bindProperty i.id plan.property id) with
    | .ok () => return .bound id
    | .error e =>
      Program.log .error s!"Failed to bind variable to instance {index + 1} ({i.id})" (some e)
      return .unbound id

/-- **Prepares the slots of a group.** -/
def fillSlots (plan : Plan) (instances : List Instance) (captured : List String) :
    Program σ (List Slot) :=
  instances.zipIdx.mapM (fillSlot plan captured)

/-! ### Reactions -/

/-- Clears the reactions of an instance. -/
def clear (entry : Instance × Nat) : Program σ Unit := do
  match ← Program.tryAsk (.setReactions entry.1.id []) with
  | .ok () => return ()
  | .error e =>
    Program.log .error s!"Failed to clear reactions on instance {entry.2 + 1}" (some e)

/-- Installs the reaction of an instance, and tells whether it was accepted. -/
def installOne (entry : Instance × Reaction) : Program σ Bool := do
  let (i, reaction) := entry
  match ← Program.tryAsk (.setReactions i.id [reaction]) with
  | .ok () => return true
  | .error e =>
    let shown := if i.name.isEmpty then i.id else i.name
    Program.log .error s!"Failed to apply reaction to {shown}" (some e)
    return false

/-- **Installs reactions on a group**: all instances are cleared before the first gets its new
reaction. The result counts the reactions that were accepted. -/
def install (instances : List Instance) (reactions : List Reaction) : Program σ Nat := do
  instances.zipIdx.forM clear
  let installed ← (instances.zip reactions).mapM installOne
  return installed.count true

/-! ### Wiring -/

/-- The table and slots of a group on which the primary property resolves. Values are read twice:
before anything is bound, and again when everything is. -/
def prepare (collection : String) (i : Interaction) (g : Group) (config : Config)
    (primary : Setting) (property : String) : Program σ (TargetTable × List Slot) := do
  let captured ← g.instances.mapM (readValue property)
  let plan :=
    { collection, interaction := i.id, property, authored := primary.property : Plan }
  let slots ← fillSlots plan g.instances captured
  -- a bound instance now shows its variable, which holds what was captured
  let shown ← g.instances.mapM (readValue property)
  let table ← Program.lift <|
    TargetTable.compile i.rules ⟨property, primary.value⟩ captured shown config.resetToken
  return (table, slots)

/-- **Wires an interaction onto a group.** If its primary property does not apply to the group,
every instance gets a reaction that does nothing. -/
def apply (collection : String) (i : Interaction) (g : Group) (config : Config) :
    Program σ Wiring := do
  let primary := Setting.parse? i.primaryAction
  let property ← match primary with
    | none => pure none
    | some primary => Resolution.property primary.property g.instances
  let prepared ← match primary, property with
    | some primary, some property =>
      some <$> prepare collection i g config primary property
    | _, _ => do
      let action := Text.quoted i.primaryAction
      Program.log .info
        s!"No variant property for {action} on {g.name}; installing inert reactions"
      pure none
  let table := prepared.map Prod.fst
  let slots := prepared.map Prod.snd
  let reactions ← Program.lift (Reaction.build table slots g.instances.length)
  let installed ← install g.instances reactions
  return { interaction := i.id, group := g.id, property, table, slots, installed }

end Wiring

end Clickwork
