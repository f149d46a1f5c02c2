import Clickwork.Interaction.Wire
import Clickwork.Session.Basic

/-!
# Interactions on record

Each group has at most one interaction on record, in memory and in the client storage. A new one
retires the one before it: the variables it owned are removed, and reactions that set them are
cleared. A variable belongs to the interaction whose id its name begins with; so do the variables
and records of nested interactions.

Failures of the storage are logged and otherwise ignored.

* `Records.retire` removes what an interaction owns;
* `Records.get`, `Records.put` read and replace the interaction of a group;
* `Records.sweep` removes the variables that no reaction sets;
* `Records.purge` forgets interactions without touching variables and reactions.
-/

namespace Clickwork.Records

/-- Whether a name or id belongs to the interaction of the given id. -/
def ownedBy (interaction name : String) : Bool :=
  (Interaction.ownPrefix interaction).toList.isPrefixOf name.toList

/-- The id of the collection of managed variables, if there is one. -/
def collection? : Program Session (Option String) := do
  let config ← Session.readConfig
  return (← Program.ask .collections).find? config.collection

/-- Forgets the record of a group in memory. -/
def forget (group : String) : Program Session Unit :=
  Program.modify fun s => { s with records := s.records.erase group }

/-- Keeps the record of a group in memory. -/
def keep (group : String) (i : Interaction) : Program Session Unit :=
  Program.modify fun s => { s with records := s.records.insert group i }

/-! ### Retiring -/

/-- **Forgets the record of a group**, in memory and in the storage. -/
def drop (group : String) : Program Session Unit := do
  forget group
  let config ← Session.readConfig
  match ← Program.tryAsk (.storageDelete (config.storageKey group)) with
  | .ok () => return ()
  | .error e => Program.log .error s!"Error deleting interaction record for {group}" (some e)

/-- Removes a variable, and tells whether it is gone. A failure is logged with the variable's name
as `display` shows it. -/
def remove (display : String → String) (v : VariableInfo) : Program Session Bool := do
  match ← Program.tryAsk (.removeVariable v.id) with
  | .ok () => return true
  | .error e =>
    Program.log .error s!"Failed to remove variable {display v.name}" (some e)
    return false

/-- Clears the reactions of a node that sets one of the variables. -/
def detachNode (removed : List String) (entry : String × List Reaction) :
    Program Session Unit := do
  let (node, reactions) := entry
  if reactions.any fun r => r.targets.any (removed.contains ·) then
    match ← Program.tryAsk (.setReactions node []) with
    | .ok () => return ()
    | .error e => Program.log .error s!"Failed to clear reactions on {node}" (some e)

/-- **Clears the reactions of every node** that sets one of the variables. -/
def detach (removed : List String) : Program Session Unit := do
  let reactions ← Program.ask .allReactions
  reactions.entries.forM (detachNode removed)

/-- Keeps the elements for which a step says so. -/
def filterBy {α : Type} (step : α → Program Session Bool) : List α → Program Session (List α)
  | [] => return []
  | a :: rest => do
    let kept ← step a
    let others ← filterBy step rest
    return if kept then a :: others else others

/-- Drops the records of the interactions nested in one. -/
def dropNested (interaction : String) : Program Session Unit := do
  let records := (← Program.read).records
  (records.filter fun _ record => ownedBy interaction record.id).keys.forM drop

/-- **Retires an interaction**: drops the records of the interactions nested in it, removes its
variables and clears the reactions that set them. The result counts the removed variables. -/
def retire (interaction : String) : Program Session Nat := do
  dropNested interaction
  match ← collection? with
  | none => return 0
  | some collection =>
    let managed ← Program.ask (.listVariables collection)
    -- the variables go first: what is still set afterwards is found by their ids
    let removed ← filterBy (remove id) (managed.filter fun v => ownedBy interaction v.name)
    unless removed.isEmpty do
      detach (removed.map (·.id))
    return removed.length

/-! ### Reading and replacing -/

/-- The interaction that a stored text holds. -/
def parse (limits : Json.Limits) (stored : String) : Except Failure Interaction :=
  match Json.read limits stored with
  | .error (.flawed fault) => .error (.unreadable fault)
  | .error (.overrun o) => .error (.overrun o)
  | .ok data => Interaction.ofJson data

/-- Whether a failure to read a stored text only means that the text is discarded. -/
def discards : Failure → Bool
  | .unreadable _ | .protocol _ => true
  | _ => false

/-- The stored text of a group. An empty text is none. -/
def stored? (group : String) : Program Session (Option String) := do
  let config ← Session.readConfig
  match ← Program.tryAsk (.storageGet (config.storageKey group)) with
  | .ok text => return text.filter (!·.isEmpty)
  | .error e =>
    Program.log .error "Error retrieving interaction data" (some e)
    return none

/-- **The interaction of a group**: the one in memory, or else the stored one, which is kept in
memory from then on. A stored text that holds no interaction is discarded. -/
def get (group : String) : Program Session (Option Interaction) := do
  match (← Program.read).records.find? group with
  | some record => return some record
  | none =>
    match ← stored? group with
    | none => return none
    | some text =>
      match parse (← Session.readConfig).limits text with
      | .ok i =>
        keep group i
        return some i
      | .error e =>
        -- a rule id that stands for no integer is not passed over, nor is a text that is too
        -- large: the caller learns of it
        if discards e then
          Program.log .error s!"Discarding unreadable interaction record for {group}" (some e)
          return none
        else Program.lift (.error e)

/-- The stored interactions of the groups that have one. -/
def existing (groups : List String) : Program Session (Registry String Interaction) :=
  groups.foldlM (fun found group => do
    match ← get group with
    | some i => return found.insert group i
    | none => return found) ∅

/-- **Puts an interaction on record.** The group's previous one is retired first; so is the
interaction's own id, so that authoring it again starts from nothing. -/
def put (i : Interaction) : Program Session Unit := do
  match ← get i.group with
  | none => pure ()
  | some previous =>
    if previous.id ≠ i.id then
      let removed ← retire previous.id
      Program.log .debug s!"Retired {previous.id}: {removed} variables removed"
  -- an interaction that is authored again owns variables under the id it still has
  let _ ← retire i.id
  keep i.group i
  let config ← Session.readConfig
  match ← Program.tryAsk (.storageSet (config.storageKey i.group) i.text) with
  | .ok () => return ()
  | .error e => Program.log .error "Error storing interaction data" (some e)

/-! ### Cleaning up -/

/-- The variables that some reaction sets. -/
def inUse (reactions : Registry String (List Reaction)) : List String :=
  reactions.values.flatMap fun rs => rs.flatMap (·.targets)

/-- **Removes the managed variables that no reaction sets**, and counts them. -/
def sweep : Program Session Nat := do
  match ← collection? with
  | none => return 0
  | some collection =>
    let managed ← Program.ask (.listVariables collection)
    if managed.isEmpty then return 0
    let reactions ← Program.ask .allReactions
    let orphans := managed.filter fun v => !(inUse reactions).contains v.id
    let removed ← filterBy (remove Text.quoted) orphans
    Program.log .info s!"Removed {removed.length} orphaned variables"
    return removed.length

/-- Forgets the records of groups, in memory and in the storage, one after the other. -/
def purgeAll (groups : List String) : Program Session Unit :=
  groups.forM fun group => do
    forget group
    let config ← Session.readConfig
    Program.ask (.storageDelete (config.storageKey group))

/-- **Forgets the records of groups.** The first failure of the storage ends it. -/
def purge (groups : List String) : Program Session Unit := do
  match ← (purgeAll groups).attempt with
  | .ok () => return ()
  | .error e => Program.log .error "Error cleaning up stored interactions" (some e)

end Clickwork.Records
