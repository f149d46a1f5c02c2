import Clickwork.Session.Analysis
import Clickwork.Session.Authoring

/-!
# Handling messages

`Session.dispatch` handles one inbound message, and `Session.selectionChanged` the host's notice of
a new selection. Neither ever fails: a failure is logged and told to the user in an `error`
envelope. What was posted is sent when the entry point is left.

A closed session ignores messages and notices.
-/

namespace Clickwork

/-- **An inbound message**, decoded or not. -/
inductive Inbound where
  | raw (message : Json)
  | envelope (e : Envelope)

/-- The envelope of an inbound message. -/
def Inbound.toEnvelope (limits : Json.Limits) : Inbound → Except Failure Envelope
  | raw message => Envelope.decode limits message
  | envelope e => .ok e

namespace Session

/-! ### Handlers -/

/-- **Analyses the selection** and tells the user the result. A stale analysis tells nothing,
whether it succeeds or fails. -/
def analyse : Program Session Unit := do
  let token ← Analysis.begin
  match ← (Analysis.run token).attempt with
  | .ok analysis =>
    if analysis.current then post { type := "init-success", data := analysis.toJson }
  | .error e =>
    if (← readContext).isCurrent token then report "Initialization failed" e
    else Program.log .debug s!"Stale analysis failed: {e.message}"

/-- Authors the interaction of a payload. -/
def author (payload : Json) : Program Session Unit := do
  let authoring : Program Session Authoring := do
    Authoring.run (← Program.lift (Interaction.ofJson payload))
  match ← authoring.attempt with
  | .error e => report "Failed to create interaction" e
  | .ok result =>
    Program.modify fun s => { s with lastAuthoring := some result }
    let name := if result.group.name.isEmpty then "Unknown Component" else result.group.name
    post
      { type := "interaction-created"
        message := some s!"Interaction created successfully for {name}" }

/-- Tells the user the groups of the context. -/
def listComponents : Program Session Unit := do
  let groups := (← readContext).groups
  post { type := "components-data", data := .arr (groups.map Group.toJson) }

/-- Removes the managed variables that no reaction sets. -/
def cleanUp : Program Session Unit := do
  let removed ← Records.sweep
  post
    { type := "cleanup-complete"
      data := .obj [("removed", .int removed)]
      message := some "Comprehensive cleanup completed successfully" }

/-- Forgets the records of the groups of the context. -/
def purge : Program Session Unit := do
  let groups := (← readContext).groups
  Records.purge (groups.map (·.id))
  post
    { type := "cleanup-complete"
      message := some "Stored interaction data cleaned up successfully" }

/-- Ends the session and closes the panel. -/
def cancel : Program Session Unit := do
  Program.modify fun s => { s with closed := true }
  Program.ask .close

/-- **Handles an envelope.** -/
def serve (e : Envelope) : Handler → Program Session Unit
  | .analyse => analyse
  | .author => author e.data
  | .listComponents => listComponents
  | .sweep => cleanUp
  | .purge => purge
  | .cancel => cancel
  | .forward type => post { e with type }
  | .fail text => Program.lift (.error (.raised text))

/-! ### Entry points -/

/-- Takes a message in and handles it; it may fail. -/
def receive (inbound : Inbound) : Program Session Unit := do
  if (← Program.read).closed then
    Program.log .debug "Session closed; ignoring message"
  else
    let e ← Program.lift (inbound.toEnvelope (← readConfig).limits)
    match (← Program.read).handlers.find? e.type with
    | none => Program.log .info s!"Unknown message type: {e.type}"
    | some handler => serve e handler

/-- **Handles one inbound message.** -/
def dispatch (inbound : Inbound) : Program Session Unit := do
  match ← (receive inbound).attempt with
  | .ok () => pure ()
  | .error e => report "Message handler" e
  -- reached on every path, so a report is sent with what was posted before it
  flush

/-- **Announces a new selection** and analyses it. -/
def selectionChanged : Program Session Unit := do
  unless (← Program.read).closed do
    post { type := "selection-changed", message := some "Analyzing new selection..." }
    analyse
    flush

end Session

end Clickwork
