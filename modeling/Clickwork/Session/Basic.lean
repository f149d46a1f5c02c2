import Clickwork.Config
import Clickwork.Context
import Clickwork.Interaction.Basic
import Clickwork.Outbox.Basic
import Clickwork.Program.Basic
import Clickwork.Wiring

/-!
# Sessions

The memory of a session: its configuration and context, the interactions it has on record, the
envelopes it is about to send, and how it handles each type of message.
-/

namespace Clickwork

/-- **What authoring an interaction came to**: the wiring of the interaction itself, and of those
nested in it that were carried out. -/
structure Authoring where
  interaction : Interaction
  group : Group
  main : Wiring
  nested : List Wiring

/-- All wirings, the main one first. -/
def Authoring.wirings (a : Authoring) : List Wiring :=
  a.main :: a.nested

/-- **How a message is handled.** -/
inductive Handler where
  | analyse
  | author
  | listComponents
  | sweep
  | purge
  | cancel
  /-- Answers with an envelope of another type and the same payload and text. -/
  | forward (type : String)
  /-- Gives up with a text. -/
  | fail (text : String)
  deriving DecidableEq, Repr

/-- The handlers that every session begins with. -/
def Handler.standard : Registry String Handler :=
  .ofList [("init", .analyse), ("create-interaction", .author), ("get-components", .listComponents),
    ("cleanup", .sweep), ("cleanup-stored-data", .purge), ("cancel", .cancel)]

/-- **The memory of a session.** -/
structure Session where
  config : Config := {}
  outbox : Outbox String := {}
  context : Context := {}
  /-- The interaction on record for each group. -/
  records : Registry String Interaction := ∅
  /-- Whether the session was cancelled. -/
  closed : Bool := false
  lastAuthoring : Option Authoring := none
  handlers : Registry String Handler := Handler.standard

namespace Session

/-- A new session with the listeners of its outbox. -/
def start (config : Config) (listeners : List String) : Session :=
  { config, outbox := { subscribers := listeners } }

instance : Inhabited Session := ⟨{}⟩

/-- Registers a handler for a type of message, in place of an earlier one. -/
def handle (s : Session) (type : String) (handler : Handler) : Session :=
  { s with handlers := s.handlers.insert type handler }

/-! ### Steps of a session -/

/-- The configuration. -/
def readConfig : Program Session Config := do
  return (← Program.read).config

/-- The context. -/
def readContext : Program Session Context := do
  return (← Program.read).context

/-- Changes the context. -/
def modifyContext (f : Context → Context) : Program Session Unit :=
  Program.modify fun s => { s with context := f s.context }

/-- Posts an envelope. -/
def post (e : Envelope) : Program Session Unit :=
  Program.modify fun s => { s with outbox := s.outbox.post e }

/-- **Sends what was posted** to the listeners. -/
def flush : Program Session Unit := do
  let outbox := (← Program.read).outbox
  -- the outbox is empty before the first delivery, so an envelope is never sent twice
  Program.modify fun s => { s with outbox := s.outbox.clear }
  outbox.deliveries.forM fun (listener, e) => Program.deliver listener e

/-- Logs a failure and tells the user about it. -/
def report (context : String) (e : Failure) : Program Session Unit := do
  let text := s!"{context}: {e.message}"
  Program.log .error text (some e)
  post { type := "error", message := some text }

end Session

end Clickwork
