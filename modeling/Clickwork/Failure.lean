import Clickwork.Host.Method
import Clickwork.Json.Integer
import Clickwork.Json.Reader

/-!
# Failures

Everything that can go wrong, by cause. The wording of a failure is given in one place,
`Failure.message`; who raises or handles a failure speaks of its cause only.

The causes form families: `ProtocolFault` (a message or payload that is not what it should be),
`SelectionFault` (a selection that cannot be analysed), `HostFault` (the host refuses a call) and
`NumeralFault` (a value that stands for no integer).
-/

namespace Clickwork

open Text (quoted)

/-- **What is wrong with a message or payload.** -/
inductive ProtocolFault where
  | notJson (fault : Json.Fault)
  | notMessage (kind : Json.Kind)
  | noType
  | notInteraction (kind : Json.Kind)
  | missingField (name : String)
  | notLists
  | noTarget
  | notSetting (action : String)
  deriving DecidableEq, Repr

/-- The message of a protocol fault. -/
def ProtocolFault.message : ProtocolFault → String
  | .notJson fault => s!"Message is not valid JSON: {fault.message}"
  | .notMessage kind => s!"Expected message object, got {kind.name}"
  | .noType => "Message has no type"
  | .notInteraction kind => s!"Expected interaction object, got {kind.name}"
  | .missingField name => s!"Interaction is missing {quoted name}"
  | .notLists => "conditionalRules and nestedActions must be lists"
  | .noTarget => "Nested action is missing its target component"
  | .notSetting action => s!"Primary action {quoted action} must look like prop=value"

/-- **Why a selection cannot be analysed.** -/
inductive SelectionFault where
  | notSingle
  | notInstance
  | nothingNested
  deriving DecidableEq, Repr

/-- The message of a selection fault. -/
def SelectionFault.message : SelectionFault → String
  | .notSingle => "Please select exactly one component instance."
  | .notInstance => "Selected element must be a component instance."
  | .nothingNested => "No nested component instances found in selection."

/-- **Why the host refuses a call.** -/
inductive HostFault where
  /-- A failure arranged beforehand, on the given call of the method. -/
  | injected (method : Method) (count : Nat)
  | reactionsRejected (node : String)
  | noNode (node : String)
  | noCollection (collection : String)
  | noVariable (variableId : String)
  | bindingRejected (node property : String)
  | noProperty (node property : String)
  | storageUnavailable
  deriving DecidableEq, Repr

/-- The message of a host fault. -/
def HostFault.message : HostFault → String
  | .injected method count => s!"injected {method.name} #{count}"
  | .reactionsRejected node => s!"Node {quoted node} rejected reactions"
  | .noNode node => s!"No node {quoted node}"
  | .noCollection collection => s!"No collection {quoted collection}"
  | .noVariable variableId => s!"No variable {quoted variableId}"
  | .bindingRejected node property =>
    s!"Instance {quoted node} rejected binding {quoted property}"
  | .noProperty node property => s!"Instance {quoted node} has no property {quoted property}"
  | .storageUnavailable => "client storage unavailable"

/-- Whether an integer is small enough to be an index at all: 64 bits with a sign hold it. -/
def fitsIndex (index : Int) : Bool :=
  -0x8000000000000000 ≤ index && index < 0x8000000000000000

/-- **A failure, by its cause.** -/
inductive Failure where
  | protocol (fault : ProtocolFault)
  | selection (fault : SelectionFault)
  | host (fault : HostFault)
  | numeral (fault : NumeralFault)
  /-- A stored text that is no JSON text. -/
  | unreadable (fault : Json.Fault)
  /-- A JSON text that is too large to be read. -/
  | overrun (o : Json.Overrun)
  /-- Another interaction is being authored. -/
  | busy
  | unknownGroup (id : String)
  | lengthMismatch (shown captured : Nat)
  /-- An index past the rows of a target table or past the end of a row. -/
  | pastTable (index : Int)
  /-- An index past the end of any other list. -/
  | pastList
  /-- A key without an entry. -/
  | absentKey (key : String)
  /-- A handler gave up with a text of its own. -/
  | raised (text : String)
  /-- The traversal of a scene whose child lists form a cycle. -/
  | endless
  deriving DecidableEq, Repr

/-- **The message of a failure.** -/
def Failure.message : Failure → String
  | .protocol fault => fault.message
  | .selection fault => fault.message
  | .host fault => fault.message
  | .numeral fault => fault.message
  | .unreadable fault => fault.message
  | .overrun o => o.message
  | .busy => "Another interaction is still being created"
  | .unknownGroup id => s!"Unknown component group {quoted id}"
  | .lengthMismatch shown captured =>
    s!"Got {shown} current values for {captured} instances"
  | .pastTable index =>
    if fitsIndex index then "tuple index out of range"
    else "cannot fit 'int' into an index-sized integer"
  | .pastList => "list index out of range"
  | .absentKey key => quoted key
  | .raised text => text
  | .endless => "Child lists form a cycle"

end Clickwork
