import Clickwork.Failure
import Clickwork.Json.Writer

/-!
# Envelopes

Messages between a session and its panel travel in envelopes: a type, a payload and a text for the
user, the last two optional. A payload that is `null` is the same as none.
-/

namespace Clickwork

/-- **A message between a session and its panel.** -/
structure Envelope where
  type : String
  /-- The payload, `null` if there is none. -/
  data : Json := .null
  message : Option String := none
  deriving BEq

namespace Envelope

/-- The JSON form of an envelope, without the parts that are missing. -/
def toJson (e : Envelope) : Json :=
  .obj ([("type", .str e.type)] ++
    (if e.data.kind = .null then [] else [("data", e.data)]) ++
    (e.message.map fun m => ("message", .str m)).toList)

/-- The JSON text of an envelope. -/
def text (e : Envelope) : String :=
  e.toJson.text

/-- The envelope an object stands for. Its type must be a text that is not empty; a message that is
no text is dropped. -/
def ofJson (raw : Json) : Except ProtocolFault Envelope :=
  match raw with
  | .obj _ =>
    match raw.field? "type" with
    | some (.str type) =>
      if type.isEmpty then .error .noType
      else .ok
        { type
          data := (raw.field? "data").getD .null
          message :=
            match raw.field? "message" with
            | some (.str m) => some m
            | _ => none }
    | _ => .error .noType
  | _ => .error (.notMessage raw.kind)

/-- **Decodes an inbound message**: a text is read as JSON first. A text that is too large to be
read is no fault of the protocol. -/
def decode (limits : Json.Limits) : Json → Except Failure Envelope
  | .str text =>
    match Json.read limits text with
    | .ok raw => (ofJson raw).mapError .protocol
    | .error (.flawed fault) => .error (.protocol (.notJson fault))
    | .error (.overrun o) => .error (.overrun o)
  | raw => (ofJson raw).mapError .protocol

end Envelope

end Clickwork
