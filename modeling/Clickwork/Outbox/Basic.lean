import Clickwork.Envelope

/-!
# Outboxes

Outbound envelopes are posted to an outbox and wait there until it is flushed. A flush hands each
waiting envelope to each subscriber, in the order of posting and of subscription. A subscriber that
subscribes twice is served twice.
-/

namespace Clickwork

/-- **A queue of outbound envelopes with its subscribers**, of type `η`. -/
structure Outbox (η : Type) where
  subscribers : List η := []
  queue : List Envelope := []

namespace Outbox

variable {η : Type}

/-- Posts an envelope, to wait for the next flush. -/
def post (o : Outbox η) (e : Envelope) : Outbox η :=
  { o with queue := o.queue ++ [e] }

/-- Adds a subscriber. -/
def subscribe (o : Outbox η) (h : η) : Outbox η :=
  { o with subscribers := o.subscribers ++ [h] }

/-- Removes the first subscription of a subscriber, if it has one. -/
def unsubscribe [DecidableEq η] (o : Outbox η) (h : η) : Outbox η :=
  { o with subscribers := o.subscribers.erase h }

/-- Forgets the waiting envelopes. -/
def clear (o : Outbox η) : Outbox η :=
  { o with queue := [] }

/-- **What a flush hands out** when no subscriber does anything to the outbox meanwhile. -/
def deliveries (o : Outbox η) : List (η × Envelope) :=
  o.queue.flatMap fun e => o.subscribers.map fun h => (h, e)

end Outbox

end Clickwork
