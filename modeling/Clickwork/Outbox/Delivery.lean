import Clickwork.Outbox.Basic

/-!
# Delivery to subscribers that act

A subscriber may act on the outbox when it is handed an envelope: post, subscribe, unsubscribe,
clear, flush again, or give up with a failure. What it does is given by a `Conduct`.

Delivery works off an agenda of things still to do. A flush takes the queue as it is and puts the
offers of its envelopes on the agenda, so envelopes posted meanwhile wait for the next flush. An
offer goes through the list of subscribers by position, as the list is when its turn comes:
subscribing lengthens it, and unsubscribing moves the later subscribers up, past the one whose turn
is next. A failure drops the whole agenda, and with it the offers that were left.
-/

namespace Clickwork.Outbox

/-- **What can be done to an outbox.** -/
inductive Act (η : Type) where
  | post (e : Envelope)
  | subscribe (h : η)
  | unsubscribe (h : η)
  | flush
  | clear
  | fail (text : String)

/-- **How subscribers act** when handed an envelope, given what was handed out before. -/
abbrev Conduct (η : Type) : Type :=
  List (η × Envelope) → η → Envelope → List (Act η)

/-- A thing still to do. -/
inductive Task (η : Type) where
  | act (a : Act η)
  /-- To hand an envelope to the subscribers from a position on. -/
  | offer (e : Envelope) (position : Nat)

/-- How the work on an agenda ends. -/
inductive End where
  | done
  | failed (text : String)
  /-- The work was not finished in the allowed number of steps. -/
  | exhausted
  deriving DecidableEq, Repr

/-- **An outbox at work**, with what was handed out so far. -/
structure Desk (η : Type) where
  outbox : Outbox η := {}
  handed : List (η × Envelope) := []

variable {η : Type} [DecidableEq η]

/-- **Does one thing**: the desk after it and the things to do next, or the text of a failure. -/
def Desk.work (conduct : Conduct η) (d : Desk η) : Task η → Except String (Desk η × List (Task η))
  | .act (.post e) => .ok ({ d with outbox := d.outbox.post e }, [])
  | .act (.subscribe h) => .ok ({ d with outbox := d.outbox.subscribe h }, [])
  | .act (.unsubscribe h) => .ok ({ d with outbox := d.outbox.unsubscribe h }, [])
  | .act .flush =>
    .ok ({ d with outbox := d.outbox.clear }, d.outbox.queue.map fun e => .offer e 0)
  | .act .clear => .ok ({ d with outbox := d.outbox.clear }, [])
  | .act (.fail text) => .error text
  | .offer e position =>
    -- the list of subscribers as it is now, not as it was when the flush began
    match d.outbox.subscribers[position]? with
    | none => .ok (d, [])
    | some h =>
      .ok ({ d with handed := d.handed ++ [(h, e)] },
        (conduct d.handed h e).map .act ++ [.offer e (position + 1)])

/-- **Works off an agenda** in at most the given number of steps. -/
def Desk.drain (conduct : Conduct η) : Nat → List (Task η) → Desk η → End × Desk η
  | _, [], d => (.done, d)
  | 0, _ :: _, d => (.exhausted, d)
  | steps + 1, task :: agenda, d =>
    match d.work conduct task with
    | .error text => (.failed text, d)
    | .ok (d, next) => Desk.drain conduct steps (next ++ agenda) d

end Clickwork.Outbox
