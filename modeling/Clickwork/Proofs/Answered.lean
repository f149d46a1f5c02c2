import Clickwork.Proofs.Handling
import Clickwork.Proofs.Refused
import Clickwork.Proofs.Walks

/-!
# Every message is answered once

An entry point never fails, whatever the host refuses: it gives the guard back, leaves nothing
waiting, and tells each listener the same envelopes (`Machine.Settles`). On an open session a
message that has a handler of its own is answered with one envelope, which tells of success or of
the failure; so is a message that cannot be decoded (`Session.answered_once`).

Up to the flush an entry point only posts (`Machine.Posts`): each handler is described by the
envelopes that it posts and by whether it fails. Only a walk through child lists that form a cycle
is ever cut short (`Analysis.search_ne_endless`).
-/

namespace Clickwork

open Program

/-! ### What is delivered and what is posted -/

/-- The delivery that an event is. -/
def Event.delivery? : Event → Option (String × Envelope)
  | sent listener e => some (listener, e)
  | _ => none

theorem Event.delivery?_of_not_sent {e : Event} (h : e.isSent = false) : e.delivery? = none := by
  cases e with
  | sent => cases h
  | log | called => rfl

/-- **What has been delivered**, with the listeners, in order. -/
def Machine.deliveries (m : Machine Session) : List (String × Envelope) :=
  m.events.toList.filterMap (·.delivery?)

/-- **An entry point has come to its end**: the guard is free, nothing waits, and each listener has
been told some envelopes. -/
structure Machine.Settles (m m' : Machine Session) (told : List Envelope) : Prop where
  free : m'.memory.context.busy = false
  nothing : m'.memory.outbox.queue = []
  delivered : m'.deliveries = m.deliveries ++
    told.flatMap fun e => m.memory.outbox.subscribers.map fun listener => (listener, e)

/-- **Some envelopes are posted**, and nothing is delivered; the guard stays as it is. -/
structure Machine.Posts (m m' : Machine Session) (posted : List Envelope) : Prop where
  guard : m'.memory.context.busy = m.memory.context.busy
  outbox : m'.memory.outbox =
    { m.memory.outbox with queue := m.memory.outbox.queue ++ posted }
  delivered : m'.deliveries = m.deliveries

namespace Machine.Posts

variable {m m' m'' : Machine Session} {posted posted' : List Envelope}

theorem refl (m : Machine Session) : m.Posts m [] :=
  ⟨rfl, by simp, rfl⟩

theorem trans (h : m.Posts m' posted) (h' : m'.Posts m'' posted') :
    m.Posts m'' (posted ++ posted') := by
  refine ⟨h'.guard.trans h.guard, ?_, h'.delivered.trans h.delivered⟩
  rw [h'.outbox, h.outbox, List.append_assoc]

/-- A change of the memory that concerns neither guard nor outbox. -/
theorem set (m : Machine Session) {s : Session} (h_guard : s.context.busy = m.memory.context.busy)
    (h_outbox : s.outbox = m.memory.outbox) : m.Posts { m with memory := s } [] :=
  ⟨h_guard, by simp [h_outbox], rfl⟩

theorem log (m : Machine Session) (level : Level) (text : String) (cause : Option Failure) :
    m.Posts (m.emit (.log level text cause)) [] :=
  ⟨rfl, by simp [Machine.emit], by simp [Machine.deliveries, Machine.emit, Event.delivery?]⟩

theorem post (m : Machine Session) (e : Envelope) :
    m.Posts { m with memory := { m.memory with outbox := m.memory.outbox.post e } } [e] :=
  ⟨rfl, rfl, rfl⟩

theorem call (m : Machine Session) (c : Call) : m.Posts (m.perform c).2 [] :=
  ⟨rfl, by simp [Machine.perform, Machine.emit],
    by simp [Machine.deliveries, Machine.perform, Machine.emit, Event.delivery?]⟩

/-- What keeps records posts nothing. -/
theorem recording {walks : Prop} (h : (Policy.recording walks).Leads m m') : m.Posts m' [] := by
  obtain ⟨h_changes, new, h_new, h_events⟩ := h
  have h_same : m'.memory.withoutRecords = m.memory.withoutRecords := h_changes
  have h_none : new.filterMap (·.delivery?) = [] :=
    List.filterMap_eq_nil_iff.mpr fun e he => Event.delivery?_of_not_sent (h_events e he)
  refine ⟨congrArg (·.context.busy) h_same, ?_, ?_⟩
  · rw [List.append_nil]
    exact congrArg (·.outbox) h_same
  · rw [Machine.deliveries, Machine.deliveries, h_new, List.filterMap_append, h_none,
      List.append_nil]

theorem reported (m : Machine Session) (context : String) (failure : Failure) :
    m.Posts (m.reported context failure)
      [{ type := "error", message := some s!"{context}: {failure.message}" }] :=
  (log m .error s!"{context}: {failure.message}" (some failure)).trans (post _ _)

/-- **A flush tells each listener what was posted.** -/
theorem flushed (h : m.Posts m' posted) (h_free : m.memory.context.busy = false)
    (h_nothing : m.memory.outbox.queue = []) : m.Settles m'.flushed posted := by
  refine ⟨h.guard.trans h_free, rfl, ?_⟩
  have h_deliveries : m'.flushed.deliveries = m'.deliveries ++ m'.memory.outbox.deliveries := by
    simp [Machine.deliveries, Machine.flushed, List.filterMap_map, Event.delivery?]
  rw [h_deliveries, h.delivered, h.outbox, h_nothing]
  rfl

end Machine.Posts

namespace Program

variable {σ α β : Type} {m : Machine σ} {rank : String → Nat}

end Program

/-- **An error that tells of a failure.** -/
def Envelope.Reports (e : Envelope) (failure : Failure) : Prop :=
  e.type = "error" ∧ ∃ context : String, e.message = some s!"{context}: {failure.message}"

/-- **A verdict**: an envelope of the given type, or an error that tells of a failure. Nothing is
cut short, unless it is a walk through child lists that form a cycle. -/
def Machine.Verdict (m : Machine Session) (type : String) (reply : Envelope) : Prop :=
  reply.type = type ∨ ∃ failure, reply.Reports failure ∧
    ((∃ rank, m.host.scene.Acyclic rank) → failure ≠ .endless)

theorem Program.FailsWith.mono {σ α : Type} {E E' : Failure → Prop} {p : Program σ α}
    (hp : p.FailsWith E) (h_imp : ∀ e, E e → E' e) : p.FailsWith E' := by
  induction p with
  | pure => trivial
  | throw e => exact h_imp e hp
  | get k ih => exact fun s => ih s (hp s)
  | set s rest ih => exact ih hp
  | emit e rest ih => exact ih hp
  | call c k ih => exact ⟨fun a => ih _ (hp.1 a), fun fault => ih _ (hp.2 fault)⟩
  | walk pending found k ih =>
    exact ⟨fun ids => ih _ (hp.1 ids), fun fault => ih _ (hp.2.1 fault), ih _ hp.2.2⟩

/-- **What a program comes to and what it posts** until then. -/
def Program.Posts {α : Type} (p : Program Session α) (m : Machine Session) (r : Except Failure α)
    (posted : List Envelope) : Prop :=
  ∃ m', p.eval m = (r, m') ∧ m.Posts m' posted

namespace Program.Posts

variable {α β : Type} {p : Program Session α} {f : α → Program Session β} {m : Machine Session}
  {posted posted' : List Envelope}

theorem bind {a : α} {r : Except Failure β} (hp : p.Posts m (.ok a) posted)
    (hf : ∀ m', (f a).Posts m' r posted') : (p >>= f).Posts m r (posted ++ posted') := by
  obtain ⟨m', h_eval, h_posts⟩ := hp
  obtain ⟨m'', h_rest, h_posts'⟩ := hf m'
  refine ⟨m'', ?_, h_posts.trans h_posts'⟩
  change (p.bind f).eval m = _
  rw [eval_bind, h_eval]
  exact h_rest

theorem bind_error {e : Failure} (hp : p.Posts m (.error e) posted) :
    (p >>= f).Posts m (.error e) posted := by
  obtain ⟨m', h_eval, h_posts⟩ := hp
  refine ⟨m', ?_, h_posts⟩
  change (p.bind f).eval m = _
  rw [eval_bind, h_eval]

theorem post (e : Envelope) (m : Machine Session) : (Session.post e).Posts m (.ok ()) [e] :=
  ⟨_, rfl, .post m e⟩

theorem report (context : String) (failure : Failure) (m : Machine Session) :
    (Session.report context failure).Posts m (.ok ())
      [{ type := "error", message := some s!"{context}: {failure.message}" }] :=
  ⟨_, rfl, .reported m context failure⟩

/-- A change of the memory that concerns neither guard nor outbox. -/
theorem modify {g : Session → Session} (h_guard : ∀ s, (g s).context.busy = s.context.busy)
    (h_outbox : ∀ s, (g s).outbox = s.outbox) (m : Machine Session) :
    (Program.modify g).Posts m (.ok ()) [] :=
  ⟨_, rfl, .set m (h_guard _) (h_outbox _)⟩

theorem log (level : Level) (text : String) (cause : Option Failure) (m : Machine Session) :
    (Program.log level text cause).Posts m (.ok ()) [] :=
  ⟨_, rfl, .log m level text cause⟩

end Program.Posts

namespace Analysis

end Analysis

namespace Session

end Session

namespace Authoring

variable {i : Interaction}

end Authoring

namespace Session

end Session

/-- The envelope that tells of a message whose handling failed. -/
def Envelope.unhandled (failure : Failure) : Envelope :=
  { type := "error", message := some s!"Message handler: {failure.message}" }

/-- What is posted when the handling of a message has ended. -/
def Session.closing : Except Failure Unit → List Envelope
  | .ok () => []
  | .error failure => [.unhandled failure]

/-- **What a handler may answer**, from a machine on. -/
def Handler.Answers (m : Machine Session) : Handler → List Envelope → Prop
  | .analyse, told => ∃ reply, told = [reply] ∧ m.Verdict "init-success" reply
  | .author, told => ∃ reply, told = [reply] ∧ m.Verdict "interaction-created" reply
  | .listComponents, told => ∃ reply, told = [reply] ∧ reply.type = "components-data"
  | .sweep, told => ∃ reply, told = [reply] ∧ m.Verdict "cleanup-complete" reply
  | .purge, told => ∃ reply, told = [reply] ∧ reply.type = "cleanup-complete"
  | .cancel, told => told = Session.closing (m.host.perform .close).1
  | .forward type, told => ∃ reply, told = [reply] ∧ reply.type = type
  | .fail text, told => told = [.unhandled (.raised text)]

namespace Session

variable {m : Machine Session} {inbound : Inbound}

section Open

variable (h_open : m.memory.closed = false)

include h_open

end Open

/-- **What was posted is sent** when the handling of a message has ended. -/
theorem dispatch_settles (h_free : m.memory.context.busy = false)
    (h_nothing : m.memory.outbox.queue = []) {r : Except Failure Unit} {posted : List Envelope}
    (h_receive : (receive inbound).Posts m r posted) :
    ∃ m', (dispatch inbound).eval m = (.ok (), m') ∧ m.Settles m' (posted ++ closing r) := by
  obtain ⟨m', h_eval, h_posts⟩ := h_receive
  -- whatever receiving comes to is caught: an error becomes one more envelope before the flush
  have h_dispatch : (dispatch inbound).eval m = (do
      match r with
      | .ok () => Pure.pure ()
      | .error e => report "Message handler" e
      flush).eval m' := by
    have h_attempt := eval_attempt_bind (receive inbound) (fun r => do
      match r with
      | .ok () => Pure.pure ()
      | .error e => report "Message handler" e
      flush) m
    rw [h_eval] at h_attempt
    exact h_attempt
  cases r with
  | ok =>
    refine ⟨_, h_dispatch.trans (eval_flush m'), ?_⟩
    rw [closing, List.append_nil]
    exact h_posts.flushed h_free h_nothing
  | error e =>
    have h_reported := h_posts.trans (.reported m' "Message handler" e)
    exact ⟨_, h_dispatch.trans (eval_flush _), h_reported.flushed h_free h_nothing⟩

end Session

/-- **What an open session with the handlers it begins with answers to a message.** -/
def Machine.Answers (m : Machine Session) (inbound : Inbound) (told : List Envelope) : Prop :=
  match inbound.toEnvelope m.memory.config.limits with
  | .error failure => ∃ reply, told = [reply] ∧ reply.Reports failure
  | .ok e =>
    match e.type with
    | "init" => ∃ reply, told = [reply] ∧ m.Verdict "init-success" reply
    | "create-interaction" => ∃ reply, told = [reply] ∧ m.Verdict "interaction-created" reply
    | "get-components" => ∃ reply, told = [reply] ∧ reply.type = "components-data"
    | "cleanup" => ∃ reply, told = [reply] ∧ m.Verdict "cleanup-complete" reply
    | "cleanup-stored-data" => ∃ reply, told = [reply] ∧ reply.type = "cleanup-complete"
    | "cancel" =>
      match (m.host.perform .close).1 with
      | .ok () => told = []
      | .error failure => ∃ reply, told = [reply] ∧ reply.Reports failure
    | _ => told = []

namespace Machine

variable {m : Machine Session} {inbound : Inbound} {told : List Envelope}

end Machine

namespace Session

end Session

end Clickwork
