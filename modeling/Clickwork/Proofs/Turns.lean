import Clickwork.Proofs.Policy
import Clickwork.Proofs.Registry
import Clickwork.Session.Dispatch
import Clickwork.World

/-!
# Turns

The entry points of a session run as tasks, which take turns: a turn starts a task or resumes a held
one and lets it run until it ends or is held again (`Turn`). Between two turns anything may happen
to the host.

Every turn here is one of the current session, so a stretch is described by the machine it starts
from and the machine it leaves (`World.settle`). `Machine.told` is what a listener has been told and
is about to be told; a flush does not change it (`Machine.told_flushed`).
-/

namespace Clickwork

/-! ### Entry points -/

/-- **An entry point of a session.** -/
inductive Entry where
  | message (inbound : Inbound)
  /-- The notice of a new selection. -/
  | notice

/-- What an entry point does. -/
def Entry.program : Entry → Program Session Unit
  | .message inbound => Session.dispatch inbound
  | .notice => Session.selectionChanged

/-- **A step of a world whose tasks take turns.** -/
inductive Turn where
  | start (task : String) (entry : Entry) (stop : Stop)
  | resume (task : String) (stop : Stop)
  /-- Something else happens to the host. -/
  | host (h : Host)

/-- A message of a type. -/
def Inbound.HasType (limits : Json.Limits) (type : String) (inbound : Inbound) : Prop :=
  ∃ e, inbound.toEnvelope limits = .ok e ∧ e.type = type

namespace World

variable {ρ : Type}

/-- **The world after a turn.** -/
def turn (w : World Unit) : Turn → World Unit
  | .start task entry stop => (w.startTask task entry.program stop).2
  | .resume task stop => (w.resumeTask task stop).2
  | .host h => { w with host := h }

/-- **The world after some turns.** -/
def turns (w : World Unit) (ts : List Turn) : World Unit :=
  ts.foldl turn w

/-! ### Stretches on the current session -/

/-- The machine on which the current session runs. -/
def machine (w : World ρ) : Machine Session :=
  { memory := w.current, host := w.host, events := w.events }

/-- The world after the current session has run. -/
def withMachine (w : World ρ) (m : Machine Session) : World ρ :=
  { w with current := m.memory, host := m.host, events := m.events }

/-- **The world after a stretch of a task** of the current session. -/
def settle (w : World ρ) (task : String) :
    Program.Ended Session ρ × Machine Session → Progress ρ × World ρ
  | (.finished (.ok result), m) => (.done result, w.withMachine m)
  | (.finished (.error e), m) => (.failed e, w.withMachine m)
  | (.held rest, m) =>
    (.held ((pendingMethod? rest).getD .node),
      { w.withMachine m with tasks := w.tasks.insert task { session := w.currentNumber, rest } })

theorem session_currentNumber (w : World ρ) : w.session w.currentNumber = w.current := by
  simp [session, currentNumber]

theorem setSession_currentNumber (w : World ρ) (s : Session) :
    w.setSession w.currentNumber s = { w with current := s } := by
  simp [setSession, currentNumber]

theorem stretch_currentNumber (w : World ρ) (task : String)
    (run : Machine Session → Program.Ended Session ρ × Machine Session) :
    w.stretch task w.currentNumber run = w.settle task (run w.machine) := by
  rw [stretch, session_currentNumber, machine]
  rcases run { memory := w.current, host := w.host, events := w.events } with ⟨_ | _, m⟩
  · rename_i result
    cases result <;> simp [settle, withMachine, setSession_currentNumber]
  · simp [settle, withMachine, setSession_currentNumber]

theorem startTask_eq (w : World ρ) (task : String) (p : Program Session ρ) (stop : Stop) :
    w.startTask task p stop = w.settle task (p.run stop w.machine) :=
  w.stretch_currentNumber task (p.run stop)

theorem resumeTask_eq {w : World ρ} {task : String} {rest : Program Session ρ}
    (h : w.tasks.find? task = some { session := w.currentNumber, rest }) (stop : Stop) :
    w.resumeTask task stop =
      { w with tasks := w.tasks.erase task }.settle task (rest.resume stop w.machine) := by
  rw [resumeTask, h]
  exact stretch_currentNumber { w with tasks := w.tasks.erase task } task (rest.resume stop)

theorem resumeTask_absent {w : World ρ} {task : String} (h : w.tasks.find? task = none)
    (stop : Stop) : w.resumeTask task stop = (.failed (.absentKey task), w) := by
  rw [resumeTask, h]

end World

/-! ### Telling listeners -/

/-- The envelope that an event delivers to a listener. -/
def Event.tells? (listener : String) : Event → Option Envelope
  | sent l e => if l = listener then some e else none
  | _ => none

theorem Event.tells?_of_not_sent {e : Event} (h : e.isSent = false) (listener : String) :
    e.tells? listener = none := by
  cases e with
  | sent => cases h
  | log | called => rfl

/-- **What a listener has been told and is about to be told.** -/
def Machine.told (m : Machine Session) (listener : String) : List Envelope :=
  m.events.toList.filterMap (·.tells? listener) ++ m.memory.outbox.queue

/-- The machine after a flush. -/
def Machine.flushed (m : Machine Session) : Machine Session :=
  { m with
    memory := { m.memory with outbox := m.memory.outbox.clear }
    events := m.events ++ (m.memory.outbox.deliveries.map fun d => Event.sent d.1 d.2).toArray }

/-- The machine after a failure was reported. -/
def Machine.reported (m : Machine Session) (context : String) (e : Failure) : Machine Session :=
  let text := s!"{context}: {e.message}"
  let envelope : Envelope := { type := "error", message := some text }
  { m with
    memory := { m.memory with outbox := m.memory.outbox.post envelope }
    events := m.events.push (.log .error text (some e)) }

namespace Session

theorem eval_deliveries (deliveries : List (String × Envelope)) (m : Machine Session) :
    (deliveries.forM fun d => Program.deliver d.1 d.2).eval m =
      (.ok (), { m with
        events := m.events ++ (deliveries.map fun d => Event.sent d.1 d.2).toArray }) := by
  induction deliveries generalizing m with
  | nil =>
    change ((.ok (), m) : Except Failure Unit × Machine Session) = _
    simp
  | cons d deliveries ih =>
    refine (ih (m.emit (.sent d.1 d.2))).trans ?_
    simp [Machine.emit]

theorem eval_flush (m : Machine Session) : flush.eval m = (.ok (), m.flushed) :=
  eval_deliveries m.memory.outbox.deliveries
    { m with memory := { m.memory with outbox := m.memory.outbox.clear } }

theorem flush_quiet : flush.Quiet :=
  Program.Obeys.read.bind fun _ => (Program.Obeys.modify fun _ => trivial).bind fun _ =>
    .forM _ fun _ => .deliver rfl

theorem report_quiet (context : String) (e : Failure) : (report context e).Quiet :=
  (Program.Obeys.log rfl).bind fun _ => .modify fun _ => trivial

end Session

namespace Machine

variable {m : Machine Session}

/-- What waits for a listener that is subscribed once is delivered once. -/
theorem told_flushed {listener : String}
    (h_once : m.memory.outbox.subscribers.count listener = 1) :
    m.flushed.told listener = m.told listener := by
  -- an envelope goes to every subscriber, and so as often to a listener as it has subscribed
  have h_each (e : Envelope) (subscribers : List String) :
      (subscribers.map fun h => Event.sent h e).filterMap (·.tells? listener) =
        List.replicate (subscribers.count listener) e := by
    induction subscribers with
    | nil => rfl
    | cons h subscribers ih =>
      rw [List.map_cons, List.filterMap_cons, List.count_cons, ih]
      by_cases h_eq : h = listener
      · simp [Event.tells?, h_eq, List.replicate_succ]
      · simp [Event.tells?, h_eq]
  have h_queue (queue : List Envelope) :
      (({ m.memory.outbox with queue } : Outbox String).deliveries.map
        fun d => Event.sent d.1 d.2).filterMap (·.tells? listener) = queue := by
    induction queue with
    | nil => rfl
    | cons e queue ih =>
      simp only [Outbox.deliveries, List.flatMap_cons, List.map_append, List.map_map,
        List.filterMap_append] at ih ⊢
      rw [ih]
      have h_first := h_each e m.memory.outbox.subscribers
      rw [h_once] at h_first
      exact congrArg (· ++ queue) h_first
  simp only [told, flushed, Array.toList_append, List.filterMap_append, Outbox.clear,
    List.append_nil]
  exact congrArg _ (h_queue m.memory.outbox.queue)

/-- With nothing waiting, a flush does nothing. -/
theorem flushed_eq_self (h_empty : m.memory.outbox.queue = []) : m.flushed = m := by
  have h_outbox : m.memory.outbox.clear = m.memory.outbox := by rw [Outbox.clear, ← h_empty]
  have h_none : m.memory.outbox.deliveries = [] := by rw [Outbox.deliveries, h_empty]; rfl
  rw [flushed, h_outbox, h_none]
  simp

end Machine

/-! ### Entry points and handlers -/

namespace Session

variable {m : Machine Session}

theorem run_dispatch_closed (inbound : Inbound) (h_closed : m.memory.closed = true)
    (stop : Stop) :
    (dispatch inbound).run stop m =
      (do Program.log .debug "Session closed; ignoring message"; flush).run stop m := by
  change ((if m.memory.closed then Program.log .debug "Session closed; ignoring message"
    else _ : Program Session Unit).attempt.bind _).run stop m = _
  rw [if_pos h_closed]
  rfl

/-- **An open session hands a message to its handler**, and sends what the handler posted. -/
theorem run_dispatch {inbound : Inbound} {e : Envelope} (handler : Handler)
    (h_open : m.memory.closed = false)
    (h_decodes : inbound.toEnvelope m.memory.config.limits = .ok e)
    (h_handler : m.memory.handlers.find? e.type = some handler)
    (h_unfailing : (serve e handler).Unfailing) (stop : Stop) :
    (dispatch inbound).run stop m = (do serve e handler; flush).run stop m := by
  change ((if m.memory.closed then _ else _ : Program Session Unit).attempt.bind _).run stop m = _
  rw [h_open, if_neg Bool.false_ne_true]
  change (((Program.lift (inbound.toEnvelope m.memory.config.limits)).bind fun e => _ :
    Program Session Unit).attempt.bind _).run stop m = _
  have h_lift (k : Envelope → Program Session Unit) : (Program.lift (.ok e)).bind k = k e := rfl
  have h_read (k : Session → Program Session Unit)
      (rest : Except Failure Unit → Program Session Unit) :
      ((Program.read >>= k).attempt.bind rest).run stop m =
        ((k m.memory).attempt.bind rest).run stop m := rfl
  rw [h_decodes, h_lift, h_read, h_handler]
  change ((serve e handler).attempt.bind _).run stop m = _
  rw [h_unfailing, Program.bind_assoc]
  rfl

end Session

end Clickwork
