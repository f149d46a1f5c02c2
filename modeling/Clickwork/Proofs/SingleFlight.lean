import Clickwork.Proofs.Conduct
import Clickwork.Proofs.History
import Clickwork.Proofs.Turns

/-!
# At most one interaction is authored at a time

Several messages that ask for an interaction to be authored may be under way on one session, each
held before some call and resumed later, in any order and with any failures. The session lets one
of them in at a time (`World.single_flight`): the others are refused at once, with one error and
nothing changed, and in the end it is as if those that were let in had been handled one after
another.

A message that was let in is held only while it is inside the guard: what is left of its handling is
what is left of carrying out the interaction, and then `Authoring.leave`. No other turn touches the
session or the host meanwhile (`World.Flight`), and carrying out an interaction comes to the same
wherever it is held.
-/

namespace Clickwork

open Program

/-! ### Handling a message that is let in -/

/-- Answers the panel when authoring has come to a result. -/
def Session.reply : Except Failure Authoring → Program Session Unit
  | .error e => report "Failed to create interaction" e
  | .ok result => do
    Program.modify fun s => { s with lastAuthoring := some result }
    let name := if result.group.name.isEmpty then "Unknown Component" else result.group.name
    post
      { type := "interaction-created"
        message := some s!"Interaction created successfully for {name}" }

/-- **Leaves the guard**, and ends the handling of the message. -/
def Authoring.leave (result : Except Failure Authoring) : Program Session Unit := do
  Session.modifyContext Context.release
  Session.reply result
  Session.flush

/-- The session when its guard has been taken. -/
def Session.enter (s : Session) : Session :=
  { s with context := { s.context with busy := true } }

/-- The session when an interaction has been carried out: the guard is given back, and a result is
noted. -/
def Session.left (s : Session) (r : Except Failure Authoring) : Session :=
  { s with context := s.context.release, lastAuthoring := r.toOption.or s.lastAuthoring }

namespace Session

variable {m : Machine Session} {payload : Json}

theorem reply_unfailing (result : Except Failure Authoring) : (reply result).Unfailing := by
  cases result <;> rfl

theorem author_unfailing (payload : Json) : (author payload).Unfailing :=
  (Unfailing.attempt _).bind reply_unfailing

/-- **A message that is let in** takes the guard, carries the interaction out and leaves. -/
theorem run_author_admitted {i : Interaction} (h_reads : Interaction.ofJson payload = .ok i)
    (h_free : m.memory.context.busy = false) (stop : Stop) :
    (do author payload; flush).run stop m =
      ((Authoring.carryOut i).attempt.bind Authoring.leave).run stop
        { m with memory := m.memory.enter } := by
  -- the interaction is read, and the guard is free
  change ((((Program.lift (Interaction.ofJson payload)).bind Authoring.run).attempt.bind reply).bind
    fun _ => flush).run stop m = _
  rw [h_reads]
  change (((((Program.lift m.memory.context.acquire).bind fun held => do
    modifyContext fun _ => held
    let result ← (Authoring.carryOut i).attempt
    modifyContext Context.release
    Program.lift result).attempt.bind reply).bind fun _ => flush)).run stop m = _
  rw [Context.acquire, h_free, if_neg Bool.false_ne_true]
  change (((((Authoring.carryOut i).attempt.bind fun result => do
    modifyContext Context.release
    Program.lift result).attempt.bind reply).bind fun _ => flush)).run stop
      { m with memory := m.memory.enter } = _
  -- the failure of carrying out is caught twice, which is the same as once
  rw [attempt_bind, Unfailing.attempt, bind_assoc, bind_assoc, bind_assoc]
  refine congrArg (fun f => ((Authoring.carryOut i).attempt.bind f).run stop
    { m with memory := m.memory.enter }) (funext fun result => ?_)
  cases result <;> rfl

/-- **A message that is not let in** is answered with one error: it holds no interaction, or the
guard is taken. -/
theorem run_author_refused {e : Failure}
    (h_refused : (do let _ ← Interaction.ofJson payload; m.memory.context.acquire) = .error e)
    (stop : Stop) :
    (do author payload; flush).run stop m =
      (.finished (.ok ()), (m.reported "Failed to create interaction" e).flushed) := by
  have h_quiet : (do report "Failed to create interaction" e; flush).Quiet :=
    (report_quiet _ _).bind fun _ => flush_quiet
  have h_eval : (do report "Failed to create interaction" e; flush).eval m =
      (.ok (), (m.reported "Failed to create interaction" e).flushed) :=
    eval_flush (m.reported "Failed to create interaction" e)
  -- the refusal comes before the first call to the host, so nothing but the report is left to run
  have h_run : (do author payload; flush).run stop m =
      (do report "Failed to create interaction" e; flush).run stop m := by
    change ((((Program.lift (Interaction.ofJson payload)).bind Authoring.run).attempt.bind
      reply).bind fun _ => flush).run stop m = _
    cases h_reads : Interaction.ofJson payload with
    | error e' =>
      rw [h_reads] at h_refused
      obtain rfl : e' = e := Except.error.inj h_refused
      rfl
    | ok i =>
      rw [h_reads] at h_refused
      replace h_refused : m.memory.context.acquire = .error e := h_refused
      change (((((Program.lift m.memory.context.acquire).bind fun held => do
        modifyContext fun _ => held
        let result ← (Authoring.carryOut i).attempt
        modifyContext Context.release
        Program.lift result).attempt.bind reply).bind fun _ => flush)).run stop m = _
      rw [h_refused]
      rfl
  rw [h_run, h_quiet.run, h_eval]

end Session

/-! ### Being let in -/

/-- **Whether a message is let in**: the session is open, the guard is free, and the message holds
an interaction. -/
def Session.admits (s : Session) (inbound : Inbound) : Bool :=
  !s.closed && !s.context.busy &&
    match inbound.toEnvelope s.config.limits with
    | .ok e => (Interaction.ofJson e.data).isOk
    | .error _ => false

namespace World

/-- The message that a turn lets in, if it does. -/
def admitted? (w : World Unit) : Turn → Option Inbound
  | .start _ (.message inbound) _ => if w.current.admits inbound then some inbound else none
  | _ => none

/-- **The messages that are let in** during some turns, in their order. -/
def admitted (w : World Unit) : List Turn → List Inbound
  | [] => []
  | t :: ts => (w.admitted? t).toList ++ (w.turn t).admitted ts

end World

/-- **A turn of authoring**: a message that asks for an interaction comes in, or the handling of one
goes on. -/
def Turn.Authors (limits : Json.Limits) : Turn → Prop
  | .start _ (.message inbound) _ => inbound.HasType limits "create-interaction"
  | .resume .. => True
  | _ => False

/-- The session authors interactions when asked, and nothing waits to be sent. -/
structure Session.Settled (s : Session) : Prop where
  handler : s.handlers.find? "create-interaction" = some .author
  nothing : s.outbox.queue = []

namespace World

/-- No message is being handled, and the session and the host are as in another world. -/
structure Free (w done : World Unit) : Prop where
  tasks : w.tasks = ∅
  free : w.current.context.busy = false
  current : w.current = done.current
  host : w.host = done.host

/-- **One message is being handled, inside the guard.** What is left of carrying out its interaction
leads to the session and the host of another world. -/
structure Inside (w done : World Unit) (task : String) (p : Program Session Authoring) :
    Prop where
  tasks : w.tasks = (∅ : Registry String (Task Unit)).insert task
    { session := w.currentNumber, rest := p.attempt.bind Authoring.leave }
  busy : w.current.context.busy = true
  opened : w.current.closed = false
  obeys : p.Obeys (.recording False)
  leads : ((p.attempt.bind Authoring.leave).outcome w.current w.host).2 = (done.current, done.host)

/-- **The state of a world between two turns of authoring**, of which `done` is what the messages
that were let in come to, one after another. -/
structure Flight (limits : Json.Limits) (w done : World Unit) : Prop where
  settled : w.current.Settled
  limits : w.current.config.limits = limits
  phase : w.Free done ∨ ∃ task p, w.Inside done task p

end World

/-! ### Stretches inside the guard -/

theorem Authoring.leave_quiet (result : Except Failure Authoring) : (leave result).Quiet := by
  have h_reply : (Session.reply result).Quiet := by
    cases result with
    | error e => exact Session.report_quiet _ e
    | ok result => exact (Obeys.modify fun _ => trivial).bind fun _ => .modify fun _ => trivial
  exact (Obeys.modify fun _ => trivial).bind fun _ => h_reply.bind fun _ => Session.flush_quiet

/-- Leaving gives the guard back and sends everything. -/
theorem Authoring.eval_leave (result : Except Failure Authoring) (m : Machine Session) :
    ∃ m', (leave result).eval m = (.ok (), m') ∧ m'.memory.outbox.queue = [] ∧
      m'.memory.context.busy = false ∧ m'.memory.handlers = m.memory.handlers ∧
      m'.memory.config = m.memory.config := by
  cases result <;> exact ⟨_, Session.eval_flush _, rfl, rfl, rfl, rfl⟩

namespace Program

variable {σ α β : Type}

/-- A program that runs like another comes to the same. -/
theorem eval_of_run {p q : Program σ α} {m m' : Machine σ}
    (h : ∀ stop, p.run stop m = q.run stop m') : p.eval m = q.eval m' := by
  have h_never := h .never
  rw [run_never, run_never] at h_never
  obtain ⟨h_result, h_machine⟩ := Prod.mk.inj h_never
  exact Prod.ext (Ended.finished.inj h_result) h_machine

theorem eval_attempt_bind (p : Program σ α) (f : Except Failure α → Program σ β)
    (m : Machine σ) : (p.attempt.bind f).eval m = (f (p.eval m).1).eval (p.eval m).2 := by
  rw [eval_bind, eval_attempt]

end Program

namespace World

variable {limits : Json.Limits} {w done : World Unit} {inbound : Inbound}

/-- The session and the host after a program, whatever happened before. -/
theorem runProgram_outcome (w : World Unit) (p : Program Session Unit) :
    ((w.runProgram p).2.current, (w.runProgram p).2.host) =
      (p.outcome w.current w.host).2 :=
  congrArg Prod.snd (p.eval_eq_outcome w.machine)

/-- **A stretch inside the guard** ends inside it or leaves it. -/
theorem Flight.settle {task : String} {p : Program Session Authoring} {m : Machine Session}
    {r : Ended Session Authoring × Machine Session} (h_tasks : w.tasks = ∅)
    (h_settled : m.memory.Settled) (h_limits : m.memory.config.limits = limits)
    (h_busy : m.memory.context.busy = true) (h_open : m.memory.closed = false)
    (h_leads : (Policy.recording False).Leads m r.2)
    (h_rest : ∀ rest, r.1 = .held rest → rest.Obeys (.recording False))
    (h_total : Ended.total r = p.eval m)
    (h_done : ((p.attempt.bind Authoring.leave).outcome m.memory m.host).2 =
      (done.current, done.host)) :
    Flight limits (w.settle task (Ended.conclude Authoring.leave r)).2 done := by
  -- only records have changed
  have h_same : r.2.memory.withoutRecords = m.memory.withoutRecords := h_leads.changes
  have h_outcome := congrArg Prod.snd ((p.attempt.bind Authoring.leave).eval_eq_outcome m)
  rw [h_done, eval_attempt_bind, ← h_total] at h_outcome
  obtain ⟨result | rest, m'⟩ := r
  · -- the guard is left
    obtain ⟨m'', h_eval, h_nothing, h_free, h_handlers, h_config⟩ :=
      Authoring.eval_leave result m'
    simp only [Ended.total, h_eval] at h_outcome
    simp only [Ended.conclude, h_eval, World.settle]
    refine ⟨⟨?_, h_nothing⟩, ?_, .inl ⟨h_tasks, h_free, ?_, ?_⟩⟩
    · change m''.memory.handlers.find? _ = _
      rw [h_handlers]
      exact (congrArg (·.handlers.find? "create-interaction") h_same).trans h_settled.handler
    · change m''.memory.config.limits = _
      rw [h_config]
      exact (congrArg (·.config.limits) h_same).trans h_limits
    · exact congrArg Prod.fst h_outcome
    · exact congrArg Prod.snd h_outcome
  · -- the rest is held, and comes to what the whole comes to
    have h_eval := congrArg Prod.snd ((rest.attempt.bind Authoring.leave).eval_eq_outcome m')
    rw [eval_attempt_bind] at h_eval
    refine ⟨⟨?_, ?_⟩, ?_, .inr ⟨task, rest, ?_, ?_, ?_, h_rest rest rfl, ?_⟩⟩
    · exact (congrArg (·.handlers.find? "create-interaction") h_same).trans h_settled.handler
    · exact (congrArg (·.outbox.queue) h_same).trans h_settled.nothing
    · exact (congrArg (·.config.limits) h_same).trans h_limits
    · simp only [Ended.conclude, World.settle, h_tasks]
      rfl
    · exact (congrArg (·.context.busy) h_same).trans h_busy
    · exact (congrArg (·.closed) h_same).trans h_open
    · exact h_eval.symm.trans h_outcome

/-! ### Messages coming in -/

section Arrivals

variable {e : Envelope} (h_settled : w.current.Settled)
  (h_decodes : inbound.toEnvelope w.current.config.limits = .ok e)
  (h_type : e.type = "create-interaction")

include h_settled h_decodes h_type

theorem run_dispatch_author (h_open : w.current.closed = false) (stop : Stop) :
    (Session.dispatch inbound).run stop w.machine =
      (do Session.author e.data; Session.flush).run stop w.machine :=
  Session.run_dispatch .author h_open h_decodes
    (h_type ▸ h_settled.handler) (Session.author_unfailing e.data) stop

/-- **A message that is let in** runs inside the guard. -/
theorem run_dispatch_admitted (h_admits : w.current.admits inbound = true) :
    w.current.closed = false ∧ ∃ i : Interaction, ∀ stop,
      (Session.dispatch inbound).run stop w.machine =
        ((Authoring.carryOut i).attempt.bind Authoring.leave).run stop
          { w.machine with memory := w.current.enter } := by
  simp only [Session.admits, Bool.and_eq_true, Bool.not_eq_true', h_decodes] at h_admits
  obtain ⟨⟨h_open, h_free⟩, h_reads⟩ := h_admits
  refine ⟨h_open, ?_⟩
  cases h_payload : Interaction.ofJson e.data with
  | error e' =>
    rw [h_payload] at h_reads
    cases h_reads
  | ok i =>
    refine ⟨i, fun stop => ?_⟩
    rw [run_dispatch_author h_settled h_decodes h_type h_open]
    exact Session.run_author_admitted h_payload h_free stop

/-- **A message that is not let in** tells every listener of one error, and that is all. -/
theorem startTask_refused (h_open : w.current.closed = false)
    (h_admits : w.current.admits inbound = false) (task : String) (stop : Stop) :
    ∃ text cause, w.startTask task (Session.dispatch inbound) stop =
      (.done (), { w with
        events := w.events.push (.log .error text cause) ++
          (w.current.outbox.subscribers.map fun listener =>
            Event.sent listener { type := "error", message := some text }).toArray }) := by
  have h_refused : ∃ failure, (do
      let _ ← Interaction.ofJson e.data
      w.current.context.acquire) = .error failure := by
    cases h_payload : Interaction.ofJson e.data with
    | error e' => exact ⟨e', rfl⟩
    | ok i =>
      -- the message holds an interaction, so it is the guard that is taken
      have h_busy : w.current.context.busy = true := by
        simpa [Session.admits, h_open, h_decodes, h_payload, Except.isOk, Except.toBool]
          using h_admits
      refine ⟨.busy, ?_⟩
      change w.current.context.acquire = _
      rw [Context.acquire, if_pos h_busy]
  obtain ⟨failure, h_refused⟩ := h_refused
  rw [startTask_eq, run_dispatch_author h_settled h_decodes h_type h_open,
    Session.run_author_refused h_refused]
  -- what was posted is sent, and nothing waited before it
  have h_nothing : w.current.outbox.queue = [] := h_settled.nothing
  have h_outbox (env : Envelope) : (w.current.outbox.post env).clear = w.current.outbox := by
    rw [Outbox.clear, Outbox.post, ← h_nothing]
  have h_deliveries (env : Envelope) : (w.current.outbox.post env).deliveries =
      w.current.outbox.subscribers.map fun listener => (listener, env) := by
    simp [Outbox.post, Outbox.deliveries, h_nothing]
  simp only [World.settle, World.withMachine, Machine.flushed, Machine.reported, World.machine,
    h_outbox, h_deliveries, List.map_map, Function.comp_def]
  exact ⟨_, some failure, rfl⟩

omit h_decodes h_type in
/-- A closed session takes no notice. -/
theorem startTask_closed (inbound : Inbound) (h_closed : w.current.closed = true) (task : String)
    (stop : Stop) :
    ∃ events, w.startTask task (Session.dispatch inbound) stop = (.done (), { w with events }) := by
  have h_quiet : (do Program.log .debug "Session closed; ignoring message"; Session.flush :
      Program Session Unit).Quiet := (Obeys.log rfl).bind fun _ => Session.flush_quiet
  rw [startTask_eq, Session.run_dispatch_closed inbound h_closed, h_quiet.run]
  have h_same := Machine.flushed_eq_self
    (m := w.machine.emit (.log .debug "Session closed; ignoring message" none)) h_settled.nothing
  have h_eval : (do Program.log .debug "Session closed; ignoring message"; Session.flush :
      Program Session Unit).eval w.machine =
        (.ok (), w.machine.emit (.log .debug "Session closed; ignoring message" none)) :=
    (Session.eval_flush _).trans (congrArg _ h_same)
  rw [h_eval]
  exact ⟨_, rfl⟩

end Arrivals

/-! ### Turns -/

/-- What listeners are told does not matter. -/
theorem Flight.tell (h : w.Flight limits done) (events : Array Event) :
    Flight limits { w with events } done := by
  refine ⟨h.settled, h.limits, ?_⟩
  rcases h.phase with h_free | ⟨task, p, h_inside⟩
  · exact .inl ⟨h_free.tasks, h_free.free, h_free.current, h_free.host⟩
  · exact .inr ⟨task, p, h_inside.tasks, h_inside.busy, h_inside.opened, h_inside.obeys,
      h_inside.leads⟩

/-- **A message comes in**, and is let in or not. -/
theorem Flight.start (h : w.Flight limits done)
    (h_type : inbound.HasType limits "create-interaction") (task : String) (stop : Stop) :
    Flight limits (w.startTask task (Session.dispatch inbound) stop).2
      (if w.current.admits inbound then done.advance (.message inbound) else done) := by
  obtain ⟨e, h_decodes, h_type⟩ := h_type
  rw [← h.limits] at h_decodes
  cases h_admits : w.current.admits inbound with
  | false =>
    rw [if_neg Bool.false_ne_true]
    cases h_closed : w.current.closed with
    | true =>
      obtain ⟨events, h_eq⟩ := startTask_closed h.settled inbound h_closed task stop
      rw [h_eq]
      exact h.tell events
    | false =>
      obtain ⟨text, cause, h_eq⟩ :=
        startTask_refused h.settled h_decodes h_type h_closed h_admits task stop
      rw [h_eq]
      exact h.tell _
  | true =>
    obtain ⟨h_open, i, h_run⟩ := run_dispatch_admitted h.settled h_decodes h_type h_admits
    have h_admits' := h_admits
    simp only [Session.admits, Bool.and_eq_true, Bool.not_eq_true'] at h_admits'
    rw [if_pos rfl]
    rcases h.phase with h_free | ⟨_, _, h_inside⟩
    · -- what the message comes to is what it comes to when it is handled at once
      have h_obeys := Authoring.carryOut_obeys i
      have h_done : (((Authoring.carryOut i).attempt.bind Authoring.leave).outcome
          w.current.enter w.host).2 =
            ((done.advance (.message inbound)).current,
              (done.advance (.message inbound)).host) := by
        refine Eq.trans ?_ (runProgram_outcome done (Session.dispatch inbound)).symm
        rw [← h_free.current, ← h_free.host]
        have h_all := congrArg Prod.snd
          ((Session.dispatch inbound).eval_eq_outcome w.machine)
        rw [eval_of_run h_run] at h_all
        exact (congrArg Prod.snd (Program.eval_eq_outcome _ _)).symm.trans h_all
      rw [startTask_eq, h_run, run_conclude Authoring.leave_quiet]
      obtain ⟨h_leads, h_rest⟩ := run_obeys (Authoring.carryOut i) stop
        (m := { w.machine with memory := w.current.enter }) (h_obeys _)
      exact Flight.settle h_free.tasks ⟨h.settled.handler, h.settled.nothing⟩ h.limits rfl h_open
        h_leads h_rest (run_total (P := .recording False) id _ stop (h_obeys _)) h_done
    · rw [h_inside.busy] at h_admits'
      cases h_admits'.1.2

/-- **The handling of a message goes on.** -/
theorem Flight.resume (h : w.Flight limits done) (task : String) (stop : Stop) :
    Flight limits (w.resumeTask task stop).2 done := by
  rcases h.phase with h_free | ⟨held, p, h_inside⟩
  · rw [resumeTask_absent (by rw [h_free.tasks]; rfl)]
    exact h
  · -- only the task inside can go on; a task of any other name does not exist
    by_cases h_task : held = task
    · subst h_task
      have h_found : w.tasks.find? held = some
          { session := w.currentNumber, rest := p.attempt.bind Authoring.leave } := by
        rw [h_inside.tasks, Registry.find?_insert_self]
      have h_erased : w.tasks.erase held = ∅ := by
        rw [h_inside.tasks]
        ext1
        simp [Registry.erase, Registry.insert, Entries.remove, Entries.put,
          EmptyCollection.emptyCollection, Registry.empty]
      rw [resumeTask_eq h_found, resume_conclude Authoring.leave_quiet, h_erased]
      obtain ⟨h_leads, h_rest⟩ := resume_obeys stop (m := w.machine) (h_inside.obeys _)
      exact Flight.settle rfl h.settled h.limits h_inside.busy h_inside.opened h_leads h_rest
        (resume_total (P := .recording False) id stop (h_inside.obeys _)) h_inside.leads
    · have h_absent : w.tasks.find? task = none := by
        rw [h_inside.tasks, Registry.find?_insert_of_ne _ _ h_task]
        rfl
      rw [resumeTask_absent h_absent]
      exact h

/-- **What a turn of authoring comes to.** -/
theorem Flight.turn (h : w.Flight limits done) {t : Turn} (ht : t.Authors limits) :
    (w.turn t).Flight limits (done.after ((w.admitted? t).toList.map .message)) := by
  match t, ht with
  | .start task (.message inbound) stop, h_type =>
    have h_next := h.start h_type task stop
    simp only [World.admitted?]
    split at h_next <;> rename_i h_admits
    · rw [if_pos h_admits]
      exact h_next
    · rw [if_neg h_admits]
      exact h_next
  | .resume task stop, _ => exact h.resume task stop

theorem Flight.turns {ts : List Turn} (h : w.Flight limits done)
    (h_turns : ∀ t ∈ ts, t.Authors limits) :
    (w.turns ts).Flight limits (done.after ((w.admitted ts).map .message)) := by
  induction ts generalizing w done with
  | nil => exact h
  | cons t ts ih =>
    have h_next := ih (h.turn (h_turns t List.mem_cons_self))
      fun t' h_mem => h_turns t' (List.mem_cons_of_mem _ h_mem)
    simp only [World.admitted, List.map_append, World.after, List.foldl_append] at h_next ⊢
    exact h_next

/-- **At most one interaction is authored at a time.** Let a session be at rest: its guard is free,
no message is being handled and nothing waits to be sent. Let messages that ask for interactions
come in, and their handling be held at any calls and resumed in any order, on any host with any
failures arranged. Then after any turns

* at most one message is being handled, it is inside the guard, and the guard is taken if and only
  if there is one;
* while there is one, a message that comes in is done with at once: every listener is told one
  error, no call is made and nothing else changes, so the guard stays taken;
* when there is none, the session and the host are as if the messages that were let in had been
  handled to their end, one after another. -/
theorem single_flight (w : World Unit) (ts : List Turn) (h_settled : w.current.Settled)
    (h_free : w.current.context.busy = false) (h_tasks : w.tasks = ∅)
    (h_turns : ∀ t ∈ ts, t.Authors w.current.config.limits) :
    let w' := w.turns ts
    (w'.tasks.entries.length ≤ 1 ∧
      (∀ e ∈ w'.tasks.entries, ∃ p : Program Session Authoring,
        e.2.rest = p.attempt.bind Authoring.leave) ∧
      (w'.current.context.busy = true ↔ w'.tasks ≠ ∅)) ∧
    (w'.tasks ≠ ∅ → ∀ (task : String) (inbound : Inbound) (stop : Stop),
      inbound.HasType w.current.config.limits "create-interaction" → ∃ text cause,
        w'.startTask task (Session.dispatch inbound) stop = (.done (), { w' with
          events := w'.events.push (.log .error text cause) ++
            (w'.current.outbox.subscribers.map fun listener =>
              Event.sent listener { type := "error", message := some text }).toArray })) ∧
    (w'.tasks = ∅ →
      w'.current = (w.after ((w.admitted ts).map .message)).current ∧
      w'.host = (w.after ((w.admitted ts).map .message)).host) := by
  intro w'
  have h_flight : w'.Flight w.current.config.limits (w.after ((w.admitted ts).map .message)) :=
    Flight.turns ⟨h_settled, rfl, .inl ⟨h_tasks, h_free, rfl, rfl⟩⟩ h_turns
  rcases h_flight.phase with h_phase | ⟨task, p, h_phase⟩
  · refine ⟨⟨?_, ?_, ?_⟩, fun h_held => absurd h_phase.tasks h_held,
      fun _ => ⟨h_phase.current, h_phase.host⟩⟩
    · rw [h_phase.tasks]
      exact Nat.zero_le 1
    · rw [h_phase.tasks]
      exact fun e he => nomatch he
    · rw [h_phase.free]
      exact iff_of_false Bool.false_ne_true fun h_held => h_held h_phase.tasks
  · have h_entries : w'.tasks.entries =
        [(task, { session := w'.currentNumber, rest := p.attempt.bind Authoring.leave })] := by
      rw [h_phase.tasks]
      rfl
    have h_held : w'.tasks ≠ ∅ := fun h_none => by
      rw [h_none] at h_entries
      cases h_entries
    refine ⟨⟨?_, ?_, ?_⟩, ?_, fun h_none => absurd h_none h_held⟩
    · rw [h_entries]
      exact Nat.le_refl 1
    · rw [h_entries]
      intro e he
      rw [List.mem_singleton] at he
      exact ⟨p, by rw [he]⟩
    · exact iff_of_true h_phase.busy h_held
    · rintro - task' inbound stop ⟨e, h_decodes, h_type⟩
      rw [← h_flight.limits] at h_decodes
      have h_refused : w'.current.admits inbound = false := by
        simp [Session.admits, h_phase.busy]
      exact startTask_refused h_flight.settled h_decodes h_type h_phase.opened h_refused task' stop

/-- The first message is held twice. A second one comes in meanwhile and is refused, and so is what
comes before the first one has ended. -/
theorem single_flight_on_panel :
    let first := Inbound.authoring (.switchingOn "tabs" 1 ["badges"])
    let second := Inbound.authoring (.switchingOn "badges" 2 [])
    let ts : List Turn := [.start "first" (.message first) .everywhere,
      .start "second" (.message second) .never, .resume "first" (.before .bindProperty 2),
      .start "second" (.message second) .never, .resume "first" .never]
    ((panel.after [.notice]).turns ts).host = (panel.after [.notice, .message first]).host := by
  intro first second ts
  have h_settled : (panel.after [.notice]).current.Settled :=
    ⟨by decide +kernel, List.isEmpty_iff.mp (by decide +kernel)⟩
  have h_turns : ∀ t ∈ ts, t.Authors (panel.after [.notice]).current.config.limits := by
    simp only [ts, List.mem_cons, List.not_mem_nil, or_false]
    rintro t (rfl | rfl | rfl | rfl | rfl)
    · exact ⟨_, rfl, rfl⟩
    · exact ⟨_, rfl, rfl⟩
    · trivial
    · exact ⟨_, rfl, rfl⟩
    · trivial
  have h_flight := single_flight (panel.after [.notice]) ts h_settled (by decide +kernel) rfl
    h_turns
  have h_done := h_flight.2.2 (Registry.ext (List.isEmpty_iff.mp (by decide +kernel)))
  -- only the first message was let in
  have h_first : (panel.after [.notice]).current.admits first = true := by decide +kernel
  have h_second : ((panel.after [.notice]).turns (ts.take 1)).current.admits second = false := by
    decide +kernel
  have h_again : ((panel.after [.notice]).turns (ts.take 3)).current.admits second = false := by
    decide +kernel
  have h_admitted : (panel.after [.notice]).admitted ts = [first] := by
    simp only [ts, World.turns, List.take_succ_cons, List.take_zero, List.foldl_cons,
      List.foldl_nil] at h_second h_again
    simp only [ts, World.admitted, World.admitted?, h_first, h_second, h_again, if_true,
      Bool.false_eq_true, if_false, Option.toList, List.append_nil]
  refine h_done.2.trans ?_
  rw [h_admitted]
  rfl

end World

end Clickwork
