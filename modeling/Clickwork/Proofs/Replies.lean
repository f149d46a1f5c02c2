import Clickwork.Proofs.Latest
import Clickwork.Proofs.SingleFlight

/-!
# How messages are answered

An open session answers each message that asks for an interaction or for an analysis with one
envelope (`World.Answers`), whatever fails. For an interaction it depends on what carrying it out
comes to (`World.answers_authoring`); a message that is not let in is answered with an error and
changes nothing (`World.answers_refused`). For an analysis it depends on what the search comes to
(`World.answers_init`).
-/

namespace Clickwork

open Program

/-- **A message is answered with one envelope**: each listener has been told, or is told when the
outbox is flushed, what it was told before and the envelope. -/
def World.Answers (w : World Unit) (inbound : Inbound) (reply : Envelope) : Prop :=
  ∀ listener, ∃ m : Machine Session, m.told listener = w.machine.told listener ++ [reply] ∧
    (Session.dispatch inbound).eval w.machine = (.ok (), m.flushed)

namespace Session

/-- **The answer to a message that asks for an interaction**, by what authoring it came to. -/
def replyTo : Except Failure Authoring → Envelope
  | .error e => { type := "error", message := some s!"Failed to create interaction: {e.message}" }
  | .ok result =>
    let name := if result.group.name.isEmpty then "Unknown Component" else result.group.name
    { type := "interaction-created"
      message := some s!"Interaction created successfully for {name}" }

end Session

/-- **The answer to a message that asks for an analysis**, by what the search came to. -/
def Analysis.replyTo : Except Failure Found → Envelope
  | .ok found => { type := "init-success", data := (found.analysis true).toJson }
  | .error e => { type := "error", message := some s!"Initialization failed: {e.message}" }

theorem Finish.envelope_eq (f : Finish) : f.envelope = Analysis.replyTo f.result := by
  unfold envelope
  split <;> rename_i h_result <;> rw [h_result] <;> rfl

/-- Leaving the guard tells each listener of the result. -/
theorem Authoring.eval_leave_tells (r : Except Failure Authoring) (m : Machine Session) :
    ∃ m' : Machine Session, (leave r).eval m = (.ok (), m'.flushed) ∧
      (∀ listener, m'.told listener = m.told listener ++ [Session.replyTo r]) ∧
      m'.flushed.host = m.host ∧ ∃ outbox, m'.flushed.memory = { m.memory.left r with outbox } := by
  cases r with
  | error e =>
    exact ⟨_, Session.eval_flush _, fun listener => Machine.told_reported
      { m with memory := { m.memory with context := m.memory.context.release } } listener _ e,
      rfl, _, rfl⟩
  | ok a =>
    exact ⟨_, Session.eval_flush _, fun listener => Machine.told_post
      { m with memory := { m.memory with
        context := m.memory.context.release, lastAuthoring := some a } } listener _, rfl, _, rfl⟩

namespace World

variable {w : World Unit} {inbound : Inbound} {e : Envelope}

theorem advance_message (w : World Unit) (inbound : Inbound) :
    w.advance (.message inbound) = w.withMachine ((Session.dispatch inbound).eval w.machine).2 :=
  rfl

section Authoring

variable (h_open : w.current.closed = false)
  (h_handler : w.current.handlers.find? "create-interaction" = some .author)
  (h_decodes : inbound.toEnvelope w.current.config.limits = .ok e)
  (h_type : e.type = "create-interaction")

include h_open h_handler h_decodes h_type

/-- **A message that is let in** is answered by what carrying the interaction out comes to, and
leaves behind what that does. -/
theorem answers_authoring {i : Interaction} (h_reads : Interaction.ofJson e.data = .ok i)
    (h_free : w.current.context.busy = false) :
    let o := (Authoring.carryOut i).outcome w.current.enter w.host
    w.Answers inbound (Session.replyTo o.1) ∧ (w.advance (.message inbound)).host = o.2.2 ∧
      ∃ outbox, (w.advance (.message inbound)).current = { o.2.1.left o.1 with outbox } := by
  intro o
  have h_eval : (Session.dispatch inbound).eval w.machine =
      ((Authoring.carryOut i).attempt.bind Authoring.leave).eval
        { w.machine with memory := w.current.enter } := by
    refine eval_of_run fun stop => ?_
    rw [Session.run_dispatch .author h_open h_decodes (h_type ▸ h_handler)
      (Session.author_unfailing e.data)]
    exact Session.run_author_admitted h_reads h_free stop
  rw [eval_attempt_bind] at h_eval
  -- what carrying out comes to does not depend on the events before, and it tells nobody anything
  have h_outcome : _ = o := eval_eq_outcome (Authoring.carryOut i)
    { w.machine with memory := w.current.enter }
  have h_leads := (run_obeys (Authoring.carryOut i) .never
    (m := { w.machine with memory := w.current.enter }) (Authoring.carryOut_obeys i _)).1
  rw [run_never] at h_leads
  have h_told (listener : String) := Machine.told_leads h_leads listener
  rw [← h_outcome, advance_message, h_eval]
  obtain ⟨m, h_leave, h_tells, h_host, outbox, h_memory⟩ := Authoring.eval_leave_tells
    ((Authoring.carryOut i).eval { w.machine with memory := w.current.enter }).1
    ((Authoring.carryOut i).eval { w.machine with memory := w.current.enter }).2
  refine ⟨fun listener => ⟨m, (h_tells listener).trans (congrArg (· ++ _) (h_told listener)),
    h_eval.trans h_leave⟩, ?_⟩
  rw [h_leave]
  exact ⟨h_host, outbox, h_memory⟩

/-- **A message that is not let in** is answered with an error, and nothing else is done: it holds
no interaction, or the guard is taken. -/
theorem answers_refused {failure : Failure} (h_refused : (do
      let _ ← Interaction.ofJson e.data
      w.current.context.acquire) = .error failure) :
    w.Answers inbound (Session.replyTo (.error failure)) ∧
      (w.advance (.message inbound)).host = w.host ∧
      ∃ outbox, (w.advance (.message inbound)).current = { w.current with outbox } := by
  have h_eval : (Session.dispatch inbound).eval w.machine =
      (.ok (), (w.machine.reported "Failed to create interaction" failure).flushed) := by
    have h_run := Session.run_dispatch (m := w.machine) .author h_open h_decodes
      (h_type ▸ h_handler) (Session.author_unfailing e.data) .never
    rw [Session.serve, Session.run_author_refused h_refused, run_never] at h_run
    obtain ⟨h_result, h_machine⟩ := Prod.mk.inj h_run
    exact Prod.ext (Ended.finished.inj h_result) h_machine
  refine ⟨fun listener => ⟨_, w.machine.told_reported listener _ failure, h_eval⟩, ?_⟩
  rw [advance_message, h_eval]
  exact ⟨rfl, _, rfl⟩

end Authoring

/-- **A message that asks for an analysis** is answered by what the search comes to. -/
theorem answers_init (h_open : w.current.closed = false)
    (h_handler : w.current.handlers.find? "init" = some .analyse)
    (h_type : inbound.HasType w.current.config.limits "init") :
    w.Answers inbound (Analysis.replyTo
      (Analysis.search.outcome (w.current.opened (.message inbound)) w.host).1) := by
  intro listener
  obtain ⟨m₀, h_start⟩ : ∃ m₀ : Machine Session, m₀ =
    { w.machine with memory := w.current.opened (.message inbound) } := ⟨_, rfl⟩
  have h_eval : (Session.dispatch inbound).eval w.machine =
      (Analysis.search.attempt.bind (Analysis.finish (w.current.context.token + 1))).eval m₀ := by
    rw [h_start]
    have h_analyses : (Entry.message inbound).Analyses w.current.config.limits := h_type
    exact eval_of_run fun stop => Entry.run_open (m := w.machine) h_analyses h_handler h_open stop
  have h_result : (Analysis.search.eval m₀).1 =
      (Analysis.search.outcome (w.current.opened (.message inbound)) w.host).1 := by
    have h_outcome := congrArg Prod.fst (eval_eq_outcome Analysis.search m₀)
    rw [h_outcome, h_start]
    rfl
  have h_leads := (run_obeys Analysis.search .never (Analysis.search_obeys m₀.memory)).1
  rw [run_never] at h_leads
  rw [eval_attempt_bind, h_result] at h_eval
  obtain ⟨m, h_finish, -, h_tells⟩ := Analysis.eval_finish (w.current.context.token + 1)
    { number := 0, started := 0, result :=
      (Analysis.search.outcome (w.current.opened (.message inbound)) w.host).1 }
    (Analysis.search.eval m₀).2 listener
  refine ⟨m, ?_, h_eval.trans h_finish⟩
  -- no other analysis has started meanwhile
  have h_token : (Analysis.search.eval m₀).2.memory.context.token = w.current.context.token + 1 :=
    (congrArg (·.context.token) h_leads.changes).trans (congrArg (·.memory.context.token) h_start)
  rw [if_pos h_token, Machine.told_leads h_leads, Finish.envelope_eq] at h_tells
  have h_start_told : m₀.told listener = w.machine.told listener := by
    rw [h_start]
    rfl
  exact (Prod.mk.inj h_tells).2.trans (congrArg (· ++ _) h_start_told)

end World

end Clickwork
