import Clickwork.Proofs.Conduct
import Clickwork.Proofs.Turns

/-!
# Only the analysis that started last counts

Several analyses may be under way on one session, each held before some call and resumed later, in
any order. An analysis first asks the host for all it needs (`Analysis.search`) and then concludes
without a call (`Analysis.conclude`). So one stretch decides whether it is still the analysis that
started last, takes its result over and tells the panel.

A `Ledger` keeps account of the analyses beside the world that runs them: it numbers them in the
order of starting, follows the search of each, and notes what it came to and how many analyses had
started by then. It knows nothing of tokens, contexts and envelopes. `World.only_latest_counts` says
that what the session holds and tells can be read off the account.
-/

namespace Clickwork

open Program

/-! ### Searching and concluding -/

/-- **What an analysis finds**, before it is known whether the session takes it over. -/
structure Found where
  selectedName : String
  groups : List Group
  existing : Registry String Interaction

/-- The result of an analysis that found this. -/
def Found.analysis (f : Found) (current : Bool) : Analysis :=
  { selectedName := f.selectedName, groups := f.groups, existing := f.existing, current }

namespace Analysis

/-- **The part of an analysis that asks the host.** -/
def search : Program Session Found := do
  let selected ← selectedInstance
  let nested ← Discovery.nestedInstances selected.id
  if nested.isEmpty then Program.lift (.error (.selection .nothingNested))
  let groups ← Discovery.groups nested
  let config ← Session.readConfig
  let _ ← Wiring.ensureCollection config.collection
  let existing ← Records.existing (groups.map (·.id))
  return { selectedName := selected.name, groups, existing }

/-- **The part of an analysis that makes no calls**, given what the search came to. -/
def conclude (token : Int) : Except Failure Found → Program Session Unit
  | .ok found => do
    let current ← commit token found.selectedName found.groups
    if current then
      Session.post { type := "init-success", data := (found.analysis current).toJson }
  | .error e => do
    if (← Session.readContext).isCurrent token then Session.report "Initialization failed" e
    else Program.log .debug s!"Stale analysis failed: {e.message}"

/-- Concludes an analysis and sends what was posted. -/
def finish (token : Int) (result : Except Failure Found) : Program Session Unit := do
  conclude token result
  Session.flush

theorem run_eq_search (token : Int) : run token = (do
    let found ← search
    let current ← commit token found.selectedName found.groups
    return found.analysis current) := by
  unfold run search
  simp only [LawfulMonad.bind_assoc]
  refine congrArg _ (funext fun selected => congrArg _ (funext fun nested => ?_))
  split
  · rfl
  · simp only [LawfulMonad.bind_assoc, LawfulMonad.pure_bind]
    rfl

theorem commit_unfailing (token : Int) (selectedName : String) (groups : List Group) :
    (commit token selectedName groups).Unfailing := by
  refine Unfailing.bind (Unfailing.bind .read fun _ => .pure _) fun context => ?_
  split <;> rfl

theorem conclude_unfailing (token : Int) (result : Except Failure Found) :
    (conclude token result).Unfailing := by
  cases result with
  | error e =>
    refine Unfailing.bind (Unfailing.bind .read fun _ => .pure _) fun context => ?_
    split <;> rfl
  | ok found =>
    refine (commit_unfailing _ _ _).bind fun current => ?_
    split <;> rfl

theorem finish_quiet (token : Int) (result : Except Failure Found) :
    (finish token result).Quiet := by
  have h_post (e : Envelope) : (Session.post e).Quiet := .modify fun _ => trivial
  have h_conclude : (conclude token result).Quiet := by
    cases result with
    | error e =>
      refine Session.readContext_obeys.bind fun context => ?_
      split
      · exact Session.report_quiet _ e
      · exact .log rfl
    | ok found =>
      have h_commit : (commit token found.selectedName found.groups).Quiet := by
        refine Session.readContext_obeys.bind fun context => ?_
        split
        · exact (Obeys.modify fun _ => trivial).bind fun _ => .pure _
        · exact (Obeys.log rfl).bind fun _ => .pure _
      refine h_commit.bind fun current => ?_
      split
      · exact h_post _
      · exact .pure _
  exact h_conclude.bind fun _ => Session.flush_quiet

end Analysis

/-- **An analysis searches, and then concludes.** -/
theorem Session.analyse_eq : analyse = (do
    let token ← Analysis.begin
    Analysis.search.attempt.bind (Analysis.conclude token)) := by
  refine congrArg _ (funext fun token => ?_)
  rw [Analysis.run_eq_search]
  change ((Analysis.search.bind fun found => _).attempt.bind _) = _
  rw [attempt_bind, Program.bind_assoc]
  refine congrArg _ (funext fun result => ?_)
  cases result with
  | error e => rfl
  | ok found =>
    -- nothing fails once the search has come to a result
    have h_rest : (do
        let current ← Analysis.commit token found.selectedName found.groups
        return found.analysis current : Program Session Analysis).Unfailing :=
      (Analysis.commit_unfailing _ _ _).bind fun _ => .pure _
    change Program.bind (Program.attempt _) _ = _
    rw [onOk, h_rest]
    change (((Analysis.commit token found.selectedName found.groups).bind _).bind _).bind _ = _
    rw [Program.bind_assoc, Program.bind_assoc]
    rfl

theorem Session.analyse_unfailing : analyse.Unfailing := by
  rw [analyse_eq]
  refine Unfailing.bind rfl fun token => ?_
  exact (Unfailing.attempt _).bind (Analysis.conclude_unfailing token)

/-! ### What a search may do -/

/-- **Searching**, given that the collection is ensured and records are read in some way. -/
theorem Analysis.search_holds {D : Discipline Session} {possible : Config → Prop}
    (h_looks : ∀ c : Call, c.Looks → D.Permits c)
    (h_walk : ∀ ids, D.Holds (Program.instancesBelow ids))
    (h_config : D.Sees Session.config possible)
    (h_ensure : ∀ config, possible config → D.Holds (Wiring.ensureCollection config.collection))
    (h_get : ∀ group, D.Holds (Records.get group)) : D.Holds search := by
  have h_selected : D.Holds selectedInstance := by
    refine D.bind (.ask (h_looks _ trivial)) fun selection => ?_
    split
    · refine D.bind (.ask (h_looks (.node _) trivial)) fun node => ?_
      split
      · split
        · exact .pure _
        · exact D.lift _
      · exact D.lift _
    · exact D.lift _
  have h_rest (selected : NodeInfo) (nested : List String) : D.Holds (do
      let groups ← Discovery.groups nested
      let config ← Session.readConfig
      let _ ← Wiring.ensureCollection config.collection
      let existing ← Records.existing (groups.map (·.id))
      return { selectedName := selected.name, groups, existing } : Program Session Found) := by
    refine D.bind (Discovery.groups_holds h_looks nested) fun groups => ?_
    refine h_config.readConfig fun config h_possible => ?_
    refine D.bind (h_ensure config h_possible) fun _ => ?_
    exact D.bind (Records.existing_holds h_get _) fun _ => .pure _
  refine D.bind h_selected fun selected => ?_
  -- where nothing is nested, the search ends before anything is looked up
  refine D.bind (Discovery.nestedInstances_holds (fun _ => h_looks _ trivial) h_walk _)
    fun nested => ?_
  dsimp only
  split
  · exact D.bind (D.lift _) fun _ => h_rest selected nested
  · exact h_rest selected nested

/-- **A search** changes nothing but the records, and delivers nothing. -/
theorem Analysis.search_obeys : search.Obeys (.recording True) :=
  search_holds (D := .recording True) (fun c _ => Discipline.permits_recording c)
    (fun ids => .instancesBelow trivial ids) (Discipline.sees_recording _)
    (fun _ _ => Wiring.ensureCollection_holds (Discipline.permits_recording _)
      (Discipline.permits_recording _))
    Records.get_obeys

/-! ### What an analysis changes when it finishes -/

/-- The selection that a context holds. -/
def Context.taken (c : Context) : Option String × List Group :=
  (c.selectedName, c.groups)

/-- What no analysis changes in the memory of a session once it has started. -/
def Session.frame (s : Session) :
    Registry String Handler × Config × List String × Int × Bool :=
  (s.handlers, s.config, s.outbox.subscribers, s.context.token, s.closed)

/-- **An analysis that has finished**: its number in the order of starting, how many analyses had
started by then, and what its search came to. -/
structure Finish where
  number : Nat
  started : Nat
  result : Except Failure Found

namespace Finish

/-- Whether it was still the analysis that started last. -/
def timely (f : Finish) : Bool :=
  f.number == f.started

/-- What the panel is told about the analysis. -/
def envelope (f : Finish) : Envelope :=
  match f.result with
  | .ok found => { type := "init-success", data := (found.analysis true).toJson }
  | .error e => { type := "error", message := some ("Initialization failed" ++ ": " ++ e.message) }

/-- The selection that is held after the analysis. -/
def commits (taken : Option String × List Group) (f : Finish) : Option String × List Group :=
  match f.result with
  | .ok found => (some found.selectedName, found.groups)
  | .error _ => taken

end Finish

/-- Whether an envelope tells how an analysis ended. -/
def Envelope.isVerdict (e : Envelope) : Bool :=
  e.type == "init-success" || e.type == "error"

/-- **The verdicts that a listener has been told or is about to be told.** -/
def Machine.verdicts (m : Machine Session) (listener : String) : List Envelope :=
  (m.told listener).filter (·.isVerdict)

theorem Finish.isVerdict_envelope (f : Finish) : f.envelope.isVerdict = true := by
  unfold envelope
  split <;> rfl

namespace Machine

theorem told_post (m : Machine Session) (listener : String) (e : Envelope) :
    told { m with memory := { m.memory with outbox := m.memory.outbox.post e } } listener =
      m.told listener ++ [e] := by
  simp [told, Outbox.post]

theorem told_reported (m : Machine Session) (listener context : String) (e : Failure) :
    (m.reported context e).told listener =
      m.told listener ++ [{ type := "error", message := some (context ++ ": " ++ e.message) }] := by
  simp [told, reported, Outbox.post, Event.tells?]
  rfl

theorem told_log (m : Machine Session) (listener : String) (level : Level) (text : String)
    (cause : Option Failure) :
    (m.emit (.log level text cause)).told listener = m.told listener := by
  simp [told, emit, Event.tells?]

/-- Whatever delivers nothing and leaves the outbox alone tells nothing. -/
theorem told_leads {m m' : Machine Session} {walks : Prop}
    (h : (Policy.recording walks).Leads m m') (listener : String) :
    m'.told listener = m.told listener := by
  obtain ⟨new, h_new, h_events⟩ := h.events
  have h_none : new.filterMap (·.tells? listener) = [] :=
    List.filterMap_eq_nil_iff.mpr fun e he => Event.tells?_of_not_sent (h_events e he) listener
  have h_same : m'.memory.withoutRecords = m.memory.withoutRecords := h.changes
  have h_queue : m'.memory.outbox.queue = m.memory.outbox.queue :=
    congrArg (·.outbox.queue) h_same
  rw [told, told, h_new, List.filterMap_append, h_none, List.append_nil, h_queue]

end Machine

/-- **An analysis finishes.** If it is the one that started last, its result is taken over and one
verdict is posted; otherwise nothing is. -/
theorem Analysis.eval_finish (token : Int) (f : Finish) (m : Machine Session) (listener : String) :
    ∃ m' : Machine Session, (finish token f.result).eval m = (.ok (), m'.flushed) ∧
      m'.memory.frame = m.memory.frame ∧
      (m'.memory.context.taken, m'.told listener) =
        if m.memory.context.token = token then
          (f.commits m.memory.context.taken, m.told listener ++ [f.envelope])
        else (m.memory.context.taken, m.told listener) := by
  have h_current : m.memory.context.isCurrent token = decide (m.memory.context.token = token) := by
    rw [Context.isCurrent]
    exact decide_eq_decide.mpr eq_comm
  obtain ⟨number, started, result⟩ := f
  cases result with
  | error e =>
    -- a failure is reported if the analysis is current, and logged otherwise
    change ∃ m', ((if m.memory.context.isCurrent token then _ else _ :
      Program Session Unit).bind fun _ => Session.flush).eval m = _ ∧ _
    by_cases h_token : m.memory.context.token = token
    · rw [if_pos (h_current.trans (decide_eq_true h_token)), if_pos h_token]
      refine ⟨m.reported "Initialization failed" e, Session.eval_flush _, rfl, ?_⟩
      exact Prod.ext rfl (m.told_reported listener _ e)
    · rw [if_neg (by simpa [h_current] using h_token), if_neg h_token]
      exact ⟨_, Session.eval_flush _, rfl, Prod.ext rfl (m.told_log listener _ _ _)⟩
  | ok found =>
    have h_context (k : Context → Program Session Bool) (post : Bool → Program Session Unit)
        (rest : Unit → Program Session Unit) :
        (((Session.readContext >>= k).bind post).bind rest).eval m =
          (((k m.memory.context).bind post).bind rest).eval m := rfl
    change ∃ m', (((commit token found.selectedName found.groups).bind fun current => _).bind
      fun _ => Session.flush).eval m = _ ∧ _
    -- what was found is committed against the token of this moment
    rw [commit, h_context]
    by_cases h_token : m.memory.context.token = token
    · rw [Context.commit, if_pos (h_current.trans (decide_eq_true h_token)), if_pos h_token]
      refine ⟨_, Session.eval_flush _, rfl, Prod.ext rfl ?_⟩
      exact Machine.told_post { m with memory := { m.memory with context := _ } } listener _
    · rw [Context.commit, if_neg (by simpa [h_current] using h_token), if_neg h_token]
      exact ⟨_, Session.eval_flush _, rfl, Prod.ext rfl (m.told_log listener _ _ _)⟩

/-! ### Starting an analysis -/

/-- **A message or notice that starts an analysis.** -/
def Entry.Analyses (limits : Json.Limits) : Entry → Prop
  | .message inbound => inbound.HasType limits "init"
  | .notice => True

/-- The session when an analysis has started. -/
def Session.opened (s : Session) : Entry → Session
  | .message _ => { s with context := s.context.beginAnalysis }
  | .notice =>
    { s with
      outbox := s.outbox.post
        { type := "selection-changed", message := some "Analyzing new selection..." }
      context := s.context.beginAnalysis }

namespace Entry

variable {m : Machine Session} {entry : Entry}

/-- **An open session starts an analysis.** -/
theorem run_open (h_entry : entry.Analyses m.memory.config.limits)
    (h_handler : m.memory.handlers.find? "init" = some .analyse)
    (h_open : m.memory.closed = false) (stop : Stop) :
    entry.program.run stop m =
      (Analysis.search.attempt.bind (Analysis.finish (m.memory.context.token + 1))).run stop
        { m with memory := m.memory.opened entry } := by
  cases entry with
  | message inbound =>
    obtain ⟨e, h_decodes, h_type⟩ := h_entry
    refine (Session.run_dispatch .analyse h_open h_decodes (h_type ▸ h_handler)
      Session.analyse_unfailing stop).trans ?_
    change (Session.analyse.bind fun _ => Session.flush).run stop m = _
    rw [Session.analyse_eq]
    change ((Analysis.search.attempt.bind _).bind fun _ => Session.flush).run stop _ = _
    rw [Program.bind_assoc]
    rfl
  | notice =>
    -- a notice announces the analysis first
    change (if m.memory.closed then _ else do
      Session.post _
      Session.analyse
      Session.flush : Program Session Unit).run stop m = _
    rw [if_neg (by simp [h_open]), Session.analyse_eq]
    change ((Analysis.search.attempt.bind _).bind fun _ => Session.flush).run stop _ = _
    rw [Program.bind_assoc]
    rfl

/-- **A closed session starts none**, and tells nobody anything. -/
theorem run_closed (h_closed : m.memory.closed = true) (stop : Stop) :
    ∃ m' : Machine Session, entry.program.run stop m = (.finished (.ok ()), m') ∧
      m'.memory.frame = m.memory.frame ∧ m'.memory.context.taken = m.memory.context.taken ∧
      ∀ listener, m.memory.outbox.subscribers.count listener = 1 →
        m'.told listener = m.told listener := by
  cases entry with
  | message inbound =>
    have h_quiet : (do Program.log .debug "Session closed; ignoring message"; Session.flush :
        Program Session Unit).Quiet := (Obeys.log rfl).bind fun _ => Session.flush_quiet
    have h_run := (Session.run_dispatch_closed inbound h_closed stop).trans
      (h_quiet.run stop m)
    have h_eval : (do Program.log .debug "Session closed; ignoring message"; Session.flush :
        Program Session Unit).eval m =
          (.ok (), (m.emit (.log .debug "Session closed; ignoring message" none)).flushed) :=
      Session.eval_flush _
    rw [h_eval] at h_run
    refine ⟨_, h_run, rfl, rfl, fun listener h_once => ?_⟩
    have h_told := Machine.told_flushed
      (m := m.emit (.log .debug "Session closed; ignoring message" none)) h_once
    exact h_told.trans (m.told_log listener _ _ _)
  | notice =>
    refine ⟨m, ?_, rfl, rfl, fun _ _ => rfl⟩
    change (if m.memory.closed then _ else _ : Program Session Unit).run stop m = _
    rw [if_pos h_closed]
    rfl

end Entry

/-! ### Keeping account of analyses -/

/-- **An account of analyses**: how many have started, the number of each that is held and what is
left of its search, and those that have finished, in this order. -/
structure Ledger where
  started : Nat := 0
  running : Registry String (Nat × Program Session Found) := ∅
  finished : List Finish := []

namespace Ledger

/-- The account after a stretch of the search of a number, which came to an end or was held. -/
def follow (l : Ledger) (task : String) (number : Nat) : Ended Session Found → Ledger
  | .finished result =>
    { l with finished := l.finished ++ [{ number, started := l.started, result }] }
  | .held rest => { l with running := l.running.insert task (number, rest) }

/-- **The account after a turn that a world takes**: the search of the analysis that the turn starts
or resumes is followed on the machine on which the world runs it. -/
def turn (l : Ledger) (w : World Unit) : Turn → Ledger
  | .start task entry stop =>
    if w.current.closed then l
    else
      let m := { w.machine with memory := w.current.opened entry }
      { l with started := l.started + 1 }.follow task (l.started + 1)
        (Analysis.search.run stop m).1
  | .resume task stop =>
    match l.running.find? task with
    | none => l
    | some (number, rest) =>
      { l with running := l.running.erase task }.follow task number (rest.resume stop w.machine).1
  | .host _ => l

/-- The account after some turns. -/
def turns (l : Ledger) (w : World Unit) : List Turn → Ledger
  | [] => l
  | t :: ts => (l.turn w t).turns (w.turn t) ts

/-- **The analyses that were still the last to have started when they finished.** -/
def timely (l : Ledger) : List Finish :=
  l.finished.filter (·.timely)

/-! ### What holds of an account -/

/-- What an account says about numbers. -/
structure Counts (l : Ledger) : Prop where
  /-- What is held has not finished. -/
  running : ∀ task r, l.running.find? task = some r →
    r.1 ≤ l.started ∧ r.2.Obeys (.recording True) ∧ ∀ f ∈ l.finished, f.number ≠ r.1
  apart : ∀ task task' r r', l.running.find? task = some r → l.running.find? task' = some r' →
    r.1 = r'.1 → task = task'
  finished : ∀ f ∈ l.finished, f.number ≤ f.started ∧ f.started ≤ l.started
  increasing : (l.timely.map (·.number)).Pairwise (· < ·)

/-- What an account that began with the machine `m₀` says about a machine. -/
structure Shows (listener : String) (m₀ : Machine Session) (l : Ledger) (m : Machine Session) :
    Prop where
  handler : m.memory.handlers.find? "init" = some .analyse
  limits : m.memory.config.limits = m₀.memory.config.limits
  subscribers : m.memory.outbox.subscribers = m₀.memory.outbox.subscribers
  token : m.memory.context.token = m₀.memory.context.token + l.started
  taken : m.memory.context.taken = l.timely.foldl Finish.commits m₀.memory.context.taken
  /-- A listener that is subscribed once is told once. -/
  verdicts : m₀.memory.outbox.subscribers.count listener = 1 →
    m.verdicts listener = m₀.verdicts listener ++ l.timely.map (·.envelope)

/-- The held tasks are the analyses that have not finished. -/
def Holds (m₀ : Machine Session) (l : Ledger) (w : World Unit) : Prop :=
  ∀ task, w.tasks.find? task = (l.running.find? task).map fun r =>
    { session := w.currentNumber
      rest := r.2.attempt.bind (Analysis.finish (m₀.memory.context.token + r.1)) }

/-- **What holds of an account at every moment.** -/
structure Tracks (listener : String) (m₀ : Machine Session) (l : Ledger) (w : World Unit) :
    Prop where
  counts : l.Counts
  shows : l.Shows listener m₀ w.machine
  holds : l.Holds m₀ w

section

variable {listener : String} {m₀ m m' : Machine Session} {l : Ledger}

/-- What does not touch what is shown. -/
theorem Shows.congr (h : l.Shows listener m₀ m) (h_frame : m'.memory.frame = m.memory.frame)
    (h_taken : m'.memory.context.taken = m.memory.context.taken)
    (h_verdicts : m.memory.outbox.subscribers.count listener = 1 →
      m'.verdicts listener = m.verdicts listener) : l.Shows listener m₀ m' := by
  simp only [Session.frame, Prod.mk.injEq] at h_frame
  obtain ⟨h_handlers, h_config, h_subscribers, h_token, -⟩ := h_frame
  exact ⟨h_handlers ▸ h.handler, h_config ▸ h.limits, h_subscribers.trans h.subscribers,
    h_token.trans h.token, h_taken.trans h.taken, fun h_once =>
      (h_verdicts (h.subscribers ▸ h_once)).trans (h.verdicts h_once)⟩

/-- **A search shows nothing.** -/
theorem Shows.leads {walks : Prop} (h : l.Shows listener m₀ m)
    (h_leads : (Policy.recording walks).Leads m m') : l.Shows listener m₀ m' := by
  have h_same : m'.memory.withoutRecords = m.memory.withoutRecords := h_leads.changes
  refine h.congr (congrArg (·.frame) h_same) (congrArg (·.context.taken) h_same) fun _ => ?_
  rw [Machine.verdicts, Machine.told_leads h_leads]
  rfl

/-- **An analysis that finishes** shows if it is the one that started last. -/
theorem Shows.finish (h : l.Shows listener m₀ m) (number : Nat) (result : Except Failure Found) :
    ∃ m' : Machine Session,
      (Analysis.finish (m₀.memory.context.token + number) result).eval m = (.ok (), m') ∧
      Shows listener m₀
        { l with finished := l.finished ++ [{ number, started := l.started, result }] } m' := by
  obtain ⟨m', h_eval, h_frame, h_seen⟩ := Analysis.eval_finish (m₀.memory.context.token + number)
    { number, started := l.started, result } m listener
  refine ⟨m'.flushed, h_eval, ?_⟩
  simp only [Session.frame, Prod.mk.injEq] at h_frame
  obtain ⟨h_handlers, h_config, h_subscribers, h_token, -⟩ := h_frame
  have h_listening := h_subscribers.trans h.subscribers
  have h_flushed (h_once : m₀.memory.outbox.subscribers.count listener = 1) :
      m'.flushed.verdicts listener = (m'.told listener).filter (·.isVerdict) :=
    congrArg _ (Machine.told_flushed (h_listening ▸ h_once))
  have h_timely : timely { l with
      finished := l.finished ++ [{ number, started := l.started, result }] } =
        l.timely ++
          if number = l.started then [{ number, started := l.started, result }] else [] := by
    rw [timely, List.filter_append]
    congr 1
    by_cases h_number : number = l.started
    · rw [if_pos h_number]
      exact List.filter_eq_self.mpr (by simpa [Finish.timely] using h_number)
    · rw [if_neg h_number]
      exact List.filter_eq_nil_iff.mpr (by simpa [Finish.timely] using h_number)
  -- the token of the session is that of the analysis that started last
  have h_last : m.memory.context.token = m₀.memory.context.token + number ↔ number = l.started := by
    rw [h.token]
    omega
  have h_verdicts (h_once : m₀.memory.outbox.subscribers.count listener = 1) :
      (m.told listener).filter (·.isVerdict) =
        m₀.verdicts listener ++ l.timely.map (·.envelope) := h.verdicts h_once
  by_cases h_number : number = l.started
  · rw [if_pos (h_last.mpr h_number)] at h_seen
    obtain ⟨h_taken, h_told⟩ := Prod.mk.inj h_seen
    rw [if_pos h_number] at h_timely
    refine ⟨h_handlers ▸ h.handler, h_config ▸ h.limits, h_listening, h_token.trans h.token, ?_,
      fun h_once => ?_⟩
    · rw [h_timely, List.foldl_append, ← h.taken]
      exact h_taken
    · rw [h_flushed h_once, h_told, h_timely, List.map_append, List.filter_append,
        h_verdicts h_once, List.append_assoc]
      congr 2
      exact List.filter_eq_self.mpr (by simpa using Finish.isVerdict_envelope _)
  · rw [if_neg fun h_eq => h_number (h_last.mp h_eq)] at h_seen
    obtain ⟨h_taken, h_told⟩ := Prod.mk.inj h_seen
    rw [if_neg h_number, List.append_nil] at h_timely
    refine ⟨h_handlers ▸ h.handler, h_config ▸ h.limits, h_listening, h_token.trans h.token, ?_,
      fun h_once => ?_⟩
    · rw [h_timely, ← h.taken]
      exact h_taken
    · rw [h_flushed h_once, h_told, h_timely, h_verdicts h_once]

/-- **An analysis finishes**, under a number that no other analysis has. -/
theorem Counts.finish (h : l.Counts) {number : Nat} (h_started : number ≤ l.started)
    (h_new : ∀ f ∈ l.finished, f.number ≠ number)
    (h_other : ∀ task r, l.running.find? task = some r → r.1 ≠ number)
    (result : Except Failure Found) :
    Counts { l with finished := l.finished ++ [{ number, started := l.started, result }] } := by
  refine ⟨fun task r h_task => ?_, h.apart, fun f hf => ?_, ?_⟩
  · obtain ⟨h_le, h_obeys, h_not⟩ := h.running task r h_task
    refine ⟨h_le, h_obeys, fun f hf => ?_⟩
    rcases List.mem_append.mp hf with h_mem | h_mem
    · exact h_not f h_mem
    · rw [List.mem_singleton.mp h_mem]
      exact (h_other task r h_task).symm
  · rcases List.mem_append.mp hf with h_mem | h_mem
    · exact h.finished f h_mem
    · rw [List.mem_singleton.mp h_mem]
      exact ⟨h_started, Nat.le_refl _⟩
  · simp only [timely, List.filter_append, List.map_append, List.pairwise_append]
    refine ⟨h.increasing, ?_, ?_⟩
    · refine List.Pairwise.map _ (fun _ _ h_lt => h_lt) ?_
      exact (List.pairwise_singleton _ _).sublist List.filter_sublist
    · -- what finished in time before was started before
      intro a ha b hb
      obtain ⟨f, hf, rfl⟩ := List.mem_map.mp ha
      obtain ⟨f', hf', rfl⟩ := List.mem_map.mp hb
      obtain ⟨h_mem, -⟩ := List.mem_filter.mp hf
      obtain ⟨h_mem', h_timely⟩ := List.mem_filter.mp hf'
      rw [List.mem_singleton.mp h_mem'] at h_timely ⊢
      have h_last : number = l.started := by simpa [Finish.timely] using h_timely
      have h_bounds := h.finished f h_mem
      have h_ne := h_new f h_mem
      change f.number < number
      omega

/-- **An analysis is held**, under a number that no other analysis has. -/
theorem Counts.hold (h : l.Counts) {number : Nat} (h_started : number ≤ l.started)
    (h_new : ∀ f ∈ l.finished, f.number ≠ number)
    (h_other : ∀ task r, l.running.find? task = some r → r.1 ≠ number) (task : String)
    {rest : Program Session Found} (h_rest : rest.Obeys (.recording True)) :
    Counts { l with running := l.running.insert task (number, rest) } := by
  refine ⟨fun task' r h_task => ?_, fun task₁ task₂ r₁ r₂ h₁ h₂ h_eq => ?_, h.finished,
    h.increasing⟩
  · rw [Registry.find?_insert] at h_task
    split at h_task
    · obtain rfl := Option.some.inj h_task
      exact ⟨h_started, h_rest, h_new⟩
    · exact h.running task' r h_task
  · rw [Registry.find?_insert] at h₁ h₂
    split at h₁ <;> split at h₂
    · simp_all
    · obtain rfl := Option.some.inj h₁
      exact absurd h_eq.symm (h_other task₂ r₂ h₂)
    · obtain rfl := Option.some.inj h₂
      exact absurd h_eq (h_other task₁ r₁ h₁)
    · exact h.apart task₁ task₂ r₁ r₂ h₁ h₂ h_eq

/-- **What a stretch of an analysis comes to.** -/
theorem Tracks.follow {w : World Unit} {r : Ended Session Found × Machine Session}
    (h_counts : l.Counts) (h_shows : l.Shows listener m₀ m) (h_holds : l.Holds m₀ w)
    {number : Nat} (h_started : number ≤ l.started) (h_new : ∀ f ∈ l.finished, f.number ≠ number)
    (h_other : ∀ task r, l.running.find? task = some r → r.1 ≠ number)
    (h_leads : (Policy.recording True).Leads m r.2)
    (h_rest : ∀ rest, r.1 = .held rest → rest.Obeys (.recording True)) (task : String) :
    Tracks listener m₀ (l.follow task number r.1) (w.settle task (Ended.conclude
      (Analysis.finish (m₀.memory.context.token + number)) r)).2 := by
  have h_shows' := h_shows.leads h_leads
  obtain ⟨result | rest, m'⟩ := r
  · obtain ⟨m'', h_eval, h_shown⟩ := h_shows'.finish number result
    simp only [Ended.conclude, h_eval, World.settle]
    exact ⟨h_counts.finish h_started h_new h_other result, h_shown, h_holds⟩
  · refine ⟨h_counts.hold h_started h_new h_other task (h_rest rest rfl),
      ⟨h_shows'.handler, h_shows'.limits, h_shows'.subscribers, h_shows'.token, h_shows'.taken,
        h_shows'.verdicts⟩, fun task' => ?_⟩
    simp only [Ended.conclude, World.settle, Ledger.follow, World.withMachine]
    rw [Registry.find?_insert, Registry.find?_insert]
    split
    · rfl
    · exact h_holds task'

/-! ### Turns -/

/-- An analysis starts, under a number of its own. -/
theorem Counts.start (h : l.Counts) : Counts { l with started := l.started + 1 } where
  running := fun task r h_task =>
    ⟨Nat.le_succ_of_le (h.running task r h_task).1, (h.running task r h_task).2⟩
  apart := h.apart
  finished := fun f hf => ⟨(h.finished f hf).1, Nat.le_succ_of_le (h.finished f hf).2⟩
  increasing := h.increasing

theorem Shows.start (h : l.Shows listener m₀ m) (entry : Entry) :
    Shows listener m₀ { l with started := l.started + 1 }
      { m with memory := m.memory.opened entry } := by
  have h_token : m.memory.context.token + 1 = m₀.memory.context.token + (l.started + 1 : Nat) := by
    rw [h.token]
    omega
  cases entry with
  | message inbound => exact ⟨h.handler, h.limits, h.subscribers, h_token, h.taken, h.verdicts⟩
  | notice =>
    refine ⟨h.handler, h.limits, h.subscribers, h_token, h.taken, fun h_once =>
      Eq.trans ?_ (h.verdicts h_once)⟩
    -- the announcement is no verdict
    have h_told := Machine.told_post { m with memory := m.memory.opened (.message (.raw .null)) }
      listener { type := "selection-changed", message := some "Analyzing new selection..." }
    refine (congrArg (List.filter (·.isVerdict)) h_told).trans ?_
    rw [List.filter_append]
    exact List.append_nil _

theorem Tracks.start {w : World Unit} (h : l.Tracks listener m₀ w) {entry : Entry}
    (h_entry : entry.Analyses m₀.memory.config.limits) (task : String) (stop : Stop) :
    (l.turn w (.start task entry stop)).Tracks listener m₀ (w.turn (.start task entry stop)) := by
  rw [World.turn, World.startTask_eq, Ledger.turn]
  cases h_closed : w.current.closed with
  | true =>
    -- no analysis is started, and the ledger counts none
    rw [if_pos rfl]
    obtain ⟨m', h_run, h_frame, h_taken, h_told⟩ :=
      entry.run_closed (m := w.machine) h_closed stop
    rw [h_run]
    exact ⟨h.counts, h.shows.congr h_frame h_taken fun h_once =>
      congrArg _ (h_told listener h_once), h.holds⟩
  | false =>
    rw [if_neg Bool.false_ne_true]
    -- the new analysis has a number that none of those before it has
    have h_shows := h.shows.start entry
    have h_run := entry.run_open (m := w.machine) (h.shows.limits ▸ h_entry) h.shows.handler
      h_closed stop
    have h_token : w.machine.memory.context.token + 1 =
        m₀.memory.context.token + (l.started + 1 : Nat) := by
      rw [h.shows.token]
      omega
    rw [h_run, run_conclude (Analysis.finish_quiet _), h_token]
    obtain ⟨h_leads, h_rest⟩ := run_obeys Analysis.search stop
      (m := { w.machine with memory := w.current.opened entry }) (Analysis.search_obeys _)
    refine Tracks.follow h.counts.start h_shows h.holds (Nat.le_refl _) (fun f hf => ?_)
      (fun task r h_task => ?_) h_leads h_rest task
    · have h_bounds := h.counts.finished f hf
      change f.number ≠ l.started + 1
      omega
    · have h_le := (h.counts.running task r h_task).1
      change r.1 ≠ l.started + 1
      omega

theorem Tracks.resume {w : World Unit} (h : l.Tracks listener m₀ w) (task : String)
    (stop : Stop) :
    (l.turn w (.resume task stop)).Tracks listener m₀ (w.turn (.resume task stop)) := by
  have h_task := h.holds task
  rw [World.turn, Ledger.turn]
  rcases h_running : l.running.find? task with _ | ⟨number, rest⟩
  · rw [h_running] at h_task
    rw [World.resumeTask_absent h_task]
    exact h
  · rw [h_running] at h_task
    obtain ⟨h_le, h_obeys, h_new⟩ := h.counts.running task _ h_running
    rw [World.resumeTask_eq h_task, resume_conclude (Analysis.finish_quiet _)]
    obtain ⟨h_leads, h_rest⟩ := resume_obeys stop (m := w.machine) (h_obeys _)
    -- the analysis is no longer among those that are held
    have h_erase {task' : String} {r : Nat × Program Session Found}
        (h_found : (l.running.erase task).find? task' = some r) :
        task ≠ task' ∧ l.running.find? task' = some r := by
      rw [Registry.find?_erase] at h_found
      split at h_found
      · cases h_found
      · exact ⟨‹_›, h_found⟩
    have h_counts : Counts { l with running := l.running.erase task } :=
      ⟨fun task' r h_found => h.counts.running task' r (h_erase h_found).2,
        fun task₁ task₂ r₁ r₂ h₁ h₂ =>
          h.counts.apart task₁ task₂ r₁ r₂ (h_erase h₁).2 (h_erase h₂).2,
        h.counts.finished, h.counts.increasing⟩
    refine Tracks.follow h_counts
      ⟨h.shows.handler, h.shows.limits, h.shows.subscribers, h.shows.token, h.shows.taken,
        h.shows.verdicts⟩ (fun task' => ?_) h_le h_new (fun task' r h_found h_eq => ?_) h_leads
      h_rest task
    · change (w.tasks.erase task).find? task' = ((l.running.erase task).find? task').map _
      rw [Registry.find?_erase, Registry.find?_erase]
      split
      · rfl
      · exact h.holds task'
    · obtain ⟨h_ne, h_found⟩ := h_erase h_found
      exact h_ne (h.counts.apart task task' _ r h_running h_found h_eq.symm)

end

end Ledger

/-- **A turn of analysing**: an analysis starts or goes on, or something else happens to the
host. -/
def Turn.Analyses (limits : Json.Limits) : Turn → Prop
  | .start _ entry _ => entry.Analyses limits
  | .resume .. | .host _ => True

theorem Ledger.Tracks.turn {listener : String} {m₀ : Machine Session} {l : Ledger}
    {w : World Unit} (h : l.Tracks listener m₀ w) {t : Turn}
    (ht : t.Analyses m₀.memory.config.limits) : (l.turn w t).Tracks listener m₀ (w.turn t) := by
  cases t with
  | start task entry stop => exact h.start ht task stop
  | resume task stop => exact h.resume task stop
  | host host => exact ⟨h.counts, h.shows.congr rfl rfl fun _ => rfl, h.holds⟩

theorem Ledger.Tracks.turns {listener : String} {m₀ : Machine Session} {l : Ledger}
    {w : World Unit} {ts : List Turn} (h : l.Tracks listener m₀ w)
    (h_turns : ∀ t ∈ ts, t.Analyses m₀.memory.config.limits) :
    (l.turns w ts).Tracks listener m₀ (w.turns ts) := by
  induction ts generalizing w l with
  | nil => exact h
  | cons t ts ih =>
    exact ih (h.turn (h_turns t List.mem_cons_self))
      fun t' h_mem => h_turns t' (List.mem_cons_of_mem _ h_mem)

/-- **The account of the analyses** that are started and resumed by some turns. -/
def World.ledger (w : World Unit) (ts : List Turn) : Ledger :=
  ({} : Ledger).turns w ts

/-- Nothing finishes in time after the analysis that started last. -/
theorem Ledger.Counts.last {l : Ledger} (h : l.Counts) {f : Finish} (hf : f ∈ l.finished)
    (h_last : f.number = l.started) : ∃ before, l.timely = before ++ [f] := by
  obtain ⟨h_le, h_le'⟩ := h.finished f hf
  have h_timely : f.timely = true := beq_iff_eq.mpr (by omega)
  obtain ⟨before, later, h_split⟩ := List.append_of_mem (List.mem_filter.mpr ⟨hf, h_timely⟩)
  change l.timely = before ++ f :: later at h_split
  cases later with
  | nil => exact ⟨before, h_split⟩
  | cons g later =>
    -- it would have a number that is too large
    have h_increasing := h.increasing
    rw [h_split, List.map_append, List.pairwise_append, List.map_cons, List.map_cons,
      List.pairwise_cons] at h_increasing
    have h_lt : f.number < g.number := h_increasing.2.1.1 _ List.mem_cons_self
    have h_mem : g ∈ l.timely := h_split ▸ by simp
    obtain ⟨h_le, h_le'⟩ := h.finished g (List.mem_filter.mp h_mem).1
    omega

/-- **Only the analysis that started last counts.** Let any number of analyses be started on a
session by messages and notices, held at any calls and resumed in any order, while anything happens
to the host. Then after any turns, by the account of the analyses,

* the analyses that are held are the tasks of the world;
* every listener has been told one verdict on each analysis that was still the last to have started
  when it finished, in the order in which they finished, and none on any other;
* the context holds the selection that the last of these found, apart from those that failed;
* so a turn that finishes no such analysis changes neither;
* the numbers of these analyses, in the order of starting, increase;
* if the analysis that started last has finished with a result, the context holds just that. -/
theorem World.only_latest_counts (w : World Unit) (ts : List Turn)
    (h_handler : w.current.handlers.find? "init" = some .analyse) (h_tasks : w.tasks = ∅)
    (h_turns : ∀ t ∈ ts, t.Analyses w.current.config.limits) :
    let w' := w.turns ts
    let l := w.ledger ts
    (∀ task, w'.tasks.contains task = l.running.contains task) ∧
    (∀ listener, w.current.outbox.subscribers.count listener = 1 →
      w'.machine.verdicts listener = w.machine.verdicts listener ++ l.timely.map (·.envelope)) ∧
    w'.current.context.taken = l.timely.foldl Finish.commits w.current.context.taken ∧
    (∀ t : Turn, t.Analyses w.current.config.limits → (l.turn w' t).timely = l.timely →
      (w'.turn t).current.context.taken = w'.current.context.taken ∧
      ∀ listener, w.current.outbox.subscribers.count listener = 1 →
        (w'.turn t).machine.verdicts listener = w'.machine.verdicts listener) ∧
    (l.timely.map (·.number)).Pairwise (· < ·) ∧
    ∀ f ∈ l.finished, f.number = l.started → ∀ found, f.result = .ok found →
      w'.current.context.taken = (some found.selectedName, found.groups) := by
  intro w' l
  have h_tracks (listener : String) : l.Tracks listener w.machine w' := by
    refine Ledger.Tracks.turns ⟨⟨?_, ?_, ?_, ?_⟩, ?_, fun task => ?_⟩ h_turns
    · exact fun task r h_none => nomatch h_none
    · exact fun task task' r r' h_none => nomatch h_none
    · exact fun f hf => nomatch hf
    · exact List.Pairwise.nil
    · exact ⟨h_handler, rfl, rfl, (Int.add_zero _).symm, rfl, fun _ => (List.append_nil _).symm⟩
    · rw [h_tasks]
      rfl
  have h_any := h_tracks ""
  refine ⟨fun task => ?_, fun listener h_once => (h_tracks listener).shows.verdicts h_once,
    h_any.shows.taken, fun t ht h_same => ?_, h_any.counts.increasing,
    fun f hf h_last found h_ok => ?_⟩
  · rw [Registry.contains, Registry.contains, h_any.holds task, Option.isSome_map]
  · refine ⟨?_, fun listener h_once => ?_⟩
    · have h_after := (h_any.turn ht).shows.taken
      rw [h_same] at h_after
      exact h_after.trans h_any.shows.taken.symm
    · have h_after := ((h_tracks listener).turn ht).shows.verdicts h_once
      rw [h_same] at h_after
      exact h_after.trans ((h_tracks listener).shows.verdicts h_once).symm
  · obtain ⟨before, h_timely⟩ := h_any.counts.last hf h_last
    have h_taken := h_any.shows.taken
    rw [h_timely, List.foldl_append] at h_taken
    refine h_taken.trans ?_
    rw [List.foldl_cons, List.foldl_nil, Finish.commits, h_ok]

/-- A second analysis starts while the first one is held. The first one finishes and is passed over,
and then the second one is taken over. -/
theorem World.only_latest_counts_on_panel :
    let w : World Unit := { host := { scene := .panel }, current := .start {} ["ui"] }
    let ts : List Turn := [.start "first" .notice .everywhere,
      .start "second" (.message (.envelope { type := "init" })) (.before .node 2),
      .resume "first" .never, .resume "second" .never]
    ((w.turns ts).machine.verdicts "ui").map (·.type) = ["init-success"] ∧
      (w.turns ts).current.context.selectedName = some "Panel" := by
  intro w ts
  have h_turns : ∀ t ∈ ts, t.Analyses w.current.config.limits := by
    simp only [ts, List.mem_cons, List.not_mem_nil, or_false]
    rintro t (rfl | rfl | rfl | rfl)
    · trivial
    · exact ⟨_, rfl, rfl⟩
    · trivial
    · trivial
  have h_counts := only_latest_counts w ts (by decide +kernel) rfl h_turns
  have h_told : (w.ledger ts).timely.map (·.envelope.type) = ["init-success"] := by
    decide +kernel
  have h_found : (((w.ledger ts).timely.foldl Finish.commits w.current.context.taken).1) =
      some "Panel" := by decide +kernel
  have h_before : w.machine.verdicts "ui" = [] := rfl
  have h_once : w.current.outbox.subscribers.count "ui" = 1 := by decide +kernel
  -- nothing more is evaluated
  generalize w.turns ts = w', w.ledger ts = l at h_counts h_told h_found ⊢
  obtain ⟨-, h_verdicts, h_taken, -⟩ := h_counts
  have h_after := h_verdicts "ui" h_once
  rw [h_before, List.nil_append] at h_after
  refine ⟨?_, (congrArg Prod.fst h_taken).trans h_found⟩
  rw [h_after, List.map_map]
  exact h_told

end Clickwork
