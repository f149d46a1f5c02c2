import Clickwork.Outbox.Delivery

/-!
# Runs of an outbox

The work on an agenda as a relation. `Desk.Works` says how it ends, and keeps a log with one
`Moment` for every task: the desk the task was done at, and what was on the agenda after it. So the
log tells what was done and in which order (`performed`), and at every point what was still to come.

A run is what `Desk.drain` comes to in any number of steps that suffices
(`Desk.Works.drain_eq`, `Desk.works_of_drain`), and there is only one (`Desk.Works.unique`).

An act is plain if it posts, unsubscribes or fails. A flush among subscribers that act plainly comes
to an end (`Desk.settles_flush`): nobody is added to the list of subscribers, so each offer gets to
its end. What waits afterwards is what was posted meanwhile (`Desk.Works.queue_eq`).

What the offers on an agenda are still to hand out is the desk's debt (`Desk.owed`). It is the
invariant of delivery: a task that is done moves the debt to what was handed out, or leaves it, or
lets some of it go.
-/

namespace Clickwork.Outbox

variable {η : Type}

/-! ### Logs -/

/-- **A task at its turn**: the desk it is done at, and the tasks after it. -/
structure Moment (η : Type) where
  desk : Desk η
  task : Task η
  rest : List (Task η)

/-- The act that a task consists in. -/
def Task.act? : Task η → Option (Act η)
  | .act a => some a
  | .offer .. => none

/-- The envelope that an act posts. -/
def Act.posted? : Act η → Option Envelope
  | .post e => some e
  | _ => none

/-- **The acts of a log**, in the order in which they were performed. -/
def performed (log : List (Moment η)) : List (Act η) :=
  log.filterMap (·.task.act?)

/-- The envelopes that were posted in a log. -/
def posted (log : List (Moment η)) : List Envelope :=
  (performed log).filterMap Act.posted?

/-- A moment, with further tasks at the end of the agenda. -/
def Moment.before (later : List (Task η)) (m : Moment η) : Moment η :=
  { m with rest := m.rest ++ later }

@[simp] theorem performed_nil : performed ([] : List (Moment η)) = [] := rfl

@[simp] theorem performed_cons_act (d : Desk η) (a : Act η) (rest : List (Task η))
    (log : List (Moment η)) : performed (⟨d, .act a, rest⟩ :: log) = a :: performed log := rfl

@[simp] theorem performed_cons_offer (d : Desk η) (e : Envelope) (position : Nat)
    (rest : List (Task η)) (log : List (Moment η)) :
    performed (⟨d, .offer e position, rest⟩ :: log) = performed log := rfl

theorem performed_append (log log' : List (Moment η)) :
    performed (log ++ log') = performed log ++ performed log' :=
  List.filterMap_append

theorem performed_before (later : List (Task η)) (log : List (Moment η)) :
    performed (log.map (·.before later)) = performed log :=
  List.filterMap_map

/-! ### Debts -/

/-- **What the offers on an agenda are still to hand out**, as the subscribers are now. -/
def Desk.owed (d : Desk η) (agenda : List (Task η)) : List (η × Envelope) :=
  agenda.flatMap fun
    | .act _ => []
    | .offer e position => (d.outbox.subscribers.drop position).map fun h => (h, e)

namespace Desk

variable (d : Desk η)

@[simp] theorem owed_nil : d.owed [] = [] := rfl

@[simp] theorem owed_cons_act (a : Act η) (agenda : List (Task η)) :
    d.owed (.act a :: agenda) = d.owed agenda := rfl

@[simp] theorem owed_cons_offer (e : Envelope) (position : Nat) (agenda : List (Task η)) :
    d.owed (.offer e position :: agenda) =
      (d.outbox.subscribers.drop position).map (fun h => (h, e)) ++ d.owed agenda := rfl

theorem owed_acts_append (acts : List (Act η)) (agenda : List (Task η)) :
    d.owed (acts.map .act ++ agenda) = d.owed agenda := by
  induction acts with
  | nil => rfl
  | cons a acts ih => exact ih

/-- The offers of a flush owe what the flush is to hand out. -/
theorem owed_offers (envelopes : List Envelope) :
    d.owed (envelopes.map (.offer · 0)) = ({ d.outbox with queue := envelopes }).deliveries := by
  induction envelopes with
  | nil => rfl
  | cons e envelopes ih =>
    rw [List.map_cons, owed_cons_offer, ih]
    rfl

end Desk

/-! ### What subscribers do -/

/-- Whatever the subscribers do has the property. -/
def Conduct.Only (P : Act η → Prop) (conduct : Conduct η) : Prop :=
  ∀ handed h e, ∀ a ∈ conduct handed h e, P a

theorem Conduct.Only.mono {P Q : Act η → Prop} {conduct : Conduct η} (h : conduct.Only P)
    (h_imp : ∀ a, P a → Q a) : conduct.Only Q :=
  fun handed h' e a h_mem => h_imp a (h handed h' e a h_mem)

/-- **A plain act** neither subscribes nor flushes nor clears. -/
inductive Act.Plain : Act η → Prop where
  | post (e : Envelope) : Plain (.post e)
  | unsubscribe (h : η) : Plain (.unsubscribe h)
  | fail (text : String) : Plain (.fail text)

/-! ### Runs -/

section

variable [DecidableEq η]

/-- **Works off an agenda**: the tasks of the log are done in turn, until there is none left or
one fails. -/
inductive Desk.Works (conduct : Conduct η) :
    Desk η → List (Task η) → List (Moment η) → End → Desk η → Prop where
  | done {d : Desk η} : Works conduct d [] [] .done d
  | fail {d : Desk η} {task : Task η} {agenda : List (Task η)} {text : String}
      (h : d.work conduct task = .error text) :
      Works conduct d (task :: agenda) [⟨d, task, agenda⟩] (.failed text) d
  | step {d d' d'' : Desk η} {task : Task η} {next agenda : List (Task η)}
      {log : List (Moment η)} {e : End} (h : d.work conduct task = .ok (d', next))
      (h_rest : Works conduct d' (next ++ agenda) log e d'') :
      Works conduct d (task :: agenda) (⟨d, task, agenda⟩ :: log) e d''

namespace Desk

variable {conduct : Conduct η} {d d' : Desk η} {agenda : List (Task η)}
  {log : List (Moment η)} {e : End}

/-- An offer past the last subscriber comes to nothing. -/
theorem work_offer_of_none {envelope : Envelope} {position : Nat}
    (h : d.outbox.subscribers[position]? = none) :
    d.work conduct (.offer envelope position) = .ok (d, []) := by
  simp only [work, h]

/-- An offer serves the subscriber at its position, which then acts before the next one is
served. -/
theorem work_offer_of_some {envelope : Envelope} {position : Nat} {h : η}
    (h_at : d.outbox.subscribers[position]? = some h) :
    d.work conduct (.offer envelope position) =
      .ok ({ d with handed := d.handed ++ [(h, envelope)] },
        (conduct d.handed h envelope).map .act ++ [.offer envelope (position + 1)]) := by
  simp only [work, h_at]

/-- No task fails but a failure. -/
theorem eq_fail_of_work {task : Task η} {text : String} (h : d.work conduct task = .error text) :
    task = .act (.fail text) := by
  rcases task with a | ⟨envelope, position⟩
  · cases a <;> simp only [work, reduceCtorEq, Except.error.injEq] at h
    rw [h]
  · cases h_at : d.outbox.subscribers[position]? with
    | none => cases (work_offer_of_none h_at).symm.trans h
    | some x => cases (work_offer_of_some h_at).symm.trans h

/-- **An offer pays what it owes**: what it hands out comes off the debt. -/
theorem handed_of_offer {e : Envelope} {position : Nat} {next : List (Task η)}
    (h : d.work conduct (.offer e position) = .ok (d', next)) (agenda : List (Task η)) :
    d'.outbox = d.outbox ∧ ∃ paid, d'.handed = d.handed ++ paid ∧
      paid ++ d'.owed (next ++ agenda) = d.owed (.offer e position :: agenda) := by
  cases h_at : d.outbox.subscribers[position]? with
  | none =>
    rw [work_offer_of_none h_at] at h
    obtain ⟨rfl, rfl⟩ := Prod.mk.inj (Except.ok.inj h)
    have h_drop : d.outbox.subscribers.drop position = [] :=
      List.drop_eq_nil_of_le (List.getElem?_eq_none_iff.mp h_at)
    refine ⟨rfl, [], (List.append_nil _).symm, ?_⟩
    rw [owed_cons_offer, h_drop]
    rfl
  | some x =>
    rw [work_offer_of_some h_at] at h
    obtain ⟨rfl, rfl⟩ := Prod.mk.inj (Except.ok.inj h)
    obtain ⟨h_lt, h_eq⟩ := List.getElem?_eq_some_iff.mp h_at
    refine ⟨rfl, [(x, e)], rfl, ?_⟩
    rw [List.append_assoc, owed_acts_append, List.singleton_append, List.singleton_append,
      owed_cons_offer, owed_cons_offer, List.drop_eq_getElem_cons h_lt, h_eq]
    rfl

/-- **A run is what `drain` comes to**, in any number of steps that suffices. -/
theorem Works.drain_eq (h : Works conduct d agenda log e d') {steps : Nat}
    (h_steps : log.length ≤ steps) : drain conduct steps agenda d = (e, d') := by
  induction h generalizing steps with
  | done => cases steps <;> rfl
  | fail h_work =>
    obtain ⟨steps, rfl⟩ := Nat.exists_eq_add_of_le' h_steps
    simp only [List.length_singleton, drain, h_work]
  | step h_work _ ih =>
    obtain ⟨steps, rfl⟩ := Nat.exists_eq_add_of_le' (Nat.le_trans (Nat.le_add_left 1 _) h_steps)
    simp only [drain, h_work]
    exact ih (Nat.le_of_succ_le_succ h_steps)

/-- The log of what `drain` does. -/
def trace (conduct : Conduct η) : Nat → List (Task η) → Desk η → List (Moment η)
  | _, [], _ => []
  | 0, _ :: _, _ => []
  | steps + 1, task :: agenda, d =>
    ⟨d, task, agenda⟩ ::
      match d.work conduct task with
      | .error _ => []
      | .ok (d', next) => trace conduct steps (next ++ agenda) d'

/-- **Where `drain` is not cut short, it is a run.** -/
theorem works_of_drain {steps : Nat} (h : drain conduct steps agenda d = (e, d'))
    (h_end : e ≠ .exhausted) : Works conduct d agenda (trace conduct steps agenda d) e d' := by
  induction steps generalizing agenda d with
  | zero =>
    cases agenda with
    | nil =>
      obtain ⟨rfl, rfl⟩ := Prod.mk.inj h
      exact .done
    | cons task agenda => exact absurd (Prod.mk.inj h).1.symm h_end
  | succ steps ih =>
    cases agenda with
    | nil =>
      obtain ⟨rfl, rfl⟩ := Prod.mk.inj h
      exact .done
    | cons task agenda =>
      rw [drain] at h
      rw [trace]
      rcases h_work : d.work conduct task with text | ⟨d₁, next⟩
      · rw [h_work] at h
        obtain ⟨rfl, rfl⟩ := Prod.mk.inj h
        exact .fail h_work
      · rw [h_work] at h
        exact .step h_work (ih h)

/-- An agenda is worked off in one way. -/
theorem Works.unique {log' : List (Moment η)} {e' : End} {d'' : Desk η}
    (h : Works conduct d agenda log e d') (h' : Works conduct d agenda log' e' d'') :
    log = log' ∧ e = e' ∧ d' = d'' := by
  induction h generalizing log' with
  | done =>
    cases h'
    exact ⟨rfl, rfl, rfl⟩
  | fail h_work =>
    cases h' with
    | fail h_work' =>
      obtain rfl := Except.error.inj (h_work.symm.trans h_work')
      exact ⟨rfl, rfl, rfl⟩
    | step h_work' _ => cases h_work.symm.trans h_work'
  | step h_work _ ih =>
    cases h' with
    | fail h_work' => cases h_work.symm.trans h_work'
    | step h_work' h_rest' =>
      obtain ⟨rfl, rfl⟩ := Prod.mk.inj (Except.ok.inj (h_work.symm.trans h_work'))
      obtain ⟨rfl, rfl, rfl⟩ := ih h_rest'
      exact ⟨rfl, rfl, rfl⟩

/-- A run is what `drain` does and comes to in some number of steps that suffices. -/
theorem Works.eq_trace (h : Works conduct d agenda log e d') (steps : Nat)
    (h_end : (drain conduct steps agenda d).1 ≠ .exhausted) :
    log = trace conduct steps agenda d ∧ e = (drain conduct steps agenda d).1 ∧
      d' = (drain conduct steps agenda d).2 :=
  h.unique (works_of_drain rfl h_end)

/-- **Two agendas one after the other.** -/
theorem Works.append {later : List (Task η)} {log' : List (Moment η)} {d'' : Desk η}
    (h : Works conduct d agenda log .done d') (h' : Works conduct d' later log' e d'') :
    Works conduct d (agenda ++ later) (log.map (·.before later) ++ log') e d'' := by
  generalize h_done : End.done = ending at h
  induction h with
  | done => exact h'
  | fail h_work => cases h_done
  | step h_work _ ih =>
    -- what a task calls for comes before the rest of its agenda, and so before what is later
    simp only [List.cons_append, List.map_cons]
    refine .step h_work ?_
    rw [← List.append_assoc]
    exact ih h' h_done

/-- A failure drops what comes later. -/
theorem Works.append_failed {text : String} (later : List (Task η))
    (h : Works conduct d agenda log (.failed text) d') :
    Works conduct d (agenda ++ later) (log.map (·.before later)) (.failed text) d' := by
  generalize h_failed : End.failed text = ending at h ⊢
  induction h with
  | done => cases h_failed
  | fail h_work => exact .fail h_work
  | step h_work _ ih =>
    simp only [List.cons_append, List.map_cons]
    refine .step h_work ?_
    rw [← List.append_assoc]
    exact ih h_failed

/-! ### What is done in a run -/

variable {P : Act η → Prop}

/-- A task that is done calls for no acts but those of a subscriber. -/
theorem acts_of_work (h_conduct : conduct.Only P) {task : Task η} {next : List (Task η)}
    (h : d.work conduct task = .ok (d', next)) : ∀ a, .act a ∈ next → P a := by
  intro a h_mem
  rcases task with a' | ⟨envelope, position⟩
  · cases a' <;> simp only [work, Except.ok.injEq, Prod.mk.injEq, reduceCtorEq] at h <;>
      obtain ⟨-, rfl⟩ := h
    case flush => simp at h_mem
    all_goals cases h_mem
  · cases h_at : d.outbox.subscribers[position]? with
    | none =>
      rw [work_offer_of_none h_at] at h
      obtain ⟨-, rfl⟩ := Prod.mk.inj (Except.ok.inj h)
      cases h_mem
    | some x =>
      rw [work_offer_of_some h_at] at h
      obtain ⟨-, rfl⟩ := Prod.mk.inj (Except.ok.inj h)
      simp only [List.mem_append, List.mem_map, Task.act.injEq, exists_eq_right,
        List.mem_singleton, reduceCtorEq, or_false] at h_mem
      exact h_conduct _ _ _ _ h_mem

/-- **What is performed was on the agenda, or is the doing of a subscriber.** -/
theorem Works.performed_of_only (h : Works conduct d agenda log e d') (h_conduct : conduct.Only P)
    (h_agenda : ∀ a, .act a ∈ agenda → P a) : ∀ a ∈ performed log, P a := by
  induction h with
  | done => exact nofun
  | @fail d task agenda text _ =>
    intro a h_mem
    cases task with
    | act a' =>
      obtain rfl := List.mem_singleton.mp h_mem
      exact h_agenda _ List.mem_cons_self
    | offer => cases h_mem
  | @step d d' d'' task next agenda log e h_work _ ih =>
    have h_rest := ih fun a h_mem => (List.mem_append.mp h_mem).elim
      (acts_of_work h_conduct h_work a) fun h => h_agenda a (List.mem_cons_of_mem _ h)
    cases task with
    | act a' =>
      rw [performed_cons_act]
      exact List.forall_mem_cons.mpr ⟨h_agenda _ List.mem_cons_self, h_rest⟩
    | offer => exact h_rest

/-- What waits after a run of plain acts is what waited before, and what was posted. -/
theorem Works.queue_eq (h : Works conduct d agenda log e d')
    (h_plain : ∀ a ∈ performed log, a.Plain) :
    d'.outbox.queue = d.outbox.queue ++ posted log := by
  induction h with
  | done => simp [posted]
  | fail h_work =>
    obtain rfl := eq_fail_of_work h_work
    simp [posted, Act.posted?]
  | @step d d' d'' task next agenda log e h_work _ ih =>
    rcases task with a | ⟨envelope, position⟩
    · rw [performed_cons_act, List.forall_mem_cons] at h_plain
      have h_rest := ih h_plain.2
      rcases h_plain.1 with envelope | x | text
      · obtain ⟨rfl, rfl⟩ := Prod.mk.inj (Except.ok.inj h_work)
        rw [h_rest]
        simp [posted, Act.posted?, Outbox.post]
      · obtain ⟨rfl, rfl⟩ := Prod.mk.inj (Except.ok.inj h_work)
        rw [h_rest]
        rfl
      · cases h_work
    · rw [ih h_plain, (handed_of_offer h_work agenda).1]
      rfl

/-! ### Flushes come to an end -/

theorem Works.ne_exhausted (h : Works conduct d agenda log e d') : e ≠ .exhausted := by
  induction h with
  | done => exact nofun
  | fail => exact nofun
  | step _ _ ih => exact ih

/-- An agenda is worked off, and no subscriptions are added by it. -/
def Settles (conduct : Conduct η) (d : Desk η) (agenda : List (Task η)) : Prop :=
  ∃ log e d', Works conduct d agenda log e d' ∧
    d'.outbox.subscribers.length ≤ d.outbox.subscribers.length

theorem Settles.step {task : Task η} {next : List (Task η)}
    (h_work : d.work conduct task = .ok (d', next))
    (h_le : d'.outbox.subscribers.length ≤ d.outbox.subscribers.length)
    (h : Settles conduct d' (next ++ agenda)) : Settles conduct d (task :: agenda) := by
  obtain ⟨log, e, d'', h_works, h_le'⟩ := h
  exact ⟨_, e, d'', .step h_work h_works, Nat.le_trans h_le' h_le⟩

theorem settles_nil : Settles conduct d [] :=
  ⟨[], .done, d, .done, Nat.le_refl _⟩

theorem Settles.append {later : List (Task η)} (h : Settles conduct d agenda)
    (h_later : ∀ d' : Desk η, d'.outbox.subscribers.length ≤ d.outbox.subscribers.length →
      Settles conduct d' later) : Settles conduct d (agenda ++ later) := by
  obtain ⟨log, e, d₁, h_works, h_le⟩ := h
  cases e with
  | done =>
    obtain ⟨log', e', d₂, h_works', h_le'⟩ := h_later d₁ h_le
    exact ⟨_, e', d₂, h_works.append h_works', Nat.le_trans h_le' h_le⟩
  | failed text => exact ⟨_, _, d₁, h_works.append_failed later, h_le⟩
  | exhausted => exact absurd rfl h_works.ne_exhausted

theorem settles_acts {acts : List (Act η)} (h_plain : ∀ a ∈ acts, a.Plain) (d : Desk η) :
    Settles conduct d (acts.map .act) := by
  induction acts generalizing d with
  | nil => exact settles_nil
  | cons a acts ih =>
    rw [List.forall_mem_cons] at h_plain
    rcases h_plain.1 with envelope | x | text
    · exact .step rfl (Nat.le_refl _) (ih h_plain.2 _)
    · exact .step rfl List.length_erase_le (ih h_plain.2 _)
    · exact ⟨_, _, d, .fail rfl, Nat.le_refl _⟩

/-- An offer gets to its end: with every subscriber it has served, there are fewer left, however
many have gone meanwhile. -/
theorem settles_offer (h_conduct : conduct.Only Act.Plain) (envelope : Envelope) {left : Nat}
    (d : Desk η) (position : Nat) (h_left : d.outbox.subscribers.length - position ≤ left) :
    Settles conduct d [.offer envelope position] := by
  induction left generalizing d position with
  | zero =>
    have h_none : d.outbox.subscribers[position]? = none :=
      List.getElem?_eq_none (Nat.sub_eq_zero_iff_le.mp (Nat.le_zero.mp h_left))
    exact .step (work_offer_of_none h_none) (Nat.le_refl _) settles_nil
  | succ left ih =>
    cases h_at : d.outbox.subscribers[position]? with
    | none => exact .step (work_offer_of_none h_at) (Nat.le_refl _) settles_nil
    | some h =>
      refine .step (work_offer_of_some h_at) (Nat.le_refl _) ?_
      rw [List.append_nil]
      refine (settles_acts (h_conduct _ _ _) _).append fun d' h_le => ih d' (position + 1) ?_
      have h_le : d'.outbox.subscribers.length ≤ d.outbox.subscribers.length := h_le
      omega

theorem settles_offers (h_conduct : conduct.Only Act.Plain) (envelopes : List Envelope)
    (d : Desk η) : Settles conduct d (envelopes.map (.offer · 0)) := by
  induction envelopes generalizing d with
  | nil => exact settles_nil
  | cons envelope envelopes ih =>
    exact (settles_offer h_conduct envelope d 0 (Nat.le_refl _)).append fun d' _ => ih d'

/-- **A flush among subscribers that act plainly comes to an end.** Its log begins with the flush
itself, and goes on with plain acts. -/
theorem settles_flush (h_conduct : conduct.Only Act.Plain) (d : Desk η) :
    ∃ log e d', Works conduct { d with outbox := d.outbox.clear }
        (d.outbox.queue.map (.offer · 0)) log e d' ∧
      Works conduct d [.act .flush] (⟨d, .act .flush, []⟩ :: log) e d' := by
  obtain ⟨log, e, d', h_works, -⟩ :=
    settles_offers h_conduct d.outbox.queue { d with outbox := d.outbox.clear }
  refine ⟨log, e, d', h_works, .step rfl ?_⟩
  rwa [List.append_nil]

end Desk

/-- What a subscriber received. -/
def received (h : η) (handed : List (η × Envelope)) : List Envelope :=
  (handed.filter (·.1 = h)).map Prod.snd

theorem received_append (h : η) (handed handed' : List (η × Envelope)) :
    received h (handed ++ handed') = received h handed ++ received h handed' := by
  simp [received]

/-- What a round of the subscribers brings: the envelope, once for every subscription. -/
theorem received_map (h : η) (subscribers : List η) (e : Envelope) :
    received h (subscribers.map fun x => (x, e)) = List.replicate (subscribers.count h) e := by
  induction subscribers with
  | nil => rfl
  | cons x subscribers ih =>
    by_cases h_eq : x = h
    · subst h_eq
      rw [List.count_cons_self, List.replicate_succ, ← ih]
      simp [received]
    · rw [List.count_cons_of_ne h_eq, ← ih]
      simp [received, h_eq]

end

end Clickwork.Outbox
