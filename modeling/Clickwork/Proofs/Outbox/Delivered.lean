import Clickwork.Proofs.Outbox.Works

/-!
# Delivery among subscribers that only post

Subscribers that do nothing but post leave the list of subscribers alone, so a flush pays its debt
in full: it hands out just what the outbox says it will (`Outbox.deliveries`), and what was posted
meanwhile waits (`Desk.works_flush`).

Over a run of posts, subscriptions and flushes, an envelope is sent if it is posted and taken off
the queue by a flush, not by a clearing (`sent`). A subscriber that keeps its one subscription
receives what is sent, in the order of posting (`Desk.delivered_once`).
-/

namespace Clickwork.Outbox

variable {η : Type}

/-! ### What is sent -/

/-- Whether what waits now is handed out: the next act that empties the queue is a flush. -/
def taken : List (Act η) → Bool
  | [] => false
  | .flush :: _ => true
  | .clear :: _ => false
  | _ :: later => taken later

/-- **What is sent in a history of acts**, in the order of posting. -/
def sent : List (Act η) → List Envelope
  | [] => []
  | .post e :: later => if taken later then e :: sent later else sent later
  | _ :: later => sent later

theorem taken_posts_append (es : List Envelope) (later : List (Act η)) :
    taken (es.map .post ++ later) = taken later := by
  induction es with
  | nil => rfl
  | cons e es ih => exact ih

/-- Envelopes that are posted one after the other are sent together. -/
theorem sent_posts_append (es : List Envelope) (later : List (Act η)) :
    sent (es.map .post ++ later) = (if taken later then es else []) ++ sent later := by
  induction es with
  | nil => simp
  | cons e es ih =>
    rw [List.map_cons, List.cons_append, sent, taken_posts_append, ih]
    cases taken later <;> rfl

/-- Nothing but posts. -/
theorem map_post_posted? {acts : List (Act η)} (h : ∀ a ∈ acts, ∃ e, a = .post e) :
    (acts.filterMap Act.posted?).map .post = acts := by
  induction acts with
  | nil => rfl
  | cons a acts ih =>
    rw [List.forall_mem_cons] at h
    obtain ⟨⟨e, rfl⟩, h⟩ := h
    exact congrArg _ (ih h)

/-! ### Flushes -/

section

variable [DecidableEq η]

namespace Desk

variable {conduct : Conduct η} {d d' : Desk η} {agenda : List (Task η)}
  {log : List (Moment η)} {e : End}

/-- **Where nothing is done but to post, every debt is paid.** -/
theorem Works.handed_of_posts (h : Works conduct d agenda log e d')
    (h_posts : ∀ a ∈ performed log, ∃ envelope, a = .post envelope) :
    e = .done ∧ d'.outbox.subscribers = d.outbox.subscribers ∧
      d'.handed = d.handed ++ d.owed agenda := by
  induction h with
  | done => exact ⟨rfl, rfl, (List.append_nil _).symm⟩
  | fail h_work =>
    obtain rfl := eq_fail_of_work h_work
    obtain ⟨envelope, h_post⟩ := h_posts _ List.mem_cons_self
    cases h_post
  | @step d d' d'' task next agenda log e h_work _ ih =>
    rcases task with a | ⟨envelope, position⟩
    · rw [performed_cons_act, List.forall_mem_cons] at h_posts
      obtain ⟨⟨envelope, rfl⟩, h_posts⟩ := h_posts
      obtain ⟨rfl, rfl⟩ := Prod.mk.inj (Except.ok.inj h_work)
      exact ih h_posts
    · obtain ⟨h_done, h_subscribers, h_handed⟩ := ih h_posts
      obtain ⟨h_same, paid, h_paid, h_debt⟩ := handed_of_offer h_work agenda
      refine ⟨h_done, h_subscribers.trans (congrArg _ h_same), ?_⟩
      rw [h_handed, h_paid, List.append_assoc, h_debt]

/-- **A flush among subscribers that only post** hands out what waits, to everyone in turn. What is
posted meanwhile waits afterwards. -/
theorem works_flush (h_conduct : conduct.Only fun a => ∃ e, a = .post e) (d : Desk η) :
    ∃ log, Works conduct d [.act .flush] log .done
        { outbox := { d.outbox with queue := posted log }
          handed := d.handed ++ d.outbox.deliveries } ∧
      performed log = .flush :: (posted log).map .post := by
  have h_plain : conduct.Only Act.Plain := h_conduct.mono fun _ ⟨e, h_eq⟩ => h_eq ▸ .post e
  obtain ⟨log, e, d', h_rest, h_works⟩ := settles_flush h_plain d
  have h_posts := h_rest.performed_of_only h_conduct (by simp)
  obtain ⟨rfl, h_subscribers, h_handed⟩ := h_rest.handed_of_posts h_posts
  have h_queue : d'.outbox.queue = posted log :=
    h_rest.queue_eq fun a h_mem => by
      obtain ⟨envelope, rfl⟩ := h_posts a h_mem
      exact .post envelope
  rw [owed_offers] at h_handed
  have h_desk : d' = { outbox := { d.outbox with queue := posted log }
                       handed := d.handed ++ d.outbox.deliveries } := by
    obtain ⟨⟨subscribers, queue⟩, handed⟩ := d'
    obtain rfl : queue = posted log := h_queue
    obtain rfl : subscribers = d.outbox.subscribers := h_subscribers
    obtain rfl : handed = d.handed ++ d.outbox.deliveries := h_handed
    rfl
  exact ⟨_, h_desk ▸ h_works, congrArg _ (map_post_posted? h_posts).symm⟩

end Desk

/-! ### Subscribers -/

/-- **One subscription brings every envelope that waits**, once and in order. -/
theorem received_deliveries {o : Outbox η} {h : η} (h_once : o.subscribers.count h = 1) :
    received h o.deliveries = o.queue := by
  obtain ⟨subscribers, queue⟩ := o
  replace h_once : subscribers.count h = 1 := h_once
  unfold deliveries
  induction queue with
  | nil => rfl
  | cons e queue ih =>
    rw [List.flatMap_cons, received_append, received_map, h_once]
    exact congrArg (e :: ·) ih

/-! ### Runs -/

namespace Desk

variable {conduct : Conduct η}

/-- A run of acts comes to its end, and a subscriber that keeps its one subscription receives what
is sent in it. -/
def Serves (conduct : Conduct η) (d : Desk η) (acts : List (Act η)) : Prop :=
  ∃ log d', Works conduct d (acts.map .act) log .done d' ∧
    ∀ h, d.outbox.subscribers.count h = 1 → .subscribe h ∉ acts → .unsubscribe h ∉ acts →
      received h d'.handed =
        received h d.handed ++ sent (d.outbox.queue.map .post ++ performed log)

/-- One more act before the others, if it hands nothing out: it is enough to tell what it does to
the subscriptions and to what is sent. -/
theorem Serves.cons {o : Outbox η} {handed : List (η × Envelope)} {o' : Outbox η} {a : Act η}
    {acts : List (Act η)} (h : Serves conduct ⟨o', handed⟩ acts)
    (h_work : work conduct ⟨o, handed⟩ (.act a) = .ok (⟨o', handed⟩, []))
    (h_count : ∀ h, a ≠ .subscribe h → a ≠ .unsubscribe h →
      o'.subscribers.count h = o.subscribers.count h)
    (h_sent : ∀ later,
      sent (o'.queue.map .post ++ later) = sent (o.queue.map .post ++ a :: later)) :
    Serves conduct ⟨o, handed⟩ (a :: acts) := by
  obtain ⟨log, d', h_works, h_received⟩ := h
  refine ⟨⟨⟨o, handed⟩, .act a, acts.map .act⟩ :: log, d', .step h_work h_works, ?_⟩
  intro h h_once h_sub h_unsub
  rw [List.mem_cons, not_or] at h_sub h_unsub
  rw [performed_cons_act, ← h_sent]
  exact h_received h ((h_count h (Ne.symm h_sub.1) (Ne.symm h_unsub.1)).trans h_once) h_sub.2
    h_unsub.2

theorem serves (h_conduct : conduct.Only fun a => ∃ e, a = .post e) {acts : List (Act η)}
    (h_acts : ∀ text, .fail text ∉ acts) (d : Desk η) : Serves conduct d acts := by
  induction acts generalizing d with
  | nil =>
    refine ⟨[], d, .done, fun h _ _ _ => ?_⟩
    rw [performed_nil, sent_posts_append]
    exact (List.append_nil _).symm
  | cons a acts ih =>
    have h_rest := ih fun text h_mem => h_acts text (List.mem_cons_of_mem _ h_mem)
    cases a with
    | post e =>
      refine (h_rest _).cons rfl (fun _ _ _ => rfl) fun later => ?_
      simp [Outbox.post]
    | subscribe x =>
      refine (h_rest _).cons rfl (fun h h_sub _ => ?_) fun later => ?_
      · have h_ne : x ≠ h := fun h_eq => h_sub (h_eq ▸ rfl)
        simp [Outbox.subscribe, List.count_append, h_ne]
      · rw [sent_posts_append, sent_posts_append]
        rfl
    | unsubscribe x =>
      refine (h_rest _).cons rfl (fun h _ h_unsub => ?_) fun later => ?_
      · have h_ne : h ≠ x := fun h_eq => h_unsub (h_eq ▸ rfl)
        exact List.count_erase_of_ne h_ne
      · rw [sent_posts_append, sent_posts_append]
        rfl
    | clear =>
      refine (h_rest _).cons rfl (fun _ _ _ => rfl) fun later => ?_
      rw [sent_posts_append, sent_posts_append]
      simp [Outbox.clear, taken, sent]
    | flush =>
      obtain ⟨log₁, h_flush, h_performed⟩ := works_flush h_conduct d
      obtain ⟨log, d', h_works, h_received⟩ := h_rest _
      refine ⟨_, d', h_flush.append h_works, fun h h_once h_sub h_unsub => ?_⟩
      rw [List.mem_cons, not_or] at h_sub h_unsub
      -- the flush sends what waits, and what is posted meanwhile is left to what comes after it
      have h_sent (later : List (Act η)) : sent (d.outbox.queue.map .post ++ .flush :: later) =
          d.outbox.queue ++ sent later := by
        rw [sent_posts_append]
        rfl
      have h_history : performed (log₁.map (·.before (acts.map .act)) ++ log) =
          .flush :: ((posted log₁).map .post ++ performed log) := by
        rw [performed_append, performed_before, h_performed, List.cons_append]
      calc received h d'.handed
          = received h (d.handed ++ d.outbox.deliveries) ++
              sent ((posted log₁).map .post ++ performed log) :=
            h_received h h_once h_sub.2 h_unsub.2
        _ = received h d.handed ++
              (d.outbox.queue ++ sent ((posted log₁).map .post ++ performed log)) := by
            rw [received_append, received_deliveries h_once, List.append_assoc]
        _ = received h d.handed ++ sent (d.outbox.queue.map .post ++
              performed (log₁.map (·.before (acts.map .act)) ++ log)) := by
            rw [h_history, h_sent]
    | fail text => exact absurd List.mem_cons_self (h_acts text)

/-- **An outbox delivers everything once and in order**, among subscribers that do nothing but post.
A flush comes to its end and hands each envelope that waits to each subscriber in turn, and what was
posted meanwhile waits afterwards. So over a run of posts, subscriptions, clearings and flushes, a
subscriber that keeps its one subscription receives just what is sent, in the order of posting. -/
theorem delivered_once (h_conduct : conduct.Only fun a => ∃ e, a = .post e) (d : Desk η) :
    (∃ log d', Works conduct d [.act .flush] log .done d' ∧
      (∀ steps, log.length ≤ steps → drain conduct steps [.act .flush] d = (.done, d')) ∧
      d'.handed = d.handed ++ d.outbox.deliveries ∧
      d'.outbox = { d.outbox with queue := posted log }) ∧
    ∀ acts : List (Act η), (∀ text, .fail text ∉ acts) →
      ∃ log d', Works conduct d (acts.map .act) log .done d' ∧
        (∀ steps, log.length ≤ steps → drain conduct steps (acts.map .act) d = (.done, d')) ∧
        ∀ h, d.outbox.subscribers.count h = 1 → .subscribe h ∉ acts → .unsubscribe h ∉ acts →
          received h d'.handed =
            received h d.handed ++ sent (d.outbox.queue.map .post ++ performed log) := by
  constructor
  · obtain ⟨log, h_works, -⟩ := works_flush h_conduct d
    exact ⟨log, _, h_works, fun _ h_steps => h_works.drain_eq h_steps, rfl, rfl⟩
  · intro acts h_acts
    obtain ⟨log, d', h_works, h_received⟩ := serves h_conduct h_acts d
    exact ⟨log, d', h_works, fun _ h_steps => h_works.drain_eq h_steps, h_received⟩

/-- Conduct by which one subscriber answers every envelope of one type. -/
def echoing : Conduct String := fun _ h e =>
  if h = "echo" ∧ e.type = "ping" then [.post { type := "pong" }] else []

theorem echoing_posts : echoing.Only fun a => ∃ e, a = .post e := by
  intro handed h e a h_mem
  unfold echoing at h_mem
  split at h_mem
  · exact ⟨_, List.mem_singleton.mp h_mem⟩
  · cases h_mem

/-- A run with an answer that is sent by a later flush, and an envelope that is cleared. -/
def pings : List (Act String) :=
  [.post { type := "ping" }, .flush, .flush, .post { type := "lost" }, .clear,
    .post { type := "ping" }, .flush]

theorem delivered_once_echoed :
    ∃ d', drain echoing 40 (pings.map .act) { outbox := { subscribers := ["echo", "log"] } } =
        (.done, d') ∧
      received "log" d'.handed =
        [{ type := "ping" }, { type := "pong" }, { type := "ping" }] := by
  obtain ⟨log, d', h_works, h_drain, h_received⟩ :=
    (delivered_once echoing_posts { outbox := { subscribers := ["echo", "log"] } }).2 pings
      (by simp [pings])
  obtain ⟨rfl, -, rfl⟩ := h_works.eq_trace 40 (by decide)
  exact ⟨_, h_drain 40 (by decide),
    (h_received "log" (by decide) (by simp [pings]) (by simp [pings])).trans rfl⟩

end Desk

end

end Clickwork.Outbox
