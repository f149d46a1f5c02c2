import Clickwork.Proofs.Outbox.Works
import Mathlib.Data.List.Basic

/-!
# Subscribers that disturb others

What becomes of a subscriber's envelopes when the others may fail and unsubscribe. Its share of an
agenda is what the offers there owe to it (`Desk.share`). Nothing adds to the share, and two things
take from it (`Moment.Disturbs`):

* a failure drops the agenda, so the whole share is lost;
* an offer goes by position, so when a subscriber before that position goes away, the one that is
  next moves up, and the offer passes it over.

An envelope lost in this way is gone, as a flush takes the queue before it begins. So a subscriber
that nobody unsubscribes receives of a flush what it was to receive, in that order and with gaps,
and it receives all of it just if nothing in the flush disturbs it
(`Desk.served_unless_disturbed`).
-/

namespace Clickwork.Outbox

variable {η : Type}

/-- **What takes envelopes from a subscriber.** -/
inductive Moment.Disturbs (h : η) (m : Moment η) : Prop where
  /-- A failure, while the subscriber is still to be served. -/
  | failing {text : String} {e : Envelope} {position : Nat} (h_task : m.task = .act (.fail text))
      (h_offer : .offer e position ∈ m.rest)
      (h_turn : h ∈ m.desk.outbox.subscribers.drop position)
  /-- The end of an earlier subscription, while the subscriber is next. -/
  | shifting {x : η} {e : Envelope} {position : Nat} (h_task : m.task = .act (.unsubscribe x))
      (h_offer : .offer e position ∈ m.rest)
      (h_earlier : x ∈ m.desk.outbox.subscribers.take position)
      (h_next : m.desk.outbox.subscribers[position]? = some h)

theorem forall_offer_cons {P : Envelope → Nat → Prop} {e : Envelope} {position : Nat}
    {agenda : List (Task η)} :
    (∀ e' position', .offer e' position' ∈ .offer e position :: agenda → P e' position') ↔
      P e position ∧ ∀ e' position', .offer e' position' ∈ agenda → P e' position' := by
  constructor
  · intro h
    exact ⟨h e position List.mem_cons_self,
      fun e' position' h_mem => h e' position' (List.mem_cons_of_mem _ h_mem)⟩
  · rintro ⟨h_first, h_rest⟩ e' position' h_mem
    rcases List.mem_cons.mp h_mem with h_eq | h_mem
    · obtain ⟨rfl, rfl⟩ := Task.offer.inj h_eq
      exact h_first
    · exact h_rest e' position' h_mem

/-! ### Lists with gaps -/

/-- Two parts with gaps make up the whole just if neither has any. -/
theorem append_eq_append_iff_of_sublist {α : Type} {xs xs' ys ys' : List α}
    (h : xs.Sublist xs') (h' : ys.Sublist ys') :
    xs ++ ys = xs' ++ ys' ↔ xs = xs' ∧ ys = ys' := by
  constructor
  · intro h_eq
    have h_length := congrArg List.length h_eq
    rw [List.length_append, List.length_append] at h_length
    have h_le := h.length_le
    have h_le' := h'.length_le
    exact ⟨h.eq_of_length (by omega), h'.eq_of_length (by omega)⟩
  · rintro ⟨rfl, rfl⟩
    rfl

section

variable [DecidableEq η]

/-- From a position on, an earlier element that goes away takes the next one with it. -/
theorem drop_erase_of_mem_take {x : η} {xs : List η} {n : Nat} (h : x ∈ xs.take n) :
    (xs.erase x).drop n = xs.drop (n + 1) := by
  induction xs generalizing n with
  | nil => simp
  | cons y ys ih =>
    cases n with
    | zero => cases h
    | succ n =>
      by_cases h_eq : y = x
      · subst h_eq
        rw [List.erase_cons_head]
        rfl
      · rw [List.erase_cons_tail (by simpa using h_eq)]
        exact ih ((List.mem_cons.mp h).resolve_left (Ne.symm h_eq))

theorem drop_erase_of_not_mem_take {x : η} {xs : List η} {n : Nat} (h : x ∉ xs.take n) :
    (xs.erase x).drop n = (xs.drop n).erase x := by
  induction xs generalizing n with
  | nil => simp
  | cons y ys ih =>
    cases n with
    | zero => rfl
    | succ n =>
      rw [List.take_succ_cons, List.mem_cons, not_or] at h
      rw [List.erase_cons_tail (by simpa using Ne.symm h.1)]
      exact ih h.2

/-! ### Shares -/

/-- **What an agenda is still to bring a subscriber.** -/
def Desk.share (h : η) (d : Desk η) (agenda : List (Task η)) : List Envelope :=
  received h (d.owed agenda)

namespace Desk

variable {h : η} {d d' : Desk η}

theorem share_cons_act (a : Act η) (agenda : List (Task η)) :
    d.share h (.act a :: agenda) = d.share h agenda := rfl

theorem share_cons_offer (e : Envelope) (position : Nat) (agenda : List (Task η)) :
    d.share h (.offer e position :: agenda) =
      List.replicate ((d.outbox.subscribers.drop position).count h) e ++ d.share h agenda := by
  rw [share, owed_cons_offer, received_append, received_map]
  rfl

theorem share_eq_nil_iff {agenda : List (Task η)} :
    d.share h agenda = [] ↔
      ∀ e position, .offer e position ∈ agenda → h ∉ d.outbox.subscribers.drop position := by
  induction agenda with
  | nil => simp [share, received]
  | cons task agenda ih =>
    cases task with
    | act a => simp [share_cons_act, ih]
    | offer e position =>
      rw [share_cons_offer, List.append_eq_nil_iff, List.replicate_eq_nil_iff, List.count_eq_zero,
        ih, forall_offer_cons]

/-- The turns of a subscriber from a position on, when another subscription ends: there is one less
if that was before the position and the subscriber is next. -/
theorem count_drop_erase {x : η} (h_ne : x ≠ h) (subscribers : List η) (position : Nat) :
    ((subscribers.erase x).drop position).count h ≤ (subscribers.drop position).count h ∧
      (((subscribers.erase x).drop position).count h = (subscribers.drop position).count h ↔
        ¬(x ∈ subscribers.take position ∧ subscribers[position]? = some h)) := by
  by_cases h_mem : x ∈ subscribers.take position
  · rw [drop_erase_of_mem_take h_mem]
    by_cases h_lt : position < subscribers.length
    · rw [List.drop_eq_getElem_cons h_lt, List.getElem?_eq_getElem h_lt, List.count_cons]
      by_cases h_next : subscribers[position] = h <;> simp [h_mem, h_next]
    · rw [List.drop_eq_nil_of_le (Nat.not_lt.mp h_lt),
        List.drop_eq_nil_of_le (Nat.le_succ_of_le (Nat.not_lt.mp h_lt)),
        List.getElem?_eq_none (Nat.not_lt.mp h_lt)]
      simp
  · rw [drop_erase_of_not_mem_take h_mem, List.count_erase_of_ne (Ne.symm h_ne)]
    simp [h_mem]

/-- **The share when another subscription ends.** -/
theorem share_unsubscribe {x : η} (h_ne : x ≠ h) (agenda : List (Task η)) :
    (share h { d with outbox := d.outbox.unsubscribe x } agenda).Sublist (d.share h agenda) ∧
      (share h { d with outbox := d.outbox.unsubscribe x } agenda = d.share h agenda ↔
        ∀ e position, .offer e position ∈ agenda →
          ¬(x ∈ d.outbox.subscribers.take position ∧
            d.outbox.subscribers[position]? = some h)) := by
  induction agenda with
  | nil => exact ⟨List.Sublist.refl _, by simp [share]⟩
  | cons task agenda ih =>
    cases task with
    | act a => simpa [share_cons_act] using ih
    | offer e position =>
      obtain ⟨h_le, h_iff⟩ := count_drop_erase h_ne d.outbox.subscribers position
      have h_first : (List.replicate
          (((d.outbox.unsubscribe x).subscribers.drop position).count h) e).Sublist
            (List.replicate ((d.outbox.subscribers.drop position).count h) e) :=
        (List.replicate_sublist_replicate e).mpr h_le
      rw [share_cons_offer, share_cons_offer, append_eq_append_iff_of_sublist h_first ih.1, ih.2,
        List.replicate_left_inj, Outbox.unsubscribe, h_iff, forall_offer_cons]
      exact ⟨h_first.append ih.1, Iff.rfl⟩

/-! ### Runs -/

variable {conduct : Conduct η} {agenda : List (Task η)} {log : List (Moment η)} {e : End}

/-- **What one task does to a share.** What it hands out comes off the share, and what is left is no
more than before; it is as much, just if the task does not disturb the subscriber. -/
theorem share_work {task : Task η} {next : List (Task η)}
    (h_work : d.work conduct task = .ok (d', next))
    (h_task : ∀ a, task = .act a → a.Plain ∧ a ≠ .unsubscribe h) (agenda : List (Task η)) :
    ∃ paid, received h d'.handed = received h d.handed ++ paid ∧
      (paid ++ d'.share h (next ++ agenda)).Sublist (d.share h (task :: agenda)) ∧
      (paid ++ d'.share h (next ++ agenda) = d.share h (task :: agenda) ↔
        ¬(⟨d, task, agenda⟩ : Moment η).Disturbs h) := by
  rcases task with a | ⟨envelope, position⟩
  · obtain ⟨h_plain, h_spares⟩ := h_task a rfl
    rcases h_plain with envelope | x | text
    · -- posting changes nothing that is owed
      obtain ⟨rfl, rfl⟩ := Prod.mk.inj (Except.ok.inj h_work)
      refine ⟨[], (List.append_nil _).symm, List.Sublist.refl _, iff_of_true rfl ?_⟩
      rintro (⟨h, -⟩ | ⟨h, -⟩) <;> cases h
    · obtain ⟨rfl, rfl⟩ := Prod.mk.inj (Except.ok.inj h_work)
      have h_ne : x ≠ h := fun h_eq => h_spares (h_eq ▸ rfl)
      obtain ⟨h_sublist, h_iff⟩ := share_unsubscribe (d := d) h_ne agenda
      refine ⟨[], (List.append_nil _).symm, h_sublist, h_iff.trans ?_⟩
      constructor
      · rintro h_none (⟨h, -⟩ | ⟨h, h_offer, h_earlier, h_next⟩)
        · cases h
        · obtain rfl := Act.unsubscribe.inj (Task.act.inj h)
          exact h_none _ _ h_offer ⟨h_earlier, h_next⟩
      · rintro h_calm e position h_offer ⟨h_earlier, h_next⟩
        exact h_calm (.shifting rfl h_offer h_earlier h_next)
    · cases h_work
  · -- an offer pays what it owes
    obtain ⟨-, paid, h_paid, h_debt⟩ := handed_of_offer h_work agenda
    have h_share : received h paid ++ d'.share h (next ++ agenda) =
        d.share h (.offer envelope position :: agenda) := by
      rw [share, share, ← received_append, h_debt]
    refine ⟨received h paid, by rw [h_paid, received_append], h_share ▸ List.Sublist.refl _,
      iff_of_true h_share ?_⟩
    rintro (⟨h, -⟩ | ⟨h, -⟩) <;> cases h

/-- **What a run brings a subscriber** is its share, with gaps; it is all of its share, just if
nothing disturbs it. -/
theorem Works.received_share (h_works : Works conduct d agenda log e d')
    (h_log : ∀ a ∈ performed log, a.Plain ∧ a ≠ .unsubscribe h) :
    ∃ got, received h d'.handed = received h d.handed ++ got ∧ got.Sublist (d.share h agenda) ∧
      (got = d.share h agenda ↔ ∀ m ∈ log, ¬m.Disturbs h) := by
  induction h_works with
  | done => exact ⟨[], (List.append_nil _).symm, List.Sublist.refl _, iff_of_true rfl nofun⟩
  | fail h_work =>
    -- nothing more is handed out, so what is left of the share is lost
    obtain rfl := eq_fail_of_work h_work
    refine ⟨[], (List.append_nil _).symm, List.nil_sublist _, ?_⟩
    rw [share_cons_act, eq_comm, share_eq_nil_iff, List.forall_mem_singleton]
    constructor
    · rintro h_none (⟨-, h_offer, h_turn⟩ | ⟨h, -⟩)
      · exact h_none _ _ h_offer h_turn
      · cases h
    · intro h_calm e position h_offer h_turn
      exact h_calm (.failing rfl h_offer h_turn)
  | @step d d' d'' task next agenda log e h_work _ ih =>
    have h_task : ∀ a, task = .act a → a.Plain ∧ a ≠ .unsubscribe h := by
      rintro a rfl
      exact h_log a List.mem_cons_self
    have h_rest : ∀ a ∈ performed log, a.Plain ∧ a ≠ .unsubscribe h := by
      intro a h_mem
      cases task with
      | act => exact h_log a (List.mem_cons_of_mem _ h_mem)
      | offer => exact h_log a h_mem
    obtain ⟨paid, h_paid, h_sub, h_iff⟩ := share_work h_work h_task agenda
    obtain ⟨got, h_got, h_sub', h_iff'⟩ := ih h_rest
    have h_all : (paid ++ got).Sublist (paid ++ d'.share h (next ++ agenda)) :=
      (List.append_sublist_append_left paid).mpr h_sub'
    refine ⟨paid ++ got, by rw [h_got, h_paid, List.append_assoc], h_all.trans h_sub, ?_⟩
    rw [List.forall_mem_cons, ← h_iff, ← h_iff']
    constructor
    · intro h_eq
      -- both gaps must be empty
      have h_full : paid ++ d'.share h (next ++ agenda) = d.share h (task :: agenda) :=
        h_sub.antisymm (h_eq ▸ h_all)
      exact ⟨h_full, List.append_cancel_left (h_eq.trans h_full.symm)⟩
    · rintro ⟨h_full, rfl⟩
      exact h_full

/-- **A flush serves a subscriber unless it is disturbed.** The others may post, fail, and
unsubscribe each other and themselves. The flush comes to an end, and what waits afterwards was
posted meanwhile. The subscriber received of what waited before what it was to receive, in that
order and with gaps. There is no gap, just if nothing in the flush disturbs it. -/
theorem served_unless_disturbed
    (h_conduct : conduct.Only fun a => a.Plain ∧ a ≠ .unsubscribe h) (d : Desk η) :
    ∃ log e d', Works conduct d [.act .flush] log e d' ∧
      (∀ steps, log.length ≤ steps → drain conduct steps [.act .flush] d = (e, d')) ∧
      d'.outbox.queue = posted log ∧
      ∃ got, received h d'.handed = received h d.handed ++ got ∧
        got.Sublist (received h d.outbox.deliveries) ∧
        (got = received h d.outbox.deliveries ↔ ∀ m ∈ log, ¬m.Disturbs h) := by
  have h_plain : conduct.Only Act.Plain := h_conduct.mono fun _ h => h.1
  obtain ⟨log, e, d', h_rest, h_works⟩ := settles_flush h_plain d
  have h_log := h_rest.performed_of_only h_conduct (by simp)
  obtain ⟨got, h_got, h_sub, h_iff⟩ := h_rest.received_share h_log
  rw [share, owed_offers] at h_sub h_iff
  have h_queue : d'.outbox.queue = posted log :=
    h_rest.queue_eq fun a h_mem => (h_log a h_mem).1
  refine ⟨_, e, d', h_works, fun _ h_steps => h_works.drain_eq h_steps, h_queue, got, h_got,
    h_sub, ?_⟩
  -- the flush itself disturbs nobody
  rw [List.forall_mem_cons, and_iff_right]
  · exact h_iff
  · rintro (⟨h, -⟩ | ⟨h, -⟩) <;> cases h

/-- Conduct by which one subscriber goes away when it is served, and another one fails. -/
def upsetting : Conduct String := fun _ h _ =>
  if h = "shy" then [.unsubscribe "shy"] else if h = "weak" then [.fail "boom"] else []

theorem upsetting_spares : upsetting.Only fun a => a.Plain ∧ a ≠ .unsubscribe "log" := by
  intro handed h e a h_mem
  unfold upsetting at h_mem
  split at h_mem
  · obtain rfl := List.mem_singleton.mp h_mem
    exact ⟨.unsubscribe _, by simp⟩
  · split at h_mem
    · obtain rfl := List.mem_singleton.mp h_mem
      exact ⟨.fail _, nofun⟩
    · cases h_mem

/-- Two envelopes that wait to be flushed. -/
def waiting (subscribers : List String) : Desk String where
  outbox := { subscribers, queue := [{ type := "x" }, { type := "y" }] }

/-- A subscriber that goes away disturbs those after it, and not those before it. -/
theorem served_unless_disturbed_by_leaving :
    (∀ m ∈ trace upsetting 20 [.act .flush] (waiting ["log", "shy"]), ¬m.Disturbs "log") ∧
    ∃ m ∈ trace upsetting 20 [.act .flush] (waiting ["shy", "log"]), m.Disturbs "log" := by
  constructor
  · obtain ⟨log, e, d', h_works, -, -, got, h_got, -, h_iff⟩ :=
      served_unless_disturbed upsetting_spares (waiting ["log", "shy"])
    obtain ⟨rfl, rfl, rfl⟩ := h_works.eq_trace 20 (by decide)
    exact h_iff.mp (h_got.symm.trans rfl)
  · obtain ⟨log, e, d', h_works, -, -, got, h_got, -, h_iff⟩ :=
      served_unless_disturbed upsetting_spares (waiting ["shy", "log"])
    obtain ⟨rfl, rfl, rfl⟩ := h_works.eq_trace 20 (by decide)
    have h_gap : got = [{ type := "y" }] := h_got.symm.trans rfl
    by_contra h_none
    have h_all := h_iff.mpr fun m h_mem h_disturbs => h_none ⟨m, h_mem, h_disturbs⟩
    exact absurd (congrArg List.length (h_gap.symm.trans h_all)) (by decide)

/-- **An envelope that waited is never received**, though nobody unsubscribed the subscriber: it is
passed over when the one before it goes away, and left out when the one before it fails. Nothing is
left to be flushed later. -/
theorem envelope_lost :
    (upsetting.Only fun a => a.Plain ∧ a ≠ .unsubscribe "log") ∧
    (∃ d', drain upsetting 20 [.act .flush, .act .flush] (waiting ["shy", "log"]) = (.done, d') ∧
      received "log" d'.handed = [{ type := "y" }] ∧ d'.outbox.queue = []) ∧
    ∃ d', drain upsetting 20 [.act .flush] (waiting ["weak", "log"]) = (.failed "boom", d') ∧
      received "log" d'.handed = [] ∧ d'.outbox.queue = [] :=
  ⟨upsetting_spares, ⟨_, rfl, rfl, rfl⟩, _, rfl, rfl, rfl⟩

end Desk

end

end Clickwork.Outbox
