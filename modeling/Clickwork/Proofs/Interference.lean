import Clickwork.Proofs.Discipline
import Clickwork.Proofs.History
import Clickwork.Proofs.Turns
import Mathlib.Logic.Relation

/-!
# Interference

While a task is held before a call, other tasks take turns on the same session and the same host.
What a task does is therefore told on terms (`Terms`): what the others may do while it is held
before a call, under which circumstances it may make the call, and what it does itself. Nothing can
come in between two calls of a task that is not held, so a call and what follows it up to the next
one count as one step.

A program is safe on some terms (`Program.Safe`) if it keeps to its part of them as long as the
others keep to theirs. What is left of a safe program that was held is safe again, on whatever the
others made of the session meanwhile (`Safe.run`, `Safe.resume`). `World.Observes` says so of all
the held tasks of a world, and `World.Observes.turn` is the one step from which everything about
interleaved tasks follows by induction on their turns.

Safety is shown by one rule for each construction. A program that keeps an invariant whatever it is
told is safe by a discipline (`Terms.keeping`).
-/

namespace Clickwork

/-! ### Moments -/

/-- **What tasks may notice of a machine**: the memory, the host and the calls made so far. -/
structure Moment (σ : Type) where
  memory : σ
  host : Host
  calls : List Call

/-- The call that an event tells of. -/
def Event.call? : Event → Option Call
  | called c => some c
  | _ => none

namespace Moment

variable {σ : Type}

/-- **Makes a call.** -/
def perform (m : Moment σ) (c : Call) : Except Failure c.Answer × Moment σ :=
  ((m.host.perform c).1, { m with host := (m.host.perform c).2, calls := m.calls ++ [c] })

/-- The moment at which the memory has been changed. -/
def withMemory (m : Moment σ) (s : σ) : Moment σ :=
  { m with memory := s }

/-- **The calls made between two moments.** -/
def since (m₀ m : Moment σ) : List Call :=
  m.calls.drop m₀.calls.length

/-- No call made before a moment is forgotten at a later one. -/
def Precedes (m₀ m : Moment σ) : Prop :=
  ∃ new, m.calls = m₀.calls ++ new

theorem Precedes.refl (m : Moment σ) : m.Precedes m :=
  ⟨[], (List.append_nil _).symm⟩

theorem Precedes.trans {m₁ m₂ m₃ : Moment σ} (h : m₁.Precedes m₂) (h' : m₂.Precedes m₃) :
    m₁.Precedes m₃ := by
  obtain ⟨new, h_new⟩ := h
  obtain ⟨new', h_new'⟩ := h'
  exact ⟨new ++ new', by rw [h_new', h_new, List.append_assoc]⟩

theorem Precedes.perform (m : Moment σ) (c : Call) : m.Precedes (m.perform c).2 :=
  ⟨[c], rfl⟩

theorem since_append {m₁ m₂ m₃ : Moment σ} (h : m₁.Precedes m₂) (h' : m₂.Precedes m₃) :
    m₁.since m₃ = m₁.since m₂ ++ m₂.since m₃ := by
  obtain ⟨new, h_new⟩ := h
  obtain ⟨new', h_new'⟩ := h'
  unfold since
  rw [h_new', h_new, List.append_assoc, List.drop_left, List.drop_left, ← List.append_assoc,
    List.drop_left]

/-- What changes without a call. -/
theorem since_eq_nil {m₀ m : Moment σ} (h : m.calls = m₀.calls) : m₀.since m = [] := by
  rw [since, h, List.drop_length]

theorem since_perform (m : Moment σ) (c : Call) : m.since (m.perform c).2 = [c] :=
  List.drop_left

end Moment

/-- The moment of a machine. -/
def Machine.moment {σ : Type} (m : Machine σ) : Moment σ :=
  { memory := m.memory, host := m.host, calls := m.events.toList.filterMap (·.call?) }

namespace Machine

variable {σ : Type}

theorem moment_perform (m : Machine σ) (c : Call) :
    (m.perform c).2.moment = (m.moment.perform c).2 := by
  simp [moment, perform, Moment.perform, emit, Event.call?]

theorem moment_emit (m : Machine σ) {e : Event} (he : e.isCall = false) :
    (m.emit e).moment = m.moment := by
  cases e with
  | called c => cases he
  | log | sent => simp [moment, emit, Event.call?]

end Machine

/-! ### Terms -/

/-- **The terms on which a task runs beside others.** -/
structure Terms (σ : Type) where
  /-- What the others may do while the task is held before a call. -/
  rely : Call → Moment σ → Moment σ → Prop
  /-- The circumstances under which the task makes a call. -/
  may : Call → Moment σ → Prop
  /-- What the task may do from one call to the next. -/
  step : Moment σ → Moment σ → Prop
  rely_refl : ∀ c m, rely c m m
  rely_trans : ∀ {c m₁ m₂ m₃}, rely c m₁ m₂ → rely c m₂ m₃ → rely c m₁ m₃
  step_refl : ∀ m, step m m
  step_trans : ∀ {m₁ m₂ m₃}, step m₁ m₂ → step m₂ m₃ → step m₁ m₃
  /-- Walks are not restricted. -/
  step_node : ∀ m id, step m (m.perform (.node id)).2

/-- What may become of a moment during a walk, which may be held before any visit. -/
def Terms.Drift {σ : Type} (T : Terms σ) : Moment σ → Moment σ → Prop :=
  Relation.ReflTransGen fun m m' =>
    (∃ id, T.rely (.node id) m m') ∨ ∃ id, m' = (m.perform (.node id)).2

/-- What is required at the end: that the last step is one that may be done, and of the result. -/
def Terms.closing {σ α : Type} (T : Terms σ) (Q : Except Failure α → Moment σ → Prop)
    (r : Except Failure α) (b m : Moment σ) : Prop :=
  T.step b m ∧ Q r m

namespace Program

variable {σ α β : Type} {T : Terms σ} {Q : Except Failure α → Moment σ → Prop}
  {P : Except Failure α → Moment σ → Moment σ → Prop} {b : Moment σ}

/-- **A program keeps to its part of the terms** from the moment `m` on, when its last call was made
at the moment `b`. What is required of its result may depend on both. -/
def Safe (T : Terms σ) (P : Except Failure α → Moment σ → Moment σ → Prop) :
    Program σ α → Moment σ → Moment σ → Prop
  | pure a, b, m => P (.ok a) b m
  | throw e, b, m => P (.error e) b m
  | get k, b, m => (k m.memory).Safe T P b m
  | set s rest, b, m => rest.Safe T P b (m.withMemory s)
  | emit e rest, b, m => e.isCall = false ∧ rest.Safe T P b m
  | call c k, b, m => T.step b m ∧ ∀ m', T.rely c m m' → T.may c m' →
      (k (m'.perform c).1).Safe T P m' (m'.perform c).2
  | walk _ _ k, b, m => T.step b m ∧ ∀ answer m', T.Drift m m' → (k answer).Safe T P m' m'

/-- The call that a program is held before. -/
def awaited? : Program σ α → Option Call
  | call c _ => some c
  | walk (id :: _) _ _ => some (.node id)
  | _ => none

/-- **A program that is held before a call, and is safe whenever it is resumed.** -/
def Waits (T : Terms σ) (Q : Except Failure α → Moment σ → Prop) (p : Program σ α)
    (m : Moment σ) : Prop :=
  (∃ c, p.awaited? = some c) ∧ p.Safe T (T.closing Q) m m

/-- **What the others may do is nothing to a program that is held.** -/
theorem Waits.rely {p : Program σ α} {m m' : Moment σ} (hp : p.Waits T Q m)
    (h : ∀ c, p.awaited? = some c → T.rely c m m') : p.Waits T Q m' := by
  obtain ⟨h_held, h_safe⟩ := hp
  refine ⟨h_held, ?_⟩
  match p, h_safe with
  | call c k, ⟨_, h_safe⟩ =>
    exact ⟨T.step_refl m', fun m'' h_rely => h_safe m'' (T.rely_trans (h c rfl) h_rely)⟩
  | walk (id :: pending) found k, ⟨_, h_safe⟩ =>
    exact ⟨T.step_refl m',
      fun answer m'' h_drift => h_safe answer m'' (.head (.inl ⟨id, h _ rfl⟩) h_drift)⟩
  | walk [] found k, _ | pure _, _ | throw _, _ | get _, _ | set .., _ | emit .., _ =>
    obtain ⟨c, h_none⟩ := h_held
    cases h_none

/-! ### Calls during a stretch -/

theorem walkOn_precedes (visits : Nat) (stop : Stop) (pending : List String)
    (found : Array String) (m : Machine σ) :
    m.moment.Precedes (walkOn visits stop pending found m).2.moment := by
  induction visits generalizing stop pending found m with
  | zero => cases pending <;> exact .refl _
  | succ visits ih =>
    cases pending with
    | nil => exact .refl _
    | cons id pending =>
      unfold walkOn
      dsimp only
      split
      · exact .refl _
      · have h_call : m.moment.Precedes (m.perform (.node id)).2.moment := by
          rw [Machine.moment_perform]
          exact .perform _ _
        split <;> rename_i h_eq <;> rw [h_eq] at h_call
        · exact h_call
        · exact h_call.trans (ih _ _ _ _)

theorem run_precedes (p : Program σ α) (stop : Stop) (m : Machine σ) :
    m.moment.Precedes (p.run stop m).2.moment := by
  induction p generalizing stop m with
  | pure | throw => exact .refl _
  | get k ih => exact ih _ stop m
  | set s rest ih => exact ih stop { m with memory := s }
  | emit e rest ih =>
    have h_emit : m.moment.Precedes (m.emit e).moment :=
      ⟨[e].filterMap (·.call?), by simp [Machine.moment, Machine.emit]⟩
    exact h_emit.trans (ih stop (m.emit e))
  | call c k ih =>
    -- the program is held before the call, or goes on after it
    unfold run
    split
    · exact .refl _
    · have h_call : m.moment.Precedes (m.perform c).2.moment := by
        rw [Machine.moment_perform]
        exact .perform _ _
      exact h_call.trans (ih _ _ _)
  | walk pending found k ih =>
    have h_walk := walkOn_precedes (m.visitBound stop pending.length) stop pending found m
    unfold run
    split <;> rename_i h_eq <;> rw [h_eq] at h_walk
    · exact h_walk
    · exact h_walk.trans (ih _ _ _)

/-! ### Stretches of safe programs -/

/-- A walk does what it may, and is held before a visit if it is held. -/
theorem walkOn_drifts (T : Terms σ) (visits : Nat) (stop : Stop) (pending : List String)
    (found : Array String) (m : Machine σ) :
    T.Drift m.moment (walkOn visits stop pending found m).2.moment ∧
      T.step m.moment (walkOn visits stop pending found m).2.moment ∧
      ∀ pending' found', (walkOn visits stop pending found m).1 = .held pending' found' →
        pending' ≠ [] := by
  induction visits generalizing stop pending found m with
  | zero => cases pending <;> exact ⟨.refl, T.step_refl _, fun _ _ h_held => by cases h_held⟩
  | succ visits ih =>
    cases pending with
    | nil => exact ⟨.refl, T.step_refl _, fun _ _ h_held => by cases h_held⟩
    | cons id pending =>
      unfold walkOn
      dsimp only
      split
      · -- held before this visit, which is still pending
        refine ⟨.refl, T.step_refl _, fun pending' found' h_held => ?_⟩
        cases h_held
        exact List.cons_ne_nil _ _
      · have h_drift : T.Drift m.moment (m.perform (.node id)).2.moment :=
          .single (.inr ⟨id, m.moment_perform _⟩)
        have h_step : T.step m.moment (m.perform (.node id)).2.moment := by
          rw [Machine.moment_perform]
          exact T.step_node _ id
        split <;> rename_i h_eq <;> rw [h_eq] at h_drift h_step
        · exact ⟨h_drift, h_step, fun _ _ h_held => by cases h_held⟩
        · obtain ⟨h_drift', h_step', h_held⟩ := ih _ _ _ _
          exact ⟨h_drift.trans h_drift', T.step_trans h_step h_step', h_held⟩

/-- **How a stretch of a safe program ends**: as required, or held and safe. -/
def Reaches (T : Terms σ) (Q : Except Failure α → Moment σ → Prop) (m : Moment σ) :
    Ended σ α × Machine σ → Prop
  | (.finished r, m') => T.step m m'.moment ∧ Q r m'.moment
  | (.held rest, m') => T.step m m'.moment ∧ rest.Waits T Q m'.moment

theorem Reaches.step {m : Moment σ} {r : Ended σ α × Machine σ} (h : Reaches T Q m r) :
    T.step m r.2.moment := by
  match r, h with
  | (.finished _, _), h | (.held _, _), h => exact h.1

theorem Reaches.after {m₁ m₂ : Moment σ} {r : Ended σ α × Machine σ} (h_step : T.step m₁ m₂)
    (h : Reaches T Q m₂ r) : Reaches T Q m₁ r := by
  match r, h with
  | (.finished _, _), h | (.held _, _), h => exact ⟨T.step_trans h_step h.1, h.2⟩

/-- Some calls may be made at any time, as long as the task keeps to its part of the terms. -/
def Timely (T : Terms σ) (b : Moment σ) (calls : List Call) : Prop :=
  ∀ c ∈ calls, ∀ m, T.step b m → T.may c m

theorem Timely.later {b b' : Moment σ} {calls calls' : List Call} (h : Timely T b calls)
    (h_step : T.step b b') (h_calls : ∀ c ∈ calls', c ∈ calls) : Timely T b' calls' :=
  fun c hc m h_later => h c (h_calls c hc) m (T.step_trans h_step h_later)

/-- The first of the calls that are made in a stretch. -/
theorem since_of_perform {m : Machine σ} {c : Call} {m' : Moment σ}
    (h_after : (m.perform c).2.moment.Precedes m') :
    m.moment.since m' = c :: (m.perform c).2.moment.since m' := by
  rw [Machine.moment_perform] at h_after ⊢
  rw [Moment.since_append (.perform _ c) h_after, Moment.since_perform]
  rfl

/-- **A stretch of a safe program keeps to the terms**, and so does what it leaves to be done. -/
theorem Safe.run {p : Program σ α} (stop : Stop) {m : Machine σ}
    (hp : p.Safe T (T.closing Q) b m.moment)
    (h_timely : Timely T b (m.moment.since (p.run stop m).2.moment)) :
    Reaches T Q b (p.run stop m) := by
  induction p generalizing stop b m with
  | pure | throw => exact hp
  | get k ih => exact ih m.memory stop hp h_timely
  | set s rest ih => exact ih stop (m := { m with memory := s }) hp h_timely
  | emit e rest ih =>
    have h_same : (m.emit e).moment = m.moment := m.moment_emit hp.1
    have h_rest := ih stop (b := b) (m := m.emit e) (h_same ▸ hp.2)
    rw [h_same] at h_rest
    exact h_rest h_timely
  | call c k ih =>
    obtain ⟨h_step, h_resumed⟩ := hp
    unfold Program.run at h_timely ⊢
    cases h_pass : stop.pass? c.method with
    | none =>
      -- what is left begins with the call
      exact ⟨h_step, ⟨c, rfl⟩, T.step_refl _, h_resumed⟩
    | some stop' =>
      rw [h_pass] at h_timely
      have h_calls := since_of_perform (run_precedes (k (m.perform c).1) stop' (m.perform c).2)
      have h_may : T.may c m.moment := h_timely c (h_calls ▸ List.mem_cons_self) _ h_step
      have h_rest := h_resumed _ (T.rely_refl c _) h_may
      rw [← Machine.moment_perform] at h_rest
      refine .after h_step (ih _ stop' h_rest (h_timely.later h_step fun c' hc' => ?_))
      exact h_calls ▸ List.mem_cons_of_mem c hc'
  | walk pending found k ih =>
    obtain ⟨h_step, h_resumed⟩ := hp
    obtain ⟨h_drift, h_walk, h_held⟩ :=
      walkOn_drifts T (m.visitBound stop pending.length) stop pending found m
    have h_before := walkOn_precedes (m.visitBound stop pending.length) stop pending found m
    unfold Program.run at h_timely ⊢
    generalize walkOn (m.visitBound stop pending.length) stop pending found m = r
      at h_drift h_walk h_held h_before h_timely ⊢
    have h_step' := T.step_trans h_step h_walk
    obtain ⟨⟨pending', found'⟩ | ⟨answer, stop'⟩, m'⟩ := r
    · cases pending' with
      | nil => exact absurd rfl (h_held [] found' rfl)
      | cons id pending' =>
        exact ⟨h_step', ⟨_, rfl⟩, T.step_refl _,
          fun answer m'' h_later => h_resumed answer m'' (h_drift.trans h_later)⟩
    · have h_after := run_precedes (k answer) stop' m'
      refine .after h_step' (ih answer stop' (h_resumed answer _ h_drift)
        (h_timely.later h_step' fun c hc => ?_))
      rw [Moment.since_append h_before h_after]
      exact List.mem_append_right _ hc

/-- **A safe program is resumed**, on whatever the others have made of the moment. -/
theorem Safe.resume {p : Program σ α} (stop : Stop) {m : Machine σ}
    (hp : p.Safe T (T.closing Q) m.moment m.moment)
    (h_timely : Timely T m.moment (m.moment.since (p.resume stop m).2.moment)) :
    Reaches T Q m.moment (p.resume stop m) := by
  match p with
  | .call c k =>
    -- the call it was held before comes first, and the rest is a run of its own
    have h_calls := since_of_perform (run_precedes (k (m.perform c).1) stop (m.perform c).2)
    have h_may : T.may c m.moment := h_timely c (h_calls ▸ List.mem_cons_self) _ hp.1
    have h_rest := hp.2 _ (T.rely_refl c _) h_may
    rw [← Machine.moment_perform] at h_rest
    refine h_rest.run stop (h_timely.later hp.1 fun c' hc' => ?_)
    exact h_calls ▸ List.mem_cons_of_mem c hc'
  | .walk (id :: pending) found k =>
    have h_drift : T.Drift m.moment (m.perform (.node id)).2.moment :=
      .single (.inr ⟨id, m.moment_perform _⟩)
    have h_step : T.step m.moment (m.perform (.node id)).2.moment := by
      rw [Machine.moment_perform]
      exact T.step_node _ id
    have h_visit {m' : Moment σ} (h_after : (m.perform (.node id)).2.moment.Precedes m') :=
      since_of_perform h_after
    simp only [Program.resume] at h_timely ⊢
    rcases h_eq : m.perform (.node id) with ⟨e | node, m'⟩ <;>
      rw [h_eq] at h_drift h_step h_visit h_timely
    · have h_calls := h_visit (run_precedes (k (.error e)) stop m')
      refine .after h_step ((hp.2 _ _ h_drift).run stop (h_timely.later h_step fun c hc => ?_))
      exact h_calls ▸ List.mem_cons_of_mem _ hc
    · -- the walk goes on from another list, which its safety does not depend on
      have h_rest (pending' : List String) (found' : Array String) :
          (walk pending' found' k).Safe T (T.closing Q) m'.moment m'.moment :=
        ⟨T.step_refl _, fun answer m'' h_later => hp.2 answer m'' (h_drift.trans h_later)⟩
      have h_calls := h_visit (run_precedes (walk (visit node pending found).1
        (visit node pending found).2 k) stop m')
      refine .after h_step ((h_rest _ _).run stop (h_timely.later h_step fun c hc => ?_))
      exact h_calls ▸ List.mem_cons_of_mem _ hc
  | .walk [] _ _ | .pure _ | .throw _ | .get _ | .set .. | .emit .. => exact hp.run stop h_timely

/-! ### Rules -/

section Rules

variable {p : Program σ α} {m : Moment σ} {R : Except Failure β → Moment σ → Moment σ → Prop}

theorem Safe.mono {P' : Except Failure α → Moment σ → Moment σ → Prop} (hp : p.Safe T P b m)
    (h_imp : ∀ r b' m', P r b' m' → P' r b' m') : p.Safe T P' b m := by
  induction p generalizing b m with
  | pure a => exact h_imp _ _ _ hp
  | throw e => exact h_imp _ _ _ hp
  | get k ih => exact ih _ hp
  | set s rest ih => exact ih hp
  | emit e rest ih => exact ⟨hp.1, ih hp.2⟩
  | call c k ih => exact ⟨hp.1, fun m' h_rely h_may => ih _ (hp.2 m' h_rely h_may)⟩
  | walk pending found k ih =>
    exact ⟨hp.1, fun answer m' h_drift => ih answer (hp.2 answer m' h_drift)⟩

/-- **Sequencing.** -/
theorem Safe.bind {f : α → Program σ β} (hp : p.Safe T P b m)
    (h_ok : ∀ a b' m', P (.ok a) b' m' → (f a).Safe T R b' m')
    (h_error : ∀ e b' m', P (.error e) b' m' → R (.error e) b' m') : (p >>= f).Safe T R b m := by
  show (p.bind f).Safe T R b m
  induction p generalizing b m with
  | pure a => exact h_ok a b m hp
  | throw e => exact h_error e b m hp
  | get k ih => exact ih _ hp
  | set s rest ih => exact ih hp
  | emit e rest ih => exact ⟨hp.1, ih hp.2⟩
  | call c k ih => exact ⟨hp.1, fun m' h_rely h_may => ih _ (hp.2 m' h_rely h_may)⟩
  | walk pending found k ih =>
    exact ⟨hp.1, fun answer m' h_drift => ih answer (hp.2 answer m' h_drift)⟩

theorem Safe.attempt {P : Except Failure (Except Failure α) → Moment σ → Moment σ → Prop}
    (hp : p.Safe T (fun r => P (.ok r)) b m) : p.attempt.Safe T P b m := by
  induction p generalizing b m with
  | pure | throw => exact hp
  | get k ih => exact ih _ hp
  | set s rest ih => exact ih hp
  | emit e rest ih => exact ⟨hp.1, ih hp.2⟩
  | call c k ih => exact ⟨hp.1, fun m' h_rely h_may => ih _ (hp.2 m' h_rely h_may)⟩
  | walk pending found k ih =>
    exact ⟨hp.1, fun answer m' h_drift => ih answer (hp.2 answer m' h_drift)⟩

theorem Safe.lift {r : Except Failure α} (h : P r b m) : (lift r : Program σ α).Safe T P b m := by
  cases r <;> exact h

theorem Safe.read {f : σ → Program σ β} (h : (f m.memory).Safe T R b m) :
    (read >>= f).Safe T R b m :=
  h

theorem Safe.tryAsk {c : Call} {P : Except Failure (Except Failure c.Answer) → Moment σ →
    Moment σ → Prop} (h_step : T.step b m)
    (h : ∀ m', T.rely c m m' → T.may c m' → P (.ok (m'.perform c).1) m' (m'.perform c).2) :
    (tryAsk c : Program σ _).Safe T P b m :=
  ⟨h_step, h⟩

theorem Safe.ask {c : Call} {P : Except Failure c.Answer → Moment σ → Moment σ → Prop}
    (h_step : T.step b m)
    (h : ∀ m', T.rely c m m' → T.may c m' → P (m'.perform c).1 m' (m'.perform c).2) :
    (ask c : Program σ c.Answer).Safe T P b m :=
  ⟨h_step, fun m' h_rely h_may => .lift (h m' h_rely h_may)⟩

/-- What is required of a result, and what if there is none. -/
def ends (result : α → Moment σ → Moment σ → Prop) (failure : Moment σ → Moment σ → Prop) :
    Except Failure α → Moment σ → Moment σ → Prop
  | .ok a => result a
  | .error _ => failure

/-- **A loop** that keeps an invariant of what it has come to so far. -/
theorem Safe.mapM {f : α → Program σ β} {xs : List α} {I : List β → Moment σ → Moment σ → Prop}
    {E : Moment σ → Moment σ → Prop} (done : List β) (hI : I done b m)
    (h_step : ∀ x ∈ xs, ∀ done b m, I done b m →
      (f x).Safe T (ends (fun y => I (done ++ [y])) E) b m) :
    (xs.mapM f).Safe T (ends (fun ys => I (done ++ ys)) E) b m := by
  induction xs generalizing done b m with
  | nil =>
    show I (done ++ []) b m
    rwa [List.append_nil]
  | cons x xs ih =>
    rw [List.mapM_cons]
    refine (h_step x List.mem_cons_self done b m hI).bind (fun y b' m' hI' => ?_)
      fun _ _ _ hE => hE
    have h_rest := ih (done ++ [y]) hI' fun x' hx' => h_step x' (List.mem_cons_of_mem x hx')
    refine h_rest.bind (fun ys b'' m'' hI'' => ?_) fun _ _ _ hE => hE
    have h_all : I (done ++ [y] ++ ys) b'' m'' := hI''
    show I (done ++ y :: ys) b'' m''
    rwa [List.append_assoc] at h_all

end Rules

end Program

/-! ### Invariants -/

namespace Terms

variable {σ τ : Type} {T : Terms σ} {I : Moment σ → Prop}

/-- **Keeping an invariant on some terms**, whatever the program is told, is a discipline. -/
def keeping (T : Terms σ) (I : Moment σ → Prop) : Discipline σ where
  Holds p := ∀ b m, T.step b m → I m → p.Safe T (T.closing fun _ => I) b m
  lift _ := fun _ _ h_step hI => .lift ⟨h_step, hI⟩
  bind hp hf := fun b m h_step hI => (hp b m h_step hI).bind
    (fun a b' m' h_done => hf a b' m' h_done.1 h_done.2) fun _ _ _ h_done => h_done
  attempt hp := fun b m h_step hI => .attempt (hp b m h_step hI)
  log _ _ _ := fun _ _ h_step hI => ⟨rfl, h_step, hI⟩

theorem permits {c : Call} (h : ∀ m m', I m → T.rely c m m' → T.may c m' →
    T.step m' (m'.perform c).2 ∧ I (m'.perform c).2) : (T.keeping I).Permits c :=
  fun _ m h_step hI => ⟨h_step, fun m' => h m m' hI⟩

theorem sees (view : σ → τ) {P : τ → Prop} (h : ∀ m, I m → P (view m.memory)) :
    (T.keeping I).Sees view P :=
  ⟨fun _ hf b m h_step hI => hf _ (h m hI) b m h_step hI⟩

theorem modifies {f : σ → σ} (h : ∀ m, I m →
    T.step m (m.withMemory (f m.memory)) ∧ I (m.withMemory (f m.memory))) :
    (T.keeping I).Holds (Program.modify f) :=
  fun _ m h_step hI => ⟨T.step_trans h_step (h m hI).1, (h m hI).2⟩

theorem delivers (listener : String) (e : Envelope) :
    (T.keeping I).Holds (Program.deliver listener e) :=
  fun _ _ h_step hI => ⟨rfl, h_step, hI⟩

theorem walks (h_rely : ∀ id m m', I m → T.rely (.node id) m m' → I m')
    (h_node : ∀ id m, I m → I (m.perform (.node id)).2) (ids : List String) :
    (T.keeping I).Holds (Program.instancesBelow ids) := by
  intro b m h_step hI
  refine ⟨h_step, fun answer m' h_drift => .lift ⟨T.step_refl m', ?_⟩⟩
  induction h_drift with
  | refl => exact hI
  | tail _ h_last ih =>
    rcases h_last with ⟨id, h_last⟩ | ⟨id, rfl⟩
    · exact h_rely id _ _ ih h_last
    · exact h_node id _ ih

/-- A program that keeps an invariant can run as a task. -/
theorem keeping_safe {α : Type} {p : Program σ α} (hp : (T.keeping I).Holds p) {m : Moment σ}
    (hI : I m) : p.Safe T (T.closing fun _ => I) m m :=
  hp m m (T.step_refl m) hI

end Terms

/-! ### Worlds -/

/-- The task that a turn is one of. -/
def Turn.task? : Turn → Option String
  | .start task .. | .resume task _ => some task
  | .host _ => none

/-- Whether a turn resumes a task. -/
def Turn.resumes (task : String) : Turn → Bool
  | .resume task' _ => task' == task
  | _ => false

namespace World

/-- **The task of a turn is none of the others**: it is resumed, or there was none of its name
before. -/
theorem ne_of_not_resumed {w : World Unit} {t : Turn} {task task' : String} {r : Task Unit}
    (h_task : t.task? = some task)
    (h_free : ∀ entry stop, t = .start task entry stop → w.tasks.find? task = none)
    (h_found : w.tasks.find? task' = some r) (h_other : t.resumes task' = false) :
    task' ≠ task := by
  rintro rfl
  match t, h_task with
  | .start _ entry stop, h_task =>
    obtain rfl : _ = task' := Option.some.inj h_task
    cases h_found.symm.trans (h_free entry stop rfl)
  | .resume _ stop, h_task =>
    obtain rfl : _ = task' := Option.some.inj h_task
    rw [Turn.resumes, beq_self_eq_true] at h_other
    cases h_other

theorem find?_stretch_of_ne (w : World Unit) {task task' : String} (h_ne : task' ≠ task)
    (number : Nat) (run : Machine Session → Program.Ended Session Unit × Machine Session) :
    (w.stretch task' number run).2.tasks.find? task = w.tasks.find? task := by
  have h_session (s : Session) : (w.setSession number s).tasks = w.tasks := by
    unfold setSession
    split <;> rfl
  unfold stretch
  dsimp only
  split
  · exact congrArg (Registry.find? · task) (h_session _)
  · exact congrArg (Registry.find? · task) (h_session _)
  · show ((w.setSession number _).tasks.insert task' _).find? task = _
    rw [h_session, Registry.find?_insert_of_ne _ _ h_ne]

/-- A turn leaves the held tasks alone that it is not one of. -/
theorem find?_turn_of_ne (w : World Unit) {t : Turn} {task : String} (h : t.task? ≠ some task) :
    (w.turn t).tasks.find? task = w.tasks.find? task := by
  cases t with
  | host h => rfl
  | start task' entry stop =>
    exact w.find?_stretch_of_ne (fun h_eq => h (congrArg some h_eq)) _ _
  | resume task' stop =>
    have h_ne : task' ≠ task := fun h_eq => h (congrArg some h_eq)
    simp only [turn, resumeTask]
    split
    · rfl
    · refine (find?_stretch_of_ne _ h_ne _ _).trans ?_
      rw [Registry.find?_erase, if_neg h_ne]

/-- The moment at which a world is. -/
def moment (w : World Unit) : Moment Session :=
  w.machine.moment

/-- **The calls that are made in a turn.** -/
def calls (w : World Unit) (t : Turn) : List Call :=
  w.moment.since (w.turn t).moment

/-- **Somebody uses the host at most**: if a turn is not one of a task, it selects something or
changes values. -/
def Uses (w : World Unit) : Turn → Prop
  | .host h => ∃ t, w.host.scene.Used t ∧ h = { w.host with scene := t }
  | _ => True

/-- **A turn makes no call that clashes** with one before which another task is held. -/
def Apart (clash : Call → Call → Prop) (w : World Unit) (t : Turn) : Prop :=
  ∀ e ∈ w.tasks.entries, t.resumes e.1 = false →
    ∀ c ∈ e.2.rest.awaited?.toList, ∀ c' ∈ w.calls t, ¬clash c c'

instance (clash : Call → Call → Prop) [DecidableRel clash] (w : World Unit) (t : Turn) :
    Decidable (w.Apart clash t) :=
  inferInstanceAs (Decidable (∀ e ∈ w.tasks.entries, t.resumes e.1 = false →
    ∀ c ∈ e.2.rest.awaited?.toList, ∀ c' ∈ w.calls t, ¬clash c c'))

theorem Apart.awaited {clash : Call → Call → Prop} {w : World Unit} {t : Turn}
    (h : w.Apart clash t) {task : String} {r : Task Unit} {c c' : Call}
    (h_task : w.tasks.find? task = some r) (h_other : t.resumes task = false)
    (h_held : r.rest.awaited? = some c) (h_call : c' ∈ w.calls t) : ¬clash c c' :=
  h (task, r) (Registry.find?_eq_some_iff.mp h_task) h_other c (h_held ▸ List.mem_singleton_self c)
    c' h_call

/-- **Each of some turns is taken in a world in which it may be taken.** -/
def Every (P : World Unit → Turn → Prop) (w : World Unit) : List Turn → Prop
  | [] => True
  | t :: ts => P w t ∧ (w.turn t).Every P ts

instance Every.decidable (P : World Unit → Turn → Prop) [∀ w t, Decidable (P w t)]
    (w : World Unit) : (ts : List Turn) → Decidable (w.Every P ts)
  | [] => inferInstanceAs (Decidable True)
  | t :: ts =>
    have := Every.decidable P (w.turn t) ts
    inferInstanceAs (Decidable (P w t ∧ (w.turn t).Every P ts))

theorem Every.and {P P' : World Unit → Turn → Prop} {w : World Unit} {ts : List Turn}
    (h : w.Every P ts) (h' : w.Every P' ts) : w.Every (fun w t => P w t ∧ P' w t) ts := by
  induction ts generalizing w with
  | nil => trivial
  | cons t ts ih => exact ⟨⟨h.1, h'.1⟩, ih h.2 h'.2⟩

/-- **What each turn keeps that may be taken** holds after all of them. -/
theorem Every.turns {P : World Unit → Turn → Prop} {I : World Unit → Prop} {w : World Unit}
    {ts : List Turn} (h : w.Every P ts) (h_turn : ∀ w t, P w t → I w → I (w.turn t)) (hI : I w) :
    I (w.turns ts) := by
  induction ts generalizing w with
  | nil => exact hI
  | cons t ts ih => exact ih h.2 (h_turn w t h.1 hI)

/-- What each turn does that may be taken. -/
theorem Every.along {P R : World Unit → Turn → Prop} {I : World Unit → Prop} {w : World Unit}
    {ts : List Turn} (h : w.Every P ts) (h_turn : ∀ w t, P w t → I w → I (w.turn t) ∧ R w t)
    (hI : I w) : w.Every R ts := by
  induction ts generalizing w with
  | nil => trivial
  | cons t ts ih =>
    obtain ⟨hI', hR⟩ := h_turn w t h.1 hI
    exact ⟨hR, ih h.2 hI'⟩

theorem Every.of_forall {P : Turn → Prop} {w : World Unit} {ts : List Turn}
    (h : ∀ t ∈ ts, P t) : w.Every (fun _ => P) ts := by
  induction ts generalizing w with
  | nil => trivial
  | cons t ts ih =>
    exact ⟨h t List.mem_cons_self, ih fun t' ht' => h t' (List.mem_cons_of_mem t ht')⟩

theorem Every.append_iff {P : World Unit → Turn → Prop} {w : World Unit} {ts ts' : List Turn} :
    w.Every P (ts ++ ts') ↔ w.Every P ts ∧ (w.turns ts).Every P ts' := by
  induction ts generalizing w with
  | nil => exact (iff_of_eq (true_and _)).symm
  | cons t ts ih => exact (and_congr_right fun _ => ih).trans and_assoc.symm

variable {T : String → Terms Session} {Q : String → Moment Session → Prop} {w : World Unit}

/-- **All held tasks keep to their terms**, and come to what is required of them. -/
def Observes (T : String → Terms Session) (Q : String → Moment Session → Prop)
    (w : World Unit) : Prop :=
  ∀ task r, w.tasks.find? task = some r →
    r.session = w.currentNumber ∧ r.rest.Waits (T task) (fun _ => Q task) w.moment

theorem Observes.of_empty (h : w.tasks = ∅) : w.Observes T Q := by
  intro task r h_task
  rw [h] at h_task
  cases h_task

/-- The others keep to the terms of all held tasks. -/
theorem Observes.rely {w' : World Unit} (h : w.Observes T Q) (h_tasks : w'.tasks = w.tasks)
    (h_number : w'.currentNumber = w.currentNumber)
    (h_others : ∀ task r c, w.tasks.find? task = some r → r.rest.awaited? = some c →
      (T task).rely c w.moment w'.moment) : w'.Observes T Q := by
  intro task r h_task
  rw [h_tasks] at h_task
  obtain ⟨h_session, h_waits⟩ := h task r h_task
  exact ⟨h_session.trans h_number.symm, h_waits.rely fun c hc => h_others task r c h_task hc⟩

/-- **A task has run** beside others. -/
theorem Observes.settle (h : w.Observes T Q) {task : String}
    {r : Program.Ended Session Unit × Machine Session}
    (h_reaches : Program.Reaches (T task) (fun _ => Q task) w.moment r)
    (h_others : ∀ task' t c, w.tasks.find? task' = some t → t.rest.awaited? = some c →
      (T task').rely c w.moment r.2.moment) :
    (w.settle task r).2.Observes T Q ∧ (w.settle task r).2.moment = r.2.moment ∧
      ((w.settle task r).2.tasks.find? task = none → Q task r.2.moment) := by
  match r, h_reaches with
  | (.finished (.ok _), m), h_reaches | (.finished (.error _), m), h_reaches =>
    exact ⟨h.rely rfl rfl h_others, rfl, fun _ => h_reaches.2⟩
  | (.held rest, m), h_reaches =>
    refine ⟨fun task' t h_task => ?_, rfl, fun h_none => ?_⟩
    · simp only [World.settle] at h_task
      rw [Registry.find?_insert] at h_task
      split at h_task
      · rename_i h_eq
        obtain rfl := Option.some.inj h_task
        exact ⟨rfl, h_eq ▸ h_reaches.2⟩
      · have h_rest : (w.withMachine m).Observes T Q := h.rely rfl rfl h_others
        exact h_rest task' t h_task
    · simp only [World.settle] at h_none
      rw [Registry.find?_insert_self] at h_none
      cases h_none

/-- **A task is started** beside others. -/
theorem Observes.start (h : w.Observes T Q) (task : String) (entry : Entry) (stop : Stop)
    (h_start : entry.program.Safe (T task) ((T task).closing fun _ => Q task) w.moment w.moment)
    (h_may : ∀ c ∈ w.calls (.start task entry stop), ∀ m, (T task).step w.moment m →
      (T task).may c m)
    (h_others : (T task).step w.moment (w.turn (.start task entry stop)).moment → ∀ task' r c,
      w.tasks.find? task' = some r → r.rest.awaited? = some c →
      (T task').rely c w.moment (w.turn (.start task entry stop)).moment) :
    (w.turn (.start task entry stop)).Observes T Q ∧
      (T task).step w.moment (w.turn (.start task entry stop)).moment ∧
      ((w.turn (.start task entry stop)).tasks.find? task = none →
        Q task (w.turn (.start task entry stop)).moment) := by
  unfold calls at h_may
  simp only [World.turn, World.startTask_eq] at h_may h_others ⊢
  have h_moment : (w.settle task (entry.program.run stop w.machine)).2.moment =
      (entry.program.run stop w.machine).2.moment := by
    match entry.program.run stop w.machine with
    | (.finished (.ok _), _) | (.finished (.error _), _) | (.held _, _) => rfl
  rw [h_moment] at h_may h_others ⊢
  have h_reaches := Program.Safe.run stop (m := w.machine) h_start h_may
  obtain ⟨h_next, -, h_end⟩ := h.settle h_reaches (h_others h_reaches.step)
  exact ⟨h_next, h_reaches.step, h_end⟩

/-- **A task takes a turn** beside others: it keeps to its terms, and if the terms of the others
allow what it did, they keep to theirs. -/
theorem Observes.turn (h : w.Observes T Q) {t : Turn} {task : String} (h_task : t.task? = some task)
    (h_start : ∀ entry stop, t = .start task entry stop →
      entry.program.Safe (T task) ((T task).closing fun _ => Q task) w.moment w.moment)
    (h_may : ∀ c ∈ w.calls t, ∀ m, (T task).step w.moment m → (T task).may c m)
    (h_others : (T task).step w.moment (w.turn t).moment → ∀ task' r c,
      w.tasks.find? task' = some r → t.resumes task' = false → r.rest.awaited? = some c →
      (T task').rely c w.moment (w.turn t).moment) :
    (w.turn t).Observes T Q ∧ (T task).step w.moment (w.turn t).moment ∧
      (w.turn t = w ∨ ((w.turn t).tasks.find? task = none → Q task (w.turn t).moment)) := by
  cases t with
  | host h => cases h_task
  | start task' entry stop =>
    obtain rfl : task' = task := Option.some.inj h_task
    obtain ⟨h_next, h_step, h_end⟩ := h.start task' entry stop (h_start entry stop rfl) h_may
      fun h_step task'' r c h_found hc => h_others h_step task'' r c h_found rfl hc
    exact ⟨h_next, h_step, .inr h_end⟩
  | resume task' stop =>
    obtain rfl : task' = task := Option.some.inj h_task
    rcases h_found : w.tasks.find? task' with _ | ⟨session, rest⟩
    · -- there is no such task
      have h_same : w.turn (.resume task' stop) = w := by
        simp only [World.turn, World.resumeTask_absent h_found]
      rw [h_same]
      exact ⟨h, (T task').step_refl _, .inl rfl⟩
    · obtain ⟨rfl, -, h_safe⟩ := h task' _ h_found
      unfold calls at h_may
      simp only [World.turn, World.resumeTask_eq h_found] at h_may h_others ⊢
      have h_moment : ({ w with tasks := w.tasks.erase task' }.settle task'
          (rest.resume stop w.machine)).2.moment = (rest.resume stop w.machine).2.moment := by
        match rest.resume stop w.machine with
        | (.finished (.ok _), _) | (.finished (.error _), _) | (.held _, _) => rfl
      rw [h_moment] at h_may h_others ⊢
      have h_reaches := Program.Safe.resume stop (m := w.machine) h_safe h_may
      have h_erase {task'' : String} {r : Task Unit}
          (h_other : (w.tasks.erase task').find? task'' = some r) :
          w.tasks.find? task'' = some r ∧ task' ≠ task'' := by
        rw [Registry.find?_erase] at h_other
        split at h_other
        · cases h_other
        · exact ⟨h_other, ‹_›⟩
      have h_rest : Observes T Q { w with tasks := w.tasks.erase task' } :=
        fun task'' r h_other => h task'' r (h_erase h_other).1
      obtain ⟨h_next, -, h_end⟩ := h_rest.settle h_reaches fun task'' r c h_other hc =>
        h_others h_reaches.step task'' r c (h_erase h_other).1
          (beq_eq_false_iff_ne.mpr (h_erase h_other).2) hc
      exact ⟨h_next, h_reaches.step, .inr h_end⟩

end World

end Clickwork
