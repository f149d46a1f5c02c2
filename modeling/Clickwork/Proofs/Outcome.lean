import Clickwork.Program.Lemmas
import Clickwork.Program.Run

/-!
# What a program comes to

`Program.outcome` is what a program does to the memory of its session and to the host, and how it
ends. It is read off `Program.eval`; the events on the way are left out, since no step of a program
depends on them (`eval_eq_outcome`). Every statement about results and states is made about
outcomes, and there is one equation for each way to build a program.

What every call keeps true of the host, every program keeps true (`outcome_host_induction`).
-/

namespace Clickwork

variable {σ α β : Type}

namespace Program

/-- **What a program comes to** from a memory and a host: its result, and both afterwards. -/
def outcome (p : Program σ α) (s : σ) (h : Host) : Except Failure α × σ × Host :=
  let (result, m) := p.eval { memory := s, host := h }
  (result, m.memory, m.host)

/-! ### Events do not matter -/

/-- Machines with the same memory and the same host, whatever happened before. -/
def Agree (m m' : Machine σ) : Prop :=
  m.memory = m'.memory ∧ m.host = m'.host

theorem Agree.perform {m m' : Machine σ} (h : Agree m m') (c : Call) :
    (m.perform c).1 = (m'.perform c).1 ∧ Agree (m.perform c).2 (m'.perform c).2 := by
  obtain ⟨h_mem, h_host⟩ := h
  simp only [Machine.perform, Agree, Machine.emit]
  rw [h_host, h_mem]
  exact ⟨rfl, rfl, rfl⟩

theorem explore_agree (visits : Nat) (pending : List String) (found : Array String)
    {m m' : Machine σ} (h : Agree m m') :
    (explore visits pending found m).1 = (explore visits pending found m').1 ∧
      Agree (explore visits pending found m).2 (explore visits pending found m').2 := by
  induction visits generalizing pending found m m' with
  -- without visits left a walk only looks whether it is done
  | zero => cases pending <;> exact ⟨rfl, h⟩
  | succ visits ih =>
    cases pending with
    | nil => exact ⟨rfl, h⟩
    | cons id pending =>
      -- both machines get the same answer, and go on from machines that agree again
      obtain ⟨h_answer, h_next⟩ := h.perform (.node id)
      rcases hp : m.perform (.node id) with ⟨answer, m₁⟩
      rcases hp' : m'.perform (.node id) with ⟨answer', m₁'⟩
      rw [hp, hp'] at h_answer h_next
      obtain rfl : answer = answer' := h_answer
      simp only [explore, hp, hp']
      cases answer with
      | error e => exact ⟨rfl, h_next⟩
      | ok node => exact ih _ _ h_next

theorem eval_agree (p : Program σ α) {m m' : Machine σ} (h : Agree m m') :
    (p.eval m).1 = (p.eval m').1 ∧ Agree (p.eval m).2 (p.eval m').2 := by
  induction p generalizing m m' with
  | pure a => exact ⟨rfl, h⟩
  | throw e => exact ⟨rfl, h⟩
  | get k ih =>
    -- the memory is all that is read
    simp only [eval]
    rw [h.1]
    exact ih _ h
  | set s rest ih => exact ih ⟨rfl, h.2⟩
  | emit e rest ih => exact ih ⟨h.1, h.2⟩
  | call c k ih =>
    obtain ⟨h_answer, h_next⟩ := h.perform c
    simp only [eval]
    rw [h_answer]
    exact ih _ h_next
  | walk pending found k ih =>
    -- the bound on the visits is told from the scene
    have h_bound : m.visitBound .never pending.length = m'.visitBound .never pending.length := by
      simp only [Machine.visitBound, h.2]
    obtain ⟨h_answer, h_next⟩ := explore_agree (m.visitBound .never pending.length) pending found h
    simp only [eval]
    rw [← h_bound, h_answer]
    exact ih _ h_next

/-- A run ends as the outcome says, whatever the events before it. -/
theorem eval_eq_outcome (p : Program σ α) (m : Machine σ) :
    ((p.eval m).1, (p.eval m).2.memory, (p.eval m).2.host) = p.outcome m.memory m.host := by
  -- the outcome is that of the machine without events, which agrees with this one
  have h_agree : Agree m { memory := m.memory, host := m.host } := ⟨rfl, rfl⟩
  obtain ⟨h_result, h_mem, h_host⟩ := p.eval_agree h_agree
  rw [h_result, h_mem, h_host]
  rfl

/-- What a run from a machine comes to, whatever happened before. -/
theorem eval_of_outcome {p : Program σ α} {m : Machine σ} {r : Except Failure α} {s : σ} {h : Host}
    (h_outcome : p.outcome m.memory m.host = (r, s, h)) :
    ∃ m', p.eval m = (r, m') ∧ m'.memory = s ∧ m'.host = h := by
  obtain ⟨h_result, h_rest⟩ := Prod.mk.inj ((p.eval_eq_outcome m).trans h_outcome)
  obtain ⟨h_memory, h_host⟩ := Prod.mk.inj h_rest
  exact ⟨_, Prod.ext h_result rfl, h_memory, h_host⟩

/-! ### One equation for each construction -/

section Equations

variable (s : σ) (h : Host)

@[simp] theorem outcome_pure (a : α) :
    (Pure.pure a : Program σ α).outcome s h = (.ok a, s, h) := rfl

@[simp] theorem outcome_throw (e : Failure) :
    (throw e : Program σ α).outcome s h = (.error e, s, h) := rfl

@[simp] theorem outcome_get (k : σ → Program σ α) :
    (get k).outcome s h = (k s).outcome s h := rfl

@[simp] theorem outcome_set (s' : σ) (rest : Program σ α) :
    (set s' rest).outcome s h = rest.outcome s' h := rfl

@[simp] theorem outcome_emit (e : Event) (rest : Program σ α) :
    (emit e rest).outcome s h = rest.outcome s h :=
  (rest.eval_eq_outcome (Machine.emit { memory := s, host := h } e)).symm ▸ rfl

@[simp] theorem outcome_call (c : Call) (k : Except Failure c.Answer → Program σ α) :
    (call c k).outcome s h = (k (h.perform c).1).outcome s (h.perform c).2 :=
  ((k (h.perform c).1).eval_eq_outcome
    (Machine.perform { memory := s, host := h } c).2).symm ▸ rfl

/-- A sequence: a failure of the first part ends it. -/
theorem outcome_bind (p : Program σ α) (f : α → Program σ β) :
    (p >>= f).outcome s h =
      match p.outcome s h with
      | (.ok a, s, h) => (f a).outcome s h
      | (.error e, s, h) => (.error e, s, h) := by
  change (p.bind f).outcome s h = _
  simp only [outcome, eval_bind]
  rcases p.eval { memory := s, host := h } with ⟨_ | a, m⟩
  · rfl
  · exact (f a).eval_eq_outcome m

theorem outcome_bind_ok {p : Program σ α} {a : α} {s s' : σ} {h h' : Host}
    (hp : p.outcome s h = (.ok a, s', h')) (f : α → Program σ β) :
    (p >>= f).outcome s h = (f a).outcome s' h' := by
  rw [outcome_bind, hp]

@[simp] theorem outcome_map (f : α → β) (p : Program σ α) :
    (f <$> p).outcome s h = ((p.outcome s h).1.map f, (p.outcome s h).2) := by
  rw [map_eq_pure_bind, outcome_bind]
  rcases p.outcome s h with ⟨_ | a, s', h'⟩ <;> rfl

@[simp] theorem outcome_attempt (p : Program σ α) :
    p.attempt.outcome s h = (.ok (p.outcome s h).1, (p.outcome s h).2) := by
  simp only [outcome, eval_attempt]

@[simp] theorem outcome_lift (r : Except Failure α) :
    (lift r : Program σ α).outcome s h = (r, s, h) := by
  cases r <;> rfl

@[simp] theorem outcome_ask (c : Call) :
    (ask c : Program σ c.Answer).outcome s h = ((h.perform c).1, s, (h.perform c).2) := by
  simp [ask]

@[simp] theorem outcome_tryAsk (c : Call) :
    (tryAsk c : Program σ _).outcome s h = (.ok (h.perform c).1, s, (h.perform c).2) := by
  rw [tryAsk, outcome_call]
  rfl

@[simp] theorem outcome_read : (read : Program σ σ).outcome s h = (.ok s, s, h) := rfl

@[simp] theorem outcome_modify (f : σ → σ) :
    (modify f : Program σ Unit).outcome s h = (.ok (), f s, h) := rfl

@[simp] theorem outcome_log (level : Level) (text : String) (cause : Option Failure) :
    (log level text cause : Program σ Unit).outcome s h = (.ok (), s, h) := by
  rw [log, outcome_emit]
  rfl

@[simp] theorem outcome_deliver (listener : String) (e : Envelope) :
    (deliver listener e : Program σ Unit).outcome s h = (.ok (), s, h) := by
  rw [deliver, outcome_emit]
  rfl

end Equations

/-! ### Walks -/

theorem explore_memory (visits : Nat) (pending : List String) (found : Array String)
    (m : Machine σ) : (explore visits pending found m).2.memory = m.memory := by
  induction visits generalizing pending found m with
  | zero => cases pending <;> rfl
  | succ visits ih =>
    cases pending with
    | nil => rfl
    | cons id pending =>
      -- a call never touches the memory
      have h_mem : (m.perform (.node id)).2.memory = m.memory := rfl
      rcases hp : m.perform (.node id) with ⟨_ | node, m₁⟩ <;> rw [hp] at h_mem
      · simpa only [explore, hp] using h_mem
      · simp only [explore, hp]
        exact (ih _ _ m₁).trans h_mem

/-- A walk from a memory and a host, to its end. -/
def walked (s : σ) (h : Host) (pending : List String) (found : Array String) :
    Except Failure (List String) × Machine σ :=
  let m : Machine σ := { memory := s, host := h }
  explore (m.visitBound .never pending.length) pending found m

@[simp] theorem outcome_walk (s : σ) (h : Host) (pending : List String) (found : Array String)
    (k : Except Failure (List String) → Program σ α) :
    (walk pending found k).outcome s h =
      (k (walked s h pending found).1).outcome s (walked s h pending found).2.host := by
  have h_mem : (walked s h pending found).2.memory = s := explore_memory _ _ _ _
  have h_rest := (k (walked s h pending found).1).eval_eq_outcome (walked s h pending found).2
  rw [h_mem] at h_rest
  exact h_rest

/-! ### Facts that every call keeps -/

theorem explore_host_induction {I : Host → Prop}
    (h_step : ∀ h id, I h → I (h.perform (.node id)).2)
    (visits : Nat) (pending : List String) (found : Array String) {m : Machine σ}
    (hI : I m.host) : I (explore visits pending found m).2.host := by
  induction visits generalizing pending found m with
  | zero => cases pending <;> exact hI
  | succ visits ih =>
    cases pending with
    | nil => exact hI
    | cons id pending =>
      have h_next : I (m.perform (.node id)).2.host := h_step _ _ hI
      rcases hp : m.perform (.node id) with ⟨_ | node, m₁⟩ <;> rw [hp] at h_next
      · simpa only [explore, hp] using h_next
      · simp only [explore, hp]
        exact ih _ _ h_next

/-- **What every call keeps true of the host, every program keeps true.** -/
theorem outcome_host_induction {I : Host → Prop} (h_step : ∀ h c, I h → I (h.perform c).2)
    (p : Program σ α) (s : σ) {h : Host} (hI : I h) : I (p.outcome s h).2.2 := by
  induction p generalizing s h with
  -- the host changes at calls and at walks only
  | pure a => exact hI
  | throw e => exact hI
  | get k ih => exact ih s s hI
  | set s' rest ih => exact ih s' hI
  | emit e rest ih =>
    rw [outcome_emit]
    exact ih s hI
  | call c k ih =>
    rw [outcome_call]
    exact ih _ s (h_step h c hI)
  | walk pending found k ih =>
    rw [outcome_walk]
    exact ih _ s (explore_host_induction (fun h id => h_step h (.node id)) _ _ _ hI)

end Program

end Clickwork
