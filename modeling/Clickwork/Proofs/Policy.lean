import Clickwork.Program.Lemmas
import Clickwork.Program.Run

/-!
# Policies

A `Policy` says which events a program may cause, whether it may walk, and which changes of the
memory it may make between two calls. Obeying one (`Program.Obeys`) is a property of the program
alone: it is required whatever the host answers, and whatever became of the memory while the program
was held before a call. So what is left of a program that was held still obeys what the program
obeyed (`run_obeys`, `resume_obeys`).

Two consequences concern programs that are held and resumed:

* a program that does not walk comes to the same, wherever it is held (`run_total`,
  `resume_total`);
* a part whose failures are caught, followed by a part that makes no calls, is held exactly where
  the first part is (`run_conclude`, `resume_conclude`).
-/

namespace Clickwork

/-- **What a program may do.** A call is an event as well. -/
structure Policy (σ : Type) where
  events : Event → Prop
  walks : Prop
  /-- The changes of the memory, none and any number of them. -/
  changes : σ → σ → Prop
  visits : walks → ∀ id, events (.called (.node id))
  refl : ∀ s, changes s s
  trans : ∀ {s s' s''}, changes s s' → changes s' s'' → changes s s''

/-- Whether an event is a delivery to a listener. -/
def Event.isSent : Event → Bool
  | sent .. => true
  | _ => false

/-- Whether an event is a call. -/
def Event.isCall : Event → Bool
  | called _ => true
  | _ => false

namespace Policy

variable {σ τ : Type}

/-- Any calls, and walks or none, but nothing is delivered, and a view of the memory stays as it
is. -/
def keeping (view : σ → τ) (walks : Prop) : Policy σ where
  events e := e.isSent = false
  walks := walks
  changes s s' := view s' = view s
  visits _ _ := rfl
  refl _ := rfl
  trans h h' := h'.trans h

/-- No calls at all. -/
def quiet : Policy σ where
  events e := e.isCall = false
  walks := False
  changes _ _ := True
  visits h := h.elim
  refl _ := trivial
  trans _ _ := trivial

/-- **From one machine to another** by permitted changes and events. -/
structure Leads (P : Policy σ) (m m' : Machine σ) : Prop where
  changes : P.changes m.memory m'.memory
  events : ∃ new : List Event, m'.events.toList = m.events.toList ++ new ∧ ∀ e ∈ new, P.events e

variable {P : Policy σ}

theorem Leads.refl (m : Machine σ) : P.Leads m m :=
  ⟨P.refl _, [], by simp, by simp⟩

theorem Leads.trans {m m' m'' : Machine σ} (h : P.Leads m m') (h' : P.Leads m' m'') :
    P.Leads m m'' := by
  obtain ⟨new, h_new, h_may⟩ := h.events
  obtain ⟨new', h_new', h_may'⟩ := h'.events
  refine ⟨P.trans h.changes h'.changes, new ++ new', ?_, ?_⟩
  · rw [h_new', h_new, List.append_assoc]
  · exact fun e he => (List.mem_append.mp he).elim (h_may e) (h_may' e)

theorem Leads.set {m : Machine σ} {s : σ} (h : P.changes m.memory s) :
    P.Leads m { m with memory := s } :=
  ⟨h, [], by simp, by simp⟩

theorem Leads.emit (m : Machine σ) {e : Event} (h : P.events e) : P.Leads m (m.emit e) :=
  ⟨P.refl _, [e], by simp [Machine.emit], by simpa using h⟩

/-- A call is one event, and never touches the memory. -/
theorem Leads.perform (m : Machine σ) {c : Call} (h : P.events (.called c)) :
    P.Leads m (m.perform c).2 :=
  ⟨P.refl _, [.called c], by simp [Machine.perform, Machine.emit], by simpa using h⟩

end Policy

namespace Program

variable {σ α β : Type} {P : Policy σ}

/-! ### Obeying a policy -/

/-- Obeying a policy from a memory on. After a call the memory may be any. -/
def ObeysFrom (P : Policy σ) : Program σ α → σ → Prop
  | pure _, _ => True
  | throw _, _ => True
  | get k, s => (k s).ObeysFrom P s
  | set s' rest, s => P.changes s s' ∧ rest.ObeysFrom P s'
  | emit e rest, s => P.events e ∧ rest.ObeysFrom P s
  | call c k, _ => P.events (.called c) ∧ ∀ answer s, (k answer).ObeysFrom P s
  | walk _ _ k, _ => P.walks ∧ ∀ answer s, (k answer).ObeysFrom P s

/-- **Obeying a policy**, from any memory on. -/
def Obeys (P : Policy σ) (p : Program σ α) : Prop :=
  ∀ s, p.ObeysFrom P s

/-- **A program that makes no calls.** -/
abbrev Quiet (p : Program σ α) : Prop :=
  p.Obeys Policy.quiet

theorem ObeysFrom.bind {p : Program σ α} {f : α → Program σ β} {s : σ} (hp : p.ObeysFrom P s)
    (hf : ∀ a, (f a).Obeys P) : (p.bind f).ObeysFrom P s := by
  induction p generalizing s with
  | pure a => exact hf a s
  | throw e => trivial
  | get k ih => exact ih s hp
  | set s' rest ih => exact ⟨hp.1, ih hp.2⟩
  | emit e rest ih => exact ⟨hp.1, ih hp.2⟩
  | call c k ih => exact ⟨hp.1, fun answer s' => ih answer (hp.2 answer s')⟩
  | walk pending found k ih => exact ⟨hp.1, fun answer s' => ih answer (hp.2 answer s')⟩

theorem ObeysFrom.attempt {p : Program σ α} {s : σ} (hp : p.ObeysFrom P s) :
    p.attempt.ObeysFrom P s := by
  induction p generalizing s with
  | pure | throw => trivial
  | get k ih => exact ih s hp
  | set s' rest ih => exact ⟨hp.1, ih hp.2⟩
  | emit e rest ih => exact ⟨hp.1, ih hp.2⟩
  | call c k ih => exact ⟨hp.1, fun answer s' => ih answer (hp.2 answer s')⟩
  | walk pending found k ih => exact ⟨hp.1, fun answer s' => ih answer (hp.2 answer s')⟩

namespace Obeys

theorem pure (a : α) : (Pure.pure a : Program σ α).Obeys P :=
  fun _ => trivial

theorem bind {p : Program σ α} {f : α → Program σ β} (hp : p.Obeys P) (hf : ∀ a, (f a).Obeys P) :
    (p >>= f).Obeys P :=
  fun s => (hp s).bind hf

theorem attempt {p : Program σ α} (hp : p.Obeys P) : p.attempt.Obeys P :=
  fun s => (hp s).attempt

theorem lift (r : Except Failure α) : (lift r : Program σ α).Obeys P :=
  fun _ => by cases r <;> trivial

theorem read : (read : Program σ σ).Obeys P :=
  fun _ => trivial

theorem modify {f : σ → σ} (hf : ∀ s, P.changes s (f s)) : (modify f).Obeys P :=
  fun s => ⟨hf s, trivial⟩

theorem log {level : Level} {text : String} {cause : Option Failure}
    (h : P.events (.log level text cause)) : (log level text cause : Program σ Unit).Obeys P :=
  fun _ => ⟨h, trivial⟩

theorem deliver {listener : String} {e : Envelope} (h : P.events (.sent listener e)) :
    (deliver listener e : Program σ Unit).Obeys P :=
  fun _ => ⟨h, trivial⟩

theorem tryAsk {c : Call} (h : P.events (.called c)) : (tryAsk c : Program σ _).Obeys P :=
  fun _ => ⟨h, fun _ _ => trivial⟩

theorem instancesBelow (h : P.walks) (ids : List String) :
    (instancesBelow ids : Program σ _).Obeys P :=
  fun _ => ⟨h, fun answer s => lift answer s⟩

theorem forM {f : α → Program σ Unit} (xs : List α) (hf : ∀ x, (f x).Obeys P) :
    (xs.forM f).Obeys P := by
  induction xs with
  | nil => exact .pure ()
  | cons x xs ih => exact (hf x).bind fun _ => ih

end Obeys

/-! ### Running what obeys a policy -/

theorem walkOn_leads (h_walks : P.walks) (visits : Nat) (stop : Stop) (pending : List String)
    (found : Array String) (m : Machine σ) :
    P.Leads m (walkOn visits stop pending found m).2 := by
  induction visits generalizing stop pending found m with
  | zero => cases pending <;> exact .refl m
  | succ visits ih =>
    cases pending with
    | nil => exact .refl m
    | cons id pending =>
      simp only [walkOn]
      split
      · exact .refl m
      · have h_call : P.Leads m (m.perform (.node id)).2 := .perform m (P.visits h_walks id)
        split <;> rename_i h_eq <;> rw [h_eq] at h_call
        · exact h_call
        · exact h_call.trans (ih _ _ _ _)

/-- **A stretch keeps to the policy**, and so does what it leaves to be done. -/
theorem run_obeys (p : Program σ α) (stop : Stop) {m : Machine σ} (hp : p.ObeysFrom P m.memory) :
    P.Leads m (p.run stop m).2 ∧ ∀ rest, (p.run stop m).1 = .held rest → rest.Obeys P := by
  induction p generalizing stop m with
  | pure | throw => exact ⟨.refl m, fun rest h_held => nomatch h_held⟩
  | get k ih => exact ih _ stop hp
  | set s rest ih =>
    obtain ⟨h_leads, h_rest⟩ := ih stop (m := { m with memory := s }) hp.2
    exact ⟨(Policy.Leads.set hp.1).trans h_leads, h_rest⟩
  | emit e rest ih =>
    obtain ⟨h_leads, h_rest⟩ := ih stop (m := m.emit e) hp.2
    exact ⟨(Policy.Leads.emit m hp.1).trans h_leads, h_rest⟩
  | call c k ih =>
    simp only [run]
    split
    · -- what is left begins with the call, after which the memory may be any
      refine ⟨.refl m, fun rest h_held => ?_⟩
      obtain rfl : call c k = rest := Ended.held.inj h_held
      exact fun _ => hp
    · obtain ⟨h_leads, h_rest⟩ := ih _ _ (m := (m.perform c).2) (hp.2 _ _)
      exact ⟨(Policy.Leads.perform m hp.1).trans h_leads, h_rest⟩
  | walk pending found k ih =>
    have h_walk := walkOn_leads hp.1 (m.visitBound stop pending.length) stop pending found m
    simp only [run]
    split <;> rename_i m' h_eq <;> rw [h_eq] at h_walk
    · refine ⟨h_walk, fun rest h_held => ?_⟩
      obtain rfl := Ended.held.inj h_held
      exact fun _ => hp
    · obtain ⟨h_leads, h_rest⟩ := ih _ _ (hp.2 _ m'.memory)
      exact ⟨h_walk.trans h_leads, h_rest⟩

theorem resume_obeys {p : Program σ α} (stop : Stop) {m : Machine σ}
    (hp : p.ObeysFrom P m.memory) :
    P.Leads m (p.resume stop m).2 ∧ ∀ rest, (p.resume stop m).1 = .held rest → rest.Obeys P := by
  -- whatever does not begin with a call is run
  unfold resume
  split
  · rename_i c k
    obtain ⟨h_leads, h_rest⟩ := run_obeys _ stop (m := (m.perform c).2) (hp.2 _ _)
    exact ⟨(Policy.Leads.perform m hp.1).trans h_leads, h_rest⟩
  · rename_i id pending found k
    have h_call : P.Leads m (m.perform (.node id)).2 := .perform m (P.visits hp.1 id)
    split <;> rename_i m' h_eq <;> rw [h_eq] at h_call
    · obtain ⟨h_leads, h_rest⟩ := run_obeys _ stop (hp.2 _ m'.memory)
      exact ⟨h_call.trans h_leads, h_rest⟩
    · obtain ⟨h_leads, h_rest⟩ := run_obeys (walk _ _ k) stop (m := m') hp
      exact ⟨h_call.trans h_leads, h_rest⟩
  · exact run_obeys _ stop hp

/-! ### Programs without calls -/

/-- A program that makes no calls is never held. -/
theorem Quiet.run {p : Program σ α} (hp : p.Quiet) (stop : Stop) (m : Machine σ) :
    p.run stop m = (.finished (p.eval m).1, (p.eval m).2) := by
  -- the induction follows the one machine of the run
  have h_from := hp m.memory
  clear hp
  induction p generalizing m with
  | pure | throw => rfl
  | get k ih => exact ih _ m h_from
  | set s rest ih => exact ih { m with memory := s } h_from.2
  | emit e rest ih => exact ih (m.emit e) h_from.2
  | call c k => cases h_from.1
  | walk pending found k => exact h_from.1.elim

theorem Quiet.resume {p : Program σ α} (hp : p.Quiet) (stop : Stop) (m : Machine σ) :
    p.resume stop m = (.finished (p.eval m).1, (p.eval m).2) := by
  cases p with
  | call c k => cases (hp m.memory).1
  | walk pending found k => exact (hp m.memory).1.elim
  | pure | throw | get | set | emit => exact hp.run stop m

/-- **How a stretch ends when a part without calls follows**, which is told the result. -/
def Ended.conclude (f : Except Failure α → Program σ β) :
    Ended σ α × Machine σ → Ended σ β × Machine σ
  | (.finished r, m) => (.finished ((f r).eval m).1, ((f r).eval m).2)
  | (.held rest, m) => (.held (rest.attempt.bind f), m)

section Conclude

variable {f : Except Failure α → Program σ β} (hf : ∀ r, (f r).Quiet)

include hf

theorem run_conclude (p : Program σ α) (stop : Stop) (m : Machine σ) :
    (p.attempt.bind f).run stop m = Ended.conclude f (p.run stop m) := by
  induction p generalizing stop m with
  | pure | throw => exact (hf _).run stop m
  | get k ih => exact ih _ stop m
  | set s rest ih => exact ih stop _
  | emit e rest ih => exact ih stop _
  | call c k ih =>
    simp only [attempt, Program.bind, run]
    split
    · rfl
    · exact ih _ _ _
  | walk pending found k ih =>
    simp only [attempt, Program.bind, run]
    split
    · rfl
    · exact ih _ _ _

theorem resume_conclude (p : Program σ α) (stop : Stop) (m : Machine σ) :
    (p.attempt.bind f).resume stop m = Ended.conclude f (p.resume stop m) := by
  cases p with
  | pure | throw => exact (hf _).resume stop m
  | get | set | emit => exact run_conclude hf _ stop m
  | call c k => exact run_conclude hf _ stop _
  | walk pending found k =>
    cases pending with
    | nil => exact run_conclude hf (walk [] found k) stop m
    | cons id pending =>
      simp only [attempt, Program.bind, resume]
      split
      · exact run_conclude hf _ stop _
      · exact run_conclude hf (walk _ _ k) stop _

end Conclude

/-! ### Programs without walks -/

/-- What a stretch comes to when the rest is carried out at once. -/
def Ended.total : Ended σ α × Machine σ → Except Failure α × Machine σ
  | (.finished r, m) => (r, m)
  | (.held rest, m) => rest.eval m

/-- **A program without walks comes to the same, wherever it is held.** -/
theorem run_total (hw : ¬P.walks) (p : Program σ α) (stop : Stop) {m : Machine σ}
    (hp : p.ObeysFrom P m.memory) : Ended.total (p.run stop m) = p.eval m := by
  induction p generalizing stop m with
  | pure | throw => rfl
  | get k ih => exact ih _ stop hp
  | set s rest ih => exact ih stop (m := { m with memory := s }) hp.2
  | emit e rest ih => exact ih stop (m := m.emit e) hp.2
  | call c k ih =>
    simp only [run]
    split
    · rfl
    · exact ih _ _ (m := (m.perform c).2) (hp.2 _ _)
  | walk pending found k => exact absurd hp.1 hw

theorem resume_total (hw : ¬P.walks) {p : Program σ α} (stop : Stop) {m : Machine σ}
    (hp : p.ObeysFrom P m.memory) : Ended.total (p.resume stop m) = p.eval m := by
  cases p with
  | call c k => exact run_total hw _ stop (m := (m.perform c).2) (hp.2 _ _)
  | walk pending found k => exact absurd hp.1 hw
  | pure | throw | get | set | emit => exact run_total hw _ stop hp

/-! ### Programs that do not fail -/

/-- **A program that does not fail**: there is nothing to catch. -/
def Unfailing (p : Program σ α) : Prop :=
  p.attempt = p.bind fun a => pure (.ok a)

namespace Unfailing

theorem pure (a : α) : (Pure.pure a : Program σ α).Unfailing := rfl

theorem attempt (p : Program σ α) : p.attempt.Unfailing := by
  unfold Unfailing
  induction p with
  | pure | throw => rfl
  | get k ih => exact congrArg get (funext ih)
  | set s rest ih => exact congrArg (set s) ih
  | emit e rest ih => exact congrArg (emit e) ih
  | call c k ih => exact congrArg (call c) (funext ih)
  | walk pending found k ih => exact congrArg (walk pending found) (funext ih)

theorem bind {p : Program σ α} {f : α → Program σ β} (hp : p.Unfailing)
    (hf : ∀ a, (f a).Unfailing) : (p >>= f).Unfailing := by
  change (p.bind f).attempt = (p.bind f).bind _
  rw [attempt_bind, hp, bind_assoc, bind_assoc]
  exact congrArg p.bind (funext fun a => hf a)

theorem read : (read : Program σ σ).Unfailing := rfl

end Unfailing

end Program

end Clickwork
