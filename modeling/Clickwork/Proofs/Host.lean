import Clickwork.Proofs.Outcome
import Clickwork.Proofs.Registry

/-!
# Calls that fail by arrangement

A host spares a method if no failure is arranged for its calls (`Host.Spares`). A call of a spared
method is answered (`Host.perform_of_spares`); any other call is answered or refused, and leaves
behind an account of the arranged failures that spares the same methods (`Host.perform_cases`), so
what a host spares it spares for ever.

The account counts the calls of each method (`Host.counting`), and whether a call fails depends on
its number only (`Host.perform_eq`).
-/

namespace Clickwork

/-! ### Methods -/

/-- Whether the method belongs to the client storage. -/
def Method.isStorage : Method → Bool
  | storageGet | storageSet | storageDelete => true
  | _ => false

namespace Host

/-- **No failure is arranged for the calls of a method.** -/
def Spares (h : Host) (method : Method) : Prop :=
  h.faults.find? method = none

/-- The same host with another account of the arranged failures, which spares what it spared. -/
def Spares.Like (h : Host) (faults : Registry Method Fault) : Prop :=
  ∀ method, h.Spares method → faults.find? method = none

theorem perform_of_spares {h : Host} {c : Call} (hs : h.Spares c.method) :
    h.perform c = h.answer c := by
  have hs' : h.faults.find? c.method = none := hs
  simp only [perform, hs']

/-- An answer depends on the scene and the storage only. -/
theorem answer_with_faults (h : Host) (faults : Registry Method Fault) (c : Call) :
    { h with faults }.answer c = ((h.answer c).1, { (h.answer c).2 with faults }) := by
  cases c <;> simp only [answer, change, store] <;> split <;> rfl

/-! ### Counting calls -/

/-- **Whether a failure is arranged** for the call of a method with the given number from now on. -/
def strikes (h : Host) (method : Method) (number : Nat) : Bool :=
  (h.faults.find? method).any fun f => { f with count := f.count + number }.strikes

/-- The host when some more calls of a method have been counted. -/
def counting (h : Host) (method : Method) (calls : Nat) : Host :=
  { h with faults := h.faults.modify method fun f => { f with count := f.count + calls } }

section

variable (h : Host) (method : Method)

theorem strikes_of_spares {h : Host} {method : Method} (hs : h.Spares method) (number : Nat) :
    h.strikes method number = false := by
  have hs' : h.faults.find? method = none := hs
  rw [strikes, hs', Option.any_none]

theorem counting_of_spares {h : Host} {method : Method} (hs : h.Spares method) (calls : Nat) :
    h.counting method calls = h := by
  rw [counting, Registry.modify_of_find?_eq_none hs]

@[simp] theorem counting_zero : h.counting method 0 = h := by
  have h_same : h.faults.modify method (fun f => { f with count := f.count + 0 }) = h.faults :=
    Registry.mapValues_eq_self fun e _ => by split <;> rfl
  rw [counting, h_same]

theorem counting_counting (calls calls' : Nat) :
    (h.counting method calls).counting method calls' = h.counting method (calls + calls') := by
  simp only [counting, Registry.modify, Registry.mapValues_mapValues]
  congr 1
  refine Registry.mapValues_congr fun e _ => ?_
  split
  · simp only [Nat.add_assoc]
  · rfl

theorem spares_counting (calls : Nat) (method' : Method) :
    (h.counting method calls).Spares method' ↔ h.Spares method' := by
  simp only [Spares, counting, Registry.find?_modify]
  split <;> simp

theorem strikes_counting (calls number : Nat) :
    (h.counting method calls).strikes method number = h.strikes method (calls + number) := by
  simp only [strikes, counting, Registry.find?_modify, if_true, Option.any_map,
    Nat.add_assoc]

/-- **A call is refused if a failure is arranged for it**, and answered otherwise. It is counted
first. -/
theorem perform_eq (c : Call) : ∃ e, h.perform c =
    if h.strikes c.method 1 = true then (.error e, h.counting c.method 1)
    else (h.counting c.method 1).answer c := by
  cases hf : h.faults.find? c.method with
  | none =>
    refine ⟨.endless, ?_⟩
    have hs : h.Spares c.method := hf
    rw [strikes_of_spares hs, counting_of_spares hs, if_neg Bool.false_ne_true,
      perform_of_spares hs]
  | some fault =>
    refine ⟨.host (.injected c.method fault.tick.count), ?_⟩
    have h_strikes : h.strikes c.method 1 = fault.tick.strikes := by
      rw [strikes, hf, Option.any_some, Fault.tick]
    have h_counting : h.counting c.method 1 =
        { h with faults := h.faults.insert c.method fault.tick } := by
      rw [counting, ← Registry.insert_eq_modify hf, Fault.tick]
    rw [h_strikes, h_counting]
    simp only [perform, hf]

end

/-- **A call is answered, or refused with nothing changed.** -/
theorem perform_cases (h : Host) (c : Call) :
    ∃ faults, Spares.Like h faults ∧
      (h.perform c = ((h.answer c).1, { (h.answer c).2 with faults }) ∨
        ∃ e, h.perform c = (.error e, { h with faults })) := by
  obtain ⟨e, h_eq⟩ := h.perform_eq c
  refine ⟨(h.counting c.method 1).faults,
    fun method hs => (h.spares_counting c.method 1 method).mpr hs, ?_⟩
  rw [h_eq]
  split
  · exact Or.inr ⟨e, rfl⟩
  · exact Or.inl (answer_with_faults h _ c)

end Host

/-- A call that cannot fail by arrangement is answered. -/
theorem Program.outcome_ask_of_spares {σ : Type} {s : σ} {h : Host} {c : Call}
    (hs : h.Spares c.method) :
    (Program.ask c : Program σ c.Answer).outcome s h = ((h.answer c).1, s, (h.answer c).2) := by
  rw [Program.outcome_ask, Host.perform_of_spares hs]

end Clickwork
