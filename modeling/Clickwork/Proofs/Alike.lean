import Clickwork.Proofs.Interference
import Mathlib.Tactic.SplitIfs

/-!
# Programs that do alike

Whether the others leave a task alone is a question about what it reads. Two programs do alike
(`Program.Alike`), the second one alone on its host, if they make the same calls and come to the
same on related memories, as long as the others leave the memories related. A program that does
alike with itself on all related memories only reads what related memories have in common; this is a
discipline (`Discipline.alike`).

So a task that is held now and then comes to what it comes to alone, if the others keep its memory
related to the one that it would have alone (`Program.Alike.safe`). The hosts need not be the same
for that: nothing but the selection of the scene may differ (`Host.Similar`), which only an analysis
asks for.
-/

namespace Clickwork

/-! ### Hosts that differ in the selection -/

namespace Host

/-- The host with other nodes selected. -/
def select (h : Host) (ids : List String) : Host :=
  { h with scene := h.scene.select ids }

/-- **Nothing but the selection differs.** -/
def Similar (h h' : Host) : Prop :=
  h.select [] = h'.select []

theorem Similar.refl (h : Host) : h.Similar h :=
  rfl

theorem Similar.symm {h h' : Host} (hs : h.Similar h') : h'.Similar h :=
  Eq.symm hs

theorem Similar.trans {h₁ h₂ h₃ : Host} (hs : h₁.Similar h₂) (hs' : h₂.Similar h₃) :
    h₁.Similar h₃ :=
  Eq.trans hs hs'

theorem Similar.select (h : Host) (ids : List String) : (h.select ids).Similar h :=
  rfl

/-- A change of the scene that has nothing to do with the selection. -/
theorem change_select (h : Host) (ids : List String) {result result' : Except Failure Scene}
    (h_result : result' = result.map (·.select ids)) :
    (h.select ids).change result' = ((h.change result).1, (h.change result).2.select ids) := by
  subst h_result
  cases result <;> rfl

theorem store_select (h : Host) (ids : List String) (result : Except Failure Storage) :
    (h.select ids).store result = ((h.store result).1, (h.store result).2.select ids) := by
  cases result <;> rfl

theorem answer_select (h : Host) (ids : List String) {c : Call} (hc : c ≠ .selection) :
    (h.select ids).answer c = ((h.answer c).1, (h.answer c).2.select ids) := by
  cases c with
  | selection => exact absurd rfl hc
  | node | mainComponent | instanceProperties | allReactions | close | collections
  | createCollection | listVariables | storageGet => rfl
  | storageSet | storageDelete => exact h.store_select ids _
  | createVariable name collection type =>
    by_cases h_known : collection ∈ h.scene.collections.values
    · simp only [answer, select, Scene.select, Scene.createVariable, h_known, if_true]
    · simp only [answer, select, Scene.select, Scene.createVariable, h_known, if_false]
  | setReactions =>
    refine h.change_select ids ?_
    unfold select Scene.select Scene.setReactions
    split_ifs <;> rfl
  | setValue =>
    refine h.change_select ids ?_
    unfold select Scene.select Scene.setValue
    split_ifs <;> rfl
  | bindProperty =>
    refine h.change_select ids ?_
    unfold select Scene.select Scene.bindProperty
    split_ifs <;> rfl
  | removeVariable =>
    refine h.change_select ids ?_
    unfold select Scene.select Scene.removeVariable
    split_ifs <;> rfl

theorem perform_select (h : Host) (ids : List String) {c : Call} (hc : c ≠ .selection) :
    (h.select ids).perform c = ((h.perform c).1, (h.perform c).2.select ids) := by
  have h_faults : (h.select ids).faults = h.faults := rfl
  unfold perform
  rw [h_faults]
  cases h.faults.find? c.method with
  | none => exact h.answer_select ids hc
  | some fault =>
    dsimp only
    split
    · rfl
    · exact Host.answer_select { h with faults := h.faults.insert c.method fault.tick } ids hc

/-- **Hosts that differ in the selection answer alike**, unless they are asked for it. -/
theorem Similar.perform {h h' : Host} (hs : h.Similar h') {c : Call} (hc : c ≠ .selection) :
    (h.perform c).1 = (h'.perform c).1 ∧ (h.perform c).2.Similar (h'.perform c).2 := by
  have h_same : (h.select []).perform c = (h'.select []).perform c := by
    rw [show h.select [] = h'.select [] from hs]
  rw [perform_select h [] hc, perform_select h' [] hc] at h_same
  exact Prod.mk.inj h_same

end Host

/-! ### Programs -/

namespace Program

variable {σ α β : Type} {E : σ → σ → Host → Prop} {R : Except Failure α → σ → σ → Host → Prop}

/-- **Two programs do alike**, the second one alone on its memory and host: between calls each does
what it likes, and when a call is made or they end, it is the same one, or the same result, and what
is required of the memories and the host holds. -/
inductive Alike (E : σ → σ → Host → Prop) (R : Except Failure α → σ → σ → Host → Prop) :
    Program σ α → σ → Program σ α → σ → Host → Prop where
  | pure {a : α} {s s' : σ} {h : Host} (hR : R (.ok a) s s' h) :
      Alike E R (.pure a) s (.pure a) s' h
  | throw {e : Failure} {s s' : σ} {h : Host} (hR : R (.error e) s s' h) :
      Alike E R (.throw e) s (.throw e) s' h
  | getLeft {k : σ → Program σ α} {q : Program σ α} {s s' : σ} {h : Host}
      (h_rest : Alike E R (k s) s q s' h) : Alike E R (.get k) s q s' h
  | getRight {p : Program σ α} {k : σ → Program σ α} {s s' : σ} {h : Host}
      (h_rest : Alike E R p s (k s') s' h) : Alike E R p s (.get k) s' h
  | setLeft {t : σ} {rest q : Program σ α} {s s' : σ} {h : Host}
      (h_rest : Alike E R rest t q s' h) : Alike E R (.set t rest) s q s' h
  | setRight {t : σ} {p rest : Program σ α} {s s' : σ} {h : Host}
      (h_rest : Alike E R p s rest t h) : Alike E R p s (.set t rest) s' h
  | emitLeft {e : Event} {rest q : Program σ α} {s s' : σ} {h : Host}
      (h_rest : Alike E R rest s q s' h) : Alike E R (.emit e rest) s q s' h
  | emitRight {e : Event} {p rest : Program σ α} {s s' : σ} {h : Host}
      (h_rest : Alike E R p s rest s' h) : Alike E R p s (.emit e rest) s' h
  | call {c : Call} {k k' : Except Failure c.Answer → Program σ α} {s s' : σ} {h : Host}
      (h_asks : c ≠ .selection) (hE : E s s' h)
      (h_rest : ∀ t, E t s' h →
        Alike E R (k (h.perform c).1) t (k' (h.perform c).1) s' (h.perform c).2) :
      Alike E R (.call c k) s (.call c k') s' h

namespace Alike

theorem bind {S : Except Failure β → σ → σ → Host → Prop} {p q : Program σ α}
    {f g : α → Program σ β} {s s' : σ} {h : Host} (hp : Alike E R p s q s' h)
    (h_ok : ∀ a t t' h, R (.ok a) t t' h → Alike E S (f a) t (g a) t' h)
    (h_error : ∀ e t t' h, R (.error e) t t' h → S (.error e) t t' h) :
    Alike E S (p >>= f) s (q >>= g) s' h := by
  show Alike E S (p.bind f) s (q.bind g) s' h
  induction hp with
  | pure hR => exact h_ok _ _ _ _ hR
  | throw hR => exact .throw (h_error _ _ _ _ hR)
  | getLeft _ ih => exact .getLeft ih
  | getRight _ ih => exact .getRight ih
  | setLeft _ ih => exact .setLeft ih
  | setRight _ ih => exact .setRight ih
  | emitLeft _ ih => exact .emitLeft ih
  | emitRight _ ih => exact .emitRight ih
  | call h_asks hE _ ih => exact .call h_asks hE ih

theorem attempt {R : Except Failure (Except Failure α) → σ → σ → Host → Prop}
    {p q : Program σ α} {s s' : σ} {h : Host} (hp : Alike E (fun r => R (.ok r)) p s q s' h) :
    Alike E R p.attempt s q.attempt s' h := by
  induction hp with
  | pure hR => exact .pure hR
  | throw hR => exact .pure hR
  | getLeft _ ih => exact .getLeft ih
  | getRight _ ih => exact .getRight ih
  | setLeft _ ih => exact .setLeft ih
  | setRight _ ih => exact .setRight ih
  | emitLeft _ ih => exact .emitLeft ih
  | emitRight _ ih => exact .emitRight ih
  | call h_asks hE _ ih => exact .call h_asks hE ih

/-- Both read their memories. -/
theorem read {f g : σ → Program σ α} {s s' : σ} {h : Host}
    (h_rest : Alike E R (f s) s (g s') s' h) :
    Alike E R (Program.read >>= f) s (Program.read >>= g) s' h :=
  .getLeft (.getRight h_rest)

/-- Both make a call and hand on the answer. -/
theorem tryAsk {c : Call} {R : Except Failure (Except Failure c.Answer) → σ → σ → Host → Prop}
    {s s' : σ} {h : Host} (h_asks : c ≠ .selection) (hE : E s s' h)
    (hR : ∀ t, E t s' h → R (.ok (h.perform c).1) t s' (h.perform c).2) :
    Alike E R (Program.tryAsk c) s (Program.tryAsk c) s' h :=
  .call h_asks hE fun t ht => .pure (hR t ht)

end Alike

end Program

/-- **Reading only what related memories have in common** is a discipline. -/
def Discipline.alike {σ : Type} (E : σ → σ → Host → Prop) : Discipline σ where
  Holds p := ∀ s s' h, E s s' h → p.Alike E (fun _ => E) s p s' h
  lift
    | .ok _ => fun _ _ _ hE => .pure hE
    | .error _ => fun _ _ _ hE => .throw hE
  bind hp hf := fun s s' h hE => (hp s s' h hE).bind (fun a => hf a) fun _ _ _ _ hE => hE
  attempt hp := fun s s' h hE => .attempt (hp s s' h hE)
  log _ _ _ := fun _ _ _ hE => .emitLeft (.emitRight (.pure hE))

namespace Discipline

variable {σ τ : Type} {E : σ → σ → Host → Prop}

theorem permits_alike {c : Call} (h_asks : c ≠ .selection)
    (hc : ∀ s s' h, E s s' h → E s s' (h.perform c).2) : (alike E).Permits c :=
  fun _ _ _ hE => .tryAsk h_asks hE fun _ => hc _ _ _

theorem sees_alike (view : σ → τ) {P : τ → Prop}
    (h_view : ∀ s s' h, E s s' h → view s = view s' ∧ P (view s)) :
    (alike E).Sees view P := by
  refine ⟨fun f hf s s' h hE => .read ?_⟩
  obtain ⟨h_same, h_possible⟩ := h_view s s' h hE
  rw [← h_same]
  exact hf (view s) h_possible s s' h hE

theorem modifies_alike {f : σ → σ} (hf : ∀ s s' h, E s s' h → E (f s) (f s') h) :
    (alike E).Holds (Program.modify f) :=
  fun s s' h hE => .getLeft (.getRight (.setLeft (.setRight (.pure (hf s s' h hE)))))

end Discipline

/-! ### Alone and beside others -/

namespace Program

variable {σ α : Type} {E : σ → σ → Host → Prop} {R : Except Failure α → σ → σ → Host → Prop}
  {T : Terms σ}

/-- What a program comes to is what another one came to alone. -/
def ComesTo (R : Except Failure α → σ → σ → Host → Prop)
    (outcome : Except Failure α × σ × Host) (r : Except Failure α) (m : Moment σ) : Prop :=
  r = outcome.1 ∧ R r m.memory outcome.2.1 outcome.2.2 ∧ m.host.Similar outcome.2.2

/-- **A task comes to what it would come to alone**, if the others keep its memory related to the
one that it would have alone. -/
theorem Alike.safe {P : Except Failure α → Moment σ → Moment σ → Prop} {p q : Program σ α}
    {s s' : σ} {h : Host} (h_alike : p.Alike E R s q s' h)
    (h_rely : ∀ c m m' s' h, T.rely c m m' → T.may c m' → E m.memory s' h → E m'.memory s' h)
    (h_similar : ∀ c m m', T.rely c m m' → m'.host.Similar m.host) {b m : Moment σ}
    (hp : p.Safe T P b m) (h_memory : m.memory = s) (h_host : m.host.Similar h) :
    p.Safe T (fun r b m => P r b m ∧ ComesTo R (q.outcome s' h) r m) b m := by
  induction h_alike generalizing b m with
  | pure hR | throw hR =>
    subst h_memory
    exact ⟨hp, rfl, hR, h_host⟩
  | getLeft _ ih =>
    subst h_memory
    exact ih hp rfl h_host
  | getRight _ ih | setRight _ ih => exact ih hp h_memory h_host
  | setLeft _ ih => exact ih hp rfl h_host
  | emitLeft _ ih => exact ⟨hp.1, ih hp.2 h_memory h_host⟩
  | emitRight _ ih =>
    rw [outcome_emit]
    exact ih hp h_memory h_host
  | @call c k k' s s' h h_asks hE _ ih =>
    subst h_memory
    -- whatever the others have done, the call is answered as it is alone
    refine ⟨hp.1, fun m' h_others h_may => ?_⟩
    have h_performed := ((h_similar c m m' h_others).trans h_host).perform h_asks
    have h_answer : (m'.perform c).1 = (h.perform c).1 := h_performed.1
    have h_rest := hp.2 m' h_others h_may
    rw [h_answer] at h_rest ⊢
    rw [outcome_call]
    exact ih m'.memory (h_rely c m m' s' h h_others h_may hE) h_rest rfl h_performed.2

end Program

end Clickwork
