import Clickwork.Proofs.Host
import Clickwork.Proofs.Scene.Built
import Clickwork.Proofs.Scene.Kept

/-!
# What programs leave alone

`Host.Later` is what holds between a host and the same host after any number of calls
(`Program.outcome_later`): the scene is kept (`Scene.Kept`) and can still be built, what was spared
is spared, and the storage is available or not as before.

`Program.Ends` states what holds when a program has ended. Statements about a program are put
together from statements about its parts by one rule for each construction; `Ends.bind` hands on
that the host between the two parts is a later one. `Program.Keeps` is the special case of an
invariant on memory and host.
-/

namespace Clickwork

variable {σ α β : Type}

/-! ### Later hosts -/

/-- **The same host after some calls.** -/
structure Host.Later (h h' : Host) : Prop where
  spares : ∀ method, h.Spares method → h'.Spares method
  built : h.scene.Built → h'.scene.Built
  kept : Scene.Kept h.scene h'.scene
  unavailable : h'.storage.unavailable = h.storage.unavailable

namespace Host

theorem Later.refl (h : Host) : h.Later h :=
  ⟨fun _ hs => hs, fun hb => hb, .refl _, rfl⟩

theorem Later.trans {h₁ h₂ h₃ : Host} (h : h₁.Later h₂) (h' : h₂.Later h₃) : h₁.Later h₃ where
  spares := fun method hs => h'.spares method (h.spares method hs)
  built := fun hb => h'.built (h.built hb)
  kept := h.kept.trans h'.kept
  unavailable := h'.unavailable.trans h.unavailable

/-- A change of the scene that an operation makes as well. -/
theorem Later.change (h : Host) {result : Except Failure Scene}
    (h_kept : ∀ s', result = .ok s' → Scene.Kept h.scene s') (op : Scene.Operation)
    (h_op : (h.scene.operate op).2 = (h.scene.changed result).2) :
    h.Later (h.change result).2 := by
  cases result with
  | error e => exact .refl h
  | ok s' =>
    refine ⟨fun _ hs => hs, fun hb => ?_, h_kept s' rfl, rfl⟩
    -- what the call makes of the scene is what the operation makes of it
    have h_step := hb.step op
    rw [h_op] at h_step
    exact h_step

theorem Later.store (h : Host) {result : Except Failure Storage}
    (h_same : ∀ t, result = .ok t → t.unavailable = h.storage.unavailable) :
    h.Later (h.store result).2 := by
  cases result with
  | error e => exact .refl h
  | ok t => exact ⟨fun _ hs => hs, fun hb => hb, .refl _, h_same t rfl⟩

theorem unavailable_of_set {s t : Storage} {key text : String} (h : s.set key text = .ok t) :
    t.unavailable = s.unavailable := by
  simp only [Storage.set, Storage.whenAvailable] at h
  split at h
  · cases h
  · cases h
    rfl

theorem unavailable_of_delete {s t : Storage} {key : String} (h : s.delete key = .ok t) :
    t.unavailable = s.unavailable := by
  simp only [Storage.delete, Storage.whenAvailable] at h
  split at h
  · cases h
  · cases h
    rfl

theorem Later.answer (h : Host) (c : Call) : h.Later (h.answer c).2 := by
  cases c with
  -- queries change nothing, and every change of the scene is an operation
  | selection | node | mainComponent | instanceProperties | allReactions | collections
  | listVariables | storageGet => exact .refl h
  | setReactions id reactions =>
    exact .change h (fun _ => Scene.Kept.setReactions) (.setReactions id reactions) rfl
  | close => exact ⟨fun _ hs => hs, fun hb => hb.step .close, ⟨rfl, rfl, rfl, rfl, rfl⟩, rfl⟩
  | createCollection name =>
    exact ⟨fun _ hs => hs, fun hb => hb.step (.createCollection name),
      ⟨rfl, rfl, rfl, rfl, rfl⟩, rfl⟩
  | createVariable name collection type =>
    simp only [Host.answer]
    split
    · -- the call also hands out the id of the variable, which the operation keeps to itself
      rename_i id s' h_created
      refine ⟨fun _ hs => hs, fun hb => ?_, .createVariable h_created, rfl⟩
      have h_step := hb.step (.createVariable name collection type)
      simpa only [Scene.operate, h_created, Except.map, Scene.changed] using h_step
    · exact .refl h
  | setValue id value =>
    exact .change h (fun _ => Scene.Kept.setValue) (.setValue id value) rfl
  | bindProperty id property target =>
    exact .change h (fun _ => Scene.Kept.bindProperty) (.bindProperty id property target) rfl
  | removeVariable id =>
    exact .change h (fun _ => Scene.Kept.removeVariable) (.removeVariable id) rfl
  | storageSet key text => exact .store h fun _ => unavailable_of_set
  | storageDelete key => exact .store h fun _ => unavailable_of_delete

/-- **A call leads to a later host**, whether it is answered or refused. -/
theorem Later.perform (h : Host) (c : Call) : h.Later (h.perform c).2 := by
  obtain ⟨faults, h_like, h_eq | ⟨e, h_eq⟩⟩ := h.perform_cases c
  · -- an answer with another account of the failures
    have h_answer := Later.answer h c
    rw [h_eq]
    exact ⟨fun method hs => h_like method hs, h_answer.built, h_answer.kept, h_answer.unavailable⟩
  · rw [h_eq]
    exact ⟨fun method hs => h_like method hs, fun hb => hb, .refl _, rfl⟩

end Host

namespace Program

/-- **A program leads to a later host.** -/
theorem outcome_later (p : Program σ α) (s : σ) (h : Host) : h.Later (p.outcome s h).2.2 :=
  outcome_host_induction (I := fun h' => h.Later h')
    (fun h' c h_later => h_later.trans (.perform h' c)) p s (.refl h)

/-! ### What holds at the end -/

/-- **What holds when a program has ended**, of its result and of the memory and host it leaves. -/
def Ends (p : Program σ α) (s : σ) (h : Host) (Q : Except Failure α → σ → Host → Prop) : Prop :=
  Q (p.outcome s h).1 (p.outcome s h).2.1 (p.outcome s h).2.2

section Rules

variable {s : σ} {h : Host} {p : Program σ α} {Q R : Except Failure α → σ → Host → Prop}

theorem Ends.mono (hp : p.Ends s h Q)
    (h_imp : ∀ r s' h', h.Later h' → Q r s' h' → R r s' h') : p.Ends s h R :=
  h_imp _ _ _ (p.outcome_later s h) hp

theorem Ends.and (hQ : p.Ends s h Q) (hR : p.Ends s h R) :
    p.Ends s h fun r s' h' => Q r s' h' ∧ R r s' h' :=
  And.intro hQ hR

/-- A run from a machine ends so, whatever happened before. -/
theorem Ends.eval {m : Machine σ} (hp : p.Ends m.memory m.host Q) :
    ∃ r m', p.eval m = (r, m') ∧ Q r m'.memory m'.host := by
  obtain ⟨m', h_eval, h_memory, h_host⟩ := eval_of_outcome (p := p) (m := m) rfl
  exact ⟨_, m', h_eval, by rw [h_memory, h_host]; exact hp⟩

/-- **Sequencing.** -/
theorem Ends.bind {f : α → Program σ β} {R : Except Failure β → σ → Host → Prop}
    (hp : p.Ends s h Q)
    (h_ok : ∀ a s' h', h.Later h' → Q (.ok a) s' h' → (f a).Ends s' h' R)
    (h_error : ∀ e s' h', h.Later h' → Q (.error e) s' h' → R (.error e) s' h') :
    (p >>= f).Ends s h R := by
  -- the second part runs on what the first one left, which is a later host
  have h_later := p.outcome_later s h
  rw [Ends, outcome_bind]
  rw [Ends] at hp
  generalize p.outcome s h = o at h_later hp
  obtain ⟨e | a, s', h'⟩ := o
  · exact h_error e s' h' h_later hp
  · exact h_ok a s' h' h_later hp

theorem Ends.of_eq {r : Except Failure α} {s' : σ} {h' : Host}
    (h_eq : p.outcome s h = (r, s', h')) (hQ : Q r s' h') : p.Ends s h Q := by
  rw [Ends, h_eq]
  exact hQ

/-- Goes on after a part of which everything is known. -/
theorem Ends.bind_eq {f : α → Program σ β} {R : Except Failure β → σ → Host → Prop} {a : α}
    {s' : σ} {h' : Host} (h_eq : p.outcome s h = (.ok a, s', h')) (h_rest : (f a).Ends s' h' R) :
    (p >>= f).Ends s h R := by
  rw [Ends, outcome_bind_ok h_eq]
  exact h_rest

theorem Ends.attempt {Q : Except Failure (Except Failure α) → σ → Host → Prop}
    (hp : p.Ends s h fun r => Q (.ok r)) : p.attempt.Ends s h Q := by
  rw [Ends, outcome_attempt]
  exact hp

end Rules

/-! ### Invariants -/

/-- **An invariant of memory and host that a program keeps**, however it ends. -/
def Keeps (I : σ → Host → Prop) (p : Program σ α) : Prop :=
  ∀ s h, I s h → p.Ends s h fun _ => I

section Invariants

variable {I : σ → Host → Prop}

theorem Keeps.pure (a : α) : Keeps I (Pure.pure a : Program σ α) :=
  fun _ _ hI => hI

theorem Keeps.bind {p : Program σ α} {f : α → Program σ β} (hp : Keeps I p)
    (hf : ∀ a, Keeps I (f a)) : Keeps I (p >>= f) :=
  fun s h hI => (hp s h hI).bind (fun a s' h' _ hI' => hf a s' h' hI') fun _ _ _ _ hI' => hI'

theorem Keeps.attempt {p : Program σ α} (hp : Keeps I p) : Keeps I p.attempt :=
  fun s h hI => Ends.attempt (hp s h hI)

theorem Keeps.lift (r : Except Failure α) : Keeps I (lift r : Program σ α) := by
  intro s h hI
  rw [Ends, outcome_lift]
  exact hI

theorem Keeps.read : Keeps I (read : Program σ σ) :=
  fun _ _ hI => hI

theorem Keeps.modify {f : σ → σ} (hf : ∀ s h, I s h → I (f s) h) : Keeps I (modify f) :=
  fun s h hI => hf s h hI

theorem Keeps.log (level : Level) (text : String) (cause : Option Failure) :
    Keeps I (log level text cause : Program σ Unit) := by
  intro s h hI
  rw [Ends, outcome_log]
  exact hI

theorem Keeps.deliver (listener : String) (e : Envelope) :
    Keeps I (deliver listener e : Program σ Unit) := by
  intro s h hI
  rw [Ends, outcome_deliver]
  exact hI

theorem Keeps.ask {c : Call} (hc : ∀ s h, I s h → I s (h.perform c).2) :
    Keeps I (ask c : Program σ c.Answer) := by
  intro s h hI
  rw [Ends, outcome_ask]
  exact hc s h hI

theorem Keeps.forM {f : α → Program σ Unit} (xs : List α) (hf : ∀ x ∈ xs, Keeps I (f x)) :
    Keeps I (xs.forM f) := by
  induction xs with
  | nil => exact .pure ()
  | cons x xs ih =>
    change Keeps I (f x >>= fun _ => xs.forM f)
    exact (hf x List.mem_cons_self).bind fun _ => ih fun x hx => hf x (List.mem_cons_of_mem _ hx)

theorem Keeps.mapM {f : α → Program σ β} (xs : List α) (hf : ∀ x ∈ xs, Keeps I (f x)) :
    Keeps I (xs.mapM f) := by
  induction xs with
  | nil => exact .pure []
  | cons x xs ih =>
    rw [List.mapM_cons]
    refine (hf x List.mem_cons_self).bind fun b => ?_
    exact (ih fun x hx => hf x (List.mem_cons_of_mem _ hx)).bind fun _ => .pure _

theorem Keeps.foldlM {f : β → α → Program σ β} (xs : List α) (b : β)
    (hf : ∀ b, ∀ x ∈ xs, Keeps I (f b x)) : Keeps I (xs.foldlM f b) := by
  induction xs generalizing b with
  | nil => exact .pure b
  | cons x xs ih =>
    rw [List.foldlM_cons]
    exact (hf b x List.mem_cons_self).bind fun b' =>
      ih b' fun b x hx => hf b x (List.mem_cons_of_mem _ hx)

end Invariants

end Program

end Clickwork
