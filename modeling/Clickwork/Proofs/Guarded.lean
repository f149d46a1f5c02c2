import Clickwork.Proofs.Effects
import Clickwork.Proofs.Handling
import Clickwork.Proofs.Interference

/-!
# Parts of sessions, on terms

Reading the record of a group asks for a stored text, and keeps what it reads without another call
in between (`Terms.get_holds`).

A message that asks for an interaction changes the memory of its session before the interaction is
carried out, and again afterwards; in between its handling is what carrying out the interaction is.
So the handling keeps to some terms if carrying out does (`Session.dispatch_author_safe`). A message
that is not let in (`Session.admits`) makes no call and changes nothing but the outbox.
-/

namespace Clickwork

open Program

/-! ### Reading a record -/

namespace Terms

variable {T : Terms Session} {I : Moment Session → Prop}

/-- **A text was just read** for a group, at the moment `b`. -/
structure JustRead (T : Terms Session) (I : Moment Session → Prop) (group text : String)
    (b m : Moment Session) : Prop where
  before : I b
  may : T.may (.storageGet (b.memory.config.storageKey group)) b
  stored : b.host.storage.texts.find? (b.memory.config.storageKey group) = some text
  performed : m = (b.perform (.storageGet (b.memory.config.storageKey group))).2

/-- **Reading a text**, on terms that allow it. -/
theorem stored?_safe {b m : Moment Session} (h_step : T.step b m) (hI : I m)
    (h_look : ∀ m m' key, I m → T.rely (.storageGet key) m m' → T.may (.storageGet key) m' →
      m'.memory.config = m.memory.config ∧ I m' ∧
        T.step m' (m'.perform (.storageGet key)).2 ∧ I (m'.perform (.storageGet key)).2)
    (group : String) : (Records.stored? group).Safe T
      (ends (fun found b m => (T.step b m ∧ I m) ∧
          ∀ text, found = some text → T.JustRead I group text b m)
        fun b m => T.step b m ∧ I m) b m := by
  refine (Safe.tryAsk (P := ends (fun answer b m => (T.step b m ∧ I m) ∧
      ∀ text, answer = .ok (some text) → T.JustRead I group text b m) fun _ _ => False) h_step
    fun m' h_rely h_may => ?_).bind (fun answer b' m' h_answer => ?_) fun _ _ _ hE => hE.elim
  · obtain ⟨h_config, hI', h_read, hI''⟩ := h_look m m' _ hI h_rely h_may
    rw [← h_config] at h_may h_read hI'' ⊢
    exact ⟨⟨h_read, hI''⟩, fun text h_text =>
      ⟨hI', h_may, Host.find?_of_perform_storageGet h_text, rfl⟩⟩
  · obtain ⟨h_done, h_read⟩ := h_answer
    cases answer with
    | error e => exact ⟨rfl, h_done, nofun⟩
    | ok found =>
      refine ⟨h_done, fun text h_text => ?_⟩
      obtain ⟨h_some, -⟩ := Option.filter_eq_some_iff.mp h_text
      exact h_read text (congrArg Except.ok h_some)

/-- **Reading the record of a group**, on terms that allow to read a text, and to keep what was just
read. -/
theorem get_holds
    (h_look : ∀ m m' key, I m → T.rely (.storageGet key) m m' → T.may (.storageGet key) m' →
      m'.memory.config = m.memory.config ∧ I m' ∧
        T.step m' (m'.perform (.storageGet key)).2 ∧ I (m'.perform (.storageGet key)).2)
    (h_keep : ∀ group text b m i, T.JustRead I group text b m →
      Records.parse b.memory.config.limits text = .ok i →
      let s := { m.memory with records := m.memory.records.insert group i }
      T.step b (m.withMemory s) ∧ I (m.withMemory s)) (group : String) :
    (T.keeping I).Holds (Records.get group) := by
  intro b m h_step hI
  refine Safe.read ?_
  cases m.memory.records.find? group with
  | some record => exact ⟨h_step, hI⟩
  | none =>
    refine (stored?_safe h_step hI h_look group).bind (fun found b' m' h_found => ?_)
      fun _ _ _ hE => hE
    obtain ⟨h_done, h_read⟩ := h_found
    cases found with
    | none => exact h_done
    | some text =>
      have h_just := h_read text rfl
      -- the call has not changed the configuration
      have h_config : m'.memory.config = b'.memory.config := by rw [h_just.performed]; rfl
      refine Safe.read (f := fun s : Session => _) ?_
      rw [h_config]
      cases h_parse : Records.parse b'.memory.config.limits text with
      | ok i => exact h_keep group text b' m' i h_just h_parse
      | error e =>
        dsimp only
        split
        · exact ⟨rfl, h_done⟩
        · exact h_done

end Terms

/-! ### Authoring under the guard -/

namespace Session

variable {T : Terms Session} {P : Except Failure Authoring → Moment Session → Moment Session → Prop}
  {Q : Moment Session → Prop} {b m : Moment Session} {e : Envelope}

/-- A failure of carrying out is caught twice, which is the same as once. -/
theorem attempt_leave (p : Program Session Authoring) :
    (p.attempt.bind fun result => do
      modifyContext Context.release
      Program.lift result).attempt.bind reply =
    p.attempt.bind (fun result => do
      modifyContext Context.release
      reply result) := by
  rw [attempt_bind, Unfailing.attempt, bind_assoc, bind_assoc]
  refine congrArg p.attempt.bind (funext fun result => ?_)
  cases result <;> rfl

/-- **Authoring**, given that the interaction is carried out in some way. -/
theorem author_safe {payload : Json} (hQ : (T.keeping Q).Tells)
    (h_refused : (Interaction.ofJson payload).isOk = false ∨ m.memory.context.busy = true →
      T.step b m ∧ Q m)
    (h_carry : ∀ i, Interaction.ofJson payload = .ok i → m.memory.context.busy = false →
      (Authoring.carryOut i).Safe T P b (m.withMemory m.memory.enter))
    (h_done : ∀ r b m, P r b m → T.step b (m.withMemory (m.memory.left r)) ∧
      Q (m.withMemory (m.memory.left r))) :
    (author payload).Safe T (T.closing fun _ => Q) b m := by
  have h_reported {b m : Moment Session} (context : String) (e : Failure)
      (h : T.step b m ∧ Q m) : (report context e).Safe T (T.closing fun _ => Q) b m :=
    report_holds hQ context e b m h.1 h.2
  unfold author
  cases h_reads : Interaction.ofJson payload with
  | error e => exact h_reported _ e (h_refused (.inl (by rw [h_reads]; rfl)))
  | ok i =>
    cases h_busy : m.memory.context.busy with
    | true =>
      have h_taken : m.memory.context.acquire = .error .busy := by
        rw [Context.acquire, h_busy, if_pos rfl]
      show Program.Safe T _ (((Program.lift m.memory.context.acquire).bind _).attempt.bind _) b m
      rw [h_taken]
      exact h_reported _ .busy (h_refused (.inr h_busy))
    | false =>
      have h_free : m.memory.context.acquire = .ok { m.memory.context with busy := true } := by
        rw [Context.acquire, h_busy, if_neg Bool.false_ne_true]
      show Program.Safe T _ (((Program.lift m.memory.context.acquire).bind _).attempt.bind _) b m
      rw [h_free]
      show Program.Safe T _ (((Authoring.carryOut i).attempt.bind fun result => do
        modifyContext Context.release
        Program.lift result).attempt.bind reply) b (m.withMemory m.memory.enter)
      rw [attempt_leave]
      refine Safe.bind (P := ends P fun _ _ => False) (.attempt (h_carry i h_reads h_busy))
        (fun r b' m' h_carried => ?_) fun _ _ _ hE => hE.elim
      -- what is left to do makes no call
      obtain ⟨h_step, h_left⟩ := h_done r b' m' h_carried
      cases r with
      | error e => exact h_reported _ e ⟨h_step, h_left⟩
      | ok a => exact post_holds hQ _ b' _ h_step h_left

/-- **Handling a message that asks for an interaction**, given that the interaction is carried out
in some way. -/
theorem dispatch_author_safe {inbound : Inbound} (hQ : (T.keeping Q).Tells)
    (h_decodes : inbound.toEnvelope m.memory.config.limits = .ok e)
    (h_handler : m.memory.handlers.find? e.type = some .author)
    (h_refused : m.memory.admits inbound = false → T.step b m ∧ Q m)
    (h_carry : ∀ i, Interaction.ofJson e.data = .ok i → m.memory.admits inbound = true →
      (Authoring.carryOut i).Safe T P b (m.withMemory m.memory.enter))
    (h_done : ∀ r b m, P r b m → T.step b (m.withMemory (m.memory.left r)) ∧
      Q (m.withMemory (m.memory.left r))) :
    (dispatch inbound).Safe T (T.closing fun _ => Q) b m := by
  have h_flush := flush_holds hQ
  have h_received : (receive inbound).Safe T (T.closing fun _ => Q) b m := by
    refine Safe.read (f := fun s : Session => _) ?_
    split
    · rename_i h_closed
      exact ⟨rfl, h_refused (by rw [admits, h_closed]; rfl)⟩
    · -- the envelope is decoded and its handler found, and then the guard decides
      rename_i h_open
      rw [Bool.not_eq_true] at h_open
      show Program.Safe T _ (Program.lift (inbound.toEnvelope m.memory.config.limits) >>= _) b m
      rw [h_decodes]
      refine Safe.read (f := fun s : Session => _) ?_
      rw [h_handler]
      have h_admits : m.memory.admits inbound =
          (!m.memory.context.busy && (Interaction.ofJson e.data).isOk) := by
        simp [admits, h_open, h_decodes]
      refine author_safe hQ (fun h_not => h_refused ?_) (fun i h_reads h_free => ?_) h_done
      · rw [h_admits]
        rcases h_not with h_not | h_not <;> simp [h_not]
      · refine h_carry i h_reads ?_
        rw [h_admits, h_free, h_reads]
        rfl
  -- however handling ends, the outbox is flushed
  refine (Safe.attempt (P := ends (fun _ b m => T.step b m ∧ Q m) fun _ _ => False)
    h_received).bind (fun result b' m' h_done => ?_) fun _ _ _ hE => hE.elim
  cases result with
  | ok u => exact h_flush b' m' h_done.1 h_done.2
  | error e =>
    exact (T.keeping Q).bind (report_holds hQ _ e) (fun _ => h_flush) b' m' h_done.1 h_done.2

end Session

end Clickwork
