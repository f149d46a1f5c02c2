import Clickwork.Proofs.Replies

/-!
# Accepted interactions

A session accepts an interaction if it lets the message in and carries the interaction out without
fail (`Session.Accepts`). What the session and the host come to then is what carrying the
interaction out leaves behind (`World.advance_accepted`).
-/

namespace Clickwork

/-- **The session accepts an interaction**, with the result of authoring it: the session is open and
its guard free, the message asks for the interaction, and that is carried out without fail. -/
structure Session.Accepts (s : Session) (h : Host) (inbound : Inbound) (i : Interaction)
    (a : Authoring) : Prop where
  opened : s.closed = false
  free : s.context.busy = false
  asks : ∃ e, inbound.toEnvelope s.config.limits = .ok e ∧ e.type = "create-interaction" ∧
    Interaction.ofJson e.data = .ok i
  carried : ((Authoring.carryOut i).outcome s.enter h).1 = .ok a

/-- The session after it left the guard and sent everything. -/
def Session.answered (s : Session) (a : Authoring) (outbox : Outbox String) : Session :=
  { s with context := s.context.release, lastAuthoring := some a, outbox }

/-- **A message that is accepted** leaves behind what carrying the interaction out does. -/
theorem World.advance_accepted {w : World Unit} {inbound : Inbound} {i : Interaction}
    {a : Authoring} (h_handler : w.current.handlers.find? "create-interaction" = some .author)
    (h_accepts : w.current.Accepts w.host inbound i a) :
    (w.advance (.message inbound)).host =
        ((Authoring.carryOut i).outcome w.current.enter w.host).2.2 ∧
      ∃ outbox, (w.advance (.message inbound)).current =
        ((Authoring.carryOut i).outcome w.current.enter w.host).2.1.answered a outbox := by
  obtain ⟨e, h_decodes, h_type, h_reads⟩ := h_accepts.asks
  obtain ⟨-, h_host, outbox, h_current⟩ := World.answers_authoring h_accepts.opened h_handler
    h_decodes h_type h_reads h_accepts.free
  rw [h_accepts.carried] at h_current
  exact ⟨h_host, outbox, h_current⟩

/-- A message that asks for an interaction which can be carried out is accepted. -/
theorem World.accepts_authoring {w : World Unit} {i : Interaction}
    (h_admits : w.current.admits (.authoring i) = true)
    (h_reads : Interaction.ofJson i.toJson = .ok i)
    (h_carried : ((Authoring.carryOut i).outcome w.current.enter w.host).1.isOk = true) :
    ∃ a, w.current.Accepts w.host (.authoring i) i a := by
  simp only [Session.admits, Bool.and_eq_true, Bool.not_eq_true'] at h_admits
  cases h_result : ((Authoring.carryOut i).outcome w.current.enter w.host).1 with
  | error e =>
    rw [h_result] at h_carried
    cases h_carried
  | ok a => exact ⟨a, h_admits.1.1, h_admits.1.2, ⟨_, rfl, rfl, h_reads⟩, h_result⟩

end Clickwork
