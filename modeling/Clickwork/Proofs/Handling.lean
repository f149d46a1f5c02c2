import Clickwork.Proofs.Latest
import Clickwork.Proofs.SingleFlight
import Clickwork.Proofs.Turns

/-!
# Handling messages under a discipline

Beside the functions that search, keep records and author interactions, the entry points of a
session read its memory, change its context and its outbox, and tell its listeners. A discipline
under which they may do so (`Discipline.Converses`) is one of every entry point, if it is one of the
parts that ask the host: of searching for an analysis (`Session.analyse_holds`), of carrying out an
interaction (`Session.author_holds`), and of the handler that a message is handed to
(`Session.dispatch_holds`).
-/

namespace Clickwork

/-- What a session does not change when it only talks: all but its context and its outbox. -/
def Session.core (s : Session) : Session :=
  { s with context := {}, outbox := {} }

/-- **A discipline under which a session may talk**: it reads its memory, which is one of the
possible ones, changes its context and its outbox, and tells its listeners. -/
structure Discipline.Converses (D : Discipline Session) (possible : Session → Prop) : Prop where
  reads : D.Sees id possible
  changes : ∀ f : Session → Session, (∀ s, (f s).core = s.core) → D.Holds (Program.modify f)
  delivers : ∀ listener e, D.Holds (Program.deliver listener e)

/-- **A discipline under which listeners may be told** what was posted. -/
structure Discipline.Tells (D : Discipline Session) : Prop where
  reads : D.Sees Session.outbox fun _ => True
  changes : ∀ f : Outbox String → Outbox String,
    D.Holds (Program.modify fun s : Session => { s with outbox := f s.outbox })
  delivers : ∀ listener e, D.Holds (Program.deliver listener e)

variable {D : Discipline Session} {possible : Session → Prop}

namespace Discipline.Converses

theorem tells (hD : D.Converses possible) : D.Tells where
  reads := ⟨fun f hf => hD.reads.read (fun s => f s.outbox) fun _ _ => hf _ trivial⟩
  changes _ := hD.changes _ fun _ => rfl
  delivers := hD.delivers

theorem read {α : Type} {f : Session → Program Session α} (hD : D.Converses possible)
    (hf : ∀ s, possible s → D.Holds (f s)) : D.Holds (Program.read >>= f) :=
  hD.reads.read f hf

theorem readContext {α : Type} {f : Context → Program Session α} (hD : D.Converses possible)
    (hf : ∀ s, possible s → D.Holds (f s.context)) : D.Holds (Session.readContext >>= f) :=
  hD.reads.read (fun s => f s.context) hf

theorem config {p : Config → Prop} (hD : D.Converses possible)
    (hp : ∀ s, possible s → p s.config) : D.Sees Session.config p :=
  ⟨fun f hf => hD.reads.read (fun s => f s.config) fun s hs => hf _ (hp s hs)⟩

end Discipline.Converses

namespace Session

theorem post_holds (hD : D.Tells) (e : Envelope) : D.Holds (post e) :=
  hD.changes (·.post e)

theorem report_holds (hD : D.Tells) (context : String) (e : Failure) :
    D.Holds (report context e) :=
  D.bind (D.log _ _ _) fun _ => post_holds hD _

theorem flush_holds (hD : D.Tells) : D.Holds flush := by
  refine hD.reads.reads (fun s s' h_same => by simp only [h_same]) fun s _ => ?_
  exact D.bind (hD.changes (·.clear)) fun _ => .forM _ fun d _ => hD.delivers d.1 d.2

/-! ### Analyses -/

theorem conclude_holds (hD : D.Converses possible) (token : Int) (r : Except Failure Found) :
    D.Holds (Analysis.conclude token r) := by
  cases r with
  | error e =>
    refine hD.readContext fun s _ => ?_
    split
    · exact report_holds hD.tells _ e
    · exact D.log _ _ _
  | ok found =>
    have h_commit : D.Holds (Analysis.commit token found.selectedName found.groups) := by
      refine hD.readContext fun s _ => ?_
      split
      · exact D.bind (hD.changes _ fun _ => rfl) fun _ => .pure _
      · exact D.bind (D.log _ _ _) fun _ => .pure _
    refine D.bind h_commit fun current => ?_
    split
    · exact post_holds hD.tells _
    · exact .pure _

/-- **An analysis**, given that it searches in some way. -/
theorem analyse_holds (hD : D.Converses possible) (h_search : D.Holds Analysis.search) :
    D.Holds analyse := by
  rw [analyse_eq]
  have h_begin : D.Holds Analysis.begin :=
    D.bind (hD.changes _ fun _ => rfl) fun _ => hD.readContext fun _ _ => .pure _
  refine D.bind h_begin fun token => ?_
  exact D.bind (D.attempt h_search) fun r => conclude_holds hD token r

/-- **The notice of a new selection.** -/
theorem selectionChanged_holds (hD : D.Converses possible) (h_search : D.Holds Analysis.search) :
    D.Holds selectionChanged := by
  refine hD.read fun s _ => ?_
  split
  · exact .pure _
  · refine D.bind (post_holds hD.tells _) fun _ => ?_
    exact D.bind (analyse_holds hD h_search) fun _ => flush_holds hD.tells

/-! ### Authoring -/

theorem guarded_holds {α : Type} (hD : D.Converses possible) {p : Program Session α}
    (hp : D.Holds p) : D.Holds (Authoring.guarded p) := by
  refine hD.readContext fun s _ => D.bind (D.lift _) fun held => ?_
  refine D.bind (hD.changes _ fun _ => rfl) fun _ => D.bind (D.attempt hp) fun result => ?_
  exact D.bind (hD.changes _ fun _ => rfl) fun _ => D.lift _

/-- **Carrying out an interaction**, given what is done when its group has been looked up. -/
theorem carryOut_holds (hD : D.Converses possible) {i : Interaction}
    (h_proceed : ∀ group, D.Holds (Authoring.proceed i group)) :
    D.Holds (Authoring.carryOut i) := by
  rw [Authoring.carryOut_eq, Authoring.admission_eq]
  exact D.bind (hD.reads.read (fun s => Program.lift (s.admitted i)) fun _ _ => D.lift _) h_proceed

/-- **Authoring**, given that interactions are carried out in some way. -/
theorem author_holds (hD : D.Converses possible) {payload : Json}
    (h_proceed : ∀ i, Interaction.ofJson payload = .ok i →
      ∀ group, D.Holds (Authoring.proceed i group))
    (h_last : ∀ a, D.Holds (Program.modify fun s : Session => { s with lastAuthoring := some a })) :
    D.Holds (author payload) := by
  have h_run : D.Holds (Program.lift (Interaction.ofJson payload) >>= Authoring.run) := by
    cases h_reads : Interaction.ofJson payload with
    | error e => exact D.lift (.error e)
    | ok i => exact guarded_holds hD (carryOut_holds hD (h_proceed i h_reads))
  refine D.bind (D.attempt h_run) fun result => ?_
  cases result with
  | error e => exact report_holds hD.tells _ e
  | ok a => exact D.bind (h_last a) fun _ => post_holds hD.tells _

/-! ### Messages -/

/-- **Taking a message in**, given that its handler does its work in some way. -/
theorem receive_holds (hD : D.Converses possible) {inbound : Inbound}
    (h_serve : ∀ s s', possible s → possible s' → ∀ e handler,
      inbound.toEnvelope s.config.limits = .ok e → s'.handlers.find? e.type = some handler →
      D.Holds (serve e handler)) : D.Holds (receive inbound) := by
  refine hD.read fun s₀ _ => ?_
  split
  · exact D.log _ _ _
  · have h_config : D.Sees Session.config fun config => ∃ s, possible s ∧ s.config = config :=
      hD.config fun s hs => ⟨s, hs, rfl⟩
    refine h_config.readConfig ?_
    rintro _ ⟨s, hs, rfl⟩
    cases h_decodes : inbound.toEnvelope s.config.limits with
    | error e => exact D.lift (.error e)
    | ok e =>
      show D.Holds (Program.read >>= _)
      refine hD.read fun s' hs' => ?_
      split
      · exact D.log _ _ _
      · exact h_serve s s' hs hs' e _ h_decodes ‹_›

/-- **Cleaning up**, given that variables are swept in some way. -/
theorem cleanUp_holds (hD : D.Converses possible) (h_sweep : D.Holds Records.sweep) :
    D.Holds cleanUp :=
  D.bind h_sweep fun _ => post_holds hD.tells _

/-- **Purging**, given that records are forgotten in some way. -/
theorem purge_holds (hD : D.Converses possible)
    (h_purge : ∀ groups, D.Holds (Records.purgeAll groups)) : D.Holds purge := by
  refine hD.readContext fun s _ => ?_
  refine D.bind (D.bind (D.attempt (h_purge _)) fun result => ?_) fun _ => post_holds hD.tells _
  split
  · exact .pure _
  · exact D.log _ _ _

/-- **A handler**, given that the parts that ask the host are done in some way. -/
theorem serve_holds (hD : D.Converses possible) (h_search : D.Holds Analysis.search)
    {e : Envelope} (h_proceed : ∀ i, Interaction.ofJson e.data = .ok i →
      ∀ group, D.Holds (Authoring.proceed i group))
    (h_last : ∀ a, D.Holds (Program.modify fun s : Session => { s with lastAuthoring := some a }))
    (h_sweep : D.Holds Records.sweep) (h_purge : ∀ groups, D.Holds (Records.purgeAll groups))
    (h_end : D.Holds (Program.modify fun s : Session => { s with closed := true }))
    (h_close : D.Permits .close) (handler : Handler) : D.Holds (serve e handler) := by
  cases handler with
  | analyse => exact analyse_holds hD h_search
  | author => exact author_holds hD h_proceed h_last
  | listComponents => exact hD.readContext fun s _ => post_holds hD.tells _
  | sweep => exact cleanUp_holds hD h_sweep
  | purge => exact purge_holds hD h_purge
  | cancel => exact D.bind h_end fun _ => .ask h_close
  | forward type => exact post_holds hD.tells _
  | fail text => exact D.lift (.error (.raised text))

/-- **Handling a message**, given that its handler does its work in some way. -/
theorem dispatch_holds (hD : D.Converses possible) {inbound : Inbound}
    (h_serve : ∀ s s', possible s → possible s' → ∀ e handler,
      inbound.toEnvelope s.config.limits = .ok e → s'.handlers.find? e.type = some handler →
      D.Holds (serve e handler)) : D.Holds (dispatch inbound) := by
  refine D.bind (D.attempt (receive_holds hD h_serve)) fun result => ?_
  cases result with
  | error e => exact D.bind (report_holds hD.tells _ e) fun _ => flush_holds hD.tells
  | ok u => exact flush_holds hD.tells

end Session

/-! ### Entry points -/

namespace Entry

/-- **The handler of a message** under a configuration, if it has one. -/
def handler? (config : Config) (handlers : Registry String Handler) : Entry → Option Handler
  | notice => none
  | message inbound =>
    match inbound.toEnvelope config.limits with
    | .error _ => none
    | .ok e => handlers.find? e.type

variable {config : Config} {handlers : Registry String Handler}

/-- **An entry point**, given that its handler or an analysis does its work in some way. -/
theorem holds (hD : D.Converses fun s => s.config = config ∧ s.handlers = handlers) {entry : Entry}
    (h_notice : entry = .notice → D.Holds Analysis.search)
    (h_serve : ∀ e handler, entry.handler? config handlers = some handler →
      D.Holds (Session.serve e handler)) : D.Holds entry.program := by
  cases entry with
  | notice => exact Session.selectionChanged_holds hD (h_notice rfl)
  | message inbound =>
    refine Session.dispatch_holds hD fun s s' hs hs' e handler h_decodes h_found => ?_
    refine h_serve e handler ?_
    rw [hs.1] at h_decodes
    rw [hs'.2] at h_found
    simp only [handler?, h_decodes, h_found]

end Entry

end Clickwork
