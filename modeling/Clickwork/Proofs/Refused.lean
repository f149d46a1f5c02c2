import Clickwork.Proofs.Effects
import Clickwork.Proofs.Latest
import Clickwork.Proofs.SingleFlight
import Clickwork.Proofs.Targets
import Clickwork.Proofs.Unblocked

/-!
# Refusals change nothing

A payload that holds no interaction, a guard that is taken, a group that is not known, a primary
action that is no setting, a selection that cannot be analysed: each is a refusal, and nothing has
been changed by then (`Session.undisturbed_by_refusals`).

Two things make it so. What comes before the last check only looks: it asks the host for what it
tells anyway and leaves the memory alone (`Program.eval_looking`). And what comes after it does not
refuse: from there on a program can only fail late (`Failure.isLate`), with what the host refuses or
with a value that is out of place. The second is a property of the program alone, as
`Program.FailsWith` says which failures it can end with, whatever the host answers and whatever is
in the memory.
-/

namespace Clickwork

open Program

/-! ### Early and late failures -/

/-- **The failures that refuse a payload, an interaction or a selection.** -/
def Failure.refuses : Failure → Bool
  | .protocol _ | .selection _ | .busy | .unknownGroup _ => true
  | _ => false

/-- **The failures of what has been let in.** -/
def Failure.isLate : Failure → Bool
  | .host _ | .numeral _ | .overrun _ | .lengthMismatch .. | .pastTable _ | .pastList => true
  | _ => false

/-- What fails late is no refusal. -/
theorem Failure.refuses_of_isLate {e : Failure} (h_late : e.isLate = true) : e.refuses = false := by
  cases e <;> first | rfl | cases h_late

namespace Host

theorem change_error {h : Host} {result : Except Failure Scene} {e : Failure}
    (h_error : (h.change result).1 = .error e) : result = .error e := by
  cases result with
  | error => exact congrArg Except.error (Except.error.inj h_error)
  | ok => cases h_error

theorem store_error {h : Host} {f : Storage} {e : Failure}
    (h_error : (h.store (h.storage.whenAvailable f)).1 = .error e) : ∃ fault, e = .host fault := by
  unfold Storage.whenAvailable at h_error
  split at h_error <;> cases h_error
  exact ⟨_, rfl⟩

/-- **A host refuses with a failure of its own.** -/
theorem answer_error {h : Host} {c : Call} {e : Failure} (h_error : (h.answer c).1 = .error e) :
    ∃ fault, e = .host fault := by
  -- every branch that refuses names a fault of the host
  cases c with
  | selection | node | mainComponent | allReactions | close | collections | createCollection
  | listVariables => cases h_error
  | instanceProperties id =>
    simp only [answer, Scene.instanceProperties] at h_error
    split at h_error <;> cases h_error
    exact ⟨_, rfl⟩
  | setReactions id reactions =>
    replace h_error := change_error h_error
    unfold Scene.setReactions at h_error
    split at h_error
    · cases h_error
      exact ⟨_, rfl⟩
    · split at h_error <;> cases h_error
      exact ⟨_, rfl⟩
  | createVariable name collection type =>
    simp only [answer, Scene.createVariable] at h_error
    split at h_error
    · cases h_error
    · rename_i h_refused
      split at h_refused <;> cases h_refused
      cases h_error
      exact ⟨_, rfl⟩
  | setValue id value =>
    replace h_error := change_error h_error
    unfold Scene.setValue at h_error
    split at h_error <;> cases h_error
    exact ⟨_, rfl⟩
  | bindProperty id property target =>
    replace h_error := change_error h_error
    unfold Scene.bindProperty at h_error
    split at h_error
    · cases h_error
      exact ⟨_, rfl⟩
    · split at h_error
      · cases h_error
        exact ⟨_, rfl⟩
      · split at h_error <;> cases h_error
        exact ⟨_, rfl⟩
  | removeVariable id =>
    replace h_error := change_error h_error
    unfold Scene.removeVariable at h_error
    split at h_error <;> cases h_error
    exact ⟨_, rfl⟩
  | storageGet key =>
    simp only [answer, Storage.get, Storage.whenAvailable] at h_error
    split at h_error <;> cases h_error
    exact ⟨_, rfl⟩
  | storageSet | storageDelete => exact store_error h_error

theorem perform_error {h : Host} {c : Call} {e : Failure} (h_error : (h.perform c).1 = .error e) :
    ∃ fault, e = .host fault := by
  unfold perform at h_error
  split at h_error
  · exact answer_error h_error
  · dsimp only at h_error
    split at h_error
    · -- a failure by arrangement is the host's as well
      cases h_error
      exact ⟨_, rfl⟩
    · exact answer_error h_error

end Host

namespace Program

variable {σ α β : Type} {E : Failure → Prop}

/-! ### What a program can fail with -/

/-- **The failures a program can end with.** A call is refused by the host; a walk may also be one
that nothing ends. -/
def FailsWith (E : Failure → Prop) : Program σ α → Prop
  | pure _ => True
  | throw e => E e
  | get k => ∀ s, (k s).FailsWith E
  | set _ rest => rest.FailsWith E
  | emit _ rest => rest.FailsWith E
  | call _ k => (∀ a, (k (.ok a)).FailsWith E) ∧ ∀ fault, (k (.error (.host fault))).FailsWith E
  | walk _ _ k => (∀ ids, (k (.ok ids)).FailsWith E) ∧
      (∀ fault, (k (.error (.host fault))).FailsWith E) ∧ (k (.error .endless)).FailsWith E

theorem explore_error {visits : Nat} {pending : List String} {found : Array String}
    {m : Machine σ} {e : Failure} (h_error : (explore visits pending found m).1 = .error e) :
    e = .endless ∨ ∃ fault, e = .host fault := by
  induction visits generalizing pending found m with
  | zero =>
    cases pending with
    | nil => cases h_error
    | cons => exact .inl (Except.error.inj h_error).symm
  | succ visits ih =>
    cases pending with
    | nil => cases h_error
    | cons id pending =>
      simp only [explore] at h_error
      split at h_error
      · rename_i e' m' h_perform
        obtain rfl := Except.error.inj h_error
        exact .inr (Host.perform_error (h := m.host) (congrArg Prod.fst h_perform))
      · exact ih h_error

/-- **A program fails with nothing else**, however it is run. -/
theorem FailsWith.of_eval {p : Program σ α} (hp : p.FailsWith E) {m : Machine σ} {e : Failure}
    (h_error : (p.eval m).1 = .error e) : E e := by
  induction p generalizing m with
  | pure a => cases h_error
  | throw e' => exact Except.error.inj h_error ▸ hp
  | get k ih => exact ih _ (hp _) h_error
  | set s rest ih => exact ih hp h_error
  | emit e rest ih => exact ih hp h_error
  | call c k ih =>
    cases h_answer : (m.perform c).1 with
    | ok a => exact ih _ (h_answer ▸ hp.1 a) h_error
    | error e' =>
      -- no answer but those that `FailsWith` goes through
      obtain ⟨fault, rfl⟩ := Host.perform_error (h := m.host) h_answer
      exact ih _ (h_answer ▸ hp.2 fault) h_error
  | walk pending found k ih =>
    cases h_answer : (explore (m.visitBound .never pending.length) pending found m).1 with
    | ok ids => exact ih _ (h_answer ▸ hp.1 ids) h_error
    | error e' =>
      obtain rfl | ⟨fault, rfl⟩ := explore_error h_answer
      · exact ih _ (h_answer ▸ hp.2.2) h_error
      · exact ih _ (h_answer ▸ hp.2.1 fault) h_error

namespace FailsWith

theorem pure (a : α) : (Pure.pure a : Program σ α).FailsWith E :=
  trivial

theorem lift {r : Except Failure α} (hr : ∀ e, r = .error e → E e) :
    (lift r : Program σ α).FailsWith E := by
  cases r with
  | ok => trivial
  | error e => exact hr e rfl

theorem bind {p : Program σ α} {f : α → Program σ β} (hp : p.FailsWith E)
    (hf : ∀ a, (f a).FailsWith E) : (p >>= f).FailsWith E := by
  change (p.bind f).FailsWith E
  induction p with
  | pure a => exact hf a
  | throw e => exact hp
  | get k ih => exact fun s => ih s (hp s)
  | set s rest ih => exact ih hp
  | emit e rest ih => exact ih hp
  | call c k ih => exact ⟨fun a => ih _ (hp.1 a), fun fault => ih _ (hp.2 fault)⟩
  | walk pending found k ih =>
    exact ⟨fun ids => ih _ (hp.1 ids), fun fault => ih _ (hp.2.1 fault), ih _ hp.2.2⟩

theorem map (f : α → β) {p : Program σ α} (hp : p.FailsWith E) : (f <$> p).FailsWith E :=
  hp.bind fun _ => pure _

/-- An attempt does not fail. -/
theorem attempt (p : Program σ α) : p.attempt.FailsWith E := by
  induction p with
  | pure | throw => trivial
  | get k ih => exact ih
  | set s rest ih => exact ih
  | emit e rest ih => exact ih
  | call c k ih => exact ⟨fun _ => ih _, fun _ => ih _⟩
  | walk pending found k ih => exact ⟨fun _ => ih _, fun _ => ih _, ih _⟩

theorem read : (read : Program σ σ).FailsWith E :=
  fun _ => trivial

theorem modify (f : σ → σ) : (modify f).FailsWith E :=
  fun _ => trivial

theorem log (level : Level) (text : String) (cause : Option Failure) :
    (log level text cause : Program σ Unit).FailsWith E :=
  trivial

theorem tryAsk (c : Call) : (tryAsk c : Program σ _).FailsWith E :=
  ⟨fun _ => trivial, fun _ => trivial⟩

theorem ask (hE : ∀ fault, E (.host fault)) (c : Call) : (ask c : Program σ _).FailsWith E :=
  ⟨fun _ => trivial, hE⟩

theorem forM {f : α → Program σ Unit} (xs : List α) (hf : ∀ x, (f x).FailsWith E) :
    (xs.forM f).FailsWith E := by
  induction xs with
  | nil => exact pure ()
  | cons x xs ih => exact (hf x).bind fun _ => ih

theorem mapM {f : α → Program σ β} (xs : List α) (hf : ∀ x, (f x).FailsWith E) :
    (xs.mapM f).FailsWith E := by
  induction xs with
  | nil => exact pure []
  | cons x xs ih =>
    rw [List.mapM_cons]
    exact (hf x).bind fun _ => ih.bind fun _ => pure _

theorem foldlM {f : β → α → Program σ β} (xs : List α) (b : β) (hf : ∀ b x, (f b x).FailsWith E) :
    (xs.foldlM f b).FailsWith E := by
  induction xs generalizing b with
  | nil => exact pure b
  | cons x xs ih =>
    rw [List.foldlM_cons]
    exact (hf b x).bind ih

end FailsWith

/-- **Failing late**, if at all. -/
abbrev Late (p : Program σ α) : Prop :=
  p.FailsWith fun e => e.isLate = true

theorem Late.ask (c : Call) : (ask c : Program σ _).Late :=
  FailsWith.ask (fun _ => rfl) c

end Program

/-! ### What looks, and what is let in -/

namespace Discovery

variable {σ : Type}

theorem groups_late (ids : List String) : (groups ids : Program σ _).Late := by
  refine FailsWith.bind (.foldlM _ _ fun groups id => ?_) fun _ => .pure _
  refine FailsWith.bind (Late.ask _) fun component => ?_
  rcases component with _ | ⟨_, _, _ | set⟩
  · exact FailsWith.bind (.log _ _ _) fun _ => .pure _
  · exact FailsWith.bind (Late.ask _) fun _ => .pure _
  · exact FailsWith.bind (Late.ask _) fun _ => FailsWith.bind (Late.ask _) fun _ => .pure _

end Discovery

theorem Resolution.property_late {σ : Type} (candidate : String) (instances : List Instance) :
    (property candidate instances : Program σ _).Late := by
  have h_among : ∀ instances found asked,
      (propertyAmong candidate found asked instances : Program σ _).Late := by
    intro instances
    induction instances with
    | nil => exact fun _ _ => .pure _
    | cons i rest ih =>
      intro found asked
      refine FailsWith.bind (Late.ask _) fun component => ?_
      repeat' split
      all_goals first | exact ih _ _ | exact .pure _
  unfold property
  split
  · exact .pure _
  · exact h_among _ _ _

/-- An index past a table is all that effects fail with. -/
theorem TargetTable.isLate_of_effects {t : TargetTable} {index : Int} {e : Failure}
    (h_error : t.effects index = .error e) : e.isLate = true := by
  unfold effects at h_error
  split at h_error
  · cases h_error
    rfl
  · split at h_error <;> cases h_error
    rfl

theorem TargetTable.isLate_of_compile {rules : List Rule} {primary : Setting}
    {captured shown : List String} {resetToken : String} {e : Failure}
    (h_error : compile rules primary captured shown resetToken = .error e) : e.isLate = true := by
  unfold compile at h_error
  split at h_error <;> cases h_error
  rfl

namespace Reaction

theorem isLate_of_assignments {slots : List Slot} {effects : List (Int × String)} {e : Failure}
    (h_error : assignments slots effects = .error e) : e.isLate = true := by
  induction effects with
  | nil => cases h_error
  | cons effect effects ih =>
    simp only [assignments] at h_error
    split at h_error
    · cases h_error
      rfl
    · cases h_rest : assignments slots effects with
      | error e' =>
        rw [h_rest] at h_error
        obtain rfl := Except.error.inj h_error
        exact ih h_rest
      | ok others =>
        rw [h_rest] at h_error
        cases h_error

theorem isLate_of_ofTable {table : TargetTable} {slots : List Slot} {i : Nat} {e : Failure}
    (h_error : ofTable table slots i = .error e) : e.isLate = true := by
  unfold ofTable at h_error
  cases h_effects : table.effects i with
  | error e' =>
    rw [h_effects] at h_error
    obtain rfl := Except.error.inj h_error
    exact TargetTable.isLate_of_effects h_effects
  | ok effects =>
    rw [h_effects] at h_error
    cases h_assigned : assignments slots effects with
    | error e' =>
      replace h_error : (assignments slots effects).map _ = .error e := h_error
      rw [h_assigned] at h_error
      obtain rfl := Except.error.inj h_error
      exact isLate_of_assignments h_assigned
    | ok actions =>
      replace h_error : (assignments slots effects).map _ = .error e := h_error
      rw [h_assigned] at h_error
      cases h_error

theorem isLate_of_build {table : Option TargetTable} {slots : Option (List Slot)} {count : Nat}
    {e : Failure} (h_error : build table slots count = .error e) : e.isLate = true := by
  unfold build at h_error
  split at h_error
  · split at h_error
    · cases h_error
    · obtain ⟨i, -, h_error⟩ := Except.mapM_error h_error
      exact isLate_of_ofTable h_error
  · cases h_error

end Reaction

namespace Wiring

variable {σ : Type}

theorem ensureCollection_late (name : String) : (ensureCollection name : Program σ _).Late := by
  refine FailsWith.bind (Late.ask _) fun collections => ?_
  split
  · exact .pure _
  · exact Late.ask _

theorem createMarkers_late (collection : String) (i : Interaction) :
    (createMarkers collection i : Program σ _).Late :=
  .mapM _ fun _ => FailsWith.bind (Late.ask _) fun _ => FailsWith.bind (Late.ask _) fun _ =>
    .pure _

theorem readValue_late (property : String) (i : Instance) :
    (readValue property i : Program σ _).Late := by
  refine FailsWith.bind (.tryAsk _) fun answer => ?_
  split
  · exact FailsWith.bind (.log _ _ _) fun _ => .pure _
  · split <;> exact .pure _

theorem fillSlot_late (plan : Plan) (captured : List String) (entry : Instance × Nat) :
    (fillSlot plan captured entry : Program σ _).Late := by
  refine FailsWith.bind (.attempt _) fun result => ?_
  cases result with
  | error e => exact FailsWith.bind (.log _ _ _) fun _ => .pure _
  | ok id =>
    refine FailsWith.bind (.tryAsk _) fun answer => ?_
    split
    · exact .pure _
    · exact FailsWith.bind (.log _ _ _) fun _ => .pure _

theorem prepare_late (collection : String) (i : Interaction) (g : Group) (config : Config)
    (primary : Setting) (property : String) :
    (prepare collection i g config primary property : Program σ _).Late := by
  refine FailsWith.bind (.mapM _ fun _ => readValue_late _ _) fun captured => ?_
  refine FailsWith.bind (.mapM _ fun _ => fillSlot_late _ _ _) fun slots => ?_
  refine FailsWith.bind (.mapM _ fun _ => readValue_late _ _) fun shown => ?_
  exact FailsWith.bind (.lift fun _ => TargetTable.isLate_of_compile) fun _ => .pure _

theorem install_late (instances : List Instance) (reactions : List Reaction) :
    (install instances reactions : Program σ _).Late := by
  refine FailsWith.bind (.forM _ fun entry => FailsWith.bind (.tryAsk _) fun answer => ?_)
    fun _ => FailsWith.bind (.mapM _ fun entry => FailsWith.bind (.tryAsk _) fun answer => ?_)
      fun _ => .pure _
  · split
    · exact .pure _
    · exact .log _ _ _
  · split
    · exact .pure _
    · exact FailsWith.bind (.log _ _ _) fun _ => .pure _

theorem apply_late (collection : String) (i : Interaction) (g : Group) (config : Config) :
    (apply collection i g config : Program σ _).Late := by
  have h_complete (property : Option String) (prepared : Option (TargetTable × List Slot)) :
      (complete i g property prepared : Program σ _).Late :=
    FailsWith.bind (.lift fun _ => Reaction.isLate_of_build) fun _ =>
      FailsWith.bind (install_late _ _) fun _ => .pure _
  rw [apply_eq_complete]
  cases Setting.parse? i.primaryAction with
  | none =>
    exact FailsWith.bind (.pure _) fun _ => FailsWith.bind (.log _ _ _) fun _ => h_complete _ _
  | some primary =>
    refine FailsWith.bind (Resolution.property_late _ _) fun property => ?_
    cases property with
    | none => exact FailsWith.bind (.log _ _ _) fun _ => h_complete _ _
    | some property =>
      exact FailsWith.bind (.map _ (prepare_late _ _ _ _ _ _)) fun _ => h_complete _ _

end Wiring

theorem Session.readConfig_late : readConfig.Late :=
  FailsWith.bind .read fun _ => .pure _

namespace Records

theorem drop_late (group : String) : (drop group).Late := by
  refine FailsWith.bind (.modify _) fun _ => FailsWith.bind Session.readConfig_late fun _ =>
    FailsWith.bind (.tryAsk _) fun answer => ?_
  split
  · exact .pure _
  · exact .log _ _ _

theorem filterBy_late {α : Type} {step : α → Program Session Bool} (xs : List α)
    (h_step : ∀ a, (step a).Late) : (filterBy step xs).Late := by
  induction xs with
  | nil => exact .pure _
  | cons x xs ih => exact (h_step x).bind fun _ => ih.bind fun _ => .pure _

theorem remove_late (display : String → String) (v : VariableInfo) : (remove display v).Late := by
  refine FailsWith.bind (.tryAsk _) fun answer => ?_
  split
  · exact .pure _
  · exact FailsWith.bind (.log _ _ _) fun _ => .pure _

theorem detach_late (removed : List String) : (detach removed).Late := by
  refine FailsWith.bind (Late.ask _) fun reactions => .forM _ fun entry => ?_
  unfold detachNode
  dsimp only
  split
  · refine FailsWith.bind (.tryAsk _) fun answer => ?_
    split
    · exact .pure _
    · exact .log _ _ _
  · exact .pure _

theorem collection?_late : collection?.Late :=
  FailsWith.bind Session.readConfig_late fun _ => FailsWith.bind (Late.ask _) fun _ => .pure _

theorem retire_late (interaction : String) : (retire interaction).Late := by
  have h_dropped : (dropNested interaction).Late :=
    FailsWith.bind .read fun _ => .forM _ drop_late
  refine h_dropped.bind fun _ => collection?_late.bind fun collection => ?_
  split
  · exact .pure _
  · refine FailsWith.bind (Late.ask _) fun managed => ?_
    refine FailsWith.bind (filterBy_late _ fun _ => remove_late _ _) fun removed => ?_
    dsimp only
    split
    · exact .pure _
    · exact FailsWith.bind (detach_late _) fun _ => .pure _

/-- What a stored text is not discarded for. -/
theorem isLate_of_parse {limits : Json.Limits} {text : String} {e : Failure}
    (h_error : parse limits text = .error e) (h_kept : discards e = false) : e.isLate = true := by
  unfold parse at h_error
  split at h_error
  · cases h_error
    cases h_kept
  · cases h_error
    rfl
  · -- what is no interaction is discarded, unless a rule's number is the reason
    obtain ⟨fault, rfl⟩ | ⟨⟨fault, rfl⟩, -⟩ := Interaction.error_of_ofJson h_error
    · cases h_kept
    · rfl

theorem get_late (group : String) : (get group).Late := by
  have h_stored : (stored? group).Late := by
    refine FailsWith.bind Session.readConfig_late fun _ => FailsWith.bind (.tryAsk _)
      fun answer => ?_
    split
    · exact .pure _
    · exact FailsWith.bind (.log _ _ _) fun _ => .pure _
  refine FailsWith.bind .read fun s => ?_
  split
  · exact .pure _
  · refine h_stored.bind fun text => ?_
    split
    · exact .pure _
    · refine FailsWith.bind Session.readConfig_late fun config => ?_
      split
      · exact FailsWith.bind (.modify _) fun _ => .pure _
      · rename_i e h_parse
        split
        · exact FailsWith.bind (.log _ _ _) fun _ => .pure _
        · rename_i h_kept
          refine .lift fun e' h_error => ?_
          obtain rfl := Except.error.inj h_error
          exact isLate_of_parse h_parse (Bool.not_eq_true _ ▸ h_kept)

theorem existing_late (groups : List String) : (existing groups).Late := by
  refine .foldlM _ _ fun found group => (get_late group).bind fun record => ?_
  split <;> exact .pure _

theorem put_late (i : Interaction) : (put i).Late := by
  have h_store : (store i).Late := by
    refine FailsWith.bind (.modify _) fun _ => FailsWith.bind Session.readConfig_late fun _ =>
      FailsWith.bind (.tryAsk _) fun answer => ?_
    split
    · exact .pure _
    · exact .log _ _ _
  have h_record : (record i).Late := (retire_late i.id).bind fun _ => h_store
  refine (get_late i.group).bind fun previous => ?_
  cases previous with
  | none => exact h_record
  | some previous =>
    dsimp only
    split
    · exact (retire_late _).bind fun _ => FailsWith.bind (.log _ _ _) fun _ => h_record
    · exact h_record

end Records

namespace Authoring

theorem wire_late (collection : String) (i : Interaction) (g : Group) :
    (wire collection i g).Late :=
  (Records.put_late i).bind fun _ => (Wiring.createMarkers_late collection i).bind fun _ =>
    Session.readConfig_late.bind fun _ => Wiring.apply_late _ _ _ _

theorem wireNested_late (collection : String) (i : Interaction) (g : Group)
    (action : NestedAction) : (wireNested collection i g action).Late := by
  refine FailsWith.bind (FailsWith.bind .read fun _ => .pure _) fun context => ?_
  split
  · exact FailsWith.bind (.log _ _ _) fun _ => .pure _
  · split
    · exact FailsWith.bind (.log _ _ _) fun _ => .pure _
    · exact .map _ (wire_late _ _ _)

/-- **What is left of carrying out an interaction** when its group has been looked up refuses
nothing. -/
theorem proceed_late (i : Interaction) (group : Group) : (proceed i group).Late := by
  refine Session.readConfig_late.bind fun _ => (Wiring.ensureCollection_late _).bind
    fun collection => ?_
  exact (wire_late _ _ _).bind fun _ =>
    FailsWith.bind (.mapM _ fun _ => wireNested_late _ _ _ _) fun _ => .pure _

end Authoring

/-! ### Looking -/

/-- **Only looking**: asking the host for what it tells without a change, and leaving the memory
alone. -/
def Policy.looking {σ : Type} : Policy σ where
  events e := ∀ c, e = .called c → c.method.mutates = false
  walks := True
  changes s s' := s' = s
  visits _ _ := by
    rintro c ⟨⟩
    rfl
  refl _ := rfl
  trans h h' := h'.trans h

/-- Only looking as a discipline. -/
def Discipline.looking (σ : Type) : Discipline σ :=
  Policy.looking.discipline fun _ _ _ _ h => nomatch h

theorem Discipline.permits_looking {σ : Type} {c : Call} (hc : c.method.mutates = false) :
    (looking σ).Permits c :=
  Obeys.tryAsk (P := .looking) fun c' h_call => by
    obtain rfl := Event.called.inj h_call
    exact hc

namespace Host

/-- A query changes nothing of the storage. -/
theorem storage_perform_query (h : Host) {c : Call} (hc : c.method.mutates = false) :
    (h.perform c).2.storage = h.storage := by
  obtain h_same | ⟨key, text, rfl, -⟩ | ⟨key, rfl, -⟩ := h.storage_perform c
  · exact h_same
  · cases hc
  · cases hc

/-- The same scene and the same storage. -/
def Same (h h' : Host) : Prop :=
  h'.scene = h.scene ∧ h'.storage = h.storage

theorem Same.trans {h h' h'' : Host} (h₁ : h.Same h') (h₂ : h'.Same h'') : h.Same h'' :=
  ⟨h₂.1.trans h₁.1, h₂.2.trans h₁.2⟩

theorem same_perform (h : Host) {c : Call} (hc : c.method.mutates = false) :
    h.Same (h.perform c).2 :=
  ⟨h.scene_perform_query hc, h.storage_perform_query hc⟩

end Host

/-- **Only looking changes nothing of the host.** -/
theorem Program.eval_looking {σ α : Type} (p : Program σ α) {m : Machine σ}
    (hp : p.ObeysFrom .looking m.memory) : m.host.Same (p.eval m).2.host := by
  have h_node (h : Host) (id : String) : h.Same (h.perform (.node id)).2 := h.same_perform rfl
  induction p generalizing m with
  | pure | throw => exact ⟨rfl, rfl⟩
  | get k ih => exact ih _ hp
  | set s rest ih => exact ih (m := { m with memory := s }) hp.2
  | emit e rest ih => exact ih (m := m.emit e) hp.2
  | call c k ih =>
    exact (m.host.same_perform (hp.1 c rfl)).trans (ih _ (m := (m.perform c).2) (hp.2 _ _))
  | walk pending found k ih =>
    -- a walk asks for nodes and for nothing else
    have h_walk : m.host.Same
        (explore (m.visitBound .never pending.length) pending found m).2.host :=
      explore_host_induction (I := m.host.Same) (fun h id h_same => h_same.trans (h_node h id))
        _ _ _ ⟨rfl, rfl⟩
    exact h_walk.trans (ih _ (hp.2 _ _))

/-! ### Nothing is changed -/

/-- **What a refusal leaves as it was**: the scene, with its variables and collections, the storage,
the records and the groups of the session. No call was made that could change the host. -/
structure Machine.Undisturbed (m m' : Machine Session) : Prop where
  scene : m'.host.scene = m.host.scene
  storage : m'.host.storage = m.host.storage
  records : m'.memory.records = m.memory.records
  groups : m'.memory.context.groups = m.memory.context.groups
  calls : ∃ new : List Event, m'.events.toList = m.events.toList ++ new ∧
    ∀ c, .called c ∈ new → c.method.mutates = false

namespace Machine.Undisturbed

variable {m m' m'' : Machine Session}

theorem trans (h : m.Undisturbed m') (h' : m'.Undisturbed m'') : m.Undisturbed m'' := by
  obtain ⟨new, h_new, h_calls⟩ := h.calls
  obtain ⟨new', h_new', h_calls'⟩ := h'.calls
  refine ⟨h'.scene.trans h.scene, h'.storage.trans h.storage, h'.records.trans h.records,
    h'.groups.trans h.groups, new ++ new', ?_, fun c h_mem => ?_⟩
  · rw [h_new', h_new, List.append_assoc]
  · exact (List.mem_append.mp h_mem).elim (h_calls c) (h_calls' c)

/-- A change of the memory that concerns neither records nor groups. -/
theorem set (m : Machine Session) {s : Session} (h_records : s.records = m.memory.records)
    (h_groups : s.context.groups = m.memory.context.groups) :
    m.Undisturbed { m with memory := s } :=
  ⟨rfl, rfl, h_records, h_groups, [], by simp, by simp⟩

theorem log (m : Machine Session) (level : Level) (text : String) (cause : Option Failure) :
    m.Undisturbed (m.emit (.log level text cause)) :=
  ⟨rfl, rfl, rfl, rfl, [.log level text cause], by simp [Machine.emit], by simp⟩

/-- What waits may be sent. -/
theorem flushed (m : Machine Session) : m.Undisturbed m.flushed := by
  refine ⟨rfl, rfl, rfl, rfl, m.memory.outbox.deliveries.map fun d => .sent d.1 d.2, ?_, ?_⟩
  · simp [Machine.flushed]
  · simp

theorem reported (m : Machine Session) (context : String) (e : Failure) :
    m.Undisturbed (m.reported context e) :=
  (log m .error s!"{context}: {e.message}" (some e)).trans (set _ rfl rfl)

/-- **A program that only looks** leaves everything as it was. -/
theorem looking {α : Type} {p : Program Session α} (hp : p.Obeys .looking) (m : Machine Session) :
    m.Undisturbed (p.eval m).2 := by
  obtain ⟨h_scene, h_storage⟩ := p.eval_looking (hp m.memory)
  obtain ⟨h_memory, new, h_new, h_looks⟩ : Policy.looking.Leads m (p.eval m).2 := by
    have h_leads := (run_obeys p .never (hp m.memory)).1
    rwa [run_never] at h_leads
  have h_same : (p.eval m).2.memory = m.memory := h_memory
  exact ⟨h_scene, h_storage, by rw [h_same], by rw [h_same], new, h_new,
    fun c h_mem => h_looks _ h_mem c rfl⟩

end Machine.Undisturbed

namespace Analysis

/-- **The part of an analysis that checks the selection**: the selected instance, and the instances
nested in it. -/
def select : Program Session (NodeInfo × List String) := do
  let selected ← selectedInstance
  let nested ← Discovery.nestedInstances selected.id
  if nested.isEmpty then Program.lift (.error (.selection .nothingNested))
  return (selected, nested)

/-- The part of a search that comes after the checks. -/
def gather (selected : NodeInfo) (nested : List String) : Program Session Found := do
  let groups ← Discovery.groups nested
  let config ← Session.readConfig
  let _ ← Wiring.ensureCollection config.collection
  let existing ← Records.existing (groups.map (·.id))
  return { selectedName := selected.name, groups, existing }

theorem search_eq : search = (do
    let (selected, nested) ← select
    gather selected nested) := by
  unfold search select gather
  simp only [LawfulMonad.bind_assoc]
  refine congrArg _ (funext fun selected => congrArg _ (funext fun nested => ?_))
  split
  · rfl
  · simp only [LawfulMonad.pure_bind]

theorem selectedInstance_obeys : selectedInstance.Obeys .looking := by
  have h_query {c : Call} (hc : c.method.mutates = false) :
      (Discipline.looking Session).Permits c :=
    Discipline.permits_looking hc
  refine Discipline.bind (.looking Session) (.ask (h_query rfl)) fun selection => ?_
  split
  · refine Discipline.bind _ (.ask (h_query (c := .node _) rfl)) fun node => ?_
    split
    · split
      · exact .pure _
      · exact Discipline.lift _ _
    · exact Discipline.lift _ _
  · exact Discipline.lift _ _

/-- **Checking the selection** only looks. -/
theorem select_obeys : select.Obeys .looking := by
  have h_nested (id : String) : (Discipline.looking Session).Holds (Discovery.nestedInstances id) :=
    Discovery.nestedInstances_holds (fun _ => Discipline.permits_looking rfl)
      (fun ids => Obeys.instancesBelow trivial ids) id
  refine Obeys.bind selectedInstance_obeys fun selected => Obeys.bind (h_nested _) fun nested => ?_
  split
  · exact Obeys.bind (.lift _) fun _ => .pure _
  · exact .pure _

theorem gather_late (selected : NodeInfo) (nested : List String) : (gather selected nested).Late :=
  (Discovery.groups_late _).bind fun _ => Session.readConfig_late.bind fun _ =>
    (Wiring.ensureCollection_late _).bind fun _ => (Records.existing_late _).bind fun _ => .pure _

end Analysis

/-- **A failure that the second part cannot end with** is one of the first part, which is then all
that was run. -/
theorem Program.eval_bind_of_error {σ α β : Type} {E : Failure → Prop} {p : Program σ α}
    {f : α → Program σ β} {m : Machine σ} {e : Failure} (h_error : ((p >>= f).eval m).1 = .error e)
    (hf : ∀ a, (f a).FailsWith E) (h_other : ¬E e) : ((p >>= f).eval m).2 = (p.eval m).2 := by
  change ((p.bind f).eval m).1 = _ at h_error
  change ((p.bind f).eval m).2 = _
  rw [eval_bind] at h_error ⊢
  generalize p.eval m = r at h_error ⊢
  obtain ⟨e' | a, m'⟩ := r
  · rfl
  · exact absurd ((hf a).of_eval h_error) h_other

namespace Analysis

/-- What comes after the checks of an analysis refuses nothing. -/
theorem conclude_late (token : Int) (selected : NodeInfo) (nested : List String) :
    (do
      let found ← gather selected nested
      let current ← commit token found.selectedName found.groups
      return found.analysis current : Program Session Analysis).Late := by
  refine (gather_late selected nested).bind fun found => FailsWith.bind ?_ fun _ => .pure _
  refine FailsWith.bind (FailsWith.bind .read fun _ => .pure _) fun context => ?_
  split
  · exact FailsWith.bind (.modify _) fun _ => .pure _
  · exact FailsWith.bind (.log _ _ _) fun _ => .pure _

/-- **A selection that is refused** is refused before anything is done. -/
theorem undisturbed_of_refused {m : Machine Session} {token : Int} {fault : SelectionFault}
    (h_error : ((run token).eval m).1 = .error (.selection fault)) :
    m.Undisturbed ((run token).eval m).2 := by
  have h_eq : run token = (do
      let (selected, nested) ← select
      let found ← gather selected nested
      let current ← commit token found.selectedName found.groups
      return found.analysis current) := by
    rw [run_eq_search, search_eq, LawfulMonad.bind_assoc]
  rw [h_eq] at h_error ⊢
  rw [eval_bind_of_error h_error (fun _ => conclude_late token _ _) nofun]
  exact .looking select_obeys m

end Analysis

namespace Authoring

variable {m : Machine Session} {i : Interaction}

theorem admission_obeys (i : Interaction) : (admission i).Obeys .looking := by
  rw [admission_eq]
  exact Obeys.bind .read fun _ => .lift _

/-- **Carrying out an interaction that is refused** has only looked. -/
theorem undisturbed_of_carryOut {e : Failure} (h_error : ((carryOut i).eval m).1 = .error e)
    (h_refuses : e.refuses = true) : m.Undisturbed ((carryOut i).eval m).2 := by
  have h_early : ¬e.isLate = true := fun h_late => by
    rw [Failure.refuses_of_isLate h_late] at h_refuses
    cases h_refuses
  rw [carryOut_eq] at h_error ⊢
  -- what follows the admission could not have refused, so that was all
  rw [eval_bind_of_error h_error (proceed_late i) h_early]
  exact .looking (admission_obeys i) m

theorem eval_run_of_busy (h_busy : m.memory.context.busy = true) :
    (run i).eval m = (.error .busy, m) := by
  change ((Program.lift m.memory.context.acquire).bind fun held => _).eval m = _
  rw [Context.acquire, if_pos h_busy]
  rfl

/-- **With the guard free** an interaction is carried out, and the guard is given back. -/
theorem eval_run_of_free (h_free : m.memory.context.busy = false) :
    (run i).eval m =
      let (result, m') := (carryOut i).eval { m with memory := m.memory.enter }
      (result, { m' with
        memory := { m'.memory with context := m'.memory.context.release } }) := by
  change ((Program.lift m.memory.context.acquire).bind fun held => _).eval m = _
  rw [Context.acquire, if_neg (by rw [h_free]; exact Bool.false_ne_true)]
  change ((carryOut i).attempt.bind fun result => _).eval { m with memory := m.memory.enter } = _
  rw [eval_attempt_bind]
  obtain ⟨_ | _, m'⟩ := (carryOut i).eval { m with memory := m.memory.enter } <;> rfl

/-- **An interaction that is refused** is refused before anything is done. -/
theorem undisturbed_of_refused {e : Failure} (h_error : ((run i).eval m).1 = .error e)
    (h_refuses : e.refuses = true) : m.Undisturbed ((run i).eval m).2 := by
  cases h_busy : m.memory.context.busy with
  | true =>
    rw [eval_run_of_busy h_busy]
    exact .set m rfl rfl
  | false =>
    -- taking the guard and giving it back concerns neither records nor groups
    rw [eval_run_of_free h_busy] at h_error ⊢
    have h_entered : m.Undisturbed { m with memory := m.memory.enter } := .set m rfl rfl
    exact (h_entered.trans (undisturbed_of_carryOut h_error h_refuses)).trans (.set _ rfl rfl)

end Authoring

namespace Session

variable {m : Machine Session}

/-- **A payload that holds no interaction** is refused before anything is done. -/
theorem undisturbed_of_unreadable {inbound : Inbound} {e : Envelope} {failure : Failure}
    (h_decodes : inbound.toEnvelope m.memory.config.limits = .ok e)
    (h_handler : m.memory.handlers.find? e.type = some .author)
    (h_error : Interaction.ofJson e.data = .error failure) :
    m.Undisturbed ((dispatch inbound).eval m).2 := by
  cases h_closed : m.memory.closed with
  | true =>
    rw [eval_of_run (run_dispatch_closed inbound h_closed)]
    change m.Undisturbed (flush.eval (m.emit _)).2
    rw [eval_flush]
    exact (Machine.Undisturbed.log m _ _ _).trans (.flushed _)
  | false =>
    -- the payload is read before the guard is asked for
    have h_refused : (do
        let _ ← Interaction.ofJson e.data
        m.memory.context.acquire) = .error failure := by
      rw [h_error]
      rfl
    have h_run := run_dispatch .author h_closed h_decodes h_handler (author_unfailing e.data) .never
    have h_end := h_run.trans (run_author_refused h_refused .never)
    rw [run_never] at h_end
    rw [congrArg Prod.snd h_end]
    exact (Machine.Undisturbed.reported m _ _).trans (.flushed _)

/-- **Refusals change nothing**: neither a payload that holds no interaction, nor an interaction for
which the guard is taken, the group unknown or the primary action no setting, nor a selection that
cannot be analysed. -/
theorem undisturbed_by_refusals (m : Machine Session) :
    (∀ inbound e failure, inbound.toEnvelope m.memory.config.limits = .ok e →
      m.memory.handlers.find? e.type = some .author → Interaction.ofJson e.data = .error failure →
      m.Undisturbed ((dispatch inbound).eval m).2) ∧
    (∀ i failure, ((Authoring.run i).eval m).1 = .error failure → failure.refuses = true →
      m.Undisturbed ((Authoring.run i).eval m).2) ∧
    ∀ token fault, ((Analysis.run token).eval m).1 = .error (.selection fault) →
      m.Undisturbed ((Analysis.run token).eval m).2 :=
  ⟨fun _ _ _ => undisturbed_of_unreadable, fun _ _ => Authoring.undisturbed_of_refused,
    fun _ _ => Analysis.undisturbed_of_refused⟩

/-- With nothing selected any more, a payload that is no record, an interaction on a group that is
not known and an analysis are refused. -/
theorem undisturbed_by_refusals_on_panel :
    let m := (World.panel.after [.notice, .select []]).machine
    let unreadable := Inbound.envelope { type := "create-interaction" }
    let unplaced := Interaction.switchingOn "absent" 1 []
    ((Authoring.run unplaced).eval m).1 = .error (.unknownGroup "absent") ∧
      ((Analysis.run 1).eval m).1 = .error (.selection .notSingle) ∧
      m.Undisturbed ((dispatch unreadable).eval m).2 ∧
      m.Undisturbed ((Authoring.run unplaced).eval m).2 ∧
      m.Undisturbed ((Analysis.run 1).eval m).2 := by
  intro m unreadable unplaced
  obtain ⟨h_payload, h_interaction, h_selection⟩ := undisturbed_by_refusals m
  have h_unplaced : ((Authoring.run unplaced).eval m).1 = .error (.unknownGroup "absent") := by
    rfl
  have h_nothing : ((Analysis.run 1).eval m).1 = .error (.selection .notSingle) := by
    rfl
  refine ⟨h_unplaced, h_nothing, ?_, h_interaction _ _ h_unplaced rfl, h_selection _ _ h_nothing⟩
  exact h_payload unreadable _ _ rfl (by decide +kernel) rfl

end Session

end Clickwork
