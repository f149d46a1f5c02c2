import Clickwork.Proofs.Failing
import Clickwork.Proofs.Replies
import Clickwork.Proofs.Traced
import Clickwork.Proofs.Walks

/-!
# Stored texts that are in the way

A look-up passes over a stored text of which nothing can be made, with two exceptions: a text that is
too large for the reader, and a record with a rule whose id stands for no integer
(`Interaction.Misnumbered`). Every other text is `Records.Passable`, and that is exactly when reading
it either succeeds or fails in a way that is passed over (`Records.passable_iff`).

On a host that does not fail, an analysis of a usable selection fails only as the look-up of a record
(`Analysis.search_fails`), and so does carrying out an interaction on a known group
(`Authoring.carryOut_traces`). So if the stored texts are passable, look-ups have answers and messages
are answered with success (`World.unblocked`).
-/

namespace Clickwork

open Program (Ends)

/-! ### Records that are refused -/

/-- **A rule whose id stands for no integer.** -/
def Rule.Misnumbered (data : Json) : Prop :=
  ∃ fault, ((data.field? "id").getD (.int 0)).toInteger = .error fault

/-- Nothing else is wrong with a rule that cannot be read. -/
theorem Rule.error_of_ofJson {data : Json} {e : Failure} (h : ofJson data = .error e) :
    (∃ fault, e = .numeral fault) ∧ Misnumbered data := by
  unfold ofJson at h
  split at h
  · rename_i fault h_fault
    exact ⟨⟨fault, (Except.error.inj h).symm⟩, fault, h_fault⟩
  · cases h

theorem Rule.not_misnumbered_of_ofJson {data : Json} {r : Rule} (h : ofJson data = .ok r) :
    ¬Misnumbered data := by
  rintro ⟨fault, h_fault⟩
  simp [ofJson, h_fault] at h

theorem NestedAction.error_of_ofJson {data : Json} {e : Failure} (h : ofJson data = .error e) :
    ∃ fault, e = .protocol fault := by
  unfold ofJson at h
  dsimp only at h
  split at h
  · exact ⟨_, (Except.error.inj h).symm⟩
  · cases h

namespace Interaction

variable {data : Json} {e : Failure}

/-- **A record that has all its fields, and a rule whose id stands for no integer.** -/
structure Misnumbered (data : Json) : Prop where
  kind : data.kind = .obj
  id : ∃ text, required data "id" = .ok text
  group : ∃ text, required data "component" = .ok text
  primaryAction : ∃ text, required data "primaryAction" = .ok text
  rules : ∃ rules, objects data "conditionalRules" = .ok rules ∧ ∃ r ∈ rules, Rule.Misnumbered r
  actions : ∃ actions, objects data "nestedActions" = .ok actions

theorem error_of_required {name : String} (h : required data name = .error e) :
    ∃ fault, e = .protocol fault := by
  unfold required at h
  split at h
  · exact ⟨_, (Except.error.inj h).symm⟩
  · cases h

theorem error_of_objects {name : String} (h : objects data name = .error e) :
    ∃ fault, e = .protocol fault := by
  unfold objects at h
  split at h
  · cases h
  · cases h
  · exact ⟨_, (Except.error.inj h).symm⟩

/-- **Why a record is refused**: it is not what it should be, or a rule is misnumbered. -/
theorem error_of_ofJson (h : ofJson data = .error e) :
    (∃ fault, e = .protocol fault) ∨ (∃ fault, e = .numeral fault) ∧ Misnumbered data := by
  unfold ofJson at h
  dsimp only at h
  split at h
  swap
  · exact .inl ⟨_, (Except.error.inj h).symm⟩
  rename_i h_kind
  -- part by part in the order of reading, so that a rule is reached only if all fields are there
  obtain h | ⟨id, h_id, h⟩ := bind_error h
  · exact .inl (error_of_required h)
  obtain h | ⟨group, h_group, h⟩ := bind_error h
  · exact .inl (error_of_required h)
  obtain h | ⟨primary, h_primary, h⟩ := bind_error h
  · exact .inl (error_of_required h)
  obtain h | ⟨rules, h_rules, h⟩ := bind_error h
  · exact .inl (error_of_objects h)
  obtain h | ⟨actions, h_actions, h⟩ := bind_error h
  · exact .inl (error_of_objects h)
  obtain h | ⟨rs, -, h⟩ := bind_error h
  · obtain ⟨r, hr, h_rule⟩ := Except.mapM_error h
    obtain ⟨h_fault, h_misnumbered⟩ := Rule.error_of_ofJson h_rule
    exact .inr ⟨h_fault, h_kind, ⟨id, h_id⟩, ⟨group, h_group⟩, ⟨primary, h_primary⟩,
      ⟨rules, h_rules, r, hr, h_misnumbered⟩, actions, h_actions⟩
  obtain h | ⟨as, -, h⟩ := bind_error h
  · obtain ⟨a, -, h_action⟩ := Except.mapM_error h
    exact .inl (NestedAction.error_of_ofJson h_action)
  · cases h

/-- A record with a misnumbered rule is refused for it. -/
theorem Misnumbered.ofJson_eq (h : Misnumbered data) :
    ∃ fault, ofJson data = .error (.numeral fault) := by
  obtain ⟨h_kind, ⟨id, h_id⟩, ⟨group, h_group⟩, ⟨primary, h_primary⟩,
    ⟨rules, h_rules, r, hr, h_rule⟩, actions, h_actions⟩ := h
  -- the rule that is refused first need not be the given one, but the cause is of the same kind
  cases h_read : rules.mapM Rule.ofJson with
  | ok rs =>
    obtain ⟨x, h_ok⟩ := Except.ok_of_mapM h_read r hr
    exact absurd h_rule (Rule.not_misnumbered_of_ofJson h_ok)
  | error e =>
    obtain ⟨r', -, h_error⟩ := Except.mapM_error h_read
    obtain ⟨⟨fault, rfl⟩, -⟩ := Rule.error_of_ofJson h_error
    refine ⟨fault, ?_⟩
    simp only [ofJson, h_kind, if_true, h_id, h_group, h_primary, h_rules, h_actions]
    change rules.mapM Rule.ofJson >>= _ = _
    rw [h_read]
    rfl

end Interaction

namespace Records

variable {limits : Json.Limits} {text : String} {s : Session} {h : Host} {group : String}

/-- **A stored text that is in nobody's way**: it is not too large for the reader, and no record with
a misnumbered rule. -/
structure Passable (limits : Json.Limits) (text : String) : Prop where
  fits : ∀ o, Json.read limits text ≠ .error (.overrun o)
  numbered : ∀ v, Json.read limits text = .ok v → ¬Interaction.Misnumbered v

/-- **Just the texts that are passable** are read or passed over. -/
theorem passable_iff :
    Passable limits text ↔ ∀ e, parse limits text = .error e → discards e = true := by
  unfold parse
  constructor
  · rintro ⟨h_fits, h_numbered⟩ e h_error
    split at h_error
    · rw [← Except.error.inj h_error]
      rfl
    · exact absurd ‹_› (h_fits _)
    · rename_i v h_read
      obtain ⟨fault, rfl⟩ | ⟨-, h_misnumbered⟩ := Interaction.error_of_ofJson h_error
      · rfl
      · exact absurd h_misnumbered (h_numbered v h_read)
  · intro h_discards
    constructor
    · intro o h_read
      rw [h_read] at h_discards
      cases h_discards _ rfl
    · intro v h_read h_misnumbered
      obtain ⟨fault, h_error⟩ := h_misnumbered.ofJson_eq
      rw [h_read] at h_discards
      cases h_discards _ h_error

instance (limits : Json.Limits) (text : String) : Decidable (Passable limits text) :=
  match h_parse : parse limits text with
  | .ok _ => isTrue (passable_iff.mpr (by rw [h_parse]; exact nofun))
  | .error e => decidable_of_iff (discards e = true) (by simp [passable_iff, h_parse])

/-- **What is on record for a group can be read** if its stored text is passable. -/
theorem recorded_of_passable (h_passable : ∀ text,
    h.storage.texts.find? (s.config.storageKey group) = some text → Passable s.config.limits text) :
    ∃ found, s.recorded h group = .ok found := by
  cases h_record : s.records.find? group with
  | some i => exact ⟨_, Session.recorded_of_find? h_record⟩
  | none =>
    rw [Session.recorded_of_absent h_record]
    cases h_text : h.storage.texts.find? (s.config.storageKey group) with
    | none => exact ⟨_, Host.recorded_of_absent h_text⟩
    | some text =>
      cases h_parse : parse s.config.limits text with
      | ok i => exact ⟨_, Host.recorded_of_parse h_text h_parse⟩
      | error e =>
        exact ⟨_, Host.recorded_of_discards h_text h_parse
          (passable_iff.mp (h_passable text h_text) e h_parse)⟩

/-- **A passable text makes no look-up fail**, whatever else fails. -/
theorem get_answers (h_passable : ∀ text,
    h.storage.texts.find? (s.config.storageKey group) = some text → Passable s.config.limits text) :
    (get group).Ends s h fun r _ _ => ∃ found, r = .ok found := by
  obtain ⟨found, h_found⟩ := recorded_of_passable h_passable
  refine (get_finds group).mono ?_
  rintro (e | found') s' h' - ⟨-, -, -, h_failed⟩
  · cases h_found.symm.trans (h_failed e rfl)
  · exact ⟨found', rfl⟩

/-- **A text that is not passable makes the look-up of its group fail**, if the group has no record
in memory. -/
theorem get_blocked (hs : h.Stores) (h_none : s.records.find? group = none)
    (h_text : h.storage.texts.find? (s.config.storageKey group) = some text)
    (h_blocks : ¬Passable s.config.limits text) :
    (get group).Ends s h fun r _ _ => ∃ e, parse s.config.limits text = .error e ∧ r = .error e := by
  obtain ⟨e, h_parse, h_kept⟩ : ∃ e, parse s.config.limits text = .error e ∧ ¬discards e = true := by
    simpa [passable_iff] using h_blocks
  refine (get_recalls hs group).mono ?_
  rintro r s' h' - ⟨rfl, -⟩
  exact ⟨e, h_parse,
    (Session.recorded_of_absent h_none).trans (Host.recorded_of_blocks h_text h_parse h_kept)⟩

/-- Looks up the record of one more group. -/
def findMore (found : Registry String Interaction) (group : String) :
    Program Session (Registry String Interaction) := do
  match ← get group with
  | some i => return found.insert group i
  | none => return found

theorem foldlM_findMore_fails (hs : h.Stores) (groups : List String)
    (found : Registry String Interaction) :
    (groups.foldlM findMore found).Ends s h fun r _ _ => ∀ e, r = .error e →
      ∃ group, s.recorded h group = .error e := by
  induction groups generalizing found s h with
  | nil =>
    rintro e h_error
    cases h_error
  | cons group groups ih =>
    rw [List.foldlM_cons, findMore, LawfulMonad.bind_assoc]
    refine (get_recalls hs group).bind ?_ ?_
    · rintro record s₁ h₁ h_later ⟨-, rfl, -, h_storage⟩
      -- what is on record for the other groups is the same after the look-up
      have h_same (group' : String) :
          (s.recalling h group).recorded h₁ group' = s.recorded h group' :=
        (Session.recorded_congr rfl rfl (by rw [h_storage])).trans
          (Session.recorded_recalling _ _ _ _)
      cases record
      all_goals
        refine (ih (h_later.stores hs) _).mono ?_
        rintro r s₂ h₂ - h_failed e h_error
        obtain ⟨group', h_unread⟩ := h_failed e h_error
        exact ⟨group', (h_same group').symm.trans h_unread⟩
    · rintro e s₁ h₁ - ⟨h_found, -⟩ e' h_error
      obtain rfl := Except.error.inj h_error
      exact ⟨group, h_found.symm⟩

/-- **Looking up the records of some groups** fails as the look-up of one of them. -/
theorem existing_fails (hs : h.Stores) (groups : List String) :
    (existing groups).Ends s h fun r _ _ => ∀ e, r = .error e →
      ∃ group, s.recorded h group = .error e :=
  foldlM_findMore_fails hs groups ∅

end Records

/-! ### Analyses -/

/-- **The selection can be analysed**: one instance is selected, in which others are nested, and no
child lists form a cycle. -/
structure Scene.Analysable (s : Scene) (container : String) : Prop where
  selected : s.selection = [container]
  isInstance : s.IsInstance container
  nested : ∃ id, s.Nested container id
  acyclic : ∃ rank, s.Acyclic rank

namespace Analysis

variable {s : Session} {h : Host} {container : String}

/-- The selected instance is found. -/
theorem outcome_selectedInstance (hr : h.Reliable) (h_usable : h.scene.Analysable container) :
    ∃ n : NodeInfo, n.id = container ∧ selectedInstance.outcome s h = (.ok n, s, h) := by
  obtain ⟨n, h_node, h_instance⟩ := h_usable.isInstance
  refine ⟨n, Scene.id_of_node? h_node, ?_⟩
  have h_selection := Program.outcome_ask_of_reliable (s := s) hr (c := .selection) rfl
    (by simp [Call.method])
  have h_answer := Program.outcome_ask_of_reliable (s := s) hr (c := .node container) rfl
    (by simp [Call.method])
  simp only [Host.answer, h_usable.selected] at h_selection
  simp only [Host.answer, h_node] at h_answer
  rw [selectedInstance, Program.outcome_bind_ok h_selection]
  refine (Program.outcome_bind_ok h_answer _).trans ?_
  simp only [h_instance, if_true, Program.outcome_pure]

/-- **A search in a usable selection** fails as a look-up of a record. -/
theorem search_fails (hr : h.Reliable) (hs : h.Stores) (h_usable : h.scene.Analysable container) :
    search.Ends s h fun r _ _ => ∀ e, r = .error e → ∃ group, s.recorded h group = .error e := by
  obtain ⟨rank, h_acyclic⟩ := h_usable.acyclic
  obtain ⟨n, rfl, h_selected⟩ := outcome_selectedInstance (s := s) hr h_usable
  rw [search]
  -- up to the look-ups nothing can fail, and nothing concerns memory or storage
  refine Ends.bind_eq h_selected ?_
  refine (Discovery.nestedInstances_ends hr h_acyclic n.id).bind ?_ ?_
  swap
  · rintro e s₁ h₁ - ⟨-, -, ids, h_ok, -⟩
    cases h_ok
  rintro ids s₁ h₁ - ⟨rfl, rfl, _, h_ok, h_ids⟩
  obtain rfl := Except.ok.inj h_ok
  obtain ⟨id, h_nested⟩ := h_usable.nested
  have h_there : ids.isEmpty = false :=
    List.isEmpty_eq_false_iff.mpr (List.ne_nil_of_mem ((h_ids id).mpr h_nested))
  simp only [h_there]
  refine (Discovery.groups_ends hr ids).bind ?_ ?_
  swap
  · rintro e s₂ h₂ - ⟨-, -, groups, h_ok, -⟩
    cases h_ok
  rintro groups s₂ h₂ - ⟨rfl, rfl, -⟩
  refine Ends.bind_eq (Session.outcome_readConfig _ _) ?_
  refine (Wiring.ensureCollection_ends hr _).bind ?_ ?_
  swap
  · rintro e s₃ h₃ - ⟨-, -, ⟨collection, h_ok, -⟩, -⟩
    cases h_ok
  rintro collection s₃ h₃ h_later ⟨rfl, h_storage, -⟩
  have h_same (group : String) : s₃.recorded h₃ group = s₃.recorded h₂ group :=
    Session.recorded_congr rfl rfl (by rw [h_storage])
  refine (Records.existing_fails (h_later.stores hs) _).bind ?_ ?_
  · rintro existing s₄ h₄ - - e h_error
    cases h_error
  · rintro e s₄ h₄ - h_failed e' h_error
    obtain rfl := Except.error.inj h_error
    obtain ⟨group, h_unread⟩ := h_failed e rfl
    exact ⟨group, (h_same group).symm.trans h_unread⟩

end Analysis

/-! ### Answers -/

namespace World

/-- **The stored text of a group is not in the way** of a look-up by the current session. -/
def Passable (w : World Unit) (group : String) : Prop :=
  ∀ text, w.host.storage.texts.find? (w.current.config.storageKey group) = some text →
    Records.Passable w.current.config.limits text

/-- **A bad stored text blocks no group**, unless it is too large for the reader or a record with a
rule whose id stands for no integer. A group without such a text has an answer to every look-up,
whatever else fails. On a host that does not fail, an analysis of a usable selection is answered with
success if no group has such a text, and so is a message with an interaction on a group that is known
if none of the groups that it is carried out on has one. -/
theorem unblocked (w : World Unit) :
    (∀ group, w.Passable group →
      (Records.get group).Ends w.current w.host fun r _ _ => ∃ found, r = .ok found) ∧
    (w.Sound → w.host.Stores → w.current.closed = false →
      (∀ container inbound, w.host.scene.Analysable container →
        w.current.handlers.find? "init" = some .analyse →
        inbound.HasType w.current.config.limits "init" → (∀ group, w.Passable group) →
          ∃ reply, w.Answers inbound reply ∧ reply.type = "init-success") ∧
      ∀ inbound e i, w.current.handlers.find? "create-interaction" = some .author →
        inbound.toEnvelope w.current.config.limits = .ok e → e.type = "create-interaction" →
        Interaction.ofJson e.data = .ok i → w.current.context.busy = false →
        (w.current.context.group i.group).isOk = true →
        (Setting.parse? i.primaryAction).isSome = true →
        (∀ part ∈ i.partsIn w.current.context, w.Passable part.group) →
          ∃ reply, w.Answers inbound reply ∧ reply.type = "interaction-created") := by
  have h_read {group : String} (h_passable : w.Passable group) :
      ∃ found, w.current.recorded w.host group = .ok found :=
    Records.recorded_of_passable h_passable
  refine ⟨fun group => Records.get_answers, fun hw hs h_open => ⟨?_, ?_⟩⟩
  · intro container inbound h_usable h_handler h_type h_passable
    have h_search := Analysis.search_fails (s := w.current.opened (.message inbound))
      hw.reliable hs h_usable
    refine ⟨_, answers_init h_open h_handler h_type, ?_⟩
    rw [Ends] at h_search
    cases h_result : (Analysis.search.outcome (w.current.opened (.message inbound)) w.host).1 with
    | ok found => rfl
    | error e =>
      -- it would be the failure of a look-up, and there is none
      obtain ⟨group, h_unread⟩ := h_search e h_result
      obtain ⟨found, h_found⟩ := h_read (h_passable group)
      cases h_found.symm.trans h_unread
  · intro inbound e i h_handler h_decodes h_type h_reads h_free h_known h_setting h_passable
    have h_carry := Authoring.carryOut_traces (s := w.current.enter) hw.reliable hs hw.built i
    refine ⟨_, (answers_authoring h_open h_handler h_decodes h_type h_reads h_free).1, ?_⟩
    rw [Ends] at h_carry
    cases h_result : ((Authoring.carryOut i).outcome w.current.enter w.host).1 with
    | ok a => rfl
    | error failure =>
      rw [h_result] at h_carry
      obtain ⟨_, h_ok, -⟩ | ⟨_, -, h_unknown | h_none | ⟨part, h_part, h_unread⟩⟩ := h_carry
      · cases h_ok
      · obtain ⟨g, h_group⟩ := Context.exists_of_isOk h_known
        cases h_group.symm.trans h_unknown
      · rw [h_none] at h_setting
        cases h_setting
      · obtain ⟨found, h_found⟩ := h_read (h_passable part h_part)
        cases h_found.symm.trans h_unread

/-- **A record with a misnumbered rule** that is stored for the tabs makes the look-up fail. -/
theorem blocked_by_misnumbered_rule :
    let record : Json := .obj [("id", .str "tabs_1"), ("component", .str "tabs"),
      ("primaryAction", .str "State=On"), ("conditionalRules", .arr [.obj [("id", .str "x")]])]
    let texts := Registry.ofList [("interaction_tabs", record.text)]
    let h := { World.panel.host with storage := { texts } }
    h.Reliable ∧ h.Stores ∧ (Records.get "tabs").Ends World.panel.current h fun r _ _ =>
      ∃ fault, r = .error (.numeral fault) := by
  intro record texts h
  have h_stores : h.Stores := ⟨rfl, fun _ _ => rfl⟩
  have h_read : Json.read .standard record.text = .ok record := by
    refine Json.read_text ?_ ?_
    · simp [record, Json.FloatFree, Json.Every, Json.EveryItem, Json.EveryField, Json.kind]
    · simp [record, Json.SoundAt, Json.Every, Json.EveryItem, Json.EveryField, Json.DistinctNames,
        Json.Limits.Admits, Json.Limits.HasRoom, Json.Limits.exceeded, Json.Limits.standard]
  have h_text : texts.find? (World.panel.current.config.storageKey "tabs") = some record.text :=
    Registry.find?_insert_self _ _ _
  have h_rule : Rule.Misnumbered (.obj [("id", .str "x")]) :=
    ⟨.notNumeral "x", by decide +kernel⟩
  have h_misnumbered : Interaction.Misnumbered record :=
    { kind := rfl
      id := ⟨_, rfl⟩
      group := ⟨_, rfl⟩
      primaryAction := ⟨_, rfl⟩
      rules := ⟨_, rfl, _, List.mem_cons_self, h_rule⟩
      actions := ⟨_, rfl⟩ }
  have h_blocks : ¬Records.Passable .standard record.text :=
    fun h_passable => h_passable.numbered record h_read h_misnumbered
  obtain ⟨fault, h_refused⟩ := h_misnumbered.ofJson_eq
  refine ⟨sound_panel.reliable, h_stores, ?_⟩
  refine (Records.get_blocked h_stores rfl h_text h_blocks).mono ?_
  rintro r s' h' - ⟨e, h_parse, rfl⟩
  rw [show World.panel.current.config.limits = .standard from rfl, Records.parse, h_read] at h_parse
  exact ⟨fault, congrArg _ (Except.error.inj (h_parse.symm.trans h_refused))⟩

/-- On the panel, with an unfinished JSON text stored for the tabs and a list for the badges. -/
theorem unblocked_on_panel :
    let noticed := panel.after [.notice]
    let texts := Registry.ofList [("interaction_tabs", "\x7b"), ("interaction_badges", "[[]]")]
    let w := { noticed with host := { noticed.host with storage := { texts } } }
    let i := Interaction.switchingOn "tabs" 1 ["badges"]
    ((Records.get "tabs").Ends w.current w.host fun r _ _ => ∃ found, r = .ok found) ∧
    (∃ reply, w.Answers (.envelope { type := "init" }) reply ∧ reply.type = "init-success") ∧
    ∃ reply, w.Answers (.authoring i) reply ∧ reply.type = "interaction-created" := by
  intro noticed texts w i
  have h_passable (group : String) : w.Passable group := by
    have h_all : ∀ text ∈ texts.values, Records.Passable .standard text := by decide +kernel
    exact fun text h_text => h_all text (Registry.mem_values_iff.mpr ⟨_, h_text⟩)
  have h_sound : w.Sound := by
    have h_noticed := sound_panel.advance (m := .notice) trivial
    exact ⟨h_noticed.reliable, h_noticed.built⟩
  have h_lasting : ∀ m ∈ [Move.notice], m.Lasting panel.current.config := by simp [Move.Lasting]
  have h_stores : w.host.Stores := ⟨rfl, (stores_after stores_panel h_lasting).2.spares⟩
  have h_open : w.current.closed = false := by decide +kernel
  have h_init : w.current.handlers.find? "init" = some .analyse := by decide +kernel
  have h_author : w.current.handlers.find? "create-interaction" = some .author := by
    decide +kernel
  have h_child : ∃ n, w.host.scene.node? "panel" = some n ∧ n.children.contains "tab-1" = true :=
    (Option.any_eq_true _ _).mp (by decide +kernel)
  have h_usable : w.host.scene.Analysable "panel" :=
    { selected := by decide +kernel
      isInstance := by decide +kernel
      nested :=
        let ⟨n, h_node, h_mem⟩ := h_child
        ⟨"tab-1", by decide +kernel, n, h_node, "tab-1", List.contains_iff_mem.mp h_mem, .self _⟩
      acyclic := ⟨fun id => if id = "panel" then 1 else 0,
        Scene.acyclic_of_entries (by decide +kernel)⟩ }
  obtain ⟨h_get, h_answers⟩ := unblocked w
  obtain ⟨h_analyse, h_create⟩ := h_answers h_sound h_stores h_open
  refine ⟨h_get "tabs" (h_passable _), h_analyse "panel" _ h_usable h_init ⟨_, rfl, rfl⟩ h_passable,
    ?_⟩
  exact h_create (.authoring i) _ i h_author rfl rfl rfl (by decide +kernel) (by decide +kernel)
    (by decide +kernel) fun part _ => h_passable part.group

end World

end Clickwork
