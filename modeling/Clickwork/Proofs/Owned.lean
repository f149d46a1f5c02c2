import Clickwork.Proofs.History

/-!
# No variable is left behind

Every managed variable belongs to an interaction on record (`Session.Covers`), as long as records
are not forgotten on demand: an interaction that gives way takes its variables along
(`World.owned_after`), whatever becomes of its stored record.

The reason is that belonging is transitive. A variable that outlives the retiring of some
interactions belongs to a record that outlives it as well (`Replaced.keeps_owner`), since a record
that is dropped belongs to a retired interaction, and so would the variable.
-/

namespace Clickwork

open Records (Loaded Replaced ownedBy retiring)

/-! ### What is left of records -/

/-- **A name that belongs to none of the retired interactions keeps its owner**, which is the record
of another group. -/
theorem Records.Replaced.keeps_owner {i : Interaction} {s s' : Session} {h h' : Host}
    (h_replaced : Replaced (retiring (s.records.find? i.group) i) i s s' h h') {name : String}
    (h_left : ∀ interaction ∈ retiring (s.records.find? i.group) i,
      ownedBy interaction name = false)
    {group : String} {r : Interaction} (h_record : s.records.find? group = some r)
    (h_owner : ownedBy r.id name = true) :
    group ≠ i.group ∧ s'.records.find? group = some r := by
  -- the group's previous interaction is among the retired ones
  have h_other : group ≠ i.group := by
    rintro rfl
    have h_mem : r.id ∈ retiring (s.records.find? i.group) i := by
      rw [h_record]
      by_cases h_same : r.id = i.id <;> simp [retiring, h_same]
    rw [h_left r.id h_mem] at h_owner
    cases h_owner
  refine ⟨h_other, (h_replaced.find?_kept h_other ?_).trans h_record⟩
  -- if the owner were dropped, the name would belong to what the owner belongs to
  rintro ⟨r', h_record', h_any⟩
  obtain rfl := Option.some.inj (h_record.symm.trans h_record')
  obtain ⟨interaction, h_mem, h_nested⟩ := List.any_eq_true.mp h_any
  have h_owned := ownedBy_trans h_nested h_owner
  rw [h_left interaction h_mem] at h_owned
  cases h_owned

/-! ### The invariant -/

/-- **Every managed variable belongs to an interaction on record.** -/
def Session.Covers (s : Session) (t : Scene) : Prop :=
  ∀ id v, t.variableTable.find? id = some v →
    t.collections.find? s.config.collection = some v.collection →
      ∃ group r, s.records.find? group = some r ∧ ownedBy r.id v.name = true

theorem Session.Covers.used {s : Session} {t t' : Scene} (h_covers : s.Covers t)
    (h_used : t.Used t') : s.Covers t' := by
  intro id v hv h_managed
  obtain ⟨v', hv', h_name, h_collection⟩ := h_used.find? hv
  rw [h_used.collections, ← h_collection] at h_managed
  rw [← h_name]
  exact h_covers id v' hv' h_managed

/-- **Every act but forgetting a record on demand leaves managed variables with owners.** -/
theorem Session.Stable.covers :
    Stable (fun a => ∀ group, a ≠ .purge group) fun s h => s.Covers h.scene where
  quiet := by
    intro s s' h h_alike h_covers id v hv h_managed
    rw [h_alike.config] at h_managed
    rw [h_alike.records]
    exact h_covers id v hv h_managed
  act := by
    rintro a s s' h h' h_may - h_built - h_step h_covers
    cases h_step with
    | load h_loaded h_scene =>
      rw [h_scene]
      intro id v hv h_managed
      rw [h_loaded.config] at h_managed
      obtain ⟨group, r, h_record, h_owner⟩ := h_covers id v hv h_managed
      exact ⟨group, r, h_loaded.find?_kept h_record, h_owner⟩
    | create h_absent h_scene =>
      -- the collection is new, and so are its variables
      rw [h_scene]
      intro id v hv h_managed
      exact (h_built.wellFormed.collection_ne_created hv _ h_managed).elim
    | analyse => exact h_covers
    | sweep h_scene =>
      rw [h_scene]
      intro id v hv h_managed
      rw [Scene.find?_discard] at hv
      split at hv
      · cases hv
      · exact h_covers id v hv h_managed
    | purge => exact (h_may _ rfl).elim
    | close h_scene =>
      rw [h_scene]
      exact h_covers
    | wire i part g collection _ _ _ _ h_replaced h_wired =>
      intro id v hv h_managed
      rw [h_wired.extended.collections, h_replaced.collections, h_replaced.config] at h_managed
      rcases h_wired.extended.new id v hv with hv | ⟨-, -, h_name, -⟩
      · -- a variable that outlived the retiring
        rw [h_replaced.scene] at hv
        obtain ⟨hv, h_left⟩ := Scene.find?_retiredAll.mp hv
        obtain ⟨group, r, h_record, h_owner⟩ := h_covers id v hv h_managed
        exact ⟨group, r, (h_replaced.keeps_owner (h_left h_managed) h_record h_owner).2, h_owner⟩
      · -- a variable of the part that was wired
        exact ⟨part.group, part, h_replaced.find?_self, h_name.ownedBy⟩

/-- **A move that neither begins another session nor asks to forget the stored records.** -/
def Move.Retains (config : Config) : Move → Prop
  | .message inbound => ∀ e, inbound.toEnvelope config.limits = .ok e →
      e.type ≠ "cleanup-stored-data"
  | .restart _ => False
  | _ => True

/-- Asking for an interaction forgets nothing. -/
theorem Move.retains_authoring (config : Config) (i : Interaction) :
    (Move.message (.authoring i)).Retains config := by
  intro e h_decoded
  obtain rfl := Except.ok.inj h_decoded
  show "create-interaction" ≠ "cleanup-stored-data"
  decide

theorem Handler.standard_purge {type : String}
    (h : Handler.standard.find? type = some .purge) : type = "cleanup-stored-data" := by
  have h_entries : Handler.standard.entries = [("init", .analyse), ("create-interaction", .author),
      ("get-components", .listComponents), ("cleanup", .sweep), ("cleanup-stored-data", .purge),
      ("cancel", .cancel)] := rfl
  have h_mem := Registry.find?_eq_some_iff.mp h
  rw [h_entries] at h_mem
  simpa using h_mem

/-- **No variable is left behind.** Let a session begin on a scene without managed variables, which
can be built. Then after any messages that do not ask to forget the stored records, any selections
and clicks, and any failures of storage calls and bindings, the name of every variable in the
configured collection begins with the id of an interaction that the session has on record and an
underscore. What was stored before does not matter. -/
theorem World.owned_after (w : World Unit) (moves : List Move) (config : Config)
    (listeners : List String) (h_start : w.current = Session.start config listeners)
    (h_built : w.host.scene.Built) (h_reliable : w.host.Reliable)
    (h_clean : ∀ id v, w.host.scene.variableTable.find? id = some v →
      w.host.scene.collections.find? config.collection ≠ some v.collection)
    (h_mild : ∀ m ∈ moves, m.Mild) (h_retains : ∀ m ∈ moves, m.Retains config) :
    (w.after moves).current.config = config ∧
      (w.after moves).current.Covers (w.after moves).host.scene := by
  obtain ⟨I, h_I⟩ : ∃ I : Session → Host → Prop, I = fun s h =>
      s.Configured config ∧ s.Covers h.scene := ⟨_, rfl⟩
  have h_stable : Session.Stable (fun a => ∀ group, a ≠ .purge group) I := by
    rw [h_I]
    exact (Session.Stable.configured _ config).and .covers
  have h_used : ∀ (s : Session) (h : Host) (t : Scene), h.scene.Used t → I s h →
      I s { h with scene := t } := by
    rw [h_I]
    rintro s h t h_used ⟨h_config, h_covers⟩
    exact ⟨h_config, h_covers.used h_used⟩
  have h_initial : I w.current w.host := by
    rw [h_I, h_start]
    exact ⟨⟨rfl, rfl⟩, fun id v hv h_managed => (h_clean id v hv h_managed).elim⟩
  have h_moves : ∀ m ∈ moves, m.Keeps I := by
    intro m hm
    have h_keeps := h_retains m hm
    cases m with
    | message inbound =>
      -- only the message that asks for it forgets records
      refine .message h_stable fun s h hI a h_handling group h_purge => ?_
      rw [h_I] at hI
      obtain ⟨⟨h_config, h_handlers⟩, -⟩ := hI
      obtain ⟨e, handler, h_decoded, h_handler, h_does⟩ := h_handling
      rw [h_purge] at h_does
      obtain rfl : handler = .purge := h_does
      rw [h_config] at h_decoded
      rw [h_handlers] at h_handler
      exact h_keeps e h_decoded (Handler.standard_purge h_handler)
    | notice =>
      refine .notice h_stable fun a h_does group h_purge => ?_
      rw [h_purge] at h_does
      cases h_does
    | select ids => exact .select h_used ids
    | click node => exact .click h_used node
    | restart s => exact h_keeps.elim
    | failOn | outage =>
      refine ⟨h_mild _ hm, fun w _ hI => ?_⟩
      rw [h_I] at hI ⊢
      exact hI
  have h_final := (World.after_keeps h_moves ⟨h_reliable, h_built⟩ h_initial).2
  rw [h_I] at h_final
  obtain ⟨⟨h_config, -⟩, h_covers⟩ := h_final
  exact ⟨h_config, h_covers⟩

/-- A nested interaction gives way, and its record cannot be deleted from the storage. -/
theorem World.owned_after_superseding :
    ∃ w : World Unit, World.panel.after [.notice, .failOn .storageDelete none,
        .message (.authoring (.switchingOn "tabs" 1 ["badges"])),
        .message (.authoring (.switchingOn "badges" 2 []))] = w ∧
      w.current.config = {} ∧ w.current.Covers w.host.scene := by
  refine ⟨_, rfl, World.owned_after World.panel _ {} [] rfl Scene.built_panel
    World.sound_panel.reliable (fun id v hv => ?_) (fun m hm => ?_) fun m hm => ?_⟩
  · cases hv
  · simp only [List.mem_cons, List.not_mem_nil, or_false] at hm
    rcases hm with rfl | rfl | rfl | rfl
    · trivial
    · exact Or.inl rfl
    all_goals trivial
  · simp only [List.mem_cons, List.not_mem_nil, or_false] at hm
    rcases hm with rfl | rfl | rfl | rfl
    · trivial
    · trivial
    all_goals exact Move.retains_authoring _ _

end Clickwork
