import Clickwork.Proofs.Accepted
import Clickwork.Proofs.Attached
import Clickwork.Proofs.Rewired
import Clickwork.Proofs.Tied

/-!
# Authoring an interaction once more

An interaction is authored, instances of its group are clicked, and it is authored once more. On a
host that does not fail the second time ends as the first did (`World.reauthored_after`): with the
same table, the same variables in the same order and with the same values, the same bindings and
reactions and the same records, only that variables have other ids.

Before the first time, the history has left everything in order (`Session.Orderly`): what is bound
is bound to variables of a record, nothing fails, and no reaction sets a variable whose id is still
to be given out. So when the interaction is put on record its group is ready to be wired
(`ready_of_replaced`): the record that gives way takes all bindings of the group with it, and the
instances show their own values.

The first time leaves the interaction on record and the group wired (`Authoring.Stands`), and that
is all the second time needs (`Stands.again`). Putting it on record again retires what the first
wiring added and nothing else: a variable that belongs to the interaction was added by it, since the
group was ready, and clicks on instances assign such variables only (`Stands.sets_new`). What is
left is the scene that the first time found, but for the counter and for reactions of the instances,
which wiring replaces.

A reaction may not set a variable to come (`Scene.Unforeseen`). The first time the variable is
added, and the reaction stays; the second time the variable is retired, and the node is cleared
(`World.foresight_lost`).
-/

namespace Clickwork

open Program (Ends)
open Records (Replaced ownedBy retiring)
open Wiring (Performed Ready Wired)

/-! ### Hosts that do not fail -/

namespace Host

/-- **Nothing fails**: no failures are arranged, the storage is available, and nodes accept
reactions. -/
structure Unfailing (h : Host) : Prop where
  spares : ∀ method, h.Spares method
  available : h.storage.unavailable = false
  accepts : h.scene.rejectingReactions = []

variable {h h' : Host}

theorem Unfailing.reliable (hu : h.Unfailing) : h.Reliable :=
  fun method _ _ => hu.spares method

theorem Unfailing.stores (hu : h.Unfailing) : h.Stores :=
  ⟨hu.available, fun method _ => hu.spares method⟩

theorem Later.unfailing (h_later : h.Later h') (hu : h.Unfailing) : h'.Unfailing where
  spares := fun method => h_later.spares method (hu.spares method)
  available := h_later.unavailable.trans hu.available
  accepts := h_later.kept.rejectingReactions.trans hu.accepts

end Host

/-! ### Ids to come -/

namespace Scene

variable {s t : Scene}

/-- Where reactions set existing variables only, none sets a variable to come. -/
theorem Attached.unforeseen (h_attached : s.Attached) (hs : s.WellFormed) : s.Unforeseen := by
  intro n hn node h_sets
  obtain ⟨v, hv⟩ := h_attached node _ h_sets
  rw [hs.find?_variableId hn] at hv
  cases hv

/-- Reactions stay, and the counter goes on. -/
theorem Unforeseen.of_reactions (hs : s.Unforeseen) (h_next : s.nextId ≤ t.nextId)
    (h_reactions : ∀ node, t.reactions node = s.reactions node) : t.Unforeseen :=
  fun n hn node h_sets =>
    hs n (Nat.le_trans h_next hn) node ((Sets.congr (h_reactions node)).mp h_sets)

theorem Unforeseen.retiredAll (hs : s.Unforeseen) (h_accepts : s.rejectingReactions = [])
    (name : String) (ids : List String) : (ids.foldl (retired name) s).Unforeseen := by
  intro n hn node h_sets
  rw [nextId_retiredAll] at hn
  exact hs n hn node (h_sets.of_retiredAll h_accepts).1

/-- Instances that are wired set variables that are there. -/
theorem Unforeseen.wired (hs : s.Unforeseen) (ht : t.WellFormed)
    (h_accepts : s.rejectingReactions = []) {collection : String} {i : Interaction} {g : Group}
    (h_wired : Wired collection i g s t) : t.Unforeseen := by
  intro n hn node h_sets
  by_cases h_mem : node ∈ g.instances.map (·.id)
  · obtain ⟨-, v, hv⟩ := h_wired.reactions node h_mem (by simp [h_accepts]) _ h_sets
    rw [ht.find?_variableId hn] at hv
    cases hv
  · have h_same : t.reactions node = s.reactions node := by
      rw [reactions, reactions, h_wired.frame node h_mem]
    exact hs n (Nat.le_trans h_wired.extended.next_le hn) node ((Sets.congr h_same).mp h_sets)

end Scene

namespace Session

/-- **Nothing is in the way of authoring**: bindings are tied to records, nothing fails, and no
reaction sets a variable to come. -/
structure Orderly (s : Session) (h : Host) : Prop where
  tied : s.Tied h.scene
  unfailing : h.Unfailing
  unforeseen : h.scene.Unforeseen

variable {s : Session} {h : Host}

theorem Orderly.used (h_orderly : s.Orderly h) {t : Scene} (h_used : h.scene.Used t) :
    s.Orderly { h with scene := t } where
  tied := h_orderly.tied.used h_used
  unfailing := ⟨h_orderly.unfailing.spares, h_orderly.unfailing.available,
    h_used.kept.rejectingReactions.trans h_orderly.unfailing.accepts⟩
  unforeseen := h_orderly.unforeseen.of_reactions (Nat.le_of_eq h_used.nextId.symm) fun node => by
    rw [Scene.reactions, Scene.reactions, h_used.nodes]

/-- **Every act but forgetting a record on demand** leaves everything in order. -/
theorem Stable.orderly : Stable (fun a => ∀ group, a ≠ .purge group) Orderly where
  quiet := fun h_alike h_orderly =>
    ⟨Stable.tied.quiet h_alike h_orderly.tied, h_orderly.unfailing, h_orderly.unforeseen⟩
  act := by
    intro a s s' h h' h_may hr hb h_later h_step h_orderly
    have h_unforeseen := h_orderly.unforeseen
    refine ⟨Stable.tied.act h_may hr hb h_later h_step h_orderly.tied,
      h_later.unfailing h_orderly.unfailing, ?_⟩
    cases h_step with
    | load _ h_scene | purge h_scene =>
      rw [h_scene]
      exact h_unforeseen
    | create _ h_scene =>
      rw [h_scene]
      exact h_unforeseen.of_reactions (Nat.le_succ _) fun _ => rfl
    | close h_scene =>
      rw [h_scene]
      exact h_unforeseen.of_reactions (Nat.le_refl _) fun _ => rfl
    | analyse => exact h_unforeseen
    | sweep h_scene =>
      rw [h_scene]
      exact h_unforeseen.of_reactions (Nat.le_refl _) fun node => Scene.reactions_discard _ _ _
    | wire i part g collection _ _ _ h_between h_replaced h_wired =>
      -- retiring gives no ids out, and the reactions that are wired set variables that are there
      have h_accepts := h_orderly.unfailing.accepts
      have h_retired := h_unforeseen.retiredAll h_accepts s.config.collection
      refine Scene.Unforeseen.wired ?_ (h_later.built hb).wellFormed
        (h_between.kept.rejectingReactions.trans h_accepts) h_wired
      rw [h_replaced.scene]
      exact h_retired _

end Session

/-! ### Authoring -/

namespace Authoring

variable {s s' : Session} {h h' : Host} {i : Interaction} {g : Group} {a : Authoring}

/-- **Carrying out an interaction without nested actions** that is admitted is to wire it, once the
collection is there. -/
theorem carryOut_ends_of_alone {Q : Except Failure Authoring → Session → Host → Prop}
    (hr : h.Reliable) (h_alone : i.nestedActions = []) (h_admitted : s.admitted i = .ok g)
    (h_wire : ∀ collection h₀, Prepared s h h₀ →
      h₀.scene.collections.find? s.config.collection = some collection →
      (wire collection i g).Ends s h₀ fun r =>
        Q (r.map fun main => { interaction := i, group := g, main, nested := [] })) :
    (carryOut i).Ends s h Q := by
  refine carryOut_ends_of_proceed (fun e h_error => ?_) fun g' h_same =>
    proceed_ends_of_wireAll hr fun collection h₀ h_prepared h_collection => ?_
  · rw [h_admitted] at h_error
    cases h_error
  obtain rfl := Except.ok.inj (h_admitted.symm.trans h_same)
  rw [wireAll, h_alone]
  refine (h_wire collection h₀ h_prepared h_collection).bind ?_ ?_
  · exact fun _ _ _ _ h_main => h_main
  · exact fun _ _ _ _ h_error => h_error

/-- **The interaction stands**: it is on record and stored, what belonged to it before is gone, and
its group has been wired since, from the host `h₁` on. -/
structure Stands (i : Interaction) (g : Group) (collection : String) (h₁ : Host) (w : Wiring)
    (s : Session) (h : Host) : Prop where
  group : s.context.group i.group = .ok g
  setting : (Setting.parse? i.primaryAction).isSome = true
  record : s.records.find? i.group = some i
  unowned : ∀ group r, s.records.find? group = some r → ownedBy i.id r.id = false
  stored : h.storage.texts.find? (s.config.storageKey i.group) = some i.text
  ready : Ready s.config.collection collection i g h₁.scene
  built : h₁.scene.Built
  unfailing : h₁.Unfailing
  later : h₁.Later h
  performed : Performed collection i g s.config h₁ w h.scene
  wired : Wired collection i g h₁.scene h.scene

section First

variable {s₁ : Session} {h₀ h₁ : Host} {collection : String} {w : Wiring}
  (h_replaced : Replaced (retiring (s₁.records.find? i.group) i) i s₁ s' h₀ h₁)

include h_replaced

/-- **Putting an interaction on record readies its group.** -/
theorem ready_of_replaced (h_orderly : s₁.Orderly h₀) (hb : h₁.scene.Built)
    (h_later : h₀.Later h₁) (h_group : s₁.context.group i.group = .ok g)
    (h_collection : h₀.scene.collections.find? s₁.config.collection = some collection) :
    Ready s₁.config.collection collection i g h₁.scene where
  wellFormed := hb.wellFormed
  managed := by
    rw [h_replaced.collections]
    exact h_collection
  unowned := by
    intro id v hv h_in
    rw [h_replaced.scene] at hv
    refine (Scene.find?_retiredAll.mp hv).2 ?_ i.id (Records.mem_retiring.mpr (Or.inl rfl))
    rw [h_in]
    exact h_collection
  unbound := fun node h_mem n hn =>
    h_orderly.tied.bindings_eq_empty hb h_later h_group h_replaced h_mem hn
  accepts := (h_later.unfailing h_orderly.unfailing).accepts
  unforeseen := by
    rw [h_replaced.scene]
    exact h_orderly.unforeseen.retiredAll h_orderly.unfailing.accepts _ _

/-- **An interaction that was put on record and wired stands.** -/
theorem Stands.of_replaced (h_orderly : s₁.Orderly h₀) (hb : h₁.scene.Built)
    (h_later : h₀.Later h₁) (h_group : s₁.context.group i.group = .ok g)
    (h_setting : (Setting.parse? i.primaryAction).isSome = true)
    (h_collection : h₀.scene.collections.find? s₁.config.collection = some collection)
    (h_later' : h₁.Later h') (h_storage : h'.storage = h₁.storage)
    (h_performed : Performed collection i g s'.config h₁ w h'.scene)
    (h_wired : Wired collection i g h₁.scene h'.scene) : Stands i g collection h₁ w s' h' := by
  have h_ready := ready_of_replaced h_replaced h_orderly hb h_later h_group h_collection
  refine ⟨?_, h_setting, h_replaced.find?_self, fun group r h_record => ?_, ?_, ?_, hb,
    h_later.unfailing h_orderly.unfailing, h_later', h_performed, h_wired⟩
  · rw [h_replaced.context]
    exact h_group
  · -- no record belongs to the interaction, neither its own nor one that was left
    rcases h_replaced.of_find? h_record with ⟨-, rfl⟩ | ⟨-, -, h_none⟩
    · exact Records.ownedBy_self r.id
    · rw [List.any_eq_false] at h_none
      exact Bool.eq_false_iff.mpr (h_none i.id (Records.mem_retiring.mpr (Or.inl rfl)))
  · rw [h_storage, h_replaced.config]
    exact h_replaced.stored h_orderly.unfailing.stores
  · rw [h_replaced.config]
    exact h_ready

end First

/-- **An interaction that is authored stands.** -/
theorem carryOut_stands (h_orderly : s.Orderly h) (hb : h.scene.Built)
    (h_alone : i.nestedActions = []) (h_admitted : s.admitted i = .ok g) :
    (carryOut i).Ends s h fun r s' h' => ∀ a, r = .ok a → (∃ records, s' = { s with records }) ∧
      a.group = g ∧ ∃ collection h₁, Stands i g collection h₁ a.main s' h' := by
  have hr := h_orderly.unfailing.reliable
  obtain ⟨h_group, h_setting⟩ := Session.admitted_eq_ok_iff.mp h_admitted
  refine carryOut_ends_of_alone hr h_alone h_admitted fun collection h₀ h_prepared h_collection => ?_
  have h_orderly₀ : s.Orderly h₀ :=
    Session.Stable.orderly.steps hr hb (h_prepared.steps (fun _ => nofun) .refl) h_orderly
  have hr₀ := h_orderly₀.unfailing.reliable
  have hb₀ := h_prepared.later.built hb
  refine (wire_ends hr₀ hb₀ h_collection i g).mono ?_
  rintro r s' h' - (⟨⟨e, rfl⟩, -⟩ | ⟨w, s₁, h₁, rfl, h_loaded, h_later, h_later', h_replaced,
    h_performed, h_wired, h_storage⟩) a h_result
  · cases h_result
  obtain rfl := Except.ok.inj h_result
  have h_orderly₁ : s₁.Orderly h₀ := Session.Stable.orderly.act
    (a := .load i.group) (fun _ h_load => by cases h_load) hr₀ hb₀ (.refl h₀)
    (.load h_loaded rfl rfl) h_orderly₀
  have h_group₁ : s₁.context.group i.group = .ok g := by
    rw [h_loaded.context]
    exact h_group
  have h_collection₁ : h₀.scene.collections.find? s₁.config.collection = some collection := by
    rw [h_loaded.config]
    exact h_collection
  refine ⟨?_, rfl, collection, h₁, .of_replaced h_replaced h_orderly₁ (h_later.built hb₀) h_later
    h_group₁ h_setting h_collection₁ h_later' h_storage h_performed h_wired⟩
  -- looking up and putting on record change the records only
  have h_memory := h_replaced.memory
  rcases h_loaded.memory with rfl | ⟨-, j, rfl⟩ <;> exact ⟨_, h_memory⟩

section Second

variable {collection : String} {h₁ : Host} {w : Wiring}

/-- **Instances of the group** set new variables only. -/
theorem Stands.sets_new (h_stands : Stands i g collection h₁ w s h) {node target : String}
    (h_mem : node ∈ g.instances.map (·.id)) (h_sets : h.scene.Sets node target) :
    ¬∃ v, h₁.scene.variableTable.find? target = some v := by
  have h_accepts : node ∉ h₁.scene.rejectingReactions := by
    rw [h_stands.unfailing.accepts]
    exact List.not_mem_nil
  rintro ⟨v, hv⟩
  rw [(h_stands.wired.reactions node h_mem h_accepts target h_sets).1] at hv
  cases hv

/-- **What is put on record once more** changes no records. -/
theorem Stands.replaced (h_stands : Stands i g collection h₁ w s h) {s₁ : Session} {h₂ h₃ : Host}
    (h_records : s₁.records = s.records) (h_replaced : Replaced [i.id] i s₁ s' h₂ h₃) :
    s'.records = s.records ∧ ∀ group, ¬Records.Drops [i.id] s₁ group := by
  have h_unowned : ∀ group r, s₁.records.find? group = some r →
      [i.id].any (ownedBy · r.id) = false := by
    intro group r h_record
    rw [h_records] at h_record
    simp [h_stands.unowned group r h_record]
  refine ⟨?_, fun group ⟨r, h_record, h_owned⟩ => ?_⟩
  · have h_kept : s₁.records.filter (fun _ record => !([i.id].any (ownedBy · record.id))) =
        s₁.records := by
      refine Registry.filter_eq_self fun e he => ?_
      rw [h_unowned e.1 e.2 (Registry.find?_eq_some_iff.mpr he)]
      rfl
    rw [h_replaced.memory, Records.dropOwned, h_kept, h_records]
    exact Registry.insert_of_find? h_stands.record
  · rw [h_unowned group r h_record] at h_owned
    cases h_owned

/-- **The group is wired as before** once the interaction is retired. -/
theorem Stands.performed_again (h_stands : Stands i g collection h₁ w s h)
    {h₂ h₃ : Host} {w' : Wiring} {t : Scene} (h_later : h.Later h₂) (h_later' : h₂.Later h₃)
    (h_clicked : Scene.Revalued (fun id => ∃ v, h₁.scene.variableTable.find? id = some v)
      h.scene h₂.scene)
    (h_retired : h₃.scene = h₂.scene.retired s.config.collection i.id)
    (h_performed : Performed collection i g s.config h₃ w' t) :
    w'.table = w.table ∧ ∃ ρ next, t = h.scene.renamed ρ next := by
  have h_ready := h_stands.ready
  have h_since := h_stands.later.trans (h_later.trans h_later')
  have hu₁ := h_stands.unfailing
  have hu₃ := h_since.unfailing hu₁
  have hs₃ := (h_since.built h_stands.built).wellFormed
  obtain ⟨property, ps, rs, h_equipped⟩ := h_stands.performed.eq_equipped
  have h_stage : h.scene.stage = h₁.scene.stage := by
    rw [h_equipped, Wiring.equipped]
    simp
  have h_grown : h₁.scene.variableTable.entries <+: h.scene.variableTable.entries := by
    rw [h_equipped]
    exact Wiring.grown_equipped h_ready.wellFormed.fresh _ _ _ _
  -- nothing is left of the first time but the counter and reactions of the group
  have h_table := h_stands.wired.variableTable_retired h_ready h_clicked h_grown
  have h_cleared := h_stands.wired.retired h_ready h_clicked (h_retired ▸ hs₃)
    (h_retired ▸ h_since.kept) h_stage h_grown
  have h_unbound : ∀ node ∈ g.instances.map (·.id), ∀ n, h₃.scene.nodes.find? node = some n →
      n.bindings = ∅ := by
    intro node h_mem n hn
    rw [h_retired] at hn
    exact h_stands.wired.bindings_retired h_ready h_clicked (h_retired ▸ hs₃) h_table h_mem hn
  rw [← h_retired] at h_cleared
  exact h_stands.performed.again h_performed hu₁.reliable hu₃.reliable (hu₁.spares _)
    (hu₃.spares _) h_since.kept h_ready h_unbound h_cleared

/-- **The group of an interaction that stands is wired once more**, after clicks that change nothing
but values of its own variables: this compiles the same table, and leads to the same scene under
other ids and to the same records. -/
theorem Stands.wire_again (h_stands : Stands i g collection h₁ w s h) {s₁ : Session} {h₂ : Host}
    (h_config : s₁.config = s.config) (h_records : s₁.records = s.records) (h_later : h.Later h₂)
    (h_storage : h₂.storage = h.storage)
    (h_managed : h₂.scene.collections.find? s₁.config.collection = some collection)
    (h_clicked : Scene.Revalued (fun id => ∃ v, h₁.scene.variableTable.find? id = some v)
      h.scene h₂.scene) :
    (wire collection i g).Ends s₁ h₂ fun r s' h' =>
      (∃ w', r = .ok w' ∧ w'.table = w.table) ∧ s'.records = s.records ∧
      (∃ ρ next, h'.scene = h.scene.renamed ρ next) ∧
      ∀ group, h'.storage.texts.find? (s.config.storageKey group) =
        h.storage.texts.find? (s.config.storageKey group) := by
  have hu₂ := (h_stands.later.trans h_later).unfailing h_stands.unfailing
  have hb₂ := (h_stands.later.trans h_later).built h_stands.built
  have h_record : s₁.records.find? i.group = some i := by
    rw [h_records]
    exact h_stands.record
  refine (wire_ends hu₂.reliable hb₂ h_managed i g).mono ?_
  -- the record is there, so it is not looked up
  rintro r s' h₄ - (⟨-, h_none, -⟩ | ⟨w', s₂, h₃, rfl, h_loaded, h_later', -, h_replaced,
    h_performed, -, h_storage'⟩)
  · rw [h_record] at h_none
    cases h_none
  obtain rfl : s₂ = s₁ := h_loaded.eq_of_find? h_record
  have h_only : retiring (some i) i = [i.id] := by simp [retiring]
  rw [h_record, h_only] at h_replaced
  obtain ⟨h_kept, h_drops⟩ := h_stands.replaced h_records h_replaced
  have h_config' : s'.config = s.config := h_replaced.config.trans h_config
  rw [h_config'] at h_performed
  have h_retired : h₃.scene = h₂.scene.retired s.config.collection i.id := by
    rw [← h_config]
    exact h_replaced.scene
  obtain ⟨h_table, h_scene⟩ :=
    h_stands.performed_again h_later h_later' h_clicked h_retired h_performed
  refine ⟨⟨w', rfl, h_table⟩, h_kept, h_scene, fun group => ?_⟩
  rw [h_storage', ← h_storage]
  by_cases h_own : group = i.group
  · rw [h_own, h_storage, h_stands.stored, ← h_config]
    exact h_replaced.stored hu₂.stores
  · rw [← h_config]
    exact h_replaced.kept group h_own (h_drops group)

/-- **An interaction that stands can be authored once more**, after such clicks. -/
theorem Stands.again (h_stands : Stands i g collection h₁ w s h) (h_alone : i.nestedActions = [])
    {s₁ : Session} {h₂ : Host} (h_config : s₁.config = s.config)
    (h_groups : s₁.context.groups = s.context.groups) (h_records : s₁.records = s.records)
    (h_later : h.Later h₂) (h_storage : h₂.storage = h.storage)
    (h_clicked : Scene.Revalued (fun id => ∃ v, h₁.scene.variableTable.find? id = some v)
      h.scene h₂.scene) :
    (carryOut i).Ends s₁ h₂ fun r s' h' =>
      (∃ a, r = .ok a ∧ a.main.table = w.table) ∧ s'.records = s.records ∧
      (∃ ρ next, h'.scene = h.scene.renamed ρ next) ∧
      ∀ group, h'.storage.texts.find? (s.config.storageKey group) =
        h.storage.texts.find? (s.config.storageKey group) := by
  have hu₂ := (h_stands.later.trans h_later).unfailing h_stands.unfailing
  have h_group₁ : s₁.context.group i.group = .ok g := by
    rw [← h_stands.group, Context.group, Context.group, h_groups]
  have h_managed : h₂.scene.collections.find? s₁.config.collection = some collection := by
    obtain ⟨f, -, -, h_scene⟩ := h_clicked
    rw [h_scene, h_config]
    exact h_stands.wired.extended.collections ▸ h_stands.ready.managed
  refine carryOut_ends_of_alone hu₂.reliable h_alone
    (Session.admitted_eq_ok_iff.mpr ⟨h_group₁, h_stands.setting⟩)
    fun collection' h₀ h_prepared h_collection => ?_
  -- the collection is there, so it is not created
  obtain rfl : h₀ = h₂ := by
    rcases h_prepared.scene with h_same | ⟨h_absent, -⟩
    · exact h_same
    · rw [h_managed] at h_absent
      cases h_absent
  obtain rfl : collection = collection' := by
    rw [h_managed] at h_collection
    exact Option.some.inj h_collection
  refine (h_stands.wire_again h_config h_records h_later h_storage h_managed h_clicked).mono ?_
  rintro r s' h' - ⟨⟨w', rfl, h_table⟩, h_rest⟩
  exact ⟨⟨_, rfl, h_table⟩, h_rest⟩

end Second

end Authoring

/-! ### Histories -/

namespace World

/-- **Clicks** change nothing but the values of variables that the nodes set. -/
theorem after_clicks {w : World Unit} {fixed : String → Prop} (nodes : List String)
    (h_sets : ∀ node ∈ nodes, ∀ target, w.host.scene.Sets node target → ¬fixed target) :
    (w.after (nodes.map .click)).current = w.current ∧
      (w.after (nodes.map .click)).host.storage = w.host.storage ∧
      w.host.Later (w.after (nodes.map .click)).host ∧
      Scene.Revalued fixed w.host.scene (w.after (nodes.map .click)).host.scene := by
  induction nodes using List.reverseRecOn with
  | nil => exact ⟨rfl, rfl, .refl _, .refl _ _⟩
  | append_singleton nodes node ih =>
    obtain ⟨h_current, h_storage, h_later, h_revalued⟩ :=
      ih fun node' h_mem => h_sets node' (List.mem_append_left _ h_mem)
    have h_after : w.after ((nodes ++ [node]).map .click) =
        (w.after (nodes.map .click)).advance (.click node) := by
      rw [after, List.map_append, List.foldl_append]
      rfl
    have h_click : (w.after (nodes.map .click)).host.Later
        ((w.after (nodes.map .click)).advance (.click node)).host :=
      ⟨fun _ hs => hs, fun hb => hb.step (.click node), (Scene.Used.click _ node).kept, rfl⟩
    rw [h_after]
    exact ⟨h_current, h_storage, h_later.trans h_click,
      h_revalued.click (h_sets node (List.mem_append_right _ List.mem_cons_self))⟩

/-- **Authoring an interaction once more changes nothing but ids.** Let a session begin on a host
that does not fail and on a scene that can be built, where no property is bound and no reaction sets
a variable whose id is still to be given out. After any messages that do not ask to forget the
stored records, any selections and clicks, let an interaction without nested actions be accepted.
Then instances of its group are clicked, in any order, and the same message comes again. It is
accepted, and compiles the same table. The scene is what it was when the message had been handled
first, under other ids of variables: the variables with their order, names and values, the bindings
and the reactions of every node. The records in memory and in the storage are the same. -/
theorem reauthored_after (w w₁ : World Unit) (moves : List Move) (config : Config)
    (listeners : List String) (h_start : w.current = Session.start config listeners)
    (h_built : w.host.scene.Built) (h_unfailing : w.host.Unfailing)
    (h_unbound : ∀ node n, w.host.scene.nodes.find? node = some n → n.bindings = ∅)
    (h_unforeseen : w.host.scene.Unforeseen) (h_calm : ∀ m ∈ moves, m.Calm)
    (h_retains : ∀ m ∈ moves, m.Retains config) (h_reached : w.after moves = w₁)
    (inbound : Inbound) (i : Interaction) (a : Authoring) (h_alone : i.nestedActions = [])
    (h_accepts : w₁.current.Accepts w₁.host inbound i a) (clicked : List String)
    (h_clicked : ∀ node ∈ clicked, node ∈ a.group.instances.map (·.id)) :
    let w₂ := w₁.advance (.message inbound)
    let w₃ := w₂.after (clicked.map .click)
    let w₄ := w₃.advance (.message inbound)
    ∃ a' ρ next, w₃.current.Accepts w₃.host inbound i a' ∧ w₄.current.lastAuthoring = some a' ∧
      a'.main.table = a.main.table ∧ w₄.host.scene = w₂.host.scene.renamed ρ next ∧
      w₄.current.records = w₂.current.records ∧
      ∀ group, w₄.host.storage.texts.find? (config.storageKey group) =
        w₂.host.storage.texts.find? (config.storageKey group) := by
  intro w₂ w₃ w₄
  have h_initial : w.current.Configured config ∧ w.current.Orderly w.host := by
    rw [h_start]
    refine ⟨⟨rfl, rfl⟩, .of_unbound (fun g hg => ?_) h_unbound, h_unfailing, h_unforeseen⟩
    cases hg
  have h_moves : ∀ m ∈ moves, m.Keeps fun s h => s.Configured config ∧ s.Orderly h :=
    fun m hm => (h_retains m hm).keeps (h_calm m hm) Session.Stable.orderly
      fun _ _ _ h_used h_orderly => h_orderly.used h_used
  obtain ⟨h_sound, ⟨h_config, h_handlers⟩, h_orderly⟩ :=
    World.after_keeps h_moves ⟨h_unfailing.reliable, h_built⟩ h_initial
  rw [h_reached] at h_sound h_config h_handlers h_orderly
  have h_handler : ∀ {s : Session}, s.handlers = w₁.current.handlers →
      s.handlers.find? "create-interaction" = some .author := by
    intro s h_same
    rw [h_same, h_handlers]
    rfl
  -- the first time: the interaction stands
  have h_alike : w₁.current.Alike w₁.current.enter := ⟨rfl, rfl, rfl, rfl⟩
  have h_orderly' : w₁.current.enter.Orderly w₁.host :=
    Session.Stable.orderly.quiet (h := w₁.host) h_alike h_orderly
  obtain ⟨g, h_admitted, -⟩ := Authoring.of_carryOut h_accepts.carried
  obtain ⟨⟨records, h_memory⟩, rfl, collection, h₁, h_stands⟩ :=
    Authoring.carryOut_stands h_orderly' h_sound.built h_alone h_admitted a h_accepts.carried
  obtain ⟨h_host, outbox, h_current⟩ := World.advance_accepted (h_handler rfl) h_accepts
  -- clicks on its instances assign its own variables only
  have h_sets : ∀ node ∈ clicked, ∀ target, w₂.host.scene.Sets node target →
      ¬∃ v, h₁.scene.variableTable.find? target = some v := by
    intro node h_mem target h_sets
    rw [h_host] at h_sets
    exact h_stands.sets_new (h_clicked node h_mem) h_sets
  obtain ⟨h_current₃, h_storage₃, h_later₃, h_revalued⟩ := after_clicks clicked h_sets
  rw [h_host] at h_storage₃ h_later₃ h_revalued
  rw [h_current, h_memory] at h_current₃
  -- the second time
  rw [h_memory] at h_stands
  have h_again : (Authoring.carryOut i).Ends w₃.current.enter w₃.host _ :=
    h_stands.again h_alone (by rw [h_current₃]; rfl) (by rw [h_current₃]; rfl)
      (by rw [h_current₃]; rfl) h_later₃ h_storage₃ h_revalued
  obtain ⟨⟨a', h_carried, h_table⟩, h_records, ⟨ρ, next, h_scene⟩, h_texts⟩ :=
    h_again
  have h_accepts₃ : w₃.current.Accepts w₃.host inbound i a' := by
    refine ⟨?_, ?_, ?_, h_carried⟩
    · rw [h_current₃]
      exact h_accepts.opened
    · rw [h_current₃]
      rfl
    · rw [h_current₃]
      exact h_accepts.asks
  obtain ⟨h_host₄, outbox', h_current₄⟩ :=
    World.advance_accepted (h_handler (by rw [h_current₃]; rfl)) h_accepts₃
  refine ⟨a', ρ, next, h_accepts₃, ?_, h_table, ?_, ?_, fun group => ?_⟩
  · rw [h_current₄]
    rfl
  · rw [h_host₄, h_host]
    exact h_scene
  · rw [h_current₄, h_current, h_memory]
    exact h_records
  · rw [h_host₄, h_host, ← h_config]
    exact h_texts group

/-- The badges are authored with the tabs, and the tabs by themselves. Both tabs are clicked, and
the tabs are authored once more. -/
theorem reauthored_after_clicks :
    ∃ w₁ a, panel.after [.notice, .message (.authoring (.switchingOn "badges" 1 ["tabs"])),
        .click "badge-1"] = w₁ ∧
      w₁.current.Accepts w₁.host (.authoring (.switchingOn "tabs" 2 []))
        (.switchingOn "tabs" 2 []) a ∧
      let w₂ := w₁.advance (.message (.authoring (.switchingOn "tabs" 2 [])))
      let w₃ := w₂.after (["tab-1", "tab-2"].map .click)
      let w₄ := w₃.advance (.message (.authoring (.switchingOn "tabs" 2 [])))
      ∃ a' ρ next, w₃.current.Accepts w₃.host (.authoring (.switchingOn "tabs" 2 []))
          (.switchingOn "tabs" 2 []) a' ∧
        w₄.current.lastAuthoring = some a' ∧ a'.main.table = a.main.table ∧
        w₄.host.scene = w₂.host.scene.renamed ρ next ∧
        w₄.current.records = w₂.current.records ∧
        ∀ group, w₄.host.storage.texts.find? (({} : Config).storageKey group) =
          w₂.host.storage.texts.find? (({} : Config).storageKey group) := by
  obtain ⟨w₁, h_reached⟩ : ∃ w₁, panel.after [.notice,
    .message (.authoring (.switchingOn "badges" 1 ["tabs"])), .click "badge-1"] = w₁ := ⟨_, rfl⟩
  obtain ⟨a, h_accepts⟩ : ∃ a, w₁.current.Accepts w₁.host
      (.authoring (.switchingOn "tabs" 2 [])) (.switchingOn "tabs" 2 []) a := by
    refine accepts_authoring ?_ rfl ?_ <;> rw [← h_reached] <;> decide +kernel
  have h_instances : a.group.instances.map (·.id) = ["tab-1", "tab-2"] := by
    have h_carried : ((Authoring.carryOut (.switchingOn "tabs" 2 [])).outcome w₁.current.enter
        w₁.host).1.toOption.map (fun a => a.group.instances.map (·.id)) =
        some ["tab-1", "tab-2"] := by
      rw [← h_reached]
      decide +kernel
    rw [h_accepts.carried] at h_carried
    exact Option.some.inj h_carried
  refine ⟨w₁, a, h_reached, h_accepts, ?_⟩
  refine reauthored_after panel w₁ _ {} [] rfl Scene.built_panel
    ⟨fun _ => rfl, rfl, by decide +kernel⟩ (Scene.unbound_of_entries (by decide +kernel))
    (Scene.attached_panel.unforeseen Scene.built_panel.wellFormed) (fun m hm => ?_)
    (fun m hm => ?_) h_reached _ _ a rfl h_accepts _ fun node h_mem => ?_
  · simp only [List.mem_cons, List.not_mem_nil, or_false] at hm
    rcases hm with rfl | rfl | rfl <;> trivial
  · simp only [List.mem_cons, List.not_mem_nil, or_false] at hm
    rcases hm with rfl | rfl | rfl
    · trivial
    · exact Move.retains_authoring _ _
    · trivial
  · rw [h_instances]
    exact h_mem

/-- The panel with a reaction that sets a variable which is not there yet. -/
def foreseeing : World Unit :=
  { panel with host := { scene := (Scene.panel.operate (.setReactions "panel"
      [{ actions := [⟨"VariableID:3", "On"⟩] }])).2 } }

/-- **A reaction that sets a variable to come is lost.** The variable is added when the tabs are
authored, and the reaction stays. When they are authored once more, the variable is retired, and the
reaction with it. -/
theorem foresight_lost :
    foreseeing.host.scene.Built ∧ foreseeing.host.Unfailing ∧
    (∀ node n, foreseeing.host.scene.nodes.find? node = some n → n.bindings = ∅) ∧
    let w₁ := foreseeing.after [.notice]
    let w₂ := w₁.advance (.message (.authoring (.switchingOn "tabs" 1 [])))
    let w₃ := w₂.after [.click "tab-1"]
    let w₄ := w₃.advance (.message (.authoring (.switchingOn "tabs" 1 [])))
    (∃ a, w₁.current.Accepts w₁.host (.authoring (.switchingOn "tabs" 1 []))
      (.switchingOn "tabs" 1 []) a ∧ "tab-1" ∈ a.group.instances.map (·.id)) ∧
    (∃ a, w₃.current.Accepts w₃.host (.authoring (.switchingOn "tabs" 1 []))
      (.switchingOn "tabs" 1 []) a) ∧
    ¬∃ ρ : Equiv.Perm String, ∀ node, w₄.host.scene.reactions node =
      (w₂.host.scene.reactions node).map (·.rename ρ) := by
  refine ⟨Scene.built_panel.step _, ⟨fun _ => rfl, rfl, by decide +kernel⟩,
    Scene.unbound_of_entries (by decide +kernel), ?_⟩
  refine ⟨?_, accepts_authoring (by decide +kernel) rfl (by decide +kernel), ?_⟩
  · obtain ⟨a, h_accepts⟩ : ∃ a, (foreseeing.after [.notice]).current.Accepts
        (foreseeing.after [.notice]).host (.authoring (.switchingOn "tabs" 1 []))
        (.switchingOn "tabs" 1 []) a :=
      accepts_authoring (by decide +kernel) rfl (by decide +kernel)
    have h_clicked : ((Authoring.carryOut (.switchingOn "tabs" 1 [])).outcome
        (foreseeing.after [.notice]).current.enter (foreseeing.after [.notice]).host).1.toOption.map
        (fun a => a.group.instances.any (·.id == "tab-1")) = some true := by
      decide +kernel
    rw [h_accepts.carried] at h_clicked
    obtain ⟨j, hj, h_id⟩ := List.any_eq_true.mp (Option.some.inj h_clicked)
    exact ⟨a, h_accepts, List.mem_map.mpr ⟨j, hj, beq_iff_eq.mp h_id⟩⟩
  · rintro ⟨ρ, h_same⟩
    -- one reaction of the panel the first time, none the second
    have h_count := congrArg List.length (h_same "panel")
    rw [List.length_map] at h_count
    exact absurd h_count (by decide +kernel)

end World

end Clickwork
