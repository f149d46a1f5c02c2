import Clickwork.Proofs.Owned

/-!
# Groups that are authored apart

When ids are made for groups without underscores, interactions on different groups keep to
themselves (`Session.Separate`): an instance is bound to managed variables of its own group's
interaction only, and sets no others if its group has an interaction on record. Authoring keeps it
so (`Stable.separate`).

The invariant begins to hold when an analysis has found groups and nothing has been authored yet
(`Separate.of_blank`).
-/

namespace Clickwork

open Interaction (MadeFor)
open Records (Loaded Replaced retiring)

/-- **An instance belongs to one group only**, as far as ids of groups tell. -/
theorem Discovery.Families.id_eq {t : Scene} {groups : List Group} (h_families : Families t groups)
    {g g' : Group} (hg : g ∈ groups) (hg' : g' ∈ groups) {i : Instance} (hi : i ∈ g.instances)
    (h_mem : i.id ∈ g'.instances.map (·.id)) : g.id = g'.id := by
  obtain ⟨i', hi', h_id⟩ := List.mem_map.mp h_mem
  have h_family := (h_families g hg).2 i hi
  rw [← h_id, (h_families g' hg').2 i' hi'] at h_family
  exact (Option.some.inj h_family).symm

/-- The parts of an interaction that was authored on a group have ids made for their groups. -/
theorem Interaction.madeFor_of_mem_parts {i part : Interaction} (h_part : part ∈ i.parts)
    {t : Int} (h_id : i.id = freshId i.group (.int t)) (h_group : '_' ∉ i.group.toList) :
    MadeFor part.group part.id := by
  rcases List.mem_cons.mp h_part with rfl | h_mem
  · rw [h_id]
    exact .authored t
  · obtain ⟨action, -, rfl⟩ := List.mem_map.mp h_mem
    rw [nested, h_id]
    exact .nested i.group t h_group

namespace Session

variable {s s' : Session} {h h' : Host}

/-! ### Records and groups -/

/-- **The storage works and agrees with the records**, nodes accept reactions, and the groups are
families. -/
structure Consistent (s : Session) (h : Host) : Prop where
  stores : h.Stores
  accepts : h.scene.rejectingReactions = []
  families : Discovery.Families h.scene s.context.groups
  /-- A group without a record in memory has none in the storage. -/
  stored : ∀ group, s.records.find? group = none →
    h.storage.texts.find? (s.config.storageKey group) = none

/-- There is no stored record to be added. -/
theorem Consistent.of_loaded (hs : s.Consistent h) {group : String}
    (h_loaded : Loaded group h s s') : s' = s := by
  rcases h_loaded.memory with h_same | ⟨h_none, -⟩
  · exact h_same
  · exact h_loaded.nothing hs.stores (hs.stored group h_none)

theorem Stable.consistent : Stable (fun a => ∀ group, a ≠ .purge group) Consistent where
  quiet := by
    intro s s' h h_alike hs
    refine ⟨hs.stores, hs.accepts, ?_, ?_⟩
    · rw [h_alike.groups]
      exact hs.families
    · rw [h_alike.records, h_alike.config]
      exact hs.stored
  act := by
    rintro a s s' h h' h_may - - h_later h_step hs
    have h_stores := h_later.stores hs.stores
    have h_accepts := h_later.kept.rejectingReactions.trans hs.accepts
    have h_families := hs.families.kept h_later.kept
    cases h_step with
    | load h_loaded _ h_storage =>
      obtain rfl := hs.of_loaded h_loaded
      exact ⟨h_stores, h_accepts, h_families, h_storage ▸ hs.stored⟩
    | create _ _ h_storage | sweep _ _ h_storage | close _ h_storage =>
      exact ⟨h_stores, h_accepts, h_families, h_storage ▸ hs.stored⟩
    | analyse h_found => exact ⟨h_stores, h_accepts, h_found, hs.stored⟩
    | purge => exact (h_may _ rfl).elim
    | wire i part g collection _ _ _ _ h_replaced _ h_storage =>
      refine ⟨h_stores, h_accepts, ?_, fun group => ?_⟩
      · rw [h_replaced.context]
        exact h_families
      · have h_knows : s.Knows h group := hs.stored group
        exact (h_knows.replaced hs.stores h_replaced).congr rfl rfl h_storage

/-! ### Separate groups -/

/-- **Interactions on different groups keep to themselves.** -/
structure Separate (s : Session) (h : Host) : Prop where
  consistent : s.Consistent h
  /-- Ids of groups are one piece. -/
  plain : ∀ g ∈ s.context.groups, '_' ∉ g.id.toList
  /-- Ids of interactions on record are made for their groups. -/
  made : ∀ group r, s.records.find? group = some r → MadeFor group r.id ∧ '_' ∉ group.toList
  /-- A managed variable that an instance is bound to is one of its group's interaction. -/
  bindings : ∀ group g, s.context.group group = .ok g → ∀ i ∈ g.instances,
    ∀ n property target v, h.scene.nodes.find? i.id = some n →
      n.bindings.find? property = some target → h.scene.variableTable.find? target = some v →
        h.scene.collections.find? s.config.collection = some v.collection →
          ∃ r, s.records.find? group = some r ∧ Wiring.Names r v.name
  /-- What an instance sets is a variable of its group's interaction, if there is one on record. -/
  reactions : ∀ group g r, s.context.group group = .ok g → s.records.find? group = some r →
    ∀ i ∈ g.instances, ∀ target, h.scene.Sets i.id target →
      ∃ v, h.scene.variableTable.find? target = some v ∧ Wiring.Names r v.name

/-- **The acts of authoring interactions** whose ids were made from their groups' ids. -/
def Authors : Act → Prop
  | .load _ | .create => True
  | .wire i part => part ∈ i.parts ∧ ∃ t : Int, i.id = Interaction.freshId i.group (.int t)
  | _ => False

/-- A change that leaves the groups, the nodes, the variables and the collections alone. -/
theorem Separate.of_eq (hs : s.Separate h) (h_consistent : s'.Consistent h')
    (h_groups : s'.context.groups = s.context.groups) (h_records : s'.records = s.records)
    (h_config : s'.config = s.config) (h_nodes : h'.scene.nodes = h.scene.nodes)
    (h_variables : h'.scene.variableTable = h.scene.variableTable)
    (h_collections : h'.scene.collections = h.scene.collections) : s'.Separate h' := by
  have h_group : ∀ group, s'.context.group group = s.context.group group := fun group => by
    rw [Context.group, h_groups, Context.group]
  have h_sets : ∀ node target, h'.scene.Sets node target ↔ h.scene.Sets node target := by
    intro node target
    exact Scene.Sets.congr (by rw [Scene.reactions, Scene.reactions, h_nodes])
  refine ⟨h_consistent, ?_, ?_, fun group g hg => ?_, fun group g r hg hr => ?_⟩
  · rw [h_groups]
    exact hs.plain
  · rw [h_records]
    exact hs.made
  · rw [h_group] at hg
    rw [h_nodes, h_variables, h_collections, h_config, h_records]
    exact hs.bindings group g hg
  · rw [h_group] at hg
    rw [h_records] at hr
    simp only [h_sets]
    rw [h_variables]
    exact hs.reactions group g r hg hr

theorem Separate.underscore_not_mem (hs : s.Separate h) {group : String} {g : Group}
    (h_group : s.context.group group = .ok g) : '_' ∉ group.toList := by
  obtain ⟨h_mem, rfl⟩ := Context.group_eq_ok h_group
  exact hs.plain g h_mem

/-- An instance of a group that is not the one being wired is not touched. -/
theorem Separate.not_mem_instances (hs : s.Separate h) {group group' : String} {g g' : Group}
    (h_group : s.context.group group = .ok g) (h_group' : s.context.group group' = .ok g')
    (h_other : group ≠ group') {i : Instance} (hi : i ∈ g.instances) :
    i.id ∉ g'.instances.map (·.id) := by
  obtain ⟨h_mem, h_id⟩ := Context.group_eq_ok h_group
  obtain ⟨h_mem', h_id'⟩ := Context.group_eq_ok h_group'
  intro h_instance
  have h_same := hs.consistent.families.id_eq h_mem h_mem' hi h_instance
  exact h_other (h_id.symm.trans (h_same.trans h_id'))

/-! ### Wiring a part of an interaction -/

section Wire

variable {part : Interaction} {g : Group} {collection : String} {h₁ : Host}
  (hs : s.Separate h) (h_group : s.context.group part.group = .ok g)
  (h_replaced : Replaced (retiring (s.records.find? part.group) part) part s s' h h₁)
  (h_wired : Wiring.Wired collection part g h₁.scene h'.scene)

include hs h_group h_replaced h_wired

/-- **A managed variable that an instance is bound to after wiring** is one of the interaction that
is on record for its group then. -/
theorem Separate.bindings_wired (hb : h₁.scene.Built) {group : String} {g' : Group}
    (h_group' : s.context.group group = .ok g') {i : Instance} (hi : i ∈ g'.instances)
    {n' : Scene.Node} {property target : String} {v : Scene.Variable}
    (hn' : h'.scene.nodes.find? i.id = some n') (h_bound : n'.bindings.find? property = some target)
    (hv : h'.scene.variableTable.find? target = some v)
    (h_managed : h.scene.collections.find? s.config.collection = some v.collection) :
    ∃ r, s'.records.find? group = some r ∧ Wiring.Names r v.name := by
  rcases h_wired.bindings i.id n' property target hn' h_bound with ⟨n, hn, h_bound⟩ | ⟨h_none, -⟩
  · -- what was bound before and is left belongs to a record that is left
    obtain ⟨v₁, hv₁⟩ := hb.wellFormed.target_exists i.id n property target hn h_bound
    obtain rfl := Option.some.inj ((h_wired.extended.old target v₁ hv₁).symm.trans hv)
    rw [h_replaced.scene] at hn hv₁
    obtain ⟨hv, h_left⟩ := Scene.find?_retiredAll.mp hv₁
    obtain ⟨n₀, hn₀, h_bound₀⟩ := Scene.bindings_retiredAll hn h_bound
    obtain ⟨r, h_record, h_name⟩ :=
      hs.bindings group g' h_group' i hi n₀ property target v₁ hn₀ h_bound₀ hv h_managed
    exact ⟨r, (h_replaced.keeps_owner (h_left h_managed) h_record h_name.ownedBy).2, h_name⟩
  · by_cases h_same : group = part.group
    · -- an instance of the wired group is bound to a new variable
      rcases h_wired.extended.new target v hv with h_old | ⟨-, -, h_name, -⟩
      · rw [h_none] at h_old
        cases h_old
      · exact ⟨part, h_same ▸ h_replaced.find?_self, h_name⟩
    · -- the node was left alone, so it was bound to a variable that was there
      have h_frame := h_wired.frame i.id (hs.not_mem_instances h_group' h_group h_same hi)
      rw [h_frame] at hn'
      obtain ⟨v₁, hv₁⟩ := hb.wellFormed.target_exists i.id n' property target hn' h_bound
      rw [h_none] at hv₁
      cases hv₁

/-- **What an instance sets after wiring** is a variable of the interaction that is on record for its
group then. -/
theorem Separate.reactions_wired {group : String} {g' : Group}
    (h_group' : s.context.group group = .ok g') {r : Interaction}
    (h_record : s'.records.find? group = some r) {i : Instance} (hi : i ∈ g'.instances)
    {target : String} (h_sets : h'.scene.Sets i.id target) :
    ∃ v, h'.scene.variableTable.find? target = some v ∧ Wiring.Names r v.name := by
  rcases h_replaced.of_find? h_record with ⟨rfl, rfl⟩ | ⟨h_other, h_record₀, -⟩
  · -- the reactions of the wired group are new
    obtain rfl := Except.ok.inj (h_group.symm.trans h_group')
    have h_accepts : i.id ∉ h₁.scene.rejectingReactions := by
      rw [h_replaced.scene, Scene.rejectingReactions_retiredAll, hs.consistent.accepts]
      exact List.not_mem_nil
    obtain ⟨h_none, v, hv⟩ :=
      h_wired.reactions i.id (List.mem_map_of_mem hi) h_accepts target h_sets
    rcases h_wired.extended.new target v hv with h_old | ⟨-, -, h_name, -⟩
    · rw [h_none] at h_old
      cases h_old
    · exact ⟨v, hv, h_name⟩
  · -- the reactions of other groups were there before, or were cleared
    have h_frame := h_wired.frame i.id (hs.not_mem_instances h_group' h_group h_other hi)
    have h_before : h₁.scene.Sets i.id target :=
      (Scene.Sets.congr (by rw [Scene.reactions, Scene.reactions, h_frame])).mp h_sets
    rw [h_replaced.scene] at h_before
    obtain ⟨h_before, h_kept⟩ := h_before.of_retiredAll hs.consistent.accepts
    obtain ⟨v, hv, h_name⟩ := hs.reactions group g' r h_group' h_record₀ i hi target h_before
    refine ⟨v, h_wired.extended.old target v ?_, h_name⟩
    rw [h_replaced.scene]
    exact h_kept v hv

/-- **Wiring onto one group leaves the groups separate.** -/
theorem Separate.wire (hb : h₁.scene.Built) (h_consistent : s'.Consistent h')
    (h_made : MadeFor part.group part.id) : s'.Separate h' where
  consistent := h_consistent
  plain := by
    rw [h_replaced.context]
    exact hs.plain
  made := by
    intro group r h_record
    rcases h_replaced.of_find? h_record with ⟨rfl, rfl⟩ | ⟨-, h_record₀, -⟩
    · exact ⟨h_made, hs.underscore_not_mem h_group⟩
    · exact hs.made group r h_record₀
  bindings := by
    rw [h_replaced.context, h_replaced.config, h_wired.extended.collections, h_replaced.collections]
    intro group g' h_group' i hi n' property target v hn' h_bound hv h_managed
    exact hs.bindings_wired h_group h_replaced h_wired hb h_group' hi hn' h_bound hv h_managed
  reactions := by
    rw [h_replaced.context]
    intro group g' r h_group' h_record i hi target h_sets
    exact hs.reactions_wired h_group h_replaced h_wired h_group' h_record hi h_sets

end Wire

/-- **Authoring leaves the groups separate.** -/
theorem Stable.separate : Stable Authors Separate where
  quiet := fun h_alike hs => hs.of_eq (Stable.consistent.quiet h_alike hs.consistent)
    h_alike.groups h_alike.records h_alike.config rfl rfl rfl
  act := by
    rintro a s s' h h' h_may hr hb h_later h_step hs
    have h_consistent : s'.Consistent h' :=
      Stable.consistent.act (fun group h_purge => by rw [h_purge] at h_may; exact h_may) hr hb
        h_later h_step hs.consistent
    cases h_step with
    | load h_loaded h_scene =>
      obtain rfl := hs.consistent.of_loaded h_loaded
      exact hs.of_eq h_consistent rfl rfl rfl (by rw [h_scene]) (by rw [h_scene]) (by rw [h_scene])
    | create h_absent h_scene =>
      have h_nodes : h'.scene.nodes = h.scene.nodes := by rw [h_scene]; rfl
      have h_variables : h'.scene.variableTable = h.scene.variableTable := by rw [h_scene]; rfl
      have h_sets : ∀ node target, h'.scene.Sets node target ↔ h.scene.Sets node target :=
        fun node target => Scene.Sets.congr (by rw [Scene.reactions, Scene.reactions, h_nodes])
      refine ⟨h_consistent, hs.plain, hs.made, ?_, ?_⟩
      · intro group g h_group i hi n property target v hn h_bound hv h_managed
        -- the collection is new, and no variable there is belongs to it
        rw [h_variables] at hv
        rw [h_scene] at h_managed
        exact (hb.wellFormed.collection_ne_created hv _ h_managed).elim
      · simp only [h_sets]
        rw [h_variables]
        exact hs.reactions
    | wire i part g collection h_authored h_group _ h_between h_replaced h_wired =>
      obtain ⟨h_part, t, h_id⟩ := h_may
      obtain ⟨g', h_group'⟩ := h_authored
      have h_made := Interaction.madeFor_of_mem_parts h_part h_id (hs.underscore_not_mem h_group')
      exact hs.wire h_group h_replaced h_wired (h_between.built hb) h_consistent h_made
    | analyse | sweep | purge | close => exact h_may.elim

theorem Consistent.used (hs : s.Consistent h) {t : Scene} (h_used : h.scene.Used t) :
    s.Consistent { h with scene := t } :=
  ⟨⟨hs.stores.available, hs.stores.spares⟩, h_used.kept.rejectingReactions.trans hs.accepts,
    hs.families.kept h_used.kept, hs.stored⟩

theorem Separate.used (hs : s.Separate h) {t : Scene} (h_used : h.scene.Used t) :
    s.Separate { h with scene := t } := by
  refine ⟨hs.consistent.used h_used, hs.plain, hs.made, ?_, ?_⟩
  · intro group g h_group i hi n property target v hn h_bound hv h_managed
    obtain ⟨v', hv', h_name, h_collection⟩ := h_used.find? hv
    change t.nodes.find? i.id = some n at hn
    change t.collections.find? s.config.collection = some v.collection at h_managed
    rw [h_used.nodes] at hn
    rw [h_used.collections, ← h_collection] at h_managed
    rw [← h_name]
    exact hs.bindings group g h_group i hi n property target v' hn h_bound hv' h_managed
  · intro group g r h_group h_record i hi target h_sets
    obtain ⟨v, hv, h_name⟩ := hs.reactions group g r h_group h_record i hi target
      ((h_used.sets i.id target).mp h_sets)
    obtain ⟨v', hv', h_name', -⟩ := h_used.symm.find? hv
    exact ⟨v', hv', h_name' ▸ h_name⟩

/-! ### Before anything is authored -/

/-- **The acts of an analysis.** -/
def Analyses : Act → Prop
  | .load _ | .create | .analyse => True
  | _ => False

/-- **Nothing has been authored**: there are neither records nor managed variables. -/
structure Blank (s : Session) (h : Host) : Prop where
  consistent : s.Consistent h
  covers : s.Covers h.scene
  records : ∀ group, s.records.find? group = none

theorem Blank.used (hs : s.Blank h) {t : Scene} (h_used : h.scene.Used t) :
    s.Blank { h with scene := t } :=
  ⟨hs.consistent.used h_used, hs.covers.used h_used, hs.records⟩

/-- **Analyses author nothing.** -/
theorem Stable.blank : Stable Analyses Blank where
  quiet := by
    intro s s' h h_alike hs
    refine ⟨Stable.consistent.quiet h_alike hs.consistent,
      Stable.covers.quiet h_alike hs.covers, fun group => ?_⟩
    rw [h_alike.records]
    exact hs.records group
  act := by
    rintro a s s' h h' h_may hr hb h_later h_step hs
    have h_retains : ∀ group, a ≠ .purge group := fun group h_purge => by
      rw [h_purge] at h_may
      exact h_may
    refine ⟨Stable.consistent.act h_retains hr hb h_later h_step hs.consistent,
      Stable.covers.act h_retains hr hb h_later h_step hs.covers, ?_⟩
    cases h_step with
    | load h_loaded =>
      obtain rfl := hs.consistent.of_loaded h_loaded
      exact hs.records
    | create | analyse => exact hs.records
    | wire | sweep | purge | close => exact h_may.elim

/-- Groups are separate as long as nothing has been authored. -/
theorem Separate.of_blank (hs : s.Blank h) (h_plain : ∀ g ∈ s.context.groups, '_' ∉ g.id.toList) :
    s.Separate h := by
  refine ⟨hs.consistent, h_plain, fun group r h_record => ?_, ?_, fun group g r _ h_record => ?_⟩
  · rw [hs.records] at h_record
    cases h_record
  · intro group g h_group i hi n property target v hn h_bound hv h_managed
    obtain ⟨group', r, h_record, -⟩ := hs.covers target v hv h_managed
    rw [hs.records] at h_record
    cases h_record
  · rw [hs.records] at h_record
    cases h_record

end Session

end Clickwork
