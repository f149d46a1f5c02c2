import Clickwork.Proofs.Tied
import Clickwork.Proofs.Traced

/-!
# Nests

A nested action takes a group over for the interaction that it is nested in: the group is the nest
of its owner (`Nest`). The owner holds the nest as long as it is on record itself, what is on record
for the group belongs to it, and every instance of the group sets a variable that belongs to it
(`Nest.Held`). A nest is free when nothing is on record for it, the owner has no variables and the
instances are at rest (`Nest.Free`).

Retiring goes by what belongs to an interaction. When the owner is retired, or something that it
belongs to, the record of the nest is dropped, the variables are removed and the instances that set
them are cleared (`Held.released`). Otherwise the nest is held on (`Held.replaced`). So a nest is
held or free however a session goes on, unless records are forgotten on demand or something is wired
onto the group (`Stable.stands`).

An instance that sets nothing is found by no retiring. A nested action that resolves to no property
leaves the instances with a reaction that does nothing, and there it stays (`Nest.AtRest`).
-/

namespace Clickwork

open Discovery (Families family?)
open Records (Drops Loaded Replaced ownedBy retiring)

/-! ### Records that are known -/

/-- What is on record for a group that is known is in memory. -/
theorem Session.Knows.find? {s : Session} {h : Host} {group : String} (h_knows : s.Knows h group)
    {i : Interaction} (h_found : s.recorded h group = .ok (some i)) :
    s.records.find? group = some i := by
  cases h_record : s.records.find? group with
  | some j =>
    rw [Session.recorded_of_find? h_record] at h_found
    exact Except.ok.inj h_found
  | none =>
    rw [Session.recorded_of_absent h_record, Host.recorded_of_absent (h_knows h_record)] at h_found
    cases h_found

/-! ### Scenes -/

namespace Scene

/-- **A scene from which variables have gone that nothing set**, with other values in those that are
left. -/
structure Trimmed (t t' : Scene) : Prop where
  kept : Kept t t'
  reactions : ∀ node, t'.reactions node = t.reactions node
  collections : t'.collections = t.collections
  nextId : t'.nextId = t.nextId
  old : ∀ id v', t'.variableTable.find? id = some v' → ∃ v, t.variableTable.find? id = some v ∧
    v.name = v'.name ∧ v.collection = v'.collection
  /-- What is set is there on. -/
  set : ∀ node id v, t.Sets node id → t.variableTable.find? id = some v →
    ∃ v', t'.variableTable.find? id = some v' ∧ v'.name = v.name ∧ v'.collection = v.collection

theorem Trimmed.of_used {t t' : Scene} (h : t.Used t') : t.Trimmed t' where
  kept := h.kept
  reactions := fun node => by rw [Scene.reactions, Scene.reactions, h.nodes]
  collections := h.collections
  nextId := h.nextId
  old := fun _ _ hv => h.find? hv
  set := fun _ _ _ _ hv => h.symm.find? hv

theorem Trimmed.refl (t : Scene) : t.Trimmed t :=
  .of_used (.refl t)

theorem Trimmed.close (t : Scene) : t.Trimmed t.close :=
  .of_used ⟨⟨rfl, rfl, rfl, rfl, rfl⟩, rfl, rfl, rfl, fun _ => rfl⟩

theorem Trimmed.discard {t : Scene} {ids : List String} (h_kept : Kept t (t.discard ids))
    (h_unset : ∀ id ∈ ids, ∀ node, ¬t.Sets node id) : t.Trimmed (t.discard ids) where
  kept := h_kept
  reactions := reactions_discard t ids
  collections := rfl
  nextId := rfl
  old := by
    intro id v' hv'
    rw [find?_discard] at hv'
    split at hv'
    · cases hv'
    · exact ⟨v', hv', rfl, rfl⟩
  set := by
    intro node id v h_sets hv
    refine ⟨v, ?_, rfl, rfl⟩
    rw [find?_discard, if_neg fun h_mem => h_unset id h_mem node h_sets]
    exact hv

/-- More variables do not take the place of any that may have been there. -/
theorem Extended.find?_of_issued {collection : String} {named : String → Prop} {t t' : Scene}
    (h : Extended collection named t t') {id : String} (h_issued : Issued variableId t.nextId id)
    {v : Variable} (hv : t'.variableTable.find? id = some v) :
    t.variableTable.find? id = some v := by
  rcases h.new id v hv with h_old | ⟨-, -, -, n, hn, -, rfl⟩
  · exact h_old
  · obtain ⟨m, hm, h_same⟩ := h_issued
    have := variableId_injective h_same
    omega

end Scene

/-! ### Nests -/

/-- **A group that a nested action has taken over.** -/
structure Nest where
  /-- The interaction that the action is nested in. -/
  owner : Interaction
  group : String
  /-- The instances of the group. -/
  nodes : List String
  /-- Whether they may be left with a reaction that does nothing. -/
  inert : Prop
  /-- The ids of the owner's variables, of all groups. -/
  states : String → Prop

namespace Nest

variable (N : Nest)

/-- **The reactions of an instance are at rest**: there are none, or one that does nothing if it may
be left. -/
def AtRest (reactions : List Reaction) : Prop :=
  reactions = [] ∨ N.inert ∧ reactions = [{}]

/-- **The owner has a variable**: it is managed, and its name belongs to the owner. -/
def Has (s : Session) (t : Scene) (v : Scene.Variable) : Prop :=
  t.collections.find? s.config.collection = some v.collection ∧ ownedBy N.owner.id v.name = true

/-- **The owner drives a node**, which sets a variable of its own. -/
def Drives (s : Session) (t : Scene) (node : String) : Prop :=
  ∃ id v, t.Sets node id ∧ t.variableTable.find? id = some v ∧ N.Has s t v

/-- **What a nest is surrounded by**: the storage works, nodes accept reactions, the collection of
managed variables is there, and the groups of the session are families, among them the instances of
the nest. The session knows its record. -/
structure Around (s : Session) (h : Host) : Prop where
  stores : h.Stores
  accepts : h.scene.rejectingReactions = []
  collection : ∃ c, h.scene.collections.find? s.config.collection = some c
  families : Families h.scene s.context.groups
  family : ∀ node ∈ N.nodes, family? h.scene node = some N.group
  knows : s.Knows h N.group
  issued : ∀ id, N.states id → Scene.Issued Scene.variableId h.scene.nextId id

/-- **The owner holds the nest**: it is on record, and what is on record for the nest and what its
instances set belongs to it. -/
structure Held (s : Session) (h : Host) : Prop where
  record : ∃ r, s.records.find? N.owner.group = some r ∧ r.id = N.owner.id
  nested : ∀ r, s.records.find? N.group = some r → ownedBy N.owner.id r.id = true
  reactions : ∀ node ∈ N.nodes, N.AtRest (h.scene.reactions node) ∨ N.Drives s h.scene node
  states : ∀ id v, N.states id → h.scene.variableTable.find? id = some v → N.Has s h.scene v

/-- **The nest is free**: nothing is on record for it, the owner's variables are gone, and its
instances are at rest. -/
structure Free (s : Session) (h : Host) : Prop where
  memory : s.records.find? N.group = none
  reactions : ∀ node ∈ N.nodes, N.AtRest (h.scene.reactions node)
  states : ∀ id, N.states id → h.scene.variableTable.find? id = none

/-- **A nest is held or free.** -/
structure Stands (s : Session) (h : Host) : Prop where
  around : N.Around s h
  state : N.Held s h ∨ N.Free s h

variable {N} {s s' : Session} {h h₁ h' : Host} {q : Interaction} {g : Group} {collection : String}
  {ids : List String}

theorem Has.congr {t t' : Scene} {v v' : Scene.Variable} (h_has : N.Has s t v)
    (h_config : s'.config = s.config) (h_collections : t'.collections = t.collections)
    (h_name : v'.name = v.name) (h_collection : v'.collection = v.collection) :
    N.Has s' t' v' := by
  rw [Has, h_config, h_collections, h_name, h_collection]
  exact h_has

/-- The surroundings stay what they are. -/
theorem Around.kept (h_around : N.Around s h) (h_stores : h'.Stores)
    (h_kept : Scene.Kept h.scene h'.scene) (h_config : s'.config = s.config)
    (h_collections : h'.scene.collections = h.scene.collections)
    (h_families : Families h'.scene s'.context.groups) (h_knows : s'.Knows h' N.group)
    (h_next : h.scene.nextId ≤ h'.scene.nextId) : N.Around s' h' where
  stores := h_stores
  accepts := h_kept.rejectingReactions.trans h_around.accepts
  collection := by
    rw [h_config, h_collections]
    exact h_around.collection
  families := h_families
  family := by
    intro node h_mem
    rw [h_kept.family?]
    exact h_around.family node h_mem
  knows := h_knows
  issued := fun id h_id => (h_around.issued id h_id).mono h_next

/-! #### Trimming -/

section Trimmed

variable (h_trimmed : h.scene.Trimmed h'.scene) (h_config : s'.config = s.config)
  (h_nest : s'.records.find? N.group = s.records.find? N.group)
include h_trimmed h_config h_nest

/-- A nest is held on while variables go that nothing sets. -/
theorem Held.trimmed (h_held : N.Held s h) (h_owner : ∀ r,
    s.records.find? N.owner.group = some r → s'.records.find? N.owner.group = some r) :
    N.Held s' h' := by
  obtain ⟨r, hr, h_id⟩ := h_held.record
  refine ⟨⟨r, h_owner r hr, h_id⟩, fun r hr => h_held.nested r (h_nest.symm.trans hr),
    fun node h_mem => ?_, fun id v' h_id hv' => ?_⟩
  · rw [h_trimmed.reactions]
    refine (h_held.reactions node h_mem).imp_right ?_
    rintro ⟨id, v, h_sets, hv, h_has⟩
    obtain ⟨v', hv', h_name, h_collection⟩ := h_trimmed.set node id v h_sets hv
    exact ⟨id, v', (Scene.Sets.congr (h_trimmed.reactions node)).mpr h_sets, hv',
      h_has.congr h_config h_trimmed.collections h_name h_collection⟩
  · obtain ⟨v, hv, h_name, h_collection⟩ := h_trimmed.old id v' hv'
    exact (h_held.states id v h_id hv).congr h_config h_trimmed.collections h_name.symm
      h_collection.symm

omit h_config in
theorem Free.trimmed (h_free : N.Free s h) : N.Free s' h' := by
  refine ⟨h_nest.trans h_free.memory, fun node h_mem => ?_, fun id h_id => ?_⟩
  · rw [h_trimmed.reactions]
    exact h_free.reactions node h_mem
  · refine Option.eq_none_iff_forall_ne_some.mpr fun v' hv' => ?_
    obtain ⟨v, hv, -⟩ := h_trimmed.old id v' hv'
    cases (h_free.states id h_id).symm.trans hv

end Trimmed

/-- **A nest stands** while variables go that nothing sets and records are looked up. -/
theorem Stands.trimmed (h_stands : N.Stands s h) (h_trimmed : h.scene.Trimmed h'.scene)
    (h_stores : h'.Stores) (h_storage : h'.storage = h.storage) (h_config : s'.config = s.config)
    (h_families : Families h'.scene s'.context.groups)
    (h_nest : s'.records.find? N.group = s.records.find? N.group)
    (h_owner : ∀ r, s.records.find? N.owner.group = some r →
      s'.records.find? N.owner.group = some r) : N.Stands s' h' where
  around := h_stands.around.kept h_stores h_trimmed.kept h_config h_trimmed.collections h_families
    (h_stands.around.knows.congr h_config h_nest h_storage) (Nat.le_of_eq h_trimmed.nextId.symm)
  state := h_stands.state.imp (fun h_held => h_held.trimmed h_trimmed h_config h_nest h_owner)
    fun h_free => h_free.trimmed h_trimmed h_nest

section Loaded

variable {group : String} (h_around : N.Around s h) (h_loaded : Loaded group h s s')
include h_around h_loaded

theorem Around.loaded : N.Around s' h :=
  h_around.kept h_around.stores (.refl _) h_loaded.config rfl
    (h_loaded.context ▸ h_around.families)
    (h_around.knows.congr h_loaded.config
      (h_around.knows.find?_loaded h_around.stores h_loaded) rfl) (Nat.le_refl _)

/-- A nest is held on while a record is looked up. -/
theorem Held.loaded (h_held : N.Held s h) : N.Held s' h :=
  h_held.trimmed (.refl _) h_loaded.config (h_around.knows.find?_loaded h_around.stores h_loaded)
    fun _ hr => h_loaded.find?_kept hr

end Loaded

/-! #### Putting interactions on record -/

/-- Retiring leaves at rest what is. -/
theorem AtRest.replaced {node : String} (h_rest : N.AtRest (h.scene.reactions node))
    (h_accepts : h.scene.rejectingReactions = []) (h_replaced : Replaced ids q s s' h h₁) :
    N.AtRest (h₁.scene.reactions node) := by
  rw [h_replaced.scene]
  rcases Scene.reactions_retiredAll h_accepts ids with h_same | h_clear
  · rw [h_same]
    exact h_rest
  · exact .inl h_clear

/-- A node that the owner drives is cleared when the variable that it sets is retired, and is driven
afterwards otherwise. -/
theorem Drives.replaced {node : String} (h_drives : N.Drives s h.scene node)
    (h_accepts : h.scene.rejectingReactions = []) (h_replaced : Replaced ids q s s' h h₁) :
    h₁.scene.reactions node = [] ∨ N.Drives s' h₁.scene node := by
  obtain ⟨id, v, h_sets, hv, h_has⟩ := h_drives
  have h_left : (ids.foldl (Scene.retired s.config.collection) h.scene).reactions node =
      h.scene.reactions node ∨ _ = [] := Scene.reactions_retiredAll h_accepts ids
  rw [h_replaced.scene]
  rcases h_left with h_same | h_clear
  · have h_sets' := (Scene.Sets.congr h_same).mpr h_sets
    exact .inr ⟨id, v, h_sets', (h_sets'.of_retiredAll h_accepts).2 v hv,
      h_has.congr h_replaced.config (Scene.collections_retiredAll _ _ _) rfl rfl⟩
  · exact .inl h_clear

/-- What has a variable after retiring had it before. -/
theorem Replaced.has {v : Scene.Variable} (h_replaced : Replaced ids q s s' h h₁) :
    N.Has s' h₁.scene v ↔ N.Has s h.scene v := by
  rw [Has, Has, h_replaced.config, h_replaced.collections]

/-- **The owner holds the nest on**, as long as it stays on record. -/
theorem Held.replaced (h_held : N.Held s h) (h_around : N.Around s h)
    (h_replaced : Replaced ids q s s' h h₁) (h_other : q.group ≠ N.group)
    (h_record : ∃ r, s'.records.find? N.owner.group = some r ∧ r.id = N.owner.id) :
    N.Held s' h₁ := by
  refine ⟨h_record, fun r hr => ?_, fun node h_mem => ?_, fun id v h_id hv => ?_⟩
  · by_cases h_drops : Drops ids s N.group
    · cases (h_replaced.find?_gone (Ne.symm h_other) h_drops).symm.trans hr
    · rw [h_replaced.find?_kept (Ne.symm h_other) h_drops] at hr
      exact h_held.nested r hr
  · rcases h_held.reactions node h_mem with h_rest | h_drives
    · exact .inl (h_rest.replaced h_around.accepts h_replaced)
    · exact (h_drives.replaced h_around.accepts h_replaced).imp_left .inl
  · refine (Replaced.has h_replaced).mpr (h_held.states id v h_id ?_)
    rw [h_replaced.scene] at hv
    exact (Scene.find?_retiredAll.mp hv).1

/-- **The nest is released** when the owner is retired, or something that it belongs to. -/
theorem Held.released (h_held : N.Held s h) (h_around : N.Around s h)
    (h_replaced : Replaced ids q s s' h h₁) (h_other : q.group ≠ N.group)
    (h_retired : ∃ id ∈ ids, id = N.owner.id ∨ ownedBy id N.owner.id = true) :
    N.Free s' h₁ := by
  obtain ⟨id, h_mem, h_owner⟩ := h_retired
  have h_owns {name : String} (h_name : ownedBy N.owner.id name = true) :
      ownedBy id name = true := by
    rcases h_owner with rfl | h_owner
    · exact h_name
    · exact Records.ownedBy_trans h_owner h_name
  -- none of the variables that are left is the owner's
  have h_left {target : String} {v : Scene.Variable}
      (hv : h₁.scene.variableTable.find? target = some v) : ¬N.Has s h.scene v := by
    rw [h_replaced.scene] at hv
    intro h_has
    cases ((Scene.find?_retiredAll.mp hv).2 h_has.1 id h_mem).symm.trans (h_owns h_has.2)
  refine ⟨?_, fun node h_node => ?_, fun target h_target => ?_⟩
  · by_cases h_drops : Drops ids s N.group
    · exact h_replaced.find?_gone (Ne.symm h_other) h_drops
    · rw [h_replaced.find?_kept (Ne.symm h_other) h_drops]
      refine Option.eq_none_iff_forall_ne_some.mpr fun r hr => h_drops ⟨r, hr, ?_⟩
      exact List.any_eq_true.mpr ⟨id, h_mem, h_owns (h_held.nested r hr)⟩
  · rcases h_held.reactions node h_node with h_rest | h_drives
    · exact h_rest.replaced h_around.accepts h_replaced
    · rcases h_drives.replaced h_around.accepts h_replaced with h_clear | h_drives
      · exact .inl h_clear
      · obtain ⟨target, v, -, hv, h_has⟩ := h_drives
        exact (h_left hv ((Replaced.has h_replaced).mp h_has)).elim
  · refine Option.eq_none_iff_forall_ne_some.mpr fun v hv => h_left hv ?_
    rw [h_replaced.scene] at hv
    exact h_held.states target v h_target (Scene.find?_retiredAll.mp hv).1

/-- A free nest stays free. -/
theorem Free.replaced (h_free : N.Free s h) (h_around : N.Around s h)
    (h_replaced : Replaced ids q s s' h h₁) (h_other : q.group ≠ N.group) : N.Free s' h₁ := by
  refine ⟨?_, fun node h_mem => (h_free.reactions node h_mem).replaced h_around.accepts h_replaced,
    fun id h_id => ?_⟩
  · have h_kept : ¬Drops ids s N.group := by
      rintro ⟨r, hr, -⟩
      cases h_free.memory.symm.trans hr
    rw [h_replaced.find?_kept (Ne.symm h_other) h_kept]
    exact h_free.memory
  · refine Option.eq_none_iff_forall_ne_some.mpr fun v hv => ?_
    rw [h_replaced.scene] at hv
    cases (h_free.states id h_id).symm.trans (Scene.find?_retiredAll.mp hv).1

/-- **Putting an interaction on record for another group** leaves the nest held or free. -/
theorem Held.replaced_or_released (h_held : N.Held s h) (h_around : N.Around s h)
    (h_replaced : Replaced (retiring (s.records.find? q.group) q) q s s' h h₁)
    (h_other : q.group ≠ N.group) : N.Held s' h₁ ∨ N.Free s' h₁ := by
  obtain ⟨r, hr, h_id⟩ := h_held.record
  by_cases h_retired : ∃ id ∈ retiring (s.records.find? q.group) q,
      id = N.owner.id ∨ ownedBy id N.owner.id = true
  · exact .inr (h_held.released h_around h_replaced h_other h_retired)
  · refine .inl (h_held.replaced h_around h_replaced h_other ⟨r, ?_, h_id⟩)
    have h_group : N.owner.group ≠ q.group := by
      intro h_same
      refine h_retired ⟨N.owner.id, Records.mem_retiring.mpr (.inr ⟨r, ?_, h_id.symm⟩), .inl rfl⟩
      rw [← h_same]
      exact hr
    rw [h_replaced.find?_kept h_group, hr]
    rintro ⟨r', hr', h_any⟩
    obtain rfl := Option.some.inj (hr.symm.trans hr')
    obtain ⟨id, h_mem, h_owned⟩ := List.any_eq_true.mp h_any
    exact h_retired ⟨id, h_mem, .inr (h_id ▸ h_owned)⟩

/-! #### Wiring groups -/

/-- The instances of the nest are none of another group. -/
theorem Around.not_mem (h_around : N.Around s h) (h_group : s.context.group q.group = .ok g)
    (h_other : q.group ≠ N.group) : ∀ node ∈ N.nodes, node ∉ g.instances.map (·.id) := by
  intro node h_mem h_instance
  obtain ⟨hg, h_id⟩ := Context.group_eq_ok h_group
  obtain ⟨i, hi, rfl⟩ := List.mem_map.mp h_instance
  have h_family := (h_around.families g hg).2 i hi
  rw [h_around.family _ h_mem] at h_family
  exact h_other (h_id.symm.trans (Option.some.inj h_family).symm)

section Wired

variable (h_wired : Wiring.Wired collection q g h₁.scene h'.scene)
  (h_apart : ∀ node ∈ N.nodes, node ∉ g.instances.map (·.id))
  (h_issued : ∀ id, N.states id → Scene.Issued Scene.variableId h₁.scene.nextId id)
include h_wired h_apart h_issued

/-- **Wiring another group** does not concern a nest that is held. -/
theorem Held.wired (h_held : N.Held s h₁) : N.Held s h' := by
  have h_collections := h_wired.extended.collections
  have h_same {node : String} (h_mem : node ∈ N.nodes) :
      h'.scene.reactions node = h₁.scene.reactions node := by
    rw [Scene.reactions, Scene.reactions, h_wired.frame node (h_apart node h_mem)]
  refine ⟨h_held.record, h_held.nested, fun node h_mem => ?_, fun id v h_id hv => ?_⟩
  · rw [h_same h_mem]
    refine (h_held.reactions node h_mem).imp_right ?_
    rintro ⟨id, v, h_sets, hv, h_has⟩
    exact ⟨id, v, (Scene.Sets.congr (h_same h_mem)).mpr h_sets, h_wired.extended.old _ _ hv,
      h_has.congr rfl h_collections rfl rfl⟩
  · exact (h_held.states id v h_id (h_wired.extended.find?_of_issued (h_issued id h_id) hv)).congr
      rfl h_collections rfl rfl

/-- It gives variables new ids, so a nest that is free stays so. -/
theorem Free.wired (h_free : N.Free s h₁) : N.Free s h' := by
  refine ⟨h_free.memory, fun node h_mem => ?_, fun id h_id => ?_⟩
  · rw [Scene.reactions, h_wired.frame node (h_apart node h_mem)]
    exact h_free.reactions node h_mem
  · refine Option.eq_none_iff_forall_ne_some.mpr fun v hv => ?_
    cases (h_free.states id h_id).symm.trans
      (h_wired.extended.find?_of_issued (h_issued id h_id) hv)

end Wired

theorem Around.wired (h_around : N.Around s h) (h_later : h.Later h')
    (h_replaced : Replaced ids q s s' h h₁)
    (h_wired : Wiring.Wired collection q g h₁.scene h'.scene)
    (h_storage : h'.storage = h₁.storage) : N.Around s' h' := by
  refine h_around.kept (h_later.stores h_around.stores) h_later.kept h_replaced.config ?_ ?_ ?_ ?_
  · rw [h_wired.extended.collections, h_replaced.collections]
  · rw [h_replaced.context]
    exact h_around.families.kept h_later.kept
  · exact (h_around.knows.replaced h_around.stores h_replaced).congr rfl rfl h_storage
  · refine Nat.le_trans ?_ h_wired.extended.next_le
    exact Nat.le_of_eq h_replaced.nextId.symm

/-- What was issued before is issued when an interaction was put on record. -/
theorem Around.issued_replaced (h_around : N.Around s h) (h_replaced : Replaced ids q s s' h h₁)
    (id : String) (h_id : N.states id) : Scene.Issued Scene.variableId h₁.scene.nextId id := by
  rw [h_replaced.nextId]
  exact h_around.issued id h_id

/-- **A nest stands** when something is wired onto another group. -/
theorem Stands.wired (h_stands : N.Stands s h) (h_later : h.Later h')
    (h_group : s.context.group q.group = .ok g) (h_other : q.group ≠ N.group)
    (h_replaced : Replaced (retiring (s.records.find? q.group) q) q s s' h h₁)
    (h_wired : Wiring.Wired collection q g h₁.scene h'.scene)
    (h_storage : h'.storage = h₁.storage) : N.Stands s' h' := by
  obtain ⟨h_around, h_state⟩ := h_stands
  have h_apart := h_around.not_mem h_group h_other
  have h_issued := h_around.issued_replaced h_replaced
  refine ⟨h_around.wired h_later h_replaced h_wired h_storage, ?_⟩
  rcases h_state with h_held | h_free
  · exact (h_held.replaced_or_released h_around h_replaced h_other).imp
      (fun h_held' => h_held'.wired h_wired h_apart h_issued)
      fun h_free' => h_free'.wired h_wired h_apart h_issued
  · exact .inr ((h_free.replaced h_around h_replaced h_other).wired h_wired h_apart h_issued)

end Nest

/-! ### Whatever a session does -/

/-- **A nest stands whatever a session does**, unless it forgets a record on demand or wires
something onto the group. -/
theorem Session.Stable.stands (N : Nest) :
    Stable (fun a => (∀ group, a ≠ .purge group) ∧ ∀ i part, a = .wire i part →
      part.group ≠ N.group) fun s h => N.Stands s h where
  quiet := by
    intro s s' h h_alike h_stands
    refine h_stands.trimmed (.refl _) h_stands.around.stores rfl h_alike.config ?_ ?_ ?_
    · rw [h_alike.groups]
      exact h_stands.around.families
    · rw [h_alike.records]
    · rw [h_alike.records]
      exact fun _ hr => hr
  act := by
    rintro a s s' h h' ⟨h_retains, h_apart⟩ - - h_later h_step h_stands
    have h_stores := h_later.stores h_stands.around.stores
    have h_families := h_stands.around.families.kept h_later.kept
    cases h_step with
    | load h_loaded h_scene h_storage =>
      refine h_stands.trimmed (h_scene ▸ .refl _) h_stores h_storage h_loaded.config ?_
        (h_stands.around.knows.find?_loaded h_stands.around.stores h_loaded)
        fun r hr => h_loaded.find?_kept hr
      rw [h_loaded.context]
      exact h_families
    | create h_absent =>
      -- the collection has been there since the nest was made
      obtain ⟨c, hc⟩ := h_stands.around.collection
      cases h_absent.symm.trans hc
    | analyse h_families' =>
      exact h_stands.trimmed (.refl _) h_stores rfl rfl h_families' rfl fun _ hr => hr
    | wire i part g collection _ h_group _ _ h_replaced h_wired h_storage =>
      exact h_stands.wired h_later h_group (h_apart i part rfl) h_replaced h_wired h_storage
    | sweep h_scene h_unset h_storage =>
      have h_kept := h_later.kept
      rw [h_scene] at h_kept
      exact h_stands.trimmed (h_scene ▸ .discard h_kept h_unset) h_stores h_storage rfl h_families
        rfl fun _ hr => hr
    | purge => exact (h_retains _ rfl).elim
    | close h_scene h_storage =>
      exact h_stands.trimmed (h_scene ▸ .close _) h_stores h_storage rfl h_families rfl
        fun _ hr => hr

/-- **Moves that retain the records and wire nothing onto the group** leave a nest standing. -/
theorem Nest.Stands.keeps {N : Nest} {config : Config} {m : Move} (hm : m.Retains config)
    (h_calm : m.Calm)
    (h_apart : ∀ i, m.Asks config.limits i → ∀ part ∈ i.parts, part.group ≠ N.group) :
    m.Keeps fun s h => s.Configured config ∧ N.Stands s h := by
  refine hm.keeps_wiring h_calm h_apart (Session.Stable.stands N) fun s h t h_scene h_stands => ?_
  obtain ⟨h_available, h_spares⟩ := h_stands.around.stores
  refine h_stands.trimmed (.of_used h_scene) ⟨h_available, h_spares⟩ rfl rfl ?_ rfl fun _ hr => hr
  exact h_stands.around.families.kept h_scene.kept

/-! ### The run that makes a nest -/

namespace Authoring

variable {N : Nest} {collection : String} {q : Interaction} {g : Group} {x : Wiring}
  {s s' : Session} {h h' : Host} {parts : List Interaction} {xs : List Wiring}

/-- The record of a part's group is known when the part was wired. -/
theorem Wires.knows_self (h_wires : Wires collection q g x s h s' h') : s'.Knows h' q.group := by
  obtain ⟨_, _, -, -, h_replaced, -⟩ := h_wires
  intro h_none
  cases h_replaced.find?_self.symm.trans h_none

theorem Wires.knows (h_wires : Wires collection q g x s h s' h') (hs : h.Stores) {group : String}
    (h_knows : s.Knows h group) : s'.Knows h' group := by
  obtain ⟨_, h₁, -, -, h_replaced, -, -, -, h_storage⟩ := h_wires
  have h_loaded := Records.loaded_recalling s h q.group
  have h_recalled : (s.recalling h q.group).Knows h group :=
    h_knows.congr h_loaded.config (h_knows.find?_loaded hs h_loaded) rfl
  exact (h_recalled.replaced hs h_replaced).congr rfl rfl h_storage

/-- **The records of the groups of all parts are known** at the end of a run. -/
theorem Trace.knows (h_trace : Trace collection parts xs s h s' h')
    (h_works : s.Works collection h) (h_mem : q ∈ parts) : s'.Knows h' q.group := by
  induction h_trace with
  | nil => cases h_mem
  | cons h_group h_wires h_rest ih =>
    have h_works₁ := h_wires.works h_works
    rcases List.mem_cons.mp h_mem with rfl | h_mem
    · exact h_rest.keeps h_works₁ h_wires.knows_self fun _ _ h_works₂ _ h_wires₂ h_knows =>
        h_wires₂.knows h_works₂.stores h_knows
    · exact ih h_works₁ h_mem

theorem Wires.around (h_wires : Wires collection q g x s h s' h') (h_around : N.Around s h) :
    N.Around s' h' := by
  have h_later := h_wires.later
  obtain ⟨_, h₁, -, -, h_replaced, -, -, h_wired, h_storage⟩ := h_wires
  exact (h_around.loaded (Records.loaded_recalling s h q.group)).wired h_later h_replaced h_wired h_storage

/-- **Wiring a part on another group** keeps a nest held whose owner stays on record. -/
theorem Wires.held (h_wires : Wires collection q g x s h s' h') (h_around : N.Around s h)
    (h_held : N.Held s h) (h_group : s.context.group q.group = .ok g) (h_other : q.group ≠ N.group)
    (h_record : ∃ r, s'.records.find? N.owner.group = some r ∧ r.id = N.owner.id) :
    N.Held s' h' := by
  obtain ⟨_, h₁, -, -, h_replaced, -, -, h_wired, -⟩ := h_wires
  have h_loaded := Records.loaded_recalling s h q.group
  have h_around' := h_around.loaded h_loaded
  have h_held' := h_held.loaded h_around h_loaded
  exact (h_held'.replaced h_around' h_replaced h_other h_record).wired h_wired
    (h_around.not_mem h_group h_other) (h_around'.issued_replaced h_replaced)

/-- **A nest is held at the end of a run** in which nothing else is wired onto it, if its owner is
still on record then. -/
theorem Trace.held (h_trace : Trace collection parts xs s h s' h') (h_works : s.Works collection h)
    (h_around : N.Around s h) (h_knows : s.Knows h N.owner.group)
    (h_held : s.recorded h N.owner.group = .ok (some N.owner) → N.Held s h)
    (h_apart : ∀ q ∈ parts, q.group ≠ N.group ∧ q.group ≠ N.owner.group)
    (h_record : s'.recorded h' N.owner.group = .ok (some N.owner)) :
    N.Around s' h' ∧ N.Held s' h' := by
  have h_end := h_trace.keeps (I := fun s₁ h₁ => N.Around s₁ h₁ ∧ s₁.Knows h₁ N.owner.group ∧
    (s₁.recorded h₁ N.owner.group = .ok (some N.owner) → N.Held s₁ h₁)) h_works
    ⟨h_around, h_knows, h_held⟩ ?_
  · exact ⟨h_end.1, h_end.2.2 h_record⟩
  rintro q g x s₁ h₁ s₂ h₂ hq h_context h_works₁ h_group h_wires ⟨h_around, h_knows, h_held⟩
  obtain ⟨h_other, h_owner⟩ := h_apart q hq
  have h_knows' := h_wires.knows h_works₁.stores h_knows
  refine ⟨h_wires.around h_around, h_knows', fun h_recorded => ?_⟩
  -- an owner that is on record now has been so before
  have h_before : s₁.recorded h₁ N.owner.group = .ok (some N.owner) := by
    rcases h_wires.recorded_other h_works₁.stores (Ne.symm h_owner) with h_same | h_none
    · exact h_same.symm.trans h_recorded
    · cases h_none.symm.trans h_recorded
  exact h_wires.held h_around (h_held h_before) (h_context ▸ h_group) h_other
    ⟨N.owner, h_knows'.find? h_recorded, rfl⟩

end Authoring

end Clickwork
