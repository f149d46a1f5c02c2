import Clickwork.Proofs.Names
import Clickwork.Proofs.Records
import Clickwork.Session.Authoring

/-!
# What authoring changes

`Wiring.Performed` tells what wiring an interaction onto a group comes to, markers included, and
`Authoring.equip_ends` that this is what happens. Often less is enough: wiring adds variables named
after the interaction and touches the instances of the group only (`Wiring.Wired`); whatever an
instance is bound to or sets afterwards that it was not bound to before is one of the new variables.

`Authoring.wire_ends` says the same of an interaction that is put on record first: either nothing
happens because the stored record of the group cannot be read, or the previous interaction is
replaced and the group is wired.
-/

namespace Clickwork

open Program (Ends)

variable {σ : Type}

namespace Wiring

/-! ### Wired groups -/

/-- A variable that was not there before. -/
def New (s s' : Scene) (id : String) : Prop :=
  s.variableTable.find? id = none ∧ ∃ v, s'.variableTable.find? id = some v

/-- **What wiring an interaction onto a group changes.** -/
structure Wired (collection : String) (i : Interaction) (g : Group) (s s' : Scene) : Prop where
  /-- There are more variables, named after the interaction. -/
  extended : Scene.Extended collection (Names i) s s'
  /-- Other nodes are left alone. -/
  frame : ∀ node, node ∉ g.instances.map (·.id) → s'.nodes.find? node = s.nodes.find? node
  /-- What is bound was bound before, or is bound to a new variable. -/
  bindings : ∀ node n' property target, s'.nodes.find? node = some n' →
    n'.bindings.find? property = some target →
      (∃ n, s.nodes.find? node = some n ∧ n.bindings.find? property = some target) ∨
        New s s' target
  /-- An instance that accepts reactions sets new variables only. -/
  reactions : ∀ node ∈ g.instances.map (·.id), node ∉ s.rejectingReactions →
    ∀ target, s'.Sets node target → New s s' target

section Wired

variable {collection : String} {i : Interaction} {g : Group} {s t u : Scene}

/-- Wiring after more variables were added. -/
theorem Wired.after_extended (h : Scene.Extended collection (Names i) s t)
    (h_nodes : t.nodes = s.nodes) (h_rejecting : t.rejectingReactions = s.rejectingReactions)
    (hw : Wired collection i g t u) : Wired collection i g s u := by
  have h_new : ∀ id, New t u id → New s u id := by
    rintro id ⟨h_none, h_there⟩
    refine ⟨?_, h_there⟩
    cases hv : s.variableTable.find? id with
    | none => rfl
    | some v =>
      rw [h.old id v hv] at h_none
      cases h_none
  refine ⟨h.trans hw.extended, fun node h_node => ?_, fun node n' property target hn ht => ?_,
    fun node h_mem h_accepts target h_sets => ?_⟩
  · rw [hw.frame node h_node, h_nodes]
  · rcases hw.bindings node n' property target hn ht with h_before | h_after
    · rw [h_nodes] at h_before
      exact Or.inl h_before
    · exact Or.inr (h_new target h_after)
  · exact h_new target (hw.reactions node h_mem (h_rejecting ▸ h_accepts) target h_sets)

/-- Reactions that set new variables are installed. -/
theorem Wired.of_installed {rs : List Reaction} (h : Scene.Extended collection (Names i) s t)
    (h_frame : ∀ node, node ∉ g.instances.map (·.id) → t.nodes.find? node = s.nodes.find? node)
    (h_bindings : ∀ node n' property target, t.nodes.find? node = some n' →
      n'.bindings.find? property = some target →
        (∃ n, s.nodes.find? node = some n ∧ n.bindings.find? property = some target) ∨
          New s t target)
    (h_rejecting : t.rejectingReactions = s.rejectingReactions)
    (h_targets : ∀ r ∈ rs, ∀ target ∈ r.targets, New s t target) :
    Wired collection i g s (t.placeAll (installations g.instances rs)) := by
  have h_variables :
      (t.placeAll (installations g.instances rs)).variableTable = t.variableTable := by
    rw [Scene.placeAll_eq]
  have h_placed : Scene.Extended collection (Names i) t
      (t.placeAll (installations g.instances rs)) := by
    rw [Scene.placeAll_eq]
    exact .of_eq rfl rfl rfl
  refine ⟨h.trans h_placed, fun node h_other => ?_, fun node n' property target hn ht => ?_,
    fun node h_mem h_accepts target h_sets => ?_⟩
  · -- reactions are placed at instances of the group only
    rw [Scene.find?_placeAll, ← h_frame node h_other]
    cases h_last : t.lastPlaced (installations g.instances rs) node with
    | none => exact Option.map_id'
    | some reactions => exact (h_other (of_lastPlaced_installations h_last).1).elim
  · -- placing reactions leaves bindings alone
    obtain ⟨n, hn, h_same⟩ := Scene.of_find?_placeAll hn
    rw [h_same] at ht
    rcases h_bindings node n property target hn ht with h_before | ⟨h_none, h_there⟩
    · exact Or.inl h_before
    · exact Or.inr ⟨h_none, by rwa [h_variables]⟩
  · -- an instance that accepts reactions is left with the last one placed at it
    obtain ⟨reactions, h_last⟩ := lastPlaced_installations_of_mem rs h_mem
      (h_rejecting ▸ h_accepts)
    obtain ⟨r, hr, h_target⟩ := h_sets
    rw [Scene.reactions, Scene.find?_placeAll, h_last] at hr
    have hr' : r ∈ reactions := by
      cases hn : t.nodes.find? node with
      | none => simp [hn] at hr
      | some n => simpa [hn, Scene.Node.react] using hr
    rcases (of_lastPlaced_installations h_last).2 with rfl | ⟨r', h_mem', rfl⟩
    · cases hr'
    · obtain rfl := List.mem_singleton.mp hr'
      obtain ⟨h_none, h_there⟩ := h_targets r h_mem' target h_target
      exact ⟨h_none, by rwa [h_variables]⟩

end Wired

/-- A group on which the property resolves is wired. -/
theorem Wired.of_assigns {h : Host} (hb : h.scene.Built) {collection : String} {i : Interaction}
    {g : Group} {primary : Setting} {property : String} {rs : List Reaction}
    (h_assigns : ∀ (k : Nat) (r : Reaction), rs[k]? = some r → ∃ values,
      r.Assigns (Scene.idsFrom h.scene.nextId g.instances.length) values) :
    Wired collection i g h.scene (wired (plan collection i primary property) h g rs) := by
  obtain ⟨ps, h_ps⟩ : ∃ ps, ps = placements (plan collection i primary property) h g.instances :=
    ⟨_, rfl⟩
  have h_fresh := hb.wellFormed.fresh
  have h_count : ps.length = g.instances.length := by
    rw [h_ps]
    simp [placements]
  have h_named : ∀ p ∈ ps, Names i p.name := by
    intro p h_mem
    rw [h_ps] at h_mem
    obtain ⟨⟨j, index⟩, -, rfl⟩ := List.mem_map.mp h_mem
    exact Or.inr ⟨index, primary.property, rfl⟩
  have h_placed : ∀ p ∈ ps, p.node ∈ g.instances.map (·.id) := by
    intro p h_mem
    rw [h_ps] at h_mem
    obtain ⟨⟨j, index⟩, hj, rfl⟩ := List.mem_map.mp h_mem
    exact List.mem_map_of_mem (List.fst_mem_of_mem_zipIdx hj)
  have h_new : ∀ k, k < ps.length → New h.scene (Scene.settleAll collection property h.scene ps)
      (Scene.variableId (h.scene.nextId + k)) := by
    intro k hk
    exact ⟨h_fresh _ (Nat.le_add_right _ _),
      _, Scene.find?_settleAll collection property h_fresh (List.getElem?_eq_getElem hk)⟩
  have h_nodes := Scene.nodes_settleAll collection property h.scene ps
  rw [wired, ← h_ps]
  refine .of_installed (.settleAll h_fresh h_named) (fun node h_other => ?_)
    (fun node n' property' target hn ht => ?_) (Scene.rejectingReactions_settleAll ps)
    (fun r h_mem target h_target => ?_)
  · -- no placement is at a node outside of the group
    refine (h_nodes node).trans ?_
    have h_none : Scene.boundIds h.scene.nextId ps node = [] :=
      Scene.boundIds_of_forall_ne fun p h_mem h_node => h_other (h_node ▸ h_placed p h_mem)
    rw [h_none]
    exact Option.map_id'
  · rw [show (plan collection i primary property).property = property from rfl,
      show (plan collection i primary property).collection = collection from rfl, h_nodes,
      Option.map_eq_some_iff] at hn
    obtain ⟨n, hn, rfl⟩ := hn
    rcases Scene.of_find?_bindAll ht with h_bound | h_before
    · obtain ⟨k, p, hk, -, rfl⟩ := Scene.mem_boundIds h_bound
      exact Or.inr (h_new k (List.getElem?_eq_some_iff.mp hk).1)
    · exact Or.inl ⟨n, hn, h_before⟩
  · obtain ⟨k, hk⟩ := List.mem_iff_getElem?.mp h_mem
    obtain ⟨values, h_row⟩ := h_assigns k r hk
    obtain ⟨a, ha, rfl⟩ := List.mem_map.mp h_target
    obtain ⟨j, h_id, -⟩ := (h_row.actions a).mp ha
    have hj : j < g.instances.length := by
      simpa using (List.getElem?_eq_some_iff.mp h_id).1
    rw [Scene.getElem?_idsFrom hj] at h_id
    rw [← Option.some.inj h_id]
    exact h_new j (h_count.symm ▸ hj)

/-! ### Performed wirings -/

section Performed

variable {h h' : Host}

/-- **The setting an interaction makes and the declared name of its property**, if that applies to
the group. -/
def resolved? (h : Host) (i : Interaction) (g : Group) : Option (Setting × String) :=
  (Setting.parse? i.primaryAction).bind fun primary =>
    match ((Resolution.property primary.property g.instances : Program Unit _).outcome () h).1 with
    | .ok property => property.map (primary, ·)
    | .error _ => none

theorem resolved?_eq_some_iff {i : Interaction} {g : Group} {primary : Setting}
    {property : String} : resolved? h i g = some (primary, property) ↔
      Setting.parse? i.primaryAction = some primary ∧
        ((Resolution.property primary.property g.instances : Program Unit _).outcome () h).1 =
          .ok (some property) := by
  rw [resolved?, Option.bind_eq_some_iff]
  refine ⟨?_, fun ⟨h_setting, h_property⟩ => ⟨primary, h_setting, by rw [h_property]; rfl⟩⟩
  rintro ⟨primary', h_setting, h_property⟩
  split at h_property
  · rename_i result h_result
    obtain ⟨property', rfl, h_pair⟩ := Option.map_eq_some_iff.mp h_property
    obtain ⟨rfl, rfl⟩ := Prod.mk.inj h_pair
    exact ⟨h_setting, h_result⟩
  · cases h_property

theorem resolved?_eq_none (hr : h.Reliable) {i : Interaction} {g : Group}
    (h_none : resolved? h i g = none) {primary : Setting}
    (h_setting : Setting.parse? i.primaryAction = some primary) :
    ((Resolution.property primary.property g.instances : Program Unit _).outcome () h).1 =
      .ok none := by
  obtain ⟨result, h_resolve⟩ := outcome_property (s := ()) hr primary.property g.instances
  cases result with
  | none => rw [h_resolve]
  | some property =>
    rw [resolved?_eq_some_iff.mpr ⟨h_setting, by rw [h_resolve]⟩] at h_none
    cases h_none

/-- The property that an interaction is about depends on the components only. -/
theorem outcome_property_kept {τ : Type} (hr : h.Reliable) (hr' : h'.Reliable)
    (h_kept : Scene.Kept h.scene h'.scene) (s : σ) (s' : τ) (candidate : String)
    (instances : List Instance) :
    ((Resolution.property candidate instances : Program σ _).outcome s h).1 =
      ((Resolution.property candidate instances : Program τ _).outcome s' h').1 := by
  rw [Resolution.outcome_property hr.mainComponent, Resolution.outcome_property hr'.mainComponent,
    Resolution.resolved?_congr fun node => h_kept.mainComponent? node]

theorem resolved?_kept (hr : h.Reliable) (hr' : h'.Reliable)
    (h_kept : Scene.Kept h.scene h'.scene) (i : Interaction) (g : Group) :
    resolved? h' i g = resolved? h i g := by
  unfold resolved?
  congr 1
  funext primary
  rw [outcome_property_kept hr hr' h_kept () ()]

/-- The host after the markers of an interaction were added. -/
def marked (collection : String) (i : Interaction) (h : Host) : Host :=
  { h with scene := h.scene.addMarkers collection (markerNames i) }

/-- **What wiring an interaction onto a group comes to**: the wiring, and the scene after it. -/
inductive Performed (collection : String) (i : Interaction) (g : Group) (config : Config)
    (h : Host) (w : Wiring) (t : Scene) : Prop where
  /-- The property does not apply to the group: the instances do nothing. -/
  | inert {installed : Nat} (h_resolved : resolved? h i g = none)
      (h_wiring : w =
        { interaction := i.id
          group := g.id
          property := none
          table := none
          slots := none
          installed })
      (h_scene : t = (marked collection i h).scene.placeAll
        (installations g.instances (List.replicate g.instances.length {})))
  /-- The state variables are settled, and the reactions put the table into effect. -/
  | resolved {primary : Setting} {property : String} {rs : List Reaction} {installed : Nat}
      (h_resolved : resolved? h i g = some (primary, property))
      (h_build : Reaction.build
        (some (.ofSiblings ⟨property, primary.value⟩
          (siblings (marked collection i h).scene i g config primary property)))
        (some (slotsOf (plan collection i primary property) (marked collection i h) g))
        g.instances.length = .ok rs)
      (h_wiring : w =
        { interaction := i.id
          group := g.id
          property := some property
          table := some (.ofSiblings ⟨property, primary.value⟩
            (siblings (marked collection i h).scene i g config primary property))
          slots := some (slotsOf (plan collection i primary property) (marked collection i h) g)
          installed })
      (h_scene : t = wired (plan collection i primary property) (marked collection i h) g rs)

/-- The markers are added after the other variables, and leave the nodes alone. -/
theorem extended_marked (hb : h.scene.Built) (collection : String) (i : Interaction) :
    Scene.Extended collection (Names i) h.scene (marked collection i h).scene ∧
      (marked collection i h).scene.Fresh ∧
      (marked collection i h).scene.nodes = h.scene.nodes :=
  Scene.Extended.addMarkers hb.wellFormed.fresh collection fun _ h_mem => Or.inl h_mem

/-- **A performed wiring wires the group**, whether or not its primary property resolves. -/
theorem Performed.wired {collection : String} {i : Interaction} {g : Group} {config : Config}
    {w : Wiring} {t : Scene} (h_performed : Performed collection i g config h w t)
    (hb : h.scene.Built) (hb' : (marked collection i h).scene.Built)
    (h_kept : Scene.Kept h.scene (marked collection i h).scene) :
    Wired collection i g h.scene t := by
  obtain ⟨h_extended, -, h_nodes⟩ := extended_marked hb collection i
  refine Wired.after_extended h_extended h_nodes h_kept.rejectingReactions ?_
  cases h_performed with
  | inert _ _ h_scene =>
    -- the reactions that are installed set nothing
    rw [h_scene]
    refine .of_installed (.refl _) (fun _ _ => rfl) ?_ rfl fun r h_mem target h_target => ?_
    · exact fun node n property target hn ht => Or.inl ⟨n, hn, ht⟩
    · rw [List.eq_of_mem_replicate h_mem] at h_target
      cases h_target
  | @resolved primary property rs installed _ h_build _ h_scene =>
    rw [h_scene]
    refine .of_assigns hb' fun k r hr => ?_
    exact ⟨_, (assigns_of_build (by simp [siblings]) h_build).2 k r hr⟩

end Performed

end Wiring

namespace Authoring

open Records (Loaded Replaced retiring)

variable {s : Session} {h : Host}

/-- **The part of wiring an interaction after it was put on record.** -/
def equip (collection : String) (i : Interaction) (g : Group) : Program Session Wiring := do
  let _ ← Wiring.createMarkers collection i
  let config ← Session.readConfig
  Wiring.apply collection i g config

theorem wire_eq (collection : String) (i : Interaction) (g : Group) :
    wire collection i g = (do Records.put i; equip collection i g) := rfl

/-- **A group is equipped** without fail. -/
theorem equip_ends (hr : h.Reliable) (hb : h.scene.Built) {collection : String}
    (h_collection : collection ∈ h.scene.collections.values) (i : Interaction) (g : Group) :
    (equip collection i g).Ends s h fun r s' h' => s' = s ∧ h'.storage = h.storage ∧
      ∃ w, r = .ok w ∧ Wiring.Performed collection i g s.config h w h'.scene ∧
        Wiring.Wired collection i g h.scene h'.scene := by
  obtain ⟨h_extended, -⟩ := Wiring.extended_marked hb collection i
  refine (Wiring.createMarkers_ends hr hb.wellFormed.fresh h_collection i).bind ?_ ?_
  · rintro ids s h₁ h_later ⟨-, rfl, h_marked⟩
    obtain rfl : h₁ = Wiring.marked collection i h := h_marked
    have hr₁ := h_later.reliable hr
    have hb₁ := h_later.built hb
    have h_collection₁ : collection ∈ (Wiring.marked collection i h).scene.collections.values := by
      rw [h_extended.collections]
      exact h_collection
    have h_wired : ∀ {w t}, Wiring.Performed collection i g s.config h w t →
        Wiring.Performed collection i g s.config h w t ∧ Wiring.Wired collection i g h.scene t :=
      fun h_performed => ⟨h_performed, h_performed.wired hb hb₁ h_later.kept⟩
    -- the markers are variables, every node is kept: the property resolves after them as before
    have h_property := fun primary : Setting =>
      Wiring.outcome_property_kept hr hr₁ h_later.kept () s primary.property g.instances
    refine Ends.bind_eq (Session.outcome_readConfig _ _) ?_
    rcases h_resolved : Wiring.resolved? h i g with _ | ⟨primary, property⟩
    · refine (Wiring.apply_inert hr₁ fun primary h_setting => ?_).mono ?_
      · rw [← h_property]
        exact Wiring.resolved?_eq_none hr h_resolved h_setting
      · rintro r s' h' - ⟨⟨installed, h_ok⟩, rfl, h_storage, h_scene⟩
        exact ⟨rfl, h_storage, _, h_ok, h_wired (.inert h_resolved rfl h_scene)⟩
    · obtain ⟨h_setting, h_resolves⟩ := Wiring.resolved?_eq_some_iff.mp h_resolved
      rw [h_property] at h_resolves
      refine (Wiring.apply_settled hr₁ hb₁ h_collection₁ s.config h_setting h_resolves).mono ?_
      rintro r s' h' - ⟨rfl, h_storage, rs, installed, h_build, h_ok, h_scene⟩
      exact ⟨rfl, h_storage, _, h_ok, h_wired (.resolved h_resolved h_build rfl h_scene)⟩
  · rintro e s₂ h₂ - ⟨⟨ids, h_ok⟩, -⟩
    cases h_ok

/-- **Wiring an interaction that is put on record first**: nothing happens if its group has no
record in memory and the stored one cannot be read, and otherwise it takes the place of the group's
previous one. -/
theorem wire_ends (hr : h.Reliable) (hb : h.scene.Built) {collection : String}
    (h_collection : h.scene.collections.find? s.config.collection = some collection)
    (i : Interaction) (g : Group) :
    (wire collection i g).Ends s h fun r s' h' =>
      (∃ e, r = .error e) ∧ s.records.find? i.group = none ∧ Loaded i.group h s s' ∧
        h'.scene = h.scene ∧ h'.storage = h.storage ∨
      ∃ w s₁ h₁, r = .ok w ∧ Loaded i.group h s s₁ ∧ h.Later h₁ ∧ h₁.Later h' ∧
        Replaced (retiring (s₁.records.find? i.group) i) i s₁ s' h h₁ ∧
        Wiring.Performed collection i g s'.config h₁ w h'.scene ∧
        Wiring.Wired collection i g h₁.scene h'.scene ∧ h'.storage = h₁.storage := by
  rw [wire_eq]
  refine (Records.put_ends hr i).bind ?_ ?_
  · rintro u s' h₁ h_later (⟨⟨e, h_error⟩, -⟩ | ⟨-, s₁, h_loaded, h_replaced⟩)
    · cases h_error
    have h_there : collection ∈ h₁.scene.collections.values := by
      refine Registry.mem_values_iff.mpr ⟨s.config.collection, ?_⟩
      rw [h_replaced.collections]
      exact h_collection
    refine (equip_ends (h_later.reliable hr) (h_later.built hb) h_there i g).mono ?_
    rintro r s₂ h' h_later' ⟨rfl, h_storage, w, h_ok, h_performed, h_wired⟩
    exact Or.inr ⟨w, s₁, h₁, h_ok, h_loaded, h_later, h_later', h_replaced, h_performed, h_wired,
      h_storage⟩
  · rintro e s' h' - (⟨-, h_unread⟩ | ⟨h_ok, -⟩)
    · exact Or.inl ⟨⟨_, rfl⟩, h_unread⟩
    · cases h_ok

end Authoring

end Clickwork
