import Clickwork.Proofs.Bookkeeping
import Clickwork.Proofs.Owned

/-!
# Bindings are tied to records

As long as records are not forgotten on demand, a property of a node is bound, if at all, to a
managed variable that belongs to the interaction on record for the node's own family
(`Session.Tied`). Authoring an interaction on the family retires the one on record, so it finds the
instances of its group unbound (`Tied.bindings_eq_empty`): what they show then is their own.

The reason is the one for which managed variables have owners at all: a variable that outlives the
retiring of some interactions keeps its owner on record (`Replaced.keeps_owner`).
-/

namespace Clickwork

open Discovery (Families family?)
open Records (Loaded Replaced ownedBy retiring)

/-- The family of a node does not depend on bindings, reactions and variables. -/
theorem Scene.Kept.family? {t t' : Scene} (h_kept : Scene.Kept t t') (node : String) :
    Discovery.family? t' node = Discovery.family? t node := by
  rw [Discovery.family?, h_kept.mainComponent?, Discovery.family?]

/-- Where no entry has bindings, no node is bound. -/
theorem Scene.unbound_of_entries {s : Scene}
    (h_entries : ∀ e ∈ s.nodes.entries, e.2.bindings.entries.isEmpty = true) (node : String)
    (n : Node) (hn : s.nodes.find? node = some n) : n.bindings = ∅ :=
  Registry.ext (List.isEmpty_iff.mp (h_entries _ (Registry.find?_eq_some_iff.mp hn)))

namespace Session

/-- **The variable belongs to the interaction on record for the family of the node.** -/
def Owns (s : Session) (t : Scene) (node target : String) : Prop :=
  ∃ family r v, family? t node = some family ∧ s.records.find? family = some r ∧
    t.variableTable.find? target = some v ∧
    t.collections.find? s.config.collection = some v.collection ∧ ownedBy r.id v.name = true

/-- **Bindings are tied to records**: what a node is bound to belongs to the interaction on record
for its family. The groups of the session are families. -/
structure Tied (s : Session) (t : Scene) : Prop where
  families : Families t s.context.groups
  owns : ∀ node n property target, t.nodes.find? node = some n →
    n.bindings.find? property = some target → s.Owns t node target

section Tied

variable {s s' : Session} {h h' : Host} {t t' : Scene}

/-- A variable keeps its owner if neither its name nor the records change. -/
theorem Owns.mono {node target : String} (h_owns : s.Owns t node target) (h_kept : Scene.Kept t t')
    (h_config : s'.config = s.config) (h_records : ∀ family r, s.records.find? family = some r →
      s'.records.find? family = some r) (h_collections : t'.collections = t.collections)
    (h_variable : ∀ v, t.variableTable.find? target = some v →
      ∃ v', t'.variableTable.find? target = some v' ∧ v'.name = v.name ∧
        v'.collection = v.collection) : s'.Owns t' node target := by
  obtain ⟨family, r, v, h_family, h_record, hv, h_managed, h_owned⟩ := h_owns
  obtain ⟨v', hv', h_name, h_collection⟩ := h_variable v hv
  refine ⟨family, r, v', ?_, h_records family r h_record, hv', ?_, ?_⟩
  · rw [h_kept.family?]
    exact h_family
  · rw [h_collections, h_config, h_collection]
    exact h_managed
  · rw [h_name]
    exact h_owned

/-- On a scene without bindings, nothing needs an owner. -/
theorem Tied.of_unbound (h_families : Families t s.context.groups)
    (h_unbound : ∀ node n, t.nodes.find? node = some n → n.bindings = ∅) : s.Tied t := by
  refine ⟨h_families, fun node n property target hn h_bound => ?_⟩
  rw [h_unbound node n hn] at h_bound
  cases h_bound

theorem Tied.used (h_tied : s.Tied t) (h_used : t.Used t') : s.Tied t' := by
  refine ⟨h_tied.families.kept h_used.kept, fun node n property target hn h_bound => ?_⟩
  rw [h_used.nodes] at hn
  refine (h_tied.owns node n property target hn h_bound).mono h_used.kept rfl
    (fun _ _ h_record => h_record) h_used.collections fun v hv => ?_
  obtain ⟨v', hv', h_name, h_collection⟩ := h_used.symm.find? hv
  exact ⟨v', hv', h_name, h_collection⟩

/-! ### Wiring -/

section Wire

variable {part : Interaction} {g : Group} {collection : String} {h₁ : Host}

/-- **Whoever the retiring leaves bound has an owner that stays on record**, and is no instance of
the group that is authored. -/
theorem Tied.of_replaced (h_tied : s.Tied h.scene) (hb : h₁.scene.Built) (h_later : h.Later h₁)
    (h_replaced : Replaced (retiring (s.records.find? part.group) part) part s s' h h₁)
    {node property target : String} {n : Scene.Node} (hn : h₁.scene.nodes.find? node = some n)
    (h_bound : n.bindings.find? property = some target) :
    family? h₁.scene node ≠ some part.group ∧ s'.Owns h₁.scene node target := by
  obtain ⟨v, hv⟩ := hb.wellFormed.target_exists node n property target hn h_bound
  -- the binding was there before, and so was the variable
  have hn₁ := hn
  have hv₁ := hv
  rw [h_replaced.scene] at hn₁ hv₁
  obtain ⟨n₀, hn₀, h_bound₀⟩ := Scene.bindings_retiredAll hn₁ h_bound
  obtain ⟨hv₀, h_left⟩ := Scene.find?_retiredAll.mp hv₁
  obtain ⟨family, r, w, h_family, h_record, hw, h_managed, h_owned⟩ :=
    h_tied.owns node n₀ property target hn₀ h_bound₀
  obtain rfl := Option.some.inj (hw.symm.trans hv₀)
  obtain ⟨h_other, h_record'⟩ := h_replaced.keeps_owner (h_left h_managed) h_record h_owned
  have h_family' : family? h₁.scene node = some family := by
    rw [h_later.kept.family?]
    exact h_family
  refine ⟨fun h_same => h_other ?_, family, r, w, h_family', h_record', hv, ?_, h_owned⟩
  · exact Option.some.inj (h_family'.symm.trans h_same)
  · rw [h_replaced.config, h_replaced.collections]
    exact h_managed

/-- **The instances of the authored group are unbound** once the previous interaction is retired. -/
theorem Tied.bindings_eq_empty (h_tied : s.Tied h.scene) (hb : h₁.scene.Built)
    (h_later : h.Later h₁) (h_group : s.context.group part.group = .ok g)
    (h_replaced : Replaced (retiring (s.records.find? part.group) part) part s s' h h₁)
    {node : String} (h_mem : node ∈ g.instances.map (·.id)) {n : Scene.Node}
    (hn : h₁.scene.nodes.find? node = some n) : n.bindings = ∅ := by
  obtain ⟨h_listed, h_id⟩ := Context.group_eq_ok h_group
  obtain ⟨i, hi, rfl⟩ := List.mem_map.mp h_mem
  have h_family : family? h₁.scene i.id = some part.group := by
    rw [h_later.kept.family?, ← h_id]
    exact (h_tied.families g h_listed).2 i hi
  ext1
  -- a binding would have an owner that is no record of this family
  rcases h_entries : n.bindings.entries with _ | ⟨⟨property, target⟩, rest⟩
  · rfl
  · have h_bound : n.bindings.find? property = some target :=
      Registry.find?_eq_some_iff.mpr (by rw [h_entries]; exact List.mem_cons_self)
    exact ((h_tied.of_replaced hb h_later h_replaced hn h_bound).1 h_family).elim

/-- **Wiring ties the instances of its group to the record of the interaction.** -/
theorem Tied.wire (h_tied : s.Tied h.scene) (hb : h₁.scene.Built) (h_later : h.Later h₁)
    (h_kept : Scene.Kept h₁.scene h'.scene) (h_group : s.context.group part.group = .ok g)
    (h_collection : h.scene.collections.find? s.config.collection = some collection)
    (h_replaced : Replaced (retiring (s.records.find? part.group) part) part s s' h h₁)
    (h_wired : Wiring.Wired collection part g h₁.scene h'.scene) : s'.Tied h'.scene := by
  refine ⟨?_, fun node n' property target hn' h_bound => ?_⟩
  · rw [h_replaced.context]
    exact h_tied.families.kept (h_later.kept.trans h_kept)
  rcases h_wired.bindings node n' property target hn' h_bound with
    ⟨n, hn, h_bound₁⟩ | ⟨h_none, v, hv⟩
  · -- what was bound before and is left
    refine (h_tied.of_replaced hb h_later h_replaced hn h_bound₁).2.mono h_kept rfl
      (fun _ _ h_record => h_record) h_wired.extended.collections fun v hv => ?_
    exact ⟨v, h_wired.extended.old target v hv, rfl, rfl⟩
  · -- only an instance of the group is bound to a new variable
    have h_mem : node ∈ g.instances.map (·.id) := by
      by_contra h_other
      rw [h_wired.frame node h_other] at hn'
      obtain ⟨v₁, hv₁⟩ := hb.wellFormed.target_exists node n' property target hn' h_bound
      rw [h_none] at hv₁
      cases hv₁
    obtain ⟨h_listed, h_id⟩ := Context.group_eq_ok h_group
    obtain ⟨i, hi, rfl⟩ := List.mem_map.mp h_mem
    have h_family : family? h'.scene i.id = some part.group := by
      rw [h_kept.family?, h_later.kept.family?, ← h_id]
      exact (h_tied.families g h_listed).2 i hi
    rcases h_wired.extended.new target v hv with h_old | ⟨-, h_managed, h_name, -⟩
    · rw [h_none] at h_old
      cases h_old
    · refine ⟨part.group, part, v, h_family, h_replaced.find?_self, hv, ?_, h_name.ownedBy⟩
      rw [h_replaced.config, h_wired.extended.collections, h_replaced.collections, h_managed]
      exact h_collection

end Wire

end Tied

/-- **Every act but forgetting a record on demand leaves bindings tied to records.** -/
theorem Stable.tied :
    Stable (fun a => ∀ group, a ≠ .purge group) fun s h => s.Tied h.scene where
  quiet := by
    intro s s' h h_alike h_tied
    refine ⟨h_alike.groups ▸ h_tied.families, fun node n property target hn h_bound => ?_⟩
    refine (h_tied.owns node n property target hn h_bound).mono (.refl _) h_alike.config
      (fun family r h_record => ?_) rfl fun v hv => ⟨v, hv, rfl, rfl⟩
    rw [h_alike.records]
    exact h_record
  act := by
    rintro a s s' h h' h_may - h_built h_later h_step h_tied
    have h_kept := h_later.kept
    cases h_step with
    | load h_loaded h_scene =>
      rw [h_scene]
      refine ⟨h_loaded.context ▸ h_tied.families, fun node n property target hn h_bound => ?_⟩
      exact (h_tied.owns node n property target hn h_bound).mono (.refl _) h_loaded.config
        (fun _ _ h_record => h_loaded.find?_kept h_record) rfl fun v hv => ⟨v, hv, rfl, rfl⟩
    | create h_absent h_scene =>
      -- without the collection there were no managed variables, and nothing was bound
      refine ⟨h_tied.families.kept h_kept, fun node n property target hn h_bound => ?_⟩
      rw [h_scene] at hn
      obtain ⟨family, r, v, -, -, -, h_managed, -⟩ :=
        h_tied.owns node n property target hn h_bound
      rw [h_absent] at h_managed
      cases h_managed
    | analyse h_families => exact ⟨h_families, h_tied.owns⟩
    | sweep h_scene =>
      refine ⟨h_tied.families.kept h_kept, fun node n' property target hn' h_bound => ?_⟩
      rw [h_scene, Scene.nodes_discard, Option.map_eq_some_iff] at hn'
      obtain ⟨n, hn, rfl⟩ := hn'
      rw [Scene.Node.unbind, Registry.find?_filter, Option.filter_eq_some_iff] at h_bound
      obtain ⟨h_bound, h_left⟩ := h_bound
      refine (h_tied.owns node n property target hn h_bound).mono h_kept rfl
        (fun _ _ h_record => h_record) (by rw [h_scene]; rfl) fun v hv => ⟨v, ?_, rfl, rfl⟩
      rw [h_scene, Scene.find?_discard, if_neg (of_decide_eq_true h_left)]
      exact hv
    | purge => exact (h_may _ rfl).elim
    | close h_scene =>
      rw [h_scene]
      refine ⟨h_tied.families.kept (h_scene ▸ h_kept), fun node n property target hn h_bound => ?_⟩
      exact (h_tied.owns node n property target hn h_bound).mono (h_scene ▸ h_kept) rfl
        (fun _ _ h_record => h_record) rfl fun v hv => ⟨v, hv, rfl, rfl⟩
    | wire i part g collection _ h_group h_collection h_between h_replaced h_wired =>
      exact h_tied.wire (h_between.built h_built) h_between (h_between.kept.symm.trans h_kept)
        h_group h_collection h_replaced h_wired

end Session

/-! ### Histories -/

/-- A move that arranges no failures. -/
def Move.Calm : Move → Prop
  | .failOn .. | .outage _ => False
  | _ => True

/-- **Moves that retain the records** keep what every act keeps that neither forgets a record nor
wires a part of no interaction the moves ask for. -/
theorem Move.Retains.keeps_wiring {config : Config} {m : Move} {may : Interaction → Prop}
    (hm : m.Retains config) (h_calm : m.Calm)
    (h_may : ∀ i, m.Asks config.limits i → ∀ part ∈ i.parts, may part)
    {I : Session → Host → Prop}
    (h_stable : Session.Stable
      (fun a => (∀ group, a ≠ .purge group) ∧ ∀ i part, a = .wire i part → may part) I)
    (h_used : ∀ s h t, h.scene.Used t → I s h → I s { h with scene := t }) :
    m.Keeps fun s h => s.Configured config ∧ I s h := by
  have h_both := (Session.Stable.configured _ config).and h_stable
  have h_used' : ∀ (s : Session) (h : Host) (t : Scene), h.scene.Used t →
      s.Configured config ∧ I s h → s.Configured config ∧ I s { h with scene := t } :=
    fun s h t h_scene hI => ⟨hI.1, h_used s h t h_scene hI.2⟩
  cases m with
  | message inbound =>
    refine .message h_both ?_
    rintro s h ⟨⟨h_config, h_handlers⟩, -⟩ a ⟨e, handler, h_decoded, h_handler, h_does⟩
    rw [h_config] at h_decoded
    rw [h_handlers] at h_handler
    refine ⟨?_, ?_⟩
    · -- only the message that asks for it forgets records
      rintro group rfl
      obtain rfl : handler = .purge := h_does
      exact hm e h_decoded (Handler.standard_purge h_handler)
    · rintro i part rfl
      obtain ⟨-, h_reads, h_part⟩ := h_does
      exact h_may i ⟨e, h_decoded, h_reads⟩ part h_part
  | notice =>
    refine .notice h_both ?_
    rintro a h_does
    refine ⟨?_, ?_⟩
    · rintro group rfl
      cases h_does
    · rintro i part rfl
      cases h_does.1
  | select ids => exact .select h_used' ids
  | click node => exact .click h_used' node
  | restart => exact hm.elim
  | failOn | outage => exact h_calm.elim

/-- **Moves that retain the records** keep what every act but forgetting a record keeps. -/
theorem Move.Retains.keeps {config : Config} {m : Move} (hm : m.Retains config) (h_calm : m.Calm)
    {I : Session → Host → Prop} (h_stable : Session.Stable (fun a => ∀ group, a ≠ .purge group) I)
    (h_used : ∀ s h t, h.scene.Used t → I s h → I s { h with scene := t }) :
    m.Keeps fun s h => s.Configured config ∧ I s h := by
  have h_stable' : Session.Stable
      (fun a => (∀ group, a ≠ .purge group) ∧ ∀ i part, a = .wire i part → True) I :=
    h_stable.mono fun _ h_acts => h_acts.1
  exact hm.keeps_wiring h_calm (fun _ _ _ _ => trivial) h_stable' h_used

end Clickwork
