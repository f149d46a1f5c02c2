import Clickwork.Proofs.Discovery

/-!
# Resolving what is offered

The properties that discovery lists for a group are offered for its interactions, and wiring then
resolves the name that was picked on the instances of the group. Discovery looks a property up under
its exact name, while resolution goes through the declarations of a set without regard to case. They
agree on each name of which the set has no variant property in another case
(`Discovery.offered_resolves`): it resolves exactly if it is a variant property, and then to itself.

Resolution goes its own way otherwise: of two variant properties whose names differ in case only, it
comes to the one that is declared first, whichever of them was picked
(`Discovery.offered_under_another_name`). It also refuses the empty name, and any name on a group that
lists instances of a standalone component with the id of the set.
-/

namespace Clickwork

/-! ### Exact names -/

namespace VariantSet

/-- A set declares a variant property of exactly the given name. -/
def DeclaresVariant (set : VariantSet) (property : String) : Prop :=
  ∃ d ∈ set.definitions.find? property, d.isVariant = true

/-- No variant property of a set has the given name in another case. -/
def OnlyInCase (set : VariantSet) (property : String) : Prop :=
  ∀ declaration ∈ set.definitions.entries,
    Definition.Names property declaration → declaration.1 = property

instance (set : VariantSet) (property : String) : Decidable (set.DeclaresVariant property) :=
  inferInstanceAs (Decidable (∃ d ∈ set.definitions.find? property, _))

instance (set : VariantSet) (property : String) : Decidable (set.OnlyInCase property) :=
  inferInstanceAs (Decidable (∀ declaration ∈ set.definitions.entries, _ → _))

variable {set : VariantSet} {property name : String}

theorem DeclaresVariant.declares (h_declared : set.DeclaresVariant property) :
    set.Declares property := by
  obtain ⟨d, h_find, h_variant⟩ := h_declared
  exact ⟨(property, d), Entries.mem_of_find? h_find, h_variant, rfl⟩

/-- In one case only, a property is declared exactly if it is declared in whatever case. -/
theorem OnlyInCase.declares_iff (h_only : set.OnlyInCase property) :
    set.Declares property ↔ set.DeclaresVariant property := by
  refine ⟨?_, DeclaresVariant.declares⟩
  rintro ⟨⟨other, d⟩, h_mem, h_names⟩
  obtain rfl : other = property := h_only (other, d) h_mem h_names
  exact ⟨d, Entries.find?_of_mem set.definitions.nodup h_mem, h_names.1⟩

theorem OnlyInCase.eq (h_only : set.OnlyInCase property)
    (h_first : set.DeclaresFirst property name) : name = property := by
  obtain ⟨before, d, after, h_entries, h_names, -⟩ := h_first
  refine h_only (name, d) ?_ h_names
  rw [h_entries]
  exact List.mem_append_right _ List.mem_cons_self

end VariantSet

namespace Discovery

variable {σ : Type} {t : Scene} {ids : List String} {family p name : String} {g : Group}
  {set : VariantSet}

/-! ### Groups of variant sets -/

/-- A group with a property lists an instance of the variant set that it is named after. -/
theorem Gathers.exists_variant (h : Gathers t ids family g) (hp : p ∈ g.properties.keys) :
    ∃ set, t.set? family = some set ∧ ∃ i ∈ g.instances, t.variantSet? i.id = some set := by
  rw [h.properties.keys, List.mem_eraseDups, List.mem_flatMap] at hp
  obtain ⟨id, h_keyed, -⟩ := hp
  obtain ⟨h_id, h_same⟩ := List.mem_filter.mp h_keyed
  have h_setId := of_decide_eq_true h_same
  obtain ⟨set, h_set, rfl⟩ := Option.map_eq_some_iff.mp h_setId
  refine ⟨set, (family?_of_variantSet? h_set).2, listed t id, ?_, h_set⟩
  exact h.mem_instances_iff.mpr ⟨id, h_id, family?_of_setId? h_setId, rfl⟩

/-- The instances of a group that belong to a variant set belong to that of the group. -/
theorem Gathers.set_eq (h : Gathers t ids family g) (h_set : t.set? family = some set)
    {i : Instance} (hi : i ∈ g.instances) {set' : VariantSet}
    (h_variant : t.variantSet? i.id = some set') : set' = set := by
  obtain ⟨id, -, h_family, rfl⟩ := h.mem_instances_iff.mp hi
  obtain ⟨h_family', h_set'⟩ := family?_of_variantSet? h_variant
  obtain rfl : set'.id = family := Option.some.inj (h_family'.symm.trans h_family)
  exact Option.some.inj (h_set'.symm.trans h_set)

/-- **When a name applies to a group.** -/
theorem Gathers.applies_iff (h : Gathers t ids family g) (h_set : t.set? family = some set)
    (h_some : g.instances ≠ []) : Resolution.Applies t p g.instances ↔
      p ≠ "" ∧ (∀ i ∈ g.instances, (t.variantSet? i.id).isSome = true) ∧ set.Declares p := by
  -- no instance of a group is skipped, since each has a family
  have h_component : ∀ i ∈ g.instances, ∃ c, t.mainComponent? i.id = some c := by
    intro i hi
    obtain ⟨id, -, h_family, rfl⟩ := h.mem_instances_iff.mp hi
    obtain ⟨c, h_component, -⟩ := Option.map_eq_some_iff.mp h_family
    exact ⟨c, h_component⟩
  constructor
  · rintro ⟨h_named, -, h_declared⟩
    have h_all : ∀ i ∈ g.instances, ∃ set, t.variantSet? i.id = some set ∧ set.Declares p := by
      intro i hi
      obtain ⟨c, h_c⟩ := h_component i hi
      obtain ⟨set', h_set', h_declares⟩ := h_declared i hi c h_c
      exact ⟨set', by rw [Scene.variantSet?, h_c, Option.bind_some, h_set'], h_declares⟩
    refine ⟨h_named, fun i hi => ?_, ?_⟩
    · obtain ⟨set', h_variant, -⟩ := h_all i hi
      rw [h_variant, Option.isSome_some]
    · -- whichever instance is asked, its set is that of the group
      obtain ⟨i, hi⟩ := List.exists_mem_of_ne_nil _ h_some
      obtain ⟨set', h_variant, h_declares⟩ := h_all i hi
      rwa [h.set_eq h_set hi h_variant] at h_declares
  · rintro ⟨h_named, h_variants, h_declares⟩
    obtain ⟨i, hi⟩ := List.exists_mem_of_ne_nil _ h_some
    refine ⟨h_named, ⟨i, hi, h_component i hi⟩, fun i hi c h_c => ?_⟩
    obtain ⟨set', h_variant⟩ := Option.isSome_iff_exists.mp (h_variants i hi)
    obtain rfl := h.set_eq h_set hi h_variant
    rw [Scene.variantSet?, h_c, Option.bind_some] at h_variant
    exact ⟨set', h_variant, h_declares⟩

/-- What a name resolves to on a group is declared by the set of the group. -/
theorem Gathers.declaresFirst (h : Gathers t ids family g) (h_set : t.set? family = some set)
    (h_resolved : Resolution.resolved? t p g.instances = some name) :
    set.DeclaresFirst p name := by
  obtain ⟨-, i, set', h_find, h_variant, h_first⟩ := Resolution.resolved?_eq_some_iff.mp h_resolved
  rwa [h.set_eq h_set (List.mem_of_find?_eq_some h_find) h_variant] at h_first

/-! ### Offered properties -/

/-- **What is offered resolves as it was offered**, up to case. A property that discovery lists for a
group belongs to a variant set. It resolves on the instances of the group exactly if its name is not
empty, none of them is of a standalone component, and the set declares a variant property of the name
in whatever case; it comes to the first of these. So if there is none in another case, it resolves
exactly if the set declares it as a variant property, and to itself. -/
theorem offered_resolves (m : Machine σ) (hs : m.host.Shows) (ids : List String) :
    ∃ found m', (groups ids).eval m = (.ok found, m') ∧
      ∀ g ∈ found, ∀ p ∈ g.properties.keys, ∃ set result m'',
        m.host.scene.set? g.id = some set ∧
        (Resolution.property p g.instances).eval m' = (.ok result, m'') ∧
        (result.isSome = true ↔ p ≠ "" ∧
          (∀ i ∈ g.instances, (m.host.scene.variantSet? i.id).isSome = true) ∧ set.Declares p) ∧
        (∀ name, result = some name → set.DeclaresFirst p name) ∧
        (p ≠ "" → (∀ i ∈ g.instances, (m.host.scene.variantSet? i.id).isSome = true) →
          set.OnlyInCase p →
          (result.isSome = true ↔ set.DeclaresVariant p) ∧ ∀ name, result = some name → name = p) := by
  obtain ⟨r, m', h_eval, -, h_host, found, rfl, h_found⟩ :=
    (groups_gather (s := m.memory) hs ids).eval
  refine ⟨_, m', h_eval, fun g hg p hp => ?_⟩
  have h_gathers := h_found.exists_gathers hg
  obtain ⟨set, h_set, i, hi, -⟩ := h_gathers.exists_variant hp
  -- discovery left the host alone, so the name resolves on the scene that the group is from
  have h_spares : m'.host.Spares .mainComponent := h_host ▸ hs.1
  obtain ⟨m'', h_resolve, -⟩ :=
    Program.eval_of_outcome (Resolution.outcome_property h_spares p g.instances)
  rw [h_host] at h_resolve
  have h_applies := Resolution.isSome_resolved?_iff.trans
    (h_gathers.applies_iff (p := p) h_set (List.ne_nil_of_mem hi))
  refine ⟨set, _, m'', h_set, h_resolve, h_applies,
    fun name => h_gathers.declaresFirst h_set, fun h_named h_variants h_only => ⟨?_, ?_⟩⟩
  · rw [h_applies, h_only.declares_iff]
    exact ⟨fun ⟨_, _, h_declared⟩ => h_declared, fun h_declared => ⟨h_named, h_variants, h_declared⟩⟩
  · exact fun name h_name => h_only.eq (h_gathers.declaresFirst h_set h_name)

theorem offered_resolves_on_shelf :
    ({ scene := shelf } : Host).Shows ∧ ∃ found m', (groups ["tab-1", "logo-1", "tab-2"]).eval
      ({ memory := (), host := { scene := shelf } } : Machine Unit) = (.ok found, m') ∧
      ∃ g ∈ found, g.properties.keys = ["State", "Label"] ∧
        (∃ m'', (Resolution.property "State" g.instances).eval m' = (.ok (some "State"), m'')) ∧
        ∃ m'', (Resolution.property "Label" g.instances).eval m' = (.ok none, m'') := by
  have h_shows : ({ scene := shelf } : Host).Shows := ⟨rfl, rfl, rfl⟩
  obtain ⟨found, m', h_eval, h_offered⟩ := offered_resolves
    ({ memory := (), host := { scene := shelf } } : Machine Unit) h_shows ["tab-1", "logo-1", "tab-2"]
  have h_run : ((groups ["tab-1", "logo-1", "tab-2"]).eval
      ({ memory := (), host := { scene := shelf } } : Machine Unit)).1.toOption.map
        (·.map fun g => (g.id, g.instances, g.properties.keys)) =
      some [("tabs", [⟨"tab-1", "Home"⟩, ⟨"tab-2", "News"⟩], ["State", "Label"]),
        ("logo", [⟨"logo-1", "Logo"⟩], [])] := by decide +kernel
  rw [h_eval] at h_run
  obtain ⟨g, rest, rfl, h_group, -⟩ := List.map_eq_cons_iff.mp (Option.some.inj h_run)
  have hg : g ∈ g :: rest := List.mem_cons_self
  obtain ⟨h_id, h_rest⟩ := Prod.mk.inj h_group
  obtain ⟨h_instances, h_keys⟩ := Prod.mk.inj h_rest
  have h_variants : ∀ i ∈ g.instances, (shelf.variantSet? i.id).isSome = true := by
    rw [h_instances]
    decide +kernel
  -- the state is a variant property, the label is none
  obtain ⟨set, state, m₁, h_set, h_state, -, -, h_exact⟩ :=
    h_offered g hg "State" (by rw [h_keys]; decide)
  obtain ⟨set', label, m₂, h_set', h_label, -, -, h_exact'⟩ :=
    h_offered g hg "Label" (by rw [h_keys]; decide)
  rw [h_id] at h_set h_set'
  have h_declared : ∀ set ∈ shelf.set? "tabs", set.OnlyInCase "State" ∧
      set.DeclaresVariant "State" ∧ set.OnlyInCase "Label" ∧ ¬set.DeclaresVariant "Label" := by
    decide +kernel
  obtain ⟨h_only, h_variant, -⟩ := h_declared set h_set
  obtain ⟨-, -, h_only', h_plain⟩ := h_declared set' h_set'
  obtain ⟨h_resolves, h_name⟩ := h_exact (by decide) h_variants h_only
  obtain ⟨h_resolves', -⟩ := h_exact' (by decide) h_variants h_only'
  obtain ⟨name, rfl⟩ := Option.isSome_iff_exists.mp (h_resolves.mpr h_variant)
  obtain rfl := h_name name rfl
  obtain rfl : label = none :=
    Option.eq_none_iff_forall_not_mem.mpr fun name h_mem =>
      h_plain (h_resolves'.mp (Option.isSome_iff_exists.mpr ⟨name, h_mem⟩))
  exact ⟨h_shows, _, m', h_eval, g, hg, h_keys, ⟨m₁, h_state⟩, m₂, h_label⟩

/-- A tab of a set that declares two variant properties whose names differ in case only. -/
def twins : Scene where
  nodes := .ofList [
    ("tab-1", { name := "Home", kind := "INSTANCE", component := some "tab",
                properties := .ofList [("State", .str "Off"), ("state", .str "Off")] })]
  components := .ofList [("tab", { name := "State=Off, state=Off", set := some "tabs" })]
  sets := .ofList [
    ("tabs", { name := "Tab", definitions := .ofList [
      ("State", ⟨"VARIANT", ["On", "Off"]⟩), ("state", ⟨"VARIANT", ["On", "Off"]⟩)] })]

/-- **A property that is offered may come to another one**, though its set declares it as a variant
property. -/
theorem offered_under_another_name :
    ∃ g m' m'', (groups ["tab-1"]).eval
        ({ memory := (), host := { scene := twins } } : Machine Unit) = (.ok [g], m') ∧
      "state" ∈ g.properties.keys ∧
      (∃ set ∈ twins.set? g.id, set.DeclaresVariant "state") ∧
      (Resolution.property "state" g.instances).eval m' = (.ok (some "State"), m'') := by
  have h_shows : ({ scene := twins } : Host).Shows := ⟨rfl, rfl, rfl⟩
  obtain ⟨r, m', h_eval, -, h_host, found, rfl, -⟩ := Program.Ends.eval
    (m := ({ memory := (), host := { scene := twins } } : Machine Unit))
    (groups_gather h_shows ["tab-1"])
  have h_run : ((groups ["tab-1"]).eval
      ({ memory := (), host := { scene := twins } } : Machine Unit)).1.toOption.map
        (·.map fun g => (g.id, g.instances, g.properties.keys)) =
      some [("tabs", [⟨"tab-1", "Home"⟩], ["State", "state"])] := by decide +kernel
  rw [h_eval] at h_run
  obtain ⟨g, rest, h_found, h_group, h_rest⟩ := List.map_eq_cons_iff.mp (Option.some.inj h_run)
  rw [List.map_eq_nil_iff.mp h_rest] at h_found
  obtain ⟨h_id, h_rest⟩ := Prod.mk.inj h_group
  obtain ⟨h_instances, h_keys⟩ := Prod.mk.inj h_rest
  have h_set : ∃ set ∈ twins.set? "tabs", set.DeclaresVariant "state" := by decide +kernel
  have h_spares : m'.host.Spares .mainComponent := h_host ▸ h_shows.1
  obtain ⟨m'', h_resolve, -⟩ :=
    Program.eval_of_outcome (Resolution.outcome_property h_spares "state" g.instances)
  have h_resolved : Resolution.resolved? twins "state" [⟨"tab-1", "Home"⟩] = some "State" := by
    decide +kernel
  rw [h_host, h_instances, h_resolved] at h_resolve
  refine ⟨g, m', m'', by rw [h_eval, h_found], by rw [h_keys]; decide, by rw [h_id]; exact h_set, ?_⟩
  rw [h_instances]
  exact h_resolve

end Discovery

end Clickwork
