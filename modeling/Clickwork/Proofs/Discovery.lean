import Clickwork.Proofs.Gathering
import Clickwork.Proofs.Wiring

/-!
# What discovery finds

`Discovery.groups` answers with the groups that the instances make up (`Discovery.groups_gather`).
They are a stable partition of the instances by families, each with the schema of its family
(`Discovery.groups_partition`). So the instances of a group that it returns all belong to the
component family whose id the group has (`Discovery.Families`), and groups with different ids share
no instance. Asking changes neither the scene nor the host.
-/

namespace Clickwork

open Program (Ends)

/-- **No failure is arranged** for the queries about instances. -/
def Host.Shows (h : Host) : Prop :=
  h.Spares .mainComponent ∧ h.Spares .node ∧ h.Spares .instanceProperties

theorem Host.Reliable.shows {h : Host} (hr : h.Reliable) : h.Shows :=
  ⟨hr.mainComponent, hr _ rfl (by simp), hr _ rfl (by simp)⟩

namespace Discovery

variable {σ : Type} {s : σ} {h : Host}

/-- The instances of a group belong to a family. -/
def OfFamily (t : Scene) (family : String) (g : Group) : Prop :=
  g.id = family ∧ ∀ i ∈ g.instances, family? t i.id = some family

/-- **Each group gathers instances of the family whose id it has.** -/
def Families (t : Scene) (groups : List Group) : Prop :=
  ∀ g ∈ groups, OfFamily t g.id g

theorem Families.kept {t t' : Scene} {groups : List Group} (h_families : Families t groups)
    (h_kept : Scene.Kept t t') : Families t' groups := by
  intro g hg
  refine ⟨rfl, fun i hi => ?_⟩
  rw [family?, h_kept.mainComponent?]
  exact (h_families g hg).2 i hi

/-- An instance whose component is there is there itself, and so has properties. -/
theorem instanceProperties_of_mainComponent? {t : Scene} {id : String} {component : Component}
    (h_component : t.mainComponent? id = some component) :
    ∃ properties, t.instanceProperties id = .ok properties := by
  cases h_node : t.nodes.find? id with
  | none => simp [Scene.mainComponent?, h_node] at h_component
  | some node =>
    simp only [Scene.instanceProperties, h_node]
    exact ⟨_, rfl⟩

/-- **Adding an instance to the group of its family.** -/
theorem addInstance_gathers (hs : h.Shows) {ids : List String} {groups : Registry String Group}
    (h_groups : Gathered h.scene ids groups) (id : String) :
    (addInstance groups id : Program σ _).Ends s h fun r s' h' => s' = s ∧ h' = h ∧
      ∃ found, r = .ok found ∧ Gathered h.scene (ids ++ [id]) found := by
  obtain ⟨h_main, h_node, h_properties⟩ := hs
  rw [addInstance]
  refine Ends.bind_eq (Program.outcome_ask_of_spares (c := .mainComponent id) h_main) ?_
  simp only [Host.answer]
  rcases h_component : h.scene.mainComponent? id with _ | c
  · exact Ends.bind_eq (Program.outcome_log _ _ _ _ _) ⟨rfl, rfl, _, rfl, h_groups.skip h_component⟩
  have h_family := family?_of_mainComponent? h_component
  obtain ⟨family, h_eq⟩ : ∃ family, c.family = family := ⟨_, rfl⟩
  rw [h_eq] at h_family
  have h_current := h_groups.current family.1 family.2
  simp only [h_eq]
  refine Ends.bind_eq (Program.outcome_ask_of_spares (c := .node id) h_node) ?_
  -- values of properties are listed if the component has a set
  cases h_set : c.set with
  | none =>
    have h_standalone : setId? h.scene id = none := by
      rw [setId?, Scene.variantSet?, h_component, Option.bind_some, h_set, Option.map_none]
    exact ⟨rfl, rfl, _, rfl, h_groups.insert h_family (h_current.standalone h_family h_standalone)⟩
  | some set =>
    obtain ⟨properties, h_ok⟩ := instanceProperties_of_mainComponent? h_component
    have h_ask := Program.outcome_ask_of_spares (s := s) (c := .instanceProperties id) h_properties
    simp only [Host.answer, h_ok] at h_ask
    refine Ends.bind_eq h_ask ⟨rfl, rfl, _, rfl, ?_⟩
    have h_variant : setId? h.scene id = some set.id := by
      rw [setId?, Scene.variantSet?, h_component, Option.bind_some, h_set, Option.map_some]
    have h_names : propertyNames h.scene id = properties.keys := by rw [propertyNames, h_ok]
    have h_key : family.1 = set.id := by rw [← h_eq, family_of_set h_set]
    rw [h_key] at h_family h_current ⊢
    have h_gathers := h_current.variant h_variant (Scene.set?_of_mainComponent? h_component h_set)
    rw [h_names] at h_gathers
    exact h_groups.insert h_family h_gathers

/-- **The groups that instances make up** are found. Looking for them always succeeds, and nothing is
changed by it. -/
theorem groups_gather (hs : h.Shows) (ids : List String) :
    (groups ids : Program σ _).Ends s h fun r s' h' => s' = s ∧ h' = h ∧
      ∃ found, r = .ok found.values ∧ Gathered h.scene ids found := by
  -- what was seen before comes first
  have h_fold : ∀ (ids seen : List String) (groups : Registry String Group),
      Gathered h.scene seen groups →
      (ids.foldlM addInstance groups : Program σ _).Ends s h fun r s' h' => s' = s ∧ h' = h ∧
        ∃ found, r = .ok found ∧ Gathered h.scene (seen ++ ids) found := by
    intro ids
    induction ids with
    | nil =>
      intro seen groups h_groups
      rw [List.append_nil]
      exact ⟨rfl, rfl, groups, rfl, h_groups⟩
    | cons id ids ih =>
      intro seen groups h_groups
      rw [List.foldlM_cons, List.append_cons]
      refine (addInstance_gathers hs h_groups id).bind ?_ ?_
      · rintro found s' h' - ⟨rfl, rfl, _, h_ok, h_found⟩
        obtain rfl := Except.ok.inj h_ok
        exact ih _ found h_found
      · rintro e s' h' - ⟨-, -, _, h_ok, -⟩
        cases h_ok
  rw [groups]
  refine (h_fold ids [] ∅ .empty).bind ?_ ?_
  · rintro found s' h' - ⟨rfl, rfl, _, h_ok, h_found⟩
    obtain rfl := Except.ok.inj h_ok
    exact ⟨rfl, rfl, found, rfl, h_found⟩
  · rintro e s' h' - ⟨-, -, _, h_ok, -⟩
    cases h_ok

/-! ### Partitions -/

/-- **A stable partition of instances by families**: one group for each family, in the order in which
the families first appear, which lists the instances of its family in the order of the list. -/
structure Partition (t : Scene) (ids : List String) (groups : List Group) : Prop where
  distinct : (groups.map (·.id)).Nodup
  families : groups.map (·.id) = (ids.filterMap (family? t)).eraseDups
  instances : ∀ g ∈ groups,
    g.instances = (ids.filter fun id => family? t id = some g.id).map (listed t)
  /-- An instance whose component is there is listed as often as it occurs, and no other one is. -/
  complete : (groups.flatMap (·.instances)).Perm
    ((ids.filter fun id => (t.mainComponent? id).isSome).map (listed t))

/-- **The schema of a variant set** on a group that lists instances of it: the properties that the
instances have, in the order in which they first appear, each with the options that the set declares
for it if it is a variant property. -/
structure Schema (t : Scene) (set : VariantSet) (g : Group) : Prop where
  names : g.properties.keys = (g.instances.flatMap fun i => propertyNames t i.id).eraseDups
  variant : ∀ p values d, g.properties.find? p = some values →
    set.definitions.find? p = some d → d.isVariant = true → values = d.options.eraseDups
  plain : ∀ p values, g.properties.find? p = some values →
    (∀ d, set.definitions.find? p = some d → d.isVariant = false) → values = []

section Gathered

variable {t : Scene} {ids : List String} {family : String} {g : Group}

theorem Gathers.mem_instances_iff (h : Gathers t ids family g) {i : Instance} :
    i ∈ g.instances ↔ ∃ id ∈ ids, family? t id = some family ∧ listed t id = i := by
  simp only [h.instances, keyed, List.mem_map, List.mem_filter, decide_eq_true_eq, and_assoc]

/-- As long as no standalone component shares its id with a variant set, the variant set of an
instance is that of its group. -/
theorem Gathers.variantSet? (h : Gathers t ids family g) (h_apart : t.SetsApart) {i : Instance}
    (hi : i ∈ g.instances) : t.variantSet? i.id = t.set? family := by
  obtain ⟨id, -, h_family, rfl⟩ := h.mem_instances_iff.mp hi
  exact h_apart.variantSet? h_family

/-- The group of a variant set has its schema. -/
theorem Gathers.schema (h : Gathers t ids family g) (h_apart : t.SetsApart) {set : VariantSet}
    (h_set : t.set? family = some set) : Schema t set g := by
  -- the instances of the family are those of the set, so all of them bring properties along
  have h_members : keyed (setId? t) family ids = keyed (family? t) family ids := by
    refine List.filter_congr fun id _ => decide_eq_decide.mpr ⟨family?_of_setId?, fun h_family => ?_⟩
    rw [setId?, h_apart.variantSet? h_family, h_set, Option.map_some, Scene.id_of_set? h_set]
  have h_values : valuesIn t family = set.valuesOf := by
    funext p
    rw [valuesIn, h_set, Option.elim_some]
  obtain ⟨h_keys, h_listed⟩ := h.properties
  rw [h_members] at h_keys
  rw [h_values] at h_listed
  refine ⟨?_, fun p values d h_find h_declared h_variant => ?_, fun p values h_find h_plain => ?_⟩
  · rw [h_keys, h.instances, List.flatMap_map]
    rfl
  · rw [h_listed p values h_find, VariantSet.valuesOf, h_declared]
    simp only [h_variant, if_true]
  · rw [h_listed p values h_find, VariantSet.valuesOf]
    cases h_declared : set.definitions.find? p with
    | none => rfl
    | some d => simp only [h_plain d h_declared, Bool.false_eq_true, if_false, List.eraseDups_nil]

/-- The group of a standalone component has no properties. -/
theorem Gathers.standalone_properties (h : Gathers t ids family g) (h_set : t.set? family = none) :
    g.properties = ∅ := by
  -- an instance of a set would give the scene a set of that id
  have h_members : keyed (setId? t) family ids = [] := by
    refine List.filter_eq_nil_iff.mpr fun id _ h_same => ?_
    obtain ⟨set, h_variant, rfl⟩ := Option.map_eq_some_iff.mp (of_decide_eq_true h_same)
    rw [(family?_of_variantSet? h_variant).2] at h_set
    cases h_set
  have h_keys := h.properties.keys
  rw [h_members, List.flatMap_nil, List.eraseDups_nil] at h_keys
  exact Registry.ext (List.map_eq_nil_iff.mp h_keys)

variable {found : Registry String Group}

/-- Groups are listed with the families that they gather. -/
theorem Gathered.exists_gathers (h_found : Gathered t ids found) {g : Group}
    (hg : g ∈ found.values) : Gathers t ids g.id g := by
  obtain ⟨family, h_find⟩ := Registry.mem_values_iff.mp hg
  have h_gathers := h_found.gathers family g h_find
  rwa [h_gathers.id]

theorem Gathered.ids_values (h_found : Gathered t ids found) :
    found.values.map (·.id) = found.keys := by
  rw [Registry.values, Registry.keys, List.map_map]
  exact List.map_congr_left fun e he =>
    (h_found.gathers e.1 e.2 (Entries.find?_of_mem found.nodup he)).id

theorem Gathered.partition (h_found : Gathered t ids found) : Partition t ids found.values := by
  have h_distinct : (found.values.map (·.id)).Nodup := h_found.ids_values ▸ found.nodup
  have h_families := h_found.ids_values.trans h_found.families
  have h_instances : ∀ g ∈ found.values, g.instances = (keyed (family? t) g.id ids).map (listed t) :=
    fun g hg => (h_found.exists_gathers hg).instances
  refine ⟨h_distinct, h_families, h_instances, ?_⟩
  -- what the groups list is what their keys select
  have h_all : found.values.flatMap (·.instances) =
      ((found.values.map (·.id)).flatMap fun family => keyed (family? t) family ids).map
        (listed t) := by
    rw [List.map_flatMap, List.flatMap_map]
    exact List.flatMap_congr h_instances
  -- an instance is of one of the families if its component is there
  have h_there : (ids.filter fun id => (t.mainComponent? id).isSome) =
      ids.filter fun id => (family? t id).any (· ∈ found.values.map (·.id)) := by
    refine List.filter_congr fun id h_id => ?_
    rw [h_families, family?]
    cases h_component : t.mainComponent? id with
    | none => rfl
    | some c =>
      have h_mem : c.family.1 ∈ (ids.filterMap (family? t)).eraseDups :=
        List.mem_eraseDups.mpr
          (List.mem_filterMap.mpr ⟨id, h_id, family?_of_mainComponent? h_component⟩)
      simp only [Option.map_some, Option.any_some, h_mem, decide_true, Option.isSome_some]
  rw [h_all, h_there]
  exact (flatMap_keyed_perm h_distinct ids).map (listed t)

theorem Gathered.families_values (h_found : Gathered t ids found) : Families t found.values := by
  intro g hg
  refine ⟨rfl, fun i hi => ?_⟩
  obtain ⟨id, -, h_family, rfl⟩ := (h_found.exists_gathers hg).mem_instances_iff.mp hi
  exact h_family

end Gathered

/-- **The groups of instances gather families.** -/
theorem groups_ends (hr : h.Reliable) (ids : List String) :
    (groups ids : Program σ _).Ends s h fun r s' h' => s' = s ∧ h' = h ∧
      ∃ found, r = .ok found ∧ Families h.scene found := by
  refine (groups_gather hr.shows ids).mono fun r s' h' _ => ?_
  rintro ⟨h_memory, h_host, found, h_ok, h_found⟩
  exact ⟨h_memory, h_host, _, h_ok, h_found.families_values⟩

/-- **The groups of instances are a stable partition by families**, for every scene and every list of
ids. Looking for them succeeds and changes nothing. As long as no standalone component shares its id
with a variant set, the group of a variant set has its schema, and that of a standalone component has
no properties. -/
theorem groups_partition (m : Machine σ) (hs : m.host.Shows) (ids : List String) :
    ∃ found m', (groups ids).eval m = (.ok found, m') ∧ m'.memory = m.memory ∧ m'.host = m.host ∧
      Partition m.host.scene ids found ∧
      (m.host.scene.SetsApart → ∀ g ∈ found, ∀ i ∈ g.instances,
        (∀ set, m.host.scene.variantSet? i.id = some set → Schema m.host.scene set g) ∧
        (m.host.scene.variantSet? i.id = none → g.properties = ∅)) := by
  obtain ⟨r, m', h_eval, h_memory, h_host, found, rfl, h_found⟩ :=
    (groups_gather (s := m.memory) hs ids).eval
  refine ⟨_, m', h_eval, h_memory, h_host, h_found.partition, fun h_apart g hg i hi => ?_⟩
  have h_gathers := h_found.exists_gathers hg
  rw [h_gathers.variantSet? h_apart hi]
  exact ⟨fun set h_set => h_gathers.schema h_apart h_set, h_gathers.standalone_properties⟩

/-- Tabs of a variant set among logos of a standalone component, and an instance whose component is
gone. -/
def shelf : Scene :=
  Scene.operateAll {} [
    .addVariantSet "tabs" "Tab"
      (.ofList [("Label", ⟨"TEXT", ["none"]⟩), ("State", ⟨"VARIANT", ["On", "Off", "On"]⟩)]),
    .addComponent "tab" "State=Off" (some "tabs"),
    .addComponent "logo" "Logo" none,
    .addNode "tab-1" "Home" "INSTANCE" (some "tab") (.ofList [("State", .str "Off")]) none,
    .addNode "logo-1" "Logo" "INSTANCE" (some "logo") (.ofList [("State", .str "Off")]) none,
    .addNode "lost-1" "Lost" "INSTANCE" (some "lost") ∅ none,
    .addNode "tab-2" "News" "INSTANCE" (some "tab")
      (.ofList [("Label", .str "News"), ("State", .str "Off")]) none]

theorem groups_partition_on_shelf :
    ({ scene := shelf } : Host).Shows ∧ shelf.SetsApart ∧ ∃ found m',
      (groups ["tab-1", "logo-1", "lost-1", "tab-2", "tab-1"]).eval
        ({ memory := (), host := { scene := shelf } } : Machine Unit) = (.ok found, m') ∧
      found.map (fun g => (g.id, g.instances.map (·.id), g.properties.entries)) =
        [("tabs", ["tab-1", "tab-2", "tab-1"], [("State", ["On", "Off"]), ("Label", [])]),
          ("logo", ["logo-1"], [])] ∧
      Partition shelf ["tab-1", "logo-1", "lost-1", "tab-2", "tab-1"] found ∧
      ∀ g ∈ found, ∀ i ∈ g.instances, ∀ set,
        shelf.variantSet? i.id = some set → Schema shelf set g := by
  have h_shows : ({ scene := shelf } : Host).Shows := ⟨rfl, rfl, rfl⟩
  have h_apart : shelf.SetsApart := by decide +kernel
  obtain ⟨found, m', h_eval, -, -, h_partition, h_schemas⟩ := groups_partition
    ({ memory := (), host := { scene := shelf } } : Machine Unit) h_shows
    ["tab-1", "logo-1", "lost-1", "tab-2", "tab-1"]
  have h_run : ((groups ["tab-1", "logo-1", "lost-1", "tab-2", "tab-1"]).eval
      ({ memory := (), host := { scene := shelf } } : Machine Unit)).1.toOption.map
        (·.map fun g => (g.id, g.instances.map (·.id), g.properties.entries)) =
      some [("tabs", ["tab-1", "tab-2", "tab-1"], [("State", ["On", "Off"]), ("Label", [])]),
        ("logo", ["logo-1"], [])] := by decide +kernel
  rw [h_eval] at h_run
  exact ⟨h_shows, h_apart, found, m', h_eval, Option.some.inj h_run, h_partition,
    fun g hg i hi => (h_schemas h_apart g hg i hi).1⟩

end Discovery

end Clickwork
