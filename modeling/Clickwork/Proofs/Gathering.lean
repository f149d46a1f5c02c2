import Clickwork.Proofs.Registry
import Clickwork.Proofs.Scene.Components

/-!
# How groups are gathered

Discovery goes through a list of instances once and keeps a group for each component family that it
comes across. What it has when it has seen some instances is told from these instances alone
(`Discovery.Gathered`):

* the families are those of the instances, in the order in which they first appear;
* a group lists the instances of its family in the order of the list, each as often as it occurs;
* it lists the properties of those among them whose component is in the variant set that the group is
  named after, in the order in which they first appear, with the values that the set declares.

One more instance changes the group of its family and no other (`Discovery.Gathered.insert`).
-/

namespace Clickwork

/-! ### First appearances -/

section Distinct

variable {α : Type} [DecidableEq α]

theorem eraseDups_concat (l : List α) (a : α) :
    (l ++ [a]).eraseDups = if a ∈ l then l.eraseDups else l.eraseDups ++ [a] := by
  rw [List.eraseDups_append]
  by_cases h_mem : a ∈ l <;> simp [List.removeAll, List.eraseDups_cons, h_mem]

/-- What follows what has appeared already may be thinned out first. -/
theorem eraseDups_append_of_subset {l l' : List α} (h : ∀ a ∈ l', a ∈ l) :
    (l ++ l').eraseDups = l.eraseDups := by
  have h_none : l'.removeAll l = [] := by
    rw [List.removeAll, List.filter_eq_nil_iff]
    exact fun a ha => by simpa using h a ha
  rw [List.eraseDups_append, h_none, List.eraseDups_nil, List.append_nil]

end Distinct

namespace Registry

variable {κ α : Type} [DecidableEq κ]

theorem keys_insert (r : Registry κ α) (k : κ) (v : α) :
    (r.insert k v).keys = if k ∈ r.keys then r.keys else r.keys ++ [k] := by
  split
  · rename_i h_mem
    obtain ⟨v₀, h_find⟩ := mem_keys_iff.mp h_mem
    rw [insert_eq_modify h_find fun _ => v]
    simp [keys, modify, mapValues]
  · rename_i h_none
    simp [keys, entries_insert_of_find?_eq_none (find?_eq_none_iff.mpr h_none)]

/-- Keys that are kept in the order of their first appearance, when one more appears. -/
theorem keys_insert_of_eraseDups {r : Registry κ α} {l : List κ} (h_keys : r.keys = l.eraseDups)
    (k : κ) (v : α) : (r.insert k v).keys = (l ++ [k]).eraseDups := by
  simp only [keys_insert, eraseDups_concat, h_keys, List.mem_eraseDups]

end Registry

/-! ### Listing values -/

namespace Group

/-- Values that are kept in the order of their first appearance, when more of them appear. -/
theorem mergeValues_eraseDups (known values : List String) :
    mergeValues known.eraseDups values = (known ++ values).eraseDups := by
  induction values generalizing known with
  | nil => rw [List.append_nil, mergeValues, List.foldl_nil]
  | cons v values ih =>
    have h_next : (if v ∈ known.eraseDups then known.eraseDups else known.eraseDups ++ [v]) =
        (known ++ [v]).eraseDups := by
      simp only [eraseDups_concat, List.mem_eraseDups]
    calc mergeValues known.eraseDups (v :: values)
        = mergeValues (known ++ [v]).eraseDups values := by rw [← h_next]; rfl
      _ = (known ++ [v] ++ values).eraseDups := ih (known ++ [v])
      _ = (known ++ v :: values).eraseDups := by rw [List.append_assoc, List.singleton_append]

/-- **The properties of a group** are the given names in the order of their first appearance, each
with its values, of which none is repeated. -/
structure Lists (g : Group) (names : List String) (values : String → List String) : Prop where
  keys : g.properties.keys = names.eraseDups
  values : ∀ p vs, g.properties.find? p = some vs → vs = (values p).eraseDups

variable {g : Group} {names : List String} {values : String → List String}

/-- One more name appears. -/
theorem Lists.addValues (h : g.Lists names values) (p : String) :
    (g.addValues p (values p)).Lists (names ++ [p]) values where
  keys := Registry.keys_insert_of_eraseDups h.keys p _
  values := by
    intro q vs h_find
    simp only [Group.addValues, Registry.find?_insert] at h_find
    split at h_find
    · rename_i h_same
      subst h_same
      rw [← Option.some.inj h_find]
      -- the values of a property that is listed already are all known
      cases h_known : g.properties.find? p with
      | none => exact mergeValues_eraseDups [] (values p)
      | some known =>
        rw [Option.getD_some, h.values p known h_known, mergeValues_eraseDups]
        exact eraseDups_append_of_subset fun _ h_mem => h_mem
    · exact h.values q vs h_find

theorem Lists.foldl_addValues (h : g.Lists names values) (more : List String) :
    (more.foldl (fun g p => g.addValues p (values p)) g).Lists (names ++ more) values := by
  induction more generalizing g names with
  | nil => rwa [List.append_nil]
  | cons p more ih =>
    have h_more := ih (h.addValues p)
    rwa [List.append_assoc, List.singleton_append] at h_more

end Group

/-! ### Families -/

namespace Discovery

/-- The names of the properties of an instance. -/
def propertyNames (t : Scene) (id : String) : List String :=
  match t.instanceProperties id with
  | .ok properties => properties.keys
  | .error _ => []

/-- An instance as groups list it. -/
def listed (t : Scene) (id : String) : Instance :=
  { id, name := ((t.node? id).map (·.name)).getD "" }

/-- The id of the variant set that the component of an instance belongs to. -/
def setId? (t : Scene) (id : String) : Option String :=
  (t.variantSet? id).map (·.id)

/-- The ids that have a key, in the order of the list. -/
def keyed (key? : String → Option String) (key : String) (ids : List String) : List String :=
  ids.filter fun id => key? id = some key

theorem keyed_concat {key? : String → Option String} {key id : String} (h_key : key? id = some key)
    (ids : List String) : keyed key? key (ids ++ [id]) = keyed key? key ids ++ [id] := by
  simp [keyed, List.filter_append, h_key]

theorem keyed_concat_of_ne {key? : String → Option String} {key id : String}
    (h_key : key? id ≠ some key) (ids : List String) :
    keyed key? key (ids ++ [id]) = keyed key? key ids := by
  simp [keyed, List.filter_append, h_key]

/-- **Sorting ids by their keys** repeats none, and leaves out those only that have none of the
keys. -/
theorem flatMap_keyed_perm {key? : String → Option String} {keys : List String}
    (h_nodup : keys.Nodup) (ids : List String) :
    (keys.flatMap fun key => keyed key? key ids).Perm
      (ids.filter fun id => (key? id).any (· ∈ keys)) := by
  induction keys with
  | nil => simp
  | cons key keys ih =>
    obtain ⟨h_new, h_nodup⟩ := List.nodup_cons.mp h_nodup
    -- the ids that have the first key are split off from the others
    have h_first : keyed key? key ids =
        (ids.filter fun id => (key? id).any (· ∈ key :: keys)).filter
          fun id => key? id = some key := by
      rw [List.filter_filter, keyed]
      refine List.filter_congr fun id _ => ?_
      cases key? id <;> simp +contextual
    have h_rest : (ids.filter fun id => (key? id).any (· ∈ keys)) =
        (ids.filter fun id => (key? id).any (· ∈ key :: keys)).filter
          fun id => !decide (key? id = some key) := by
      rw [List.filter_filter]
      refine List.filter_congr fun id _ => ?_
      cases key? id with
      | none => simp
      | some k => by_cases h_same : k = key <;> simp [h_same, h_new]
    rw [List.flatMap_cons]
    refine ((ih h_nodup).append_left _).trans ?_
    rw [h_first, h_rest]
    exact List.filter_append_perm _ _

/-- The values that the variant set with an id lists for a property. -/
def valuesIn (t : Scene) (set property : String) : List String :=
  (t.set? set).elim [] (·.valuesOf property)

/-- **The group of a family** among some instances. -/
structure Gathers (t : Scene) (ids : List String) (family : String) (g : Group) : Prop where
  id : g.id = family
  instances : g.instances = (keyed (family? t) family ids).map (listed t)
  properties : g.Lists ((keyed (setId? t) family ids).flatMap (propertyNames t)) (valuesIn t family)

/-- **The groups of some instances.** -/
structure Gathered (t : Scene) (ids : List String) (groups : Registry String Group) : Prop where
  families : groups.keys = (ids.filterMap (family? t)).eraseDups
  gathers : ∀ family g, groups.find? family = some g → Gathers t ids family g

section Step

variable {t : Scene} {ids : List String} {family : String} {g : Group} {id : String}

theorem family?_of_setId? {set : String} (h_set : setId? t id = some set) :
    family? t id = some set := by
  obtain ⟨_, h_variant, rfl⟩ := Option.map_eq_some_iff.mp h_set
  exact (family?_of_variantSet? h_variant).1

/-- Of a family that has not appeared there are no instances. -/
theorem Gathers.start (h_new : ∀ id ∈ ids, family? t id ≠ some family) (name : String) :
    Gathers t ids family { id := family, name } := by
  have h_members : keyed (family? t) family ids = [] :=
    List.filter_eq_nil_iff.mpr fun id h_id => by simpa using h_new id h_id
  have h_variants : keyed (setId? t) family ids = [] :=
    List.filter_eq_nil_iff.mpr fun id h_id h_set =>
      h_new id h_id (family?_of_setId? (of_decide_eq_true h_set))
  refine ⟨rfl, by rw [h_members]; rfl, ?_, nofun⟩
  rw [h_variants]
  rfl

/-- An instance of another family leaves a group alone. -/
theorem Gathers.other (h : Gathers t ids family g) (h_family : family? t id ≠ some family) :
    Gathers t (ids ++ [id]) family g := by
  have h_set : setId? t id ≠ some family := fun h_same => h_family (family?_of_setId? h_same)
  exact ⟨h.id, by rw [h.instances, keyed_concat_of_ne h_family],
    by rw [keyed_concat_of_ne h_set]; exact h.properties⟩

/-- An instance of a standalone component. -/
theorem Gathers.standalone (h : Gathers t ids family g) (h_family : family? t id = some family)
    (h_set : setId? t id = none) :
    Gathers t (ids ++ [id]) family (g.addInstance (listed t id)) where
  id := h.id
  instances := by
    rw [keyed_concat h_family, List.map_append, ← h.instances]
    rfl
  properties := by
    rw [keyed_concat_of_ne (by rw [h_set]; exact (Option.some_ne_none family).symm)]
    exact ⟨h.properties.keys, h.properties.values⟩

/-- An instance of a component that belongs to a variant set brings its properties along. -/
theorem Gathers.variant {set : VariantSet} (h : Gathers t ids set.id g)
    (h_set : setId? t id = some set.id) (h_found : t.set? set.id = some set) :
    Gathers t (ids ++ [id]) set.id ((propertyNames t id).foldl
      (fun g p => g.addValues p (set.valuesOf p)) (g.addInstance (listed t id))) := by
  have h_values : set.valuesOf = valuesIn t set.id := by
    funext p
    rw [valuesIn, h_found, Option.elim_some]
  have h_added : (g.addInstance (listed t id)).Lists
      ((keyed (setId? t) set.id ids).flatMap (propertyNames t)) (valuesIn t set.id) :=
    ⟨h.properties.keys, h.properties.values⟩
  -- listing values leaves the instances of a group alone
  have h_kept : ∀ (names : List String) (g : Group),
      (names.foldl (fun g p => g.addValues p (set.valuesOf p)) g).id = g.id ∧
        (names.foldl (fun g p => g.addValues p (set.valuesOf p)) g).instances = g.instances := by
    intro names
    induction names with
    | nil => exact fun g => ⟨rfl, rfl⟩
    | cons p names ih => exact fun g => ih (g.addValues p (set.valuesOf p))
  refine ⟨(h_kept _ _).1.trans h.id, (h_kept _ _).2.trans ?_, ?_⟩
  · rw [keyed_concat (family?_of_setId? h_set), List.map_append, ← h.instances]
    rfl
  · rw [keyed_concat h_set, List.flatMap_append, List.flatMap_singleton, h_values]
    exact h_added.foldl_addValues (propertyNames t id)

variable {groups : Registry String Group}

theorem Gathered.empty : Gathered t [] ∅ := ⟨rfl, nofun⟩

/-- The group of a family, which may be a new one. -/
theorem Gathered.current (h : Gathered t ids groups) (family name : String) :
    Gathers t ids family ((groups.find? family).getD { id := family, name }) := by
  cases h_find : groups.find? family with
  | some g => exact h.gathers family g h_find
  | none =>
    refine .start (fun id h_id h_family => ?_) name
    have h_mem : family ∈ groups.keys := by
      rw [h.families, List.mem_eraseDups]
      exact List.mem_filterMap.mpr ⟨id, h_id, h_family⟩
    exact Registry.find?_eq_none_iff.mp h_find h_mem

/-- An instance whose component is gone is skipped. -/
theorem Gathered.skip (h : Gathered t ids groups) (h_gone : t.mainComponent? id = none) :
    Gathered t (ids ++ [id]) groups := by
  have h_none : family? t id = none := by rw [family?, h_gone, Option.map_none]
  refine ⟨?_, fun family g h_find => (h.gathers family g h_find).other ?_⟩
  · simp [h.families, List.filterMap_append, h_none]
  · rw [h_none]
    exact (Option.some_ne_none family).symm

/-- **One more instance** changes the group of its family. -/
theorem Gathered.insert (h : Gathered t ids groups) (h_family : family? t id = some family)
    (hg : Gathers t (ids ++ [id]) family g) :
    Gathered t (ids ++ [id]) (groups.insert family g) := by
  refine ⟨?_, fun family' g' h_find => ?_⟩
  · rw [List.filterMap_append, List.filterMap_cons_some h_family, List.filterMap_nil]
    exact Registry.keys_insert_of_eraseDups h.families family g
  · rw [Registry.find?_insert] at h_find
    split at h_find
    · rename_i h_same
      rwa [← h_same, ← Option.some.inj h_find]
    · rename_i h_ne
      refine (h.gathers family' g' h_find).other fun h_same => h_ne ?_
      exact Option.some.inj (h_family.symm.trans h_same)

end Step

end Discovery

end Clickwork
