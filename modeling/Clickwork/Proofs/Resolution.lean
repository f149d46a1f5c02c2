import Clickwork.Proofs.Host
import Clickwork.Proofs.Scene.Components
import Clickwork.Resolution
import Clickwork.Setting

/-!
# What a property name resolves to

`Resolution.property` goes through the instances with an eye on the sets that it has asked already,
and gives up at the first one that has no such property. What it answers depends on no order all the
same (`Resolution.property_resolves`): the name applies if at least one component is there, and each
component that is there belongs to a set that declares a variant property of the name, in whatever
case. The answer is then the first such property of the first of these sets.

Both are told from what each instance has to say (`Resolution.verdict?`): the walk comes to the first
verdict if all of them are names (`Resolution.outcome_property`).
-/

namespace Clickwork

/-! ### Declared names -/

/-- A declaration of a variant property of the given name, in whatever case. -/
def Definition.Names (candidate : String) (declaration : String × Definition) : Prop :=
  declaration.2.isVariant = true ∧ Text.lower declaration.1 = Text.lower candidate

instance (candidate : String) (declaration : String × Definition) :
    Decidable (Definition.Names candidate declaration) :=
  inferInstanceAs (Decidable (_ ∧ _))

namespace VariantSet

/-- **A set declares a variant property** of the given name, in whatever case. -/
def Declares (set : VariantSet) (candidate : String) : Prop :=
  ∃ declaration ∈ set.definitions.entries, Definition.Names candidate declaration

/-- **The first variant property that a set declares** under the given name, in whatever case. -/
def DeclaresFirst (set : VariantSet) (candidate name : String) : Prop :=
  ∃ before definition after, set.definitions.entries = before ++ (name, definition) :: after ∧
    Definition.Names candidate (name, definition) ∧
    ∀ declaration ∈ before, ¬Definition.Names candidate declaration

variable {set : VariantSet} {candidate name : String}

theorem declared?_eq_some_iff :
    set.declared? candidate = some name ↔ set.DeclaresFirst candidate name := by
  simp only [declared?, Option.map_eq_some_iff, List.find?_eq_some_iff_append, DeclaresFirst,
    Definition.Names, Bool.and_eq_true, beq_iff_eq, Bool.not_eq_true']
  constructor
  · rintro ⟨⟨_, definition⟩, ⟨h_names, before, after, h_entries, h_before⟩, rfl⟩
    refine ⟨before, definition, after, h_entries, h_names, fun declaration h_mem h_names => ?_⟩
    have h_not := h_before declaration h_mem
    simp [h_names] at h_not
  · rintro ⟨before, definition, after, h_entries, h_names, h_before⟩
    refine ⟨(name, definition), ⟨h_names, before, after, h_entries, fun declaration h_mem => ?_⟩, rfl⟩
    have h_not := h_before declaration h_mem
    simpa [not_and] using h_not

theorem declared?_eq_none_iff : set.declared? candidate = none ↔ ¬set.Declares candidate := by
  simp only [declared?, Option.map_eq_none_iff, List.find?_eq_none, Declares, Definition.Names,
    Bool.and_eq_true, beq_iff_eq, not_exists, not_and]

theorem DeclaresFirst.declares (h_first : set.DeclaresFirst candidate name) :
    set.Declares candidate := by
  obtain ⟨before, definition, after, h_entries, h_names, -⟩ := h_first
  exact ⟨(name, definition), by simp [h_entries], h_names⟩

theorem DeclaresFirst.lower_eq (h_first : set.DeclaresFirst candidate name) :
    Text.lower name = Text.lower candidate := by
  obtain ⟨_, _, _, -, h_names, -⟩ := h_first
  exact h_names.2

end VariantSet

namespace Resolution

variable {σ : Type} {s : σ} {h : Host} {t : Scene} {candidate : String}

/-! ### Verdicts -/

/-- **What an instance has to say about a property name**: nothing if its component is gone, and
otherwise the name that the set of its component declares, if there is one. -/
def verdict? (t : Scene) (candidate : String) (i : Instance) : Option (Option String) :=
  (t.mainComponent? i.id).map fun c => c.set.bind (·.declared? candidate)

/-- What those instances say that have a say. -/
def verdicts (t : Scene) (candidate : String) (instances : List Instance) : List (Option String) :=
  instances.filterMap (verdict? t candidate)

theorem verdicts_of_gone {i : Instance} (rest : List Instance)
    (h_gone : t.mainComponent? i.id = none) :
    verdicts t candidate (i :: rest) = verdicts t candidate rest :=
  List.filterMap_cons_none (by rw [verdict?, h_gone, Option.map_none])

theorem verdicts_of_component {i : Instance} {c : Component} (rest : List Instance)
    (h_component : t.mainComponent? i.id = some c) : verdicts t candidate (i :: rest) =
      c.set.bind (·.declared? candidate) :: verdicts t candidate rest :=
  List.filterMap_cons_some (by rw [verdict?, h_component, Option.map_some])

/-- **What a property name resolves to** on some instances. -/
def resolved? (t : Scene) (candidate : String) (instances : List Instance) : Option String :=
  if candidate = "" ∨ none ∈ verdicts t candidate instances then none
  else (verdicts t candidate instances).head?.join

/-- What a name resolves to depends on the components only. -/
theorem resolved?_congr {t' : Scene} (h_same : ∀ node, t'.mainComponent? node = t.mainComponent? node)
    (candidate : String) (instances : List Instance) :
    resolved? t' candidate instances = resolved? t candidate instances := by
  have h_verdict : verdict? t' candidate = verdict? t candidate := by
    funext i
    rw [verdict?, verdict?, h_same]
  rw [resolved?, resolved?, verdicts, verdicts, h_verdict]

/-- **Going through the instances** comes to the name that was found, or else to the first verdict,
unless one of them is against it. The sets that were asked all declare the name. -/
theorem outcome_propertyAmong (hs : h.Spares .mainComponent) (candidate : String)
    (instances : List Instance) {found : Option String} {asked : List String}
    (h_found : asked ≠ [] → found.isSome = true)
    (h_asked : ∀ id ∈ asked, ∀ set, h.scene.set? id = some set → set.Declares candidate) :
    (propertyAmong candidate found asked instances : Program σ _).outcome s h =
      (.ok (if none ∈ verdicts h.scene candidate instances then none
        else found.or (verdicts h.scene candidate instances).head?.join), s, h) := by
  induction instances generalizing found asked with
  | nil => cases found <;> rfl
  | cons i rest ih =>
    have h_ask : (Program.ask (.mainComponent i.id) : Program σ (Option Component)).outcome s h =
        (.ok (h.scene.mainComponent? i.id), s, h) := Program.outcome_ask_of_spares hs
    rw [propertyAmong, Program.outcome_bind_ok h_ask]
    cases h_component : h.scene.mainComponent? i.id with
    | none =>
      rw [verdicts_of_gone rest h_component]
      exact ih h_found h_asked
    | some c =>
      rw [verdicts_of_component rest h_component]
      cases h_set : c.set with
      | none => simp [h_set]
      | some set =>
        have h_scene := Scene.set?_of_mainComponent? h_component h_set
        simp only [h_set, Option.bind_some, List.mem_cons]
        split
        · -- the set has been asked: it declares the name, and another one was found before
          rename_i h_again
          obtain ⟨name, h_name⟩ := Option.isSome_iff_exists.mp (h_found (List.ne_nil_of_mem h_again))
          have h_declared : set.declared? candidate ≠ none := fun h_none =>
            VariantSet.declared?_eq_none_iff.mp h_none (h_asked set.id h_again set h_scene)
          rw [ih h_found h_asked, h_name]
          simp [h_declared.symm]
        · cases h_declared : set.declared? candidate with
          | none => simp
          | some name =>
            simp only
            rw [ih (fun _ => by cases found <;> rfl) ?_]
            · cases found <;> simp
            · intro id h_mem set' h_set'
              rcases List.mem_cons.mp h_mem with rfl | h_mem
              · obtain rfl := Option.some.inj (h_scene.symm.trans h_set')
                exact (VariantSet.declared?_eq_some_iff.mp h_declared).declares
              · exact h_asked id h_mem set' h_set'

/-- **Resolving a property name** asks for components only, and comes to what the instances agree
on. -/
theorem outcome_property (hs : h.Spares .mainComponent) (candidate : String)
    (instances : List Instance) :
    (property candidate instances : Program σ _).outcome s h =
      (.ok (resolved? h.scene candidate instances), s, h) := by
  unfold property resolved?
  by_cases h_empty : candidate = ""
  · simp [h_empty]
  · simp only [String.isEmpty_iff, h_empty, if_false, false_or]
    rw [outcome_propertyAmong hs candidate instances (fun h_ne => absurd rfl h_ne) (by simp)]
    simp

/-! ### Agreement -/

/-- **A property name applies to some instances**: at least one component is there, and each one that
is there belongs to a set that declares a variant property of the name, in whatever case. -/
structure Applies (t : Scene) (candidate : String) (instances : List Instance) : Prop where
  named : candidate ≠ ""
  present : ∃ i ∈ instances, ∃ c, t.mainComponent? i.id = some c
  declared : ∀ i ∈ instances, ∀ c, t.mainComponent? i.id = some c →
    ∃ set, c.set = some set ∧ set.Declares candidate

variable {instances : List Instance}

theorem none_notMem_verdicts_iff : none ∉ verdicts t candidate instances ↔
    ∀ i ∈ instances, ∀ c, t.mainComponent? i.id = some c →
      ∃ set, c.set = some set ∧ set.Declares candidate := by
  simp only [verdicts, verdict?, List.mem_filterMap, Option.map_eq_some_iff, not_exists, not_and]
  refine forall₂_congr fun i _ => forall₂_congr fun c _ => ?_
  cases c.set with
  | none => simp
  | some set =>
    rw [Option.bind_some, VariantSet.declared?_eq_none_iff, not_not]
    exact ⟨fun h_declares => ⟨set, rfl, h_declares⟩, fun ⟨_, h_eq, h_declares⟩ =>
      Option.some.inj h_eq ▸ h_declares⟩

/-- The first verdict is that of the first instance whose component is there. -/
theorem head?_verdicts (t : Scene) (candidate : String) (instances : List Instance) :
    (verdicts t candidate instances).head? =
      (instances.find? fun i => (t.mainComponent? i.id).isSome).bind (verdict? t candidate) := by
  induction instances with
  | nil => rfl
  | cons i rest ih =>
    cases h_component : t.mainComponent? i.id with
    | none =>
      rw [verdicts_of_gone rest h_component, ih,
        List.find?_cons_of_neg (by rw [h_component]; nofun)]
    | some c =>
      rw [verdicts_of_component rest h_component, List.find?_cons_of_pos (by rw [h_component]; rfl),
        Option.bind_some, verdict?, h_component]
      rfl

theorem verdict?_eq_some_some_iff {i : Instance} {name : String} :
    verdict? t candidate i = some (some name) ↔
      ∃ set, t.variantSet? i.id = some set ∧ set.DeclaresFirst candidate name := by
  rw [verdict?, Scene.variantSet?]
  cases t.mainComponent? i.id with
  | none => simp
  | some c =>
    simp only [Option.map_some, Option.bind_some, Option.some.injEq, Option.bind_eq_some_iff,
      VariantSet.declared?_eq_some_iff]

/-- **What a name resolves to**, if it applies, is the name that the first set declares. -/
theorem resolved?_eq_some_iff {name : String} : resolved? t candidate instances = some name ↔
    Applies t candidate instances ∧
      ∃ i set, instances.find? (fun i => (t.mainComponent? i.id).isSome) = some i ∧
        t.variantSet? i.id = some set ∧ set.DeclaresFirst candidate name := by
  have h_head : (verdicts t candidate instances).head?.join = some name ↔
      ∃ i, instances.find? (fun i => (t.mainComponent? i.id).isSome) = some i ∧
        verdict? t candidate i = some (some name) := by
    rw [Option.join_eq_some_iff, head?_verdicts, Option.bind_eq_some_iff]
  simp only [verdict?_eq_some_some_iff, ← exists_and_left] at h_head
  rw [resolved?]
  split
  · -- the name is empty, or some instance is against it
    rename_i h_against
    refine ⟨nofun, fun ⟨h_applies, _⟩ => absurd h_against ?_⟩
    exact not_or.mpr ⟨h_applies.named, none_notMem_verdicts_iff.mpr h_applies.declared⟩
  · rename_i h_against
    obtain ⟨h_named, h_declared⟩ := not_or.mp h_against
    rw [h_head]
    refine ⟨fun h_first => ⟨⟨h_named, ?_, none_notMem_verdicts_iff.mp h_declared⟩, h_first⟩,
      fun h_both => h_both.2⟩
    -- the instance that was found first is one whose component is there
    obtain ⟨i, -, h_find, -⟩ := h_first
    have h_there := List.find?_some h_find
    exact ⟨i, List.mem_of_find?_eq_some h_find, Option.isSome_iff_exists.mp h_there⟩

/-- **A name resolves exactly if it applies.** -/
theorem isSome_resolved?_iff :
    (resolved? t candidate instances).isSome = true ↔ Applies t candidate instances := by
  rw [Option.isSome_iff_exists]
  refine ⟨fun ⟨name, h_name⟩ => (resolved?_eq_some_iff.mp h_name).1, fun h_applies => ?_⟩
  obtain ⟨present, h_present, h_component⟩ := h_applies.present
  -- the set of the first component that is there declares the name
  have h_some : (instances.find? fun i => (t.mainComponent? i.id).isSome).isSome = true :=
    List.find?_isSome.mpr ⟨present, h_present, Option.isSome_iff_exists.mpr h_component⟩
  obtain ⟨i, h_find⟩ := Option.isSome_iff_exists.mp h_some
  have h_there := List.find?_some h_find
  obtain ⟨c, h_c⟩ := Option.isSome_iff_exists.mp h_there
  obtain ⟨set, h_set, h_declares⟩ := h_applies.declared i (List.mem_of_find?_eq_some h_find) c h_c
  obtain ⟨name, h_name⟩ := Option.ne_none_iff_exists'.mp fun h_none =>
    VariantSet.declared?_eq_none_iff.mp h_none h_declares
  exact ⟨name, resolved?_eq_some_iff.mpr ⟨h_applies, i, set, h_find,
    by rw [Scene.variantSet?, h_c, Option.bind_some, h_set],
    VariantSet.declared?_eq_some_iff.mp h_name⟩⟩

/-- Whether a name applies depends neither on the order of the instances nor on how often one of them
is listed. -/
theorem Applies.of_same_ids {others : List Instance} (h_applies : Applies t candidate instances)
    (h_same : ∀ id, id ∈ others.map (·.id) ↔ id ∈ instances.map (·.id)) :
    Applies t candidate others := by
  have h_listed : ∀ i, (∃ j ∈ others, j.id = i) ↔ ∃ j ∈ instances, j.id = i := fun i => by
    simpa only [List.mem_map] using h_same i
  refine ⟨h_applies.named, ?_, fun i hi c h_component => ?_⟩
  · obtain ⟨i, hi, c, h_component⟩ := h_applies.present
    obtain ⟨j, hj, h_id⟩ := (h_listed i.id).mpr ⟨i, hi, rfl⟩
    exact ⟨j, hj, c, by rw [h_id, h_component]⟩
  · obtain ⟨j, hj, h_id⟩ := (h_listed i.id).mp ⟨i, hi, rfl⟩
    exact h_applies.declared j hj c (by rw [h_id, h_component])

/-- **A property name resolves by agreement of the sets.** It resolves exactly if it applies to the
instances. It is then the first variant property of the name, in whatever case, that the set of the
first component that is there declares, so settings match either name alike. Lists of the same
instances, in whatever order and however often they are repeated, agree on whether it resolves. -/
theorem property_resolves (m : Machine σ) (hs : m.host.Spares .mainComponent) (candidate : String)
    (instances : List Instance) :
    ∃ result m', (property candidate instances).eval m = (.ok result, m') ∧
      m'.memory = m.memory ∧ m'.host = m.host ∧
      (result.isSome = true ↔ Applies m.host.scene candidate instances) ∧
      (∀ name, result = some name →
        (∃ i set, instances.find? (fun i => (m.host.scene.mainComponent? i.id).isSome) = some i ∧
          m.host.scene.variantSet? i.id = some set ∧ set.DeclaresFirst candidate name) ∧
        ∀ setting : Setting, setting.concerns candidate = setting.concerns name) ∧
      ∀ others : List Instance, (∀ id, id ∈ others.map (·.id) ↔ id ∈ instances.map (·.id)) →
        ∃ result' m'', (property candidate others).eval m = (.ok result', m'') ∧
          result'.isSome = result.isSome := by
  have h_run := fun instances : List Instance =>
    Program.eval_of_outcome (outcome_property (s := m.memory) hs candidate instances)
  obtain ⟨m', h_eval, h_memory, h_host⟩ := h_run instances
  refine ⟨_, m', h_eval, h_memory, h_host, isSome_resolved?_iff, fun name h_name => ?_,
    fun others h_same => ?_⟩
  · obtain ⟨-, i, set, h_find, h_set, h_first⟩ := resolved?_eq_some_iff.mp h_name
    refine ⟨⟨i, set, h_find, h_set, h_first⟩, fun setting => ?_⟩
    rw [Setting.concerns, Setting.concerns, h_first.lower_eq]
  · obtain ⟨m'', h_eval', -⟩ := h_run others
    refine ⟨_, m'', h_eval', Bool.eq_iff_iff.mpr ?_⟩
    rw [isSome_resolved?_iff, isSome_resolved?_iff]
    exact ⟨(·.of_same_ids fun id => (h_same id).symm), (·.of_same_ids h_same)⟩

/-- Tabs of two variant sets that declare the same property in different cases, and an instance whose
component is gone. -/
def drawer : Scene where
  nodes := .ofList [
    ("lost-1", { name := "Lost", kind := "INSTANCE", component := some "lost" }),
    ("tab-1", { name := "Home", kind := "INSTANCE", component := some "tab" }),
    ("badge-1", { name := "News", kind := "INSTANCE", component := some "badge" })]
  components := .ofList [
    ("tab", { name := "STATE=Off", set := some "tabs" }),
    ("badge", { name := "State=Off", set := some "badges" })]
  sets := .ofList [
    ("tabs", { name := "Tab", definitions := .ofList [
      ("state", ⟨"TEXT", []⟩), ("STATE", ⟨"VARIANT", ["On", "Off"]⟩),
      ("State", ⟨"VARIANT", ["On", "Off"]⟩)] }),
    ("badges", { name := "Badge", definitions := .ofList [("State", ⟨"VARIANT", ["On", "Off"]⟩)] })]

theorem property_resolves_in_drawer :
    ({ scene := drawer } : Host).Spares .mainComponent ∧
      ∃ m', (property "state" [{ id := "lost-1" }, { id := "tab-1" }, { id := "badge-1" }]).eval
          ({ memory := (), host := { scene := drawer } } : Machine Unit) =
            (.ok (some "STATE"), m') ∧
        Applies drawer "state" [{ id := "lost-1" }, { id := "tab-1" }, { id := "badge-1" }] := by
  have h_spares : ({ scene := drawer } : Host).Spares .mainComponent := rfl
  obtain ⟨result, m', h_eval, -, -, h_applies, -⟩ := property_resolves
    ({ memory := (), host := { scene := drawer } } : Machine Unit) h_spares "state"
    [{ id := "lost-1" }, { id := "tab-1" }, { id := "badge-1" }]
  have h_run : ((property "state" [{ id := "lost-1" }, { id := "tab-1" }, { id := "badge-1" }]).eval
      ({ memory := (), host := { scene := drawer } } : Machine Unit)).1.toOption =
        some (some "STATE") := by decide +kernel
  rw [h_eval] at h_run
  obtain rfl : result = some "STATE" := Option.some.inj h_run
  exact ⟨h_spares, m', h_eval, h_applies.mp rfl⟩

end Resolution

end Clickwork
