import Clickwork.Proofs.Clicks

/-!
# What wiring shows

Wiring gives each instance of a group a variable with the value it was captured with, and binds it.
So an instance shows afterwards what was captured of it, and everything else shows what it did.

A value is not captured as it is shown, if it counts as absent and a text is shown for it all the
same: false, a zero, an empty list, an empty object (`Scene.Fades`). It is captured as the empty
text. `Wiring.shown_after_apply` says that wiring changes what a property shows just if it binds the
property (`Wiring.Binds`) and its value fades, and that the property is shown as empty then.

The group may be any, with instances listed twice or gone, and so may the collection: without one
there are no variables, and nothing is bound (`Wiring.apply_vacant`).
-/

namespace Clickwork

open Scene (Placement variableId settleAll slotsFrom boundIds)

namespace Scene

/-! ### Values that fade -/

/-- **A property fades**: its value counts as absent, although a text is shown for it. -/
def Fades (s : Scene) (node property : String) : Prop :=
  ∃ n raw, s.nodes.find? node = some n ∧ s.rawValue? n property = some raw ∧
    raw.isVacant = true ∧ raw.shown ≠ ""

/-- What fades is captured as empty. -/
theorem Fades.captured {s : Scene} {node property : String} (h : s.Fades node property) :
    s.captured property node = "" := by
  obtain ⟨n, raw, hn, h_raw, h_vacant, -⟩ := h
  rw [captured_eq hn, h_raw, Option.bind_some, Json.present?, if_pos h_vacant]
  rfl

/-- **What does not fade is captured as it is shown.** -/
theorem shownValue_eq_captured_iff {s : Scene} {node : String} {n : Node}
    (hn : s.nodes.find? node = some n) (property : String) :
    s.shownValue node property = .ok (s.captured property node) ↔ ¬s.Fades node property := by
  rw [shownValue_eq hn, captured_eq hn, Except.ok.injEq]
  cases h_raw : s.rawValue? n property with
  | none =>
    refine iff_of_true rfl ?_
    rintro ⟨n', raw, hn', h_raw', -⟩
    obtain rfl := Option.some.inj (hn.symm.trans hn')
    cases h_raw.symm.trans h_raw'
  | some raw =>
    -- the node has one raw value, so fading is about that one
    have h_fades : s.Fades node property ↔ raw.isVacant = true ∧ raw.shown ≠ "" := by
      constructor
      · rintro ⟨n', raw', hn', h_raw', h_vacant⟩
        obtain rfl := Option.some.inj (hn.symm.trans hn')
        obtain rfl := Option.some.inj (h_raw.symm.trans h_raw')
        exact h_vacant
      · exact fun h_vacant => ⟨n, raw, hn, h_raw, h_vacant⟩
    rw [h_fades, Option.bind_some, Json.present?]
    by_cases h_vacant : raw.isVacant = true
    · rw [if_pos h_vacant]
      simp [h_vacant, Json.shownOrEmpty]
    · rw [if_neg h_vacant]
      exact iff_of_true rfl fun h => h_vacant h.1

/-! ### Changes and what is shown -/

/-- Reactions do not show. -/
theorem shownValue_placeAll (s : Scene) (changes : List (String × List Reaction))
    (node property : String) : (s.placeAll changes).shownValue node property =
      s.shownValue node property := by
  rw [shownValue, shownValue, find?_placeAll, placeAll_eq]
  cases s.nodes.find? node with
  | none => rfl
  | some n => cases s.lastPlaced changes node <;> rfl

section

variable (collection : String) {property : String} {s : Scene} {ps : List Placement}

/-- **An instance that was bound shows what was captured of it.** -/
theorem shownValue_settleAll_of_bound (hs : s.WellFormed)
    (h_values : ∀ p ∈ ps, p.value = s.captured property p.node) {node : String} {n : Node}
    (hn : s.nodes.find? node = some n) (h_bound : boundIds s.nextId ps node ≠ []) :
    (settleAll collection property s ps).shownValue node property =
      .ok (s.captured property node) := by
  have h_after := nodes_settleAll collection property s ps node
  rw [hn, Option.map_some] at h_after
  obtain ⟨id, h_last⟩ : ∃ id, (boundIds s.nextId ps node).getLast? = some id :=
    Option.ne_none_iff_exists'.mp fun h => h_bound (List.getLast?_eq_none_iff.mp h)
  obtain ⟨k, p, hk, rfl, rfl⟩ := mem_boundIds (List.mem_of_getLast? h_last)
  have h_variable := variableValue?_str (find?_settleAll collection property hs.fresh hk) rfl
  rw [shownValue_eq h_after, rawValue?, find?_bindAll, if_pos rfl, h_last, Option.some_or,
    Option.bind_some, h_variable, Option.some_or, h_values p (List.mem_of_getElem? hk)]
  rfl

/-- A property that was not bound shows what it did. -/
theorem shownValue_settleAll_of_not_bound (hs : s.WellFormed) (node : String) {property' : String}
    (h : property = property' → boundIds s.nextId ps node = []) :
    (settleAll collection property s ps).shownValue node property' =
      s.shownValue node property' := by
  have h_extended : Extended collection (fun _ => True) s (settleAll collection property s ps) :=
    .settleAll hs.fresh fun _ _ => trivial
  have h_after := nodes_settleAll collection property s ps node
  cases hn : s.nodes.find? node with
  | none =>
    rw [hn, Option.map_none] at h_after
    rw [shownValue, shownValue, hn, h_after]
  | some n =>
    rw [hn, Option.map_some] at h_after
    have h_binding : (n.bindAll property (boundIds s.nextId ps node)).bindings.find? property' =
        n.bindings.find? property' := by
      rw [find?_bindAll]
      split
      · rw [h ‹_›]
        rfl
      · rfl
    rw [shownValue_eq h_after, shownValue_eq hn, rawValue?, rawValue?, h_binding]
    -- the variable it is bound to is there, and has kept its value
    cases ht : n.bindings.find? property' with
    | none => rfl
    | some target =>
      obtain ⟨v, hv⟩ := hs.target_exists node n property' target hn ht
      rw [Option.bind_some, Option.bind_some,
        variableValue?_congr ((h_extended.old target v hv).trans hv.symm)]
      rfl

/-- **What state variables change of what is shown**: nothing but bound values that fade. -/
theorem shownValue_settleAll (hs : s.WellFormed)
    (h_values : ∀ p ∈ ps, p.value = s.captured property p.node) (node property' : String) :
    ((settleAll collection property s ps).shownValue node property' =
        s.shownValue node property' ↔
      ¬((property = property' ∧ boundIds s.nextId ps node ≠ []) ∧ s.Fades node property')) ∧
    ((property = property' ∧ boundIds s.nextId ps node ≠ []) ∧ s.Fades node property' →
      (settleAll collection property s ps).shownValue node property' = .ok "") := by
  by_cases h_bound : property = property' ∧ boundIds s.nextId ps node ≠ []
  · obtain ⟨rfl, h_ids⟩ := h_bound
    cases hn : s.nodes.find? node with
    | none =>
      -- a node that is gone shows nothing, before and after
      have h_after := nodes_settleAll collection property s ps node
      rw [hn, Option.map_none] at h_after
      have h_calm : ¬s.Fades node property := by
        rintro ⟨n, raw, hn', -⟩
        cases hn.symm.trans hn'
      refine ⟨iff_of_true ?_ fun h => h_calm h.2, fun h => absurd h.2 h_calm⟩
      rw [shownValue, shownValue, hn, h_after]
    | some n =>
      have h_shown := shownValue_settleAll_of_bound collection hs h_values hn h_ids
      rw [h_shown, eq_comm, shownValue_eq_captured_iff hn]
      refine ⟨not_congr (and_iff_right ⟨rfl, h_ids⟩).symm, fun h => ?_⟩
      rw [h.2.captured]
  · refine ⟨iff_of_true ?_ fun h => h_bound h.1, fun h => absurd h.1 h_bound⟩
    exact shownValue_settleAll_of_not_bound collection hs node fun h_property =>
      by_contra fun h_ids => h_bound ⟨h_property, h_ids⟩

end

/-! ### Slots -/

theorem getElem?_slotsFrom {n : Nat} {ps : List Placement} {k : Nat} :
    (slotsFrom n ps)[k]? = ps[k]?.map fun p =>
      if p.bound then Slot.bound (variableId (n + k)) else Slot.unbound (variableId (n + k)) := by
  rw [slotsFrom, List.getElem?_map, List.getElem?_zipIdx, Option.map_map]
  rfl

/-- A node is bound to some variable, if one of its placements is to be bound. -/
theorem boundIds_ne_nil_iff {n : Nat} {ps : List Placement} {node : String} :
    boundIds n ps node ≠ [] ↔ ∃ p ∈ ps, p.bound = true ∧ p.node = node := by
  induction ps generalizing n with
  | nil => simp [boundIds]
  | cons p ps ih =>
    rw [boundIds_cons, ne_eq, List.append_eq_nil_iff, not_and_or, ← ne_eq (boundIds _ _ _), ih]
    by_cases h : p.bound = true ∧ p.node = node
    · simp [h]
    · simp [h]

end Scene

namespace Wiring

variable {σ : Type} {s : σ} {h : Host}

/-! ### What is bound -/

/-- **The wiring bound a property of a node**: it has a slot for the node, with a bound variable. -/
def Binds (w : Wiring) (g : Group) (node property : String) : Prop :=
  w.property = some property ∧ ∃ slots, w.slots = some slots ∧
    ∃ e ∈ g.instances.zip slots, e.1.id = node ∧ e.2.isBound = true

/-- The slots of a group tell which nodes are bound. -/
theorem isBound_slotsOf_iff {plan : Plan} {g : Group} {node : String} :
    (∃ e ∈ g.instances.zip (slotsOf plan h g), e.1.id = node ∧ e.2.isBound = true) ↔
      boundIds h.scene.nextId (placements plan h g.instances) node ≠ [] := by
  rw [Scene.boundIds_ne_nil_iff]
  constructor
  · rintro ⟨⟨i, slot⟩, h_mem, rfl, h_bound⟩
    obtain ⟨k, hk⟩ := List.mem_iff_getElem?.mp h_mem
    obtain ⟨hi, h_slot⟩ := List.getElem?_zip_eq_some.mp hk
    rw [slotsOf, Scene.getElem?_slotsFrom, getElem?_placements, hi, Option.map_some,
      Option.map_some] at h_slot
    refine ⟨placement plan h i k, List.mem_iff_getElem?.mpr ⟨k, ?_⟩, ?_, rfl⟩
    · rw [getElem?_placements, hi, Option.map_some]
    · by_contra h_unbound
      rw [if_neg h_unbound] at h_slot
      obtain rfl := Option.some.inj h_slot
      cases h_bound
  · rintro ⟨p, h_mem, h_bound, rfl⟩
    obtain ⟨k, hk⟩ := List.mem_iff_getElem?.mp h_mem
    have h_slot : (slotsOf plan h g)[k]? = some (.bound (variableId (h.scene.nextId + k))) := by
      rw [slotsOf, Scene.getElem?_slotsFrom, hk, Option.map_some, if_pos h_bound]
    rw [getElem?_placements, Option.map_eq_some_iff] at hk
    obtain ⟨i, hi, rfl⟩ := hk
    exact ⟨(i, _), List.mem_of_getElem? (List.getElem?_zip_eq_some.mpr ⟨hi, h_slot⟩), rfl, rfl⟩

/-- **What a wiring changes of what is shown**: a bound property that fades is shown as empty, and
everything else is shown as before. -/
def Veils (w : Wiring) (g : Group) (before after : Scene) : Prop :=
  ∀ node property,
    (after.shownValue node property = before.shownValue node property ↔
      ¬(w.Binds g node property ∧ before.Fades node property)) ∧
    (w.Binds g node property ∧ before.Fades node property →
      after.shownValue node property = .ok "")

/-- A wiring that binds nothing, and has placed reactions only. -/
theorem Veils.of_placed {w : Wiring} {g : Group} {before : Scene}
    (h_unbound : ∀ node property, ¬w.Binds g node property)
    (changes : List (String × List Reaction)) : w.Veils g before (before.placeAll changes) :=
  fun node property =>
    ⟨iff_of_true (Scene.shownValue_placeAll before changes node property)
      fun h => h_unbound node property h.1, fun h => absurd h.1 (h_unbound node property)⟩

/-! ### Collections that are not there -/

/-- Without a collection, every slot stays vacant. -/
theorem outcome_fillSlots_vacant (hr : h.Reliable) {plan : Plan}
    (h_collection : plan.collection ∉ h.scene.collections.values) (instances : List Instance)
    (captured : List String) :
    (fillSlots plan instances captured : Program σ _).outcome s h =
      (.ok (instances.zipIdx.map fun _ => .vacant), s, h) := by
  refine Program.outcome_mapM_of_forall _ fun ⟨i, index⟩ _ => ?_
  obtain ⟨name, h_name⟩ : ∃ name, name = variableName plan.interaction index plan.authored :=
    ⟨_, rfl⟩
  have h_refused : h.perform (.createVariable name plan.collection "STRING") =
      (.error (.host (.noCollection plan.collection)), h) := by
    rw [hr.perform rfl (by simp [Call.method])]
    simp only [Host.answer, Scene.createVariable, if_neg h_collection]
  have h_create : (createState plan.collection name captured[index]? :
      Program σ String).attempt.outcome s h =
        (.ok (.error (.host (.noCollection plan.collection))), s, h) := by
    rw [Program.outcome_attempt, createState, Program.outcome_bind, Program.outcome_ask, h_refused]
  rw [fillSlot, ← h_name, Program.outcome_bind_ok h_create]
  exact Program.outcome_bind_ok (Program.outcome_log _ _ _ _ _) _

/-- **Wiring a group without a collection**: nothing is bound, and every instance is left with a
reaction that does nothing. -/
theorem apply_vacant (hr : h.Reliable) {collection : String}
    (h_collection : collection ∉ h.scene.collections.values) {i : Interaction} {g : Group}
    (config : Config) {primary : Setting} {property : String}
    (h_setting : Setting.parse? i.primaryAction = some primary)
    (h_property : ((Resolution.property primary.property g.instances :
      Program σ _).outcome s h).1 = .ok (some property)) :
    (apply collection i g config : Program σ Wiring).Ends s h fun r s' h' =>
      s' = s ∧ ∃ w, r = .ok w ∧ w.slots = some (g.instances.zipIdx.map fun _ => .vacant) ∧
        ∃ rs, h'.scene = h.scene.placeAll (installations g.instances rs) := by
  obtain ⟨result, h_resolve⟩ := outcome_property (s := s) hr primary.property g.instances
  rw [h_resolve] at h_property
  obtain rfl : result = some property := Except.ok.inj h_property
  have h_read := Program.outcome_mapM_of_forall g.instances fun j _ =>
    outcome_readValue (s := s) hr property j
  obtain ⟨slots, h_slots⟩ : ∃ slots : List Slot,
      slots = g.instances.zipIdx.map fun _ => .vacant := ⟨_, rfl⟩
  have h_filled : (fillSlots (plan collection i primary property) g.instances
      (g.instances.map fun j => h.scene.captured property j.id) : Program σ _).outcome s h =
        (.ok slots, s, h) :=
    h_slots ▸ outcome_fillSlots_vacant hr h_collection _ _
  have h_prepare : (prepare collection i g config primary property : Program σ _).outcome s h =
      (.ok (.ofSiblings ⟨property, primary.value⟩ (siblings h.scene i g config primary property),
        slots), s, h) := by
    rw [prepare, Program.outcome_bind_ok h_read]
    refine (Program.outcome_bind_ok h_filled _).trans ?_
    rw [Program.outcome_bind_ok h_read, TargetTable.compile_self, List.map_map]
    rfl
  have h_vacant : slots.all (· == .vacant) = true := by
    rw [h_slots]
    simp
  obtain ⟨rs, h_build⟩ : ∃ rs, Reaction.build
      (some (.ofSiblings ⟨property, primary.value⟩ (siblings h.scene i g config primary property)))
      (some slots) g.instances.length = .ok rs :=
    ⟨_, by rw [Reaction.build, if_pos h_vacant]⟩
  obtain ⟨installed, h_install⟩ := install_ends (s := s) hr g.instances rs
  rw [apply, h_setting]
  refine Program.Ends.bind_eq h_resolve ?_
  refine Program.Ends.bind_eq (by rw [Program.outcome_map, h_prepare]; rfl) ?_
  refine Program.Ends.bind_eq (outcome_lift_ok h_build) ?_
  refine Program.Ends.bind_eq h_install ?_
  exact ⟨rfl, _, rfl, congrArg some h_slots, rs, rfl⟩

/-! ### Wiring -/

/-- **Wiring changes nothing that is shown**, but for bound values that fade. -/
theorem apply_veils (hr : h.Reliable) (hb : h.scene.Built) (collection : String) (i : Interaction)
    (g : Group) (config : Config) :
    (apply collection i g config : Program σ Wiring).Ends s h fun r s' h' =>
      s' = s ∧ ∃ w, r = .ok w ∧ w.Veils g h.scene h'.scene := by
  by_cases h_applies : ∃ primary property, Setting.parse? i.primaryAction = some primary ∧
      ((Resolution.property primary.property g.instances : Program σ _).outcome s h).1 =
        .ok (some property)
  · obtain ⟨primary, property, h_setting, h_property⟩ := h_applies
    by_cases h_collection : collection ∈ h.scene.collections.values
    · refine (apply_settled hr hb h_collection config h_setting h_property).mono ?_
      rintro r s' h' - ⟨rfl, -, rs, installed, -, rfl, h_scene⟩
      refine ⟨rfl, _, rfl, fun node property' => ?_⟩
      have h_values : ∀ p ∈ placements (plan collection i primary property) h g.instances,
          p.value = h.scene.captured property p.node := by
        intro p h_mem
        obtain ⟨⟨j, index⟩, -, rfl⟩ := List.mem_map.mp h_mem
        rfl
      have h_shown := Scene.shownValue_settleAll collection hb.wellFormed h_values node property'
      rw [h_scene, wired, Scene.shownValue_placeAll]
      -- the slots tell which nodes are bound
      rw [← isBound_slotsOf_iff] at h_shown
      have h_binds (installed : Nat) (table : Option TargetTable) :
          Wiring.Binds ⟨i.id, g.id, some property, table,
            some (slotsOf (plan collection i primary property) h g), installed⟩ g node property' ↔
          property = property' ∧
            ∃ e ∈ g.instances.zip (slotsOf (plan collection i primary property) h g),
              e.1.id = node ∧ e.2.isBound = true := by
        simp [Binds]
      rw [h_binds]
      exact h_shown
    · refine (apply_vacant hr h_collection config h_setting h_property).mono ?_
      rintro r s' h' - ⟨rfl, w, rfl, h_slots, rs, h_scene⟩
      refine ⟨rfl, w, rfl, h_scene ▸ .of_placed ?_ _⟩
      rintro node property' ⟨-, slots, h_some, ⟨j, slot⟩, h_mem, -, h_bound⟩
      obtain rfl := Option.some.inj (h_slots.symm.trans h_some)
      obtain ⟨-, -, rfl⟩ := List.mem_map.mp (List.of_mem_zip h_mem).2
      cases h_bound
  · have h_inert : ∀ primary, Setting.parse? i.primaryAction = some primary →
        ((Resolution.property primary.property g.instances : Program σ _).outcome s h).1 =
          .ok none := by
      intro primary h_setting
      obtain ⟨result, h_resolve⟩ := outcome_property (s := s) hr primary.property g.instances
      rw [h_resolve]
      cases result with
      | none => rfl
      | some property => exact absurd ⟨primary, property, h_setting, by rw [h_resolve]⟩ h_applies
    refine (apply_inert hr h_inert).mono ?_
    rintro r s' h' - ⟨⟨installed, rfl⟩, rfl, -, h_scene⟩
    refine ⟨rfl, _, rfl, h_scene ▸ .of_placed ?_ _⟩
    rintro node property ⟨h_property, -⟩
    cases h_property

/-- **What is shown after wiring.** On a host that fails at bindings only, wiring an interaction
onto a group comes to its end, and every property of every node shows what it showed before, unless
it was bound and its value fades. Then it is shown as empty. -/
theorem shown_after_apply (m : Machine σ) (hb : m.host.scene.Built) (hr : m.host.Reliable)
    (collection : String) (i : Interaction) (g : Group) (config : Config) :
    ∃ w m', (apply collection i g config : Program σ Wiring).eval m = (.ok w, m') ∧
      m'.memory = m.memory ∧ ∀ node property,
        (m'.host.scene.shownValue node property = m.host.scene.shownValue node property ↔
          ¬(w.Binds g node property ∧ m.host.scene.Fades node property)) ∧
        (w.Binds g node property ∧ m.host.scene.Fades node property →
          m'.host.scene.shownValue node property = .ok "") := by
  have h_eval := (apply collection i g config : Program σ Wiring).eval_eq_outcome m
  obtain ⟨h_memory, w, h_ok, h_veils⟩ := apply_veils (s := m.memory) hr hb collection i g config
  rw [← h_eval] at h_memory h_ok h_veils
  exact ⟨w, ((apply collection i g config : Program σ Wiring).eval m).2, Prod.ext h_ok rfl,
    h_memory, h_veils⟩

/-- The panel, on which the first tab has a truth value and the second one a structured value. -/
def mixedScene : Scene :=
  Scene.panel.operateAll
    [.setProperty "tab-1" "State" (.bool false),
      .setProperty "tab-2" "State" (.obj [("value", .str "Off")])]

def mixedPanel : Machine Unit where
  memory := ()
  host := { scene := mixedScene }

/-- Of the tabs, which are both bound, the first one is shown as empty. -/
theorem shown_after_apply_on_panel :
    ∃ w m', (apply "VariableCollectionId:1" dimming switches {} : Program Unit Wiring).eval
        mixedPanel = (.ok w, m') ∧
      w.Binds switches "tab-1" "State" ∧ m'.host.scene.shownValue "tab-1" "State" = .ok "" ∧
      w.Binds switches "tab-2" "State" ∧ m'.host.scene.shownValue "tab-2" "State" = .ok "Off" := by
  obtain ⟨w, m', h_eval, -, h_shown⟩ := shown_after_apply mixedPanel
    (Scene.built_panel.operateAll _) (fun _ _ _ => rfl) "VariableCollectionId:1" dimming switches {}
  have h_result : ((apply "VariableCollectionId:1" dimming switches {} : Program Unit Wiring).eval
      mixedPanel).1.toOption.map (fun w => (w.property, w.slots)) = some (some "State",
        some [.bound "VariableID:2", .bound "VariableID:3", .bound "VariableID:4"]) := by
    decide +kernel
  rw [h_eval] at h_result
  obtain ⟨h_property, h_slots⟩ := Prod.mk.inj (Option.some.inj h_result)
  have h_first : w.Binds switches "tab-1" "State" :=
    ⟨h_property, _, h_slots, (⟨"tab-1", "Home"⟩, .bound "VariableID:2"), by simp [switches],
      rfl, rfl⟩
  have h_second : w.Binds switches "tab-2" "State" :=
    ⟨h_property, _, h_slots, (⟨"tab-2", "News"⟩, .bound "VariableID:3"), by simp [switches],
      rfl, rfl⟩
  -- a value fades if it is captured otherwise than it is shown
  have h_fades : mixedScene.Fades "tab-1" "State" := by
    obtain ⟨n, hn⟩ := Registry.contains_iff.mp
      (show mixedScene.nodes.contains "tab-1" = true by decide +kernel)
    by_contra h_calm
    exact absurd ((Scene.shownValue_eq_captured_iff hn "State").mpr h_calm) (by decide +kernel)
  have h_calm : ¬mixedScene.Fades "tab-2" "State" := by
    obtain ⟨n, hn⟩ := Registry.contains_iff.mp
      (show mixedScene.nodes.contains "tab-2" = true by decide +kernel)
    exact (Scene.shownValue_eq_captured_iff hn "State").mp (by decide +kernel)
  refine ⟨w, m', h_eval, h_first, (h_shown _ _).2 ⟨h_first, h_fades⟩, h_second, ?_⟩
  exact ((h_shown _ _).1.mpr fun h => h_calm h.2).trans (by decide +kernel)

/-- **A value that is shown differently once it is bound.** -/
theorem value_veiled :
    mixedPanel.host.scene.shownValue "tab-1" "State" = .ok "False" ∧
    ((apply "VariableCollectionId:1" dimming switches {} : Program Unit Wiring).eval
      mixedPanel).2.host.scene.shownValue "tab-1" "State" = .ok "" := by
  decide +kernel

end Wiring

end Clickwork
