import Clickwork.Proofs.Scene.Placement
import Clickwork.Scene.Query

/-!
# What instances show

A property of a node shows the value of the variable it is bound to, or else its static value
(`Scene.rawValue?`). `Scene.captured` is that value as the text that wiring captures: empty if the
value counts as absent. State variables are created with the captured values, so binding them
changes nothing about what is captured (`captured_settleAll`).

What a property shows while it is not bound is the node's own value (`Scene.ownValue`). On a scene
whose static values are texts it is what is captured of an unbound node (`captured_of_unbound`).
-/

namespace Clickwork.Scene

/-! ### Raw values -/

/-- **The raw value of a property of a node**: that of its variable, as long as it has one. -/
def rawValue? (s : Scene) (n : Node) (property : String) : Option Json :=
  ((n.bindings.find? property).bind s.variableValue?).or (n.properties.find? property)

theorem variableValue?_congr {s s' : Scene} {id : String}
    (h : s'.variableTable.find? id = s.variableTable.find? id) :
    s'.variableValue? id = s.variableValue? id := by
  rw [variableValue?, variableValue?, h]

/-- A variable that was given a text has that value. -/
theorem variableValue?_str {s : Scene} {id text : String} {v : Variable}
    (h : s.variableTable.find? id = some v) (h_value : v.value = .str text) :
    s.variableValue? id = some (.str text) := by
  simp [variableValue?, h, h_value, Json.kind]

/-- What a binding makes of the property values: the value of its variable, if that has one. -/
def overlay (s : Scene) (values : Registry String Json) (binding : String × String) :
    Registry String Json :=
  (s.variableValue? binding.2).elim values (values.insert binding.1)

theorem instanceProperties_eq {s : Scene} {node : String} {n : Node}
    (hn : s.nodes.find? node = some n) :
    s.instanceProperties node = .ok (n.bindings.entries.foldl s.overlay n.properties) := by
  simp only [instanceProperties, hn]
  congr 2
  funext values binding
  unfold overlay
  cases s.variableValue? binding.2 <;> rfl

theorem find?_foldl_overlay (s : Scene) (property : String) (bindings : List (String × String))
    (values : Registry String Json) (h_nodup : (bindings.map Prod.fst).Nodup) :
    (bindings.foldl s.overlay values).find? property =
      ((Entries.find? property bindings).bind s.variableValue?).or (values.find? property) := by
  induction bindings generalizing values with
  | nil => simp [Entries.find?]
  | cons binding bindings ih =>
    obtain ⟨name, target⟩ := binding
    rw [List.map_cons, List.nodup_cons] at h_nodup
    rw [List.foldl_cons, ih _ h_nodup.2, overlay]
    by_cases h_name : name = property
    · -- the only binding of the property: none further on overwrites it
      subst h_name
      have h_none : Entries.find? name bindings = none := Entries.find?_eq_none_iff.mpr h_nodup.1
      cases h_value : s.variableValue? target <;> simp [Entries.find?, h_none, h_value]
    · cases h_value : s.variableValue? target <;>
        simp [Entries.find?, h_name, Registry.find?_insert]

theorem find?_instanceProperties {s : Scene} {node : String} {n : Node}
    (hn : s.nodes.find? node = some n) :
    ∃ values, s.instanceProperties node = .ok values ∧
      ∀ property, values.find? property = s.rawValue? n property :=
  ⟨_, instanceProperties_eq hn, fun property =>
    find?_foldl_overlay s property n.bindings.entries n.properties n.bindings.nodup⟩

/-- **The text that a property of a node shows** is its raw value as a text. -/
theorem shownValue_eq {s : Scene} {node : String} {n : Node} (hn : s.nodes.find? node = some n)
    (property : String) :
    s.shownValue node property = .ok (Json.shownOrEmpty (s.rawValue? n property)) := by
  simp only [shownValue, hn, rawValue?]
  cases (n.bindings.find? property).bind s.variableValue? with
  | none => rw [Option.none_or]
  | some value => rfl

/-! ### Captured values -/

/-- **The text captured of a property of a node.** A value that counts as absent is empty. -/
def captured (s : Scene) (property node : String) : String :=
  match s.instanceProperties node with
  | .error _ => ""
  | .ok values =>
    match (values.find? property).bind Json.present? with
    | none => ""
    | some raw => raw.shown

theorem captured_eq {s : Scene} {node : String} {n : Node} (hn : s.nodes.find? node = some n)
    (property : String) :
    s.captured property node =
      ((s.rawValue? n property).bind Json.present?).elim "" Json.shown := by
  obtain ⟨values, h_values, h_find⟩ := find?_instanceProperties hn
  rw [captured, h_values]
  simp only [h_find]
  rcases (s.rawValue? n property).bind Json.present? with _ | raw <;> rfl

theorem captured_of_find?_eq_none {s : Scene} {node : String} (hn : s.nodes.find? node = none)
    (property : String) : s.captured property node = "" := by
  rw [captured, instanceProperties, hn]

@[simp] theorem shown_str (text : String) : (Json.str text).shown = text := rfl

/-- A text is captured as it is. -/
theorem elim_present?_str (text : String) :
    ((Json.str text).present?).elim "" Json.shown = text := by
  by_cases h : text.isEmpty = true
  · have h_vacant : (Json.str text).isVacant = true := h
    rw [Json.present?, if_pos h_vacant, Option.elim_none]
    exact (String.isEmpty_iff.mp h).symm
  · have h_present : ¬(Json.str text).isVacant = true := h
    rw [Json.present?, if_neg h_present, Option.elim_some, shown_str]

/-- More variables do not change what is captured. -/
theorem captured_extended {collection : String} {named : String → Prop} {s s' : Scene}
    (h : Extended collection named s s') (h_targets : ∀ node n property target,
      s.nodes.find? node = some n → n.bindings.find? property = some target →
        ∃ v, s.variableTable.find? target = some v)
    {node : String} (h_node : s'.nodes.find? node = s.nodes.find? node) (property : String) :
    s'.captured property node = s.captured property node := by
  cases hn : s.nodes.find? node with
  | none => rw [captured_of_find?_eq_none hn, captured_of_find?_eq_none (h_node.trans hn)]
  | some n =>
    rw [captured_eq hn, captured_eq (h_node.trans hn), rawValue?, rawValue?]
    cases ht : n.bindings.find? property with
    | none => rfl
    | some target =>
      obtain ⟨v, hv⟩ := h_targets node n property target hn ht
      rw [Option.bind_some, Option.bind_some,
        variableValue?_congr ((h.old target v hv).trans hv.symm)]

/-- **State variables that hold what was captured leave it as it is.** -/
theorem captured_settleAll {collection property : String} {s : Scene} (hs : s.WellFormed)
    {ps : List Placement} (h_values : ∀ p ∈ ps, p.value = s.captured property p.node)
    (node : String) :
    (settleAll collection property s ps).captured property node = s.captured property node := by
  have h_extended : Extended collection (fun _ => True) s (settleAll collection property s ps) :=
    .settleAll hs.fresh fun _ _ => trivial
  have h_after := nodes_settleAll collection property s ps node
  -- the variable that was bound last decides; a node that no placement names is as it was
  cases h_last : (boundIds s.nextId ps node).getLast? with
  | none =>
    rw [List.getLast?_eq_none_iff.mp h_last] at h_after
    exact captured_extended h_extended hs.target_exists (h_after.trans Option.map_id') property
  | some id =>
    obtain ⟨k, p, hk, rfl, rfl⟩ := mem_boundIds (List.mem_of_getLast? h_last)
    cases hn : s.nodes.find? p.node with
    | none =>
      rw [hn, Option.map_none] at h_after
      rw [captured_of_find?_eq_none hn, captured_of_find?_eq_none h_after]
    | some n =>
      rw [hn, Option.map_some] at h_after
      have h_variable := variableValue?_str
        (find?_settleAll collection property hs.fresh hk) rfl
      rw [captured_eq h_after, rawValue?, find?_bindAll, if_pos rfl, h_last, Option.some_or,
        Option.bind_some, h_variable, Option.some_or, Option.bind_some, elim_present?_str]
      exact h_values p (List.mem_of_getElem? hk)

/-! ### Values of a node's own -/

/-- **The text that a property of a node shows while it is not bound.** -/
def ownValue (s : Scene) (node property : String) : String :=
  Json.shownOrEmpty ((s.nodes.find? node).bind (·.properties.find? property))

/-- **The static values of nodes are texts.** -/
def Plain (s : Scene) : Prop :=
  ∀ node n property value, s.nodes.find? node = some n → n.properties.find? property = some value →
    ∃ text, value = .str text

/-- **An unbound node is captured with its own value.** -/
theorem captured_of_unbound {s : Scene} (h_plain : s.Plain) {node property : String}
    (h_unbound : ∀ n, s.nodes.find? node = some n → n.bindings.find? property = none) :
    s.captured property node = s.ownValue node property := by
  cases hn : s.nodes.find? node with
  | none => rw [captured_of_find?_eq_none hn, ownValue, hn]; rfl
  | some n =>
    rw [captured_eq hn, rawValue?, h_unbound n hn, Option.bind_none, Option.none_or, ownValue, hn,
      Option.bind_some]
    -- a text is captured as it is shown, also if it counts as absent
    cases h_value : n.properties.find? property with
    | none => rfl
    | some value =>
      obtain ⟨text, rfl⟩ := h_plain node n property value hn h_value
      exact elim_present?_str text

theorem Kept.properties {s s' : Scene} (h_kept : Kept s s') (node : String) :
    (s'.nodes.find? node).map (·.properties) = (s.nodes.find? node).map (·.properties) := by
  have h_bare := congrArg (Option.map (·.properties)) (h_kept.bare_find? node)
  rw [Option.map_map, Option.map_map] at h_bare
  exact h_bare

theorem Kept.ownValue {s s' : Scene} (h_kept : Kept s s') (node property : String) :
    s'.ownValue node property = s.ownValue node property := by
  have h_value := congrArg (Option.bind · (Registry.find? · property)) (h_kept.properties node)
  simp only [Option.bind_map] at h_value
  exact congrArg Json.shownOrEmpty h_value

/-- What is captured of a node that is unbound in both scenes. -/
theorem Kept.captured {s s' : Scene} (h_kept : Kept s s') {node property : String}
    (h_unbound : ∀ n, s.nodes.find? node = some n → n.bindings.find? property = none)
    (h_unbound' : ∀ n, s'.nodes.find? node = some n → n.bindings.find? property = none) :
    s'.captured property node = s.captured property node := by
  -- it depends on the static value only
  have h_static : ∀ {t : Scene},
      (∀ n, t.nodes.find? node = some n → n.bindings.find? property = none) →
        t.captured property node = (((t.nodes.find? node).bind
          (·.properties.find? property)).bind Json.present?).elim "" Json.shown := by
    intro t ht
    cases hn : t.nodes.find? node with
    | none => exact captured_of_find?_eq_none hn property
    | some n =>
      rw [captured_eq hn, rawValue?, ht n hn]
      rfl
  have h_value := congrArg (Option.bind · (Registry.find? · property)) (h_kept.properties node)
  simp only [Option.bind_map] at h_value
  rw [h_static h_unbound', h_static h_unbound]
  exact congrArg (fun value => (value.bind Json.present?).elim "" Json.shown) h_value

theorem Kept.plain {s s' : Scene} (h_kept : Kept s s') (h_plain : s.Plain) : s'.Plain := by
  intro node n' property value hn' h_value
  have h_same := h_kept.properties node
  rw [hn', Option.map_some] at h_same
  obtain ⟨n, hn, h_properties⟩ := Option.map_eq_some_iff.mp h_same.symm
  exact h_plain node n property value hn (h_properties ▸ h_value)

end Clickwork.Scene
