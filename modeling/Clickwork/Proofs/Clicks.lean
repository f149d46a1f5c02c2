import Clickwork.Proofs.Wiring

/-!
# What a wired group shows after clicks

After an interaction is wired onto a group, clicks on its instances can follow in any number and
order. What the instances show depends on the last click only (`Wiring.shown_after_clicks`): every
instance that accepted its binding shows the primary value if it was clicked last, and otherwise
what the rules give it from the value it was captured with; an instance that refused the binding
shows what it showed before.

The reason is that a click assigns every variable of the group (`Reaction.Assigns`), so that
nothing is left of earlier clicks. `Scene.Clicked` is what clicks leave alone.
-/

namespace Clickwork

open Scene (variableId idsFrom settleAll)

namespace Scene

/-- **Clicks on nodes**, one after the other. -/
def clickAll (s : Scene) (nodes : List String) : Except Failure Scene :=
  nodes.foldlM click s

theorem clickAll_concat {s t : Scene} {nodes : List String} (h : s.clickAll nodes = .ok t)
    (node : String) : s.clickAll (nodes ++ [node]) = t.click node := by
  rw [clickAll] at h
  rw [clickAll, List.foldlM_append, h]
  change List.foldlM Scene.click t [node] = t.click node
  rw [List.foldlM_cons]
  exact bind_pure _

theorem find?_assignAll (s : Scene) (batch : Registry String String) (id : String) :
    (s.assignAll batch).variableTable.find? id = (s.variableTable.find? id).map fun v =>
      (batch.find? id).elim v fun value => { v with value := .str value } := by
  unfold assignAll
  rw [Registry.find?_mapValues]
  cases batch.find? id <;> rfl

/-- **The same scene but for the values of the given variables**, which are all there. -/
structure Clicked (ids : List String) (s t : Scene) : Prop where
  nodes : t.nodes = s.nodes
  others : ∀ id, id ∉ ids → t.variableTable.find? id = s.variableTable.find? id
  there : ∀ id ∈ ids, ∃ v, t.variableTable.find? id = some v

/-- A click on a node whose reaction assigns the variables: they have the values assigned. -/
theorem Clicked.click {ids values : List String} {s t : Scene} (h : Clicked ids s t)
    (h_nodup : ids.Nodup) {node : String} {n : Node} (hn : s.nodes.find? node = some n)
    {r : Reaction} (h_reactions : n.reactions = [r]) (h_assigns : r.Assigns ids values) :
    ∃ t', t.click node = .ok t' ∧ Clicked ids s t' ∧
      ∀ (j : Nat) (id value : String), ids[j]? = some id → values[j]? = some value →
        t'.variableValue? id = some (.str value) := by
  refine ⟨t.assignAll (clickBatch [r]), ?_, ⟨h.nodes, fun id h_id => ?_, fun id h_id => ?_⟩, ?_⟩
  · rw [Scene.click, h.nodes, hn, ← h_reactions]
  · rw [find?_assignAll, h_assigns.find?_clickBatch_of_not_mem h_id, ← h.others id h_id]
    exact Option.map_id'
  · obtain ⟨v, hv⟩ := h.there id h_id
    exact ⟨_, by rw [find?_assignAll, hv, Option.map_some]⟩
  · intro j id value h_id h_value
    obtain ⟨v, hv⟩ := h.there id (List.mem_of_getElem? h_id)
    refine variableValue?_str (v := { v with value := .str value }) ?_ rfl
    rw [find?_assignAll, hv, Option.map_some, h_assigns.find?_clickBatch h_nodup h_id h_value]
    rfl

/-- Clicks on nodes whose reactions assign the variables. -/
theorem Clicked.clickAll {ids : List String} {s : Scene} (h_there : Clicked ids s s)
    (h_nodup : ids.Nodup) (nodes : List String)
    (h_nodes : ∀ node ∈ nodes, ∃ n r values, s.nodes.find? node = some n ∧ n.reactions = [r] ∧
      r.Assigns ids values) : ∃ t, s.clickAll nodes = .ok t ∧ Clicked ids s t := by
  induction nodes using List.reverseRecOn with
  | nil => exact ⟨s, rfl, h_there⟩
  | append_singleton nodes node ih =>
    obtain ⟨t, h_click, h_clicked⟩ :=
      ih fun node h_mem => h_nodes node (List.mem_append_left _ h_mem)
    obtain ⟨n, r, values, hn, h_reactions, h_assigns⟩ := h_nodes node (by simp)
    obtain ⟨t', h_click', h_clicked', -⟩ := h_clicked.click h_nodup hn h_reactions h_assigns
    exact ⟨t', (clickAll_concat h_click node).trans h_click', h_clicked'⟩

end Scene

namespace Wiring

/-! ### The group after wiring -/

section

variable {h : Host} {plan : Plan} {g : Group} {rs : List Reaction}

/-- An instance after the group is wired: it has its reaction, and shows its variable if the host
accepted the binding. -/
theorem nodes_wired (plan : Plan) (h_nodup : (g.instances.map (·.id)).Nodup)
    (h_length : rs.length = g.instances.length) {j : Nat} {i : Instance} {r : Reaction}
    (hi : g.instances[j]? = some i) (hr : rs[j]? = some r)
    (h_accepts : i.id ∉ h.scene.rejectingReactions) {n : Scene.Node}
    (hn : h.scene.nodes.find? i.id = some n) :
    (wired plan h g rs).nodes.find? i.id = some ((n.bindAll plan.property
      (if h.accepts (j + 1) i.id plan.property = true then [variableId (h.scene.nextId + j)]
        else [])).react [r]) := by
  have h_nodes : ((placements plan h g.instances).map (·.node)).Nodup := by
    have h_same : (placements plan h g.instances).map (·.node) = g.instances.map (·.id) := by
      have h_fst := congrArg (List.map (·.id)) (List.zipIdx_map_fst 0 g.instances)
      rw [List.map_map] at h_fst
      rw [placements, List.map_map]
      exact h_fst
    rwa [h_same]
  have h_placement : (placements plan h g.instances)[j]? = some (placement plan h i j) := by
    rw [getElem?_placements, hi, Option.map_some]
  -- no instance occurs twice: its placement alone binds it, and its reaction is placed last on it
  have h_bound := Scene.boundIds_of_nodup (n := h.scene.nextId) h_nodes h_placement
  have h_settled := Scene.nodes_settleAll plan.collection plan.property h.scene
    (placements plan h g.instances) i.id
  have h_kept : i.id ∉ (settleAll plan.collection plan.property h.scene
      (placements plan h g.instances)).rejectingReactions := by
    rwa [Scene.rejectingReactions_settleAll]
  rw [wired, Scene.find?_placeAll, h_settled, hn, Option.map_some,
    Option.map_some, lastPlaced_installations h_nodup h_length hi hr h_kept]
  rw [show (placement plan h i j).node = i.id from rfl] at h_bound
  rw [h_bound]
  rfl

/-- An instance of a wired group assigns its row, and does nothing else when it is clicked. -/
theorem assigns_wired (plan : Plan) (h_nodup : (g.instances.map (·.id)).Nodup)
    (h_length : rs.length = g.instances.length) {rows : Nat → List String} {ids : List String}
    (h_assigns : ∀ (k : Nat) (r : Reaction), rs[k]? = some r → r.Assigns ids (rows k))
    (h_there : ∀ c ∈ g.instances, h.scene.nodes.contains c.id = true)
    (h_accepting : ∀ c ∈ g.instances, c.id ∉ h.scene.rejectingReactions) {j : Nat} {c : Instance}
    (hc : g.instances[j]? = some c) :
    ∃ n r, (wired plan h g rs).nodes.find? c.id = some n ∧ n.reactions = [r] ∧
      r.Assigns ids (rows j) := by
  have h_mem := List.mem_of_getElem? hc
  have hj : j < rs.length := by
    rw [h_length]
    exact (List.getElem?_eq_some_iff.mp hc).1
  have hr : rs[j]? = some rs[j] := List.getElem?_eq_getElem hj
  obtain ⟨n, hn⟩ := Registry.contains_iff.mp (h_there c h_mem)
  exact ⟨_, rs[j], nodes_wired plan h_nodup h_length hc hr (h_accepting c h_mem) hn, rfl,
    h_assigns j rs[j] hr⟩

/-- The state variables of a wired group are there. -/
theorem clicked_wired (plan : Plan) (hb : h.scene.Built) (g : Group) (rs : List Reaction) :
    Scene.Clicked (idsFrom h.scene.nextId g.instances.length) (wired plan h g rs)
      (wired plan h g rs) := by
  refine ⟨rfl, fun _ _ => rfl, fun id h_id => ?_⟩
  obtain ⟨j, hj, rfl⟩ := List.mem_map.mp h_id
  obtain ⟨c, hc⟩ : ∃ c, g.instances[j]? = some c :=
    ⟨_, List.getElem?_eq_getElem (List.mem_range.mp hj)⟩
  have h_placement : (placements plan h g.instances)[j]? = some (placement plan h c j) := by
    rw [getElem?_placements, hc, Option.map_some]
  rw [variableTable_wired]
  exact ⟨_, Scene.find?_settleAll _ _ hb.wellFormed.fresh h_placement⟩

/-- **After clicks on a wired group**, an instance shows its variable if it is bound to it, and
otherwise what it showed before. -/
theorem shownValue_clicked (plan : Plan) (hb : h.scene.Built)
    (h_nodup : (g.instances.map (·.id)).Nodup)
    (h_length : rs.length = g.instances.length) {j : Nat} {i : Instance}
    (hi : g.instances[j]? = some i) (h_accepts : i.id ∉ h.scene.rejectingReactions)
    {n : Scene.Node} (hn : h.scene.nodes.find? i.id = some n) {t : Scene}
    (ht : Scene.Clicked (idsFrom h.scene.nextId g.instances.length) (wired plan h g rs) t)
    {text : String}
    (h_text : t.variableValue? (variableId (h.scene.nextId + j)) = some (.str text)) :
    t.shownValue i.id plan.property =
      if h.accepts (j + 1) i.id plan.property = true then .ok text
      else h.scene.shownValue i.id plan.property := by
  have hj : j < rs.length := by
    rw [h_length]
    exact (List.getElem?_eq_some_iff.mp hi).1
  have h_node := nodes_wired plan h_nodup h_length hi (List.getElem?_eq_getElem hj)
    h_accepts hn
  rw [← ht.nodes] at h_node
  rw [Scene.shownValue_eq h_node, Scene.rawValue?, Scene.Node.react, Scene.find?_bindAll,
    if_pos rfl]
  split
  · rw [List.getLast?_singleton, Option.some_or, Option.bind_some, h_text, Option.some_or]
    rfl
  · rw [List.getLast?_nil, Option.none_or, Scene.shownValue_eq hn, Scene.rawValue?]
    -- the variable that the property was bound to before is none of the new ones
    have h_same : (n.bindings.find? plan.property).bind t.variableValue? =
        (n.bindings.find? plan.property).bind h.scene.variableValue? := by
      cases h_target : n.bindings.find? plan.property with
      | none => rfl
      | some target =>
        obtain ⟨v, hv⟩ := hb.wellFormed.target_exists i.id n plan.property target hn h_target
        have h_old : target ∉ idsFrom h.scene.nextId g.instances.length := by
          intro h_mem
          obtain ⟨k, -, rfl⟩ := List.mem_map.mp h_mem
          rw [hb.wellFormed.find?_variableId (Nat.le_add_right _ _)] at hv
          cases hv
        have h_extended : Scene.Extended plan.collection (fun _ => True) h.scene
            (settleAll plan.collection plan.property h.scene (placements plan h g.instances)) :=
          .settleAll hb.wellFormed.fresh fun _ _ => trivial
        refine Scene.variableValue?_congr ?_
        rw [ht.others target h_old, variableTable_wired, h_extended.old target v hv, hv]
    rw [h_same]
    rfl

end

/-! ### The last click decides -/

/-- **What a wired group shows after clicks depends on the last click only.** On any scene that can
be built, an interaction whose primary property resolves is wired onto a group of distinct instances
that are there and accept reactions; bindings may fail in any way. After any clicks on instances of
the group, the last of them on instance `k`, an instance whose binding was accepted shows the
primary value if it is instance `k`, and its target by the rules otherwise. Any other instance shows
what it showed before. -/
theorem shown_after_clicks (m : Machine σ) (hb : m.host.scene.Built) (hr : m.host.Reliable)
    (collection : String) (h_collection : collection ∈ m.host.scene.collections.values)
    (i : Interaction) (g : Group) (config : Config) (h_nodup : (g.instances.map (·.id)).Nodup)
    (h_there : ∀ c ∈ g.instances, m.host.scene.nodes.contains c.id = true)
    (h_accepting : ∀ c ∈ g.instances, c.id ∉ m.host.scene.rejectingReactions)
    (primary : Setting) (h_setting : Setting.parse? i.primaryAction = some primary)
    (property : String) (h_property : ((Resolution.property primary.property g.instances :
      Program σ _).eval m).1 = .ok (some property)) :
    ∃ w m', (apply collection i g config : Program σ Wiring).eval m = (.ok w, m') ∧
      w.property = some property ∧
      ∀ (earlier : List Instance) (k : Nat) (clicked : Instance),
        (∀ c ∈ earlier, c ∈ g.instances) → g.instances[k]? = some clicked →
        ∃ t, m'.host.scene.clickAll ((earlier ++ [clicked]).map (·.id)) = .ok t ∧
          ∀ (j : Nat) (c : Instance), g.instances[j]? = some c →
            t.shownValue c.id property =
              if m.host.accepts (j + 1) c.id property = true then
                .ok (if j = k then primary.value
                  else RuleSet.siblingTarget i.rules ⟨property, primary.value⟩ config.resetToken
                    (m.host.scene.captured property c.id))
              else m.host.scene.shownValue c.id property := by
  have h_resolve :=
    (Resolution.property primary.property g.instances : Program σ _).eval_eq_outcome m
  have h_eval := (apply collection i g config : Program σ Wiring).eval_eq_outcome m
  have h_resolved : ((Resolution.property primary.property g.instances :
      Program σ _).outcome m.memory m.host).1 = .ok (some property) := by
    rw [← h_resolve]
    exact h_property
  -- the scene after wiring, in which a click on an instance assigns its row
  obtain ⟨⟨w, h_ok, h_name⟩, -, -, rs, h_length, h_assigns, h_scene⟩ :=
    apply_resolved (s := m.memory) hr hb h_collection config h_setting h_resolved
  rw [← h_eval] at h_ok h_scene
  refine ⟨w, ((apply collection i g config : Program σ Wiring).eval m).2, Prod.ext h_ok rfl, h_name,
    fun earlier k clicked h_earlier hk => ?_⟩
  obtain ⟨ids, h_ids⟩ : ∃ ids, ids = idsFrom m.host.scene.nextId g.instances.length := ⟨_, rfl⟩
  have h_distinct : ids.Nodup := h_ids ▸ Scene.nodup_idsFrom _ _
  obtain ⟨scene, h_wired⟩ : ∃ scene,
      scene = wired (plan collection i primary property) m.host g rs := ⟨_, rfl⟩
  have h_clicked := clicked_wired (plan collection i primary property) hb g rs
  rw [← h_ids] at h_assigns h_clicked
  have h_node : ∀ {j : Nat} {c : Instance}, g.instances[j]? = some c → _ :=
    assigns_wired (plan collection i primary property) h_nodup h_length h_assigns h_there
      h_accepting
  rw [← h_wired] at h_clicked h_node
  -- what the earlier clicks leave behind is overwritten by the last one
  obtain ⟨t₀, h_earlier_ok, h_clicked₀⟩ := h_clicked.clickAll h_distinct
    (earlier.map (·.id)) fun node h_mem => by
      obtain ⟨c, hc, rfl⟩ := List.mem_map.mp h_mem
      obtain ⟨j, hj⟩ := List.mem_iff_getElem?.mp (h_earlier c hc)
      obtain ⟨n, r, hn, h_reactions, h_row⟩ := h_node hj
      exact ⟨n, r, _, hn, h_reactions, h_row⟩
  obtain ⟨n, r, hn, h_reactions, h_row⟩ := h_node hk
  obtain ⟨t, h_click, h_clicked', h_values⟩ := h_clicked₀.click h_distinct hn h_reactions h_row
  have h_host : ((apply collection i g config : Program σ Wiring).eval m).2.host.scene = scene :=
    h_scene.trans h_wired.symm
  refine ⟨t, ?_, fun j c hc => ?_⟩
  · rw [h_host, List.map_append]
    exact (Scene.clickAll_concat h_earlier_ok clicked.id).trans h_click
  · obtain ⟨hj, h_get⟩ := List.getElem?_eq_some_iff.mp hc
    obtain ⟨n, hn⟩ := Registry.contains_iff.mp (h_there c (List.mem_of_getElem? hc))
    have h_value := h_values j (variableId (m.host.scene.nextId + j))
      (if j = k then primary.value
        else RuleSet.siblingTarget i.rules ⟨property, primary.value⟩ config.resetToken
          (m.host.scene.captured property c.id)) (h_ids ▸ Scene.getElem?_idsFrom hj) (by
        rw [TargetTable.getElem?_row _ _ (by simpa [siblings] using hj)]
        simp only [siblings, List.getElem?_map, hc, Option.map_some, eq_comm (a := k)]
        split <;> rfl)
    exact shownValue_clicked (plan collection i primary property) hb h_nodup h_length hc
      (h_accepting c (List.mem_of_getElem? hc)) hn (h_ids ▸ h_wired ▸ h_clicked') h_value

/-- A click switches the instance on, and dims the others that were off. -/
def dimming : Interaction where
  id := "tabs_1"
  group := "tabs"
  primaryAction := "State=On"
  rules := [⟨1, "State=Off", "State=Dim", none⟩]

/-- The tabs and the badge of the panel. -/
def switches : Group where
  id := "tabs"
  name := "Tab"
  instances := [⟨"tab-1", "Home"⟩, ⟨"tab-2", "News"⟩, ⟨"badge-1", "New"⟩]

/-- A machine on the panel that fails at the second binding. -/
def partlyBinding : Machine Unit where
  memory := ()
  host := ({ scene := .panel } : Host).failOn .bindProperty (some [2])

/-- The badge is clicked, and then the first tab. The second tab has refused its binding. -/
theorem shown_after_clicks_on_panel :
    ∃ (w : Wiring) (m : Machine Unit) (t : Scene),
      (apply "VariableCollectionId:1" dimming switches {}).eval partlyBinding = (.ok w, m) ∧
      m.host.scene.clickAll ["badge-1", "tab-1"] = .ok t ∧
      t.shownValue "tab-1" "State" = .ok "On" ∧ t.shownValue "tab-2" "State" = .ok "Off" ∧
      t.shownValue "badge-1" "State" = .ok "Dim" := by
  have h_reliable : partlyBinding.host.Reliable := by
    intro method _ h_bind
    cases method <;> first | rfl | exact (h_bind rfl).elim
  obtain ⟨w, m, h_eval, -, h_clicks⟩ := shown_after_clicks partlyBinding Scene.built_panel
    h_reliable "VariableCollectionId:1" (by decide +kernel) dimming switches {} (by decide)
    (by decide +kernel) (by decide +kernel) ⟨"State", "On"⟩ (by decide) "State" (by rfl)
  obtain ⟨t, h_t, h_shown⟩ := h_clicks [⟨"badge-1", "New"⟩] 0 ⟨"tab-1", "Home"⟩ (by decide) rfl
  refine ⟨w, m, t, h_eval, h_t, ?_, ?_, ?_⟩
  · exact (h_shown 0 _ rfl).trans (by decide +kernel)
  · exact (h_shown 1 _ rfl).trans (by decide +kernel)
  · exact (h_shown 2 _ rfl).trans (by decide +kernel)

end Wiring

end Clickwork
