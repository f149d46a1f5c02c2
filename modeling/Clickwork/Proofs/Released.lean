import Clickwork.Proofs.Live
import Clickwork.Proofs.Nested

/-!
# Superseding releases nested groups

When an interaction is superseded, the groups that its nested actions had taken over are released:
nothing is on record for them, the variables of the interaction are gone with all bindings to them,
and the instances have no reactions (`World.released_after`).

An instance of a group on which a nested action resolved to no property is left with a reaction that
does nothing. Superseding does not find it, since it sets nothing (`World.inert_reaction_left`).
-/

namespace Clickwork

open Discovery (Families family?)
open Records (ownedBy)

/-! ### The run that makes a nest -/

/-- **What is nested in an interaction** is on another group and belongs to it. -/
theorem Interaction.of_mem_nestedIn {i part : Interaction} {c : Context}
    {actions : List NestedAction} (h_mem : part ∈ i.nestedIn c actions) :
    part.group ≠ i.group ∧ ownedBy i.id part.id = true := by
  obtain ⟨h_mem, -⟩ := List.mem_filter.mp h_mem
  obtain ⟨action, h_action, rfl⟩ := List.mem_map.mp h_mem
  refine ⟨of_decide_eq_true (List.mem_filter.mp h_action).2, Records.ownedBy_iff.mpr ?_⟩
  have h_text : ∀ text : String, toString text = text := fun _ => rfl
  exact ⟨"nested_".toList ++ action.target.toList, by simp [nested, h_text]⟩

namespace Wiring

/-- **What wiring leaves on an instance**: a reaction that does nothing if no property resolved, and
otherwise one that sets something. -/
theorem Performed.reactions {collection : String} {part : Interaction} {g : Group} {config : Config}
    {h : Host} {x : Wiring} {t : Scene} (h_performed : Performed collection part g config h x t)
    (hb : h.scene.Built) (h_accepts : h.scene.rejectingReactions = [])
    (h_there : ∀ node ∈ g.instances.map (·.id), h.scene.nodes.contains node = true)
    {node : String} (h_mem : node ∈ g.instances.map (·.id)) :
    x.property = none ∧ t.reactions node = [{}] ∨ ∃ id, t.Sets node id := by
  obtain ⟨-, rs, h_build, -, h_placed⟩ := h_performed.live hb h_accepts h_there
  obtain ⟨k, r, hk, hr, h_reactions⟩ := h_placed node h_mem
  have h_sets (id : String) (h_id : id ∈ x.variables) : t.Sets node id :=
    h_performed.sets hb h_accepts h_there h_mem h_id
  cases h_performed with
  | inert _ h_wiring _ =>
    subst h_wiring
    obtain rfl : List.replicate g.instances.length {} = rs := Except.ok.inj h_build
    rw [List.getElem?_replicate] at hr
    split at hr
    · obtain rfl := Option.some.inj hr
      exact .inl ⟨rfl, h_reactions⟩
    · cases hr
  | resolved _ _ h_wiring _ =>
    subst h_wiring
    -- the group has an instance, so there is a first variable
    have h_some : 0 < g.instances.length := by
      have h_pos := List.length_pos_of_mem h_mem
      rwa [List.length_map] at h_pos
    have h_id := Scene.getElem?_idsFrom (n := (marked collection part h).scene.nextId) h_some
    refine .inr ⟨_, h_sets (Scene.variableId ((marked collection part h).scene.nextId + 0)) ?_⟩
    rw [Wiring.variables, Option.getD_some, filterMap_target?_slotsOf]
    exact List.mem_of_getElem? h_id

end Wiring

namespace Authoring

variable {collection : String} {p q part : Interaction} {g : Group} {x : Wiring} {s s' : Session}
  {h h' : Host} {parts before after : List Interaction} {xs : List Wiring}

/-- **The nest that a nested interaction makes of a group.** -/
def nest (owner part : Interaction) (g : Group) (x : Wiring) (states : String → Prop) : Nest where
  owner := owner
  group := part.group
  nodes := g.instances.map (·.id)
  inert := x.property = none
  states := states

/-- **The owner drives the instances** of a nest that has just been wired. -/
theorem Wires.drives {states : String → Prop} (h_wires : Wires collection part g x s h s' h')
    (h_works : s.Works collection h) (h_accepts : h.scene.rejectingReactions = [])
    (h_families : Families h.scene s.context.groups) (hg : g ∈ s.context.groups)
    (h_owned : ownedBy p.id part.id = true) {node : String} (h_mem : node ∈ g.instances.map (·.id)) :
    (nest p part g x states).AtRest (h'.scene.reactions node) ∨
      (nest p part g x states).Drives s' h'.scene node := by
  have h_works' := h_wires.works h_works
  obtain ⟨_, h₁, -, h_later, -, -, h_performed, h_wired, -⟩ := h_wires
  have h_accepts' := h_later.kept.rejectingReactions.trans h_accepts
  refine (h_performed.reactions (h_later.built h_works.built) h_accepts'
    (fun node h_mem => (h_families.kept h_later.kept).contains hg h_mem) h_mem).imp .inr ?_
  rintro ⟨id, h_sets⟩
  -- what an instance sets now is a new variable of the interaction
  obtain ⟨h_none, v, hv⟩ := h_wired.reactions node h_mem (by simp [h_accepts']) id h_sets
  rcases h_wired.extended.new id v hv with h_old | ⟨-, h_collection, h_name, -⟩
  · cases h_none.symm.trans h_old
  · exact ⟨id, v, h_sets, hv, h_collection ▸ h_works'.collection,
      Records.ownedBy_trans h_owned h_name.ownedBy⟩

/-- **The last part on a group makes a nest of it** for the interaction that it is nested in, if
that is still on record at the end of the run. -/
theorem Trace.nests (h_trace : Trace collection (before ++ part :: after) xs s h s' h')
    (h_works : s.Works collection h) (h_accepts : h.scene.rejectingReactions = [])
    (h_families : Families h.scene s.context.groups)
    (h_group : s.context.group part.group = .ok g) (h_wiring : xs[before.length]? = some x)
    (h_owner : p ∈ before) (h_owned : ownedBy p.id part.id = true)
    (h_apart : ∀ q ∈ after, q.group ≠ part.group ∧ q.group ≠ p.group)
    (h_record : s'.recorded h' p.group = .ok (some p)) :
    (nest p part g x fun _ => False).Around s' h' ∧ (nest p part g x fun _ => False).Held s' h' := by
  obtain ⟨ws, y, ys, g', s₁, h₁, s₂, h₂, rfl, h_length, h_before, h_group', h_wires, h_after⟩ :=
    h_trace.split
  obtain rfl := Except.ok.inj (h_group.symm.trans h_group')
  obtain rfl : y = x := by
    rw [← h_length, List.getElem?_append_right (Nat.le_refl _), Nat.sub_self] at h_wiring
    exact Option.some.inj h_wiring
  obtain ⟨hg, h_id⟩ := Context.group_eq_ok h_group
  have h_works₁ := h_before.works h_works
  have h_works₂ := h_wires.works h_works₁
  have h_kept := h_before.later.kept.trans h_wires.later.kept
  have h_context : s₂.context = s.context := h_wires.context.trans h_before.context
  have h_knows := h_wires.knows h_works₁.stores (h_before.knows h_works h_owner)
  -- the nest is there when the part has been wired, and the parts after it leave it alone
  refine h_after.held h_works₂ ?_ h_knows (fun h_recorded => ?_) h_apart h_record
  · refine ⟨h_works₂.stores, h_kept.rejectingReactions.trans h_accepts, ⟨_, h_works₂.collection⟩,
      h_context ▸ h_families.kept h_kept, fun node h_mem => ?_, h_wires.knows_self, nofun⟩
    obtain ⟨i, hi, rfl⟩ := List.mem_map.mp h_mem
    rw [h_kept.family?, (h_families g hg).2 i hi, h_id]
    rfl
  · refine ⟨⟨p, h_knows.find? h_recorded, rfl⟩, fun r hr => ?_, fun node h_mem => ?_, nofun⟩
    · have h_self := (Session.recorded_of_find? hr).symm.trans h_wires.recorded_self
      obtain rfl := Option.some.inj (Except.ok.inj h_self)
      exact h_owned
    · refine h_wires.drives h_works₁ (h_before.later.kept.rejectingReactions.trans h_accepts) ?_ ?_
        h_owned h_mem
      · exact h_before.context ▸ h_families.kept h_before.later.kept
      · exact h_before.context ▸ hg

/-- What is on record for the group of the first part of a run at its end is that part, if it has
not been retired. -/
theorem Trace.recorded_head (h_trace : Trace collection (q :: parts) xs s h s' h')
    (h_works : s.Works collection h) (h_other : ∀ r ∈ parts, r.group ≠ q.group) {r : Interaction}
    (h_found : s'.recorded h' q.group = .ok (some r)) : r = q := by
  cases h_trace with
  | cons h_group h_wires h_rest =>
    have h_end := h_rest.keeps (I := fun s₁ h₁ => ∀ r, s₁.recorded h₁ q.group = .ok (some r) →
      r = q) (h_wires.works h_works) (fun r h_found => ?_) ?_
    · exact h_end r h_found
    · exact Option.some.inj (Except.ok.inj (h_found.symm.trans h_wires.recorded_self))
    · rintro part g x s₁ h₁ s₂ h₂ h_part - h_works₁ - h_wires₁ h_same r h_found
      rcases h_wires₁.recorded_other h_works₁.stores (Ne.symm (h_other part h_part)) with
        h_kept | h_none
      · exact h_same r (h_kept.symm.trans h_found)
      · cases h_none.symm.trans h_found

end Authoring

namespace Session.Accepts

variable {w : World Unit} {inbound : Inbound} {i part : Interaction} {a : Authoring}
  {before after : List Interaction}

/-- **A nested part that is carried out** comes after the interaction, and so do all that follow. -/
theorem nested {s : Session} {h : Host} (h_accepts : s.Accepts h inbound i a)
    (h_parts : i.partsIn s.context = before ++ part :: after) (h_other : part.group ≠ i.group) :
    i ∈ before ∧ ownedBy i.id part.id = true ∧ ∀ q ∈ after, q.group ≠ i.group := by
  rw [h_accepts.partsIn_eq] at h_parts
  rcases List.append_eq_cons_iff.mp h_parts.symm with ⟨-, h_first⟩ | ⟨before', rfl, h_nested⟩
  · obtain ⟨rfl, -⟩ := List.cons.inj h_first
    exact (h_other rfl).elim
  · have h_mem {q : Interaction} (hq : q ∈ part :: after) :
        q ∈ i.nestedIn s.context i.nestedActions := by
      rw [h_nested]
      exact List.mem_append_right _ hq
    refine ⟨List.mem_cons_self, ?_, fun q hq => ?_⟩
    · exact (Interaction.of_mem_nestedIn (h_mem List.mem_cons_self)).2
    · exact (Interaction.of_mem_nestedIn (h_mem (List.mem_cons_of_mem _ hq))).1

end Session.Accepts

namespace World

variable {w : World Unit} {config : Config} {p q part : Interaction} {g : Group} {x : Wiring}
  {asked asked' : Inbound} {a b : Authoring}

/-- The ids of the managed variables whose names belong to an interaction. -/
def Owning (w : World Unit) (interaction id : String) : Prop :=
  ∃ v, w.host.scene.variableTable.find? id = some v ∧
    w.host.scene.collections.find? w.current.config.collection = some v.collection ∧
      ownedBy interaction v.name = true

/-- **A nested part makes a nest** that stands when the interaction has been carried out. -/
theorem stands_after (hw : w.Sound) (h_stores : w.host.Stores)
    (h_accepting : w.host.scene.rejectingReactions = [])
    (h_families : Families w.host.scene w.current.context.groups)
    (h_handler : w.current.handlers.find? "create-interaction" = some .author)
    (h_accepts : w.current.Accepts w.host asked p a) (before after : List Interaction)
    (h_parts : p.partsIn w.current.context = before ++ part :: after)
    (h_group : w.current.context.group part.group = .ok g) (h_other : part.group ≠ p.group)
    (h_last : ∀ r ∈ after, r.group ≠ part.group) (h_wiring : a.wirings[before.length]? = some x) :
    let w' := w.advance (.message asked)
    ∀ r, ((Records.get p.group).outcome w'.current w'.host).1 = .ok (some r) →
      (Authoring.nest p part g x (w'.Owning p.id)).Stands w'.current w'.host := by
  intro w' r h_live
  have hw' : w'.Sound := hw.advance (m := .message asked) trivial
  obtain ⟨collection, h₀, s', h_prepared, h_works, h_trace, h_alike⟩ :=
    h_accepts.traces hw h_stores h_handler
  obtain ⟨h_owner, h_owned, h_nested⟩ := h_accepts.nested h_parts h_other
  have h_stores' := h_trace.later.stores h_works.stores
  have h_recorded : s'.recorded w'.host p.group = .ok (some r) := by
    rw [← h_live, (Records.get_recalls (s := w'.current) h_stores' p.group).1]
    exact Session.recorded_congr h_alike.config.symm (by rw [h_alike.records]) rfl
  obtain rfl : r = p := by
    rw [h_accepts.partsIn_eq] at h_trace
    exact h_trace.recorded_head h_works (fun i hi => (Interaction.of_mem_nestedIn hi).1) h_recorded
  rw [h_parts] at h_trace
  obtain ⟨h_around, h_held⟩ := h_trace.nests h_works
    (h_prepared.later.kept.rejectingReactions.trans h_accepting)
    (h_families.kept h_prepared.later.kept) h_group h_wiring h_owner h_owned
    (fun q hq => ⟨h_last q hq, h_nested q hq⟩) h_recorded
  have h_records (group : String) :
      w'.current.records.find? group = s'.records.find? group := by
    rw [h_alike.records]
  obtain ⟨h_stores', h_accepts', h_collection, h_families', h_family, h_knows, -⟩ :=
    h_around.kept h_stores' (.refl _) h_alike.config rfl (h_alike.groups ▸ h_around.families)
      (h_around.knows.congr h_alike.config (h_records _) rfl) (Nat.le_refl _)
  obtain ⟨h_record', h_nested', h_reactions, -⟩ :=
    h_held.trimmed (.refl _) h_alike.config (h_records _) fun r hr => (h_records _).trans hr
  -- the variables that the interaction has now are the nest's
  refine ⟨⟨h_stores', h_accepts', h_collection, h_families', h_family, h_knows, ?_⟩,
    .inl ⟨h_record', h_nested', h_reactions, ?_⟩⟩
  · rintro id ⟨v, hv, -⟩
    exact hw'.built.wellFormed.variable_issued id v hv
  · rintro id v ⟨v', hv', h_has⟩ hv
    obtain rfl := Option.some.inj (hv.symm.trans hv')
    exact h_has

/-- **Superseding releases nested groups.** Let an interaction be accepted, on a host whose storage
works and a scene that can be built and whose nodes accept reactions, and let its group have a
record when it has been carried out. Take the last of its nested parts on some group. Let another
interaction be accepted for its group later, without a part on the nested one, and let nothing be
wired onto that in between. Then the nested group has no record, in memory or in the storage; the
variables that the interaction had are gone, with all bindings to them; and no instance of the
group has a reaction, but for one that does nothing if no property resolved. -/
theorem released_after (hw : w.Sound) (h_stores : w.host.Stores)
    (h_accepting : w.host.scene.rejectingReactions = [])
    (h_families : Families w.host.scene w.current.context.groups)
    (h_configured : w.current.Configured config)
    (h_accepts : w.current.Accepts w.host asked p a) (before after : List Interaction)
    (h_parts : p.partsIn w.current.context = before ++ part :: after)
    (h_group : w.current.context.group part.group = .ok g) (h_other : part.group ≠ p.group)
    (h_last : ∀ r ∈ after, r.group ≠ part.group) (h_wiring : a.wirings[before.length]? = some x)
    (h_live : ∃ r, ((Records.get p.group).outcome (w.advance (.message asked)).current
      (w.advance (.message asked)).host).1 = .ok (some r))
    (moves : List Move) (h_retains : ∀ m ∈ moves, m.Retains config) (h_calm : ∀ m ∈ moves, m.Calm)
    (h_apart : ∀ m ∈ moves, ∀ i, m.Asks config.limits i → ∀ r ∈ i.parts, r.group ≠ part.group)
    (h_accepts' : ((w.advance (.message asked)).after moves).current.Accepts
      ((w.advance (.message asked)).after moves).host asked' q b)
    (h_supersedes : q.group = p.group) (h_id : q.id ≠ p.id)
    (h_apart' : ∀ r ∈ q.parts, r.group ≠ part.group) :
    let w₁ := w.advance (.message asked)
    let w' := (w₁.after moves).advance (.message asked')
    ((Records.get part.group).outcome w'.current w'.host).1 = .ok none ∧
      w'.host.storage.texts.find? (config.storageKey part.group) = none ∧
        (∀ id, w₁.Owning p.id id → w'.host.scene.variableTable.find? id = none ∧
          ∀ node n property, w'.host.scene.nodes.find? node = some n →
            n.bindings.find? property ≠ some id) ∧
          ∀ node ∈ g.instances.map (·.id), w'.host.scene.reactions node = [] ∨
            x.property = none ∧ w'.host.scene.reactions node = [{}] := by
  intro w₁ w'
  have h_handler {s : Session} (hs : s.Configured config) :
      s.handlers.find? "create-interaction" = some .author := by
    rw [hs.2]
    rfl
  obtain ⟨r₁, h_found⟩ := h_live
  have h_stands : (Authoring.nest p part g x (w₁.Owning p.id)).Stands w₁.current w₁.host :=
    stands_after hw h_stores h_accepting h_families (h_handler h_configured) h_accepts before after
      h_parts h_group h_other h_last h_wiring r₁ h_found
  have hw₁ : w₁.Sound := hw.advance (m := .message asked) trivial
  have h_configured₁ : w₁.current.Configured config :=
    (Move.Keeps.message (Session.Stable.configured (fun _ => True) config)
      fun _ _ _ _ _ => trivial).2 w hw h_configured
  obtain ⟨hw₂, h_configured₂, h_stands₂⟩ := after_keeps
    (fun m hm => Nest.Stands.keeps (h_retains m hm) (h_calm m hm) (h_apart m hm)) hw₁
    ⟨h_configured₁, h_stands⟩
  have h_keeps : (Move.message asked').Keeps fun s h => s.Configured config ∧
      (Authoring.nest p part g x (w₁.Owning p.id)).Stands s h := by
    obtain ⟨e, h_decodes, h_type, h_reads⟩ := h_accepts'.asks
    rw [h_configured₂.1] at h_decodes
    refine Nest.Stands.keeps (fun e' h_decodes' => ?_) trivial ?_
    · obtain rfl := Except.ok.inj (h_decodes.symm.trans h_decodes')
      rw [h_type]
      decide
    · rintro i ⟨e', h_decodes', h_reads'⟩
      obtain rfl := Except.ok.inj (h_decodes.symm.trans h_decodes')
      obtain rfl := Except.ok.inj (h_reads.symm.trans h_reads')
      exact h_apart'
  obtain ⟨h_configured', h_around, h_state⟩ := h_keeps.2 _ hw₂ ⟨h_configured₂, h_stands₂⟩
  have hw' : w'.Sound := hw₂.advance (m := .message asked') trivial
  have h_free : (Authoring.nest p part g x (w₁.Owning p.id)).Free w'.current w'.host := by
    refine h_state.resolve_left fun h_held => ?_
    obtain ⟨collection, h₀, s', -, h_works, h_trace, h_alike⟩ :=
      h_accepts'.traces hw₂ h_stands₂.around.stores (h_handler h_configured₂)
    rw [h_accepts'.partsIn_eq] at h_trace
    obtain ⟨r, hr, h_same⟩ := h_held.record
    -- what is on record for the group now is the interaction that superseded the owner
    have h_recorded : s'.recorded w'.host q.group = .ok (some r) := by
      refine Session.recorded_of_find? ?_
      rw [← h_alike.records, h_supersedes]
      exact hr
    refine h_id ?_
    rw [← h_trace.recorded_head h_works (fun i hi => (Interaction.of_mem_nestedIn hi).1) h_recorded]
    exact h_same
  refine ⟨?_, ?_, fun id h_id => ⟨h_free.states id h_id, ?_⟩, h_free.reactions⟩
  · refine (Records.get_recalls (s := w'.current) h_around.stores part.group).1.trans ?_
    exact (Session.recorded_of_absent h_free.memory).trans
      (Host.recorded_of_absent (h_around.knows h_free.memory))
  · rw [← h_configured'.1]
    exact h_around.knows h_free.memory
  · intro node n property hn h_bound
    obtain ⟨v, hv⟩ := hw'.built.wellFormed.target_exists node n property id hn h_bound
    cases (h_free.states id h_id).symm.trans hv

/-- The tabs are authored again, without the badge, when it has been clicked. -/
theorem released_after_reauthoring :
    ∃ w, panel.after [.notice] = w ∧
      let w₁ := w.advance (.message (.authoring (.switchingOn "tabs" 1 ["badges"])))
      let w' := (w₁.after [.click "badge-1", .notice]).advance
        (.message (.authoring (.switchingOn "tabs" 2 [])))
      ((Records.get "badges").outcome w'.current w'.host).1 = .ok none ∧
        (∀ id, w₁.Owning "tabs_1" id → w'.host.scene.variableTable.find? id = none) ∧
          w'.host.scene.reactions "badge-1" = [] := by
  have h_sound : (panel.after [.notice]).Sound := sound_panel.advance (m := .notice) trivial
  have h_lasting : ∀ m ∈ [Move.notice], m.Lasting panel.current.config := by
    intro m hm
    rw [List.mem_singleton.mp hm]
    trivial
  obtain ⟨-, h_stores⟩ := stores_after stores_panel h_lasting
  have h_configured : (panel.after [.notice]).current.Configured {} :=
    (Move.Keeps.notice (Session.Stable.configured (fun _ => True) {}) fun _ _ => trivial).2 panel
      sound_panel ⟨rfl, rfl⟩
  generalize h_reached : panel.after [.notice] = w at h_sound h_stores h_configured
  obtain ⟨a, h_accepts⟩ : ∃ a, w.current.Accepts w.host
      (.authoring (.switchingOn "tabs" 1 ["badges"])) (.switchingOn "tabs" 1 ["badges"]) a := by
    refine accepts_authoring ?_ rfl ?_ <;> rw [← h_reached] <;> decide +kernel
  obtain ⟨b, h_accepts'⟩ : ∃ b, ((w.advance (.message (.authoring
      (.switchingOn "tabs" 1 ["badges"])))).after [.click "badge-1", .notice]).current.Accepts
        ((w.advance (.message (.authoring
          (.switchingOn "tabs" 1 ["badges"])))).after [.click "badge-1", .notice]).host
        (.authoring (.switchingOn "tabs" 2 [])) (.switchingOn "tabs" 2 []) b := by
    refine accepts_authoring ?_ rfl ?_ <;> rw [← h_reached] <;> decide +kernel
  obtain ⟨g, h_group⟩ : ∃ g, w.current.context.group "badges" = .ok g :=
    Context.exists_of_isOk (by rw [← h_reached]; decide +kernel)
  have h_badge : "badge-1" ∈ g.instances.map (·.id) := by
    have h_instances : (w.current.context.group "badges").toOption.map
        (·.instances.map (·.id)) = some ["badge-1"] := by
      rw [← h_reached]
      decide +kernel
    rw [h_group] at h_instances
    have h_same : g.instances.map (·.id) = ["badge-1"] := Option.some.inj h_instances
    rw [h_same]
    exact List.mem_cons_self
  have h_parts : (Interaction.switchingOn "tabs" 1 ["badges"]).partsIn w.current.context =
      [.switchingOn "tabs" 1 ["badges"]] ++
        (Interaction.switchingOn "tabs" 1 ["badges"]).nested ⟨"badges", "State=On"⟩ :: [] := by
    rw [h_accepts.partsIn_eq]
    exact congrArg _ (Interaction.nestedIn_of_known (by decide) (h_group ▸ rfl))
  -- both wirings have found the property
  obtain ⟨x, h_wiring, h_property⟩ : ∃ x, a.wirings[1]? = some x ∧ x.property = some "State" := by
    obtain ⟨-, outbox, h_memory⟩ := advance_accepted (h_configured.2 ▸ rfl) h_accepts
    have h_last : ((w.advance (.message (.authoring
        (.switchingOn "tabs" 1 ["badges"])))).current.lastAuthoring.bind (·.wirings[1]?)).map
          (·.property) = some (some "State") := by
      rw [← h_reached]
      decide +kernel
    rw [h_memory] at h_last
    exact Option.map_eq_some_iff.mp h_last
  have h_accepting : w.host.scene.rejectingReactions = [] := by
    rw [← h_reached]
    decide +kernel
  have h_families : Families w.host.scene w.current.context.groups := by
    rw [← h_reached]
    decide +kernel
  obtain ⟨r, h_live, -⟩ : ∃ r, ((Records.get "tabs").outcome
      (w.advance (.message (.authoring (.switchingOn "tabs" 1 ["badges"])))).current
      (w.advance (.message (.authoring (.switchingOn "tabs" 1 ["badges"])))).host).1 =
        .ok (some r) ∧ r.id = "tabs_1" :=
    Records.exists_of_id (by rw [← h_reached]; decide +kernel)
  have h_moves : ∀ m ∈ [Move.click "badge-1", .notice], m.Retains {} ∧ m.Calm ∧
      ∀ i, ¬m.Asks .standard i := by
    intro m hm
    simp only [List.mem_cons, List.not_mem_nil, or_false] at hm
    rcases hm with rfl | rfl <;> exact ⟨trivial, trivial, fun _ => id⟩
  obtain ⟨h_get, -, h_gone, h_reactions⟩ := released_after h_sound h_stores h_accepting h_families
    h_configured h_accepts [_] [] h_parts h_group (by decide) nofun h_wiring ⟨r, h_live⟩ _
    (fun m hm => (h_moves m hm).1) (fun m hm => (h_moves m hm).2.1)
    (fun m hm i h_asks => ((h_moves m hm).2.2 i h_asks).elim) h_accepts' rfl (by decide) (by decide)
  refine ⟨w, rfl, h_get, fun id h_id => (h_gone id h_id).1, ?_⟩
  exact (h_reactions _ h_badge).resolve_right fun h_inert => by simp [h_property] at h_inert

/-- **A reaction is left** on the badge. The nested action asks for a property that badges do not
have, so it has put a reaction there that does nothing. -/
theorem inert_reaction_left :
    let nesting : Interaction :=
      { Interaction.switchingOn "tabs" 1 [] with nestedActions := [⟨"badges", "Foo=On"⟩] }
    let w := panel.after [.notice, .message (.authoring nesting),
      .message (.authoring (.switchingOn "tabs" 2 []))]
    panel.host.scene.reactions "badge-1" = [] ∧
      ((Records.get "tabs").outcome w.current w.host).1.toOption.join.map (·.id) = some "tabs_2" ∧
        w.host.scene.reactions "badge-1" = [{}] := by
  decide +kernel

end World

end Clickwork
