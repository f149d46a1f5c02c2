import Clickwork.Proofs.Bookkeeping
import Clickwork.Proofs.Building
import Clickwork.Proofs.Names
import Clickwork.Proofs.Rewired
import Clickwork.Proofs.Separate
import Clickwork.Proofs.Traced

/-!
# Every part of an interaction is live

When an interaction has been carried out, it is on record for its group, and for each group of its
nested actions the interaction nested in it by the last of them. The state variables that were
reported for them are there, and the reactions that set them are in place (`World.live_after`).

The parts of a run come one after the other, and a later one retires by prefixes of names: its own
id, and that of what was on record for its group. So nothing of an earlier part may belong to those
(`Interaction.SparedBy`). The time stamp is meant to keep ids apart, but it does not do so for
nested interactions, whose ids end in the ids of groups (`World.part_retired`). It does if no id of
a group has an underscore (`Interaction.sparedBy_of_plain`).
-/

namespace Clickwork

open Records (ownedBy)

/-- The instances of a family are there. -/
theorem Discovery.Families.contains {t : Scene} {groups : List Group}
    (h_families : Families t groups) {g : Group} (hg : g ∈ groups) {node : String}
    (h_mem : node ∈ g.instances.map (·.id)) : t.nodes.contains node = true := by
  obtain ⟨i, hi, rfl⟩ := List.mem_map.mp h_mem
  have h_family := (h_families g hg).2 i hi
  rw [Registry.contains_iff]
  cases hn : t.nodes.find? i.id with
  | some n => exact ⟨n, rfl⟩
  | none => simp [family?, Scene.mainComponent?, hn] at h_family

instance (t : Scene) (groups : List Group) : Decidable (Discovery.Families t groups) :=
  inferInstanceAs (Decidable (∀ g ∈ groups, _ ∧ ∀ i ∈ _, _))

/-! ### What a part installs -/

/-- **The names of the state variables of an interaction** on a group of so many instances. -/
def Interaction.StateName (i : Interaction) (count : Nat) (name : String) : Prop :=
  ∃ primary, Setting.parse? i.primaryAction = some primary ∧
    ∃ k < count, name = Wiring.variableName i.id (k : Nat) primary.property

/-- **Retiring an id spares an interaction**: neither its record nor a state variable of it belongs
to the id. -/
def Interaction.SparedBy (i : Interaction) (count : Nat) (id : String) : Prop :=
  ownedBy id i.id = false ∧ ∀ name, i.StateName count name → ownedBy id name = false

/-- The reactions of a node that reactions were placed at. -/
theorem Scene.reactions_placeAll {t : Scene} {node : String} {n : Node}
    (hn : t.nodes.find? node = some n) (changes : List (String × List Reaction)) :
    (t.placeAll changes).reactions node = (t.lastPlaced changes node).getD n.reactions := by
  rw [reactions, find?_placeAll, hn]
  cases t.lastPlaced changes node <;> rfl

namespace Wiring

/-- **The reactions of a wiring are in place**: each instance of the group has the one that was
built for its place, and no other. -/
def InPlace (x : Wiring) (g : Group) (t : Scene) : Prop :=
  ∃ rs, Reaction.build x.table x.slots g.instances.length = .ok rs ∧
    rs.length = g.instances.length ∧ ∀ node ∈ g.instances.map (·.id), ∃ (k : Nat) (r : Reaction),
      (g.instances.map (·.id))[k]? = some node ∧ rs[k]? = some r ∧ t.reactions node = [r]

/-- **A wiring is live**: the state variables that it reports are there, and its reactions are in
place. -/
structure Live (x : Wiring) (part : Interaction) (g : Group) (t : Scene) : Prop where
  states : ∀ id ∈ x.variables, ∃ v, t.variableTable.find? id = some v ∧
    part.StateName g.instances.length v.name
  reactions : x.InPlace g t

section Installed

variable {instances : List Instance} {rs : List Reaction} {t : Scene}

/-- **A node that is listed is left with the reaction at one of its places.** -/
theorem reactions_installed (h_length : rs.length = instances.length)
    (h_accepts : t.rejectingReactions = []) {node : String}
    (h_mem : node ∈ instances.map (·.id)) (h_there : t.nodes.contains node = true) :
    ∃ (k : Nat) (r : Reaction), (instances.map (·.id))[k]? = some node ∧ rs[k]? = some r ∧
      (t.placeAll (installations instances rs)).reactions node = [r] := by
  obtain ⟨n, hn⟩ := Registry.contains_iff.mp h_there
  obtain ⟨k, hk⟩ := List.mem_iff_getElem?.mp h_mem
  obtain ⟨i, hi, h_id⟩ : ∃ i, instances[k]? = some i ∧ i.id = node := by
    simpa [List.getElem?_map] using hk
  have h_lt : k < rs.length := h_length ▸ (List.getElem?_eq_some_iff.mp hi).1
  -- what comes last for the node is a reaction, since every instance has one
  have h_some : (((instances.zip rs).map fun e => (e.1.id, [e.2])).filter (·.1 = node)) ≠ [] := by
    refine List.ne_nil_of_mem (a := (node, [rs[k]])) (List.mem_filter.mpr ⟨?_, by simp⟩)
    refine List.mem_map.mpr ⟨(i, rs[k]), ?_, by rw [h_id]⟩
    exact List.mem_of_getElem? (List.getElem?_zip_eq_some.mpr ⟨hi, List.getElem?_eq_getElem h_lt⟩)
  obtain ⟨c, h_last⟩ := Option.ne_none_iff_exists'.mp
    (mt List.getLast?_eq_none_iff.mp h_some)
  obtain ⟨h_placed, h_node⟩ := List.mem_filter.mp (List.mem_of_getLast? h_last)
  obtain ⟨⟨j, r⟩, h_zip, rfl⟩ := List.mem_map.mp h_placed
  obtain ⟨m, hm⟩ := List.mem_iff_getElem?.mp h_zip
  obtain ⟨hj, hr⟩ := List.getElem?_zip_eq_some.mp hm
  refine ⟨m, r, ?_, hr, ?_⟩
  · rw [List.getElem?_map, hj, Option.map_some]
    exact congrArg some (of_decide_eq_true h_node)
  · rw [Scene.reactions_placeAll hn, Scene.lastPlaced, if_neg (by simp [h_accepts]), installations,
      List.filter_append, List.getLast?_append, h_last]
    rfl

end Installed

theorem Performed.names {collection : String} {part : Interaction} {g : Group} {config : Config}
    {h : Host} {x : Wiring} {t : Scene} (h_performed : Performed collection part g config h x t) :
    x.interaction = part.id ∧ x.group = g.id := by
  cases h_performed with
  | inert _ h_wiring _ => exact ⟨h_wiring ▸ rfl, h_wiring ▸ rfl⟩
  | resolved _ _ h_wiring _ => exact ⟨h_wiring ▸ rfl, h_wiring ▸ rfl⟩

/-- **A performed wiring is live.** -/
theorem Performed.live {collection : String} {part : Interaction} {g : Group} {config : Config}
    {h : Host} {x : Wiring} {t : Scene} (h_performed : Performed collection part g config h x t)
    (hb : h.scene.Built) (h_accepts : h.scene.rejectingReactions = [])
    (h_there : ∀ node ∈ g.instances.map (·.id), h.scene.nodes.contains node = true) :
    x.Live part g t := by
  have h_kept := kept_marked collection part h
  have h_accepts' : (marked collection part h).scene.rejectingReactions = [] :=
    h_kept.rejectingReactions.trans h_accepts
  obtain ⟨-, h_fresh, h_nodes⟩ := extended_marked hb collection part
  cases h_performed with
  | inert _ h_wiring h_scene =>
    subst h_wiring h_scene
    refine ⟨nofun, _, rfl, List.length_replicate, fun node h_mem => ?_⟩
    exact reactions_installed List.length_replicate h_accepts' h_mem (h_nodes ▸ h_there node h_mem)
  | @resolved primary property rs installed h_resolved h_build h_wiring h_scene =>
    subst h_wiring h_scene
    obtain ⟨h_setting, -⟩ := resolved?_eq_some_iff.mp h_resolved
    obtain ⟨h_length, -⟩ := assigns_of_build (by simp [siblings]) h_build
    refine ⟨fun id h_id => ?_, rs, h_build, h_length, fun node h_mem => ?_⟩
    · -- the state variables have the ids that come next, in the order of the instances
      rw [Wiring.variables, Option.getD_some, filterMap_target?_slotsOf] at h_id
      obtain ⟨k, hk, rfl⟩ : ∃ k < g.instances.length,
          Scene.variableId ((marked collection part h).scene.nextId + k) = id := by
        simpa [Scene.idsFrom] using h_id
      have h_placement : (placements (plan collection part primary property)
          (marked collection part h) g.instances)[k]? = _ := getElem?_placements
      rw [List.getElem?_eq_getElem hk, Option.map_some] at h_placement
      rw [variableTable_wired]
      exact ⟨_, Scene.find?_settleAll _ _ h_fresh h_placement, primary, h_setting, k, hk, rfl⟩
    · refine reactions_installed h_length ?_ h_mem ?_
      · rw [Scene.rejectingReactions_settleAll]
        exact h_accepts'
      · obtain ⟨n, hn⟩ := Registry.contains_iff.mp (h_there node h_mem)
        rw [Registry.contains_iff, Scene.nodes_settleAll, h_nodes, hn, Option.map_some]
        exact ⟨_, rfl⟩

/-- **Every instance sets all the state variables** that are reported. -/
theorem Performed.sets {collection : String} {part : Interaction} {g : Group} {config : Config}
    {h : Host} {x : Wiring} {t : Scene} (h_performed : Performed collection part g config h x t)
    (hb : h.scene.Built) (h_accepts : h.scene.rejectingReactions = [])
    (h_there : ∀ node ∈ g.instances.map (·.id), h.scene.nodes.contains node = true)
    {node target : String} (h_mem : node ∈ g.instances.map (·.id))
    (h_target : target ∈ x.variables) : t.Sets node target := by
  obtain ⟨-, rs, h_build, -, h_placed⟩ := h_performed.live hb h_accepts h_there
  obtain ⟨k, r, -, hr, h_reactions⟩ := h_placed node h_mem
  cases h_performed with
  | inert _ h_wiring _ =>
    subst h_wiring
    cases h_target
  | @resolved primary property _ _ _ _ h_wiring _ =>
    subst h_wiring
    obtain ⟨-, h_assigns⟩ := assigns_of_build (by simp [siblings]) h_build
    rw [Wiring.variables, Option.getD_some, filterMap_target?_slotsOf] at h_target
    obtain ⟨j, h_id⟩ := List.mem_iff_getElem?.mp h_target
    have hj : j < g.instances.length := by simpa using (List.getElem?_eq_some_iff.mp h_id).1
    -- the row of the reaction has a value for every variable
    obtain ⟨value, h_value⟩ : ∃ value, (TargetTable.row ⟨property, primary.value⟩
        (siblings (marked collection part h).scene part g config primary property) k)[j]? =
          some value :=
      ⟨_, List.getElem?_eq_getElem (by simpa [siblings] using hj)⟩
    have h_action := ((h_assigns k r hr).actions ⟨target, value⟩).mpr ⟨j, h_id, h_value⟩
    exact ⟨r, by rw [h_reactions]; exact List.mem_cons_self, List.mem_map_of_mem h_action⟩

/-- **A live wiring stays live** when a part of another group is wired, if what that retires spares
it. -/
theorem Live.wires {collection : String} {part q : Interaction} {g g' : Group} {x y : Wiring}
    {s s' : Session} {h h' : Host} (h_live : x.Live part g h.scene)
    (h_wires : Authoring.Wires collection q g' y s h s' h')
    (h_accepts : h.scene.rejectingReactions = [])
    (h_apart : ∀ node ∈ g.instances.map (·.id), node ∉ g'.instances.map (·.id))
    (h_spared : ∀ id, s.Retires h q id → part.SparedBy g.instances.length id) :
    x.Live part g h'.scene := by
  have h_free (id : String) (h_id : id ∈ x.variables) : ∃ v,
      h.scene.variableTable.find? id = some v ∧ part.StateName g.instances.length v.name ∧
        ∀ id', s.Retires h q id' → ownedBy id' v.name = false := by
    obtain ⟨v, hv, h_name⟩ := h_live.states id h_id
    exact ⟨v, hv, h_name, fun id' h_retires => (h_spared id' h_retires).2 _ h_name⟩
  obtain ⟨rs, h_build, h_length, h_placed⟩ := h_live.reactions
  refine ⟨fun id h_id => ?_, rs, h_build, h_length, fun node h_mem => ?_⟩
  · obtain ⟨v, hv, h_name, h_kept⟩ := h_free id h_id
    exact ⟨v, h_wires.find?_kept hv h_kept, h_name⟩
  · obtain ⟨k, r, hk, hr, h_reactions⟩ := h_placed node h_mem
    refine ⟨k, r, hk, hr, ?_⟩
    rw [h_wires.reactions_kept h_accepts (h_apart node h_mem), h_reactions]
    -- what the reactions set are the reported variables
    rintro target ⟨r', hr', h_target⟩
    rw [h_reactions, List.mem_singleton] at hr'
    subst hr'
    obtain ⟨v, hv, -, h_kept⟩ :=
      h_free target (Reaction.targets_build h_build _ (List.mem_of_getElem? hr) target h_target)
    exact ⟨v, hv, h_kept⟩

end Wiring

/-! ### What a run leaves -/

namespace Authoring

variable {collection : String} {part : Interaction} {g : Group} {s s₁ s' : Session}
  {h h₁ h' : Host} {parts before after : List Interaction} {x : Wiring} {xs : List Wiring}

/-- **What is on record for the groups of some parts** was on record at first, or has the id of the
part on the group. -/
def Stems (parts : List Interaction) (s : Session) (h : Host) (s₁ : Session) (h₁ : Host) : Prop :=
  ∀ q ∈ parts, ∀ r, s₁.recorded h₁ q.group = .ok (some r) →
    s.recorded h q.group = .ok (some r) ∨ r.id = q.id

/-- What a part retires is told by what was on record at first. -/
theorem Stems.retires (h_stems : Stems parts s h s₁ h₁) (h_part : part ∈ parts) {id : String}
    (h_retires : s₁.Retires h₁ part id) : s.Retires h part id := by
  rcases h_retires with rfl | ⟨previous, h_found, rfl⟩
  · exact .inl rfl
  · rcases h_stems part h_part previous h_found with h_first | h_same
    · exact .inr ⟨previous, h_first, rfl⟩
    · exact .inl h_same

theorem Stems.wires (h_stems : Stems parts s h s₁ h₁) (hs : h₁.Stores)
    (h_wires : Wires collection part g x s₁ h₁ s' h')
    (h_ids : ∀ q ∈ parts, q.group = part.group → q.id = part.id) : Stems parts s h s' h' := by
  intro q hq r h_found
  by_cases h_group : q.group = part.group
  · rw [h_group, h_wires.recorded_self] at h_found
    obtain rfl := Option.some.inj (Except.ok.inj h_found)
    exact .inr (h_ids q hq h_group).symm
  · rcases h_wires.recorded_other hs h_group with h_same | h_none
    · exact h_stems q hq r (h_same.symm.trans h_found)
    · cases h_none.symm.trans h_found

/-- **A part that has just been wired is live.** -/
theorem Wires.live {groups : List Group} (h_wires : Wires collection part g x s h s' h')
    (h_works : s.Works collection h) (h_accepts : h.scene.rejectingReactions = [])
    (h_families : Discovery.Families h.scene groups) (hg : g ∈ groups) :
    x.Live part g h'.scene ∧ x.interaction = part.id ∧ x.group = g.id := by
  obtain ⟨_, h₁, -, h_later, -, -, h_performed, -, -⟩ := h_wires
  refine ⟨h_performed.live (h_later.built h_works.built)
    (h_later.kept.rejectingReactions.trans h_accepts) fun node h_mem => ?_, h_performed.names⟩
  exact (h_families.kept h_later.kept).contains hg h_mem

/-- **The last part on a group is live** at the end of a run, if it is spared by what the parts
after it retire. -/
theorem Trace.live (h_trace : Trace collection (before ++ part :: after) xs s h s' h')
    (h_works : s.Works collection h) (h_accepts : h.scene.rejectingReactions = [])
    (h_families : Discovery.Families h.scene s.context.groups)
    (h_ids : ∀ p ∈ before ++ part :: after, ∀ q ∈ before ++ part :: after,
      q.group = p.group → q.id = p.id)
    (h_group : s.context.group part.group = .ok g)
    (h_last : ∀ q ∈ after, q.group ≠ part.group)
    (h_spared : ∀ q ∈ after, ∀ id, s.Retires h q id → part.SparedBy g.instances.length id) :
    s'.recorded h' part.group = .ok (some part) ∧ ∃ x, xs[before.length]? = some x ∧
      x.interaction = part.id ∧ x.group = part.group ∧ x.Live part g h'.scene := by
  obtain ⟨ws, x, ys, g', s₁, h₁, s₂, h₂, rfl, h_length, h_before, h_group', h_wires, h_after⟩ :=
    h_trace.split
  obtain rfl := Except.ok.inj (h_group.symm.trans h_group')
  obtain ⟨hg, h_id⟩ := Context.group_eq_ok h_group
  have h_works₁ := h_before.works h_works
  have h_works₂ := h_wires.works h_works₁
  -- up to the part, only where records come from matters
  have h_stems₁ : Stems (before ++ part :: after) s h s₁ h₁ := by
    refine h_before.keeps (I := Stems (before ++ part :: after) s h) h_works
      (fun _ _ _ h_found => .inl h_found) fun {q _ _ _ _ _ _} hq _ h_works₂ _ h_wires₂ h_stems => ?_
    exact h_stems.wires h_works₂.stores h_wires₂ (h_ids q (List.mem_append_left _ hq))
  have h_stems₂ : Stems (before ++ part :: after) s h s₂ h₂ :=
    h_stems₁.wires h_works₁.stores h_wires (h_ids part (by simp))
  have h_kept₂ := (h_before.later.trans h_wires.later).kept
  obtain ⟨h_live₂, h_names⟩ := h_wires.live h_works₁
    (h_before.later.kept.rejectingReactions.trans h_accepts)
    (h_families.kept h_before.later.kept) hg
  -- from then on, the parts spare what it has installed
  have h_end := h_after.keeps (I := fun s₃ h₃ => Stems (before ++ part :: after) s h s₃ h₃ ∧
      Scene.Kept h.scene h₃.scene ∧ s₃.recorded h₃ part.group = .ok (some part) ∧
        x.Live part g h₃.scene) h_works₂ ⟨h_stems₂, h_kept₂, h_wires.recorded_self, h_live₂⟩ ?_
  · obtain ⟨-, -, h_recorded, h_live⟩ := h_end
    refine ⟨h_recorded, x, ?_, h_names.1, h_names.2.trans h_id, h_live⟩
    rw [← h_length, List.getElem?_append_right (Nat.le_refl _), Nat.sub_self]
    rfl
  · rintro q g' y s₃ h₃ s₄ h₄ hq - h_works₃ h_group' h_wires₃ ⟨h_stems, h_kept, h_recorded, h_live⟩
    have hq' : q ∈ before ++ part :: after := by simp [hq]
    have h_free (id : String) (h_retires : s₃.Retires h₃ q id) :
        part.SparedBy g.instances.length id :=
      h_spared q hq id (h_stems.retires hq' h_retires)
    refine ⟨h_stems.wires h_works₃.stores h_wires₃ (h_ids q hq'),
      h_kept.trans h_wires₃.later.kept, ?_, ?_⟩
    · exact h_wires₃.recorded_kept (Ne.symm (h_last q hq)) h_recorded
        fun id h_retires => (h_free id h_retires).1
    · refine h_live.wires h_wires₃ (h_kept.rejectingReactions.trans h_accepts) ?_ h_free
      intro node h_mem h_mem'
      obtain ⟨i, hi, rfl⟩ := List.mem_map.mp h_mem
      rw [h_wires.context, h_before.context] at h_group'
      obtain ⟨hg', h_id'⟩ := Context.group_eq_ok h_group'
      have h_same := h_families.id_eq hg hg' hi h_mem'
      exact h_last q hq (by rw [← h_id, ← h_id', h_same])

end Authoring

/-! ### Accepted interactions -/

/-- The parts of an interaction on one group have one id. -/
theorem Interaction.id_eq_of_group_eq {i p q : Interaction} (hp : p ∈ i.parts) (hq : q ∈ i.parts)
    (h_group : q.group = p.group) : q.id = p.id := by
  have h_nested {r : Interaction} (hr : r ∈ (i.nestedActions.filter (·.target ≠ i.group)).map
      i.nested) : r.group ≠ i.group ∧ r.id = s!"{i.id}_nested_{r.group}" := by
    obtain ⟨action, h_mem, rfl⟩ := List.mem_map.mp hr
    exact ⟨by simpa [nested] using (List.mem_filter.mp h_mem).2, rfl⟩
  rcases List.mem_cons.mp hp with rfl | hp <;> rcases List.mem_cons.mp hq with rfl | hq
  · rfl
  · exact absurd h_group (h_nested hq).1
  · exact absurd h_group.symm (h_nested hp).1
  · rw [(h_nested hp).2, (h_nested hq).2, h_group]

/-- **Groups whose ids have no underscores spare each other.** What was made for one group owns
nothing of a part on another one, unless that is nested in it. -/
theorem Interaction.sparedBy_of_plain {i part : Interaction} {t : Int} {group id : String}
    (h_id : i.id = freshId i.group (.int t)) (h_part : part ∈ i.parts) (h_made : MadeFor group id)
    (h_other : group ≠ part.group) (h_apart : group ≠ i.group)
    (h_plain : ∀ name ∈ [i.group, part.group, group], '_' ∉ name.toList) (count : Nat) :
    part.SparedBy count id := by
  simp only [List.forall_mem_cons, List.not_mem_nil, false_implies, implies_true, and_true] at h_plain
  obtain ⟨h_main, h_plain, h_group⟩ := h_plain
  have h_made' := madeFor_of_mem_parts h_part h_id h_main
  have h_free : ownedBy id part.id = false := by
    refine Bool.eq_false_iff.mpr fun h_owned => ?_
    obtain ⟨rest, h_eq⟩ := Records.ownedBy_iff.mp h_owned
    have h_pieces := congrArg pieces h_eq
    rw [pieces_append] at h_pieces
    -- the id of the part has a piece more than the id it belongs to
    have h_lt : (pieces id.toList).length < (pieces part.id.toList).length := by
      have h_more := List.length_pos_of_ne_nil (List.splitOn_ne_nil '_' rest)
      rw [h_pieces, List.length_append]
      exact Nat.lt_add_of_pos_right h_more
    rcases List.mem_cons.mp h_part with rfl | h_mem
    · rw [h_id, pieces_freshId h_main] at h_lt
      cases h_made with
      | authored t' => simp [pieces_freshId h_group] at h_lt
      | nested parent t' h_parent =>
        rw [pieces_nested h_group, pieces_freshId h_parent] at h_lt
        simp at h_lt
    · obtain ⟨action, -, rfl⟩ := List.mem_map.mp h_mem
      have h_nested : pieces (i.nested action).id.toList =
          [i.group.toList, (toString t).toList, "nested".toList, action.target.toList] := by
        refine (pieces_nested h_plain i.id).trans ?_
        rw [h_id, pieces_freshId h_main]
        rfl
      rw [h_nested] at h_lt h_pieces
      cases h_made with
      | authored t' =>
        -- the first piece would be both groups
        rw [pieces_freshId h_group] at h_pieces
        exact h_apart (String.toList_inj.mp (List.cons.inj h_pieces).1).symm
      | nested parent t' h_parent =>
        rw [pieces_nested h_group, pieces_freshId h_parent] at h_lt
        simp at h_lt
  refine ⟨h_free, fun name h_name => Bool.eq_false_iff.mpr fun h_owned => ?_⟩
  obtain ⟨primary, -, k, -, rfl⟩ := h_name
  have h_owner := h_made'.apart h_made (Ne.symm h_other) h_plain h_group
    (.inr ⟨k, primary.property, rfl⟩) h_owned
  cases h_free.symm.trans h_owner

namespace World

variable {w : World Unit} {inbound : Inbound} {i part : Interaction} {a : Authoring} {g : Group}

/-- **The last part on a group is live.** Let an interaction be accepted, on a host whose storage
works and a scene that can be built and whose nodes accept reactions. Of the parts that are carried
out, take the last one on some group, and let everything that the parts after it retire spare it.
Then it is on record for its group, the state variables that were reported for it are there, and its
reactions are in place. -/
theorem live_after (hw : w.Sound) (h_stores : w.host.Stores)
    (h_accepting : w.host.scene.rejectingReactions = [])
    (h_families : Discovery.Families w.host.scene w.current.context.groups)
    (h_handler : w.current.handlers.find? "create-interaction" = some .author)
    (h_accepts : w.current.Accepts w.host inbound i a) (before after : List Interaction)
    (h_parts : i.partsIn w.current.context = before ++ part :: after)
    (h_group : w.current.context.group part.group = .ok g)
    (h_last : ∀ q ∈ after, q.group ≠ part.group)
    (h_spared : ∀ q ∈ after, ∀ id, w.current.Retires w.host q id →
      part.SparedBy g.instances.length id) :
    let w' := w.advance (.message inbound)
    ((Records.get part.group).outcome w'.current w'.host).1 = .ok (some part) ∧
      ∃ x, a.wirings[before.length]? = some x ∧ x.interaction = part.id ∧ x.group = part.group ∧
        (∀ id ∈ x.variables, ∃ v, w'.host.scene.variableTable.find? id = some v) ∧
          x.InPlace g w'.host.scene := by
  intro w'
  obtain ⟨collection, h₀, s', h_prepared, h_works, h_trace, h_alike⟩ :=
    h_accepts.traces hw h_stores h_handler
  have h_stores' := h_trace.later.stores h_works.stores
  rw [h_parts] at h_trace
  have h_retires {q : Interaction} {id : String} (h : w.current.enter.Retires h₀ q id) :
      w.current.Retires w.host q id := by
    have h_same : w.current.enter.recorded h₀ q.group = w.current.recorded w.host q.group :=
      Session.recorded_congr rfl rfl (by rw [h_prepared.storage])
    rwa [Session.Retires, h_same] at h
  have h_mem {q : Interaction} (hq : q ∈ before ++ part :: after) : q ∈ i.parts :=
    (List.mem_filter.mp (h_parts ▸ hq)).1
  obtain ⟨h_recorded, x, h_wiring, h_interaction, h_place, h_live⟩ := h_trace.live h_works
    (h_prepared.later.kept.rejectingReactions.trans h_accepting)
    (h_families.kept h_prepared.later.kept)
    (fun p hp q hq => Interaction.id_eq_of_group_eq (h_mem hp) (h_mem hq)) h_group h_last
    fun q hq id h => h_spared q hq id (h_retires h)
  refine ⟨?_, x, h_wiring, h_interaction, h_place, fun id h_id => ?_, h_live.reactions⟩
  · rw [(Records.get_recalls (s := w'.current) h_stores' part.group).1, ← h_recorded]
    exact Session.recorded_congr h_alike.config (by rw [h_alike.records]) rfl
  · obtain ⟨v, hv, -⟩ := h_live.states id h_id
    exact ⟨v, hv⟩

/-- The badges have an interaction of their own when the tabs are authored with them. It gives way,
and the tabs are live all the same. -/
theorem live_after_superseding :
    ∃ w a g, panel.after [.notice, .message (.authoring (.switchingOn "badges" 1 []))] = w ∧
      let i := Interaction.switchingOn "tabs" 2 ["badges"]
      w.current.Accepts w.host (.authoring i) i a ∧ w.current.context.group "tabs" = .ok g ∧
        let w' := w.advance (.message (.authoring i))
        ((Records.get "tabs").outcome w'.current w'.host).1 = .ok (some i) ∧
          ∃ x, a.wirings[0]? = some x ∧ x.interaction = i.id ∧ x.group = "tabs" ∧
            (∀ id ∈ x.variables, ∃ v, w'.host.scene.variableTable.find? id = some v) ∧
              x.InPlace g w'.host.scene := by
  have h_sound : (panel.after [.notice,
      .message (.authoring (.switchingOn "badges" 1 []))]).Sound :=
    (sound_panel.advance (m := .notice) trivial).advance (m := .message _) trivial
  have h_lasting : ∀ m ∈ [Move.notice, .message (.authoring (.switchingOn "badges" 1 []))],
      m.Lasting panel.current.config := by
    intro m hm
    simp only [List.mem_cons, List.not_mem_nil, or_false] at hm
    rcases hm with rfl | rfl <;> trivial
  obtain ⟨-, h_stores⟩ := stores_after stores_panel h_lasting
  generalize h_reached : panel.after [.notice,
    .message (.authoring (.switchingOn "badges" 1 []))] = w at h_sound h_stores
  obtain ⟨a, h_accepts⟩ : ∃ a, w.current.Accepts w.host
      (.authoring (.switchingOn "tabs" 2 ["badges"])) (.switchingOn "tabs" 2 ["badges"]) a := by
    refine accepts_authoring ?_ rfl ?_ <;> rw [← h_reached] <;> decide +kernel
  obtain ⟨g, h_group⟩ : ∃ g, w.current.context.group "tabs" = .ok g :=
    Context.exists_of_isOk (by rw [← h_reached]; decide +kernel)
  have h_known : (w.current.context.group "badges").isOk = true := by
    rw [← h_reached]
    decide +kernel
  have h_parts : (Interaction.switchingOn "tabs" 2 ["badges"]).partsIn w.current.context =
      [] ++ .switchingOn "tabs" 2 ["badges"] ::
        [(Interaction.switchingOn "tabs" 2 ["badges"]).nested ⟨"badges", "State=On"⟩] := by
    rw [Interaction.partsIn_eq (h_group ▸ rfl)]
    exact congrArg _ (Interaction.nestedIn_of_known (by decide) h_known)
  refine ⟨w, a, g, rfl, h_accepts, h_group, ?_⟩
  refine live_after h_sound h_stores ?_ ?_ ?_ h_accepts [] _ h_parts h_group ?_ ?_
  · rw [← h_reached]
    decide +kernel
  · rw [← h_reached]
    decide +kernel
  · rw [← h_reached]
    decide +kernel
  · simp [Interaction.nested, Interaction.switchingOn]
  · intro q hq id h_retires
    obtain rfl := List.mem_singleton.mp hq
    have h_made : Interaction.MadeFor "badges" id := by
      rcases h_retires with rfl | ⟨previous, h_found, rfl⟩
      · exact .nested "tabs" 2 (by decide)
      · have h_first : (w.current.recorded w.host "badges").toOption.join.map (·.id) =
            some "badges_1" := by
          rw [← h_reached]
          decide +kernel
        rw [show w.current.recorded w.host "badges" = _ from h_found] at h_first
        obtain h_id : previous.id = "badges_1" := Option.some.inj h_first
        rw [h_id]
        exact .authored 1
    exact Interaction.sparedBy_of_plain (t := 2) rfl List.mem_cons_self h_made (by decide)
      (by decide) (by decide) _

/-- The panel with a menu and an item of it, which belong to families of their own. -/
def menus : World Unit :=
  let more := [.addVariantSet "menu" "Menu" (.ofList [("State", ⟨"VARIANT", ["On", "Off"]⟩)]),
    .addVariantSet "menu_item" "Item" (.ofList [("State", ⟨"VARIANT", ["On", "Off"]⟩)]),
    .addComponent "menu-off" "State=Off" (some "menu"),
    .addComponent "item-off" "State=Off" (some "menu_item"),
    .addNode "menu-1" "File" "INSTANCE" (some "menu-off") (.ofList [("State", .str "Off")])
      (some "panel"),
    .addNode "item-1" "Open" "INSTANCE" (some "item-off") (.ofList [("State", .str "Off")])
      (some "panel")]
  { panel with host := { scene := Scene.panel.operateAll more } }

/-- **A part is retired by a later one.** The id of the interaction nested for `menu` begins the id
of the one nested for `menu_item`, which is put on record first. Its record, its variables and its
reactions are gone when the run reports them. -/
theorem part_retired :
    let w := menus.after [.notice,
      .message (.authoring (.switchingOn "tabs" 1 ["menu_item", "menu"]))]
    w.current.lastAuthoring.map (·.wirings.map fun x => (x.group, x.variables)) =
        some [("tabs", ["VariableID:3", "VariableID:4"]), ("menu_item", ["VariableID:6"]),
          ("menu", ["VariableID:8"])] ∧
      ((Records.get "menu_item").outcome w.current w.host).1.toOption.map (·.map (·.id)) =
        some none ∧ w.host.scene.variableTable.contains "VariableID:6" = false ∧
          w.host.scene.reactions "item-1" = [] := by
  decide +kernel

end World

end Clickwork
