import Clickwork.Proofs.Records

/-!
# Exact clean-up

What is left after an interaction is retired (`Records.retired_exactly`), after unused variables are
swept (`Records.swept_exactly`) and after the records of groups are purged
(`Records.purged_up_to_failure`), whatever removals and deletions fail on the way.

Each failure of a removal only keeps its own variable. A failure of a deletion, however, ends a
purge: the records of the groups that would have been next are left (`Records.purge_given_up`).
-/

namespace Clickwork

namespace Scene

/-- What is left of a scene that accepts all reactions when variables are removed and the reactions
that set them are cleared. -/
theorem detach_discard_eq {s : Scene} (h_accepts : s.rejectingReactions = []) (ids : List String) :
    (s.discard ids).detach ids = { s with
      variableTable := s.variableTable.filter fun id _ => decide (id ∉ ids)
      nodes := s.nodes.mapValues fun _ n => { n with
        bindings := n.bindings.filter fun _ target => decide (target ∉ ids)
        reactions :=
          if ∃ r ∈ n.reactions, ∃ target ∈ r.targets, target ∈ ids then [] else n.reactions } } := by
  simp only [detach, discard, h_accepts, List.not_mem_nil, not_false_eq_true, true_and,
    Registry.mapValues_mapValues, setsAny_eq_true_iff, Node.unbind]
  congr 1
  refine Registry.mapValues_congr fun e _ => ?_
  split <;> rfl

end Scene

namespace Records

variable {s : Session} {h : Host} {failing : List String}

/-! ### Retiring -/

/-- **Retiring an interaction** removes the managed variables that belong to it, but for those whose
removal fails, with the bindings to them and the reactions of the nodes that set them. It drops the
records of the interactions nested in it, in memory and in the storage, and changes nothing else. -/
theorem retired_exactly (interaction : String) (h_stores : h.Stores) (h_lists : h.Lists)
    (h_spares : h.Spares .setReactions) (h_accepts : h.scene.rejectingReactions = [])
    (h_failing : h.Withholds failing
      (h.scene.chosen s.config.collection fun v => ownedBy interaction v.name)) :
    ∃ (removed dropped : List String) (h' : Host),
      (retire interaction).outcome s h = (.ok removed.length,
        { s with records := s.records.filter fun group _ => decide (group ∉ dropped) }, h') ∧
      removed.Nodup ∧
      (∀ id, id ∈ removed ↔ id ∉ failing ∧ ∃ v, h.scene.variableTable.find? id = some v ∧
        h.scene.collections.find? s.config.collection = some v.collection ∧
        ownedBy interaction v.name = true) ∧
      (∀ group, group ∈ dropped ↔ ∃ record, s.records.find? group = some record ∧
        ownedBy interaction record.id = true) ∧
      h'.storage = { h.storage with
        texts := h.storage.texts.filter fun key _ =>
          decide (key ∉ dropped.map s.config.storageKey) } ∧
      h'.scene = { h.scene with
        variableTable := h.scene.variableTable.filter fun id _ => decide (id ∉ removed)
        nodes := h.scene.nodes.mapValues fun _ n => { n with
          bindings := n.bindings.filter fun _ target => decide (target ∉ removed)
          reactions :=
            if ∃ r ∈ n.reactions, ∃ target ∈ r.targets, target ∈ removed then []
            else n.reactions } } := by
  obtain ⟨groups, gone, h_groups, -, h_all, h_drop⟩ := outcome_dropNested s h interaction
  obtain rfl := h_all h_stores
  obtain ⟨keys, h_keys⟩ : ∃ keys, keys = groups.map s.config.storageKey := ⟨_, rfl⟩
  obtain ⟨ids, h_ids⟩ : ∃ ids, ids =
    h.scene.chosen s.config.collection fun v => ownedBy interaction v.name := ⟨_, rfl⟩
  obtain ⟨removed, h_removed⟩ : ∃ removed, removed = ids.filter fun id => decide (id ∉ failing) :=
    ⟨_, rfl⟩
  rw [← h_keys] at h_drop
  rw [← h_ids] at h_failing
  -- dropping records only changes the storage
  have h_host : h.deleting keys groups.length =
      { h with storage := (h.deleting keys groups.length).storage } := by
    rw [Host.deleting, Host.counting_of_spares (h_stores.spares .storageDelete rfl)]
  obtain ⟨storage, h_storage⟩ : ∃ storage, storage = (h.deleting keys groups.length).storage :=
    ⟨_, rfl⟩
  rw [h_host, ← h_storage] at h_drop
  have h_owned := outcome_removeOwned (s := dropOwned [interaction] s)
    (h := { h with storage }) ⟨h_lists.collections, h_lists.listing, h_lists.reactions⟩ h_spares
    interaction h_ids h_removed h_failing
  have h_retire : (retire interaction).outcome s h = _ :=
    (Program.outcome_bind_ok h_drop fun _ => removeOwned interaction).trans h_owned
  rw [dropOwned_eq_filter h_groups] at h_retire
  refine ⟨removed, groups, _, h_retire, ?_, fun id => ?_, fun group => ?_, ?_, ?_⟩
  · -- the variables are listed once each
    exact h_removed ▸ h_ids ▸ (h.scene.nodup_chosen _ _).filter _
  · rw [h_removed, List.mem_filter, decide_eq_true_eq, h_ids, Scene.mem_chosen, and_comm]
  · rw [h_groups]
    simp [Drops]
  · rw [← h_keys]
    exact h_storage
  · exact Scene.detach_discard_eq h_accepts removed

/-- **A panel with two interactions**: the tabs are bound to the variables of the first, which the
first tab sets as well; those of the second are left over. -/
def cluttered : Scene :=
  Scene.panel.operateAll
    [.createVariable "tabs_1_instance_0_State" "VariableCollectionId:1" "STRING",
      .createVariable "tabs_1_instance_1_State" "VariableCollectionId:1" "STRING",
      .createVariable "tabs_2_instance_0_State" "VariableCollectionId:1" "STRING",
      .createVariable "tabs_2_instance_1_State" "VariableCollectionId:1" "STRING",
      .bindProperty "tab-1" "State" "VariableID:2",
      .bindProperty "tab-2" "State" "VariableID:3",
      .setReactions "tab-1" [{ actions := [⟨"VariableID:2", "On"⟩, ⟨"VariableID:3", "Off"⟩] }],
      .setReactions "tab-2" [{ actions := [⟨"VariableID:3", "On"⟩] }]]

/-- A session with an interaction of the tabs on record, and with one of the badge that is nested in
it. -/
def recorded : Session where
  records := .ofList
    [("tabs", { id := "tabs_1", group := "tabs", primaryAction := "State=On" }),
      ("badges", { id := "tabs_1_nested_badges", group := "badges", primaryAction := "State=On" })]

/-- A host that keeps the records of the session, on which deletions work. -/
def keeping (scene : Scene) : Host where
  scene
  storage := { texts := .ofList [("interaction_tabs", "1"), ("interaction_badges", "2")] }

theorem stores_keeping (scene : Scene) (numbers : Option (List Int)) :
    ((keeping scene).failOn .removeVariable numbers).Stores where
  available := rfl
  spares := fun method h_storage => by
    cases method <;> first | rfl | cases h_storage

/-- The second variable of the interaction cannot be removed, so the second tab keeps its reaction.
-/
theorem retired_exactly_on_panel :
    ∃ (removed dropped : List String) (h' : Host),
      (retire "tabs_1").outcome recorded
          ((keeping cluttered).failOn .removeVariable (some [2])) =
        (.ok 1, { recorded with
          records := recorded.records.filter fun group _ => decide (group ∉ dropped) }, h') ∧
      removed = ["VariableID:2"] ∧ "badges" ∈ dropped ∧
      h'.scene.nodes.values.map (·.reactions) =
        [[], [], [{ actions := [⟨"VariableID:3", "On"⟩] }], []] := by
  have h_numbers : Host.removalNumbers ["VariableID:3"] (cluttered.chosen "state-machine"
      fun v => ownedBy "tabs_1" v.name) = [2] := by decide +kernel
  have h_failing := (keeping cluttered).withholds_failOn ["VariableID:3"]
    (cluttered.chosen "state-machine" fun v => ownedBy "tabs_1" v.name)
  rw [h_numbers] at h_failing
  obtain ⟨removed, dropped, h', h_retire, -, h_removed, h_dropped, -⟩ :=
    retired_exactly (s := recorded) (h := (keeping cluttered).failOn .removeVariable (some [2]))
      "tabs_1" (stores_keeping _ _) ⟨rfl, rfl, rfl⟩ rfl rfl h_failing
  -- the count and the reactions are those of the run
  have h_run : ((retire "tabs_1").outcome recorded
      ((keeping cluttered).failOn .removeVariable (some [2]))).1.toOption = some 1 ∧
      ((retire "tabs_1").outcome recorded
        ((keeping cluttered).failOn .removeVariable (some [2]))).2.2.scene.nodes.values.map
          (·.reactions) = [[], [], [{ actions := [⟨"VariableID:3", "On"⟩] }], []] := by
    decide +kernel
  rw [h_retire] at h_run
  obtain ⟨h_count, h_reactions⟩ := h_run
  have h_owned : "VariableID:2" ∈ cluttered.chosen "state-machine"
      fun v => ownedBy "tabs_1" v.name := by decide +kernel
  have h_first := (h_removed "VariableID:2").mpr ⟨by decide, Scene.mem_chosen.mp h_owned⟩
  obtain ⟨id, rfl⟩ := List.length_eq_one_iff.mp (Option.some.inj h_count)
  obtain rfl := List.mem_singleton.mp h_first
  exact ⟨_, dropped, h', h_retire, rfl, (h_dropped "badges").mpr ⟨_, rfl, by decide⟩, h_reactions⟩

/-! ### Sweeping -/

/-- What may be swept are the managed variables that no node sets. -/
theorem mem_orphans {t : Scene} {name id : String} :
    id ∈ t.chosen name (fun v => !(inUse t.allReactions).contains v.id) ↔
      (∃ v, t.variableTable.find? id = some v ∧ t.collections.find? name = some v.collection) ∧
        ∀ node, ¬t.Sets node id := by
  rw [Scene.mem_chosen]
  simp only [Bool.not_eq_true', List.contains_eq_mem, decide_eq_false_iff_not, mem_inUse,
    not_exists]
  exact ⟨fun ⟨v, hv, h_managed, h_unset⟩ => ⟨⟨v, hv, h_managed⟩, h_unset⟩,
    fun ⟨⟨v, hv, h_managed⟩, h_unset⟩ => ⟨v, hv, h_managed, h_unset⟩⟩

/-- **Sweeping** removes the managed variables that no reaction sets, but for those whose removal
fails, with the bindings to them, and changes nothing else. If no removal fails, there is nothing
left to be swept. -/
theorem swept_exactly (h_lists : h.Lists) (h_failing : h.Withholds failing
      (h.scene.chosen s.config.collection fun v => !(inUse h.scene.allReactions).contains v.id)) :
    ∃ (removed : List String) (h' : Host),
      sweep.outcome s h = (.ok removed.length, s, h') ∧
      removed.Nodup ∧
      (∀ id, id ∈ removed ↔ id ∉ failing ∧ (∃ v, h.scene.variableTable.find? id = some v ∧
        h.scene.collections.find? s.config.collection = some v.collection) ∧
        ∀ node, ¬h.scene.Sets node id) ∧
      h'.storage = h.storage ∧
      h'.scene = { h.scene with
        variableTable := h.scene.variableTable.filter fun id _ => decide (id ∉ removed)
        nodes := h.scene.nodes.mapValues fun _ n => { n with
          bindings := n.bindings.filter fun _ target => decide (target ∉ removed) } } ∧
      (failing = [] → sweep.outcome s h' = (.ok 0, s, h')) := by
  obtain ⟨ids, h_ids⟩ : ∃ ids, ids = h.scene.chosen s.config.collection
    fun v => !(inUse h.scene.allReactions).contains v.id := ⟨_, rfl⟩
  obtain ⟨removed, h_removed⟩ : ∃ removed, removed = ids.filter fun id => decide (id ∉ failing) :=
    ⟨_, rfl⟩
  rw [← h_ids] at h_failing
  have h_sweep := outcome_sweep h_lists h_ids h_failing
  rw [← h_removed] at h_sweep
  have h_mem : ∀ id, id ∈ ids ↔ (∃ v, h.scene.variableTable.find? id = some v ∧
      h.scene.collections.find? s.config.collection = some v.collection) ∧
      ∀ node, ¬h.scene.Sets node id := fun id => h_ids ▸ mem_orphans
  refine ⟨removed, h.removing failing ids, h_sweep, ?_, fun id => ?_, rfl, ?_, ?_⟩
  · exact h_removed ▸ h_ids ▸ (h.scene.nodup_chosen _ _).filter _
  · rw [h_removed, List.mem_filter, decide_eq_true_eq, h_mem, and_comm]
  · rw [Host.removing, ← h_removed]
    rfl
  · rintro rfl
    -- what could be swept again could have been swept before, and is gone
    have h_nil : [] = (h.removing [] ids).scene.chosen s.config.collection
        fun v => !(inUse (h.removing [] ids).scene.allReactions).contains v.id := by
      refine (List.eq_nil_iff_forall_not_mem.mpr fun id h_again => ?_).symm
      obtain ⟨⟨v, hv, h_managed⟩, h_unset⟩ := mem_orphans.mp h_again
      rw [Host.removing, ← h_removed, Scene.find?_discard] at hv
      split at hv
      · cases hv
      · rename_i h_left
        rw [h_removed, List.filter_eq_self.mpr fun _ _ => by simp] at h_left
        refine h_left ((h_mem id).mpr ⟨⟨v, hv, h_managed⟩, fun node h_sets => h_unset node ?_⟩)
        exact (Scene.Sets.congr (Scene.reactions_discard _ _ _)).mpr h_sets
    have h_again := outcome_sweep (h_lists.removing [] ids) h_nil (Host.withholds_nil _ [])
    rwa [Host.removing_nil] at h_again

/-- The first variable that is left over cannot be removed. -/
theorem swept_exactly_on_panel :
    ∃ (removed : List String) (h' : Host),
      sweep.outcome recorded ((keeping cluttered).failOn .removeVariable (some [1])) =
        (.ok 1, recorded, h') ∧
      removed = ["VariableID:5"] ∧
      h'.scene.variableTable.keys = ["VariableID:2", "VariableID:3", "VariableID:4"] := by
  have h_numbers : Host.removalNumbers ["VariableID:4"] (cluttered.chosen "state-machine"
      fun v => !(inUse cluttered.allReactions).contains v.id) = [1] := by decide +kernel
  have h_failing := (keeping cluttered).withholds_failOn ["VariableID:4"]
    (cluttered.chosen "state-machine" fun v => !(inUse cluttered.allReactions).contains v.id)
  rw [h_numbers] at h_failing
  obtain ⟨removed, h', h_sweep, -, h_removed, -⟩ :=
    swept_exactly (s := recorded) (h := (keeping cluttered).failOn .removeVariable (some [1]))
      ⟨rfl, rfl, rfl⟩ h_failing
  have h_run : (sweep.outcome recorded
      ((keeping cluttered).failOn .removeVariable (some [1]))).1.toOption = some 1 ∧
      (sweep.outcome recorded
        ((keeping cluttered).failOn .removeVariable (some [1]))).2.2.scene.variableTable.keys =
          ["VariableID:2", "VariableID:3", "VariableID:4"] := by
    decide +kernel
  rw [h_sweep] at h_run
  obtain ⟨h_count, h_keys⟩ := h_run
  have h_orphan : "VariableID:5" ∈ cluttered.chosen "state-machine"
      fun v => !(inUse cluttered.allReactions).contains v.id := by decide +kernel
  have h_second := (h_removed "VariableID:5").mpr ⟨by decide, mem_orphans.mp h_orphan⟩
  obtain ⟨id, rfl⟩ := List.length_eq_one_iff.mp (Option.some.inj h_count)
  obtain rfl := List.mem_singleton.mp h_second
  exact ⟨_, h', h_sweep, rfl, h_keys⟩

/-! ### Purging -/

/-- One step of a purge: the record of the first group is forgotten in memory, and the others are
gone on with if its text could be deleted. -/
theorem outcome_purgeAll_cons (s : Session) (h : Host) (group : String) (groups : List String) :
    (purgeAll (group :: groups)).outcome s h =
      match h.perform (.storageDelete (s.config.storageKey group)) with
      | (.ok (), h') => (purgeAll groups).outcome { s with records := s.records.erase group } h'
      | (.error e, h') => (.error e, { s with records := s.records.erase group }, h') := by
  have h_first : (do
      forget group
      let config ← Session.readConfig
      Program.ask (.storageDelete (config.storageKey group)) : Program Session Unit).outcome s h =
      ((h.perform (.storageDelete (s.config.storageKey group))).1,
        { s with records := s.records.erase group },
        (h.perform (.storageDelete (s.config.storageKey group))).2) := Program.outcome_ask _ _ _
  refine (Program.outcome_bind s h _ fun _ => purgeAll groups).trans ?_
  rw [h_first]
  rcases h.perform (.storageDelete (s.config.storageKey group)) with ⟨_ | _, _⟩ <;> rfl

/-- Groups are forgotten one after the other, until a deletion fails. -/
theorem outcome_purgeAll (s : Session) (h : Host) (groups : List String) :
    ∃ (n : Nat) (result : Except Failure Unit), n ≤ groups.length ∧
      (∀ k < n, h.deletes (k + 1) = true) ∧
      (n < groups.length → h.deletes (n + 1) = false) ∧
      (purgeAll groups).outcome s h = (result,
        { s with records := s.records.filter fun group _ => decide (group ∉ groups.take (n + 1)) },
        h.deleting ((groups.take n).map s.config.storageKey) (min (n + 1) groups.length)) := by
  induction groups generalizing s h with
  | nil =>
    refine ⟨0, .ok (), Nat.le_refl 0, nofun, nofun, ?_⟩
    rw [Registry.filter_eq_self fun _ _ => by simp, List.take_nil, List.map_nil, List.length_nil,
      Nat.min_zero, Host.deleting_nil, Host.counting_zero]
    rfl
  | cons group groups ih =>
    rw [outcome_purgeAll_cons]
    rcases h.perform_storageDelete (s.config.storageKey group) with
      ⟨h_works, h_eq⟩ | ⟨h_fails, e, h_eq⟩ <;> rw [h_eq]
    · -- the numbers of the other deletions are counted from this one
      obtain ⟨n, result, h_le, h_before, h_after, h_rest⟩ :=
        ih { s with records := s.records.erase group }
          (h.deleting [s.config.storageKey group] 1)
      refine ⟨n + 1, result, Nat.succ_le_succ h_le, fun k hk => ?_, fun h_lt => ?_,
        h_rest.trans ?_⟩
      · cases k with
        | zero => exact h_works
        | succ k =>
          have h_later := h_before k (Nat.lt_of_succ_lt_succ hk)
          rwa [Host.deletes_deleting, Nat.add_comm] at h_later
      · have h_later := h_after (Nat.lt_of_succ_lt_succ h_lt)
        rwa [Host.deletes_deleting, Nat.add_comm] at h_later
      · have h_calls : 1 + min (n + 1) groups.length =
            min (n + 1 + 1) (group :: groups).length := by
          rw [List.length_cons]
          omega
        rw [Host.deleting_deleting, h_calls]
        simp only [Registry.erase_eq_filter, Registry.filter_filter, List.take_succ_cons,
          List.map_cons, List.singleton_append, List.mem_cons, not_or, Bool.decide_and]
    · refine ⟨0, .error e, Nat.zero_le _, nofun, fun _ => h_fails, ?_⟩
      have h_calls : min (0 + 1) (group :: groups).length = 1 := by
        rw [List.length_cons]
        omega
      rw [h_calls, Registry.erase_eq_filter]
      simp only [List.take_succ_cons, List.take_zero, List.mem_singleton, List.map_nil]

/-- **Purging** forgets the records of groups, one after the other, until a deletion fails: the
record of that group is forgotten in memory only, and those of the groups after it are left. If none
fails, all are forgotten. Nothing else changes. -/
theorem purged_up_to_failure (s : Session) (h : Host) (groups : List String) :
    ∃ (n : Nat) (h' : Host),
      (purge groups).outcome s h = (.ok (),
        { s with records := s.records.filter fun group _ => decide (group ∉ groups.take (n + 1)) },
        h') ∧
      n ≤ groups.length ∧
      (∀ k < n, h.deletes (k + 1) = true) ∧
      (n < groups.length → h.deletes (n + 1) = false) ∧
      h'.storage = { h.storage with
        texts := h.storage.texts.filter fun key _ =>
          decide (key ∉ (groups.take n).map s.config.storageKey) } ∧
      h'.scene = h.scene := by
  obtain ⟨n, result, h_le, h_before, h_after, h_purge⟩ := outcome_purgeAll s h groups
  have h_attempt := Program.outcome_attempt s h (purgeAll groups)
  rw [h_purge] at h_attempt
  refine ⟨n, h.deleting ((groups.take n).map s.config.storageKey) (min (n + 1) groups.length), ?_,
    h_le, h_before, h_after, rfl, rfl⟩
  rw [purge, Program.outcome_bind_ok h_attempt]
  cases result with
  | ok u => rfl
  | error e => exact Program.outcome_log _ _ _ _ _

/-- **A purge gives up** when the deletion of the first text fails, though that of the second would
work: the second group keeps its record, in memory and in the storage. -/
theorem purge_given_up :
    let h := (keeping {}).failOn .storageDelete (some [1])
    let (result, s', h') := (purge ["tabs", "badges"]).outcome recorded h
    result.toOption = some () ∧ h.deletes 2 = true ∧
      s'.records.keys = ["badges"] ∧ h'.storage.texts.contains "interaction_badges" = true := by
  decide +kernel

end Records

end Clickwork
