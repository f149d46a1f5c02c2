import Clickwork.Proofs.Removals
import Clickwork.Proofs.Storage

/-!
# What retiring and replacing do

On a host that only fails at storage calls and at bindings, retiring an interaction drops the
records of the interactions nested in it and turns the scene into `Scene.retired` (`retire_ends`).
Putting an interaction on record retires the one before it and its own id (`put_ends`). Sweeping
removes variables that no reaction sets (`sweep_ends`).
-/

namespace Clickwork

open Program (Ends)

namespace Records

variable {s : Session} {h : Host}

/-! ### Dropping records -/

theorem outcome_forget (s : Session) (h : Host) (group : String) :
    (forget group).outcome s h = (.ok (), { s with records := s.records.erase group }, h) := rfl

theorem outcome_keep (s : Session) (h : Host) (group : String) (i : Interaction) :
    (keep group i).outcome s h = (.ok (), { s with records := s.records.insert group i }, h) := rfl

/-- **The record of a group is dropped**, in memory and, if the deletion works, in the storage. -/
theorem outcome_drop (s : Session) (h : Host) (group : String) :
    ∃ gone : List String, gone.Sublist [s.config.storageKey group] ∧
      (h.Stores → gone = [s.config.storageKey group]) ∧
      (drop group).outcome s h =
        (.ok (), { s with records := s.records.erase group }, h.deleting gone 1) := by
  have h_start : ∀ rest : Unit → Program Session Unit,
      (forget group >>= rest).outcome s h =
        (rest ()).outcome { s with records := s.records.erase group } h := fun rest =>
    Program.outcome_bind_ok (outcome_forget s h group) rest
  have h_ask := Program.outcome_tryAsk { s with records := s.records.erase group } h
    (.storageDelete (s.config.storageKey group))
  rw [drop, h_start, Program.outcome_bind_ok (Session.outcome_readConfig _ _)]
  rcases h.perform_storageDelete (s.config.storageKey group) with
    ⟨-, h_eq⟩ | ⟨h_fails, e, h_eq⟩ <;> rw [h_eq] at h_ask <;> rw [Program.outcome_bind_ok h_ask]
  · exact ⟨_, .refl _, fun _ => rfl, rfl⟩
  · refine ⟨[], List.nil_sublist _, fun hs => ?_, Program.outcome_log _ _ _ _ _⟩
    cases h_fails.symm.trans (hs.deletes 1)

/-- Records of groups are dropped one after the other. A deletion that fails does not keep the
others from being made. -/
theorem outcome_forM_drop (s : Session) (h : Host) (groups : List String) :
    ∃ gone : List String, gone.Sublist (groups.map s.config.storageKey) ∧
      (h.Stores → gone = groups.map s.config.storageKey) ∧
      (groups.forM drop).outcome s h = (.ok (),
        { s with records := s.records.filter fun group _ => decide (group ∉ groups) },
        h.deleting gone groups.length) := by
  induction groups generalizing s h with
  | nil =>
    refine ⟨[], .refl _, fun _ => rfl, ?_⟩
    rw [Registry.filter_eq_self fun _ _ => by simp, Host.deleting_nil, List.length_nil,
      Host.counting_zero]
    rfl
  | cons group groups ih =>
    obtain ⟨gone, h_sub, h_all, h_drop⟩ := outcome_drop s h group
    obtain ⟨gone', h_sub', h_all', h_rest⟩ :=
      ih { s with records := s.records.erase group } (h.deleting gone 1)
    refine ⟨gone ++ gone', h_sub.append h_sub', fun hs => ?_, ?_⟩
    · rw [h_all hs, h_all' (hs.deleting gone 1)]
      rfl
    · change (drop group >>= fun _ => groups.forM drop).outcome s h = _
      rw [Program.outcome_bind_ok h_drop, h_rest, Host.deleting_deleting, Nat.add_comm]
      simp only [Registry.erase_eq_filter, Registry.filter_filter, List.mem_cons, not_or,
        Bool.decide_and, List.length_cons]

/-- **The memory without the records that belong to interactions** of the given ids. -/
def dropOwned (ids : List String) (s : Session) : Session :=
  { s with records := s.records.filter fun _ record => !ids.any (ownedBy · record.id) }

/-- The group has a record that belongs to one of the interactions. -/
def Drops (ids : List String) (s : Session) (group : String) : Prop :=
  ∃ record, s.records.find? group = some record ∧ ids.any (ownedBy · record.id) = true

@[simp] theorem config_dropOwned (ids : List String) (s : Session) :
    (dropOwned ids s).config = s.config := rfl

@[simp] theorem dropOwned_nil (s : Session) : dropOwned [] s = s := by
  rw [dropOwned, Registry.filter_eq_self fun _ _ => by simp]

theorem dropOwned_append (ids ids' : List String) (s : Session) :
    dropOwned (ids ++ ids') s = dropOwned ids' (dropOwned ids s) := by
  simp only [dropOwned, Registry.filter_filter, List.any_append, Bool.not_or]

theorem find?_dropOwned {ids : List String} {s : Session} {group : String} {record : Interaction} :
    (dropOwned ids s).records.find? group = some record ↔
      s.records.find? group = some record ∧ ids.any (ownedBy · record.id) = false := by
  rw [dropOwned, Registry.find?_filter, Option.filter_eq_some_iff, Bool.not_eq_true']

/-- A group keeps its record in memory if that belongs to none of the interactions. -/
theorem find?_dropOwned_of_not_drops {ids : List String} {s : Session} {group : String}
    (h_kept : ¬Drops ids s group) :
    (dropOwned ids s).records.find? group = s.records.find? group := by
  cases h_record : s.records.find? group with
  | some record =>
    have h_free : ids.any (ownedBy · record.id) = false :=
      Bool.eq_false_iff.mpr fun h_owned => h_kept ⟨record, h_record, h_owned⟩
    exact find?_dropOwned.mpr ⟨h_record, h_free⟩
  | none =>
    refine Option.eq_none_iff_forall_ne_some.mpr fun record h_left => ?_
    cases h_record.symm.trans (find?_dropOwned.mp h_left).1

theorem drops_append {ids ids' : List String} {s : Session} {group : String} :
    Drops (ids ++ ids') s group ↔ Drops ids s group ∨ Drops ids' (dropOwned ids s) group := by
  simp only [Drops, List.any_append, Bool.or_eq_true, find?_dropOwned]
  constructor
  · rintro ⟨record, h_find, h_any⟩
    by_cases h_first : ids.any (ownedBy · record.id) = true
    · exact Or.inl ⟨record, h_find, h_first⟩
    · rcases h_any with h_any | h_any
      · exact (h_first h_any).elim
      · exact Or.inr ⟨record, ⟨h_find, by simpa using h_first⟩, h_any⟩
  · rintro (⟨record, h_find, h_any⟩ | ⟨record, ⟨h_find, -⟩, h_any⟩)
    · exact ⟨record, h_find, Or.inl h_any⟩
    · exact ⟨record, h_find, Or.inr h_any⟩

/-- The memory without the records of the groups that have one of the interactions. -/
theorem dropOwned_eq_filter {ids groups : List String} {s : Session}
    (h_mem : ∀ group, group ∈ groups ↔ Drops ids s group) :
    dropOwned ids s =
      { s with records := s.records.filter fun group _ => decide (group ∉ groups) } := by
  rw [dropOwned]
  congr 1
  refine Registry.filter_congr fun e he => ?_
  have h_find := Registry.find?_eq_some_iff.mpr he
  rw [Bool.eq_iff_iff]
  simp [h_mem, Drops, h_find]

/-- **The records of nested interactions are dropped.** -/
theorem outcome_dropNested (s : Session) (h : Host) (interaction : String) :
    ∃ groups gone : List String, (∀ group, group ∈ groups ↔ Drops [interaction] s group) ∧
      gone.Sublist (groups.map s.config.storageKey) ∧
      (h.Stores → gone = groups.map s.config.storageKey) ∧
      (dropNested interaction).outcome s h =
        (.ok (), dropOwned [interaction] s, h.deleting gone groups.length) := by
  -- a group is in the list if its record belongs to the interaction
  obtain ⟨groups, h_groups⟩ : ∃ groups, groups =
    (s.records.filter fun _ record => ownedBy interaction record.id).keys := ⟨_, rfl⟩
  have h_mem : ∀ group, group ∈ groups ↔ Drops [interaction] s group := by
    intro group
    rw [h_groups, Registry.mem_keys_iff]
    simp [Registry.find?_filter, Option.filter_eq_some_iff, Drops]
  obtain ⟨gone, h_sub, h_all, h_drop⟩ := outcome_forM_drop s h groups
  refine ⟨groups, gone, h_mem, h_sub, h_all, ?_⟩
  rw [dropNested, Program.outcome_bind_ok (Program.outcome_read _ _)]
  dsimp only
  rw [← h_groups, h_drop, dropOwned_eq_filter h_mem]

theorem dropNested_ends (interaction : String) :
    (dropNested interaction).Ends s h fun r s' h' => r = .ok () ∧
      s' = dropOwned [interaction] s ∧ h'.scene = h.scene ∧
      Host.Forgets s.config (Drops [interaction] s) h h' := by
  obtain ⟨groups, gone, h_mem, h_sub, h_all, h_drop⟩ := outcome_dropNested s h interaction
  exact Ends.of_eq h_drop ⟨rfl, rfl, rfl, (Host.Forgets.of_deleting h_sub h_all _).congr h_mem⟩

/-! ### Retiring -/

/-- **Retiring an interaction**: the records of those nested in it are dropped, its variables are
gone, and so are the reactions that set them. -/
theorem retire_ends (hr : h.Reliable) (interaction : String) :
    (retire interaction).Ends s h fun r s' h' => (∃ count, r = .ok count) ∧
      s' = dropOwned [interaction] s ∧
      h'.scene = h.scene.retired s.config.collection interaction ∧
      Host.Forgets s.config (Drops [interaction] s) h h' := by
  rw [retire_eq]
  refine (dropNested_ends interaction).bind ?_ ?_
  · rintro - s' h' h_later ⟨-, rfl, h_scene, h_forgets⟩
    have hr' := h_later.reliable hr
    refine Ends.of_eq (outcome_removeOwned hr'.lists hr'.setReactions interaction rfl rfl
      (Host.withholds_of_spares hr'.removeVariable _)) ?_
    refine ⟨⟨_, rfl⟩, rfl, ?_, h_forgets.kept, h_forgets.gone⟩
    rw [config_dropOwned, h_scene, Scene.retired_eq, List.filter_eq_self.mpr fun _ _ => by simp]
  · rintro e s' h' - ⟨h_error, -⟩
    cases h_error

/-! ### Reading -/

/-- **The memory after the record of a group is looked up.** -/
structure Loaded (group : String) (h : Host) (s s' : Session) : Prop where
  /-- At most, the stored record was added. -/
  memory : s' = s ∨
    s.records.find? group = none ∧ ∃ i, s' = { s with records := s.records.insert group i }
  /-- Without a stored record nothing is added. -/
  nothing : h.Stores → h.storage.texts.find? (s.config.storageKey group) = none → s' = s
  /-- What was added had been stored. -/
  origin : s.records.find? group = none → ∀ i, s'.records.find? group = some i → ∃ text,
    h.storage.texts.find? (s.config.storageKey group) = some text ∧
      parse s.config.limits text = .ok i

theorem Loaded.refl (group : String) (h : Host) (s : Session) : Loaded group h s s :=
  ⟨Or.inl rfl, fun _ _ => rfl, fun h_none _ h_some => nomatch h_none.symm.trans h_some⟩

theorem Loaded.config {group : String} {h : Host} {s s' : Session} (hl : Loaded group h s s') :
    s'.config = s.config := by
  rcases hl.memory with rfl | ⟨-, i, rfl⟩ <;> rfl

theorem Loaded.context {group : String} {h : Host} {s s' : Session} (hl : Loaded group h s s') :
    s'.context = s.context := by
  rcases hl.memory with rfl | ⟨-, i, rfl⟩ <;> rfl

/-- Nothing is looked up that is in memory. -/
theorem Loaded.eq_of_find? {group : String} {h : Host} {s s' : Session} {i : Interaction}
    (hl : Loaded group h s s') (h_record : s.records.find? group = some i) : s' = s := by
  rcases hl.memory with h_same | ⟨h_none, -⟩
  · exact h_same
  · cases h_none.symm.trans h_record

/-- A record that is found in the storage replaces none. -/
theorem Loaded.find?_kept {group group' : String} {h : Host} {s s' : Session} {i : Interaction}
    (hl : Loaded group' h s s') (h_record : s.records.find? group = some i) :
    s'.records.find? group = some i := by
  rcases hl.memory with rfl | ⟨h_none, j, rfl⟩
  · exact h_record
  · refine (Registry.find?_insert_of_ne _ _ ?_).trans h_record
    rintro rfl
    cases h_none.symm.trans h_record

/-- Looking up a stored text changes nothing, and finds none where there is none. -/
theorem stored?_ends (group : String) :
    (stored? group).Ends s h fun r s' h' => s' = s ∧ h'.scene = h.scene ∧ h'.storage = h.storage ∧
      (h.Stores → h.storage.texts.find? (s.config.storageKey group) = none → r = .ok none) ∧
      ∀ text, r = .ok (some text) →
        h.storage.texts.find? (s.config.storageKey group) = some text := by
  obtain ⟨key, h_key⟩ : ∃ key, key = s.config.storageKey group := ⟨_, rfl⟩
  have h_scene := h.scene_perform_of_storage (c := .storageGet key) rfl
  have h_storage := h.storage_perform_storageGet key
  rw [stored?, ← h_key]
  refine Ends.bind_eq (Session.outcome_readConfig _ _) ?_
  rw [← h_key]
  refine Ends.bind_eq (Program.outcome_tryAsk _ _ _) ?_
  cases h_perform : (h.perform (.storageGet key)).1 with
  | error e =>
    refine Ends.bind_eq (Program.outcome_log _ _ _ _ _) ?_
    exact ⟨rfl, h_scene, h_storage, fun _ _ => rfl, nofun⟩
  | ok text =>
    refine ⟨rfl, h_scene, h_storage, fun hs h_none => ?_, fun text' h_found => ?_⟩
    · have h_text := h_perform.symm.trans (Host.perform_storageGet hs key)
      rw [h_none] at h_text
      rw [Except.ok.inj h_text]
      rfl
    · rw [Host.find?_of_perform_storageGet h_perform]
      exact (Option.filter_eq_some_iff.mp (Except.ok.inj h_found)).1

/-- **Looking up the record of a group** leaves the scene and the storage alone. What is found is on
record afterwards. -/
theorem get_ends (group : String) :
    (get group).Ends s h fun r s' h' => h'.scene = h.scene ∧ h'.storage = h.storage ∧
      Loaded group h s s' ∧ ∀ found, r = .ok found → s'.records.find? group = found := by
  rw [get]
  refine Ends.bind_eq (Program.outcome_read _ _) ?_
  rcases h_record : s.records.find? group with _ | record
  swap
  · refine ⟨rfl, rfl, .refl _ _ _, fun found h_found => ?_⟩
    rw [← Except.ok.inj h_found]
    exact h_record
  refine (stored?_ends group).bind ?_ ?_
  · rintro text s' h' - ⟨rfl, h_scene, h_storage, h_none, h_text⟩
    cases text with
    | none =>
      refine ⟨h_scene, h_storage, .refl _ _ _, fun found h_found => ?_⟩
      rw [← Except.ok.inj h_found]
      exact h_record
    | some text =>
      have h_stored : h.Stores → h.storage.texts.find? (s'.config.storageKey group) ≠ none := by
        intro hs h_missing
        have h_absurd := h_none hs h_missing
        cases h_absurd
      refine Ends.bind_eq (Session.outcome_readConfig _ _) ?_
      cases h_parse : parse s'.config.limits text with
      | error e =>
        -- an unreadable text is as good as none, unless it makes the look-up fail
        by_cases h_discards : discards e = true
        · simp only [h_discards, if_true]
          refine Ends.bind_eq (Program.outcome_log _ _ _ _ _) ?_
          refine ⟨h_scene, h_storage, .refl _ _ _, fun found h_found => ?_⟩
          rw [← Except.ok.inj h_found]
          exact h_record
        · simp only [h_discards]
          refine ⟨h_scene, h_storage, .refl _ _ _, fun found h_found => ?_⟩
          cases h_found
      | ok i =>
        refine Ends.bind_eq (outcome_keep _ _ _ _) ?_
        refine ⟨h_scene, h_storage, ⟨Or.inr ⟨h_record, i, rfl⟩, fun hs h_missing => ?_,
          fun _ j hj => ?_⟩, fun found h_found => ?_⟩
        · exact (h_stored hs h_missing).elim
        · obtain rfl := Option.some.inj ((Registry.find?_insert_self _ _ _).symm.trans hj)
          exact ⟨text, h_text text rfl, h_parse⟩
        rw [← Except.ok.inj h_found]
        exact Registry.find?_insert_self _ _ _
  · rintro e s' h' - ⟨rfl, h_scene, h_storage, -⟩
    refine ⟨h_scene, h_storage, .refl _ _ _, fun found h_found => ?_⟩
    cases h_found

/-! ### Replacing -/

/-- The ids that are retired when an interaction is put on record: that of the group's previous one
and its own. -/
def retiring (previous : Option Interaction) (i : Interaction) : List String :=
  (previous.toList.map (·.id)).filter (· ≠ i.id) ++ [i.id]

theorem mem_retiring {previous : Option Interaction} {i : Interaction} {interaction : String} :
    interaction ∈ retiring previous i ↔
      interaction = i.id ∨ ∃ p, previous = some p ∧ interaction = p.id := by
  cases previous with
  | none => simp [retiring]
  | some p =>
    by_cases h_same : p.id = i.id
    · simp [retiring, h_same]
    · simp [retiring, h_same, or_comm]

/-- **What putting an interaction on record comes to**, with the ids that are retired. -/
structure Replaced (ids : List String) (i : Interaction) (s s' : Session) (h h' : Host) : Prop where
  memory : s' = { s with records := (dropOwned ids s).records.insert i.group i }
  scene : h'.scene = ids.foldl (Scene.retired s.config.collection) h.scene
  stored : h.Stores → h'.storage.texts.find? (s.config.storageKey i.group) = some i.text
  kept : ∀ group, group ≠ i.group → ¬Drops ids s group →
    h'.storage.texts.find? (s.config.storageKey group) =
      h.storage.texts.find? (s.config.storageKey group)
  gone : h.Stores → ∀ group, group ≠ i.group → Drops ids s group →
    h'.storage.texts.find? (s.config.storageKey group) = none

namespace Replaced

variable {ids : List String} {i : Interaction} {s' : Session} {h' : Host} {group : String}
  (h_replaced : Replaced ids i s s' h h')

include h_replaced

theorem config : s'.config = s.config := by
  rw [h_replaced.memory]

theorem context : s'.context = s.context := by
  rw [h_replaced.memory]

theorem collections : h'.scene.collections = h.scene.collections := by
  rw [h_replaced.scene, Scene.collections_retiredAll]

theorem nextId : h'.scene.nextId = h.scene.nextId := by
  rw [h_replaced.scene, Scene.nextId_retiredAll]

/-- The interaction is on record for its group. -/
theorem find?_self : s'.records.find? i.group = some i := by
  rw [h_replaced.memory]
  exact Registry.find?_insert_self _ _ _

/-- A record in memory is kept if it belongs to nothing that is retired. -/
theorem find?_kept (h_other : group ≠ i.group) (h_kept : ¬Drops ids s group) :
    s'.records.find? group = s.records.find? group := by
  rw [h_replaced.memory]
  exact (Registry.find?_insert_of_ne _ _ (Ne.symm h_other)).trans
    (find?_dropOwned_of_not_drops h_kept)

/-- **What is in memory when an interaction was put on record** is that interaction, or was there
before and belongs to nothing that was retired. -/
theorem of_find? {r : Interaction} (hr : s'.records.find? group = some r) :
    group = i.group ∧ r = i ∨
      group ≠ i.group ∧ s.records.find? group = some r ∧ ids.any (ownedBy · r.id) = false := by
  by_cases h_group : group = i.group
  · rw [h_group] at hr
    exact .inl ⟨h_group, Option.some.inj (hr.symm.trans h_replaced.find?_self)⟩
  · rw [h_replaced.memory, Registry.find?_insert_of_ne _ _ (Ne.symm h_group)] at hr
    exact .inr ⟨h_group, find?_dropOwned.mp hr⟩

/-- A record in memory is dropped if it belongs to something that is retired. -/
theorem find?_gone (h_other : group ≠ i.group) (h_drops : Drops ids s group) :
    s'.records.find? group = none := by
  obtain ⟨record, h_record, h_owned⟩ := h_drops
  refine Option.eq_none_iff_forall_ne_some.mpr fun r h_left => ?_
  rcases h_replaced.of_find? h_left with ⟨h_same, -⟩ | ⟨-, h_before, h_free⟩
  · exact h_other h_same
  · obtain rfl := Option.some.inj (h_record.symm.trans h_before)
    cases h_free.symm.trans h_owned

end Replaced

/-- **The last part of putting an interaction on record**: its own id is retired, and it is kept in
memory and stored. -/
def record (i : Interaction) : Program Session Unit := do
  let _ ← retire i.id
  keep i.group i
  let config ← Session.readConfig
  match ← Program.tryAsk (.storageSet (config.storageKey i.group) i.text) with
  | .ok () => return ()
  | .error e => Program.log .error "Error storing interaction data" (some e)

/-- What it comes to after some ids have been retired. -/
theorem record_ends (hr : h.Reliable) {ids : List String} {s₀ : Session} {h₀ : Host}
    (i : Interaction) (h_later : h₀.Later h) (h_memory : s = dropOwned ids s₀)
    (h_scene : h.scene = ids.foldl (Scene.retired s₀.config.collection) h₀.scene)
    (h_forgets : Host.Forgets s₀.config (Drops ids s₀) h₀ h) :
    (record i).Ends s h fun r s' h' => r = .ok () ∧ Replaced (ids ++ [i.id]) i s₀ s' h₀ h' := by
  refine (retire_ends hr i.id).bind ?_ ?_
  · rintro count s' h' h_later' ⟨-, rfl, h_scene', h_forgets'⟩
    subst h_memory
    obtain ⟨key, h_key⟩ : ∃ key, key = s₀.config.storageKey i.group := ⟨_, rfl⟩
    obtain ⟨kept, h_kept⟩ : ∃ kept : Session, kept = { s₀ with
        records := (dropOwned (ids ++ [i.id]) s₀).records.insert i.group i } := ⟨_, rfl⟩
    have h_keep : (keep i.group i).outcome (dropOwned [i.id] (dropOwned ids s₀)) h' =
        (.ok (), kept, h') := by
      rw [h_kept, dropOwned_append]
      rfl
    have h_kept_key : kept.config.storageKey i.group = key := by
      rw [h_key, h_kept]
    have h_all : Host.Forgets s₀.config (Drops (ids ++ [i.id]) s₀) h₀ h' :=
      (h_forgets.trans h_later h_forgets').congr fun _ => drops_append.symm
    -- the text that is stored goes under the key of its group only
    have h_other : ∀ group, group ≠ i.group →
        (h'.perform (.storageSet key i.text)).2.storage.texts.find? (s₀.config.storageKey group) =
          h'.storage.texts.find? (s₀.config.storageKey group) := fun group h_ne =>
      h'.find?_perform_storageSet_of_ne i.text fun h_eq =>
        h_ne (s₀.config.storageKey_injective (h_eq.trans h_key))
    have h_replaced : Replaced (ids ++ [i.id]) i s₀ kept h₀
        (h'.perform (.storageSet key i.text)).2 := by
      refine ⟨h_kept, ?_, fun hs => ?_, fun group h_ne h_kept => ?_,
        fun hs group h_ne h_drops => ?_⟩
      · rw [h'.scene_perform_of_storage (c := .storageSet key i.text) rfl, h_scene', h_scene,
          List.foldl_append]
        rfl
      · rw [← h_key]
        exact Host.find?_perform_storageSet (h_later'.stores (h_later.stores hs)) key i.text
      · rw [h_other group h_ne]
        refine h_all.kept _ fun group' h_drops h_eq => h_kept ?_
        exact s₀.config.storageKey_injective h_eq ▸ h_drops
      · rw [h_other group h_ne]
        exact h_all.gone hs group h_drops
    refine Ends.bind_eq h_keep (Ends.bind_eq (Session.outcome_readConfig _ _) ?_)
    refine Ends.bind_eq (Program.outcome_tryAsk _ _ _) ?_
    rw [h_kept_key]
    cases (h'.perform (.storageSet key i.text)).1 with
    | error e => exact Ends.of_eq (Program.outcome_log _ _ _ _ _) ⟨rfl, h_replaced⟩
    | ok u => exact ⟨rfl, h_replaced⟩
  · rintro e s' h' - ⟨⟨count, h_ok⟩, -⟩
    cases h_ok

/-- **Putting an interaction on record in place of a previous one**, if there is one. -/
def replace (previous : Option Interaction) (i : Interaction) : Program Session Unit := do
  match previous with
  | none => pure ()
  | some previous =>
    if previous.id ≠ i.id then
      let removed ← retire previous.id
      Program.log .debug s!"Retired {previous.id}: {removed} variables removed"
  record i

theorem put_eq (i : Interaction) : put i = (do replace (← get i.group) i) := rfl

/-- **The previous interaction gives way** to the new one. -/
theorem replace_ends (hr : h.Reliable) (previous : Option Interaction) (i : Interaction) :
    (replace previous i).Ends s h fun r s' h' =>
      r = .ok () ∧ Replaced (retiring previous i) i s s' h h' := by
  have h_nothing : Host.Forgets s.config (Drops [] s) h h :=
    (Host.Forgets.refl _ _).congr fun _ => by simp [Drops]
  -- no previous interaction, one with the same id, or one that is retired first
  cases previous with
  | none => exact record_ends hr i (.refl h) (dropOwned_nil s).symm rfl h_nothing
  | some previous =>
    by_cases h_id : previous.id = i.id
    · have h_only : retiring (some previous) i = [] ++ [i.id] := by simp [retiring, h_id]
      simp only [replace, h_id, ne_eq, not_true_eq_false, if_false, h_only]
      exact record_ends hr i (.refl h) (dropOwned_nil s).symm rfl h_nothing
    · have h_both : retiring (some previous) i = [previous.id] ++ [i.id] := by
        simp [retiring, h_id]
      simp only [replace, ne_eq, h_id, not_false_eq_true, if_true, h_both]
      refine (retire_ends hr previous.id).bind ?_ ?_
      · rintro count s₁ h₁ h_later ⟨-, h_memory, h_scene, h_forgets⟩
        refine Ends.bind_eq (Program.outcome_log _ _ _ _ _) ?_
        exact record_ends (h_later.reliable hr) i h_later h_memory h_scene h_forgets
      · rintro e s₁ h₁ - ⟨⟨count, h_ok⟩, -⟩
        cases h_ok

/-- **Putting an interaction on record**: nothing happens if its group has no record in memory and
the stored one cannot be read, and otherwise it takes the place of the group's previous one. -/
theorem put_ends (hr : h.Reliable) (i : Interaction) :
    (put i).Ends s h fun r s' h' =>
      (∃ e, r = .error e) ∧ s.records.find? i.group = none ∧ Loaded i.group h s s' ∧
        h'.scene = h.scene ∧ h'.storage = h.storage ∨
      r = .ok () ∧ ∃ s₁, Loaded i.group h s s₁ ∧
        Replaced (retiring (s₁.records.find? i.group) i) i s₁ s' h h' := by
  rw [put_eq]
  cases h_record : s.records.find? i.group with
  | some previous =>
    have h_get : (get i.group).outcome s h = (.ok (some previous), s, h) := by
      rw [get, Program.outcome_bind_ok (Program.outcome_read _ _), h_record]
      rfl
    refine Ends.bind_eq h_get ((replace_ends hr _ i).mono ?_)
    rintro r s' h' - ⟨h_ok, h_replaced⟩
    rw [← h_record] at h_replaced
    exact Or.inr ⟨h_ok, s, .refl _ _ _, h_replaced⟩
  | none =>
    refine (get_ends i.group).bind ?_ ?_
    · rintro previous s₁ h₁ h_later ⟨h_scene, h_storage, h_loaded, h_found⟩
      refine (replace_ends (h_later.reliable hr) previous i).mono ?_
      rintro r s' h' - ⟨h_ok, h_replaced⟩
      refine Or.inr ⟨h_ok, s₁, h_loaded, ?_⟩
      -- looking the record up has left the scene and the storage alone
      rw [h_found previous rfl]
      refine ⟨h_replaced.memory, h_scene ▸ h_replaced.scene,
        fun hs => h_replaced.stored (h_later.stores hs), fun group h_ne h_kept => ?_,
        fun hs => h_replaced.gone (h_later.stores hs)⟩
      rw [← h_storage]
      exact h_replaced.kept group h_ne h_kept
    · rintro e s' h' - ⟨h_scene, h_storage, h_loaded, -⟩
      exact Or.inl ⟨⟨e, rfl⟩, rfl, h_loaded, h_scene, h_storage⟩

/-! ### Sweeping -/

/-- **Sweeping removes variables**, none of which is set by a reaction. -/
theorem sweep_ends (hr : h.Reliable) :
    sweep.Ends s h fun r s' h' => (∃ count, r = .ok count) ∧ s' = s ∧ h'.storage = h.storage ∧
      ∃ ids, h'.scene = h.scene.discard ids ∧ ∀ id ∈ ids, ∀ node, ¬h.scene.Sets node id := by
  refine Ends.of_eq (outcome_sweep hr.lists rfl (Host.withholds_of_spares hr.removeVariable _)) ?_
  rw [Host.removing_of_spares hr.removeVariable]
  refine ⟨⟨_, rfl⟩, rfl, rfl, _, rfl, fun id h_id node h_sets => ?_⟩
  obtain ⟨v, -, -, h_unused⟩ := Scene.mem_chosen.mp h_id
  rw [Bool.not_eq_true', List.contains_eq_mem] at h_unused
  exact of_decide_eq_false h_unused (mem_inUse.mpr ⟨node, h_sets⟩)

end Records

/-! ### Records that are known -/

namespace Session

open Records (Drops Loaded Replaced)

/-- **The session knows the record of a group**: if it has none in memory, none is stored. -/
def Knows (s : Session) (h : Host) (group : String) : Prop :=
  s.records.find? group = none → h.storage.texts.find? (s.config.storageKey group) = none

variable {s s' : Session} {h h' : Host} {group group' : String}

theorem Knows.congr (h_knows : s.Knows h group) (h_config : s'.config = s.config)
    (h_record : s'.records.find? group = s.records.find? group)
    (h_storage : h'.storage = h.storage) : s'.Knows h' group := by
  intro h_none
  rw [h_config, h_storage]
  exact h_knows (h_record.symm.trans h_none)

/-- **Looking up any record** changes nothing about one that is known. -/
theorem Knows.find?_loaded (h_knows : s.Knows h group) (hs : h.Stores)
    (h_loaded : Loaded group' h s s') : s'.records.find? group = s.records.find? group := by
  rcases h_loaded.memory with rfl | ⟨h_none, i, h_memory⟩
  · rfl
  by_cases h_same : group' = group
  · subst h_same
    rw [h_loaded.nothing hs (h_knows h_none)]
  · rw [h_memory]
    exact Registry.find?_insert_of_ne _ _ h_same

/-- **Putting an interaction on record** leaves every record known that is: a group without a record
afterwards had none before, or has just lost it in the storage as well. -/
theorem Knows.replaced (h_knows : s.Knows h group) (hs : h.Stores) {ids : List String}
    {q : Interaction} (h_replaced : Replaced ids q s s' h h') : s'.Knows h' group := by
  intro h_none
  rw [h_replaced.config]
  by_cases h_same : group = q.group
  · rw [h_same, h_replaced.find?_self] at h_none
    cases h_none
  by_cases h_drops : Drops ids s group
  · exact h_replaced.gone hs group h_same h_drops
  · rw [h_replaced.find?_kept h_same h_drops] at h_none
    exact (h_replaced.kept group h_same h_drops).trans (h_knows h_none)

end Session

end Clickwork
