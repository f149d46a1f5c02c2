import Clickwork.Proofs.Alike
import Clickwork.Proofs.Effects
import Clickwork.Proofs.Handling

/-!
# The footprint of authoring

Of the memory of its session, carrying out an interaction reads the configuration, the groups of its
nested actions in the context, and some of the records: those of the groups that are wired, and
those that belong to an interaction which is retired. This is its footprint (`Footprint`), as it can
be told when the interaction is asked for (`Footprint.of`).

Carrying out does alike on memories that agree on the footprint (`Footprint.carryOut_alike`). Other
records may differ, as long as they belong to no interaction that may be retired.
-/

namespace Clickwork

open Program

instance {κ α : Type} [DecidableEq κ] [DecidableEq α] : DecidableEq (Registry κ α) :=
  fun _ _ => decidable_of_iff _ Registry.ext_iff.symm

deriving instance DecidableEq for Group

/-- The id of the interaction that a stored text holds. -/
def Records.storedId? (limits : Json.Limits) (text : String) : Option String :=
  (parse limits text).toOption.map (·.id)

/-- **What carrying out an interaction has to do with.** -/
structure Footprint where
  interaction : Interaction
  config : Config
  /-- The context in which the interaction is asked for. -/
  context : Context
  /-- The interactions that may be retired. -/
  ids : List String
  /-- The groups whose records may be replaced or dropped. -/
  groups : List String
  covers : ∀ part ∈ interaction.parts, part.group ∈ groups ∧ part.id ∈ ids ∧
    ∀ id, Records.storedId? config.limits part.text = some id → id ∈ ids

namespace Footprint

variable (F : Footprint)

/-- A record of an interaction that belongs to none of those which may be retired. -/
def Foreign (r : Interaction) : Prop :=
  ∀ id ∈ F.ids, Records.ownedBy id r.id = false

instance (r : Interaction) : Decidable (F.Foreign r) :=
  inferInstanceAs (Decidable (∀ id ∈ F.ids, _ = false))

/-- The records in the footprint. -/
def restrict (records : Registry String Interaction) : Registry String Interaction :=
  records.filter fun group _ => decide (group ∈ F.groups)

/-- The groups of the nested actions are as they were when the interaction was asked for. -/
def Recalls (s : Session) : Prop :=
  ∀ action ∈ F.interaction.nestedActions,
    s.context.group action.target = F.context.group action.target

instance (s : Session) : Decidable (F.Recalls s) :=
  inferInstanceAs (Decidable (∀ action ∈ F.interaction.nestedActions, _ = _))

/-- **A memory on which the interaction can be carried out** as it was asked for: the groups of its
nested actions are as they were, and what is retired is in the footprint. -/
structure Fits (s : Session) : Prop where
  config : s.config = F.config
  recalls : F.Recalls s
  foreign : ∀ group r, s.records.find? group = some r → group ∉ F.groups → F.Foreign r
  retired : ∀ part ∈ F.interaction.parts, ∀ r, s.records.find? part.group = some r → r.id ∈ F.ids

/-- What is stored for the groups that are wired is in the footprint. -/
def Stored (h : Host) : Prop :=
  ∀ part ∈ F.interaction.parts, ∀ text,
    h.storage.texts.find? (F.config.storageKey part.group) = some text →
      ∀ id, Records.storedId? F.config.limits text = some id → id ∈ F.ids

/-- **Two memories agree on the footprint**, the second one that of a session which is alone on its
host. -/
structure Agree (s s' : Session) (h : Host) : Prop where
  fits : F.Fits s
  fits' : F.Fits s'
  rest : s.withoutRecords.core = s'.withoutRecords.core
  records : F.restrict s.records = F.restrict s'.records
  stored : F.Stored h

/-- The records of a group in the footprint agree. -/
theorem find?_restrict (records : Registry String Interaction) {group : String}
    (h_group : group ∈ F.groups) : (F.restrict records).find? group = records.find? group := by
  rw [restrict, Registry.find?_filter]
  cases records.find? group with
  | none => rfl
  | some r => simp [h_group]

variable {F} {s s' : Session} {h : Host}

theorem Agree.find? (hE : F.Agree s s' h) {group : String} (h_group : group ∈ F.groups) :
    s.records.find? group = s'.records.find? group := by
  rw [← F.find?_restrict _ h_group, hE.records, F.find?_restrict _ h_group]

/-- **The same records are dropped** when an interaction is retired. -/
theorem Fits.filter_owned (hs : F.Fits s) {interaction : String} (h_id : interaction ∈ F.ids) :
    s.records.filter (fun _ r => Records.ownedBy interaction r.id) =
      (F.restrict s.records).filter fun _ r => Records.ownedBy interaction r.id := by
  rw [restrict, Registry.filter_filter]
  refine Registry.filter_congr fun ⟨group, r⟩ h_mem => ?_
  by_cases h_group : group ∈ F.groups
  · simp [h_group]
  · have h_foreign := hs.foreign group r (Registry.find?_eq_some_iff.mpr h_mem) h_group
    simp [h_group, h_foreign interaction h_id]

/-! ### Changes of the records -/

theorem Fits.forget (hs : F.Fits s) (group : String) :
    F.Fits { s with records := s.records.erase group } := by
  have h_there {group' : String} {r : Interaction}
      (h_find : (s.records.erase group).find? group' = some r) :
      s.records.find? group' = some r := by
    rw [Registry.find?_erase] at h_find
    split at h_find
    · cases h_find
    · exact h_find
  exact ⟨hs.config, hs.recalls, fun group' r h_find => hs.foreign group' r (h_there h_find),
    fun part h_part r h_find => hs.retired part h_part r (h_there h_find)⟩

theorem Fits.keep (hs : F.Fits s) {part i : Interaction} (h_part : part ∈ F.interaction.parts)
    (h_id : i.id ∈ F.ids) : F.Fits { s with records := s.records.insert part.group i } := by
  refine ⟨hs.config, hs.recalls, fun group r h_find h_group => ?_, fun part' h_part' r h_find => ?_⟩
  all_goals
    have h_there : (s.records.insert part.group i).find? _ = some r := h_find
    rw [Registry.find?_insert] at h_there
    split at h_there
  · rename_i h_eq
    exact absurd (h_eq ▸ (F.covers part h_part).1) h_group
  · exact hs.foreign group r h_there h_group
  · rwa [← Option.some.inj h_there]
  · exact hs.retired part' h_part' r h_there

theorem Agree.forget (hE : F.Agree s s' h) (group : String) :
    F.Agree { s with records := s.records.erase group }
      { s' with records := s'.records.erase group } h where
  fits := hE.fits.forget group
  fits' := hE.fits'.forget group
  rest := hE.rest
  records := by
    have h_same := congrArg (·.erase group) hE.records
    simpa only [restrict, ← Registry.filter_erase] using h_same
  stored := hE.stored

theorem Agree.keep (hE : F.Agree s s' h) {part i : Interaction}
    (h_part : part ∈ F.interaction.parts) (h_id : i.id ∈ F.ids) :
    F.Agree { s with records := s.records.insert part.group i }
      { s' with records := s'.records.insert part.group i } h where
  fits := hE.fits.keep h_part h_id
  fits' := hE.fits'.keep h_part h_id
  rest := hE.rest
  records := by
    have h_group : decide (part.group ∈ F.groups) = true := decide_eq_true (F.covers part h_part).1
    have h_same := congrArg (·.insert part.group i) hE.records
    simpa only [restrict, Registry.filter_insert, h_group, if_true] using h_same
  stored := hE.stored

/-- A call stores at most what is in the footprint. -/
theorem Agree.perform (hE : F.Agree s s' h) {c : Call}
    (h_set : ∀ key text, c = .storageSet key text →
      ∀ id, Records.storedId? F.config.limits text = some id → id ∈ F.ids) :
    F.Agree s s' (h.perform c).2 := by
  refine { hE with stored := fun part h_part text h_text => ?_ }
  rcases h.storage_perform c with h_same | ⟨key, text', h_eq, h_stored⟩ | ⟨key, -, h_erased⟩
  · rw [h_same] at h_text
    exact hE.stored part h_part text h_text
  · rw [h_stored, Registry.find?_insert] at h_text
    split at h_text
    · exact Option.some.inj h_text ▸ h_set key text' h_eq
    · exact hE.stored part h_part text h_text
  · rw [h_erased, Registry.find?_erase] at h_text
    split at h_text
    · cases h_text
    · exact hE.stored part h_part text h_text

/-! ### Carrying out -/

/-- **The discipline of reading only the footprint.** -/
def within (F : Footprint) : Discipline Session :=
  .alike F.Agree

namespace Within

theorem permits {c : Call} (h_asks : c ≠ .selection)
    (h_set : ∀ key text, c ≠ .storageSet key text) : F.within.Permits c :=
  Discipline.permits_alike h_asks fun _ _ _ hE =>
    hE.perform fun key text h_eq => absurd h_eq (h_set key text)

theorem permits_retires {c : Call} (hc : c.Retires) : F.within.Permits c :=
  permits (by rintro rfl; exact hc) (by rintro key text rfl; exact hc)

theorem permits_wires {collection : String} {c : Call} (hc : c.Wires collection) :
    F.within.Permits c :=
  permits (by rintro rfl; exact hc) (by rintro key text rfl; exact hc)

theorem sees_config : F.within.Sees Session.config fun _ => True :=
  Discipline.sees_alike _ fun _ _ _ hE => ⟨hE.fits.config.trans hE.fits'.config.symm, trivial⟩

/-! #### Retiring -/

theorem drop_holds (group : String) : F.within.Holds (Records.drop group) := by
  refine Discipline.bind _ (Discipline.modifies_alike fun _ _ _ hE => hE.forget group) fun _ => ?_
  refine sees_config.readConfig fun config _ => ?_
  refine Discipline.bind _ (permits (c := .storageDelete (config.storageKey group)) nofun nofun)
    fun answer => ?_
  split
  · exact .pure _
  · exact Discipline.log _ _ _ _

theorem dropNested_holds {interaction : String} (h_id : interaction ∈ F.ids) :
    F.within.Holds (Records.dropNested interaction) := by
  intro s s' h hE
  refine .read ?_
  dsimp only
  rw [hE.fits.filter_owned h_id, hE.records, ← hE.fits'.filter_owned h_id]
  exact Discipline.Holds.forM _ (fun group _ => drop_holds group) s s' h hE

theorem retire_holds {interaction : String} (h_id : interaction ∈ F.ids) :
    F.within.Holds (Records.retire interaction) :=
  Records.retire_holds sees_config (fun _ => permits_retires) (dropNested_holds h_id)

/-! #### Reading and replacing -/

/-- The text of a group that is wired. -/
theorem stored?_alike {part : Interaction} (h_part : part ∈ F.interaction.parts)
    (hE : F.Agree s s' h) : (Records.stored? part.group).Alike F.Agree
      (fun r s s' h => F.Agree s s' h ∧ ∀ text, r = .ok (some text) →
        ∀ id, Records.storedId? F.config.limits text = some id → id ∈ F.ids)
      s (Records.stored? part.group) s' h := by
  refine .read ?_
  show Alike _ _ (Program.tryAsk (.storageGet (s.config.storageKey part.group)) >>= _) s
    (Program.tryAsk (.storageGet (s'.config.storageKey part.group)) >>= _) s' h
  rw [hE.fits.config, hE.fits'.config]
  refine Alike.bind (R := fun r s s' h' => F.Agree s s' h' ∧ ∀ text, r = .ok (.ok (some text)) →
      h.storage.texts.find? (F.config.storageKey part.group) = some text)
    (.tryAsk nofun hE fun t ht => ⟨ht.perform nofun, fun text h_text => ?_⟩)
    (fun answer t t' h' h_answer => ?_) fun e t t' h' h_answer => ⟨h_answer.1, nofun⟩
  · exact Host.find?_of_perform_storageGet (Except.ok.inj h_text)
  · obtain ⟨hE', h_read⟩ := h_answer
    cases answer with
    | error e => exact .emitLeft (.emitRight (.pure ⟨hE', nofun⟩))
    | ok found =>
      refine .pure ⟨hE', fun text h_text => ?_⟩
      obtain ⟨rfl, -⟩ := Option.filter_eq_some_iff.mp (Except.ok.inj h_text)
      exact hE.stored part h_part text (h_read text rfl)

/-- **What is found on record may be retired.** -/
theorem get_alike {part : Interaction} (h_part : part ∈ F.interaction.parts)
    (hE : F.Agree s s' h) : (Records.get part.group).Alike F.Agree
      (fun r s s' h => F.Agree s s' h ∧ ∀ previous, r = .ok (some previous) → previous.id ∈ F.ids)
      s (Records.get part.group) s' h := by
  refine .read ?_
  rw [hE.find? (F.covers part h_part).1]
  cases h_record : s'.records.find? part.group with
  | some record =>
    refine .pure ⟨hE, fun previous h_eq => ?_⟩
    cases h_eq
    exact hE.fits'.retired part h_part record h_record
  | none =>
    refine (stored?_alike h_part hE).bind (fun found t t' h' h_found => ?_)
      fun e t t' h' h_found => ⟨h_found.1, nofun⟩
    obtain ⟨hE', h_ids⟩ := h_found
    cases found with
    | none => exact .pure ⟨hE', nofun⟩
    | some text =>
      refine .read ?_
      dsimp only
      rw [hE'.fits.config, hE'.fits'.config]
      cases h_parse : Records.parse F.config.limits text with
      | ok i =>
        -- what is read from the storage is kept in memory, under an id of the footprint
        have h_id : i.id ∈ F.ids := h_ids text rfl i.id (by rw [Records.storedId?, h_parse]; rfl)
        refine (Discipline.modifies_alike (E := F.Agree)
          (f := fun s => { s with records := s.records.insert part.group i })
          (fun _ _ _ hE => hE.keep h_part h_id) t t' h' hE').bind (fun _ t t' h' hE'' => ?_)
          fun e t t' h' hE'' => ⟨hE'', nofun⟩
        refine .pure ⟨hE'', fun previous h_eq => ?_⟩
        cases h_eq
        exact h_id
      | error e =>
        dsimp only
        split
        · exact .emitLeft (.emitRight (.pure ⟨hE', nofun⟩))
        · exact .throw ⟨hE', nofun⟩

theorem store_holds {part : Interaction} (h_part : part ∈ F.interaction.parts) :
    F.within.Holds (Records.store part) := by
  obtain ⟨-, h_id, h_text⟩ := F.covers part h_part
  refine Discipline.bind _ (Discipline.modifies_alike fun _ _ _ hE => hE.keep h_part h_id)
    fun _ => ?_
  refine sees_config.readConfig fun config _ => ?_
  refine Discipline.bind _ (Discipline.permits_alike
    (c := .storageSet (config.storageKey part.group) part.text) nofun
    fun s s' h hE => hE.perform fun key text h_eq => ?_) fun answer => ?_
  · cases h_eq
    exact h_text
  · split
    · exact .pure _
    · exact Discipline.log _ _ _ _

theorem put_holds {part : Interaction} (h_part : part ∈ F.interaction.parts) :
    F.within.Holds (Records.put part) := by
  have h_record : F.within.Holds (Records.record part) :=
    Discipline.bind _ (retire_holds (F.covers part h_part).2.1) fun _ => store_holds h_part
  intro s s' h hE
  refine (get_alike h_part hE).bind (fun previous t t' h' h_found => ?_)
    fun _ _ _ _ h_found => h_found.1
  obtain ⟨hE', h_ids⟩ := h_found
  cases previous with
  | none => exact h_record t t' h' hE'
  | some previous =>
    dsimp only
    split
    · exact Discipline.bind _ (retire_holds (h_ids previous rfl))
        (fun _ => Discipline.bind _ (Discipline.log _ _ _ _) fun _ => h_record) t t' h' hE'
    · exact h_record t t' h' hE'

/-! #### Wiring -/

theorem wire_holds {part : Interaction} (h_part : part ∈ F.interaction.parts) (collection : String)
    (g : Group) : F.within.Holds (Authoring.wire collection part g) :=
  Authoring.wire_holds (put_holds h_part) sees_config (fun _ => permits_wires) g

theorem wireNested_holds {action : NestedAction} (h_action : action ∈ F.interaction.nestedActions)
    (collection : String) {g : Group} (hg : g.id = F.interaction.group) :
    F.within.Holds (Authoring.wireNested collection F.interaction g action) := by
  refine Authoring.wireNested_holds (P := fun r => ∀ target, r = .ok target →
    target.id = action.target) (Discipline.sees_alike _ fun s s' _ hE => ⟨?_, ?_⟩)
    fun target h_target h_ne => ?_
  · exact (hE.fits.recalls action h_action).trans (hE.fits'.recalls action h_action).symm
  · exact fun target h_found => (Context.group_eq_ok h_found).2
  · rw [h_target target rfl, hg] at h_ne
    refine wire_holds (List.mem_cons_of_mem _ (List.mem_map_of_mem ?_)) collection target
    exact List.mem_filter.mpr ⟨h_action, decide_eq_true h_ne⟩

theorem proceed_holds {group : Group} (h_group : group.id = F.interaction.group) :
    F.within.Holds (Authoring.proceed F.interaction group) := by
  refine Authoring.proceed_holds sees_config (fun _ => Wiring.ensureCollection_holds
    (permits nofun nofun) (permits nofun nofun)) fun collection => ?_
  exact Authoring.wireAll_holds (wire_holds List.mem_cons_self collection group)
    fun action h_action => wireNested_holds h_action collection h_group

end Within

/-- **Carrying out does alike** on memories that agree on the footprint, if its group is the same in
both. -/
theorem carryOut_alike (hE : F.Agree s s' h)
    (h_group : s.context.group F.interaction.group = s'.context.group F.interaction.group) :
    (Authoring.carryOut F.interaction).Alike F.Agree (fun _ => F.Agree) s
      (Authoring.carryOut F.interaction) s' h := by
  rw [Authoring.carryOut_eq, Authoring.admission_eq]
  refine .read ?_
  show Alike _ _ (Program.lift (s.admitted F.interaction) >>= _) s
    (Program.lift (s'.admitted F.interaction) >>= _) s' h
  rw [Session.admitted_congr h_group]
  cases h_admitted : s'.admitted F.interaction with
  | error e => exact .throw hE
  | ok group =>
    have h_found := (Session.admitted_eq_ok_iff.mp h_admitted).1
    exact Within.proceed_holds (Context.group_eq_ok h_found).2 s s' h hE

/-! ### The footprint at first -/

/-- The ids of the interactions that may be on record for the group of one that is put on record, in
memory or as a text, before and after that. -/
def idsOf (s : Session) (h : Host) (part : Interaction) : List String :=
  part.id :: ((s.records.find? part.group).map (·.id)).toList ++
    (part.text :: (h.storage.texts.find? (s.config.storageKey part.group)).toList).filterMap
      (Records.storedId? s.config.limits)

/-- **The footprint of an interaction that is asked for.** -/
def of (s : Session) (h : Host) (i : Interaction) : Footprint :=
  let ids := i.parts.flatMap (idsOf s h)
  { interaction := i
    config := s.config
    context := s.context
    ids
    groups := i.parts.map (·.group) ++
      (s.records.filter fun _ r => ids.any (Records.ownedBy · r.id)).keys
    covers := by
      intro part h_part
      refine ⟨List.mem_append_left _ (List.mem_map_of_mem h_part), ?_, fun id h_id => ?_⟩
      all_goals refine List.mem_flatMap.mpr ⟨part, h_part, ?_⟩
      · exact List.mem_cons_self
      · exact List.mem_append_right _ (List.mem_filterMap.mpr ⟨_, List.mem_cons_self, h_id⟩) }

/-- **At first a memory agrees with itself.** -/
theorem agree_of (s : Session) (h : Host) (i : Interaction) : (Footprint.of s h i).Agree s s h := by
  have h_ids {part : Interaction} (h_part : part ∈ i.parts) {id : String}
      (h_id : id ∈ idsOf s h part) : id ∈ (Footprint.of s h i).ids :=
    List.mem_flatMap.mpr ⟨part, h_part, h_id⟩
  have h_fits : (Footprint.of s h i).Fits s := by
    refine ⟨rfl, fun _ _ => rfl, fun group r h_find h_group id h_id => ?_,
      fun part h_part r h_find => ?_⟩
    · by_contra h_owned
      refine h_group (List.mem_append_right _ (Registry.mem_keys_iff.mpr ⟨r, ?_⟩))
      rw [Registry.find?_filter, h_find]
      refine Option.filter_eq_some_iff.mpr ⟨rfl, List.any_eq_true.mpr ⟨id, h_id, ?_⟩⟩
      exact Bool.of_not_eq_false h_owned
    · refine h_ids h_part (List.mem_append_left _ (List.mem_cons_of_mem _ ?_))
      rw [h_find]
      exact List.mem_singleton_self _
  refine ⟨h_fits, h_fits, rfl, rfl, fun part h_part text h_text id h_id => ?_⟩
  refine h_ids h_part (List.mem_append_right _ (List.mem_filterMap.mpr ⟨text, ?_, h_id⟩))
  rw [show h.storage.texts.find? (s.config.storageKey part.group) = some text from h_text]
  exact List.mem_cons_of_mem _ (List.mem_singleton_self _)

end Footprint

end Clickwork
