import Clickwork.Proofs.Bookkeeping

/-!
# Records on a host that fails

Any call may be made to fail. Whatever fails, looking a record up adds at most what is stored
(`Records.get_finds`), retiring an interaction drops the records that belong to it
(`Records.retire_drops`), and putting one on record gets as far as `Records.Putting` says
(`Records.put_gets`): it gives up while the previous interaction is looked up or retired, or it
keeps the new one.

What a look-up answers once no call is made to fail (`Session.found`) depends on the record in
memory and on the stored text only.
-/

namespace Clickwork

open Program (Ends)

/-! ### Calls that leave the storage alone -/

namespace Host

theorem storage_perform_of_scene (h : Host) {c : Call} (hc : c.method.isStorage = false) :
    (h.perform c).2.storage = h.storage := by
  rcases h.storage_perform c with h_same | ⟨key, text, rfl, -⟩ | ⟨key, rfl, -⟩
  · exact h_same
  · cases hc
  · cases hc

/-- **Texts may have been deleted, but none was stored.** -/
def Sheds (h h' : Host) : Prop :=
  ∀ key text, h'.storage.texts.find? key = some text → h.storage.texts.find? key = some text

theorem Sheds.of_storage {h h' : Host} (h_storage : h'.storage = h.storage) : h.Sheds h' :=
  fun _ _ h_text => h_storage ▸ h_text

theorem Sheds.trans {h₁ h₂ h₃ : Host} (h : h₁.Sheds h₂) (h' : h₂.Sheds h₃) : h₁.Sheds h₃ :=
  fun key text h_text => h key text (h' key text h_text)

/-- A call that stores no text sheds texts at most. -/
theorem sheds_perform (h : Host) {c : Call} (hc : c.method ≠ .storageSet) :
    h.Sheds (h.perform c).2 := by
  rcases h.storage_perform c with h_same | ⟨key, text, rfl, -⟩ | ⟨key, -, h_erased⟩
  · exact .of_storage h_same
  · exact absurd rfl hc
  · intro key' text h_text
    rw [h_erased] at h_text
    simp only [Registry.find?_erase] at h_text
    split at h_text
    · cases h_text
    · exact h_text

/-- **The host when no call is made to fail any more.** -/
def healed (h : Host) : Host :=
  { h with faults := ∅ }

theorem Forgets.of_storage {config : Config} {dropped : String → Prop} {h h' h'' : Host}
    (hf : Forgets config dropped h h') (h_storage : h''.storage = h'.storage) :
    Forgets config dropped h h'' := by
  constructor
  · rw [h_storage]
    exact hf.kept
  · rw [h_storage]
    exact hf.gone

theorem stores_healed {h : Host} (h_available : h.storage.unavailable = false) : h.healed.Stores :=
  ⟨h_available, fun _ _ => rfl⟩

end Host

/-! ### What is found -/

namespace Session

/-- **What a look-up answers** when no call is made to fail. -/
def found (s : Session) (h : Host) (group : String) : Except Failure (Option Interaction) :=
  ((Records.get group).outcome s h.healed).1

variable {s s' : Session} {h h' : Host} {group : String}

/-- **What is on record is found** in a storage that is there. -/
theorem found_of_available (h_available : h.storage.unavailable = false) :
    s.found h group = s.recorded h group :=
  (Records.get_recalls (Host.stores_healed h_available) group).1

theorem found_of_find? {i : Interaction} (hi : s.records.find? group = some i) :
    s.found h group = .ok (some i) := by
  rw [found, Records.get, Program.outcome_bind_ok (Program.outcome_read _ _), hi]
  rfl

/-- What is not in memory is not found while the storage is away. -/
theorem found_of_unavailable (h_away : h.storage.unavailable = true)
    (h_none : s.records.find? group = none) : s.found h group = .ok none := by
  have h_refused : (h.healed.perform (.storageGet (s.config.storageKey group))).1 =
      .error (.host .storageUnavailable) := by
    rw [Host.perform_of_spares (show h.healed.Spares .storageGet from rfl)]
    exact if_pos h_away
  have h_stored : (Records.stored? group).Ends s h.healed fun r _ _ => r = .ok none := by
    rw [Records.stored?]
    refine Ends.bind_eq (outcome_readConfig _ _) (Ends.bind_eq (Program.outcome_tryAsk _ _ _) ?_)
    rw [h_refused]
    exact Ends.bind_eq (Program.outcome_log _ _ _ _ _) rfl
  have h_get : (Records.get group).Ends s h.healed fun r _ _ => r = .ok none := by
    rw [Records.get]
    refine Ends.bind_eq (Program.outcome_read _ _) ?_
    rw [h_none]
    refine h_stored.bind ?_ ?_
    · rintro text s' h' - h_text
      rw [Except.ok.inj h_text]
      rfl
    · rintro e s' h' - h_error
      cases h_error
  exact h_get

/-- **What is found depends on the record in memory and the stored text.** -/
theorem found_congr (h_config : s'.config = s.config)
    (h_record : s'.records.find? group = s.records.find? group)
    (h_text : h'.storage.texts.find? (s.config.storageKey group) =
      h.storage.texts.find? (s.config.storageKey group))
    (h_away : h'.storage.unavailable = h.storage.unavailable) :
    s'.found h' group = s.found h group := by
  cases h_storage : h.storage.unavailable with
  | false =>
    rw [found_of_available h_storage, found_of_available (h_away.trans h_storage)]
    exact recorded_congr h_config h_record h_text
  | true =>
    cases h_memory : s.records.find? group with
    | some i => rw [found_of_find? h_memory, found_of_find? (h_record.trans h_memory)]
    | none =>
      rw [found_of_unavailable h_storage h_memory,
        found_of_unavailable (h_away.trans h_storage) (h_record.trans h_memory)]

/-- **The memory after a look-up that may have failed**: as it was, or with what was stored. -/
def Looked (group : String) (h : Host) (s s' : Session) : Prop :=
  s' = s ∨ h.storage.unavailable = false ∧ s' = s.recalling h group

theorem Looked.config (h_looked : Looked group h s s') : s'.config = s.config := by
  rcases h_looked with rfl | ⟨-, rfl⟩
  · rfl
  · exact config_recalling _ _ _

theorem Looked.context (h_looked : Looked group h s s') : s'.context = s.context := by
  rcases h_looked with rfl | ⟨-, rfl⟩
  · rfl
  · exact context_recalling _ _ _

/-- The same is found after a look-up. -/
theorem Looked.found (h_looked : Looked group h s s') (group' : String) :
    s'.found h group' = s.found h group' := by
  rcases h_looked with rfl | ⟨h_available, rfl⟩
  · rfl
  · rw [found_of_available h_available, found_of_available h_available, recorded_recalling]

end Session

namespace Records

open Session (Looked)

variable {s : Session} {h : Host}

/-! ### Reading -/

/-- The stored text of a group is found, or the storage cannot be read. -/
theorem stored?_reads (group : String) :
    (stored? group).Ends s h fun r s' h' => s' = s ∧ h'.storage = h.storage ∧
      (r = .ok none ∨ h.storage.unavailable = false ∧
        r = .ok ((h.storage.texts.find? (s.config.storageKey group)).filter (!·.isEmpty))) := by
  obtain ⟨key, h_key⟩ : ∃ key, key = s.config.storageKey group := ⟨_, rfl⟩
  have h_storage := h.storage_perform_storageGet key
  have h_answer : (∃ e, (h.perform (.storageGet key)).1 = .error e) ∨
      h.storage.unavailable = false ∧
        (h.perform (.storageGet key)).1 = .ok (h.storage.texts.find? key) := by
    obtain ⟨faults, -, h_eq | ⟨e, h_eq⟩⟩ := h.perform_cases (.storageGet key) <;> rw [h_eq]
    · cases h_away : h.storage.unavailable with
      | true => exact .inl ⟨_, if_pos h_away⟩
      | false => exact .inr ⟨rfl, if_neg (h_away ▸ Bool.false_ne_true)⟩
    · exact .inl ⟨e, rfl⟩
  rw [stored?, ← h_key]
  refine Ends.bind_eq (Session.outcome_readConfig _ _) ?_
  rw [← h_key]
  refine Ends.bind_eq (Program.outcome_tryAsk _ _ _) ?_
  rcases h_answer with ⟨e, h_error⟩ | ⟨h_available, h_text⟩
  · rw [h_error]
    exact Ends.bind_eq (Program.outcome_log _ _ _ _ _) ⟨rfl, h_storage, .inl rfl⟩
  · rw [h_text]
    exact ⟨rfl, h_storage, .inr ⟨h_available, rfl⟩⟩

/-- **Looking up the record of a group**, whatever fails. The look-up itself fails only if the
record cannot be read. -/
theorem get_finds (group : String) :
    (get group).Ends s h fun r s' h' => h'.storage = h.storage ∧ Looked group h s s' ∧
      (∀ found, r = .ok found → s'.records.find? group = found) ∧
      ∀ e, r = .error e → s.recorded h group = .error e := by
  suffices h_looked : (get group).Ends s h fun r s' _ =>
      Looked group h s s' ∧ ∀ e, r = .error e → s.recorded h group = .error e by
    refine (Ends.and (get_ends group) h_looked).mono ?_
    rintro r s' h' - ⟨⟨_, h_storage, _, h_found⟩, h_looked, h_failed⟩
    exact ⟨h_storage, h_looked, h_found, h_failed⟩
  -- a look-up that has an answer has not failed
  have h_answered (found : Option Interaction) (e : Failure) (h_error : Except.ok found = .error e) :
      s.recorded h group = .error e := by
    cases h_error
  rw [get]
  refine Ends.bind_eq (Program.outcome_read _ _) ?_
  rcases h_record : s.records.find? group with _ | record
  swap
  · exact ⟨.inl rfl, h_answered _⟩
  refine (stored?_reads group).bind ?_ ?_
  swap
  · rintro e s' h' - ⟨-, -, h_none | ⟨-, h_some⟩⟩
    · cases h_none
    · cases h_some
  rintro text s' h' - ⟨rfl, -, h_text⟩
  cases text with
  | none => exact ⟨.inl rfl, h_answered _⟩
  | some text =>
    obtain h_none | ⟨h_available, h_some⟩ := h_text
    · cases h_none
    have h_stored : h.storage.texts.find? (s'.config.storageKey group) = some text :=
      (Option.filter_eq_some_iff.mp (Except.ok.inj h_some).symm).1
    have h_recorded := Session.recorded_of_absent (h := h) h_record
    refine Ends.bind_eq (Session.outcome_readConfig _ _) ?_
    cases h_parse : parse s'.config.limits text with
    | ok i =>
      rw [Host.recorded_of_parse h_stored h_parse] at h_recorded
      refine Ends.bind_eq (outcome_keep _ _ _ _) ⟨.inr ⟨h_available, ?_⟩, h_answered _⟩
      rw [Session.recalling, h_recorded]
      exact (if_neg (by rw [Registry.contains, h_record]; exact Bool.false_ne_true)).symm
    | error e =>
      dsimp only
      split
      · exact Ends.bind_eq (Program.outcome_log _ _ _ _ _) ⟨.inl rfl, h_answered _⟩
      · rename_i h_blocks
        refine ⟨.inl rfl, fun e' h_failed => h_recorded.trans ?_⟩
        rw [Host.recorded_of_blocks h_stored h_parse h_blocks]
        exact congrArg _ (Except.error.inj h_failed)

/-! ### Retiring -/

/-- Memory and storage are as they were. -/
def Untouched (s : Session) (h : Host) (s' : Session) (h' : Host) : Prop :=
  s' = s ∧ h'.storage = h.storage

/-- **Calls about the scene leave memory and storage untouched.** -/
theorem permits_untouched {c : Call} (hc : c.method.isStorage = false) :
    (Discipline.keeping (Untouched s h)).Permits c :=
  Discipline.keeping_permits fun _ h' hI => ⟨hI.1, (h'.storage_perform_of_scene hc).trans hI.2⟩

/-- Retiring stores nothing. -/
theorem retire_sheds (interaction : String) :
    (retire interaction).Ends s h fun _ _ h' => h.Sheds h' := by
  -- the one call that stores a text is not made while something is retired
  have h_permits {c : Call} (hc : c.method ≠ .storageSet) :
      (Discipline.keeping fun _ h' => h.Sheds h').Permits c :=
    Discipline.keeping_permits fun _ h' h_sheds => h_sheds.trans (h'.sheds_perform hc)
  have h_sees {τ : Type} (view : Session → τ) :
      (Discipline.keeping fun _ h' => h.Sheds h').Sees view fun _ => True :=
    Discipline.keeping_sees view fun _ _ _ => trivial
  have h_drop (group : String) : (Discipline.keeping fun _ h' => h.Sheds h').Holds (drop group) :=
    drop_holds_of_delete (Program.Keeps.modify fun _ _ h_sheds => h_sheds) (h_sees _)
      fun _ => h_permits (by simp [Call.method])
  have h_retire : (Discipline.keeping fun _ h' => h.Sheds h').Holds (retire interaction) :=
    retire_holds (h_sees _) (fun c hc => h_permits fun h_set => by cases h_set ▸ hc.isStorage)
      (dropNested_holds (h_sees _) h_drop interaction)
  exact h_retire s h fun _ _ h_text => h_text

/-- **Retiring an interaction drops the records that belong to it**, whatever fails. -/
theorem retire_drops (interaction : String) :
    (retire interaction).Ends s h fun _ s' h' => s' = dropOwned [interaction] s ∧
      Host.Forgets s.config (Drops [interaction] s) h h' ∧ h.Sheds h' := by
  suffices h_drops : (retire interaction).Ends s h fun _ s' h' =>
      s' = dropOwned [interaction] s ∧ Host.Forgets s.config (Drops [interaction] s) h h' from
    (h_drops.and (retire_sheds interaction)).mono fun _ _ _ _ ⟨⟨h_memory, h_forgets⟩, h_sheds⟩ =>
      ⟨h_memory, h_forgets, h_sheds⟩
  rw [retire_eq]
  refine (dropNested_ends interaction).bind ?_ fun e s' h' _ h_dropped => h_dropped.2.imp_right And.right
  rintro - s' h' - ⟨-, rfl, -, h_forgets⟩
  -- what is removed from the scene concerns neither memory nor storage
  have h_rest : (removeOwned interaction).Keeps (Untouched (dropOwned [interaction] s) h') :=
    removeOwned_holds (D := .keeping _) (Discipline.keeping_sees _ fun _ _ _ => trivial)
      (fun c hc => permits_untouched hc.isStorage) interaction
  refine (h_rest _ _ ⟨rfl, rfl⟩).mono ?_
  rintro r s'' h'' - ⟨h_memory, h_storage⟩
  exact ⟨h_memory, h_forgets.of_storage h_storage⟩

/-! ### Putting on record -/

/-- **An interaction is kept in memory**, whatever fails. At most its text is stored, and it is if
the storage works. -/
theorem store_keeps (i : Interaction) :
    (store i).Ends s h fun r s' h' => r = .ok () ∧
      s' = { s with records := s.records.insert i.group i } ∧
      (∀ key text, h'.storage.texts.find? key = some text →
        h.storage.texts.find? key = some text ∨
          key = s.config.storageKey i.group ∧ text = i.text) ∧
      (h.Stores → h'.storage.texts.find? (s.config.storageKey i.group) = some i.text) := by
  obtain ⟨stored, h_host⟩ : ∃ stored,
      stored = (h.perform (.storageSet (s.config.storageKey i.group) i.text)).2 := ⟨_, rfl⟩
  have h_texts (key text : String) (h_text : stored.storage.texts.find? key = some text) :
      h.storage.texts.find? key = some text ∨
        key = s.config.storageKey i.group ∧ text = i.text := by
    rw [h_host] at h_text
    rcases h.storage_perform (.storageSet (s.config.storageKey i.group) i.text) with
      h_same | ⟨_, _, h_call, h_stored⟩ | ⟨_, h_call, -⟩
    · exact .inl (h_same ▸ h_text)
    · obtain ⟨rfl, rfl⟩ := Call.storageSet.inj h_call
      rw [h_stored, Registry.find?_insert] at h_text
      split at h_text
      · exact .inr ⟨‹_ = key›.symm, (Option.some.inj h_text).symm⟩
      · exact .inl h_text
    · cases h_call
  have h_stored (hs : h.Stores) :
      stored.storage.texts.find? (s.config.storageKey i.group) = some i.text :=
    h_host ▸ Host.find?_perform_storageSet hs _ _
  -- the memory is changed before the storage is asked, and a refusal is only logged
  rw [store]
  refine Ends.bind_eq (outcome_keep _ _ _ _) (Ends.bind_eq (Session.outcome_readConfig _ _) ?_)
  refine Ends.bind_eq (Program.outcome_tryAsk _ _ _) ?_
  simp only [← h_host]
  cases (h.perform (.storageSet (s.config.storageKey i.group) i.text)).1 with
  | error e => exact Ends.of_eq (Program.outcome_log _ _ _ _ _) ⟨rfl, rfl, h_texts, h_stored⟩
  | ok u => exact ⟨rfl, rfl, h_texts, h_stored⟩

/-- **What was retired on the way to putting an interaction on record**: some of the ids that may
be, after the group's record was looked up. -/
structure Retiring (i : Interaction) (s : Session) (h : Host) (s₁ : Session) (ids : List String)
    (h' : Host) : Prop where
  looked : Looked i.group h s s₁
  among : ∀ id ∈ ids, id ∈ retiring (s₁.records.find? i.group) i
  later : h.Later h'
  forgets : Host.Forgets s.config (Drops ids s₁) h h'
  sheds : h.Sheds h'

/-- **How far putting an interaction on record gets**: it gives up while something is retired, or
keeps the interaction. -/
inductive Putting (i : Interaction) (s : Session) (h : Host) :
    Except Failure Unit → Session → Host → Prop where
  | gaveUp {e : Failure} {s₁ : Session} {ids : List String} {h' : Host}
      (retired : Retiring i s h s₁ ids h') : Putting i s h (.error e) (dropOwned ids s₁) h'
  | kept {s₁ : Session} {ids : List String} {h₁ h' : Host} (retired : Retiring i s h s₁ ids h₁)
      (texts : ∀ key text, h'.storage.texts.find? key = some text →
        h.storage.texts.find? key = some text ∨
          key = s.config.storageKey i.group ∧ text = i.text)
      (stored : h.Stores → h'.storage.texts.find? (s.config.storageKey i.group) = some i.text) :
      Putting i s h (.ok ()) { dropOwned ids s₁ with
        records := (dropOwned ids s₁).records.insert i.group i } h'

namespace Retiring

variable {i : Interaction} {s₁ : Session} {h₁ : Host} {ids : List String}

/-- Nothing was retired when the record had been looked up. -/
theorem start (h_looked : Looked i.group h s s₁) (h_later : h.Later h₁)
    (h_storage : h₁.storage = h.storage) : Retiring i s h s₁ [] h₁ where
  looked := h_looked
  among := by simp
  later := h_later
  forgets := ((Host.Forgets.refl _ _).congr fun _ => by simp [Drops]).of_storage h_storage
  sheds := .of_storage h_storage

theorem config_dropOwned (h_retired : Retiring i s h s₁ ids h₁) :
    (dropOwned ids s₁).config = s.config :=
  h_retired.looked.config

/-- **One more interaction is retired**, whatever fails. -/
theorem retire (h_retired : Retiring i s h s₁ ids h₁) {interaction : String}
    (h_id : interaction ∈ retiring (s₁.records.find? i.group) i) :
    (Records.retire interaction).Ends (dropOwned ids s₁) h₁ fun _ s' h' =>
      s' = dropOwned (ids ++ [interaction]) s₁ ∧
        Retiring i s h s₁ (ids ++ [interaction]) h' := by
  refine (retire_drops interaction).mono ?_
  rintro r s' h' h_later ⟨rfl, h_forgets, h_sheds⟩
  rw [h_retired.config_dropOwned] at h_forgets
  refine ⟨(dropOwned_append _ _ _).symm, h_retired.looked, fun id h_mem => ?_,
    h_retired.later.trans h_later, ?_, h_retired.sheds.trans h_sheds⟩
  · rcases List.mem_append.mp h_mem with h_before | h_own
    · exact h_retired.among id h_before
    · exact List.mem_singleton.mp h_own ▸ h_id
  · exact (h_retired.forgets.trans h_retired.later h_forgets).congr fun _ => drops_append.symm

/-- The last part of putting an interaction on record. -/
theorem record (h_retired : Retiring i s h s₁ ids h₁) :
    (Records.record i).Ends (dropOwned ids s₁) h₁ fun r s' h' => Putting i s h r s' h' := by
  refine (h_retired.retire (mem_retiring.mpr (.inl rfl))).bind ?_ ?_
  · rintro count s' h' - ⟨rfl, h_retired'⟩
    refine (store_keeps i).mono ?_
    rintro r s'' h'' - ⟨rfl, rfl, h_texts, h_stored⟩
    rw [h_retired'.config_dropOwned] at h_texts h_stored
    refine .kept h_retired' (fun key text h_text => ?_) fun hs => h_stored (h_retired'.later.stores hs)
    exact (h_texts key text h_text).imp_left (h_retired'.sheds key text)
  · rintro e s' h' - ⟨rfl, h_retired'⟩
    exact .gaveUp h_retired'

end Retiring

/-- **Putting an interaction on record**, whatever fails. -/
theorem put_gets (i : Interaction) :
    (put i).Ends s h fun r s' h' => Putting i s h r s' h' := by
  rw [put_eq]
  refine (get_finds i.group).bind ?_ ?_
  · rintro previous s₁ h₁ h_later ⟨h_storage, h_looked, h_found, -⟩
    have h_start : Retiring i s h s₁ [] h₁ := .start h_looked h_later h_storage
    have h_record := h_start.record
    rw [dropOwned_nil] at h_record
    -- a previous interaction is retired, unless it has the id of the new one
    cases previous with
    | none => exact h_record
    | some previous =>
      have h_id : previous.id ∈ retiring (s₁.records.find? i.group) i :=
        mem_retiring.mpr (.inr ⟨previous, h_found _ rfl, rfl⟩)
      have h_retire := h_start.retire h_id
      rw [dropOwned_nil] at h_retire
      rw [replace]
      split
      · refine h_retire.bind ?_ ?_
        · rintro count s₂ h₂ - ⟨rfl, h_retired⟩
          exact Ends.bind_eq (Program.outcome_log _ _ _ _ _) h_retired.record
        · rintro e s₂ h₂ - ⟨rfl, h_retired⟩
          exact .gaveUp h_retired
      · exact h_record
  · rintro e s₁ h₁ h_later ⟨h_storage, h_looked, -, -⟩
    have h_start := Putting.gaveUp (e := e) (.start h_looked h_later h_storage)
    rwa [dropOwned_nil] at h_start

end Records

end Clickwork
