import Clickwork.Proofs.Bookkeeping

/-!
# Beginning a new session

A session looks a record up in its memory first, a session that has just begun looks it up in the
storage. Both find the same (`World.restarted_after`), however messages put interactions on record,
retire them and have them forgotten: what is in memory has a text in the storage that reads as it
(`Config.Mirrors`). An interaction that is put on record was read from a payload, or is nested in
one that was, and its text reads back (`Records.parse_text`).

There is one exception. A nested action may be empty, and it becomes the primary action of the
interaction that carries it out, which must not be empty to be read. That interaction is on record
as long as the session lasts, and its text is discarded by the next one (`World.record_unread`).
-/

namespace Clickwork

/-! ### What is in memory is in the storage -/

/-- **What is in memory is in the storage** too, under a configuration: for every record there is a
text that reads as it, and there are no texts that do not read as interactions. -/
structure Config.Mirrors (config : Config) (records : Registry String Interaction)
    (texts : Registry String String) : Prop where
  legible : ∀ group text, texts.find? (config.storageKey group) = some text →
    ∃ i, Records.parse config.limits text = .ok i
  stored : ∀ group i, records.find? group = some i → ∃ text,
    texts.find? (config.storageKey group) = some text ∧ Records.parse config.limits text = .ok i

namespace Config.Mirrors

variable {config : Config} {records : Registry String Interaction}
  {texts : Registry String String} {s : Session} {h : Host}

/-- Without records in memory nothing is to be found in the storage. -/
theorem fresh (h_mirrors : config.Mirrors records texts) : config.Mirrors ∅ texts :=
  ⟨h_mirrors.legible, fun _ _ h_none => nomatch h_none⟩

/-- **Looking up, forgetting and putting on record** what reads back. -/
theorem bookkeeping (config : Config) :
    Bookkeeping config (fun i => Records.parse config.limits i.text = .ok i) config.Mirrors where
  load {records texts group text i} h_mirrors _ h_text h_parse := by
    refine ⟨h_mirrors.legible, fun group' j hj => ?_⟩
    rw [Registry.find?_insert] at hj
    split at hj
    · obtain rfl := Option.some.inj hj
      exact ⟨text, ‹group = group'› ▸ h_text, h_parse⟩
    · exact h_mirrors.stored group' j hj
  delete {records texts} group h_mirrors := by
    -- different groups have different keys, so no other text is deleted
    refine ⟨fun group' text h_text => ?_, fun group' j hj => ?_⟩
    · rw [Registry.find?_erase] at h_text
      split at h_text
      · cases h_text
      · exact h_mirrors.legible group' text h_text
    · rw [Registry.find?_erase] at hj ⊢
      split at hj
      · cases hj
      · rw [if_neg fun h_key => ‹group ≠ group'› (config.storageKey_injective h_key)]
        exact h_mirrors.stored group' j hj
  store {records texts i} h_mirrors h_parse := by
    refine ⟨fun group text h_text => ?_, fun group j hj => ?_⟩
    · rw [Registry.find?_insert] at h_text
      split at h_text
      · exact ⟨i, Option.some.inj h_text ▸ h_parse⟩
      · exact h_mirrors.legible group text h_text
    · rw [Registry.find?_insert] at hj ⊢
      split at hj
      · obtain rfl := Option.some.inj hj
        exact ⟨i.text, if_pos (congrArg config.storageKey ‹i.group = group›), h_parse⟩
      · rw [if_neg fun h_key => ‹i.group ≠ group› (config.storageKey_injective h_key)]
        exact h_mirrors.stored group j hj

/-- **A record is found in memory or in the storage**, and it is the same in both. -/
theorem recorded_eq (hI : s.Books config config.Mirrors h) (group : String) :
    ∃ found, s.recorded h group = .ok found ∧ h.recorded config group = .ok found := by
  cases h_record : s.records.find? group with
  | some i =>
    obtain ⟨text, h_text, h_parse⟩ := hI.kept.stored group i h_record
    exact ⟨some i, Session.recorded_of_find? h_record, Host.recorded_of_parse h_text h_parse⟩
  | none =>
    rw [Session.recorded_of_absent h_record, hI.configured]
    cases h_text : h.storage.texts.find? (config.storageKey group) with
    | none => exact ⟨none, Host.recorded_of_absent h_text, Host.recorded_of_absent h_text⟩
    | some text =>
      obtain ⟨i, h_parse⟩ := hI.kept.legible group text h_text
      exact ⟨some i, Host.recorded_of_parse h_text h_parse, Host.recorded_of_parse h_text h_parse⟩

end Config.Mirrors

/-- **What is in the storage is in memory** too, under a configuration. -/
def Config.Holds (config : Config) (records : Registry String Interaction)
    (texts : Registry String String) : Prop :=
  ∀ group text, texts.find? (config.storageKey group) = some text →
    ∃ i, records.find? group = some i ∧ Records.parse config.limits text = .ok i

/-- Nothing is looked up that is not in memory, and what is put on record reads back. -/
theorem Config.Holds.bookkeeping (config : Config) :
    Bookkeeping config (fun i => Records.parse config.limits i.text = .ok i) config.Holds where
  load {records texts group text i} h_holds h_absent h_text _ := by
    obtain ⟨j, hj, -⟩ := h_holds group text h_text
    cases h_absent.symm.trans hj
  delete {records texts} group h_holds := by
    intro group' text h_text
    rw [Registry.find?_erase] at h_text ⊢
    split at h_text
    · cases h_text
    · rw [if_neg fun h_group => ‹¬_› (congrArg config.storageKey h_group)]
      exact h_holds group' text h_text
  store {records texts i} h_holds h_parse := by
    intro group text h_text
    rw [Registry.find?_insert] at h_text ⊢
    split at h_text
    · rw [if_pos (config.storageKey_injective ‹_›)]
      exact ⟨i, rfl, Option.some.inj h_text ▸ h_parse⟩
    · rw [if_neg fun h_group => ‹¬_› (congrArg config.storageKey h_group)]
      exact h_holds group text h_text

/-! ### Messages -/

theorem Envelope.data_of_ofJson {v : Json} {e : Envelope} (h : ofJson v = .ok e) :
    e.data = (v.field? "data").getD .null := by
  unfold ofJson at h
  split at h
  · split at h
    · split at h
      · cases h
      · cases h
        rfl
    · cases h
  · cases h

namespace Inbound

variable {limits : Json.Limits} {inbound : Inbound} {e : Envelope}

/-- **A message that a reader can return**, unless it is a text that is still to be read. -/
def Sound (limits : Json.Limits) : Inbound → Prop
  | raw message => message.Sound limits
  | envelope e => e.data.Sound limits

/-- **What a message carries can be returned by a reader**, in particular if it was just read. -/
theorem Sound.toEnvelope (h_sound : inbound.Sound limits)
    (h : inbound.toEnvelope limits = .ok e) : e.data.Sound limits := by
  -- however the message came, its data is a field of an object, or empty
  have h_object {v : Json} (hv : v.Sound limits)
      (h : (Envelope.ofJson v).mapError Failure.protocol = .ok e) : e.data.Sound limits := by
    cases h_reads : Envelope.ofJson v with
    | error fault =>
      rw [h_reads] at h
      cases h
    | ok e' =>
      rw [h_reads] at h
      obtain rfl : e' = e := Except.ok.inj h
      rw [Envelope.data_of_ofJson h_reads]
      cases h_field : v.field? "data" with
      | none => exact ⟨trivial, trivial⟩
      | some data => exact Json.SoundAt.outward (hv.field? h_field) (Nat.zero_le _)
  cases inbound with
  | envelope e' =>
    obtain rfl : e' = e := Except.ok.inj h
    exact h_sound
  | raw message =>
    cases message with
    | str text =>
      simp only [Inbound.toEnvelope, Envelope.decode] at h
      split at h
      · exact h_object (Json.sound_of_read ‹_›) h
      · cases h
      · cases h
    | null | bool | int | float | arr | obj => exact h_object h_sound h

/-- **A message whose payload is kept word for word** if it is an interaction: a reader can return
it, it has no floats, and no nested action of it is empty. -/
structure Storable (limits : Json.Limits) (inbound : Inbound) : Prop where
  sound : inbound.Sound limits
  free : ∀ e, inbound.toEnvelope limits = .ok e → e.data.FloatFree
  spoken : ∀ i, inbound.Asks limits i → ∀ a ∈ i.nestedActions, a.action ≠ ""

/-- **What such a message asks for reads back.** -/
theorem Storable.parse_text (h_ample : limits.Ample) (h : inbound.Storable limits)
    {i part : Interaction} (h_asks : inbound.Asks limits i) (h_part : i.Comprises part) :
    Records.parse limits part.text = .ok part := by
  obtain ⟨e, h_decodes, h_reads⟩ := h_asks
  have h_main : i.Storable limits := Interaction.storable_of_ofJson h_ample
    (Json.exactAt_of_sound (h.free e h_decodes) (h.sound.toEnvelope h_decodes)) h_reads
  rcases h_part with rfl | ⟨a, ha, rfl⟩
  · exact Records.parse_text h_main
  · exact Records.parse_text (h_main.nested ha (h.spoken i ⟨e, h_decodes, h_reads⟩ a ha))

/-- **The message that asks for an interaction** is kept word for word, if the interaction can be
stored and its nested actions are not empty. -/
theorem storable_authoring {i : Interaction} (h_storable : i.Storable limits)
    (h_spoken : ∀ a ∈ i.nestedActions, a.action ≠ "") : (authoring i).Storable limits where
  sound := h_storable.exactAt.sound
  free e h := by
    cases h
    exact h_storable.exactAt.floatFree
  spoken _ h_asks := eq_of_asks_authoring h_storable h_asks ▸ h_spoken

end Inbound

/-- The interaction that switches groups on can be stored. -/
theorem Interaction.storable_switchingOn {limits : Json.Limits} {group : String} {t : Int}
    {others : List String} (h_room : limits.HasRoom 2) (h_group : group ≠ "")
    (h_others : "" ∉ others) : (switchingOn group t others).Storable limits where
  room := h_room
  id h_empty := by
    have h_length := congrArg String.length h_empty
    simp [switchingOn, freshId] at h_length
    exact absurd h_length.1.2 (by decide)
  group := h_group
  primaryAction := by simp [switchingOn]
  rules := nofun
  targets a ha h_target := by
    obtain ⟨other, h_mem, rfl⟩ := List.mem_map.mp ha
    exact h_others (h_target ▸ h_mem)

/-! ### Worlds -/

/-- **A move after which what is on record can be found again**: the storage works, and what a
message asks for is kept word for word. -/
structure Move.Durable (config : Config) (m : Move) : Prop where
  lasting : m.Lasting config
  storable : ∀ inbound, m = .message inbound → inbound.Storable config.limits

/-- What a message asks for reads back after such a move. -/
theorem Move.Durable.parse_text {config : Config} {m : Move} {i part : Interaction}
    (h_ample : config.limits.Ample) (hm : m.Durable config) (h_asks : m.Asks config.limits i)
    (h_part : i.Comprises part) : Records.parse config.limits part.text = .ok part := by
  cases m with
  | message inbound => exact (hm.storable inbound rfl).parse_text h_ample h_asks h_part
  | notice | select | click | restart | failOn | outage => exact h_asks.elim

namespace World

/-- **A session that begins with nothing stored** has in memory what is stored later. -/
theorem loaded_after (w : World Unit) (moves : List Move) (h_stores : w.host.Stores)
    (h_storage : w.host.storage.texts = ∅) (h_ample : w.current.config.limits.Ample)
    (h_moves : ∀ m ∈ moves, m.Durable w.current.config) (h_one : ∀ s, .restart s ∉ moves)
    (group : String) {i : Interaction}
    (h_found : (w.after moves).host.recorded w.current.config group = .ok (some i)) :
    (w.after moves).current.records.find? group = some i := by
  have h_first : w.current.Books w.current.config w.current.config.Holds w.host := by
    refine ⟨rfl, h_stores, ?_⟩
    rw [h_storage]
    exact fun _ _ h_none => nomatch h_none
  have hI := books_after (Config.Holds.bookkeeping _) (fun s h_mem => absurd h_mem (h_one s)) h_first
    (fun m hm => (h_moves m hm).lasting)
    fun m hm i h_asks part h_part => (h_moves m hm).parse_text h_ample h_asks h_part
  obtain ⟨text, h_text, h_parse⟩ := Host.stored_of_recorded h_found
  obtain ⟨j, hj, h_parse'⟩ := hI.kept group text h_text
  rwa [← Except.ok.inj (h_parse'.symm.trans h_parse)]

/-- **A new session finds what is on record.** Let a session begin with nothing in a storage that
works. Messages come in, of payloads without floats whose nested actions are not empty; selections
and clicks, failures of anything but the storage, and further sessions are in between. Then a new
session finds the same record for every group as the one that is running, or none for both. -/
theorem restarted_after (w : World Unit) (moves : List Move) (s : Session)
    (h_stores : w.host.Stores) (h_storage : w.host.storage.texts = ∅)
    (h_records : w.current.records = ∅) (h_ample : w.current.config.limits.Ample)
    (h_moves : ∀ m ∈ moves, m.Durable w.current.config)
    (h_config : s.config = w.current.config) (h_new : s.records = ∅) (group : String) :
    let w' := w.after moves
    ∃ found, ((Records.get group).outcome w'.current w'.host).1 = .ok found ∧
      ((Records.get group).outcome s w'.host).1 = .ok found := by
  intro w'
  have h_first : w.current.Books w.current.config w.current.config.Mirrors w.host := by
    refine ⟨rfl, h_stores, ?_⟩
    rw [h_records, h_storage]
    exact { legible := nofun, stored := nofun }
  have hI : w'.current.Books w.current.config w.current.config.Mirrors w'.host := by
    refine books_after (Config.Mirrors.bookkeeping _) (fun _ _ => Config.Mirrors.fresh) h_first
      (fun m hm => (h_moves m hm).lasting) fun m hm i h_asks part h_part => ?_
    exact (h_moves m hm).parse_text h_ample h_asks h_part
  obtain ⟨found, h_running, h_stored⟩ := Config.Mirrors.recorded_eq hI group
  refine ⟨found, (Records.get_recalls hI.stores group).1.trans h_running,
    (Records.get_recalls hI.stores group).1.trans ?_⟩
  rw [Session.recorded_of_absent (by rw [h_new]; rfl), h_config]
  exact h_stored

/-- The record of a group that is nested in an interaction is found by a new session. -/
theorem restarted_after_nesting :
    let moves : List Move := [.notice, .message (.authoring (.switchingOn "tabs" 1 ["badges"])),
      .click "tab-1", .notice, .message (.authoring (.switchingOn "tabs" 1 ["badges"]))]
    let w := panel.after moves
    ∃ i, i.id = "tabs_1_nested_badges" ∧
      ((Records.get "badges").outcome w.current w.host).1 = .ok (some i) ∧
      ((Records.get "badges").outcome (.start {} []) w.host).1 = .ok (some i) := by
  intro moves w
  have h_asks : (Move.message (.authoring (.switchingOn "tabs" 1 ["badges"]))).Durable {} := by
    refine ⟨trivial, fun inbound h_same => ?_⟩
    obtain rfl := Move.message.inj h_same
    refine Inbound.storable_authoring (Interaction.storable_switchingOn rfl ?_ ?_) ?_ <;>
      simp [Interaction.switchingOn]
  have h_moves : ∀ m ∈ moves, m.Durable panel.current.config := by
    intro m hm
    simp only [moves, List.mem_cons, List.not_mem_nil, or_false] at hm
    rcases hm with rfl | rfl | rfl | rfl | rfl
    · exact ⟨trivial, nofun⟩
    · exact h_asks
    · exact ⟨trivial, nofun⟩
    · exact ⟨trivial, nofun⟩
    · exact h_asks
  obtain ⟨found, h_running, h_new⟩ := restarted_after panel moves (.start {} [])
    stores_panel rfl rfl Json.Limits.ample_standard h_moves rfl rfl "badges"
  obtain ⟨i, h_found, h_id⟩ : ∃ i, ((Records.get "badges").outcome w.current w.host).1 =
      .ok (some i) ∧ i.id = "tabs_1_nested_badges" :=
    Records.exists_of_id (by decide +kernel)
  rw [← Except.ok.inj (h_found.symm.trans h_running)] at h_new
  exact ⟨i, h_id, h_found, h_new⟩

/-- **A record that the next session cannot read.** The nested action is empty, so the interaction
that carries it out has no primary action. -/
theorem record_unread :
    let w := panel.after [.notice, .message (.authoring
      { id := "tabs_1", group := "tabs", primaryAction := "State=On"
        nestedActions := [⟨"badges", ""⟩] })]
    ((Records.get "badges").outcome w.current w.host).1.toOption.join.map (·.id) =
        some "tabs_1_nested_badges" ∧
      ((Records.get "badges").outcome (.start {} []) w.host).1 = .ok none := by
  intro w
  have h_stores : w.host.Stores :=
    (stores_after stores_panel (by simp [Move.Lasting])).2
  have h_text : w.host.storage.texts.find? "interaction_badges" = some (Interaction.text
      { id := "tabs_1_nested_badges", group := "badges", primaryAction := "" }) := by
    decide +kernel
  have h_discarded : w.host.recorded {} "badges" = .ok none :=
    Host.recorded_of_discards h_text
      (Records.parse_text_of_empty rfl nofun (by decide) (by decide) rfl) rfl
  exact ⟨by decide +kernel, (Records.get_recalls h_stores "badges").1.trans h_discarded⟩

end World

end Clickwork
