import Clickwork.Proofs.Names
import Clickwork.Proofs.Restarted
import Clickwork.Proofs.Traced

/-!
# Records nested in a superseded interaction

An interaction whose group is given another one is retired, and the records of the interactions
nested in it are dropped, in memory and in the storage. Nothing that was nested in it is on record
from then on, in this session or a later one, but what is put on record anew
(`World.dropped_after`).

What is dropped is found in memory. Another session may have stored records that this one has not
looked up; they stay, and are found later (`World.nested_record_left`). So there must be a record in
memory for every group whose stored record is nested in the superseded interaction
(`Config.Traces`).
-/

namespace Clickwork

/-! ### What is nested in an interaction -/

namespace Records

/-- Whether an id is that of an interaction nested in the one of the given id. -/
def nestedIn (interaction id : String) : Bool :=
  (interaction ++ "_nested_").toList.isPrefixOf id.toList

/-- What is nested in an interaction belongs to it. -/
theorem ownedBy_of_nestedIn {interaction id : String} (h : nestedIn interaction id = true) :
    ownedBy interaction id = true := by
  obtain ⟨rest, h_eq⟩ := List.isPrefixOf_iff_prefix.mp h
  rw [ownedBy_iff, ← h_eq, String.toList_append]
  exact ⟨"nested_".toList ++ rest, by simp⟩

end Records

namespace Config

variable (config : Config) (interaction : String) (new : Interaction → Prop)

/-- **A record stems from a new interaction**: it is one, or what the text of one reads as. -/
def Stems (i : Interaction) : Prop :=
  ∃ part, new part ∧ (i = part ∨ Records.parse config.limits part.text = .ok i)

/-- **What is nested in an interaction is not on record**, but for what stems from new ones. -/
structure Drops (records : Registry String Interaction) (texts : Registry String String) :
    Prop where
  memory : ∀ group i, records.find? group = some i → Records.nestedIn interaction i.id = true →
    config.Stems new i
  storage : ∀ group text i, texts.find? (config.storageKey group) = some text →
    Records.parse config.limits text = .ok i → Records.nestedIn interaction i.id = true →
      config.Stems new i

/-- **What is nested in an interaction can be found in memory**, but for what stems from new
ones. -/
def Traces (records : Registry String Interaction) (texts : Registry String String) : Prop :=
  ∀ group text i, texts.find? (config.storageKey group) = some text →
    Records.parse config.limits text = .ok i → Records.nestedIn interaction i.id = true →
      config.Stems new i ∨
        ∃ j, records.find? group = some j ∧ Records.nestedIn interaction j.id = true

variable {config interaction new}

/-- What is not on record is not put on record but anew. -/
theorem Drops.bookkeeping : Bookkeeping config new (config.Drops interaction new) where
  load {records texts group text i} h_drops _ h_text h_parse := by
    -- what is loaded is the parse of the stored text, of which `storage` already tells it
    refine ⟨fun group' j hj h_nested => ?_, h_drops.storage⟩
    rw [Registry.find?_insert] at hj
    split at hj
    · obtain rfl := Option.some.inj hj
      exact h_drops.storage group text i h_text h_parse h_nested
    · exact h_drops.memory group' j hj h_nested
  delete {records texts} group h_drops := by
    refine ⟨fun group' j hj => ?_, fun group' text j h_text => ?_⟩
    · rw [Registry.find?_erase] at hj
      split at hj
      · cases hj
      · exact h_drops.memory group' j hj
    · rw [Registry.find?_erase] at h_text
      split at h_text
      · cases h_text
      · exact h_drops.storage group' text j h_text
  store {records texts i} h_drops h_new := by
    -- the new interaction is itself the one that supersedes, in memory and in the storage alike
    refine ⟨fun group j hj => ?_, fun group text j h_text h_parse => ?_⟩
    · rw [Registry.find?_insert] at hj
      split at hj
      · obtain rfl := Option.some.inj hj
        exact fun _ => ⟨i, h_new, .inl rfl⟩
      · exact h_drops.memory group j hj
    · rw [Registry.find?_insert] at h_text
      split at h_text
      · obtain rfl := Option.some.inj h_text
        exact fun _ => ⟨i, h_new, .inr h_parse⟩
      · exact h_drops.storage group text j h_text h_parse

theorem Drops.fresh {records : Registry String Interaction} {texts : Registry String String}
    (h_drops : config.Drops interaction new records texts) :
    config.Drops interaction new ∅ texts :=
  ⟨nofun, h_drops.storage⟩

end Config

/-! ### Superseding -/

section Superseding

variable {config : Config} {group : String} {p q : Interaction} {new : Interaction → Prop}
  {ids : List String} {s s' : Session} {h h' : Host}

/-- **An interaction waits to be superseded**: it is on record for its group, and what is nested in
it can be found in memory. -/
structure Session.Awaits (config : Config) (group : String) (p : Interaction)
    (new : Interaction → Prop) (s : Session) (h : Host) : Prop where
  recorded : s.recorded h group = .ok (some p)
  traces : config.Traces p.id new s.records h.storage.texts

/-! #### Putting interactions on record -/

section Replaced

variable (h_config : s.config = config) (hs : h.Stores) (h_new : new q)
  (h_replaced : Records.Replaced ids q s s' h h')
include h_config hs h_new h_replaced

/-- What is dropped stays dropped. -/
theorem Config.Drops.replaced (h_drops : config.Drops p.id new s.records h.storage.texts) :
    config.Drops p.id new s'.records h'.storage.texts := by
  subst h_config
  refine ⟨fun group r hr h_nested => ?_, fun group text r h_text h_parse h_nested => ?_⟩
  · rcases h_replaced.of_find? hr with ⟨-, rfl⟩ | ⟨-, h_before, -⟩
    · exact ⟨_, h_new, .inl rfl⟩
    · exact h_drops.memory group r h_before h_nested
  · rcases h_replaced.of_text hs h_text with ⟨-, rfl⟩ | ⟨-, -, h_before⟩
    · exact ⟨q, h_new, .inr h_parse⟩
    · exact h_drops.storage group text r h_before h_parse h_nested

/-- What is retired takes along what is nested in an interaction that belongs to it. -/
theorem Config.Traces.drops (h_traces : config.Traces p.id new s.records h.storage.texts)
    (h_owner : ∀ id, Records.nestedIn p.id id = true → ids.any (Records.ownedBy · id) = true) :
    config.Drops p.id new s'.records h'.storage.texts := by
  subst h_config
  refine ⟨fun group r hr h_nested => ?_, fun group text r h_text h_parse h_nested => ?_⟩
  · rcases h_replaced.of_find? hr with ⟨-, rfl⟩ | ⟨-, -, h_left⟩
    · exact ⟨_, h_new, .inl rfl⟩
    · cases h_left.symm.trans (h_owner r.id h_nested)
  · rcases h_replaced.of_text hs h_text with ⟨-, rfl⟩ | ⟨-, h_kept, h_before⟩
    · exact ⟨q, h_new, .inr h_parse⟩
    · rcases h_traces group text r h_before h_parse h_nested with h_stems | ⟨j, hj, h_nested'⟩
      · exact h_stems
      · exact absurd ⟨j, hj, h_owner j.id h_nested'⟩ h_kept

/-- **Putting another interaction on record** supersedes the interaction, drops it with what is
nested in it, or leaves it waiting. -/
theorem Session.Awaits.replaced (h_awaits : s.Awaits config group p new h)
    (h_own : q.group = group → p.id ∈ ids) :
    q.group ≠ group ∧ s'.Awaits config group p new h' ∨
      config.Drops p.id new s'.records h'.storage.texts := by
  have h_drop {owner : String} (h_mem : owner ∈ ids)
      (h_owns : ∀ id, Records.nestedIn p.id id = true → Records.ownedBy owner id = true) :
      config.Drops p.id new s'.records h'.storage.texts :=
    h_awaits.traces.drops h_config hs h_new h_replaced fun id h_nested =>
      List.any_eq_true.mpr ⟨owner, h_mem, h_owns id h_nested⟩
  by_cases h_mem : p.id ∈ ids
  · exact .inr (h_drop h_mem fun id h_nested => Records.ownedBy_of_nestedIn h_nested)
  have h_other : q.group ≠ group := fun h_same => h_mem (h_own h_same)
  by_cases h_drops : Records.Drops ids s group
  · -- the record is dropped because it belongs to what is retired, and so does what is nested in it
    obtain ⟨record, h_record, h_owned⟩ := h_drops
    obtain ⟨owner, h_owner, h_owns⟩ := List.any_eq_true.mp h_owned
    have h_found := h_awaits.recorded
    rw [Session.recorded_of_find? h_record] at h_found
    obtain rfl := Option.some.inj (Except.ok.inj h_found)
    exact .inr (h_drop h_owner fun id h_nested =>
      Records.ownedBy_trans h_owns (Records.ownedBy_of_nestedIn h_nested))
  · refine .inl ⟨h_other, ?_, fun group' text r h_text h_parse h_nested => ?_⟩
    · exact (h_replaced.recorded_kept (Ne.symm h_other) h_drops).trans h_awaits.recorded
    · subst h_config
      rcases h_replaced.of_text hs h_text with ⟨-, rfl⟩ | ⟨h_group, h_kept, h_before⟩
      · exact .inl ⟨q, h_new, .inr h_parse⟩
      · rw [h_replaced.find?_kept h_group h_kept]
        exact h_awaits.traces group' text r h_before h_parse h_nested

end Replaced

/-- A look-up leaves an interaction waiting. -/
theorem Session.Awaits.recalling (h_awaits : s.Awaits config group p new h) (group' : String) :
    (s.recalling h group').Awaits config group p new h := by
  refine ⟨(s.recorded_recalling h group' group).trans h_awaits.recorded,
    fun group₁ text i h_text h_parse h_nested => ?_⟩
  rcases h_awaits.traces group₁ text i h_text h_parse h_nested with h_stems | ⟨j, hj, h_nested'⟩
  · exact .inl h_stems
  · exact .inr ⟨j, (Records.loaded_recalling s h group').find?_kept hj, h_nested'⟩

theorem Session.Awaits.congr (h_awaits : s.Awaits config group p new h)
    (h_config : s'.config = s.config) (h_records : s'.records = s.records)
    (h_storage : h'.storage = h.storage) : s'.Awaits config group p new h' := by
  refine ⟨?_, ?_⟩
  · rw [← h_awaits.recorded]
    exact recorded_congr h_config (by rw [h_records]) (by rw [h_storage])
  · rw [h_records, h_storage]
    exact h_awaits.traces

theorem Config.Drops.recalling (h_drops : config.Drops p.id new s.records h.storage.texts)
    (h_config : s.config = config) (group' : String) :
    config.Drops p.id new (s.recalling h group').records h.storage.texts := by
  rcases s.recalling_cases h group' with h_same | ⟨i, h_absent, h_found, h_memory⟩
  · rw [h_same]
    exact h_drops
  · obtain ⟨text, h_text, h_parse⟩ := Host.stored_of_recorded h_found
    rw [h_config] at h_text h_parse
    rw [h_memory]
    exact Config.Drops.bookkeeping.load h_drops h_absent h_text h_parse

/-! #### Carrying the superseding interaction out -/

namespace Authoring

variable {collection : String} {part : Interaction} {g : Group} {x : Wiring}
  {parts : List Interaction} {xs : List Wiring}

section Wires

variable (h_wires : Wires collection q g x s h s' h') (h_config : s.config = config)
  (hs : h.Stores) (h_new : new q)
include h_wires h_config hs h_new

/-- **Wiring a new interaction** drops what is nested in the one that is on record for its group. -/
theorem Wires.supersedes (h_awaits : s.Awaits config group p new h) :
    q.group ≠ group ∧ s'.Awaits config group p new h' ∨
      config.Drops p.id new s'.records h'.storage.texts := by
  obtain ⟨previous, h₁, h_found, -, h_replaced, -, -, -, h_storage⟩ := h_wires
  have h_config' := (Session.config_recalling s h q.group).trans h_config
  refine ((h_awaits.recalling q.group).replaced h_config' hs h_new h_replaced ?_).imp
    (fun h_waits => ⟨h_waits.1, h_waits.2.congr rfl rfl h_storage⟩) fun h_drops => h_storage ▸ h_drops
  rintro rfl
  obtain rfl := Except.ok.inj (h_found.symm.trans h_awaits.recorded)
  exact Records.mem_retiring.mpr (.inr ⟨p, rfl, rfl⟩)

/-- What is dropped stays dropped. -/
theorem Wires.drops (h_drops : config.Drops p.id new s.records h.storage.texts) :
    config.Drops p.id new s'.records h'.storage.texts := by
  obtain ⟨previous, h₁, -, -, h_replaced, -, -, -, h_storage⟩ := h_wires
  rw [h_storage]
  exact (h_drops.recalling h_config q.group).replaced
    ((Session.config_recalling s h q.group).trans h_config) hs h_new h_replaced

end Wires

/-- **A run with a part on the group** of an interaction drops what is nested in that. -/
theorem Trace.drops (h_trace : Trace collection parts xs s h s' h')
    (h_works : s.Works collection h) (h_config : s.config = config) (h_new : ∀ q ∈ parts, new q)
    (h_state : s.Awaits config group p new h ∧ (∃ q ∈ parts, q.group = group) ∨
      config.Drops p.id new s.records h.storage.texts) :
    config.Drops p.id new s'.records h'.storage.texts := by
  induction h_trace with
  | nil => exact h_state.resolve_left fun h_waits => by simp at h_waits
  | @cons part parts _ _ _ _ _ _ _ _ _ _ h_wires _ ih =>
    have h_first := h_new part List.mem_cons_self
    refine ih (h_wires.works h_works) (h_wires.config.trans h_config)
      (fun q hq => h_new q (List.mem_cons_of_mem _ hq)) ?_
    rcases h_state with ⟨h_awaits, q, hq, h_group⟩ | h_drops
    · refine (h_wires.supersedes h_config h_works.stores h_first h_awaits).imp_left ?_
      rintro ⟨h_other, h_awaits'⟩
      refine ⟨h_awaits', q, (List.mem_cons.mp hq).resolve_left ?_, h_group⟩
      rintro rfl
      exact h_other h_group
    · exact .inr (h_wires.drops h_config h_works.stores h_first h_drops)

end Authoring

end Superseding

/-! ### Worlds -/

namespace World

variable {w : World Unit} {inbound : Inbound} {i part p : Interaction} {a : Authoring}

/-- **What is nested in a superseded interaction is not on record any more.** Let an interaction be
accepted, on a host whose storage works and a scene that can be built, one of whose parts takes the
place of another interaction on its group. Let there be a record in memory for every group whose
stored record is nested in the other one. Then no group has a record that is nested in it, however
the world goes on, in this session or a later one, unless this message or a later one has put it on
record. -/
theorem dropped_after (hw : w.Sound) (h_stores : w.host.Stores)
    (h_handler : w.current.handlers.find? "create-interaction" = some .author)
    (h_accepts : w.current.Accepts w.host inbound i a) (h_part : part ∈ i.parts)
    (h_known : ∃ g, w.current.context.group part.group = .ok g)
    (h_found : ((Records.get part.group).outcome w.current w.host).1 = .ok (some p))
    (h_loaded : ∀ group j, w.host.recorded w.current.config group = .ok (some j) →
      Records.nestedIn p.id j.id = true → ∃ j', w.current.records.find? group = some j' ∧
        Records.nestedIn p.id j'.id = true)
    (moves : List Move) (h_moves : ∀ m ∈ moves, m.Lasting w.current.config)
    (group : String) (j : Interaction) :
    let w' := (w.advance (.message inbound)).after moves
    ((Records.get group).outcome w'.current w'.host).1 = .ok (some j) →
      Records.nestedIn p.id j.id = true →
        ∃ m ∈ .message inbound :: moves, ∃ i' part', m.Asks w.current.config.limits i' ∧
          i'.Comprises part' ∧
            (j = part' ∨ Records.parse w.current.config.limits part'.text = .ok j) := by
  intro w' h_get h_nested
  let new (part : Interaction) : Prop := ∃ m ∈ .message inbound :: moves, ∃ i',
    m.Asks w.current.config.limits i' ∧ i'.Comprises part
  have h_asked : ∀ part, i.Comprises part → new part := fun part h_part => by
    obtain ⟨e, h_decodes, -, h_reads⟩ := h_accepts.asks
    exact ⟨_, List.mem_cons_self, i, ⟨e, h_decodes, h_reads⟩, h_part⟩
  have h_awaits : w.current.enter.Awaits w.current.config part.group p new w.host := by
    have h_recorded : w.current.recorded w.host part.group = .ok (some p) :=
      (Records.get_recalls h_stores part.group).1.symm.trans h_found
    refine ⟨h_recorded, fun group text j h_text h_parse h_nested => .inr ?_⟩
    exact h_loaded group j (Host.recorded_of_parse h_text h_parse) h_nested
  obtain ⟨collection, h₀, s', h_prepared, h_works, h_trace, h_alike⟩ :=
    h_accepts.traces hw h_stores h_handler
  have h_carried : part ∈ i.partsIn w.current.context := by
    obtain ⟨g, h_group⟩ := h_known
    exact List.mem_filter.mpr ⟨h_part, h_group ▸ rfl⟩
  have h_drops := h_trace.drops h_works rfl
    (fun q hq => h_asked q (Interaction.comprises_of_mem_parts (List.mem_filter.mp hq).1))
    (.inl ⟨h_awaits.congr rfl rfl h_prepared.storage, part, h_carried, rfl⟩)
  have h_books : w'.current.Books w.current.config (w.current.config.Drops p.id new) w'.host := by
    refine books_after Config.Drops.bookkeeping (fun _ _ => Config.Drops.fresh) ?_ h_moves
      fun m hm i' h_asks part' h_part' => ⟨m, List.mem_cons_of_mem _ hm, i', h_asks, h_part'⟩
    exact ⟨h_alike.config.trans h_trace.config, h_trace.later.stores h_works.stores,
      h_alike.records ▸ h_drops⟩
  have h_recorded : w'.current.recorded w'.host group = .ok (some j) :=
    (Records.get_recalls h_books.stores group).1.symm.trans h_get
  have h_stems : w.current.config.Stems new j := by
    cases h_record : w'.current.records.find? group with
    | some k =>
      rw [Session.recorded_of_find? h_record] at h_recorded
      obtain rfl := Option.some.inj (Except.ok.inj h_recorded)
      exact h_books.kept.memory group k h_record h_nested
    | none =>
      rw [Session.recorded_of_absent h_record, h_books.configured] at h_recorded
      obtain ⟨text, h_text, h_parse⟩ := Host.stored_of_recorded h_recorded
      exact h_books.kept.storage group text j h_text h_parse h_nested
  obtain ⟨part', ⟨m, hm, i', h_asks, h_part'⟩, h_same⟩ := h_stems
  exact ⟨m, hm, i', part', h_asks, h_part', h_same⟩

/-- The tabs are authored again, without the badge, and the next session looks the records up. -/
theorem dropped_after_reauthoring :
    let before : List Move := [.notice, .message (.authoring (.switchingOn "tabs" 1 ["badges"]))]
    let w := ((panel.after before).advance (.message (.authoring (.switchingOn "tabs" 2 [])))).after
      [.restart (.start {} []), .notice]
    ∀ group j, ((Records.get group).outcome w.current w.host).1 = .ok (some j) →
      Records.nestedIn "tabs_1" j.id = false := by
  intro before
  have h_storable (t : Int) (others : List String) (h_others : "" ∉ others) :
      (Interaction.switchingOn "tabs" t others).Storable .standard :=
    Interaction.storable_switchingOn rfl (by decide) h_others
  have h_before : ∀ m ∈ before, m.Durable panel.current.config := by
    intro m hm
    simp only [before, List.mem_cons, List.not_mem_nil, or_false] at hm
    rcases hm with rfl | rfl
    · exact ⟨trivial, nofun⟩
    · refine ⟨trivial, fun inbound h_same => ?_⟩
      obtain rfl := Move.message.inj h_same
      exact Inbound.storable_authoring (h_storable _ _ (by decide))
        (by simp [Interaction.switchingOn])
  have h_sound : (panel.after before).Sound :=
    (sound_panel.advance (m := .notice) trivial).advance (m := .message _) trivial
  obtain ⟨h_config, h_stores⟩ := stores_after stores_panel fun m hm => (h_before m hm).lasting
  have h_loaded := loaded_after panel before stores_panel rfl Json.Limits.ample_standard h_before
    (by simp [before])
  generalize h_reached : panel.after before = w₁ at *
  intro w group j h_get
  obtain ⟨a, h_accepts⟩ : ∃ a, w₁.current.Accepts w₁.host
      (.authoring (.switchingOn "tabs" 2 [])) (.switchingOn "tabs" 2 []) a := by
    refine accepts_authoring ?_ (Interaction.ofJson_toJson (h_storable _ _ (by decide))) ?_ <;>
      rw [← h_reached] <;> decide +kernel
  obtain ⟨p, h_found, h_id⟩ : ∃ p, ((Records.get "tabs").outcome w₁.current w₁.host).1 =
      .ok (some p) ∧ p.id = "tabs_1" :=
    Records.exists_of_id (by rw [← h_reached]; decide +kernel)
  have h_known : ∃ g, w₁.current.context.group "tabs" = .ok g :=
    Context.exists_of_isOk (by rw [← h_reached]; decide +kernel)
  have h_handler : w₁.current.handlers.find? "create-interaction" = some .author := by
    rw [← h_reached]
    decide +kernel
  have h_later : ∀ m ∈ [Move.restart (.start {} []), .notice], m.Lasting w₁.current.config := by
    intro m hm
    simp only [List.mem_cons, List.not_mem_nil, or_false] at hm
    rcases hm with rfl | rfl
    · exact ⟨h_config.symm, rfl⟩
    · trivial
  have h_main : Interaction.switchingOn "tabs" 2 [] ∈ (Interaction.switchingOn "tabs" 2 []).parts :=
    List.mem_cons_self
  have h_dropped := dropped_after h_sound h_stores h_handler h_accepts h_main h_known
    h_found
    (fun group j h_recorded h_nested => ⟨j, h_loaded group (h_config ▸ h_recorded), h_nested⟩)
    _ h_later group j
  by_contra h_nested
  obtain ⟨m, hm, i, part, h_asks, h_part, h_same⟩ :=
    h_dropped h_get (by rw [h_id]; exact Bool.of_not_eq_false h_nested)
  -- only the second interaction is new, and it is not nested in the first one
  have h_second : j = .switchingOn "tabs" 2 [] := by
    simp only [List.mem_cons, List.not_mem_nil, or_false] at hm
    rcases hm with rfl | rfl | rfl
    · obtain rfl := Inbound.eq_of_asks_authoring (h_storable 2 [] (by decide)) h_asks
      obtain rfl : part = .switchingOn "tabs" 2 [] := by
        rcases h_part with rfl | ⟨_, h_none, -⟩
        · rfl
        · cases h_none
      rcases h_same with rfl | h_parse
      · rfl
      · rw [h_config] at h_parse
        exact Except.ok.inj
          (h_parse.symm.trans (Records.parse_text (h_storable 2 [] (by decide))))
    · cases h_asks
    · cases h_asks
  rw [h_second] at h_nested
  exact h_nested (by decide)

/-- **A nested record is left.** The interaction that it is nested in was stored by another session
and is superseded by one that has not looked at its group. -/
theorem nested_record_left :
    let w := twoPanels.after [.notice, .message (.authoring (.switchingOn "tabs" 1 ["badges"])),
      .restart (.start {} []), .select ["other"], .notice,
      .message (.authoring (.switchingOn "tabs" 2 []))]
    ((Records.get "tabs").outcome w.current w.host).1.toOption.join.map (·.id) = some "tabs_2" ∧
      ((Records.get "badges").outcome w.current w.host).1.toOption.join.map (·.id) =
        some "tabs_1_nested_badges" := by
  decide +kernel

end World

end Clickwork
