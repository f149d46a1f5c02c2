import Clickwork.Proofs.Guarded

/-!
# Records in memory and in the storage

A session keeps the records of groups in its memory and their texts in the client storage. A record
in memory should be one whose text is stored (`Session.Coherent`). What puts an interaction on
record or forgets one changes the memory first and the storage in a call of its own, before which it
may be held. An analysis that looks for the record of the group meanwhile finds nothing in memory,
or found nothing there before, and reads the text that is about to go; so it puts a record back
whose text is then deleted or replaced (`World.record_revived`).

Analyses read on the terms `Caching.reading`: they put only such records into the memory whose texts
they have just read. What changes the storage works on the terms `Caching.writing`: nobody reads the
text that it is held before changing. On these terms the records are coherent when it has ended
(`World.coherent_after`).
-/

namespace Clickwork

open Program

/-! ### Coherent records -/

/-- **The record of a group in memory is stored**: there is a text under the key of the group, and
it is the text of the record or reads as the record. -/
def Session.Backed (s : Session) (h : Host) (group : String) : Prop :=
  ∀ i, s.records.find? group = some i → ∃ text,
    h.storage.texts.find? (s.config.storageKey group) = some text ∧
      (text = i.text ∨ Records.parse s.config.limits text = .ok i)

/-- **Every record in memory is stored.** -/
def Session.Coherent (s : Session) (h : Host) : Prop :=
  ∀ group, s.Backed h group

theorem Session.Backed.congr {s s' : Session} {h h' : Host} {group : String}
    (h_backed : s.Backed h group) (h_config : s'.config = s.config)
    (h_record : s'.records.find? group = s.records.find? group)
    (h_text : h'.storage.texts.find? (s.config.storageKey group) =
      h.storage.texts.find? (s.config.storageKey group)) : s'.Backed h' group := by
  intro i hi
  rw [h_config, h_text]
  exact h_backed i (h_record ▸ hi)

/-- **A group that has no stored text has no record**, if the records are coherent. -/
theorem Session.Coherent.outcome_get {s : Session} {h : Host} (h_coherent : s.Coherent h)
    (hs : h.Stores) {group : String}
    (h_none : h.storage.texts.find? (s.config.storageKey group) = none) :
    ((Records.get group).outcome s h).1 = .ok none := by
  have h_record : s.records.find? group = none := by
    by_contra h_some
    obtain ⟨i, hi⟩ := Option.ne_none_iff_exists'.mp h_some
    obtain ⟨text, h_text, -⟩ := h_coherent group i hi
    rw [h_none] at h_text
    cases h_text
  have h_ends : (Records.get group).Ends s h fun r _ _ => r = .ok none := by
    rw [Records.get]
    refine Ends.bind_eq (Program.outcome_read _ _) ?_
    rw [h_record]
    refine (Records.stored?_ends group).bind (fun text s' h' _ h_stored => ?_)
      fun e s' h' _ h_stored => by cases h_stored.2.2.2.1 hs h_none
    obtain rfl : text = none := Except.ok.inj (h_stored.2.2.2.1 hs h_none)
    rfl
  exact h_ends

/-! ### What tasks do -/

/-- Whether a call changes the text under a key. -/
def Call.overwrites (key : String) : Call → Bool
  | storageSet key' _ | storageDelete key' => key' == key
  | _ => false

/-- **Whether a call reads the text that another one changes.** -/
def Call.races (c : Call) : Call → Bool
  | storageGet key => c.overwrites key
  | _ => false

namespace Caching

/-- What every task leaves as it is. -/
structure Continues (m m' : Moment Session) : Prop where
  config : m'.memory.config = m.memory.config
  handlers : m'.memory.handlers = m.memory.handlers
  stores : m.host.Stores → m'.host.Stores

/-- **What a task does that only reads records**: what is new in memory was just read from the
storage, which stays as it is. -/
structure Loads (m m' : Moment Session) : Prop extends Continues m m' where
  precedes : m.Precedes m'
  storage : m'.host.storage = m.host.storage
  records : ∀ group, m'.memory.records.find? group = m.memory.records.find? group ∨
    (m'.memory.Backed m'.host group ∧
      .storageGet (m.memory.config.storageKey group) ∈ m.since m')

variable {m m' m'' : Moment Session}

theorem Continues.refl (m : Moment Session) : Continues m m :=
  ⟨rfl, rfl, fun hs => hs⟩

theorem Continues.trans (h : Continues m m') (h' : Continues m' m'') : Continues m m'' :=
  ⟨h'.config.trans h.config, h'.handlers.trans h.handlers, fun hs => h'.stores (h.stores hs)⟩

theorem Continues.perform (m : Moment Session) (c : Call) : Continues m (m.perform c).2 :=
  ⟨rfl, rfl, fun hs => (Host.Later.perform m.host c).stores hs⟩

/-- What changes neither the storage nor the records. -/
theorem Loads.of_eq (h : Continues m m') (h_precedes : m.Precedes m')
    (h_storage : m'.host.storage = m.host.storage)
    (h_records : m'.memory.records = m.memory.records) : Loads m m' :=
  ⟨h, h_precedes, h_storage, fun group => .inl (congrArg (Registry.find? · group) h_records)⟩

theorem Loads.refl (m : Moment Session) : Loads m m :=
  .of_eq (.refl m) (.refl m) rfl rfl

theorem Loads.trans (h : Loads m m') (h' : Loads m' m'') : Loads m m'' where
  toContinues := h.toContinues.trans h'.toContinues
  precedes := h.precedes.trans h'.precedes
  storage := h'.storage.trans h.storage
  records := by
    intro group
    rw [Moment.since_append h.precedes h'.precedes]
    rcases h'.records group with h_same | ⟨h_backed, h_read⟩
    · rcases h.records group with h_same' | ⟨h_backed, h_read⟩
      · exact .inl (h_same.trans h_same')
      · refine .inr ⟨h_backed.congr h'.config h_same ?_, List.mem_append_left _ h_read⟩
        rw [h'.storage]
    · rw [h.config] at h_read
      exact .inr ⟨h_backed, List.mem_append_right _ h_read⟩

/-- **What only reads records keeps them coherent.** -/
theorem Loads.coherent (h : Loads m m') (h_coherent : m.memory.Coherent m.host) :
    m'.memory.Coherent m'.host := by
  intro group
  rcases h.records group with h_same | ⟨h_backed, -⟩
  · exact (h_coherent group).congr h.config h_same (by rw [h.storage])
  · exact h_backed

/-- A call that changes nothing in the storage. -/
theorem Loads.perform {c : Call} (hc : ∀ key, c.overwrites key = false) :
    Loads m (m.perform c).2 := by
  refine .of_eq (.perform m c) (.perform m c) ?_ rfl
  rcases m.host.storage_perform c with h_same | ⟨key, text, rfl, -⟩ | ⟨key, rfl, -⟩
  · exact h_same
  · cases (hc key).symm.trans (beq_self_eq_true key)
  · cases (hc key).symm.trans (beq_self_eq_true key)

/-- What changes neither records nor what every task leaves as it is. -/
theorem Loads.withMemory {s : Session} (h_config : s.config = m.memory.config)
    (h_handlers : s.handlers = m.memory.handlers) (h_records : s.records = m.memory.records) :
    Loads m (m.withMemory s) :=
  .of_eq ⟨h_config, h_handlers, fun hs => hs⟩ ⟨[], (List.append_nil _).symm⟩ rfl h_records

/-- **The terms on which records are read.** -/
def reading : Terms Session where
  rely _ m m' := Continues m m'
  may _ _ := True
  step m m' := Loads m m'
  rely_refl _ m := .refl m
  rely_trans h h' := h.trans h'
  step_refl m := .refl m
  step_trans h h' := h.trans h'
  step_node _ _ := .perform fun _ => rfl

/-- **The terms on which records are changed**: the others only read them, and none of them reads
the text that the task is held before changing. -/
def writing : Terms Session where
  rely c m m' := Loads m m' ∧ ∀ group, c.overwrites (m.memory.config.storageKey group) = true →
    m'.memory.records.find? group = m.memory.records.find? group
  may _ _ := True
  step m m' := Continues m m'
  rely_refl _ m := ⟨.refl m, fun _ _ => rfl⟩
  rely_trans h h' := ⟨h.1.trans h'.1, fun group hc =>
    (h'.2 group (h.1.config ▸ hc)).trans (h.2 group hc)⟩
  step_refl m := .refl m
  step_trans h h' := h.trans h'
  step_node m id := .perform m (.node id)

/-! ### Tasks that only read records -/

/-- The session has the given configuration and handlers. -/
def Configured (config : Config) (handlers : Registry String Handler) (m : Moment Session) : Prop :=
  m.memory.config = config ∧ m.memory.handlers = handlers

variable {config : Config} {handlers : Registry String Handler}

theorem Configured.continues (h : Configured config handlers m) (h_later : Continues m m') :
    Configured config handlers m' :=
  ⟨h_later.config.trans h.1, h_later.handlers.trans h.2⟩

/-- **The discipline of tasks that only read records.** -/
def reader (config : Config) (handlers : Registry String Handler) : Discipline Session :=
  reading.keeping (Configured config handlers)

namespace Reader

theorem permits {c : Call} (hc : ∀ key, c.overwrites key = false) :
    (reader config handlers).Permits c := by
  refine Terms.permits fun m m' hI h_rely _ => ?_
  exact ⟨.perform hc, (hI.continues h_rely).continues (.perform m' c)⟩

theorem modifies {f : Session → Session} (h_config : ∀ s, (f s).config = s.config)
    (h_handlers : ∀ s, (f s).handlers = s.handlers) (h_records : ∀ s, (f s).records = s.records) :
    (reader config handlers).Holds (Program.modify f) := by
  refine Terms.modifies fun m hI => ?_
  exact ⟨.withMemory (h_config _) (h_handlers _) (h_records _),
    (h_config _).trans hI.1, (h_handlers _).trans hI.2⟩

theorem converses : (reader config handlers).Converses
    fun s => s.config = config ∧ s.handlers = handlers where
  reads := Terms.sees _ fun _ hI => hI
  changes _ hf := modifies (fun s => (congrArg Session.config (hf s) :))
    (fun s => (congrArg Session.handlers (hf s) :)) fun s => (congrArg Session.records (hf s) :)
  delivers := Terms.delivers

theorem permits_looks {c : Call} (hc : c.Looks) : (reader config handlers).Permits c :=
  permits fun key => by cases c <;> first | rfl | cases hc

theorem permits_retires {c : Call} (hc : c.Retires) : (reader config handlers).Permits c :=
  permits fun key => by cases c <;> first | rfl | cases hc

theorem get_holds (group : String) : (reader config handlers).Holds (Records.get group) := by
  refine Terms.get_holds (T := reading) (fun m m' key hI h_rely _ => ?_)
    (fun group text b m i h_just h_parse => ?_) group
  · have hI' := hI.continues h_rely
    exact ⟨h_rely.config, hI', .perform fun _ => rfl, hI'.continues (.perform m' _)⟩
  · obtain ⟨hI, -, h_text, rfl⟩ := h_just
    have h_look : Loads b (b.perform (.storageGet (b.memory.config.storageKey group))).2 :=
      .perform fun _ => rfl
    refine ⟨⟨⟨rfl, rfl, h_look.stores⟩, h_look.precedes, h_look.storage, fun group' => ?_⟩, hI⟩
    by_cases h_group : group' = group
    · -- this is the record that was just read
      subst h_group
      refine .inr ⟨fun i' hi' => ⟨text, ?_, .inr ?_⟩, ?_⟩
      · show (b.perform _).2.host.storage.texts.find? _ = _
        rw [h_look.storage]
        exact h_text
      · rw [← Option.some.inj ((Registry.find?_insert_self _ _ _).symm.trans hi')]
        exact h_parse
      · show _ ∈ b.since (b.perform _).2
        rw [Moment.since_perform]
        exact List.mem_singleton_self _
    · exact .inl (Registry.find?_insert_of_ne _ _ (Ne.symm h_group))

theorem search_holds : (reader config handlers).Holds Analysis.search := by
  refine Analysis.search_holds (fun _ => permits_looks) ?_
    (Terms.sees Session.config (P := fun _ => True) fun _ _ => trivial) (fun _ _ => ?_)
    get_holds
  · exact Terms.walks (fun _ _ _ hI h_rely => hI.continues h_rely)
      fun _ m hI => hI.continues (.perform m _)
  · exact Wiring.ensureCollection_holds (permits fun _ => rfl) (permits fun _ => rfl)

end Reader

/-! ### Tasks that change records -/

/-- What such a task keeps: the records are coherent whenever it is not held before a change. -/
structure Sound (config : Config) (handlers : Registry String Handler) (m : Moment Session) :
    Prop where
  configured : Configured config handlers m
  stores : m.host.Stores
  coherent : m.memory.Coherent m.host

theorem Sound.loads (h : Sound config handlers m) (h_loads : Loads m m') :
    Sound config handlers m' :=
  ⟨h.configured.continues h_loads.toContinues, h_loads.stores h.stores,
    h_loads.coherent h.coherent⟩

/-- **The discipline of tasks that change records.** -/
def writer (config : Config) (handlers : Registry String Handler) : Discipline Session :=
  writing.keeping (Sound config handlers)

namespace Writer

theorem permits {c : Call} (hc : ∀ key, c.overwrites key = false) :
    (writer config handlers).Permits c := by
  refine Terms.permits fun m m' hI h_rely _ => ?_
  exact ⟨.perform m' c, (hI.loads h_rely.1).loads (.perform hc)⟩

theorem modifies {f : Session → Session} (h_config : ∀ s, (f s).config = s.config)
    (h_handlers : ∀ s, (f s).handlers = s.handlers) (h_records : ∀ s, (f s).records = s.records) :
    (writer config handlers).Holds (Program.modify f) := by
  refine Terms.modifies fun m hI => ?_
  have h_loads : Loads m (m.withMemory (f m.memory)) :=
    .withMemory (h_config _) (h_handlers _) (h_records _)
  exact ⟨h_loads.toContinues, hI.loads h_loads⟩

theorem converses : (writer config handlers).Converses
    fun s => s.config = config ∧ s.handlers = handlers where
  reads := Terms.sees _ fun _ hI => hI.configured
  changes _ hf := modifies (fun s => (congrArg Session.config (hf s) :))
    (fun s => (congrArg Session.handlers (hf s) :)) fun s => (congrArg Session.records (hf s) :)
  delivers := Terms.delivers

theorem sees {τ : Type} (view : Session → τ) :
    (writer config handlers).Sees view fun _ => True :=
  Terms.sees _ fun _ _ => trivial

theorem permits_retires {c : Call} (hc : c.Retires) : (writer config handlers).Permits c :=
  permits fun key => by cases c <;> first | rfl | cases hc

theorem permits_wires {collection : String} {c : Call} (hc : c.Wires collection) :
    (writer config handlers).Permits c :=
  permits fun key => by cases c <;> first | rfl | cases hc

/-- A record that was just read is one that is stored. -/
theorem get_holds (group : String) : (writer config handlers).Holds (Records.get group) := by
  refine Terms.get_holds (T := writing) (fun m m' key hI h_rely _ => ?_)
    (fun group text b m i h_just h_parse => ?_) group
  · have hI' := hI.loads h_rely.1
    exact ⟨h_rely.1.config, hI', .perform m' _, hI'.loads (.perform fun _ => rfl)⟩
  · obtain ⟨hI, -, h_text, rfl⟩ := h_just
    have h_look : Loads b (b.perform (.storageGet (b.memory.config.storageKey group))).2 :=
      .perform fun _ => rfl
    refine ⟨⟨rfl, rfl, h_look.stores⟩, hI.configured, h_look.stores hI.stores, fun group' => ?_⟩
    by_cases h_group : group' = group
    · subst h_group
      refine fun i' hi' => ⟨text, ?_, .inr ?_⟩
      · show (b.perform _).2.host.storage.texts.find? _ = _
        rw [h_look.storage]
        exact h_text
      · rw [← Option.some.inj ((Registry.find?_insert_self _ _ _).symm.trans hi')]
        exact h_parse
    · exact (h_look.coherent hI.coherent group').congr rfl
        (Registry.find?_insert_of_ne _ _ (Ne.symm h_group)) rfl

/-- **A record is forgotten, and then its text is deleted**: nobody reads the text in between. -/
theorem delete_holds {α : Type} (group : String)
    {f : Config → Except Failure Unit → Program Session α}
    (hf : ∀ c r, (writer config handlers).Holds (f c r)) : (writer config handlers).Holds (do
      Records.forget group
      let c ← Session.readConfig
      f c (← Program.tryAsk (.storageDelete (c.storageKey group)))) := by
  intro b m h_step hI
  -- a record less leaves the others as coherent as they were
  let s := { m.memory with records := m.memory.records.erase group }
  have h_forgets : Continues m (m.withMemory s) := ⟨rfl, rfl, fun hs => hs⟩
  have h_forgotten : (m.withMemory s).memory.Coherent m.host := fun group' i hi => by
    have h_there : (m.memory.records.erase group).find? group' = some i := hi
    rw [Registry.find?_erase] at h_there
    split at h_there
    · cases h_there
    · exact hI.coherent group' i h_there
  refine ⟨h_step.trans h_forgets, fun m' ⟨h_loads, h_absent⟩ _ => ?_⟩
  have h_config : m'.memory.config = m.memory.config := h_loads.config
  have hI' : Sound config handlers m' :=
    Sound.loads ⟨hI.configured.continues h_forgets, hI.stores, h_forgotten⟩ h_loads
  have h_none : m'.memory.records.find? group = none :=
    (h_absent group (beq_self_eq_true _)).trans (Registry.find?_erase_self _ _)
  -- no other task has read the text meanwhile, so there is still no record of the group
  have h_call := Continues.perform m' (.storageDelete (m.memory.config.storageKey group))
  refine hf _ _ _ _ h_call
    ⟨hI'.configured.continues h_call, h_call.stores hI'.stores, fun group' => ?_⟩
  by_cases h_group : group' = group
  · intro i hi
    rw [h_group] at hi
    cases h_none.symm.trans hi
  · refine (hI'.coherent group').congr rfl rfl ?_
    refine Host.find?_perform_storageDelete_of_ne _ fun h_key => h_group ?_
    rw [h_config] at h_key
    exact Config.storageKey_injective _ h_key

/-- **A record is kept, and then its text is stored**: nobody reads the old text in between. -/
theorem store_holds (i : Interaction) : (writer config handlers).Holds (Records.store i) := by
  unfold Records.store
  intro b m h_step hI
  let s := { m.memory with records := m.memory.records.insert i.group i }
  have h_keeps : Continues m (m.withMemory s) := ⟨rfl, rfl, fun hs => hs⟩
  have h_store : (Program.tryAsk (.storageSet (m.memory.config.storageKey i.group) i.text) :
      Program Session _).Safe writing (writing.closing fun _ => Sound config handlers) b
        (m.withMemory s) := by
    refine ⟨h_step.trans h_keeps, fun m' ⟨h_loads, h_kept⟩ _ => ?_⟩
    have h_config : m'.memory.config = m.memory.config := h_loads.config
    have h_record : m'.memory.records.find? i.group = some i :=
      (h_kept i.group (beq_self_eq_true _)).trans (Registry.find?_insert_self _ _ _)
    have h_stores : m'.host.Stores := h_loads.stores hI.stores
    have h_call := Continues.perform m' (.storageSet (m.memory.config.storageKey i.group) i.text)
    refine ⟨h_call, ((hI.configured.continues h_keeps).continues h_loads.toContinues).continues
      h_call, h_call.stores h_stores, fun group => ?_⟩
    by_cases h_group : group = i.group
    · subst h_group
      intro i' hi'
      refine ⟨i.text, ?_, .inl ?_⟩
      · show (m'.perform _).2.host.storage.texts.find? (m'.memory.config.storageKey _) = _
        rw [h_config]
        exact Host.find?_perform_storageSet h_stores _ _
      · rw [← Option.some.inj (h_record.symm.trans hi')]
    · -- the other records are as coherent as before
      have h_other : m'.memory.Backed m'.host group := by
        rcases h_loads.records group with h_same | ⟨h_backed, -⟩
        · have h_same' : m'.memory.records.find? group = m.memory.records.find? group :=
            h_same.trans (Registry.find?_insert_of_ne _ _ (Ne.symm h_group))
          exact (hI.coherent group).congr h_config h_same' (by rw [h_loads.storage]; rfl)
        · exact h_backed
      refine h_other.congr rfl rfl ?_
      refine Host.find?_perform_storageSet_of_ne _ _ fun h_key => h_group ?_
      rw [h_config] at h_key
      exact Config.storageKey_injective _ h_key
  refine h_store.bind (fun answer b' m' h_done => ?_) fun _ _ _ h_done => h_done
  split
  · exact h_done
  · exact ⟨rfl, h_done⟩

theorem drop_holds (group : String) : (writer config handlers).Holds (Records.drop group) := by
  unfold Records.drop
  refine delete_holds group fun _ answer => ?_
  split
  · exact .pure _
  · exact Discipline.log _ _ _ _

theorem purgeAll_holds (groups : List String) :
    (writer config handlers).Holds (Records.purgeAll groups) :=
  .forM _ fun group _ => delete_holds group fun _ => Discipline.lift _

theorem put_holds (i : Interaction) : (writer config handlers).Holds (Records.put i) := by
  refine Records.put_holds (get_holds _) (fun interaction => ?_) (store_holds i)
  exact Records.retire_holds (sees _) (fun _ => permits_retires)
    (Records.dropNested_holds (sees _) drop_holds interaction)

theorem proceed_holds (i : Interaction) (group : Group) :
    (writer config handlers).Holds (Authoring.proceed i group) := by
  have h_wire (collection : String) (i : Interaction) (g : Group) :
      (writer config handlers).Holds (Authoring.wire collection i g) :=
    Authoring.wire_holds (put_holds i) (sees _) (fun _ => permits_wires) g
  refine Authoring.proceed_holds (sees _) (fun _ => Wiring.ensureCollection_holds
    (permits fun _ => rfl) (permits fun _ => rfl)) fun collection => ?_
  refine Authoring.wireAll_holds (h_wire _ _ _) fun action _ => ?_
  exact Authoring.wireNested_holds (sees _) fun _ _ _ => h_wire _ _ _

end Writer

end Caching

/-! ### Entry points -/

/-- **Whether an entry point changes records**: it is a message that asks for an interaction or has
records forgotten. -/
def Entry.writes (config : Config) (handlers : Registry String Handler) (entry : Entry) : Bool :=
  entry.handler? config handlers = some .author ∨ entry.handler? config handlers = some .purge

namespace Caching

variable {m : Moment Session} {config : Config} {handlers : Registry String Handler}

theorem entry_reads {entry : Entry} (h_reads : entry.writes config handlers = false)
    (hm : Configured config handlers m) :
    entry.program.Safe reading (reading.closing fun _ _ => True) m m := by
  have h_holds : (reader config handlers).Holds entry.program := by
    refine Entry.holds Reader.converses (fun _ => Reader.search_holds) fun e handler h_handler => ?_
    rw [Entry.writes, h_handler] at h_reads
    cases handler with
    | author | purge => cases h_reads
    | analyse => exact Session.analyse_holds Reader.converses Reader.search_holds
    | listComponents =>
      exact Reader.converses.readContext fun s _ => Session.post_holds Reader.converses.tells _
    | sweep =>
      exact Session.cleanUp_holds Reader.converses
        (Records.sweep_holds (Terms.sees _ fun _ _ => trivial) fun _ => Reader.permits_retires)
    | cancel =>
      refine Discipline.bind _ (Reader.modifies (fun _ => rfl) (fun _ => rfl) fun _ => rfl)
        fun _ => .ask (Reader.permits fun _ => rfl)
    | forward type => exact Session.post_holds Reader.converses.tells _
    | fail text => exact Discipline.lift _ (.error (.raised text))
  exact (Terms.keeping_safe h_holds hm).mono fun _ _ _ h_done => ⟨h_done.1, trivial⟩

theorem entry_writes {entry : Entry} (h_writes : entry.writes config handlers = true)
    (hm : Sound config handlers m) :
    entry.program.Safe writing (writing.closing fun _ m' => m'.memory.Coherent m'.host) m m := by
  rw [Entry.writes, decide_eq_true_eq] at h_writes
  have h_holds : (writer config handlers).Holds entry.program := by
    refine Entry.holds Writer.converses (fun h_notice => ?_) fun e handler h_handler => ?_
    · rw [h_notice] at h_writes
      rcases h_writes with h_none | h_none <;> cases h_none
    · rw [h_handler] at h_writes
      rcases h_writes with h_same | h_same <;> cases Option.some.inj h_same
      · exact Session.author_holds Writer.converses (fun i _ => Writer.proceed_holds i)
          fun _ => Writer.modifies (fun _ => rfl) (fun _ => rfl) fun _ => rfl
      · exact Session.purge_holds Writer.converses Writer.purgeAll_holds
  exact (Terms.keeping_safe h_holds hm).mono fun _ _ _ h_done => ⟨h_done.1, h_done.2.coherent⟩

/-- The terms of a task, given which one it is that changes records. -/
def terms (writer task : String) : Terms Session :=
  if task = writer then writing else reading

/-- What is required of a task when it has ended. -/
def Done (writer task : String) (m : Moment Session) : Prop :=
  task = writer → m.memory.Coherent m.host

end Caching

/-! ### Worlds -/

namespace World

/-- **One task at a time changes records**, the one of the given name. -/
def OneWriter (writer : String) (w : World Unit) : Turn → Prop
  | .start task entry _ =>
    (task = writer ↔ entry.writes w.current.config w.current.handlers = true) ∧
      (task = writer → w.tasks.contains writer = false)
  | _ => True

instance (writer : String) (w : World Unit) : (t : Turn) → Decidable (w.OneWriter writer t)
  | .start task entry _ => inferInstanceAs (Decidable
      ((task = writer ↔ entry.writes w.current.config w.current.handlers = true) ∧
        (task = writer → w.tasks.contains writer = false)))
  | .resume .. | .host _ => inferInstanceAs (Decidable True)

/-- The writer is started where there is none. -/
theorem OneWriter.absent {w : World Unit} {writer : String} {entry : Entry} {stop : Stop}
    (h_one : w.OneWriter writer (.start writer entry stop)) : w.tasks.find? writer = none :=
  Option.isNone_iff_eq_none.mp (Option.isSome_eq_false_iff.mp (h_one.2 rfl))

/-- No task reads a stored text that another one is held before changing. -/
def ReadsApart : World Unit → Turn → Prop :=
  Apart fun c c' => c.races c' = true

instance (w : World Unit) (t : Turn) : Decidable (w.ReadsApart t) :=
  inferInstanceAs (Decidable (Apart _ w t))

end World

namespace Caching

open World

/-- What holds between two turns. -/
structure Between (writer : String) (config : Config) (handlers : Registry String Handler)
    (w : World Unit) : Prop where
  configured : Configured config handlers w.moment
  stores : w.host.Stores
  observes : w.Observes (terms writer) (Done writer)
  coherent : w.tasks.find? writer = none → w.current.Coherent w.host

variable {writer : String} {config : Config} {handlers : Registry String Handler} {w : World Unit}

/-- **A turn of a task that only reads records.** -/
theorem Between.read (h : Between writer config handlers w) {t : Turn} {task : String}
    (h_task : t.task? = some task) (h_ne : task ≠ writer) (h_one : w.OneWriter writer t)
    (h_apart : w.ReadsApart t) : Between writer config handlers (w.turn t) := by
  have h_terms : terms writer task = reading := if_neg h_ne
  have h_turn := h.observes.turn h_task (fun entry stop h_eq => ?_) (fun c _ m _ => ?_)
    fun h_step task' r c h_found h_other h_held => ?_
  · obtain ⟨h_next, h_step, -⟩ := h_turn
    rw [h_terms] at h_step
    refine ⟨h.configured.continues h_step.toContinues, h_step.stores h.stores, h_next,
      fun h_none => h_step.coherent (h.coherent ?_)⟩
    have h_other : t.task? ≠ some writer := fun h_same =>
      h_ne (Option.some.inj (h_task.symm.trans h_same))
    rwa [w.find?_turn_of_ne h_other] at h_none
  · subst h_eq
    rw [h_terms]
    have h_reads : entry.writes config handlers = false := by
      rw [← h.configured.1, ← h.configured.2]
      exact Bool.eq_false_iff.mpr fun h_writes => h_ne (h_one.1.mpr h_writes)
    exact (entry_reads h_reads h.configured).mono fun _ _ _ h_done =>
      ⟨h_done.1, fun h_writer => absurd h_writer h_ne⟩
  · rw [h_terms]
    trivial
  · rw [h_terms] at h_step
    by_cases h_writer : task' = writer
    · -- it is held before a change, whose text has not been read
      have h_terms' : terms writer task' = writing := if_pos h_writer
      rw [h_terms']
      refine ⟨h_step, fun group h_overwrites => ?_⟩
      rcases h_step.records group with h_same | ⟨-, h_read⟩
      · exact h_same
      · exact absurd h_overwrites (h_apart.awaited h_found h_other h_held h_read)
    · have h_terms' : terms writer task' = reading := if_neg h_writer
      rw [h_terms']
      exact h_step.toContinues

/-- **A turn of the task that changes records.** -/
theorem Between.write (h : Between writer config handlers w) {t : Turn}
    (h_task : t.task? = some writer) (h_one : w.OneWriter writer t) :
    Between writer config handlers (w.turn t) := by
  have h_terms : terms writer writer = writing := if_pos rfl
  have h_turn := h.observes.turn h_task (fun entry stop h_eq => ?_) (fun c _ m _ => ?_)
    fun h_step task' r c h_found h_other h_held => ?_
  · obtain ⟨h_next, h_step, h_end⟩ := h_turn
    rw [h_terms] at h_step
    refine ⟨h.configured.continues h_step, h_step.stores h.stores, h_next, fun h_none => ?_⟩
    rcases h_end with h_same | h_done
    · rw [h_same] at h_none ⊢
      exact h.coherent h_none
    · exact h_done h_none rfl
  · -- it is started where no task changes records, on records that are coherent
    subst h_eq
    rw [h_terms]
    have h_none := h_one.absent
    have h_writes := h_one.1.mp rfl
    have h_config : w.current.config = config := h.configured.1
    have h_handlers : w.current.handlers = handlers := h.configured.2
    rw [h_config, h_handlers] at h_writes
    exact (entry_writes h_writes ⟨h.configured, h.stores, h.coherent h_none⟩).mono
      fun _ _ _ h_done => ⟨h_done.1, fun _ => h_done.2⟩
  · rw [h_terms]
    trivial
  · rw [h_terms] at h_step
    have h_ne : task' ≠ writer := by
      refine World.ne_of_not_resumed h_task (fun entry stop h_eq => ?_) h_found h_other
      subst h_eq
      exact h_one.absent
    -- the others rely on it for what its own terms promise
    have h_terms' : terms writer task' = reading := if_neg h_ne
    rw [h_terms']
    exact h_step

theorem Between.turn (h : Between writer config handlers w) {t : Turn} (h_uses : w.Uses t)
    (h_one : w.OneWriter writer t) (h_apart : w.ReadsApart t) :
    Between writer config handlers (w.turn t) := by
  cases h_task : t.task? with
  | some task =>
    by_cases h_writer : task = writer
    · exact h.write (h_writer ▸ h_task) h_one
    · exact h.read h_task h_writer h_one h_apart
  | none =>
    match t, h_uses with
    | .host _, ⟨s, h_used, rfl⟩ =>
      have h_loads : Loads w.moment (w.turn (.host { w.host with scene := s })).moment :=
        .of_eq ⟨rfl, rfl, fun hs => ⟨hs.available, hs.spares⟩⟩ (.refl _) rfl rfl
      refine ⟨h.configured, ⟨h.stores.available, h.stores.spares⟩,
        h.observes.rely rfl rfl fun task r c _ _ => ?_, h.coherent⟩
      unfold terms
      split
      · exact ⟨h_loads, fun _ _ => rfl⟩
      · exact h_loads.toContinues

end Caching

/-- **Records stay coherent.** Let any messages and notices come in on a session with a storage that
works, whose handling may be held at any calls and resumed in any order while somebody uses the
scene. Let one task at a time be for a message that asks for an interaction or has records
forgotten, and let no task read a stored text that another one is held before changing. If every
record in memory was stored at first, then so it is whenever no such message is being handled, and
for a group whose stored text is gone no record is returned any more. -/
theorem World.coherent_after (w : World Unit) (writer : String) (ts : List Turn)
    (h_tasks : w.tasks = ∅) (h_stores : w.host.Stores) (h_coherent : w.current.Coherent w.host)
    (h_uses : w.Every Uses ts) (h_one : w.Every (OneWriter writer) ts)
    (h_apart : w.Every ReadsApart ts) :
    let w' := w.turns ts
    w'.tasks.find? writer = none →
      w'.current.Coherent w'.host ∧
      ∀ group, w'.host.storage.texts.find? (w'.current.config.storageKey group) = none →
        ((Records.get group).outcome w'.current w'.host).1 = .ok none := by
  intro w' h_ended
  have h_between : Caching.Between writer w.current.config w.current.handlers w' := by
    refine ((h_uses.and h_one).and h_apart).turns (I := Caching.Between writer _ _)
      (fun w₁ t ⟨⟨h_use, h_one⟩, h_apart⟩ h_between => h_between.turn h_use h_one h_apart) ?_
    exact ⟨⟨rfl, rfl⟩, h_stores, .of_empty h_tasks, fun _ => h_coherent⟩
  have h_after := h_between.coherent h_ended
  exact ⟨h_after, fun group h_none => h_after.outcome_get h_between.stores h_none⟩

/-- Records are forgotten while an analysis looks for them: it is held before it reads the second
one, until its text is deleted. -/
theorem World.coherent_after_purge :
    let ts : List Turn := [.start "look" .notice .never,
      .start "edit" (.message (.authoring (.switchingOn "tabs" 1 ["badges"]))) .never,
      .start "edit" (.message (.envelope { type := "cleanup-stored-data" }))
        (.before .storageDelete 2),
      .start "look" .notice (.before .storageGet 2), .resume "edit" .never, .resume "look" .never]
    let w := panel.turns ts
    w.current.Coherent w.host ∧
      ((Records.get "badges").outcome w.current w.host).1 = .ok none := by
  intro ts w
  have h_coherent : panel.current.Coherent panel.host := fun _ _ h_none => nomatch h_none
  obtain ⟨h_after, h_get⟩ := coherent_after panel "edit" ts rfl ⟨rfl, fun _ _ => rfl⟩ h_coherent
    ⟨trivial, trivial, trivial, trivial, trivial, trivial, trivial⟩ (by decide +kernel)
    (by decide +kernel) (by decide +kernel : w.tasks.find? "edit" = none)
  exact ⟨h_after, h_get "badges" (by decide +kernel)⟩

/-- **A record comes back.** Its group's record was forgotten, and its text is about to be deleted,
when an analysis finds no record in memory and reads the text. -/
theorem World.record_revived :
    let w := panel.turns [.start "look" .notice .never,
      .start "edit" (.message (.authoring (.switchingOn "tabs" 1 []))) .never,
      .start "edit" (.message (.envelope { type := "cleanup-stored-data" }))
        (.before .storageDelete 1),
      .start "look" .notice .never, .resume "edit" .never]
    w.tasks.keys = [] ∧ w.host.storage.texts.find? (w.current.config.storageKey "tabs") = none ∧
      ((Records.get "tabs").outcome w.current w.host).1.toOption.join.map (·.id) =
        some "tabs_1" := by
  decide +kernel

end Clickwork
