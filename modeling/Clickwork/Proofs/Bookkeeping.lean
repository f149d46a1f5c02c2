import Clickwork.Proofs.Effects
import Clickwork.Proofs.Handling
import Clickwork.Proofs.History
import Clickwork.Proofs.Recorded

/-!
# Invariants of records

The records in memory and the texts in the storage change in three ways only: a record that is
looked up is added to the memory, a record is forgotten and its text is deleted, and a record is
kept and its text is stored. What these keep (`Bookkeeping`) is kept by the handling of messages, as
long as the storage works (`Bookkeeping.dispatch_holds`), and so it holds after any history
(`World.books_after`).
-/

namespace Clickwork

open Program (Ends)

/-! ### Keeping an invariant -/

namespace Discipline

variable {I : Session → Host → Prop}

/-- **Keeping an invariant of memory and host is a discipline.** -/
def keeping (I : Session → Host → Prop) : Discipline Session where
  Holds p := p.Keeps I
  lift := .lift
  bind := .bind
  attempt := .attempt
  log := .log

theorem keeping_permits {c : Call} (hc : ∀ s h, I s h → I s (h.perform c).2) :
    (keeping I).Permits c := by
  intro s h hI
  rw [Ends, Program.outcome_tryAsk]
  exact hc s h hI

theorem keeping_sees {τ : Type} {P : τ → Prop} (view : Session → τ)
    (hP : ∀ s h, I s h → P (view s)) : (keeping I).Sees view P :=
  ⟨fun _ hf s h hI => Ends.bind_eq (Program.outcome_read _ _) (hf _ (hP s h hI) s h hI)⟩

theorem keeping_walks (h_node : ∀ s h id, I s h → I s (h.perform (.node id)).2)
    (ids : List String) : (keeping I).Holds (Program.instancesBelow ids) := by
  intro s h hI
  rw [Ends, Program.instancesBelow, Program.outcome_walk, Program.outcome_lift]
  exact Program.explore_host_induction (h_node s) _ _ _ hI

end Discipline

/-! ### What is asked for -/

/-- **The interactions that one may put on record**: itself and those nested in it. -/
def Interaction.Comprises (i part : Interaction) : Prop :=
  part = i ∨ ∃ a ∈ i.nestedActions, part = i.nested a

theorem Interaction.comprises_of_mem_parts {i part : Interaction} (h_part : part ∈ i.parts) :
    i.Comprises part := by
  rcases List.mem_cons.mp h_part with rfl | h_nested
  · exact .inl rfl
  · obtain ⟨action, h_mem, rfl⟩ := List.mem_map.mp h_nested
    exact .inr ⟨action, (List.mem_filter.mp h_mem).1, rfl⟩

/-- **The payload of a message is an interaction.** -/
def Inbound.Asks (limits : Json.Limits) (inbound : Inbound) (i : Interaction) : Prop :=
  ∃ e, inbound.toEnvelope limits = .ok e ∧ Interaction.ofJson e.data = .ok i

/-- A move that is a message whose payload is an interaction. -/
def Move.Asks (limits : Json.Limits) (i : Interaction) : Move → Prop
  | .message inbound => inbound.Asks limits i
  | _ => False

/-- The message that asks for an interaction asks for no other one. -/
theorem Inbound.eq_of_asks_authoring {limits : Json.Limits} {i j : Interaction}
    (h_storable : i.Storable limits) (h_asks : (authoring i).Asks limits j) : j = i := by
  obtain ⟨e, h_decodes, h_reads⟩ := h_asks
  obtain rfl := Except.ok.inj h_decodes
  rw [Interaction.ofJson_toJson h_storable] at h_reads
  exact (Except.ok.inj h_reads).symm

/-! ### Records and texts -/

/-- **An invariant of the records in memory and the texts in the storage** under a configuration, if
no interactions are put on record but those that may be. -/
structure Bookkeeping (config : Config) (may : Interaction → Prop)
    (I : Registry String Interaction → Registry String String → Prop) : Prop where
  /-- A record is looked up that is not in memory. -/
  load : ∀ {records texts group text i}, I records texts → records.find? group = none →
    texts.find? (config.storageKey group) = some text → Records.parse config.limits text = .ok i →
      I (records.insert group i) texts
  /-- A record is forgotten. -/
  delete : ∀ {records texts} group, I records texts →
    I (records.erase group) (texts.erase (config.storageKey group))
  /-- An interaction is put on record. -/
  store : ∀ {records texts i}, I records texts → may i →
    I (records.insert i.group i) (texts.insert (config.storageKey i.group) i.text)

/-- **The invariant holds of a session and a host**, whose storage works. -/
structure Session.Books (config : Config)
    (I : Registry String Interaction → Registry String String → Prop) (s : Session) (h : Host) :
    Prop where
  configured : s.config = config
  stores : h.Stores
  kept : I s.records h.storage.texts

namespace Bookkeeping

variable {config : Config} {may : Interaction → Prop}
  {I : Registry String Interaction → Registry String String → Prop} {s : Session} {h : Host}

/-- **The discipline of keeping the invariant.** -/
def discipline (config : Config) (I : Registry String Interaction → Registry String String → Prop) :
    Discipline Session :=
  .keeping (Session.Books config I)

theorem perform {c : Call} (hc : c.method.isStorage = false) (hI : s.Books config I h) :
    s.Books config I (h.perform c).2 := by
  refine ⟨hI.configured, (Host.Later.perform h c).stores hI.stores, ?_⟩
  rcases h.storage_perform c with h_same | ⟨key, text, rfl, -⟩ | ⟨key, rfl, -⟩
  · rw [h_same]
    exact hI.kept
  · cases hc
  · cases hc

theorem permits {c : Call} (hc : c.method.isStorage = false) : (discipline config I).Permits c :=
  Discipline.keeping_permits fun _ _ hI => perform hc hI

theorem permits_looks {c : Call} (hc : c.Looks) : (discipline config I).Permits c :=
  permits hc.isStorage

theorem permits_retires {c : Call} (hc : c.Retires) : (discipline config I).Permits c :=
  permits hc.isStorage

theorem permits_wires {collection : String} {c : Call} (hc : c.Wires collection) :
    (discipline config I).Permits c :=
  permits hc.isStorage

theorem modifies {f : Session → Session} (h_config : ∀ s, (f s).config = s.config)
    (h_records : ∀ s, (f s).records = s.records) : (discipline config I).Holds (Program.modify f) :=
  Program.Keeps.modify fun s _ hI =>
    ⟨(h_config s).trans hI.configured, hI.stores, h_records s ▸ hI.kept⟩

theorem sees {τ : Type} (view : Session → τ) : (discipline config I).Sees view fun _ => True :=
  Discipline.keeping_sees view fun _ _ _ => trivial

theorem converses : (discipline config I).Converses fun s => s.config = config where
  reads := Discipline.keeping_sees _ fun _ _ hI => hI.configured
  changes _ hf := modifies (fun s => (congrArg Session.config (hf s) :))
    fun s => (congrArg Session.records (hf s) :)
  delivers := Program.Keeps.deliver

/-! ### Keeping records -/

section

variable (hB : Bookkeeping config may I)

include hB

theorem get_holds (group : String) : (discipline config I).Holds (Records.get group) := by
  refine fun s h hI => (Records.get_recalls hI.stores group).mono ?_
  rintro - - h' h_later ⟨-, rfl, -, h_storage⟩
  refine ⟨?_, h_later.stores hI.stores, ?_⟩
  · rw [Session.config_recalling]
    exact hI.configured
  · rw [h_storage]
    rcases s.recalling_cases h group with h_same | ⟨i, h_absent, h_found, h_memory⟩
    · rw [h_same]
      exact hI.kept
    · obtain ⟨text, h_text, h_parse⟩ := Host.stored_of_recorded h_found
      rw [hI.configured] at h_text h_parse
      rw [h_memory]
      exact hB.load hI.kept h_absent h_text h_parse

/-- A record is forgotten, and then its text is deleted. -/
theorem delete_holds {α : Type} (group : String)
    {f : Config → Except Failure Unit → Program Session α}
    (hf : ∀ c r, (discipline config I).Holds (f c r)) : (discipline config I).Holds (do
      Records.forget group
      let c ← Session.readConfig
      f c (← Program.tryAsk (.storageDelete (c.storageKey group)))) := by
  intro s h hI
  refine Ends.bind_eq (Records.outcome_forget s h group) ?_
  refine Ends.bind_eq (Session.outcome_readConfig _ _) ?_
  refine Ends.bind_eq (Program.outcome_tryAsk _ _ _) ?_
  refine hf _ _ _ _ ⟨hI.configured, (Host.Later.perform h _).stores hI.stores, ?_⟩
  rw [Host.texts_perform_storageDelete hI.stores, hI.configured]
  exact hB.delete group hI.kept

theorem drop_holds (group : String) : (discipline config I).Holds (Records.drop group) := by
  unfold Records.drop
  refine hB.delete_holds group fun _ answer => ?_
  split
  · exact .pure _
  · exact Discipline.log _ _ _ _

theorem purgeAll_holds (groups : List String) :
    (discipline config I).Holds (Records.purgeAll groups) :=
  .forM _ fun group _ => hB.delete_holds group fun _ _ => Discipline.lift _ _

theorem store_holds {i : Interaction} (hi : may i) :
    (discipline config I).Holds (Records.store i) := by
  intro s h hI
  refine Ends.bind_eq (Records.outcome_keep s h _ _) ?_
  refine Ends.bind_eq (Session.outcome_readConfig _ _) ?_
  refine Ends.bind_eq (Program.outcome_tryAsk _ _ _) ?_
  have h_kept : Session.Books config I { s with records := s.records.insert i.group i }
      (h.perform (.storageSet (s.config.storageKey i.group) i.text)).2 := by
    refine ⟨hI.configured, (Host.Later.perform h _).stores hI.stores, ?_⟩
    rw [Host.texts_perform_storageSet hI.stores, hI.configured]
    exact hB.store hI.kept hi
  split
  · exact h_kept
  · exact Program.Keeps.log _ _ _ _ _ h_kept

theorem put_holds {i : Interaction} (hi : may i) : (discipline config I).Holds (Records.put i) := by
  refine Records.put_holds (hB.get_holds _) (fun interaction => ?_) (hB.store_holds hi)
  exact Records.retire_holds (sees _) (fun _ => permits_retires)
    (Records.dropNested_holds (sees _) hB.drop_holds interaction)

/-! ### Handling messages -/

theorem search_holds : (discipline config I).Holds Analysis.search :=
  Analysis.search_holds (fun _ => permits_looks)
    (Discipline.keeping_walks fun _ _ _ hI => perform rfl hI) (sees _)
    (fun _ _ => Wiring.ensureCollection_holds (permits rfl) (permits rfl)) hB.get_holds

theorem wire_holds {i : Interaction} (hi : may i) (collection : String) (g : Group) :
    (discipline config I).Holds (Authoring.wire collection i g) :=
  Authoring.wire_holds (hB.put_holds hi) (sees _) (fun _ => permits_wires) g

/-- **An interaction is carried out** that may be put on record, as may those nested in it. -/
theorem proceed_holds {i : Interaction} (h_parts : ∀ part, i.Comprises part → may part)
    (group : Group) : (discipline config I).Holds (Authoring.proceed i group) := by
  refine Authoring.proceed_holds (sees _) (fun _ => Wiring.ensureCollection_holds
    (permits rfl) (permits rfl)) fun collection => ?_
  refine Authoring.wireAll_holds (hB.wire_holds (h_parts i (.inl rfl)) _ _) fun action h_action => ?_
  exact Authoring.wireNested_holds (sees _) fun _ _ _ =>
    hB.wire_holds (h_parts _ (.inr ⟨action, h_action, rfl⟩)) _ _

/-- **A message is handled** whose interaction, if it asks for one, may be put on record. -/
theorem dispatch_holds {inbound : Inbound}
    (h_asks : ∀ i, inbound.Asks config.limits i → ∀ part, i.Comprises part → may part) :
    (discipline config I).Holds (Session.dispatch inbound) := by
  refine Session.dispatch_holds converses fun s s' hs _ e handler h_decodes _ => ?_
  refine Session.serve_holds converses hB.search_holds (fun i h_reads group => ?_)
    (fun _ => modifies (fun _ => rfl) fun _ => rfl) (Records.sweep_holds (sees _) fun _ =>
      permits_retires) hB.purgeAll_holds (modifies (fun _ => rfl) fun _ => rfl) (permits rfl) handler
  exact hB.proceed_holds (h_asks i ⟨e, by rwa [hs] at h_decodes, h_reads⟩) group

end

end Bookkeeping

/-! ### Histories -/

/-- **A move that leaves the storage working and the configuration as it is.** A session that begins
has nothing on record. -/
def Move.Lasting (config : Config) : Move → Prop
  | .restart s => s.config = config ∧ s.records = ∅
  | .failOn method _ => method.isStorage = false
  | .outage _ => False
  | .message _ | .notice | .select _ | .click _ => True

namespace World

variable {config : Config} {may : Interaction → Prop}
  {I : Registry String Interaction → Registry String String → Prop} {w : World Unit}

/-- **A move keeps the invariant**, if forgetting what is in memory does in case a session begins. -/
theorem books_advance (hB : Bookkeeping config may I) {m : Move}
    (h_fresh : ∀ s, m = .restart s → ∀ {records texts}, I records texts → I ∅ texts)
    (hI : w.current.Books config I w.host) (hm : m.Lasting config)
    (h_asks : ∀ i, m.Asks config.limits i → ∀ part, i.Comprises part → may part) :
    (w.advance m).current.Books config I (w.advance m).host := by
  cases m with
  | message inbound => exact runProgram_ends (hB.dispatch_holds h_asks _ _ hI)
  | notice => exact runProgram_ends (Session.selectionChanged_holds Bookkeeping.converses
      hB.search_holds _ _ hI)
  | select ids => exact ⟨hI.configured, ⟨hI.stores.available, hI.stores.spares⟩, hI.kept⟩
  | click node => exact ⟨hI.configured, ⟨hI.stores.available, hI.stores.spares⟩, hI.kept⟩
  | restart s =>
    refine ⟨hm.1, hI.stores, ?_⟩
    show I s.records _
    rw [hm.2]
    exact h_fresh s rfl hI.kept
  | outage unavailable => exact hm.elim
  | failOn method numbers =>
    refine ⟨hI.configured, ⟨hI.stores.available, fun method' h_storage => ?_⟩, hI.kept⟩
    have h_ne : method ≠ method' := by
      rintro rfl
      cases h_storage.symm.trans hm
    exact (Registry.find?_insert_of_ne _ _ h_ne).trans (hI.stores.spares method' h_storage)

/-- **An invariant of records holds after any history** in which the storage works. -/
theorem books_after (hB : Bookkeeping config may I) {moves : List Move}
    (h_fresh : ∀ s, .restart s ∈ moves → ∀ {records texts}, I records texts → I ∅ texts)
    (hI : w.current.Books config I w.host)
    (h_moves : ∀ m ∈ moves, m.Lasting config)
    (h_asks : ∀ m ∈ moves, ∀ i, m.Asks config.limits i → ∀ part, i.Comprises part → may part) :
    (w.after moves).current.Books config I (w.after moves).host := by
  induction moves generalizing w with
  | nil => exact hI
  | cons m moves ih =>
    have h_mem := List.mem_cons_self (a := m) (l := moves)
    exact ih (fun s h_in => h_fresh s (List.mem_cons_of_mem _ h_in))
      (books_advance hB (fun s h_begins => h_fresh s (h_begins ▸ h_mem)) hI (h_moves m h_mem)
        (h_asks m h_mem))
      (fun m' h_in => h_moves m' (List.mem_cons_of_mem _ h_in))
      fun m' h_in => h_asks m' (List.mem_cons_of_mem _ h_in)

/-- The storage still works after such a history, and the configuration is the same. -/
theorem stores_after (hs : w.host.Stores) {moves : List Move}
    (h_moves : ∀ m ∈ moves, m.Lasting w.current.config) :
    (w.after moves).current.config = w.current.config ∧ (w.after moves).host.Stores := by
  have h_nothing : Bookkeeping w.current.config (fun _ => True) fun _ _ => True :=
    ⟨fun _ _ _ _ => trivial, fun _ _ => trivial, fun _ _ => trivial⟩
  have h_books := books_after h_nothing (fun _ _ _ _ _ => trivial) ⟨rfl, hs, trivial⟩ h_moves
    fun _ _ _ _ _ _ => trivial
  exact ⟨h_books.configured, h_books.stores⟩

theorem stores_panel : World.panel.host.Stores :=
  ⟨rfl, fun _ _ => rfl⟩

end World

end Clickwork
