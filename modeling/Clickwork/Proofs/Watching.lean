import Clickwork.Proofs.Footprint
import Clickwork.Proofs.Guarded

/-!
# Analyses, and authoring beside them

An analysis on a host that has the collection of managed variables makes queries only. It changes
the context of its session, and it puts the records into the memory that it comes upon. These should
not be of the footprint of what is being authored (`Footprint.Avoids`): which records are dropped
when an interaction is retired depends on which are in memory.

On these terms (`Watching.looking`) analyses leave alone what the task reads that carries out an
interaction, except for the groups of the nested actions. Where it goes on in a context that has the
same groups for them (`Watching.carrying`), it comes to what it comes to alone
(`Watching.carryOut_comes`).
-/

namespace Clickwork

open Program

/-! ### Hosts that have the collection -/

/-- **A host on which nothing fails**, and which has the collection of managed variables. -/
structure Host.Serves (h : Host) (collection : String) : Prop where
  spares : ∀ method, h.Spares method
  collection : h.scene.collections.contains collection = true

theorem Host.Serves.perform {h : Host} {collection : String} (hs : h.Serves collection) (c : Call) :
    (h.perform c).2.Serves collection := by
  refine ⟨fun method => (Later.perform h c).spares method (hs.spares method), ?_⟩
  have h_scene := h.scene_perform c
  generalize (h.perform c).2.scene = s' at h_scene ⊢
  rcases h_scene with rfl | h_changes
  · exact hs.collection
  · cases h_changes with
    | @createCollection name =>
      show ((h.scene.collections.insert name _).find? collection).isSome = true
      rw [Registry.find?_insert]
      split
      · rfl
      · exact hs.collection
    | setReactions | close | createVariable | setValue | bindProperty | removeVariable =>
      exact hs.collection

/-- A query leaves such a host as it is. -/
theorem Host.Serves.query {h : Host} {collection : String} (hs : h.Serves collection) {c : Call}
    (hc : c.method.mutates = false) : h.perform c = ((h.answer c).1, h) := by
  rw [perform_of_spares (hs.spares c.method)]
  cases c <;> first | rfl | cases hc

namespace Footprint

variable (F : Footprint)

/-! ### What analyses leave as it is -/

/-- **What analyses do to a memory**: the context changes, and records are put into it that the
footprint has nothing to do with. -/
structure Loads (s s' : Session) : Prop where
  rest : s'.withoutRecords.core = s.withoutRecords.core
  records : F.restrict s'.records = F.restrict s.records
  foreign : ∀ group r, s'.records.find? group = some r → group ∉ F.groups →
    s.records.find? group = some r ∨ F.Foreign r

/-- **A call that reads no text of the footprint.** -/
def Avoids (h : Host) : Call → Prop
  | .storageGet key => ∀ text ∈ (h.storage.texts.find? key).toList,
    (∀ group ∈ F.groups, F.config.storageKey group ≠ key) ∧
      ∀ r ∈ (Records.parse F.config.limits text).toOption.toList, F.Foreign r
  | _ => True

instance (h : Host) : (c : Call) → Decidable (F.Avoids h c)
  | .storageGet _ => inferInstanceAs (Decidable (∀ _ ∈ _, _ ∧ ∀ _ ∈ _, F.Foreign _))
  | .selection | .node _ | .mainComponent _ | .instanceProperties _ | .allReactions | .close
  | .collections | .createCollection _ | .listVariables _ | .storageSet .. | .storageDelete _
  | .createVariable .. | .setReactions .. | .setValue .. | .bindProperty .. | .removeVariable _ =>
    inferInstanceAs (Decidable True)

variable {F} {s s' s'' : Session}

theorem Loads.refl (s : Session) : F.Loads s s :=
  ⟨rfl, rfl, fun _ _ h_find _ => .inl h_find⟩

theorem Loads.trans (h : F.Loads s s') (h' : F.Loads s' s'') : F.Loads s s'' where
  rest := h'.rest.trans h.rest
  records := h'.records.trans h.records
  foreign := fun group r h_find h_group =>
    (h'.foreign group r h_find h_group).elim (h.foreign group r · h_group) .inr

/-- What only talks. -/
theorem Loads.of_core (h : s'.core = s.core) : F.Loads s s' where
  rest := (congrArg Session.withoutRecords h :)
  records := congrArg F.restrict (congrArg Session.records h :)
  foreign := fun group r h_find _ => by
    rw [show s'.records = s.records from (congrArg Session.records h :)] at h_find
    exact .inl h_find

theorem Loads.keep {group : String} {r : Interaction} (h_group : group ∉ F.groups)
    (h_foreign : F.Foreign r) (s : Session) :
    F.Loads s { s with records := s.records.insert group r } where
  rest := rfl
  records := by
    simp only [restrict, Registry.filter_insert, decide_eq_false h_group, Bool.false_eq_true,
      if_false]
  foreign := fun group' r' h_find _ => by
    have h_there : (s.records.insert group r).find? group' = some r' := h_find
    rw [Registry.find?_insert] at h_there
    split at h_there
    · exact .inr (Option.some.inj h_there ▸ h_foreign)
    · exact .inl h_there

/-- **Two memories still agree** when an analysis has been at one of them. -/
theorem Agree.loads {h : Host} {t : Session} (hE : F.Agree s t h) (h_loads : F.Loads s s')
    (h_recalls : F.Recalls s') : F.Agree s' t h where
  fits := by
    refine ⟨?_, h_recalls, fun group r h_find h_group => ?_, fun part h_part r h_find => ?_⟩
    · exact (congrArg Session.config h_loads.rest :).trans hE.fits.config
    · exact (h_loads.foreign group r h_find h_group).elim
        (hE.fits.foreign group r · h_group) fun h_foreign => h_foreign
    · have h_group := (F.covers part h_part).1
      rw [← F.find?_restrict _ h_group, h_loads.records, F.find?_restrict _ h_group] at h_find
      exact hE.fits.retired part h_part r h_find
  fits' := hE.fits'
  rest := h_loads.rest.trans hE.rest
  records := h_loads.records.trans hE.records
  stored := hE.stored

end Footprint

/-! ### Analyses -/

namespace Watching

variable {F : Footprint} {m m' m'' : Moment Session} {handlers : Registry String Handler}

/-- What every task leaves as it is. -/
structure Continues (m m' : Moment Session) : Prop where
  config : m'.memory.config = m.memory.config
  handlers : m'.memory.handlers = m.memory.handlers
  serves : ∀ collection, m.host.Serves collection → m'.host.Serves collection

/-- **What an analysis does**: nothing to the host that has the collection. -/
structure Looks (F : Footprint) (m m' : Moment Session) : Prop where
  loads : F.Loads m.memory m'.memory
  host : ∀ collection, m.host.Serves collection → m'.host = m.host

theorem Continues.refl (m : Moment Session) : Continues m m :=
  ⟨rfl, rfl, fun _ hs => hs⟩

theorem Continues.trans (h : Continues m m') (h' : Continues m' m'') : Continues m m'' :=
  ⟨h'.config.trans h.config, h'.handlers.trans h.handlers,
    fun collection hs => h'.serves collection (h.serves collection hs)⟩

theorem Looks.continues (h : Looks F m m') : Continues m m' where
  config := (congrArg Session.config h.loads.rest :)
  handlers := (congrArg Session.handlers h.loads.rest :)
  serves := fun collection hs => by rwa [h.host collection hs]

theorem Looks.trans (h : Looks F m m') (h' : Looks F m' m'') : Looks F m m'' :=
  ⟨h.loads.trans h'.loads, fun collection hs =>
    (h'.host collection (h.continues.serves collection hs)).trans (h.host collection hs)⟩

theorem Looks.query {c : Call} (hc : c.method.mutates = false) : Looks F m (m.perform c).2 :=
  ⟨.refl m.memory, fun _ hs => congrArg Prod.snd (hs.query hc)⟩

/-- **The terms of an analysis**: it reads no text of the footprint. -/
def looking (F : Footprint) : Terms Session where
  rely _ m m' := Continues m m'
  may c m := F.Avoids m.host c
  step m m' := Looks F m m'
  rely_refl _ m := .refl m
  rely_trans h h' := h.trans h'
  step_refl m := ⟨.refl m.memory, fun _ _ => rfl⟩
  step_trans h h' := h.trans h'
  step_node _ _ := .query rfl

/-- What a session is served with. -/
structure Served (F : Footprint) (handlers : Registry String Handler) (m : Moment Session) :
    Prop where
  serves : m.host.Serves F.config.collection
  config : m.memory.config = F.config
  handlers : m.memory.handlers = handlers

theorem Served.continues (h : Served F handlers m) (h_later : Continues m m') :
    Served F handlers m' :=
  ⟨h_later.serves _ h.serves, h_later.config.trans h.config, h_later.handlers.trans h.handlers⟩

/-- **The discipline of analyses.** -/
def looker (F : Footprint) (handlers : Registry String Handler) : Discipline Session :=
  (looking F).keeping (Served F handlers)

namespace Looker

theorem permits {c : Call} (hc : c.method.mutates = false) : (looker F handlers).Permits c := by
  refine Terms.permits fun m m' hI h_rely _ => ?_
  have h_looks : Looks F m' (m'.perform c).2 := .query hc
  exact ⟨h_looks, (hI.continues h_rely).continues h_looks.continues⟩

theorem converses : (looker F handlers).Converses
    fun s => s.config = F.config ∧ s.handlers = handlers where
  reads := Terms.sees _ fun _ hI => ⟨hI.config, hI.handlers⟩
  changes f hf := by
    refine Terms.modifies fun m hI => ?_
    have h_looks : Looks F m (m.withMemory (f m.memory)) := ⟨.of_core (hf _), fun _ _ => rfl⟩
    exact ⟨h_looks, hI.continues h_looks.continues⟩
  delivers := Terms.delivers

/-- **The collection is there**, so it is not created. -/
theorem ensureCollection_holds :
    (looker F handlers).Holds (Wiring.ensureCollection F.config.collection) := by
  intro b m h_step hI
  refine (Safe.ask (P := ends (fun (found : Registry String String) b m =>
      (Looks F b m ∧ Served F handlers m) ∧ found.contains F.config.collection = true)
    fun _ _ => False) h_step fun m' h_rely _ => ?_).bind (fun found b' m' h_found => ?_)
    fun _ _ _ hE => hE.elim
  · have hI' := hI.continues h_rely
    have h_looks : Looks F m' (m'.perform .collections).2 := .query rfl
    have hI'' := hI'.continues h_looks.continues
    unfold Moment.perform at h_looks hI'' ⊢
    rw [hI'.serves.query rfl] at h_looks hI'' ⊢
    exact ⟨⟨h_looks, hI''⟩, hI'.serves.collection⟩
  · obtain ⟨h_done, h_there⟩ := h_found
    obtain ⟨id, h_id⟩ := Registry.contains_iff.mp h_there
    rw [h_id]
    exact h_done

/-- A record that is read is not one of the footprint. -/
theorem get_holds (group : String) : (looker F handlers).Holds (Records.get group) := by
  refine Terms.get_holds (T := looking F) (fun m m' key hI h_rely _ => ?_)
    (fun group text b m i h_just h_parse => ?_) group
  · have hI' := hI.continues h_rely
    have h_looks : Looks F m' (m'.perform (.storageGet key)).2 := .query rfl
    exact ⟨h_rely.config, hI', h_looks, hI'.continues h_looks.continues⟩
  · obtain ⟨hI, h_may, h_text, rfl⟩ := h_just
    obtain ⟨h_keys, h_foreign⟩ := h_may text (h_text ▸ List.mem_singleton_self text)
    rw [hI.config] at h_keys h_parse
    have h_group : group ∉ F.groups := fun h_mem => h_keys group h_mem rfl
    have h_looks : Looks F b
        ((b.perform (.storageGet (b.memory.config.storageKey group))).2.withMemory
          { b.memory with records := b.memory.records.insert group i }) :=
      ⟨.keep h_group (h_foreign i (h_parse ▸ List.mem_singleton_self i)) _,
        fun _ hs => congrArg Prod.snd (hs.query rfl)⟩
    exact ⟨h_looks, hI.continues h_looks.continues⟩

theorem search_holds : (looker F handlers).Holds Analysis.search := by
  refine Analysis.search_holds (fun c hc => permits ?_) ?_
    (converses.config (p := (· = F.config)) fun _ hs => hs.1) ?_ get_holds
  · cases c <;> first | rfl | cases hc
  · exact Terms.walks (fun _ _ _ hI h_rely => hI.continues h_rely)
      fun _ m hI => hI.continues (Looks.query (F := F) rfl).continues
  · rintro _ rfl
    exact ensureCollection_holds

end Looker

end Watching

/-- **Whether an entry point analyses the selection.** -/
def Entry.looks (config : Config) (handlers : Registry String Handler) : Entry → Bool
  | .notice => true
  | .message inbound =>
    decide ((Entry.message inbound).handler? config handlers = some .analyse)

namespace Watching

variable {F : Footprint} {m m' m'' : Moment Session} {handlers : Registry String Handler}

theorem entry_looks {entry : Entry} (h_looks : entry.looks F.config handlers = true)
    (hm : Served F handlers m) :
    entry.program.Safe (looking F) ((looking F).closing fun _ _ => True) m m := by
  have h_holds : (looker F handlers).Holds entry.program := by
    refine Entry.holds Looker.converses (fun _ => Looker.search_holds) fun e handler h_handler => ?_
    cases entry with
    | notice => cases h_handler
    | message inbound =>
      have h_analyse := of_decide_eq_true h_looks
      obtain rfl := Option.some.inj (h_handler.symm.trans h_analyse)
      exact Session.analyse_holds Looker.converses Looker.search_holds
  exact (Terms.keeping_safe h_holds hm).mono fun _ _ _ h_done => ⟨h_done.1, trivial⟩

/-! ### The task that authors -/

/-- **What authoring does**: the groups of the context stay. -/
structure Carries (m m' : Moment Session) : Prop extends Continues m m' where
  groups : m'.memory.context.groups = m.memory.context.groups

theorem Carries.trans (h : Carries m m') (h' : Carries m' m'') : Carries m m'' :=
  ⟨h.toContinues.trans h'.toContinues, h'.groups.trans h.groups⟩

theorem Carries.perform (m : Moment Session) (c : Call) : Carries m (m.perform c).2 :=
  ⟨⟨rfl, rfl, fun _ hs => hs.perform c⟩, rfl⟩

theorem Carries.withMemory {s : Session} (h_config : s.config = m.memory.config)
    (h_handlers : s.handlers = m.memory.handlers)
    (h_groups : s.context.groups = m.memory.context.groups) : Carries m (m.withMemory s) :=
  ⟨⟨h_config, h_handlers, fun _ hs => hs⟩, h_groups⟩

theorem Carries.recalls (h : Carries m m') (h_recalls : F.Recalls m.memory) :
    F.Recalls m'.memory := fun action h_action => by
  rw [Context.group, h.groups]
  exact h_recalls action h_action

/-- **The terms on which an interaction is carried out**: the others change nothing of its
footprint, and it goes on where it finds the groups of its nested actions as they were. -/
def carrying (F : Footprint) : Terms Session where
  rely _ m m' := F.Loads m.memory m'.memory ∧ m'.host.Similar m.host
  may _ m := F.Recalls m.memory
  step m m' := Carries m m'
  rely_refl _ m := ⟨.refl m.memory, .refl m.host⟩
  rely_trans h h' := ⟨h.1.trans h'.1, h'.2.trans h.2⟩
  step_refl m := ⟨.refl m, rfl⟩
  step_trans h h' := h.trans h'
  step_node m id := .perform m (.node id)

theorem carryOut_carries (i : Interaction) {b : Moment Session} (h_step : Carries b m) :
    (Authoring.carryOut i).Safe (carrying F) ((carrying F).closing fun _ _ => True) b m := by
  let D := (carrying F).keeping fun _ => True
  have h_permits (c : Call) : D.Permits c :=
    Terms.permits fun _ m' _ _ _ => ⟨.perform m' c, trivial⟩
  have h_sees {τ : Type} (view : Session → τ) : D.Sees view fun _ => True :=
    Terms.sees view fun _ _ => trivial
  have h_records : D.Records :=
    ⟨h_sees _, h_sees _, fun f => Terms.modifies fun m _ => ⟨.withMemory rfl rfl rfl, trivial⟩,
      fun c _ => h_permits c⟩
  rw [Authoring.carryOut_eq, Authoring.admission_eq]
  refine Safe.read (f := fun s : Session => _) ?_
  change Safe _ _ (Program.lift (m.memory.admitted i) >>= _) b m
  cases m.memory.admitted i with
  | error e => exact ⟨h_step, trivial⟩
  | ok group =>
    exact h_records.proceed_holds (fun c _ => h_permits c) (fun _ _ => h_sees _) group b m h_step
      trivial

/-- **An interaction is carried out beside analyses as it is alone.** -/
theorem carryOut_comes (hE : F.Agree m.memory m.memory m.host) {b : Moment Session}
    (h_step : Carries b m) : (Authoring.carryOut F.interaction).Safe (carrying F)
      (fun r b m' => ((carrying F).closing (fun _ _ => True) r b m') ∧ ComesTo (fun _ => F.Agree)
        ((Authoring.carryOut F.interaction).outcome m.memory m.host) r m') b m :=
  (Footprint.carryOut_alike hE rfl).safe (T := carrying F)
    (fun _ _ _ _ _ h_rely h_may hE => hE.loads h_rely.1 h_may) (fun _ _ _ h_rely => h_rely.2)
    (carryOut_carries F.interaction h_step) rfl (.refl m.host)

end Watching

end Clickwork
