import Clickwork.Proofs.Later
import Clickwork.Proofs.Resolution
import Clickwork.Proofs.Scene.Removal
import Clickwork.Proofs.Scene.Shown
import Clickwork.Proofs.Targets
import Clickwork.Wiring

/-!
# What wiring does to a scene

On a host that only fails at storage calls and at bindings (`Host.Reliable`), each step of wiring is
a change of the scene that can be told beforehand:

* `createMarkers_ends` — the markers of an interaction are added;
* `fillSlots_ends` — the state variables are settled, each bound if the host accepts the binding
  when its turn comes (`Host.accepts`);
* `install_ends` — every instance is left with its own reaction.

`apply_settled` puts them together for a group on which the primary property resolves, and
`apply_inert` for any other group.
-/

namespace Clickwork

open Scene (Placement variableId settleAll slotsFrom)

variable {σ α β : Type}

/-! ### Reliable hosts -/

namespace Host

/-- **No failure is arranged**, but for calls to the storage and for bindings. -/
def Reliable (h : Host) : Prop :=
  ∀ method : Method, method.isStorage = false → method ≠ .bindProperty → h.Spares method

theorem Later.reliable {h h' : Host} (h_later : h.Later h') (hr : h.Reliable) : h'.Reliable :=
  fun method h_storage h_bind => h_later.spares method (hr method h_storage h_bind)

theorem Reliable.perform {h : Host} (hr : h.Reliable) {c : Call}
    (h_storage : c.method.isStorage = false) (h_bind : c.method ≠ .bindProperty) :
    h.perform c = h.answer c :=
  perform_of_spares (hr c.method h_storage h_bind)

theorem Reliable.setReactions {h : Host} (hr : h.Reliable) : h.Spares .setReactions :=
  hr _ rfl (by simp)

theorem Reliable.mainComponent {h : Host} (hr : h.Reliable) : h.Spares .mainComponent :=
  hr _ rfl (by simp)

/-- Whether a failure is arranged for the binding with the given number from now on. -/
def strikesBinding (h : Host) (number : Nat) : Bool :=
  (h.faults.find? .bindProperty).any fun f => { f with count := f.count + number }.strikes

/-- **Whether a node will accept a binding**, if it is the one with the given number from now on.
The variable is taken to be there. -/
def accepts (h : Host) (number : Nat) (node property : String) : Bool :=
  !h.strikesBinding number && h.scene.admits node property

theorem Later.accepts {h h' : Host} (h_later : h.Later h') {number number' : Nat}
    (h_strikes : h'.strikesBinding number = h.strikesBinding number') (node property : String) :
    h'.accepts number node property = h.accepts number' node property := by
  rw [Host.accepts, Host.accepts, h_strikes, h_later.kept.admits]

/-- **A binding** to a variable that is there is made if it is accepted; the next one is then the
one after it. -/
theorem perform_bindProperty (h : Host) (node property : String) {target : String}
    (h_target : h.scene.variableTable.contains target = true) :
    ∃ result h', h.perform (.bindProperty node property target) = (result, h') ∧
      (h.accepts 1 node property = true ∧ result = .ok () ∧
          h'.scene = h.scene.bind node property target ∨
        h.accepts 1 node property = false ∧ (∃ e, result = .error e) ∧ h'.scene = h.scene) ∧
      h'.storage = h.storage ∧
      ∀ number, h'.strikesBinding number = h.strikesBinding (number + 1) := by
  obtain ⟨e, h_perform⟩ := h.perform_eq (.bindProperty node property target)
  have h_next : ∀ number, (h.counting .bindProperty 1).strikesBinding number =
      h.strikesBinding (number + 1) := fun number =>
    (h.strikes_counting .bindProperty 1 number).trans (by rw [Nat.add_comm]; rfl)
  rw [h_perform, Call.method]
  by_cases h_strikes : h.strikes .bindProperty 1 = true
  · have h_accepts : h.accepts 1 node property = false := by
      rw [accepts, show h.strikesBinding 1 = true from h_strikes, Bool.not_true, Bool.false_and]
    rw [if_pos h_strikes]
    exact ⟨_, _, rfl, Or.inr ⟨h_accepts, ⟨e, rfl⟩, rfl⟩, rfl, h_next⟩
  · -- the answer is that of the scene
    have h_accepts : h.accepts 1 node property = h.scene.admits node property := by
      rw [accepts, show h.strikesBinding 1 = false from eq_false_of_ne_true h_strikes,
        Bool.not_false, Bool.true_and]
    rw [if_neg h_strikes, h_accepts, answer,
      show (h.counting .bindProperty 1).scene = h.scene from rfl]
    rcases Scene.bindProperty_cases node property h_target with
      ⟨h_admits, h_bound⟩ | ⟨h_admits, e, h_refused⟩
    · rw [h_bound]
      exact ⟨_, _, rfl, Or.inl ⟨h_admits, rfl, rfl⟩, rfl, h_next⟩
    · rw [h_refused]
      exact ⟨_, _, rfl, Or.inr ⟨h_admits, ⟨e, rfl⟩, rfl⟩, rfl, h_next⟩

end Host

/-! ### Calls and loops -/

theorem Program.outcome_ask_of_reliable {s : σ} {h : Host} (hr : h.Reliable) {c : Call}
    (h_storage : c.method.isStorage = false) (h_bind : c.method ≠ .bindProperty) :
    (Program.ask c : Program σ c.Answer).outcome s h = ((h.answer c).1, s, (h.answer c).2) :=
  outcome_ask_of_spares (hr c.method h_storage h_bind)

/-- A loop whose steps change nothing. -/
theorem Program.outcome_mapM_of_forall {f : α → Program σ β} {g : α → β} {s : σ} {h : Host}
    (xs : List α) (hf : ∀ x ∈ xs, (f x).outcome s h = (.ok (g x), s, h)) :
    (xs.mapM f).outcome s h = (.ok (xs.map g), s, h) := by
  induction xs with
  | nil => rfl
  | cons x xs ih =>
    rw [List.mapM_cons, Program.outcome_bind_ok (hf x List.mem_cons_self),
      Program.outcome_bind_ok (ih fun x hx => hf x (List.mem_cons_of_mem _ hx))]
    rfl

namespace Wiring

variable {s : σ} {h : Host}

/-! ### Markers -/

/-- A new variable is given its value at once. -/
theorem addVariable_eq {s : Scene} (hs : s.Fresh) {collection : String}
    (h_collection : collection ∈ s.collections.values) (name type : String) (value : Json) :
    ∃ s', s.createVariable name collection type = .ok (variableId s.nextId, s') ∧
      s'.setValue (variableId s.nextId) value = .ok (s.addVariable collection name type value) := by
  refine ⟨_, Scene.createVariable_eq s h_collection, ?_⟩
  have h_new := hs s.nextId (Nat.le_refl _)
  simp only [Scene.setValue, Registry.contains, Registry.find?_insert_self, Option.isSome_some,
    if_true, Registry.modify_insert_self _ _ _ _ h_new, Scene.addVariable]

/-- Creating a variable and giving it a value, on a host that does not fail. -/
theorem outcome_create (hr : h.Reliable) (hs : h.scene.Fresh) {collection name type : String}
    (h_collection : collection ∈ h.scene.collections.values) (value : Json) :
    (do let id ← Program.ask (.createVariable name collection type)
        Program.ask (.setValue id value)
        return id : Program σ String).outcome s h =
      (.ok (variableId h.scene.nextId), s,
        { h with scene := h.scene.addVariable collection name type value }) := by
  obtain ⟨s', h_created, h_set⟩ := addVariable_eq hs h_collection name type value
  have h_create : h.perform (.createVariable name collection type) =
      (.ok (variableId h.scene.nextId), { h with scene := s' }) := by
    rw [hr.perform rfl (by simp [Call.method])]
    simp only [Host.answer, h_created]
  have h_value : ({ h with scene := s' } : Host).perform
      (.setValue (variableId h.scene.nextId) value) =
      (.ok (), { h with scene := h.scene.addVariable collection name type value }) := by
    have hr' : ({ h with scene := s' } : Host).Reliable := hr
    rw [hr'.perform rfl (by simp [Call.method])]
    simp only [Host.answer, h_set, Host.change]
  rw [Program.outcome_bind_ok (by rw [Program.outcome_ask, h_create]),
    Program.outcome_bind_ok (by rw [Program.outcome_ask, h_value])]
  rfl

/-- **The markers of an interaction are added**, switched off. -/
theorem createMarkers_ends (hr : h.Reliable) (hs : h.scene.Fresh) {collection : String}
    (h_collection : collection ∈ h.scene.collections.values) (i : Interaction) :
    (createMarkers collection i : Program σ _).Ends s h fun r s' h' =>
      (∃ ids, r = .ok ids) ∧ s' = s ∧
        h' = { h with scene := h.scene.addMarkers collection (markerNames i) } := by
  unfold createMarkers
  generalize markerNames i = names
  induction names generalizing h with
  | nil => exact ⟨⟨[], rfl⟩, rfl, rfl⟩
  | cons name names ih =>
    rw [List.mapM_cons]
    refine Program.Ends.bind_eq (outcome_create hr hs h_collection (.bool false)) ?_
    -- the host after the first marker is as reliable, and the next ids are not in use either
    have h_rest := ih (h := { h with
      scene := h.scene.addVariable collection name "BOOLEAN" (.bool false) })
      hr (hs.addVariable _ _ _ _) h_collection
    refine h_rest.bind ?_ ?_
    · rintro ids s' h' - ⟨-, h_memory, h_host⟩
      exact ⟨⟨_, rfl⟩, h_memory, h_host⟩
    · rintro e s' h' - ⟨⟨ids, h_ok⟩, -⟩
      cases h_ok

/-! ### State variables -/

theorem outcome_readValue (hr : h.Reliable) (property : String) (i : Instance) :
    (readValue property i : Program σ String).outcome s h =
      (.ok (h.scene.captured property i.id), s, h) := by
  have h_ask : (Program.tryAsk (.instanceProperties i.id) : Program σ _).outcome s h =
      (.ok (h.scene.instanceProperties i.id), s, h) := by
    rw [Program.outcome_tryAsk, hr.perform rfl (by simp [Call.method])]
    rfl
  rw [readValue, Program.outcome_bind_ok h_ask, Scene.captured]
  cases h.scene.instanceProperties i.id with
  | error e => exact Program.outcome_bind_ok (Program.outcome_log _ _ _ _ _) _
  | ok values =>
    simp only
    rcases (values.find? property).bind Json.present? with _ | raw <;> rfl

/-- The placement of an instance's state variable, if it is the one with the given index. -/
def placement (plan : Plan) (h : Host) (i : Instance) (index : Nat) : Placement where
  node := i.id
  name := variableName plan.interaction index plan.authored
  value := h.scene.captured plan.property i.id
  bound := h.accepts (index + 1) i.id plan.property

/-- **The placements of the state variables of a group.** -/
def placements (plan : Plan) (h : Host) (instances : List Instance) : List Placement :=
  instances.zipIdx.map fun (i, index) => placement plan h i index

/-- The slot of one instance: its variable is settled, and bound if the host accepts. -/
theorem fillSlot_ends (hr : h.Reliable) (hs : h.scene.Fresh) {plan : Plan} {captured : List String}
    (h_collection : plan.collection ∈ h.scene.collections.values) (i : Instance) {index : Nat}
    {p : Placement} (h_node : p.node = i.id)
    (h_name : p.name = variableName plan.interaction index plan.authored)
    (h_value : captured[index]? = some p.value)
    (h_bound : p.bound = h.accepts 1 i.id plan.property) :
    (fillSlot plan captured (i, index) : Program σ Slot).Ends s h fun r s' h' =>
      r = .ok (if p.bound = true then .bound (variableId h.scene.nextId)
        else .unbound (variableId h.scene.nextId)) ∧
      s' = s ∧ h'.storage = h.storage ∧
      h'.scene = Scene.settle plan.collection plan.property h.scene p ∧
      ∀ number, h'.strikesBinding number = h.strikesBinding (number + 1) := by
  obtain ⟨added, h_added⟩ : ∃ added,
      added = h.scene.addVariable plan.collection p.name "STRING" (.str p.value) := ⟨_, rfl⟩
  have h_create : (createState plan.collection p.name (some p.value) : Program σ String).outcome
      s h = (.ok (variableId h.scene.nextId), s, { h with scene := added }) := by
    rw [h_added]
    exact outcome_create hr hs h_collection (.str p.value)
  have h_created : (createState plan.collection
      (variableName plan.interaction index plan.authored) captured[index]? :
        Program σ String).attempt.outcome s h =
      (.ok (.ok (variableId h.scene.nextId)), s, { h with scene := added }) := by
    rw [Program.outcome_attempt, h_value, ← h_name, h_create]
  have h_target : added.variableTable.contains (variableId h.scene.nextId) = true := by
    rw [h_added]
    exact Registry.contains_iff.mpr ⟨_, Registry.find?_insert_self _ _ _⟩
  have h_accepts : ({ h with scene := added } : Host).accepts 1 i.id plan.property = p.bound := by
    rw [h_added]
    exact h_bound.symm
  obtain ⟨result, h', h_eq, h_result, h_storage, h_strikes⟩ :=
    Host.perform_bindProperty { h with scene := added } i.id plan.property h_target
  rw [fillSlot]
  refine Program.Ends.bind_eq h_created ?_
  refine Program.Ends.bind_eq (by rw [Program.outcome_tryAsk, h_eq]) ?_
  rw [h_accepts] at h_result
  rcases h_result with ⟨h_true, rfl, h_scene⟩ | ⟨h_false, ⟨e, rfl⟩, h_scene⟩
  · refine ⟨by rw [if_pos h_true]; rfl, rfl, h_storage, ?_, h_strikes⟩
    rw [Scene.settle, if_pos h_true, h_node, ← h_added]
    exact h_scene
  · have h_not : ¬p.bound = true := by simp [h_false]
    refine Program.Ends.bind_eq (Program.outcome_log _ _ _ _ _) ?_
    refine ⟨by rw [if_neg h_not]; rfl, rfl, h_storage, ?_, h_strikes⟩
    rw [Scene.settle, if_neg h_not, ← h_added]
    exact h_scene

/-- The slots of a list of instances, each with the placement that is meant for it. -/
theorem fillSlots_ends_of_entries (hr : h.Reliable) (hs : h.scene.Fresh) {plan : Plan}
    {captured : List String} (h_collection : plan.collection ∈ h.scene.collections.values)
    {entries : List (Instance × Nat)} {ps : List Placement}
    (h_entries : List.Forall₂ (fun e p => p.node = e.1.id ∧
      p.name = variableName plan.interaction e.2 plan.authored ∧
      captured[e.2]? = some p.value) entries ps)
    (h_bound : ∀ (k : Nat) (p : Placement), ps[k]? = some p →
      p.bound = h.accepts (k + 1) p.node plan.property) :
    (entries.mapM (fillSlot plan captured) : Program σ _).Ends s h fun r s' h' =>
      r = .ok (slotsFrom h.scene.nextId ps) ∧ s' = s ∧ h'.storage = h.storage ∧
      h'.scene = settleAll plan.collection plan.property h.scene ps := by
  induction h_entries generalizing h with
  | nil => exact ⟨rfl, rfl, rfl, rfl⟩
  | @cons e p entries ps h_entry h_entries ih =>
    obtain ⟨i, index⟩ := e
    obtain ⟨h_node, h_name, h_value⟩ := h_entry
    have h_first : p.bound = h.accepts 1 i.id plan.property := h_node ▸ h_bound 0 p rfl
    rw [List.mapM_cons]
    refine (fillSlot_ends hr hs h_collection i h_node h_name h_value h_first).bind ?_ ?_
    · rintro slot s' h' h_later ⟨h_slot, rfl, h_storage, h_scene, h_strikes⟩
      have h_fresh : h'.scene.Fresh := h_scene ▸ hs.settle p
      have h_collections : h'.scene.collections = h.scene.collections := by
        have h_settled : Scene.Extended plan.collection (fun _ => True) h.scene
            (Scene.settle plan.collection plan.property h.scene p) := .settle hs trivial
        rw [h_scene]
        exact h_settled.collections
      -- one binding has been tried, so the host counts on from the next one
      have h_bound' : ∀ (k : Nat) (p : Placement), ps[k]? = some p →
          p.bound = h'.accepts (k + 1) p.node plan.property := by
        intro k p hk
        rw [h_later.accepts (h_strikes (k + 1))]
        exact h_bound (k + 1) p hk
      have h_rest := ih (h_later.reliable hr) h_fresh (h_collections ▸ h_collection) h_bound'
      refine h_rest.bind ?_ ?_
      · rintro slots s'' h'' - ⟨h_slots, rfl, h_storage', h_scene'⟩
        refine ⟨?_, rfl, h_storage'.trans h_storage, ?_⟩
        · rw [Except.ok.inj h_slots, Except.ok.inj h_slot, h_scene, Scene.nextId_settle]
          rfl
        · exact h_scene'.trans (by rw [h_scene, Scene.settleAll_cons])
      · rintro e s'' h'' - ⟨h_error, -⟩
        cases h_error
    · rintro e s' h' - ⟨h_error, -⟩
      cases h_error

/-- **The slots of a group**: the state variables of its instances are settled. -/
theorem fillSlots_ends (hr : h.Reliable) (hs : h.scene.Fresh) (plan : Plan)
    (h_collection : plan.collection ∈ h.scene.collections.values) (instances : List Instance) :
    (fillSlots plan instances (instances.map fun i => h.scene.captured plan.property i.id) :
      Program σ _).Ends s h fun r s' h' =>
        r = .ok (slotsFrom h.scene.nextId (placements plan h instances)) ∧ s' = s ∧
        h'.storage = h.storage ∧ h'.scene =
          settleAll plan.collection plan.property h.scene (placements plan h instances) := by
  refine fillSlots_ends_of_entries hr hs h_collection ?_ ?_
  · rw [placements, List.forall₂_map_right_iff, List.forall₂_same]
    rintro ⟨i, index⟩ h_mem
    have h_get := List.mem_zipIdx_iff_getElem?.mp h_mem
    exact ⟨rfl, rfl, by simp [placement, h_get]⟩
  · intro k p hk
    rw [placements, List.getElem?_map, Option.map_eq_some_iff] at hk
    obtain ⟨⟨i, index⟩, h_get, rfl⟩ := hk
    rw [List.getElem?_zipIdx, Option.map_eq_some_iff] at h_get
    obtain ⟨i', -, h_pair⟩ := h_get
    obtain ⟨rfl, rfl⟩ := Prod.mk.inj h_pair
    simp [placement]

theorem getElem?_placements {plan : Plan} {instances : List Instance} {k : Nat} :
    (placements plan h instances)[k]? = (instances[k]?).map fun i => placement plan h i k := by
  simp [placements, Function.comp_def]

/-! ### Reactions -/

/-- A call that sets reactions has the effect of placing them, whether it is refused or not. -/
theorem tryAsk_setReactions (hs : h.Spares .setReactions) (node : String)
    (reactions : List Reaction) :
    ∃ result, (Program.tryAsk (.setReactions node reactions) : Program σ _).outcome s h =
      (.ok result, s, { h with scene := h.scene.place node reactions }) := by
  have hs' : h.Spares (Call.setReactions node reactions).method := hs
  rw [Program.outcome_tryAsk, Host.perform_of_spares hs']
  simp only [Host.answer]
  rcases h.scene.setReactions_eq_place node reactions with h_ok | ⟨⟨e, h_error⟩, h_same⟩
  · rw [h_ok]
    exact ⟨_, rfl⟩
  · rw [h_error, h_same]
    exact ⟨_, rfl⟩

/-- A loop each step of which places reactions. -/
theorem outcome_mapM_place {f : α → Program σ β} (change : α → String × List Reaction)
    (hf : ∀ (h : Host) (x : α), h.Reliable → ∃ b, (f x).outcome s h =
      (.ok b, s, { h with scene := h.scene.place (change x).1 (change x).2 }))
    (hr : h.Reliable) (xs : List α) :
    ∃ bs, (xs.mapM f).outcome s h = (.ok bs, s,
      { h with scene := h.scene.placeAll (xs.map change) }) := by
  induction xs generalizing h with
  | nil => exact ⟨[], rfl⟩
  | cons x xs ih =>
    obtain ⟨b, h_first⟩ := hf h x hr
    have hr' : ({ h with scene := h.scene.place (change x).1 (change x).2 } : Host).Reliable := hr
    obtain ⟨bs, h_rest⟩ := ih hr'
    refine ⟨b :: bs, ?_⟩
    rw [List.mapM_cons, Program.outcome_bind_ok h_first, Program.outcome_bind_ok h_rest]
    rfl

/-- A loop without results is one whose results are dropped. -/
theorem forM_eq_mapM (f : α → Program σ Unit) (xs : List α) :
    xs.forM f = (do let _ ← xs.mapM f; return ()) := by
  induction xs with
  | nil => rfl
  | cons x xs ih =>
    change (f x >>= fun _ => xs.forM f) = _
    rw [ih, List.mapM_cons]
    simp

theorem clear_placed (h : Host) (e : Instance × Nat) (hr : h.Reliable) :
    ∃ b, (clear e : Program σ Unit).outcome s h =
      (.ok b, s, { h with scene := h.scene.place e.1.id [] }) := by
  obtain ⟨result, h_ask⟩ := tryAsk_setReactions (s := s) hr.setReactions e.1.id []
  refine ⟨(), ?_⟩
  rw [clear, Program.outcome_bind_ok h_ask]
  cases result with
  | error e => exact Program.outcome_log _ _ _ _ _
  | ok u => rfl

theorem installOne_placed (h : Host) (e : Instance × Reaction) (hr : h.Reliable) :
    ∃ b, (installOne e : Program σ Bool).outcome s h =
      (.ok b, s, { h with scene := h.scene.place e.1.id [e.2] }) := by
  obtain ⟨i, reaction⟩ := e
  obtain ⟨result, h_ask⟩ := tryAsk_setReactions (s := s) hr.setReactions i.id [reaction]
  cases result with
  | error e =>
    refine ⟨false, ?_⟩
    rw [installOne, Program.outcome_bind_ok h_ask]
    exact Program.outcome_bind_ok (Program.outcome_log _ _ _ _ _) _
  | ok u =>
    refine ⟨true, ?_⟩
    rw [installOne, Program.outcome_bind_ok h_ask]
    rfl

/-- What installing places: nothing first, and then the reactions. -/
def installations (instances : List Instance) (reactions : List Reaction) :
    List (String × List Reaction) :=
  instances.map (fun i => (i.id, [])) ++ (instances.zip reactions).map fun e => (e.1.id, [e.2])

/-- **Every instance is left with its own reaction**, unless it refuses. -/
theorem install_ends (hr : h.Reliable) (instances : List Instance) (reactions : List Reaction) :
    ∃ count, (install instances reactions : Program σ Nat).outcome s h =
      (.ok count, s,
        { h with scene := h.scene.placeAll (installations instances reactions) }) := by
  obtain ⟨units, h_clear⟩ := outcome_mapM_place (s := s)
    (fun e : Instance × Nat => (e.1.id, [])) clear_placed hr instances.zipIdx
  obtain ⟨cleared, h_cleared⟩ : ∃ cleared, cleared =
      h.scene.placeAll (instances.map fun i => (i.id, [])) := ⟨_, rfl⟩
  have h_ids : instances.zipIdx.map (fun e => (e.1.id, ([] : List Reaction))) =
      instances.map fun i => (i.id, []) := by
    have h_fst := congrArg (List.map fun i : Instance => (i.id, ([] : List Reaction)))
      (List.zipIdx_map_fst 0 instances)
    rwa [List.map_map] at h_fst
  -- every instance is cleared before the first reaction is installed
  rw [h_ids, ← h_cleared] at h_clear
  have hr' : ({ h with scene := cleared } : Host).Reliable := hr
  obtain ⟨installed, h_install⟩ :=
    outcome_mapM_place (s := s) (fun e : Instance × Reaction => (e.1.id, [e.2]))
      installOne_placed hr' (instances.zip reactions)
  refine ⟨installed.count true, ?_⟩
  rw [install, forM_eq_mapM, bind_assoc, Program.outcome_bind_ok h_clear, pure_bind,
    Program.outcome_bind_ok h_install, installations, Scene.placeAll_append, ← h_cleared]
  rfl

section Installations

variable {instances : List Instance} {rs : List Reaction} {t : Scene}

/-- An instance that is not listed twice is left with the reaction at its place. -/
theorem lastPlaced_installations (h_nodup : (instances.map (·.id)).Nodup)
    (h_length : rs.length = instances.length) {k : Nat} {i : Instance} {r : Reaction}
    (hi : instances[k]? = some i) (hr : rs[k]? = some r) (h_accepts : i.id ∉ t.rejectingReactions) :
    t.lastPlaced (installations instances rs) i.id = some [r] := by
  have h_keys : (((instances.zip rs).map fun e => (e.1.id, [e.2])).map Prod.fst) =
      instances.map (·.id) := by
    rw [List.map_map]
    have h_zip : (instances.zip rs).map Prod.fst = instances :=
      List.map_fst_zip (Nat.le_of_eq h_length.symm)
    have h_fst := congrArg (List.map (·.id)) h_zip
    rwa [List.map_map] at h_fst
  have h_mem : (i.id, [r]) ∈ (instances.zip rs).map fun e => (e.1.id, [e.2]) := by
    refine List.mem_map.mpr ⟨(i, r), ?_, rfl⟩
    exact List.mem_of_getElem? (List.getElem?_zip_eq_some.mpr ⟨hi, hr⟩)
  rw [Scene.lastPlaced, if_neg h_accepts, installations, List.filter_append,
    Registry.filter_eq_singleton (h_keys ▸ h_nodup) h_mem, List.getLast?_concat, Option.map_some]

/-- What is installed on a node is nothing or one of the reactions. -/
theorem of_lastPlaced_installations {node : String} {reactions : List Reaction}
    (h : t.lastPlaced (installations instances rs) node = some reactions) :
    node ∈ instances.map (·.id) ∧ (reactions = [] ∨ ∃ r ∈ rs, reactions = [r]) := by
  unfold Scene.lastPlaced at h
  split at h
  · cases h
  · obtain ⟨c, h_last, rfl⟩ := Option.map_eq_some_iff.mp h
    have h_mem := List.mem_of_getLast? h_last
    rw [List.mem_filter, installations, List.mem_append] at h_mem
    obtain ⟨h_mem | h_mem, h_node⟩ := h_mem
    · obtain ⟨i, hi, rfl⟩ := List.mem_map.mp h_mem
      exact ⟨List.mem_map.mpr ⟨i, hi, of_decide_eq_true h_node⟩, Or.inl rfl⟩
    · obtain ⟨⟨i, r⟩, h_zip, rfl⟩ := List.mem_map.mp h_mem
      obtain ⟨hi, hr⟩ := List.of_mem_zip h_zip
      exact ⟨List.mem_map.mpr ⟨i, hi, of_decide_eq_true h_node⟩, Or.inr ⟨r, hr, rfl⟩⟩

/-- Something is installed on every instance that accepts reactions. -/
theorem lastPlaced_installations_of_mem (rs : List Reaction) {node : String}
    (h_mem : node ∈ instances.map (·.id)) (h_accepts : node ∉ t.rejectingReactions) :
    ∃ reactions, t.lastPlaced (installations instances rs) node = some reactions := by
  obtain ⟨i, hi, rfl⟩ := List.mem_map.mp h_mem
  rw [Scene.lastPlaced, if_neg h_accepts]
  have h_some : ((installations instances rs).filter (·.1 = i.id)).getLast? ≠ none := by
    rw [ne_eq, List.getLast?_eq_none_iff]
    refine List.ne_nil_of_mem (a := (i.id, [])) (List.mem_filter.mpr ⟨?_, by simp⟩)
    exact List.mem_append_left _ (List.mem_map.mpr ⟨i, hi, rfl⟩)
  obtain ⟨c, hc⟩ := Option.ne_none_iff_exists'.mp h_some
  exact ⟨c.2, by rw [hc, Option.map_some]⟩

end Installations

/-! ### Wiring a group -/

/-- Resolving a property asks for components only. -/
theorem outcome_property (hr : h.Reliable) (candidate : String) (instances : List Instance) :
    ∃ result, (Resolution.property candidate instances : Program σ _).outcome s h =
      (.ok result, s, h) :=
  ⟨_, Resolution.outcome_property hr.mainComponent candidate instances⟩

/-- A result that does not depend on the host. -/
theorem outcome_lift_ok {r : Except Failure α} {a : α} (hr : r = .ok a) :
    (Program.lift r : Program σ α).outcome s h = (.ok a, s, h) := by
  rw [Program.outcome_lift, hr]

/-- How an interaction names and places the state variables of a group. -/
def plan (collection : String) (i : Interaction) (primary : Setting) (property : String) : Plan :=
  { collection, interaction := i.id, property, authored := primary.property }

/-- The values that the instances of a group take when another one is clicked. -/
def siblings (s : Scene) (i : Interaction) (g : Group) (config : Config) (primary : Setting)
    (property : String) : List String :=
  g.instances.map fun j => RuleSet.siblingTarget i.rules ⟨property, primary.value⟩ config.resetToken
    (s.captured property j.id)

/-- **The scene after a group is wired.** -/
def wired (plan : Plan) (h : Host) (g : Group) (rs : List Reaction) : Scene :=
  (settleAll plan.collection plan.property h.scene (placements plan h g.instances)).placeAll
    (installations g.instances rs)

theorem variableTable_wired {plan : Plan} {g : Group} {rs : List Reaction} :
    (wired plan h g rs).variableTable =
      (settleAll plan.collection plan.property h.scene
        (placements plan h g.instances)).variableTable := by
  rw [wired, Scene.placeAll_eq]

theorem prepare_ends (hr : h.Reliable) (hb : h.scene.Built) {collection : String}
    (h_collection : collection ∈ h.scene.collections.values) (i : Interaction) (g : Group)
    (config : Config) (primary : Setting) (property : String) :
    (prepare collection i g config primary property : Program σ _).Ends s h fun r s' h' =>
      r = .ok (.ofSiblings ⟨property, primary.value⟩
          (siblings h.scene i g config primary property),
        slotsFrom h.scene.nextId (placements (plan collection i primary property) h g.instances)) ∧
      s' = s ∧ h'.storage = h.storage ∧
      h'.scene = settleAll collection property h.scene
        (placements (plan collection i primary property) h g.instances) := by
  have h_captured := Program.outcome_mapM_of_forall g.instances fun j _ =>
    outcome_readValue (s := s) hr property j
  rw [prepare]
  refine Program.Ends.bind_eq h_captured ?_
  refine (fillSlots_ends hr hb.wellFormed.fresh (plan collection i primary property) h_collection
    g.instances).bind ?_ ?_
  · rintro slots s' h' h_later ⟨h_slots, rfl, h_storage, h_scene⟩
    -- what is shown now is what was captured, since the variables hold it
    have h_values : ∀ p ∈ placements (plan collection i primary property) h g.instances,
        p.value = h.scene.captured property p.node := by
      intro p h_mem
      obtain ⟨⟨j, index⟩, -, rfl⟩ := List.mem_map.mp h_mem
      rfl
    have h_shown : (g.instances.mapM (readValue property) : Program σ _).outcome s' h' =
        (.ok (g.instances.map fun j => h.scene.captured property j.id), s', h') := by
      have h_same : ∀ node, h'.scene.captured property node = h.scene.captured property node := by
        intro node
        rw [h_scene]
        exact Scene.captured_settleAll hb.wellFormed h_values node
      have h_read := Program.outcome_mapM_of_forall g.instances fun j _ =>
        outcome_readValue (s := s') (h_later.reliable hr) property j
      simpa only [h_same] using h_read
    refine Program.Ends.bind_eq h_shown ?_
    rw [TargetTable.compile_self, List.map_map]
    refine ⟨?_, rfl, h_storage, h_scene⟩
    rw [Except.ok.inj h_slots]
    rfl
  · rintro e s' h' - ⟨h_error, -⟩
    cases h_error

/-- The slots of a wired group: those of its placements, from the next id on. -/
def slotsOf (plan : Plan) (h : Host) (g : Group) : List Slot :=
  slotsFrom h.scene.nextId (placements plan h g.instances)

/-- The slots of a group all have variables, under the ids that come next. -/
theorem map_target?_slotsOf (plan : Plan) (h : Host) (g : Group) :
    (slotsOf plan h g).map Slot.target? =
      (Scene.idsFrom h.scene.nextId g.instances.length).map some := by
  have h_length : (placements plan h g.instances).length = g.instances.length := by
    simp [placements]
  rw [slotsOf, Scene.map_target?_slotsFrom, h_length]

/-- The ids of the state variables of a group, in the order of the instances. -/
theorem filterMap_target?_slotsOf (plan : Plan) (h : Host) (g : Group) :
    (slotsOf plan h g).filterMap Slot.target? =
      Scene.idsFrom h.scene.nextId g.instances.length := by
  have h_targets := congrArg (List.filterMap id) (map_target?_slotsOf plan h g)
  rw [List.filterMap_map, List.filterMap_map] at h_targets
  exact h_targets.trans List.filterMap_some

/-- **The reactions built for a group** each assign a row to the state variables. -/
theorem assigns_of_build {plan : Plan} {h : Host} {g : Group} {primary : Setting}
    {siblings : List String} {rs : List Reaction} (h_length : siblings.length = g.instances.length)
    (h_build : Reaction.build (some (.ofSiblings primary siblings)) (some (slotsOf plan h g))
      g.instances.length = .ok rs) :
    rs.length = g.instances.length ∧ ∀ (k : Nat) (r : Reaction), rs[k]? = some r →
      r.Assigns (Scene.idsFrom h.scene.nextId g.instances.length)
        (TargetTable.row primary siblings k) := by
  obtain ⟨rs', h_build', h_count, h_assigns⟩ := Reaction.build_ok primary siblings
    (map_target?_slotsOf plan h g) (by rw [h_length, Scene.length_idsFrom])
  rw [Scene.length_idsFrom] at h_build' h_count
  obtain rfl := Except.ok.inj (h_build.symm.trans h_build')
  exact ⟨h_count, h_assigns⟩

/-- **Wiring a group on which the primary property resolves**: the state variables are settled, and
reactions are built from the table and the slots, and installed. -/
theorem apply_settled (hr : h.Reliable) (hb : h.scene.Built) {collection : String}
    (h_collection : collection ∈ h.scene.collections.values) {i : Interaction} {g : Group}
    (config : Config) {primary : Setting} {property : String}
    (h_setting : Setting.parse? i.primaryAction = some primary)
    (h_property : ((Resolution.property primary.property g.instances :
      Program σ _).outcome s h).1 = .ok (some property)) :
    (apply collection i g config : Program σ Wiring).Ends s h fun r s' h' =>
      s' = s ∧ h'.storage = h.storage ∧ ∃ rs installed,
        Reaction.build
          (some (.ofSiblings ⟨property, primary.value⟩
            (siblings h.scene i g config primary property)))
          (some (slotsOf (plan collection i primary property) h g)) g.instances.length = .ok rs ∧
        r = .ok
          { interaction := i.id
            group := g.id
            property := some property
            table := some (.ofSiblings ⟨property, primary.value⟩
              (siblings h.scene i g config primary property))
            slots := some (slotsOf (plan collection i primary property) h g)
            installed } ∧
        h'.scene = wired (plan collection i primary property) h g rs := by
  obtain ⟨result, h_resolve⟩ := outcome_property (s := s) hr primary.property g.instances
  rw [h_resolve] at h_property
  obtain rfl : result = some property := Except.ok.inj h_property
  -- the group is prepared, reactions are built from the table and the slots, and installed
  rw [apply, h_setting]
  refine Program.Ends.bind_eq h_resolve ?_
  refine Program.Ends.bind (Q := fun r s' h' =>
    r = .ok (some (.ofSiblings ⟨property, primary.value⟩
          (siblings h.scene i g config primary property),
        slotsOf (plan collection i primary property) h g)) ∧
      s' = s ∧ h'.storage = h.storage ∧
      h'.scene = settleAll collection property h.scene
        (placements (plan collection i primary property) h g.instances)) ?_ ?_ ?_
  · rw [Program.Ends, Program.outcome_map]
    obtain ⟨h_ok, h_memory, h_storage, h_scene⟩ :=
      prepare_ends (s := s) hr hb h_collection i g config primary property
    exact ⟨by rw [h_ok]; rfl, h_memory, h_storage, h_scene⟩
  · rintro prepared s' h' h_later ⟨h_prepared, rfl, h_storage, h_scene⟩
    rw [Except.ok.inj h_prepared]
    obtain ⟨rs, h_build, -⟩ := Reaction.build_ok ⟨property, primary.value⟩
      (siblings h.scene i g config primary property)
      (map_target?_slotsOf (plan collection i primary property) h g) (by simp [siblings])
    rw [Scene.length_idsFrom] at h_build
    obtain ⟨installed, h_install⟩ :=
      install_ends (s := s') (h_later.reliable hr) g.instances rs
    refine Program.Ends.bind_eq (outcome_lift_ok h_build) ?_
    refine Program.Ends.bind_eq h_install ?_
    refine ⟨rfl, h_storage, rs, installed, h_build, rfl, ?_⟩
    exact congrArg (Scene.placeAll · _) h_scene
  · rintro e s' h' - ⟨h_error, -⟩
    cases h_error

/-- **A click on an instance of a wired group** assigns the instance's row. -/
theorem apply_resolved (hr : h.Reliable) (hb : h.scene.Built) {collection : String}
    (h_collection : collection ∈ h.scene.collections.values) {i : Interaction} {g : Group}
    (config : Config) {primary : Setting} {property : String}
    (h_setting : Setting.parse? i.primaryAction = some primary)
    (h_property : ((Resolution.property primary.property g.instances :
      Program σ _).outcome s h).1 = .ok (some property)) :
    (apply collection i g config : Program σ Wiring).Ends s h fun r s' h' =>
      (∃ w, r = .ok w ∧ w.property = some property) ∧ s' = s ∧ h'.storage = h.storage ∧
      ∃ rs : List Reaction, rs.length = g.instances.length ∧
        (∀ (k : Nat) (r : Reaction), rs[k]? = some r →
          r.Assigns (Scene.idsFrom h.scene.nextId g.instances.length)
            (TargetTable.row ⟨property, primary.value⟩
              (siblings h.scene i g config primary property) k)) ∧
        h'.scene = wired (plan collection i primary property) h g rs := by
  refine (apply_settled hr hb h_collection config h_setting h_property).mono ?_
  rintro r s' h' - ⟨rfl, h_storage, rs, installed, h_build, rfl, h_scene⟩
  obtain ⟨h_count, h_assigns⟩ := assigns_of_build (by simp [siblings]) h_build
  exact ⟨⟨_, rfl, rfl⟩, rfl, h_storage, rs, h_count, h_assigns, h_scene⟩

/-- **Wiring any other group**: every instance is left with a reaction that does nothing. -/
theorem apply_inert (hr : h.Reliable) {collection : String} {i : Interaction} {g : Group}
    {config : Config}
    (h_inert : ∀ primary, Setting.parse? i.primaryAction = some primary →
      ((Resolution.property primary.property g.instances : Program σ _).outcome s h).1 =
        .ok none) :
    (apply collection i g config : Program σ Wiring).Ends s h fun r s' h' =>
      (∃ installed, r = .ok
        { interaction := i.id
          group := g.id
          property := none
          table := none
          slots := none
          installed }) ∧ s' = s ∧ h'.storage = h.storage ∧
      h'.scene = h.scene.placeAll
        (installations g.instances (List.replicate g.instances.length {})) := by
  obtain ⟨count, h_install⟩ :=
    install_ends (s := s) hr g.instances (List.replicate g.instances.length {})
  have h_build : Reaction.build none none g.instances.length =
      .ok (List.replicate g.instances.length {}) := rfl
  rw [apply]
  cases h_setting : Setting.parse? i.primaryAction with
  | none =>
    simp only [pure_bind]
    refine Program.Ends.bind_eq (Program.outcome_log _ _ _ _ _) ?_
    refine Program.Ends.bind_eq (outcome_lift_ok h_build) ?_
    refine Program.Ends.bind_eq h_install ?_
    exact ⟨⟨_, rfl⟩, rfl, rfl, rfl⟩
  | some primary =>
    -- the setting is read, but its property does not resolve
    obtain ⟨result, h_resolve⟩ := outcome_property (s := s) hr primary.property g.instances
    have h_none := h_inert primary h_setting
    rw [h_resolve] at h_none
    obtain rfl : result = none := Except.ok.inj h_none
    simp only [pure_bind]
    refine Program.Ends.bind_eq h_resolve ?_
    refine Program.Ends.bind_eq (Program.outcome_log _ _ _ _ _) ?_
    refine Program.Ends.bind_eq (outcome_lift_ok h_build) ?_
    refine Program.Ends.bind_eq h_install ?_
    exact ⟨⟨_, rfl⟩, rfl, rfl, rfl⟩

end Wiring

end Clickwork
