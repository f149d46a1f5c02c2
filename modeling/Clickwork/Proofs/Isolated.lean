import Clickwork.Proofs.Abandoned
import Clickwork.Proofs.Applied
import Clickwork.Proofs.Authoring
import Clickwork.Proofs.Building
import Clickwork.Proofs.Conduct
import Clickwork.Proofs.Refused
import Clickwork.Proofs.Rewired

/-!
# Instances that refuse are on their own

An instance may refuse the binding to its state variable, or the reactions it is given. What
becomes of the other instances does not depend on that (`Authoring.run_isolated`): authoring on a
host some nodes of which refuse is compared with authoring on the same host when none does
(`Host.rejecting`).

Until the state variables are bound, nothing depends on which nodes refuse
(`Authoring.enroll_unaffected`). From there on the two runs are told by `Wiring.Performed`, and
their scenes are compared node by node (`Wiring.Performed.isolated`). A state variable holds what
its instance showed when it was captured, so the instance shows the same again whether or not it is
bound: this is why the two tables agree.
-/

namespace Clickwork

open Program (Ends)

/-! ### Other nodes refuse -/

/-- The scene when the given nodes refuse bindings, and reactions. -/
def Scene.rejecting (s : Scene) (bindings reactions : List String) : Scene :=
  { s with rejectingBindings := bindings, rejectingReactions := reactions }

namespace Host

variable {h : Host} {B R : List String}

/-- **The host when the given nodes refuse bindings, and reactions.** -/
def rejecting (h : Host) (bindings reactions : List String) : Host :=
  { h with scene := h.scene.rejecting bindings reactions }

theorem Reliable.rejecting (hr : h.Reliable) : (h.rejecting B R).Reliable :=
  hr

theorem built_rejecting (hb : h.scene.Built) : (h.rejecting B R).scene.Built :=
  (hb.step (.rejectBindings B)).step (.rejectReactions R)

/-- The calls whose answers depend on which nodes refuse. -/
def Refusable (method : Method) : Prop :=
  method = .setReactions ∨ method = .bindProperty

theorem answer_rejecting {c : Call} (hc : ¬Refusable c.method) :
    (h.rejecting B R).answer c = ((h.answer c).1, (h.answer c).2.rejecting B R) := by
  cases c with
  | setReactions => exact absurd (.inl rfl) hc
  | bindProperty => exact absurd (.inr rfl) hc
  | selection | node | mainComponent | instanceProperties | allReactions | close | collections
  | createCollection | listVariables | storageGet => rfl
  | createVariable name collection type =>
    by_cases h_known : collection ∈ h.scene.collections.values
    · simp [answer, Scene.createVariable, rejecting, Scene.rejecting, h_known]
    · simp [answer, Scene.createVariable, rejecting, Scene.rejecting, h_known]
  | setValue id value =>
    by_cases h_there : h.scene.variableTable.contains id = true
    · simp [answer, Scene.setValue, rejecting, Scene.rejecting, h_there, change]
    · simp [answer, Scene.setValue, rejecting, Scene.rejecting, h_there, change]
  | removeVariable id =>
    by_cases h_there : h.scene.variableTable.contains id = true
    · simp [answer, Scene.removeVariable, rejecting, Scene.rejecting, h_there, change]
    · simp [answer, Scene.removeVariable, rejecting, Scene.rejecting, h_there, change]
  | storageSet key text =>
    by_cases h_away : h.storage.unavailable = true
    · simp [answer, Storage.set, Storage.whenAvailable, rejecting, h_away, store]
    · simp [answer, Storage.set, Storage.whenAvailable, rejecting, h_away, store]
  | storageDelete key =>
    by_cases h_away : h.storage.unavailable = true
    · simp [answer, Storage.delete, Storage.whenAvailable, rejecting, h_away, store]
    · simp [answer, Storage.delete, Storage.whenAvailable, rejecting, h_away, store]

/-- **Any other call is carried out alike.** -/
theorem perform_rejecting {c : Call} (hc : ¬Refusable c.method) :
    (h.rejecting B R).perform c = ((h.perform c).1, (h.perform c).2.rejecting B R) := by
  unfold perform
  have h_faults : (h.rejecting B R).faults = h.faults := rfl
  rw [h_faults]
  cases h.faults.find? c.method with
  | none => exact answer_rejecting hc
  | some fault =>
    dsimp only
    split
    · rfl
    · exact answer_rejecting (h := { h with faults := h.faults.insert c.method fault.tick }) hc

end Host

/-! ### Programs that are not affected -/

section Unaffected

variable {σ : Type} {I : σ → Host → Prop} {B R : List String}

/-- **Not depending on which nodes refuse**, as long as an invariant holds, which is kept. -/
def Discipline.unaffected (I : σ → Host → Prop) (B R : List String) : Discipline σ where
  Holds p := ∀ s h, I s h → I (p.outcome s h).2.1 (p.outcome s h).2.2 ∧
    p.outcome s (h.rejecting B R) =
      ((p.outcome s h).1, (p.outcome s h).2.1, (p.outcome s h).2.2.rejecting B R)
  lift r s h hI := by
    rw [Program.outcome_lift, Program.outcome_lift]
    exact ⟨hI, rfl⟩
  bind {_ _ p f} hp hf s h hI := by
    obtain ⟨hI', h_same⟩ := hp s h hI
    rw [Program.outcome_bind, Program.outcome_bind, h_same]
    generalize p.outcome s h = o at hI' ⊢
    obtain ⟨e | a, s', h'⟩ := o
    · exact ⟨hI', rfl⟩
    · exact hf a s' h' hI'
  attempt {_ p} hp s h hI := by
    obtain ⟨hI', h_same⟩ := hp s h hI
    rw [Program.outcome_attempt, Program.outcome_attempt, h_same]
    exact ⟨hI', rfl⟩
  log level text cause s h hI := by
    rw [Program.outcome_log, Program.outcome_log]
    exact ⟨hI, rfl⟩

theorem Discipline.permits_unaffected {c : Call} (hc : ¬Host.Refusable c.method)
    (h_keeps : ∀ s h, I s h → I s (h.perform c).2) : (unaffected I B R).Permits c := by
  intro s h hI
  rw [Program.outcome_tryAsk, Program.outcome_tryAsk, Host.perform_rejecting hc]
  exact ⟨h_keeps s h hI, rfl⟩

/-- What is read of the memory may matter. -/
theorem Discipline.sees_unaffected {τ : Type} {view : σ → τ} {possible : τ → Prop}
    (h_view : ∀ s h, I s h → possible (view s)) : (unaffected I B R).Sees view possible :=
  ⟨fun _ hf s h hI => hf (view s) (h_view s h hI) s h hI⟩

theorem Discipline.modify_unaffected {f : σ → σ} (h_keeps : ∀ s h, I s h → I (f s) h) :
    (unaffected I B R).Holds (Program.modify f) :=
  fun s h hI => ⟨h_keeps s h hI, rfl⟩

end Unaffected

/-! ### Up to the state variables -/

/-- **A session before its first variable**, on a host whose nodes are as they were: the collection
of managed variables is empty, if it is there. -/
structure Session.Clean (name : String) (nodes : Registry String Scene.Node) (s : Session)
    (h : Host) : Prop where
  config : s.config.collection = name
  reliable : h.Reliable
  built : h.scene.Built
  nodes : h.scene.nodes = nodes
  clean : ∀ id v, h.scene.variableTable.find? id = some v →
    h.scene.collections.find? name ≠ some v.collection

namespace Session.Clean

variable {name : String} {nodes : Registry String Scene.Node} {s : Session} {h : Host}
  {B R : List String}

theorem variablesOf_eq_nil (h_clean : s.Clean name nodes h) {collection : String}
    (h_collection : h.scene.collections.find? name = some collection) :
    h.scene.variablesOf collection = [] := by
  rw [List.eq_nil_iff_forall_not_mem]
  intro v hv
  obtain ⟨w, hw, -, h_in, h_of⟩ := Scene.mem_variablesOf.mp hv
  exact h_clean.clean v.id w hw (h_collection.trans (congrArg some (h_of.symm.trans h_in.symm)))

theorem rejecting (h_clean : s.Clean name nodes h) : s.Clean name nodes (h.rejecting B R) :=
  ⟨h_clean.config, h_clean.reliable.rejecting, Host.built_rejecting h_clean.built, h_clean.nodes,
    h_clean.clean⟩

theorem of_scene (h_clean : s.Clean name nodes h) {h' : Host} (h_later : h.Later h')
    (h_scene : h'.scene = h.scene) : s.Clean name nodes h' :=
  ⟨h_clean.config, h_later.reliable h_clean.reliable, h_later.built h_clean.built,
    h_scene ▸ h_clean.nodes, h_scene ▸ h_clean.clean⟩

/-- Creating the collection leaves it empty. -/
theorem createCollection (h_clean : s.Clean name nodes h) :
    s.Clean name nodes (h.perform (.createCollection name)).2 := by
  have h_later := Host.Later.perform h (.createCollection name)
  rw [h_clean.reliable.perform rfl (by simp [Call.method])] at h_later ⊢
  exact ⟨h_clean.config, h_later.reliable h_clean.reliable, h_later.built h_clean.built,
    h_clean.nodes, fun id v hv => h_clean.built.wellFormed.collection_ne_created hv name⟩

end Session.Clean

namespace Discipline

variable {name : String} {nodes : Registry String Scene.Node} {B R : List String}

/-- **Not depending on which nodes refuse** before the first variable is there. -/
abbrev early (name : String) (nodes : Registry String Scene.Node) (B R : List String) :
    Discipline Session :=
  unaffected (Session.Clean name nodes) B R

theorem permits_early_query {c : Call} (hc : c.method.mutates = false) :
    (early name nodes B R).Permits c := by
  refine permits_unaffected ?_ fun s h h_clean =>
    h_clean.of_scene (.perform h c) (h.scene_perform_query hc)
  rintro (h_eq | h_eq) <;> rw [h_eq] at hc <;> cases hc

theorem permits_early_storage {c : Call} (hc : c.method.isStorage = true) :
    (early name nodes B R).Permits c := by
  refine permits_unaffected ?_ fun s h h_clean =>
    h_clean.of_scene (.perform h c) (h.scene_perform_of_storage hc)
  rintro (h_eq | h_eq) <;> rw [h_eq] at hc <;> cases hc

theorem records_early : (early name nodes B R).Records where
  config := sees_unaffected fun _ _ _ => trivial
  read := sees_unaffected fun _ _ _ => trivial
  change _ := modify_unaffected fun _ _ h_clean =>
    ⟨h_clean.config, h_clean.reliable, h_clean.built, h_clean.nodes, h_clean.clean⟩
  stores _ hc := permits_early_storage hc

end Discipline

namespace Records

variable {name : String} {nodes : Registry String Scene.Node} {B R : List String}

/-- Without managed variables an interaction has nothing in the scene. -/
theorem outcome_removeOwned_of_clean {s : Session} {h : Host} (h_clean : s.Clean name nodes h)
    (interaction : String) : (removeOwned interaction).outcome s h = (.ok 0, s, h) := by
  have h_none : [] = h.scene.chosen s.config.collection fun v => ownedBy interaction v.name := by
    rw [Scene.chosen, Scene.managed, h_clean.config]
    cases h_collection : h.scene.collections.find? name with
    | none => rfl
    | some collection =>
      rw [Option.elim_some, h_clean.variablesOf_eq_nil h_collection]
      rfl
  rw [outcome_removeOwned h_clean.reliable.lists h_clean.reliable.setReactions interaction h_none
    rfl (Host.withholds_of_spares h_clean.reliable.removeVariable []), Host.removing_nil]
  simp only [List.filter_nil, Scene.discard_nil, Scene.detach_nil]
  rfl

/-- **Putting an interaction on record** does not depend on which nodes refuse. -/
theorem put_unaffected (i : Interaction) : (Discipline.early name nodes B R).Holds (put i) := by
  -- no variable of the collection is there to be removed: neither run writes anything
  have h_owned (interaction : String) :
      (Discipline.early name nodes B R).Holds (removeOwned interaction) := fun s h h_clean => by
    rw [outcome_removeOwned_of_clean h_clean, outcome_removeOwned_of_clean h_clean.rejecting]
    exact ⟨h_clean, rfl⟩
  have h_retire (interaction : String) :
      (Discipline.early name nodes B R).Holds (retire interaction) := by
    rw [retire_eq]
    refine Discipline.bind _ (dropNested_holds Discipline.records_early.read (fun group => ?_) _)
      fun _ => h_owned interaction
    exact drop_holds Discipline.records_early group
  exact put_holds (get_holds Discipline.records_early _) h_retire
    (store_holds Discipline.records_early i)

end Records

namespace Authoring

variable {name : String} {nodes : Registry String Scene.Node} {B R : List String}

/-- **An interaction without nested actions** has its group equipped, and no other. -/
theorem equipAll_of_single {i : Interaction} (h_single : i.nestedActions = [])
    (collection : String) (group : Group) : equipAll collection i group = (do
      let main ← equip collection i group
      return { interaction := i, group, main, nested := [] }) := by
  rw [equipAll, h_single]
  rfl

/-- **Putting an interaction on record** does not depend on which nodes refuse. -/
theorem enroll_unaffected (i : Interaction) :
    (Discipline.early name nodes B R).Holds (enroll i) := by
  rw [enroll_eq]
  have h_sees {τ : Type} (view : Session → τ) :
      (Discipline.early name nodes B R).Sees view fun _ => True :=
    Discipline.sees_unaffected fun _ _ _ => trivial
  -- the guard and the checks read the session alone
  have h_admission : (Discipline.early name nodes B R).Holds (admission i) := by
    rw [admission_eq]
    exact (h_sees fun s => s.admitted i).read _ fun _ _ => Discipline.lift _ _
  have h_config : (Discipline.early name nodes B R).Sees Session.config (·.collection = name) :=
    Discipline.sees_unaffected fun _ _ h_clean => h_clean.config
  refine Discipline.bind _ h_admission fun group => h_config.readConfig fun config h_name => ?_
  refine Discipline.bind _ (Wiring.ensureCollection_holds (Discipline.permits_early_query rfl) ?_)
    fun collection => Discipline.bind _ (Records.put_unaffected i) fun _ => .pure _
  rw [h_name]
  refine Discipline.permits_unaffected ?_ fun s h h_clean => h_clean.createCollection
  rintro (h_eq | h_eq) <;> cases h_eq

/-- What is known when an interaction is on record: its group, and that the collection is there. -/
theorem enroll_knows {s : Session} {h : Host} (hr : h.Reliable) (i : Interaction) :
    (enroll i).Ends s h fun r _ h' => ∀ group collection, r = .ok (group, collection) →
      s.context.group i.group = .ok group ∧ collection ∈ h'.scene.collections.values := by
  rw [enroll_eq]
  refine (Ends.of_eq (Q := fun r s' h' => r = s.admitted i ∧ s' = s ∧ h' = h)
    (outcome_admission i s h) ⟨rfl, rfl, rfl⟩).bind ?_ fun _ _ _ _ _ => nofun
  rintro group s₁ h₁ - ⟨h_admitted, rfl, rfl⟩
  have h_group := (Session.admitted_eq_ok_iff.mp h_admitted.symm).1
  refine Ends.bind_eq (Session.outcome_readConfig _ _) ?_
  refine (Wiring.ensureCollection_ends hr _).bind ?_ fun _ _ _ _ _ => nofun
  rintro collection s₁ h₂ h_later ⟨rfl, -, ⟨id, h_id, h_collection⟩, -⟩
  obtain rfl : collection = id := Except.ok.inj h_id
  refine (Records.put_ends (h_later.reliable hr) i).bind ?_ fun _ _ _ _ _ => nofun
  rintro u s₂ h₃ - (⟨⟨e, h_error⟩, -⟩ | ⟨-, s₁', h_loaded, h_replaced⟩) group' collection' h_ok
  · cases h_error
  · obtain ⟨rfl, rfl⟩ := Prod.mk.inj (Except.ok.inj h_ok)
    refine ⟨h_group, Registry.mem_values_iff.mpr ⟨s₁.config.collection, ?_⟩⟩
    change h₃.scene.collections.find? _ = _
    rw [h_replaced.collections]
    exact h_collection

end Authoring

/-! ### Slots with the same variables -/

namespace Reaction

variable {slots slots' : List Slot}

theorem assignments_congr (h : slots'.map Slot.target? = slots.map Slot.target?)
    (effects : List (Int × String)) : assignments slots' effects = assignments slots effects := by
  induction effects with
  | nil => rfl
  | cons e effects ih =>
    have h_at := congrArg (TargetTable.at? · e.1) h
    simp only [at?_map] at h_at
    simp only [assignments, ih]
    cases h_slot : TargetTable.at? slots e.1 with
    | none =>
      rw [h_slot] at h_at
      rw [Option.map_eq_none_iff.mp h_at]
    | some slot =>
      rw [h_slot] at h_at
      obtain ⟨slot', h_slot', h_target⟩ := Option.map_eq_some_iff.mp h_at
      simp only [h_slot', h_target]

/-- **Reactions are built from the variables of the slots**, bound or not. -/
theorem build_congr (h : slots'.map Slot.target? = slots.map Slot.target?)
    (table : Option TargetTable) (count : Nat) :
    build table (some slots') count = build table (some slots) count := by
  have h_each (table : TargetTable) : ofTable table slots' = ofTable table slots := by
    funext i
    unfold ofTable
    simp only [assignments_congr h]
  cases table with
  | none => rfl
  | some table => simp only [build, all_vacant, h, h_each]

end Reaction

/-! ### Scenes node by node -/

namespace Scene

variable {B R : List String} {s s' t t' : Scene}

/-- **The same variables and collections**, and the same ids to come. -/
structure SameVariables (s s' : Scene) : Prop where
  variableTable : s'.variableTable = s.variableTable
  nextId : s'.nextId = s.nextId
  collections : s'.collections = s.collections

theorem SameVariables.placeAll (h : SameVariables s s') (changes : List (String × List Reaction)) :
    (s.placeAll changes).SameVariables (s'.placeAll changes) := by
  rw [placeAll_eq, placeAll_eq]
  exact ⟨h.variableTable, h.nextId, h.collections⟩

/-- **Refusals are isolated**, from one scene to two others: some nodes refused bindings, and some
reactions, on the way to the second. -/
structure Isolated (B R : List String) (s t t' : Scene) : Prop where
  sameVariables : t.SameVariables t'
  /-- A node that refused bindings has those it had. -/
  bindings : ∀ node property,
    t'.binding node property = if node ∈ B then s.binding node property else t.binding node property
  /-- A node that refused reactions has those it had. -/
  reactions : ∀ node, t'.reactions node = if node ∈ R then s.reactions node else t.reactions node

/-- A node that is bound to variables and given reactions. -/
def Node.equip (property : String) (targets : List String) (placed : Option (List Reaction))
    (n : Node) : Node :=
  placed.elim (n.bindAll property targets) (n.bindAll property targets).react

theorem Node.bindings_equip (property : String) (targets : List String)
    (placed : Option (List Reaction)) (n : Node) :
    (n.equip property targets placed).bindings = (n.bindAll property targets).bindings := by
  cases placed <;> rfl

theorem Node.reactions_equip (property : String) (targets : List String)
    (placed : Option (List Reaction)) (n : Node) :
    (n.equip property targets placed).reactions = placed.getD n.reactions := by
  cases placed <;> rfl

theorem Isolated.congr (h : Isolated B R s t t') (h_nodes : s.nodes = s'.nodes) :
    Isolated B R s' t t' := by
  have h_binding (node property : String) : s.binding node property = s'.binding node property := by
    rw [binding, binding, h_nodes]
  have h_reactions (node : String) : s.reactions node = s'.reactions node := by
    rw [Scene.reactions, Scene.reactions, h_nodes]
  exact ⟨h.sameVariables, fun node property => by rw [h.bindings, h_binding],
    fun node => by rw [h.reactions, h_reactions]⟩

/-- Nodes that are equipped, unless they refuse. -/
theorem Isolated.of_nodes (h_variables : t.SameVariables t') {property : String}
    {targets : String → List String} {placed : String → Option (List Reaction)}
    (h_node : ∀ node, t.nodes.find? node =
      (s.nodes.find? node).map (·.equip property (targets node) (placed node)))
    (h_node' : ∀ node, t'.nodes.find? node = (s.nodes.find? node).map
      (·.equip property (if node ∈ B then [] else targets node)
        (if node ∈ R then none else placed node))) : Isolated B R s t t' := by
  refine ⟨h_variables, fun node name => ?_, fun node => ?_⟩
  · simp only [binding, h_node, h_node']
    cases s.nodes.find? node with
    | none => simp
    | some n =>
      simp only [Option.map_some, Node.bindings_equip]
      split <;> rfl
  · simp only [Scene.reactions, h_node, h_node']
    cases s.nodes.find? node with
    | none => simp
    | some n =>
      simp only [Option.map_some, Option.getD_some, Node.reactions_equip]
      split <;> rfl

/-! ### State variables -/

/-- The placement when its node may refuse the binding. -/
def Placement.refusing (B : List String) (p : Placement) : Placement :=
  { p with bound := decide (p.node ∉ B) && p.bound }

theorem boundIds_refusing (n : Nat) (ps : List Placement) (node : String) :
    boundIds n (ps.map (.refusing B)) node = if node ∈ B then [] else boundIds n ps node := by
  induction ps generalizing n with
  | nil => simp [boundIds]
  | cons p ps ih =>
    rw [List.map_cons, boundIds_cons, boundIds_cons, ih]
    by_cases h_refuses : node ∈ B
    · rw [if_pos h_refuses, if_pos h_refuses, List.append_nil, if_neg]
      rintro ⟨h_bound, rfl⟩
      have h_accepts : p.node ∉ B ∧ p.bound = true := by
        simpa [Placement.refusing] using h_bound
      exact h_accepts.1 h_refuses
    · rw [if_neg h_refuses, if_neg h_refuses]
      congr 1
      by_cases h_here : p.node = node
      · subst h_here
        simp [Placement.refusing, h_refuses]
      · simp [Placement.refusing, h_here]

/-- **The variables are settled** whichever nodes refuse to be bound to them. -/
theorem SameVariables.settleAll (h : SameVariables s s') (collection property : String)
    (ps : List Placement) : (settleAll collection property s ps).SameVariables
      (settleAll collection property s' (ps.map (.refusing B))) := by
  induction ps generalizing s s' with
  | nil => exact h
  | cons p ps ih =>
    have h_collections (s : Scene) (p : Placement) :
        (settle collection property s p).collections = s.collections := by
      unfold settle
      split <;> rfl
    refine ih ⟨?_, ?_, ?_⟩
    · rw [variableTable_settle, variableTable_settle]
      simp only [addVariable, Placement.refusing, h.variableTable, h.nextId]
    · rw [nextId_settle, nextId_settle, h.nextId]
    · rw [h_collections, h_collections, h.collections]

theorem addMarkers_rejecting (s : Scene) (collection : String) (names : List String) :
    (s.rejecting B R).addMarkers collection names =
      (s.addMarkers collection names).rejecting B R := by
  induction names generalizing s with
  | nil => rfl
  | cons name names ih => exact ih (s.addVariable collection name "BOOLEAN" (.bool false))

end Scene

/-! ### Wired groups -/

namespace Wiring

variable {h : Host} {B R : List String}

theorem marked_rejecting (collection : String) (i : Interaction) :
    marked collection i (h.rejecting B R) = (marked collection i h).rejecting B R := by
  unfold marked Host.rejecting
  rw [Scene.addMarkers_rejecting]

theorem placements_rejecting (h_bindings : h.scene.rejectingBindings = []) (plan : Plan)
    (instances : List Instance) : placements plan (h.rejecting B R) instances =
      (placements plan h instances).map (.refusing B) := by
  have h_admits (node property : String) : (h.rejecting B R).scene.admits node property =
      (decide (node ∉ B) && h.scene.admits node property) := by
    have h_none : decide (node ∉ h.scene.rejectingBindings) = true := by simp [h_bindings]
    rw [Scene.admits, Scene.admits, h_none, Bool.true_and]
    rfl
  rw [placements, placements, List.map_map]
  refine List.map_congr_left ?_
  rintro ⟨j, index⟩ -
  simp only [Function.comp, placement, Scene.Placement.refusing, Host.accepts, h_admits]
  congr 1
  exact Bool.and_left_comm _ _ _

/-- The nodes of a wired group: they are bound to their state variables, and given reactions. -/
theorem find?_wired (plan : Plan) (g : Group) (rs : List Reaction) (node : String) :
    (wired plan h g rs).nodes.find? node = (h.scene.nodes.find? node).map
      (·.equip plan.property
        (Scene.boundIds h.scene.nextId (placements plan h g.instances) node)
        (h.scene.lastPlaced (installations g.instances rs) node)) := by
  rw [wired, Scene.find?_placeAll, Scene.nodes_settleAll, Option.map_map]
  congr 1
  funext n
  simp only [Function.comp, Scene.Node.equip, Scene.lastPlaced, Scene.rejectingReactions_settleAll]

theorem lastPlaced_rejecting {s : Scene} (h_reactions : s.rejectingReactions = [])
    (changes : List (String × List Reaction)) (node : String) :
    (s.rejecting B R).lastPlaced changes node =
      if node ∈ R then none else s.lastPlaced changes node := by
  have h_accepts : node ∉ s.rejectingReactions := by simp [h_reactions]
  rw [Scene.lastPlaced, Scene.lastPlaced, if_neg h_accepts]
  rfl

/-- Which property an interaction is about does not depend on which nodes refuse. -/
theorem resolved?_rejecting (i : Interaction) (g : Group) :
    resolved? (h.rejecting B R) i g = resolved? h i g := by
  have h_unaffected (candidate : String) : (Discipline.unaffected (σ := Unit) (fun _ _ => True)
      B R).Holds (Resolution.property candidate g.instances) := by
    refine Resolution.property_holds (fun node => Discipline.permits_unaffected ?_
      fun _ _ _ => trivial) candidate _
    rintro (h_eq | h_eq) <;> cases h_eq
  unfold resolved?
  congr 1
  funext primary
  rw [(h_unaffected primary.property () h trivial).2]

theorem isolated_placeAll {s : Scene} (h_reactions : s.rejectingReactions = [])
    (changes : List (String × List Reaction)) :
    s.Isolated B R (s.placeAll changes) ((s.rejecting B R).placeAll changes) := by
  have h_nodes (s : Scene) (node : String) : (s.placeAll changes).nodes.find? node =
      (s.nodes.find? node).map (·.equip "" [] (s.lastPlaced changes node)) :=
    Scene.find?_placeAll s changes node
  have h_same : s.SameVariables (s.rejecting B R) := ⟨rfl, rfl, rfl⟩
  refine .of_nodes (h_same.placeAll _) (h_nodes s) fun node => ?_
  rw [h_nodes, lastPlaced_rejecting h_reactions, ite_self]
  rfl

/-- **A wired group** is wired to the same variables, whichever nodes refuse. -/
theorem isolated_wired (h_bindings : h.scene.rejectingBindings = [])
    (h_reactions : h.scene.rejectingReactions = []) (plan : Plan) (g : Group)
    (rs : List Reaction) :
    h.scene.Isolated B R (wired plan h g rs) (wired plan (h.rejecting B R) g rs) := by
  have h_same : h.scene.SameVariables (h.rejecting B R).scene := ⟨rfl, rfl, rfl⟩
  refine .of_nodes ?_ (find?_wired plan g rs) fun node => ?_
  · rw [wired, wired, placements_rejecting h_bindings]
    exact (h_same.settleAll _ _ _).placeAll _
  · rw [find?_wired, placements_rejecting h_bindings, Scene.boundIds_refusing]
    congr 1
    funext n
    rw [Host.rejecting, lastPlaced_rejecting h_reactions]
    rfl

/-- **Wiring a group is isolated from refusals.** -/
theorem Performed.isolated {collection : String} {i : Interaction} {g : Group} {config : Config}
    {w w' : Wiring} {t t' : Scene}
    (h_bindings : (marked collection i h).scene.rejectingBindings = [])
    (h_reactions : (marked collection i h).scene.rejectingReactions = [])
    (h_base : Performed collection i g config h w t)
    (h_other : Performed collection i g config (h.rejecting B R) w' t') :
    w'.table = w.table ∧ w'.variables = w.variables ∧
      (marked collection i h).scene.Isolated B R t t' := by
  have h_resolved := resolved?_rejecting (h := h) (B := B) (R := R) i g
  cases h_base with
  | inert h_none h_wiring h_scene =>
    cases h_other with
    | inert _ h_wiring' h_scene' =>
      rw [h_wiring, h_wiring', h_scene, h_scene', marked_rejecting]
      exact ⟨rfl, rfl, isolated_placeAll h_reactions _⟩
    | resolved h_some =>
      rw [h_resolved, h_none] at h_some
      cases h_some
  | @resolved primary property rs _ h_some h_build h_wiring h_scene =>
    cases h_other with
    | inert h_none =>
      rw [h_resolved, h_some] at h_none
      cases h_none
    | @resolved primary' property' rs' _ h_some' h_build' h_wiring' h_scene' =>
      rw [h_resolved, h_some] at h_some'
      obtain ⟨rfl, rfl⟩ := Prod.mk.inj (Option.some.inj h_some')
      rw [marked_rejecting] at h_build' h_wiring' h_scene'
      -- the values that are captured do not depend on who refuses, and so the table does not either
      have h_slots := (map_target?_slotsOf (plan collection i primary property)
        ((marked collection i h).rejecting B R) g).trans
          (map_target?_slotsOf (plan collection i primary property) (marked collection i h) g).symm
      obtain rfl : rs' = rs := by
        rw [Reaction.build_congr h_slots] at h_build'
        exact Except.ok.inj (h_build'.symm.trans h_build)
      refine ⟨by rw [h_wiring, h_wiring']; rfl, ?_, ?_⟩
      · rw [h_wiring, h_wiring', Wiring.variables, Wiring.variables, Option.getD_some,
          Option.getD_some, filterMap_target?_slotsOf, filterMap_target?_slotsOf]
        rfl
      · rw [h_scene, h_scene']
        exact isolated_wired h_bindings h_reactions _ _ _

end Wiring

/-! ### How many reactions are accepted -/

/-- There is a reaction for every instance. -/
theorem Reaction.length_of_build {table : Option TargetTable} {slots : Option (List Slot)}
    {count : Nat} {rs : List Reaction} (h_build : build table slots count = .ok rs) :
    rs.length = count := by
  unfold build at h_build
  split at h_build
  · rename_i table slots
    split at h_build
    · rw [← Except.ok.inj h_build, List.length_replicate]
    · have h_length := (Except.forall₂_of_mapM h_build).length_eq
      rw [List.length_range] at h_length
      rw [← h_length, Nat.min_eq_left]
      -- an instance past the last row has no reaction
      refine Nat.le_succ_of_le (Nat.le_of_not_lt fun h_past => ?_)
      obtain ⟨r, h_row⟩ := Except.ok_of_mapM h_build table.rows.length
        (List.mem_range.mpr (by omega))
      have h_none : TargetTable.at? table.rows (table.rows.length : Int) = none := by
        rw [TargetTable.at?_natCast, List.getElem?_eq_none (Nat.le_refl _)]
      rw [ofTable, TargetTable.effects, h_none] at h_row
      cases h_row
  · rw [← Except.ok.inj h_build, List.length_replicate]

theorem Scene.Kept.contains {s s' : Scene} (h : Kept s s') (node : String) :
    s'.nodes.contains node = s.nodes.contains node := by
  have h_bare := congrArg Option.isSome (h.bare_find? node)
  rwa [Option.isSome_map, Option.isSome_map] at h_bare

namespace Wiring

variable {σ : Type} {s : σ} {h : Host} {instances : List Instance} {rs : List Reaction}

theorem installOne_accepted (hr : h.Reliable) {e : Instance × Reaction}
    (h_there : h.scene.nodes.contains e.1.id = true) :
    (installOne e : Program σ Bool).Ends s h fun r _ _ =>
      r = .ok (decide (e.1.id ∉ h.scene.rejectingReactions)) := by
  refine Ends.bind_eq (Program.outcome_tryAsk _ _ _) ?_
  rw [hr.perform rfl (by simp [Call.method])]
  by_cases h_rejects : e.1.id ∈ h.scene.rejectingReactions
  · simp only [Host.answer, Scene.setReactions, h_rejects, if_true, Host.change]
    exact Ends.bind_eq (Program.outcome_log _ _ _ _ _) (by simp [Ends])
  · simp only [Host.answer, Scene.setReactions, h_rejects, h_there, if_false, if_true, Host.change]
    simp [Ends]

theorem installAll_accepted (hr : h.Reliable) {entries : List (Instance × Reaction)}
    (h_there : ∀ e ∈ entries, h.scene.nodes.contains e.1.id = true) :
    (entries.mapM installOne : Program σ _).Ends s h fun r _ _ =>
      r = .ok (entries.map fun e => decide (e.1.id ∉ h.scene.rejectingReactions)) := by
  induction entries generalizing s h with
  | nil => rfl
  | cons e entries ih =>
    rw [List.mapM_cons]
    refine (installOne_accepted hr (h_there e List.mem_cons_self)).bind ?_ fun _ _ _ _ => nofun
    rintro accepted s' h' h_later h_accepted
    obtain rfl := Except.ok.inj h_accepted
    refine (ih (h_later.reliable hr) fun e' h_mem => ?_).bind ?_ fun _ _ _ _ => nofun
    · rw [h_later.kept.contains]
      exact h_there e' (List.mem_cons_of_mem _ h_mem)
    · rintro rest s'' h'' - h_rest
      rw [Except.ok.inj h_rest, h_later.kept.rejectingReactions]
      rfl

/-- **As many reactions are installed as there are instances that accept them.** -/
theorem install_counts (hr : h.Reliable) (h_length : rs.length = instances.length)
    (h_there : ∀ j ∈ instances, h.scene.nodes.contains j.id = true) :
    (install instances rs : Program σ Nat).Ends s h fun r _ _ => ∀ count, r = .ok count →
      count = instances.countP (·.id ∉ h.scene.rejectingReactions) := by
  refine Ends.bind (Q := fun _ _ _ => True) trivial ?_ fun _ _ _ _ _ => nofun
  rintro u s' h' h_later -
  refine (installAll_accepted (h_later.reliable hr) fun e h_mem => ?_).bind ?_
    fun _ _ _ _ => nofun
  · rw [h_later.kept.contains]
    exact h_there _ (List.of_mem_zip h_mem).1
  · rintro installed s'' h'' - h_installed count h_count
    obtain rfl := Except.ok.inj h_installed
    obtain rfl : List.count true _ = count := Except.ok.inj h_count
    have h_fst : (instances.zip rs).map Prod.fst = instances :=
      List.map_fst_zip (Nat.le_of_eq h_length.symm)
    conv_rhs => rw [← h_fst, List.countP_map]
    rw [h_later.kept.rejectingReactions, List.count_eq_countP, List.countP_map]
    exact List.countP_congr fun e _ => by simp

theorem complete_counts (hr : h.Reliable) {g : Group}
    (h_there : ∀ j ∈ g.instances, h.scene.nodes.contains j.id = true) (i : Interaction)
    (property : Option String) (prepared : Option (TargetTable × List Slot)) :
    (complete i g property prepared : Program σ Wiring).Ends s h fun r _ _ => ∀ w, r = .ok w →
      w.installed = g.instances.countP (·.id ∉ h.scene.rejectingReactions) := by
  rw [complete]
  cases h_build : Reaction.build (prepared.map Prod.fst) (prepared.map Prod.snd)
      g.instances.length with
  | error e => exact nofun
  | ok rs =>
    refine Ends.bind_eq (outcome_lift_ok rfl) ?_
    refine (install_counts hr (Reaction.length_of_build h_build) h_there).bind ?_
      fun _ _ _ _ _ => nofun
    rintro installed s' h' - h_installed w h_wiring
    obtain rfl := Except.ok.inj h_wiring
    exact h_installed _ rfl

/-- **The wiring of a group reports** how many instances accepted their reactions. -/
theorem apply_counts (hr : h.Reliable) {g : Group}
    (h_there : ∀ j ∈ g.instances, h.scene.nodes.contains j.id = true) (collection : String)
    (i : Interaction) (config : Config) :
    (apply collection i g config : Program σ Wiring).Ends s h fun r _ _ => ∀ w, r = .ok w →
      w.installed = g.instances.countP (·.id ∉ h.scene.rejectingReactions) := by
  -- whatever is done before, the group is then wired on a later host
  have h_after {α : Type} (p : Program σ α) (property : Option String)
      (prepared : α → Option (TargetTable × List Slot)) (s : σ) {h₁ : Host}
      (h₁_later : h.Later h₁) :
      (p >>= fun a => complete i g property (prepared a)).Ends s h₁ fun r _ _ => ∀ w, r = .ok w →
        w.installed = g.instances.countP (·.id ∉ h.scene.rejectingReactions) := by
    refine Ends.bind (Q := fun _ _ _ => True) trivial ?_ fun _ _ _ _ _ => nofun
    rintro a s₂ h₂ h₂_later -
    have h_later := h₁_later.trans h₂_later
    rw [← h_later.kept.rejectingReactions]
    refine complete_counts (h_later.reliable hr) (fun j hj => ?_) i property _
    rw [h_later.kept.contains]
    exact h_there j hj
  rw [apply_eq_complete]
  cases Setting.parse? i.primaryAction with
  | none => exact h_after (Program.log _ _ _) none (fun _ => none) s (.refl h)
  | some primary =>
    refine Ends.bind (Q := fun _ _ _ => True) trivial ?_ fun _ _ _ _ _ => nofun
    rintro property s₁ h₁ h_later -
    cases property with
    | none => exact h_after (Program.log _ _ _) none (fun _ => none) s₁ h_later
    | some property =>
      exact h_after (some <$> prepare collection i g config primary property) (some property) id s₁
        h_later

end Wiring

namespace Authoring

variable {s : Session} {h : Host} {B R : List String} {i : Interaction} {g : Group}

theorem equip_counts (hr : h.Reliable)
    (h_there : ∀ j ∈ g.instances, h.scene.nodes.contains j.id = true) (collection : String) :
    (equip collection i g).Ends s h fun r _ _ => ∀ w, r = .ok w →
      w.installed = g.instances.countP (·.id ∉ h.scene.rejectingReactions) := by
  refine Ends.bind (Q := fun _ _ _ => True) trivial ?_ fun _ _ _ _ _ => nofun
  rintro markers s' h' h_later -
  refine Ends.bind_eq (Session.outcome_readConfig _ _) ?_
  refine (Wiring.apply_counts (h_later.reliable hr) (fun j hj => ?_) collection i _).mono ?_
  · rw [h_later.kept.contains]
    exact h_there j hj
  · rintro r s'' h'' - h_counts w h_wiring
    rw [← h_later.kept.rejectingReactions]
    exact h_counts w h_wiring

/-! ### Authoring -/

/-- **What two wirings have in common** if some of the instances refused what the second gave them:
all but how many reactions were installed. -/
structure Shared (R : List String) (g : Group) (w w' : Wiring) : Prop where
  table : w'.table = w.table
  states : w'.variables = w.variables
  installed : w'.installed = (g.instances.filter (·.id ∉ R)).length

/-- **Equipping a group is isolated from refusals.** -/
theorem equip_isolated (hr : h.Reliable) (hb : h.scene.Built)
    (h_bindings : h.scene.rejectingBindings = []) (h_reactions : h.scene.rejectingReactions = [])
    (h_there : ∀ j ∈ g.instances, h.scene.nodes.contains j.id = true) {collection : String}
    (h_collection : collection ∈ h.scene.collections.values) {w : Wiring} {s' : Session}
    {h' : Host} (h_ok : (equip collection i g).outcome s h = (.ok w, s', h')) :
    (equip collection i g).Ends s (h.rejecting B R) fun r s'' h'' => s'' = s' ∧
      h''.storage = h'.storage ∧ h.scene.Isolated B R h'.scene h''.scene ∧
      ∃ w', r = .ok w' ∧ Shared R g w w' := by
  have hr' : (h.rejecting B R).Reliable := hr.rejecting
  have hb' : (h.rejecting B R).scene.Built := Host.built_rejecting hb
  -- each of the two runs is told by what it performs on its own host
  have h_base := equip_ends (s := s) hr hb h_collection i g
  rw [Ends, h_ok] at h_base
  obtain ⟨h_memory, h_storage, w₀, h_wiring, h_performed, -⟩ := h_base
  obtain rfl := Except.ok.inj h_wiring
  have h_there' : ∀ j ∈ g.instances, (h.rejecting B R).scene.nodes.contains j.id = true := h_there
  have h_other := equip_ends (s := s) hr' hb' h_collection i g
  refine (h_other.and (equip_counts hr' h_there' collection)).mono ?_
  rintro r s'' h'' - ⟨⟨h_memory', h_storage', w', h_wiring', h_performed', -⟩, h_counts⟩
  obtain ⟨-, -, h_nodes⟩ := Wiring.extended_marked hb collection i
  have h_kept := Wiring.kept_marked collection i h
  obtain ⟨h_table, h_states, h_isolated⟩ := h_performed.isolated
    (h_kept.rejectingBindings.trans h_bindings) (h_kept.rejectingReactions.trans h_reactions)
    h_performed'
  refine ⟨h_memory'.trans h_memory.symm, h_storage'.trans h_storage.symm,
    h_isolated.congr h_nodes, w', h_wiring', h_table, h_states, ?_⟩
  rw [h_counts w' h_wiring', List.countP_eq_length_filter]
  rfl

/-- **Carrying out an interaction is isolated from refusals.** -/
theorem carryOut_isolated {name : String} {nodes : Registry String Scene.Node}
    (h_clean : s.Clean name nodes h) (h_bindings : h.scene.rejectingBindings = [])
    (h_reactions : h.scene.rejectingReactions = []) (h_single : i.nestedActions = [])
    (h_group : s.context.group i.group = .ok g)
    (h_there : ∀ j ∈ g.instances, h.scene.nodes.contains j.id = true) {a : Authoring}
    {s' : Session} {h' : Host} (h_ok : (carryOut i).outcome s h = (.ok a, s', h')) :
    (carryOut i).Ends s (h.rejecting B R) fun r s'' h'' => s'' = s' ∧ h''.storage = h'.storage ∧
      h.scene.Isolated B R h'.scene h''.scene ∧
      ∃ a', r = .ok a' ∧ Shared R g a.main a'.main := by
  rw [carryOut_eq_enroll] at h_ok ⊢
  obtain ⟨⟨g', collection⟩, s₁, h₁, h_enroll, -⟩ :=
    Program.exists_of_outcome_bind (congrArg Prod.fst h_ok)
  rw [Program.outcome_bind_ok h_enroll] at h_ok
  dsimp only at h_ok
  rw [equipAll_of_single h_single] at h_ok
  obtain ⟨w, s₂, h₂, h_equip, -⟩ := Program.exists_of_outcome_bind (congrArg Prod.fst h_ok)
  rw [Program.outcome_bind_ok h_equip, Program.outcome_pure] at h_ok
  obtain ⟨rfl, rfl, rfl⟩ : { interaction := i, group := g', main := w, nested := [] } = a ∧
      s₂ = s' ∧ h₂ = h' := by simpa using h_ok
  obtain ⟨h_clean₁, h_same⟩ := enroll_unaffected (B := B) (R := R) i s h h_clean
  have h_later := (enroll i).outcome_later s h
  have h_enrolled := enroll_knows (s := s) h_clean.reliable i
  rw [h_enroll] at h_clean₁ h_same h_later
  rw [Ends, h_enroll] at h_enrolled
  obtain ⟨h_group', h_collection⟩ := h_enrolled g' collection rfl
  obtain rfl : g = g' := Except.ok.inj (h_group.symm.trans h_group')
  -- both runs go on from the same records, on hosts that differ in who refuses
  have h_isolated := equip_isolated (B := B) (R := R) h_clean₁.reliable h_clean₁.built
    (h_later.kept.rejectingBindings.trans h_bindings)
    (h_later.kept.rejectingReactions.trans h_reactions)
    (fun j hj => (h_later.kept.contains j.id).trans (h_there j hj)) h_collection h_equip
  refine Ends.bind_eq h_same ?_
  dsimp only
  rw [equipAll_of_single h_single]
  refine h_isolated.bind ?_ ?_
  · rintro w' s'' h'' - ⟨h_memory, h_storage, h_scenes, w'', h_w'', h_shared⟩
    obtain rfl := Except.ok.inj h_w''
    exact ⟨h_memory, h_storage, h_scenes.congr (h_clean₁.nodes.trans h_clean.nodes.symm), _, rfl,
      h_shared⟩
  · rintro e s'' h'' - ⟨-, -, -, w', h_w', -⟩
    cases h_w'

/-- With the guard free an interaction is carried out, and the guard is given back. -/
theorem outcome_run_of_free (h_free : s.context.busy = false) :
    (run i).outcome s h =
      let (result, s', h') := (carryOut i).outcome s.enter h
      (result, { s' with context := s'.context.release }, h') := by
  rw [Program.outcome, eval_run_of_free h_free]
  rfl

/-- **Instances that refuse are on their own.** An interaction without nested actions is authored
twice where no variable is managed yet: on a host that refuses nothing, and on the same host when
some nodes refuse bindings, and some reactions. The second time there are the same table, the same
variables with the same values and the same record; every node has the bindings and reactions of the
first time, unless it refused them: then it has those it had. As many reactions are installed as
there are instances that accept them. -/
theorem run_isolated (hr : h.Reliable) (hb : h.scene.Built)
    (h_bindings : h.scene.rejectingBindings = []) (h_reactions : h.scene.rejectingReactions = [])
    (h_clean : ∀ id v, h.scene.variableTable.find? id = some v →
      h.scene.collections.find? s.config.collection ≠ some v.collection)
    (h_single : i.nestedActions = []) (h_group : s.context.group i.group = .ok g)
    (h_there : ∀ j ∈ g.instances, h.scene.nodes.contains j.id = true) {a : Authoring}
    {s' : Session} {h' : Host} (h_ok : (run i).outcome s h = (.ok a, s', h')) :
    (run i).Ends s (h.rejecting B R) fun r s'' h'' => s'' = s' ∧ h''.storage = h'.storage ∧
      h.scene.Isolated B R h'.scene h''.scene ∧
      ∃ a', r = .ok a' ∧ Shared R g a.main a'.main := by
  -- a session that is busy is told so, and nothing is authored
  cases h_busy : s.context.busy with
  | true =>
    have h_result : ((run i).outcome s h).1 = .error .busy := by
      rw [Program.outcome, eval_run_of_busy h_busy]
    rw [h_ok] at h_result
    cases h_result
  | false =>
    rw [outcome_run_of_free h_busy] at h_ok
    rw [Ends, outcome_run_of_free h_busy]
    rcases h_carried : (carryOut i).outcome s.enter h with ⟨r, s₁, h₁⟩
    rw [h_carried] at h_ok
    obtain ⟨rfl, rfl, rfl⟩ : r = .ok a ∧ { s₁ with context := s₁.context.release } = s' ∧
        h₁ = h' := by simpa using h_ok
    have h_entered : s.enter.Clean s.config.collection h.scene.nodes h :=
      ⟨rfl, hr, hb, rfl, h_clean⟩
    obtain ⟨h_memory, h_rest⟩ := carryOut_isolated (B := B) (R := R) h_entered h_bindings
      h_reactions h_single h_group h_there h_carried
    exact ⟨by rw [← h_memory], h_rest⟩

/-- A tab refuses its binding, and the other one its reaction. -/
theorem run_isolated_on_panel :
    let w := World.panel.after [.notice]
    let i := Interaction.switchingOn "tabs" 1 []
    ∃ g a s' h', w.current.context.group "tabs" = .ok g ∧
      (run i).outcome w.current w.host = (.ok a, s', h') ∧
      (run i).Ends w.current (w.host.rejecting ["tab-1"] ["tab-2"]) fun r s'' h'' =>
        s'' = s' ∧ h''.storage = h'.storage ∧
        w.host.scene.Isolated ["tab-1"] ["tab-2"] h'.scene h''.scene ∧
        ∃ a', r = .ok a' ∧ Shared ["tab-2"] g a.main a'.main := by
  intro w i
  have h_sound : w.Sound := World.sound_panel.advance (m := .notice) trivial
  have h_none : w.host.scene.variableTable.keys = [] := by decide +kernel
  have h_there : (w.current.context.group "tabs").toOption.all
      (·.instances.all (w.host.scene.nodes.contains ·.id)) = true := by decide +kernel
  obtain ⟨g, h_group⟩ : ∃ g, w.current.context.group "tabs" = .ok g :=
    Context.exists_of_isOk (by decide +kernel)
  rw [h_group] at h_there
  have h_ok : ((run i).outcome w.current w.host).1.isOk = true := by decide +kernel
  rcases h_run : (run i).outcome w.current w.host with ⟨e | a, s', h'⟩
  · rw [h_run] at h_ok
    cases h_ok
  · exact ⟨g, a, s', h', h_group, rfl, run_isolated h_sound.reliable h_sound.built rfl rfl
      (fun id v hv => absurd (Registry.mem_keys_iff.mpr ⟨v, hv⟩) (by simp [h_none])) rfl h_group
      (List.all_eq_true.mp h_there) h_run⟩

end Authoring

end Clickwork
