import Clickwork.Proofs.Effects
import Clickwork.Proofs.Handling
import Clickwork.Proofs.Interference

/-!
# Cleaning up while an interaction is authored

Authoring creates the state variables of a group long before it installs the reactions that set
them. A clean-up looks at all reactions once and then removes the variables that none of them set,
one after the other. If it looks at them in between, it takes the new variables for orphans: they
are removed, and the reactions that are installed afterwards are left dangling
(`World.swept_while_authored`).

Apart from that the two get along. A variable is idle (`Scene.Idle`) if its id was given out, no
reaction sets it, and it is not a new state variable: it stays so, whatever authoring does
(`Sweeping.Authors`). A clean-up removes idle variables only (`Sweeping.Sweeps`), if no new state
variable is without a reaction when it looks. So nothing that authoring needs is taken away from it,
no reaction is left dangling, and the variables that it reports are there (`World.swept_safely`).
-/

namespace Clickwork

open Program

namespace Scene

/-! ### State variables and idle ones -/

/-- **A state variable that was created since** the scene `s₀`. -/
def NewState (s₀ s : Scene) (id : String) : Prop :=
  s.type? id = some "STRING" ∧ s₀.type? id = none

/-- **A variable that nobody will set any more.** It may be gone already. -/
structure Idle (s₀ s : Scene) (id : String) : Prop where
  issued : Issued variableId s.nextId id
  unset : ∀ node, ¬s.Sets node id
  plain : ¬s₀.NewState s id

theorem attached_iff {s : Scene} :
    s.Attached ↔ ∀ node target, s.Sets node target → s.type? target ≠ none := by
  have h_there (target : String) :
      (∃ v, s.variableTable.find? target = some v) ↔ s.type? target ≠ none := by
    rw [type?, ne_eq, Option.map_eq_none_iff, ← ne_eq, Option.ne_none_iff_exists']
  simp only [Attached, h_there]

end Scene

/-! ### What tasks do -/

namespace Sweeping

/-- What every task leaves as it is, or adds to. -/
structure Continues (m m' : Moment Session) : Prop where
  precedes : m.Precedes m'
  later : m.host.Later m'.host
  config : m'.memory.config = m.memory.config
  handlers : m'.memory.handlers = m.memory.handlers
  nextId : m.host.scene.nextId ≤ m'.host.scene.nextId

/-- **What a clean-up does**: variables go, but only idle ones. -/
structure Sweeps (s₀ : Scene) (m m' : Moment Session) : Prop extends Continues m m' where
  last : m'.memory.lastAuthoring = m.memory.lastAuthoring
  next : m'.host.scene.nextId = m.host.scene.nextId
  reactions : ∀ node, m'.host.scene.reactions node = m.host.scene.reactions node
  types : ∀ id, m'.host.scene.type? id = m.host.scene.type? id ∨
    (m'.host.scene.type? id = none ∧ s₀.Idle m.host.scene id)

/-- **What authoring does**: an idle variable stays idle. -/
structure Authors (s₀ : Scene) (m m' : Moment Session) : Prop extends Continues m m' where
  idle : ∀ id, s₀.Idle m.host.scene id → s₀.Idle m'.host.scene id

variable {s₀ : Scene} {m m' m'' : Moment Session}

theorem Continues.refl (m : Moment Session) : Continues m m :=
  ⟨.refl m, .refl m.host, rfl, rfl, Nat.le_refl _⟩

theorem Continues.trans (h : Continues m m') (h' : Continues m' m'') : Continues m m'' where
  precedes := h.precedes.trans h'.precedes
  later := h.later.trans h'.later
  config := h'.config.trans h.config
  handlers := h'.handlers.trans h.handlers
  nextId := Nat.le_trans h.nextId h'.nextId

theorem Continues.perform (m : Moment Session) (c : Call) : Continues m (m.perform c).2 :=
  ⟨.perform m c, .perform m.host c, rfl, rfl, m.host.nextId_perform c⟩

theorem Continues.withMemory {s : Session} (h_config : s.config = m.memory.config)
    (h_handlers : s.handlers = m.memory.handlers) : Continues m (m.withMemory s) :=
  ⟨⟨[], (List.append_nil _).symm⟩, .refl _, h_config, h_handlers, Nat.le_refl _⟩

/-! ### Clean-ups -/

namespace Sweeps

theorem sets (h : Sweeps s₀ m m') (node target : String) :
    m'.host.scene.Sets node target ↔ m.host.scene.Sets node target :=
  Scene.Sets.congr (h.reactions node)

/-- What is there after a clean-up was there before. -/
theorem newState_of (h : Sweeps s₀ m m') {id : String} (h_new : s₀.NewState m'.host.scene id) :
    s₀.NewState m.host.scene id := by
  rcases h.types id with h_same | ⟨h_gone, -⟩
  · exact ⟨h_same.symm.trans h_new.1, h_new.2⟩
  · cases h_gone.symm.trans h_new.1

/-- **A clean-up takes no new state variable away.** -/
theorem newState (h : Sweeps s₀ m m') {id : String} (h_new : s₀.NewState m.host.scene id) :
    s₀.NewState m'.host.scene id := by
  rcases h.types id with h_same | ⟨-, h_idle⟩
  · exact ⟨h_same.trans h_new.1, h_new.2⟩
  · exact absurd h_new h_idle.plain

/-- **A clean-up takes nothing away that is set.** -/
theorem there_of_sets (h : Sweeps s₀ m m') {node target : String}
    (h_sets : m'.host.scene.Sets node target) (h_there : m.host.scene.type? target ≠ none) :
    m'.host.scene.type? target ≠ none := by
  rcases h.types target with h_same | ⟨-, h_idle⟩
  · rwa [h_same]
  · exact absurd ((h.sets node target).mp h_sets) (h_idle.unset node)

theorem idle (h : Sweeps s₀ m m') {id : String} (h_idle : s₀.Idle m.host.scene id) :
    s₀.Idle m'.host.scene id where
  issued := by
    rw [h.next]
    exact h_idle.issued
  unset := fun node h_sets => h_idle.unset node ((h.sets node id).mp h_sets)
  plain := fun h_new => h_idle.plain (h.newState_of h_new)

theorem attached (h : Sweeps s₀ m m') (h_attached : m.host.scene.Attached) :
    m'.host.scene.Attached := by
  rw [Scene.attached_iff] at h_attached ⊢
  exact fun node target h_sets =>
    h.there_of_sets h_sets (h_attached node target ((h.sets node target).mp h_sets))

/-- What changes nothing of the scene. -/
theorem of_scene_eq (h : Continues m m')
    (h_last : m'.memory.lastAuthoring = m.memory.lastAuthoring)
    (h_scene : m'.host.scene = m.host.scene) : Sweeps s₀ m m' where
  toContinues := h
  last := h_last
  next := by rw [h_scene]
  reactions := fun node => by rw [h_scene]
  types := fun id => .inl (by rw [h_scene])

theorem refl (s₀ : Scene) (m : Moment Session) : Sweeps s₀ m m :=
  of_scene_eq (.refl m) rfl rfl

theorem trans (h : Sweeps s₀ m m') (h' : Sweeps s₀ m' m'') : Sweeps s₀ m m'' where
  toContinues := h.toContinues.trans h'.toContinues
  last := h'.last.trans h.last
  next := h'.next.trans h.next
  reactions := fun node => (h'.reactions node).trans (h.reactions node)
  types := by
    intro id
    rcases h'.types id with h_same | ⟨h_gone, h_idle⟩
    · rcases h.types id with h_same' | ⟨h_gone, h_idle⟩
      · exact .inl (h_same.trans h_same')
      · exact .inr ⟨h_same.trans h_gone, h_idle⟩
    · rcases h.types id with h_same' | ⟨-, h_idle'⟩
      · -- what is idle now was idle before
        refine .inr ⟨h_gone, ⟨h.next ▸ h_idle.issued, fun node h_sets => ?_, fun h_new => ?_⟩⟩
        · exact h_idle.unset node ((h.sets node id).mpr h_sets)
        · exact h_idle.plain ⟨h_same'.trans h_new.1, h_new.2⟩
      · exact .inr ⟨h_gone, h_idle'⟩

theorem query {c : Call} (hc : c.method.mutates = false) : Sweeps s₀ m (m.perform c).2 :=
  of_scene_eq (.perform m c) rfl (m.host.scene_perform_query hc)

/-- **The removal of an idle variable.** -/
theorem removeVariable {id : String} (h_idle : s₀.Idle m.host.scene id) :
    Sweeps s₀ m (m.perform (.removeVariable id)).2 where
  toContinues := .perform m _
  last := rfl
  next := by
    -- of the changes a call can make to a scene, the only one this call can make is the removal
    show (m.host.perform _).2.scene.nextId = m.host.scene.nextId
    have h_scene := m.host.scene_perform (.removeVariable id)
    generalize (m.host.perform (.removeVariable id)).2.scene = s' at h_scene ⊢
    rcases h_scene with rfl | h_changes
    · rfl
    · cases h_changes
      rfl
  reactions := by
    intro node
    rcases m.host.reactions_perform (.removeVariable id) node with h_same | ⟨_, h_eq, -⟩
    · exact h_same
    · cases h_eq
  types := by
    intro id'
    rcases m.host.type?_perform (.removeVariable id) id' with h_same | ⟨h_eq, h_gone⟩ |
      ⟨_, _, _, h_eq, -⟩
    · exact .inl h_same
    · cases h_eq
      exact .inr ⟨h_gone, h_idle⟩
    · cases h_eq

end Sweeps

/-! ### Authoring -/

namespace Authors

theorem refl (s₀ : Scene) (m : Moment Session) : Authors s₀ m m :=
  ⟨.refl m, fun _ h_idle => h_idle⟩

theorem trans (h : Authors s₀ m m') (h' : Authors s₀ m' m'') : Authors s₀ m m'' :=
  ⟨h.toContinues.trans h'.toContinues, fun id h_idle => h'.idle id (h.idle id h_idle)⟩

theorem withMemory {s : Session} (h_config : s.config = m.memory.config)
    (h_handlers : s.handlers = m.memory.handlers) : Authors s₀ m (m.withMemory s) :=
  ⟨.withMemory h_config h_handlers, fun _ h_idle => h_idle⟩

/-- **A call leaves idle variables idle**, if the reactions that it installs set none of them. -/
theorem perform {c : Call} (h_reactions : ∀ node reactions, c = .setReactions node reactions →
    ∀ r ∈ reactions, ∀ target ∈ r.targets, ¬s₀.Idle m.host.scene target) :
    Authors s₀ m (m.perform c).2 := by
  refine ⟨.perform m c, fun id h_idle => ⟨?_, fun node h_sets => ?_, fun h_new => ?_⟩⟩
  · exact h_idle.issued.mono (m.host.nextId_perform c)
  · rcases m.host.sets_perform h_sets with h_before | ⟨reactions, rfl, r, hr, ht⟩
    · exact h_idle.unset node h_before
    · exact h_reactions node reactions rfl r hr id ht h_idle
  · rcases m.host.type?_perform c id with h_same | ⟨-, h_gone⟩ | ⟨_, _, _, -, rfl, -⟩
    · exact h_idle.plain ⟨h_same.symm.trans h_new.1, h_new.2⟩
    · cases h_gone.symm.trans h_new.1
    · -- the id of a new variable was not given out before
      obtain ⟨n, hn, h_eq⟩ := h_idle.issued
      have := Scene.variableId_injective h_eq
      omega

end Authors

theorem Sweeps.authors (h : Sweeps s₀ m m') : Authors s₀ m m' :=
  ⟨h.toContinues, fun _ h_idle => h.idle h_idle⟩

/-- **The terms of a clean-up**: when it looks at all reactions, every new state variable is set by
one. -/
def sweeping (s₀ : Scene) : Terms Session where
  rely _ m m' := Authors s₀ m m'
  may c m := c.method = .allReactions →
    ∀ id, s₀.NewState m.host.scene id → ∃ node, m.host.scene.Sets node id
  step m m' := Sweeps s₀ m m'
  rely_refl _ m := .refl s₀ m
  rely_trans h h' := h.trans h'
  step_refl m := .refl s₀ m
  step_trans h h' := h.trans h'
  step_node _ _ := .query rfl

/-- **The terms of authoring** beside clean-ups. -/
def authoring (s₀ : Scene) : Terms Session where
  rely _ m m' := Sweeps s₀ m m'
  may _ _ := True
  step m m' := Authors s₀ m m'
  rely_refl _ m := .refl s₀ m
  rely_trans h h' := h.trans h'
  step_refl m := .refl s₀ m
  step_trans h h' := h.trans h'
  step_node _ _ := .perform fun _ _ h => nomatch h

/-! ### The clean-up -/

/-- A moment from which a session may go on: its scene can be built, and reactions can be looked at
and cleared. -/
structure Ready (m : Moment Session) : Prop where
  built : m.host.scene.Built
  accepts : m.host.scene.rejectingReactions = []
  looks : m.host.Spares .allReactions
  clears : m.host.Spares .setReactions

theorem Ready.continues (h : Ready m) (h_later : Continues m m') : Ready m' where
  built := h_later.later.built h.built
  accepts := h_later.later.kept.rejectingReactions.trans h.accepts
  looks := h_later.later.spares _ h.looks
  clears := h_later.later.spares _ h.clears

/-- What a clean-up keeps: some variables are idle. -/
structure Sweepable (m₀ : Moment Session) (ids : List String) (m : Moment Session) : Prop where
  continues : Continues m₀ m
  idle : ∀ id ∈ ids, m₀.host.scene.Idle m.host.scene id

variable {m₀ : Moment Session} {ids : List String}

theorem Sweepable.authors (h : Sweepable m₀ ids m) (h_later : Authors m₀.host.scene m m') :
    Sweepable m₀ ids m' :=
  ⟨h.continues.trans h_later.toContinues, fun id h_id => h_later.idle id (h.idle id h_id)⟩

/-- **The discipline of a clean-up** that may remove some variables. -/
def sweeper (m₀ : Moment Session) (ids : List String) : Discipline Session :=
  (sweeping m₀.host.scene).keeping (Sweepable m₀ ids)

namespace Sweeper

theorem permits {c : Call} (hc : c.method.mutates = false) : (sweeper m₀ ids).Permits c := by
  refine Terms.permits fun m m' hI h_rely _ => ?_
  have h_step : Sweeps m₀.host.scene m' (m'.perform c).2 := .query hc
  exact ⟨h_step, (hI.authors h_rely).authors h_step.authors⟩

theorem permits_remove {id : String} (h_id : id ∈ ids) :
    (sweeper m₀ ids).Permits (.removeVariable id) := by
  refine Terms.permits fun m m' hI h_rely _ => ?_
  have hI' := hI.authors h_rely
  have h_step : Sweeps m₀.host.scene m' (m'.perform (.removeVariable id)).2 :=
    .removeVariable (hI'.idle id h_id)
  exact ⟨h_step, hI'.authors h_step.authors⟩

theorem converses : (sweeper m₀ ids).Converses
    fun s => s.config = m₀.memory.config ∧ s.handlers = m₀.memory.handlers where
  reads := Terms.sees _ fun _ hI => ⟨hI.continues.config, hI.continues.handlers⟩
  changes f hf := by
    refine Terms.modifies fun m hI => ?_
    have h_config : (f m.memory).config = m.memory.config := (congrArg Session.config (hf _) :)
    have h_handlers : (f m.memory).handlers = m.memory.handlers :=
      (congrArg Session.handlers (hf _) :)
    exact ⟨.of_scene_eq (.withMemory h_config h_handlers) (congrArg Session.lastAuthoring (hf _) :)
      rfl, hI.authors (.withMemory h_config h_handlers)⟩
  delivers := Terms.delivers

variable {b : Moment Session}

/-- **What a clean-up lists** has been given out. -/
theorem listVariables_safe (h₀ : Ready m₀) (collection : String)
    (h_step : Sweeps m₀.host.scene b m) (hI : Sweepable m₀ [] m) :
    (Program.ask (.listVariables collection) : Program Session _).Safe (sweeping m₀.host.scene)
      (ends (fun managed b m => (Sweeps m₀.host.scene b m ∧ Sweepable m₀ [] m) ∧
          ∀ v ∈ managed, Scene.Issued Scene.variableId m.host.scene.nextId v.id)
        fun b m => Sweeps m₀.host.scene b m ∧ Sweepable m₀ [] m) b m := by
  refine .ask h_step fun m' h_rely _ => ?_
  have hI' := hI.authors h_rely
  have h_look : Sweeps m₀.host.scene m' (m'.perform (.listVariables collection)).2 := .query rfl
  have hI'' := hI'.authors h_look.authors
  have h_built := (h₀.continues hI'.continues).built.wellFormed
  obtain ⟨faults, -, h_eq | ⟨e, h_eq⟩⟩ := m'.host.perform_cases (.listVariables collection)
  · unfold Moment.perform at h_look hI'' ⊢
    rw [h_eq] at h_look hI'' ⊢
    refine ⟨⟨h_look, hI''⟩, fun v hv => ?_⟩
    obtain ⟨w, hw, -⟩ := Scene.mem_variablesOf.mp hv
    exact h_built.variable_issued _ w hw
  · unfold Moment.perform at h_look hI'' ⊢
    rw [h_eq] at h_look hI'' ⊢
    exact ⟨h_look, hI''⟩

/-- The variables that a clean-up removes: those it listed that no reaction sets. -/
def orphans (managed : List VariableInfo) (reactions : Registry String (List Reaction)) :
    List VariableInfo :=
  managed.filter fun v => !(Records.inUse reactions).contains v.id

/-- **What a clean-up finds without a reaction** is idle: at that time every new state variable is
set. -/
theorem allReactions_safe (h₀ : Ready m₀) {managed : List VariableInfo}
    (h_step : Sweeps m₀.host.scene b m) (hI : Sweepable m₀ [] m)
    (h_issued : ∀ v ∈ managed, Scene.Issued Scene.variableId m.host.scene.nextId v.id) :
    (Program.ask .allReactions : Program Session _).Safe (sweeping m₀.host.scene)
      (ends (fun reactions b m => Sweeps m₀.host.scene b m ∧
          Sweepable m₀ ((orphans managed reactions).map (·.id)) m)
        fun b m => Sweeps m₀.host.scene b m ∧ Sweepable m₀ [] m) b m := by
  refine .ask h_step fun m' h_rely h_may => ?_
  have hI' := hI.authors h_rely
  have h_look : Sweeps m₀.host.scene m' (m'.perform .allReactions).2 := .query rfl
  have h_answer : m'.host.perform .allReactions = (.ok m'.host.scene.allReactions, m'.host) :=
    Host.perform_of_spares (h₀.continues hI'.continues).looks
  unfold Moment.perform at h_look ⊢
  rw [h_answer] at h_look ⊢
  refine ⟨h_look, (hI'.authors h_look.authors).continues, fun id h_id => h_look.idle ?_⟩
  obtain ⟨v, hv, rfl⟩ := List.mem_map.mp h_id
  rw [orphans, List.mem_filter, Bool.not_eq_true', List.contains_eq_mem] at hv
  have h_unused := of_decide_eq_false hv.2
  refine ⟨(h_issued v hv.1).mono h_rely.nextId, fun node h_sets => ?_, fun h_new => ?_⟩
  · exact h_unused (Records.mem_inUse.mpr ⟨node, h_sets⟩)
  · exact h_unused (Records.mem_inUse.mpr (h_may rfl _ h_new))

/-- **Sweeping removes idle variables only**: what it lists has been given out, and what it then
finds without a reaction is idle. -/
theorem sweep_holds (h₀ : Ready m₀) : (sweeper m₀ []).Holds Records.sweep := by
  refine Discipline.bind _ (Records.collection?_holds (Terms.sees _ fun _ _ => trivial)
    (permits rfl)) fun collection => ?_
  cases collection with
  | none => exact .pure _
  | some collection =>
    intro b m h_step hI
    refine (listVariables_safe h₀ collection h_step hI).bind (fun managed b' m' h_listed => ?_)
      fun _ _ _ hE => hE
    obtain ⟨⟨h_step', hI'⟩, h_issued⟩ := h_listed
    dsimp only
    split
    · exact ⟨h_step', hI'⟩
    · refine (allReactions_safe h₀ h_step' hI' h_issued).bind
        (fun reactions b'' m'' h_looked => ?_) fun _ _ _ hE => hE
      -- that the orphans are idle matters while they are removed, and no longer
      refine Safe.mono (Discipline.bind (sweeper m₀ ((orphans managed reactions).map (·.id)))
        (Records.filterBy_holds _ fun v hv =>
          Records.remove_holds (permits_remove (List.mem_map_of_mem hv)) _) (fun removed => ?_)
        b'' m'' h_looked.1 h_looked.2) fun _ _ _ h_done => ⟨h_done.1, h_done.2.continues, nofun⟩
      exact Discipline.bind _ (Discipline.log _ _ _ _) fun _ => .pure _

end Sweeper

end Sweeping

end Clickwork
