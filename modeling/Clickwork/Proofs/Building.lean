import Clickwork.Proofs.Sweeping

/-!
# Authoring beside clean-ups

What authoring keeps while clean-ups remove idle variables (`Sweeping.Building`): the variables that
it has in hand are there, and every variable that is set is there. Retiring an interaction breaks
the latter between the removal of its variables and the clearing of the reactions that set them; the
variables that it has removed are kept account of meanwhile. Reactions are installed for variables
in hand only, so nothing else is ever left dangling.

Together with what clean-ups do, this makes `World.swept_safely` an induction on turns.
-/

namespace Clickwork

open Program

/-- **The state variables that a wiring reports.** -/
def Wiring.variables (x : Wiring) : List String :=
  (x.slots.getD []).filterMap (·.target?)

/-! ### What reactions set -/

theorem TargetTable.mem_of_at? {α : Type} {xs : List α} {index : Int} {x : α}
    (h : at? xs index = some x) : x ∈ xs := by
  unfold at? at h
  split at h
  · exact List.mem_of_getElem? h
  · split at h
    · exact List.mem_of_getElem? h
    · cases h

/-- A node that sets something is listed with its reactions. -/
theorem Scene.mem_allReactions {s : Scene} {node target : String} (h_sets : s.Sets node target) :
    (node, s.reactions node) ∈ s.allReactions.entries := by
  obtain ⟨r, hr, -⟩ := h_sets
  cases hn : s.nodes.find? node with
  | none =>
    rw [reactions_of_find?_eq_none hn] at hr
    cases hr
  | some n =>
    rw [reactions_of_find? hn] at hr ⊢
    refine Registry.find?_eq_some_iff.mp ?_
    rw [allReactions, Registry.find?_mapValues, Registry.find?_filter, hn]
    cases h_reactions : n.reactions with
    | nil =>
      rw [h_reactions] at hr
      cases hr
    | cons => simp [h_reactions]

namespace Reaction

theorem targets_assignments {slots : List Slot} {effects : List (Int × String)}
    {as : List Assignment} (h : assignments slots effects = .ok as) :
    ∀ a ∈ as, a.target ∈ slots.filterMap (·.target?) := by
  induction effects generalizing as with
  | nil =>
    cases h
    exact nofun
  | cons e rest ih =>
    obtain ⟨j, value⟩ := e
    unfold assignments at h
    split at h
    · cases h
    · rename_i slot h_slot
      cases h_rest : assignments slots rest with
      | error e => rw [h_rest] at h; cases h
      | ok others =>
        rw [h_rest] at h
        cases h
        intro a ha
        rcases List.mem_append.mp ha with h_own | h_other
        · obtain ⟨target, h_target, rfl⟩ := Option.map_eq_some_iff.mp (Option.mem_toList.mp h_own)
          exact List.mem_filterMap.mpr ⟨slot, TargetTable.mem_of_at? h_slot, h_target⟩
        · exact ih h_rest a h_other

/-- **The reactions of a group set variables of its slots** only. -/
theorem targets_build {table : Option TargetTable} {slots : Option (List Slot)} {count : Nat}
    {reactions : List Reaction} (h : build table slots count = .ok reactions) :
    ∀ r ∈ reactions, ∀ target ∈ r.targets, target ∈ (slots.getD []).filterMap (·.target?) := by
  have h_inert : ∀ r ∈ List.replicate count ({} : Reaction), ∀ target ∈ r.targets,
      target ∈ (slots.getD []).filterMap (·.target?) := by
    intro r hr target ht
    rw [(List.mem_replicate.mp hr).2] at ht
    cases ht
  unfold build at h
  split at h
  · rename_i table slots
    split at h
    · -- without any target, the reactions do nothing
      cases h
      exact h_inert
    · -- a reaction sets what its row assigns, which are variables of slots
      intro r hr target ht
      obtain ⟨i, -, h_row⟩ := Except.of_mem_mapM h r hr
      unfold ofTable at h_row
      cases h_effects : table.effects i with
      | error e => rw [h_effects] at h_row; cases h_row
      | ok effects =>
        rw [h_effects] at h_row
        change (do return { actions := ← assignments slots effects } : Except Failure Reaction) = _
          at h_row
        cases h_as : assignments slots effects with
        | error e => rw [h_as] at h_row; cases h_row
        | ok as =>
          rw [h_as] at h_row
          cases h_row
          obtain ⟨a, ha, rfl⟩ := List.mem_map.mp ht
          exact targets_assignments h_as a ha
  · cases h
    exact h_inert

end Reaction

namespace Sweeping

/-! ### What authoring keeps -/

variable {m₀ m m' : Moment Session}

/-- Which reactions of a node may set a variable that is not there. -/
abbrev Loose := String × List Reaction → String → Prop

/-- No reaction may. -/
def tight : Loose := fun _ _ => False

/-- Those may that set a removed variable. -/
def removing (removed : List String) : Loose := fun _ target => target ∈ removed

/-- **What authoring keeps** that began at the moment `m₀`: what is set is there or may be missing,
the variables in hand are there, and those reported are there or were removed on purpose. -/
structure Building (m₀ : Moment Session) (loose : Loose) (held reported : List String)
    (m : Moment Session) : Prop where
  began : Ready m₀
  continues : Continues m₀ m
  last : m.memory.lastAuthoring = m₀.memory.lastAuthoring
  tied : ∀ node target, m.host.scene.Sets node target →
    m.host.scene.type? target ≠ none ∨ loose (node, m.host.scene.reactions node) target
  held : ∀ id ∈ held, m₀.host.scene.NewState m.host.scene id
  reported : ∀ id ∈ reported,
    m₀.host.scene.NewState m.host.scene id ∨ .removeVariable id ∈ m₀.since m

namespace Building

variable {loose loose' : Loose} {held held' reported reported' : List String}

theorem ready (h : Building m₀ loose held reported m) : Ready m :=
  h.began.continues h.continues

theorem attached (h : Building m₀ tight held reported m) : m.host.scene.Attached := by
  rw [Scene.attached_iff]
  exact fun node target h_sets => (h.tied node target h_sets).resolve_right id

/-- Authoring begins with nothing in hand. -/
theorem start (h_ready : Ready m₀) (h_attached : m₀.host.scene.Attached) :
    Building m₀ tight [] [] m₀ where
  began := h_ready
  continues := .refl m₀
  last := rfl
  tied := fun node target h_sets => .inl (Scene.attached_iff.mp h_attached node target h_sets)
  held := nofun
  reported := nofun

/-- What was called up to a moment was called up to a later one. -/
theorem mem_since (h : Building m₀ loose held reported m) (h_later : m.Precedes m') {c : Call}
    (hc : c ∈ m₀.since m) : c ∈ m₀.since m' := by
  rw [Moment.since_append h.continues.precedes h_later]
  exact List.mem_append_left _ hc

theorem sweeps (h : Building m₀ loose held reported m) (h_sweeps : Sweeps m₀.host.scene m m') :
    Building m₀ loose held reported m' where
  began := h.began
  continues := h.continues.trans h_sweeps.toContinues
  last := h_sweeps.last.trans h.last
  tied := fun node target h_sets => by
    rw [h_sweeps.reactions node]
    exact (h.tied node target ((h_sweeps.sets node target).mp h_sets)).imp_left
      (h_sweeps.there_of_sets h_sets)
  held := fun id h_id => h_sweeps.newState (h.held id h_id)
  reported := fun id h_id => (h.reported id h_id).imp h_sweeps.newState
    (h.mem_since h_sweeps.precedes)

/-- **A call that removes nothing** keeps new state variables. -/
theorem newState_perform (h : Building m₀ loose held reported m) {c : Call} {id : String}
    (h_id : m₀.host.scene.NewState m.host.scene id) :
    m₀.host.scene.NewState (m.perform c).2.host.scene id ∨ c = .removeVariable id := by
  rcases m.host.type?_perform c id with h_same | ⟨rfl, -⟩ | ⟨_, _, _, -, rfl, -⟩
  · exact .inl ⟨h_same.trans h_id.1, h_id.2⟩
  · exact .inr rfl
  · -- the id of a variable that is created is not that of one which is there
    have h_none := h.ready.built.wellFormed.find?_variableId (Nat.le_refl m.host.scene.nextId)
    rw [Scene.NewState, Scene.type?, h_none] at h_id
    cases h_id.1

/-- **A call that removes nothing**, and whose reactions only set variables in hand. -/
theorem perform (h : Building m₀ loose held reported m) {c : Call}
    (hc : ∀ id, c ≠ .removeVariable id)
    (h_reactions : ∀ node reactions, c = .setReactions node reactions →
      ∀ r ∈ reactions, ∀ target ∈ r.targets, target ∈ held) :
    Authors m₀.host.scene m (m.perform c).2 ∧
      Building m₀ loose held reported (m.perform c).2 := by
  have h_new {id : String} (h_id : m₀.host.scene.NewState m.host.scene id) :
      m₀.host.scene.NewState (m.perform c).2.host.scene id :=
    (h.newState_perform h_id).resolve_right (hc id)
  have h_authors : Authors m₀.host.scene m (m.perform c).2 :=
    .perform fun node reactions h_eq r hr target ht h_idle =>
      h_idle.plain (h.held target (h_reactions node reactions h_eq r hr target ht))
  refine ⟨h_authors, h.began,
    h.continues.trans h_authors.toContinues, h.last, fun node target h_sets => ?_,
    fun id h_id => h_new (h.held id h_id), fun id h_id =>
      (h.reported id h_id).imp h_new (h.mem_since h_authors.precedes)⟩
  -- a node that the call does not concern stays tied; one that it concerns is tied to what is in hand
  rcases m.host.reactions_perform c node with h_same | ⟨reactions, rfl, h_given⟩
  · show _ ∨ loose (node, (m.host.perform c).2.scene.reactions node) target
    rw [h_same]
    refine (h.tied node target ((Scene.Sets.congr h_same).mp h_sets)).imp_left fun h_there => ?_
    rcases m.host.type?_perform c target with h_type | ⟨rfl, -⟩ | ⟨_, _, _, -, -, h_some⟩
    · exact fun h_none => h_there (h_type.symm.trans h_none)
    · exact absurd rfl (hc target)
    · exact fun h_none => nomatch h_some.symm.trans h_none
  · obtain ⟨r, hr, ht⟩ := h_sets
    have h_held := h.held target (h_reactions node reactions rfl r (h_given ▸ hr) target ht)
    exact .inl fun h_none => nomatch (h_new h_held).1.symm.trans h_none

/-- **A variable is removed**, and reactions may still set it. -/
theorem remove (h : Building m₀ loose [] reported m) {id : String}
    (h_loose : ∀ e target, loose e target → loose' e target) (h_id : ∀ e, loose' e id) :
    Building m₀ loose' [] reported (m.perform (.removeVariable id)).2 := by
  have h_later := Continues.perform m (.removeVariable id)
  refine ⟨h.began, h.continues.trans h_later, h.last, fun node target h_sets => ?_,
    nofun, fun target h_target => ?_⟩
  · rcases m.host.reactions_perform (.removeVariable id) node with h_same | ⟨_, h_eq, -⟩
    · show _ ∨ loose' (node, (m.host.perform (.removeVariable id)).2.scene.reactions node) target
      rcases m.host.type?_perform (.removeVariable id) target with h_type | ⟨h_eq, -⟩ |
        ⟨_, _, _, h_eq, -⟩
      · rw [h_same]
        refine (h.tied node target ((Scene.Sets.congr h_same).mp h_sets)).imp (fun h_there => ?_)
          (h_loose _ _)
        exact fun h_none => h_there (h_type.symm.trans h_none)
      · cases h_eq
        exact .inr (h_id _)
      · cases h_eq
    · cases h_eq
  · rcases h.reported target h_target with h_new | h_called
    · refine (h.newState_perform h_new).imp_right fun h_eq => ?_
      rw [← h_eq, Moment.since_append h.continues.precedes h_later.precedes, Moment.since_perform]
      exact List.mem_append_right _ (List.mem_singleton_self _)
    · exact .inr (h.mem_since h_later.precedes h_called)

theorem withMemory (h : Building m₀ loose held reported m) {s : Session}
    (h_config : s.config = m.memory.config) (h_handlers : s.handlers = m.memory.handlers)
    (h_last : s.lastAuthoring = m.memory.lastAuthoring) :
    Building m₀ loose held reported (m.withMemory s) where
  began := h.began
  continues := h.continues.trans (.withMemory h_config h_handlers)
  last := h_last.trans h.last
  tied := h.tied
  held := h.held
  reported := h.reported

/-- What is told of fewer variables. -/
theorem mono (h : Building m₀ loose held reported m) (h_held : ∀ id ∈ held', id ∈ held)
    (h_reported : ∀ id ∈ reported', id ∈ held ∨ id ∈ reported) :
    Building m₀ loose held' reported' m :=
  { h with
    held := fun id h_id => h.held id (h_held id h_id)
    reported := fun id h_id => (h_reported id h_id).elim (fun h_mem => .inl (h.held id h_mem))
      (h.reported id) }

/-- One more variable is in hand. -/
theorem hold (h : Building m₀ loose held reported m) {id : String}
    (h_new : m₀.host.scene.NewState m.host.scene id) :
    Building m₀ loose (held ++ [id]) reported m :=
  { h with
    held := fun id' h_mem => (List.mem_append.mp h_mem).elim (h.held id')
      fun h_same => List.mem_singleton.mp h_same ▸ h_new }

/-- What is set and was missing may be told more exactly. -/
theorem tighten (h : Building m₀ loose held reported m)
    (h_tied : ∀ node target, m.host.scene.Sets node target →
      loose (node, m.host.scene.reactions node) target →
      loose' (node, m.host.scene.reactions node) target) : Building m₀ loose' held reported m :=
  { h with tied := fun node target h_sets =>
      (h.tied node target h_sets).imp_right (h_tied node target h_sets) }

end Building

/-- **The discipline of authoring** with some variables in hand. -/
def wirer (m₀ : Moment Session) (held reported : List String) : Discipline Session :=
  (authoring m₀.host.scene).keeping (Building m₀ tight held reported)

namespace Wirer

variable {held reported : List String}

theorem permits {c : Call} (hc : ∀ id, c ≠ .removeVariable id)
    (h_reactions : ∀ node reactions, c = .setReactions node reactions →
      ∀ r ∈ reactions, ∀ target ∈ r.targets, target ∈ held) :
    (wirer m₀ held reported).Permits c :=
  Terms.permits fun _ _ hI h_rely _ => (hI.sweeps h_rely).perform hc h_reactions

theorem modifies {f : Session → Session} (h_config : ∀ s, (f s).config = s.config)
    (h_handlers : ∀ s, (f s).handlers = s.handlers)
    (h_last : ∀ s, (f s).lastAuthoring = s.lastAuthoring) :
    (wirer m₀ held reported).Holds (Program.modify f) :=
  Terms.modifies fun _ hI =>
    ⟨.withMemory (h_config _) (h_handlers _), hI.withMemory (h_config _) (h_handlers _) (h_last _)⟩

theorem sees {τ : Type} (view : Session → τ) : (wirer m₀ held reported).Sees view fun _ => True :=
  Terms.sees _ fun _ _ => trivial

theorem records : (wirer m₀ held reported).Records where
  config := sees _
  read := sees _
  change _ := modifies (fun _ => rfl) (fun _ => rfl) fun _ => rfl
  stores c hc := permits (fun _ h_eq => by subst h_eq; cases hc) fun _ _ h_eq => by
    subst h_eq
    cases hc

/-- Calls of a method that neither removes variables nor installs reactions. -/
theorem permits_other {c : Call} (hc : c.method ≠ .removeVariable ∧ c.method ≠ .setReactions) :
    (wirer m₀ held reported).Permits c :=
  permits (fun _ h_eq => hc.1 (h_eq ▸ rfl)) fun _ _ h_eq => absurd (h_eq ▸ rfl) hc.2

/-! ### Retiring -/

section Retiring

variable {b : Moment Session} {removed : List String}

/-- **Removing a variable** leaves what sets it behind. -/
theorem remove_safe (h_step : Authors m₀.host.scene b m)
    (hI : Building m₀ (removing removed) [] reported m) (v : VariableInfo) :
    (Records.remove id v).Safe (authoring m₀.host.scene)
      (ends (fun gone b m => Authors m₀.host.scene b m ∧
          Building m₀ (removing (if gone then removed ++ [v.id] else removed)) [] reported m)
        fun _ _ => False) b m := by
  refine (Safe.tryAsk (P := ends (fun answer b m => Authors m₀.host.scene b m ∧
      Building m₀ (removing (if answer.isOk then removed ++ [v.id] else removed)) [] reported m)
    fun _ _ => False) h_step fun m' h_rely _ => ?_).bind (fun answer b' m' h_removed => ?_)
    fun _ _ _ hE => hE
  · have hI' := hI.sweeps h_rely
    refine ⟨.perform nofun, ?_⟩
    cases h_answer : (m'.perform (.removeVariable v.id)).1 with
    | ok u =>
      exact hI'.remove (fun _ _ h_mem => List.mem_append_left _ h_mem)
        fun _ => List.mem_append_right _ (List.mem_singleton_self _)
    | error e =>
      -- the variable is still there
      exact hI'.sweeps (.of_scene_eq (.perform m' _) rfl
        (Host.scene_perform_removeVariable h_answer))
  · cases answer with
    | ok u => exact h_removed
    | error e => exact ⟨rfl, h_removed⟩

theorem filterBy_safe (vs : List VariableInfo) (h_step : Authors m₀.host.scene b m)
    (hI : Building m₀ (removing removed) [] reported m) :
    (Records.filterBy (Records.remove id) vs).Safe (authoring m₀.host.scene)
      (ends (fun gone b m => Authors m₀.host.scene b m ∧
          Building m₀ (removing (removed ++ gone.map (·.id))) [] reported m)
        fun _ _ => False) b m := by
  induction vs generalizing removed b m with
  | nil =>
    show _ ∧ Building m₀ (removing (removed ++ [])) [] reported m
    rw [List.append_nil]
    exact ⟨h_step, hI⟩
  | cons v vs ih =>
    refine (remove_safe h_step hI v).bind (fun gone b' m' h_first => ?_) fun _ _ _ hE => hE
    refine (ih h_first.1 h_first.2).bind (fun others b'' m'' h_rest => ?_) fun _ _ _ hE => hE
    refine ⟨h_rest.1, ?_⟩
    have hI' := h_rest.2
    cases gone with
    | false => exact hI'
    | true =>
      rw [if_pos rfl, List.append_assoc] at hI'
      exact hI'

/-- Those reactions may set a removed variable that are still to be looked through. -/
def detaching (removed : List String) (rest : List (String × List Reaction)) : Loose :=
  fun e target => target ∈ removed ∧ e ∈ rest

/-- **Looking through the reactions of a node**: they are cleared if they set a removed variable. -/
theorem detachNode_safe {e : String × List Reaction} {rest : List (String × List Reaction)}
    (h_step : Authors m₀.host.scene b m)
    (hI : Building m₀ (detaching removed (e :: rest)) [] reported m) :
    (Records.detachNode removed e).Safe (authoring m₀.host.scene)
      (ends (fun _ b m => Authors m₀.host.scene b m ∧
          Building m₀ (detaching removed rest) [] reported m) fun _ _ => False) b m := by
  obtain ⟨node, reactions⟩ := e
  unfold Records.detachNode
  dsimp only
  split
  · refine (Safe.tryAsk (P := ends (fun _ b m => Authors m₀.host.scene b m ∧
        Building m₀ (detaching removed rest) [] reported m) fun _ _ => False) h_step
      fun m' h_rely _ => ?_).bind (fun answer b' m' h_cleared => ?_) fun _ _ _ hE => hE
    · have hI' := hI.sweeps h_rely
      have h_clear : (m'.perform (.setReactions node [])).2.host.scene.reactions node = [] :=
        Host.reactions_perform_clear hI'.ready.clears hI'.ready.accepts node
      obtain ⟨h_authors, hI''⟩ := hI'.perform (c := .setReactions node []) (fun _ => nofun)
        fun _ _ h_eq => by cases h_eq; exact nofun
      refine ⟨h_authors, hI''.tighten fun node' target h_sets h_loose => ?_⟩
      refine ⟨h_loose.1, (List.mem_cons.mp h_loose.2).resolve_left fun h_eq => ?_⟩
      -- the node that was cleared sets nothing
      obtain ⟨r, hr, -⟩ := h_sets
      rw [show node' = node from congrArg Prod.fst h_eq, h_clear] at hr
      cases hr
    · cases answer with
      | ok u => exact h_cleared
      | error e => exact ⟨rfl, h_cleared⟩
  · rename_i h_none
    refine ⟨h_step, hI.tighten fun node' target h_sets h_loose => ?_⟩
    refine ⟨h_loose.1, (List.mem_cons.mp h_loose.2).resolve_left fun h_eq => h_none ?_⟩
    obtain ⟨r, hr, ht⟩ := h_sets
    rw [show m.host.scene.reactions node' = reactions from congrArg Prod.snd h_eq] at hr
    exact List.any_eq_true.mpr ⟨r, hr, List.any_eq_true.mpr
      ⟨target, ht, List.contains_iff_mem.mpr h_loose.1⟩⟩

theorem forM_detachNode_safe (entries : List (String × List Reaction))
    (h_step : Authors m₀.host.scene b m)
    (hI : Building m₀ (detaching removed entries) [] reported m) :
    (entries.forM (Records.detachNode removed)).Safe (authoring m₀.host.scene)
      (ends (fun _ b m => Authors m₀.host.scene b m ∧ Building m₀ tight [] reported m)
        fun _ _ => False) b m := by
  induction entries generalizing b m with
  | nil => exact ⟨h_step, hI.tighten fun _ _ _ h_loose => nomatch h_loose.2⟩
  | cons e rest ih =>
    exact (detachNode_safe h_step hI).bind (fun _ _ _ h_done => ih h_done.1 h_done.2)
      fun _ _ _ hE => hE

/-- **After detaching nothing is missing.** -/
theorem detach_safe (h_step : Authors m₀.host.scene b m)
    (hI : Building m₀ (removing removed) [] reported m) :
    (Records.detach removed).Safe (authoring m₀.host.scene)
      (ends (fun _ b m => Authors m₀.host.scene b m ∧ Building m₀ tight [] reported m)
        fun _ _ => False) b m := by
  refine (Safe.ask (P := ends (fun (entries : Registry String (List Reaction)) b m =>
      Authors m₀.host.scene b m ∧ Building m₀ (detaching removed entries.entries) [] reported m)
    fun _ _ => False) h_step fun m' h_rely _ => ?_).bind
    (fun entries b' m' h_looked => forM_detachNode_safe _ h_looked.1 h_looked.2) fun _ _ _ hE => hE
  have hI' := hI.sweeps h_rely
  have h_answer : m'.host.perform .allReactions = (.ok m'.host.scene.allReactions, m'.host) :=
    Host.perform_of_spares hI'.ready.looks
  obtain ⟨h_authors, hI''⟩ := hI'.perform (c := .allReactions) (fun _ => nofun) nofun
  unfold Moment.perform at h_authors hI'' ⊢
  rw [h_answer] at h_authors hI'' ⊢
  exact ⟨h_authors, hI''.tighten fun node target h_sets h_removed =>
    ⟨h_removed, Scene.mem_allReactions h_sets⟩⟩

end Retiring

/-- **Retiring an interaction** leaves nothing missing. -/
theorem retire_holds (interaction : String) :
    (wirer m₀ [] reported).Holds (Records.retire interaction) := by
  have h_nested : (wirer m₀ [] reported).Holds (Records.dropNested interaction) :=
    Records.dropNested_holds (sees _) (Records.drop_holds records) interaction
  refine Discipline.bind _ h_nested fun _ => ?_
  refine Discipline.bind _ (Records.collection?_holds (sees _) (permits_other ⟨nofun, nofun⟩))
    fun collection => ?_
  cases collection with
  | none => exact .pure _
  | some collection =>
    refine Discipline.bind _ (.ask (permits_other ⟨nofun, nofun⟩)) fun managed b m h_step hI => ?_
    -- reactions may set the variables that are gone, until they are detached
    have hI' : Building m₀ (removing []) [] reported m :=
      hI.tighten fun _ _ _ h_none => h_none.elim
    refine (filterBy_safe _ h_step hI').bind (fun gone b' m' h_removed => ?_)
      fun _ _ _ hE => hE.elim
    obtain ⟨h_authors, h_missing⟩ := h_removed
    rw [List.nil_append] at h_missing
    dsimp only
    split
    · rename_i h_empty
      rw [List.isEmpty_iff.mp h_empty] at h_missing
      exact ⟨h_authors, h_missing.tighten fun _ _ _ h_mem => nomatch h_mem⟩
    · exact (detach_safe h_authors h_missing).bind (fun _ _ _ h_done => h_done)
        fun _ _ _ hE => hE.elim

theorem put_holds (i : Interaction) : (wirer m₀ [] reported).Holds (Records.put i) :=
  Records.put_holds (Records.get_holds records _) retire_holds (Records.store_holds records i)

/-! ### Wiring -/

end Wirer

/-- Where a task that authors stands: it has done what it may, and some variables are in hand. -/
def Holding (m₀ : Moment Session) (held reported : List String) (b m : Moment Session) : Prop :=
  Authors m₀.host.scene b m ∧ Building m₀ tight held reported m

theorem Holding.drop {held reported : List String} {b : Moment Session}
    (h : Holding m₀ held reported b m) : Holding m₀ [] reported b m :=
  ⟨h.1, h.2.mono nofun fun _ => .inr⟩

namespace Wirer

variable {held reported : List String} {b : Moment Session}

/-- **A state variable that is created** is in hand from then on. -/
theorem createState_safe (h : Holding m₀ held reported b m) (collection name : String)
    (captured : Option String) :
    (Wiring.createState collection name captured).Safe (authoring m₀.host.scene)
      (ends (fun id => Holding m₀ (held ++ [id]) reported) (Holding m₀ held reported)) b m := by
  have h_back {id : String} {b m : Moment Session} (h : Holding m₀ (held ++ [id]) reported b m) :
      Holding m₀ held reported b m :=
    ⟨h.1, h.2.mono (fun _ => List.mem_append_left _) fun _ => .inr⟩
  refine (Safe.ask (P := ends (fun id : String => Holding m₀ (held ++ [id]) reported)
    (Holding m₀ held reported)) h.1 fun m' h_rely _ => ?_).bind (fun id b' m' h_created => ?_)
    fun _ _ _ hE => hE
  · have hI' := h.2.sweeps h_rely
    obtain ⟨h_authors, hI''⟩ := hI'.perform (c := .createVariable name collection "STRING")
      (by simp) (by simp)
    cases h_answer : (m'.perform (.createVariable name collection "STRING")).1 with
    | error e => exact ⟨h_authors, hI''⟩
    | ok id =>
      -- the id is new to the scene of the beginning, as ids are given out in order
      obtain ⟨rfl, h_type⟩ := Host.perform_createVariable h_answer
      have h_unknown : m₀.host.scene.type? (Scene.variableId m'.host.scene.nextId) = none := by
        rw [Scene.type?, h.2.began.built.wellFormed.find?_variableId hI'.continues.nextId]
        rfl
      exact ⟨h_authors, hI''.hold ⟨h_type, h_unknown⟩⟩
  · refine (Discipline.lift (wirer m₀ (held ++ [id]) reported) _ b' m' h_created.1
      h_created.2).bind (fun value b'' m'' h_value => ?_) fun _ _ _ h_done => h_back h_done
    have h_set : (wirer m₀ (held ++ [id]) reported).Holds
        (Program.ask (.setValue id (.str value))) := .ask (permits_other (by simp [Call.method]))
    exact (h_set b'' m'' h_value.1 h_value.2).bind (fun _ _ _ h_done => h_done)
      fun _ _ _ h_done => h_back h_done

/-- **The variable of a slot** is in hand when the slot has been prepared. -/
theorem fillSlot_safe (h : Holding m₀ held reported b m) (plan : Wiring.Plan)
    (captured : List String) (entry : Instance × Nat) :
    (Wiring.fillSlot plan captured entry).Safe (authoring m₀.host.scene)
      (ends (fun slot => Holding m₀ (held ++ slot.target?.toList) reported)
        (Holding m₀ held reported)) b m := by
  refine (Safe.attempt (P := ends (ends (fun id => Holding m₀ (held ++ [id]) reported)
    (Holding m₀ held reported)) fun _ _ => False) (createState_safe h _ _ _)).bind
    (fun result b' m' h_created => ?_) fun _ _ _ hE => hE.elim
  cases result with
  | error e =>
    have h_same : Holding m₀ (held ++ []) reported b' m' := by rwa [List.append_nil]
    exact ⟨rfl, h_same⟩
  | ok id =>
    have h_bind : (wirer m₀ (held ++ [id]) reported).Permits
        (.bindProperty entry.1.id plan.property id) := permits_other ⟨nofun, nofun⟩
    refine (h_bind b' m' h_created.1 h_created.2).bind (fun answer b'' m'' h_bound => ?_)
      fun _ _ _ h_done => ⟨h_done.1, h_done.2.mono (fun _ => List.mem_append_left _) fun _ => .inr⟩
    cases answer with
    | ok u => exact h_bound
    | error e => exact ⟨rfl, h_bound⟩

theorem fillSlots_safe (h : Holding m₀ [] reported b m) (plan : Wiring.Plan)
    (instances : List Instance) (captured : List String) :
    (Wiring.fillSlots plan instances captured).Safe (authoring m₀.host.scene)
      (ends (fun slots => Holding m₀ (slots.filterMap (·.target?)) reported)
        (Holding m₀ [] reported)) b m := by
  refine Safe.mapM (I := fun slots : List Slot =>
    Holding m₀ (slots.filterMap (·.target?)) reported) [] h
    fun entry _ done b' m' h_done => ?_
  refine (fillSlot_safe h_done plan captured entry).mono fun r b'' m'' h_filled => ?_
  cases r with
  | error e => exact h_filled.drop
  | ok slot =>
    show Holding m₀ ((done ++ [slot]).filterMap (·.target?)) reported b'' m''
    rw [List.filterMap_append]
    cases slot <;> exact h_filled

theorem prepare_safe (h : Holding m₀ [] reported b m) (collection : String) (i : Interaction)
    (g : Group) (config : Config) (primary : Setting) (property : String) :
    (Wiring.prepare collection i g config primary property).Safe (authoring m₀.host.scene)
      (ends (fun prepared => Holding m₀ (prepared.2.filterMap (·.target?)) reported)
        (Holding m₀ [] reported)) b m := by
  have h_values {held : List String} :
      (wirer m₀ held reported).Holds (g.instances.mapM (Wiring.readValue property)) :=
    Wiring.readValues_holds (fun _ => permits_other ⟨nofun, nofun⟩) property _
  refine (h_values b m h.1 h.2).bind (fun captured b₁ m₁ h_captured => ?_)
    fun _ _ _ h_done => h_done
  refine (fillSlots_safe h_captured _ _ _).bind (fun slots b₂ m₂ h_filled => ?_)
    fun _ _ _ h_done => h_done
  refine (h_values b₂ m₂ h_filled.1 h_filled.2).bind (fun shown b₃ m₃ h_shown => ?_)
    fun _ _ _ h_done => Holding.drop h_done
  exact (Discipline.lift (wirer m₀ (slots.filterMap (·.target?)) reported) _ b₃ m₃ h_shown.1
    h_shown.2).bind (fun table _ _ h_done => And.intro h_done.1 h_done.2)
    fun _ _ _ h_done => Holding.drop h_done

/-- **Reactions are installed** for variables in hand only. -/
theorem complete_safe (i : Interaction) (g : Group) (property : Option String)
    (prepared : Option (TargetTable × List Slot))
    (h : Holding m₀ (((prepared.map Prod.snd).getD []).filterMap (·.target?)) reported b m) :
    (Wiring.complete i g property prepared).Safe (authoring m₀.host.scene)
      (ends (fun x => Holding m₀ x.variables reported) (Holding m₀ [] reported)) b m := by
  unfold Wiring.complete
  dsimp only
  generalize prepared.map Prod.snd = slots at h ⊢
  cases h_build : Reaction.build (prepared.map Prod.fst) slots g.instances.length with
  | error e => exact h.drop
  | ok reactions =>
    have h_targets := Reaction.targets_build h_build
    have h_install : (wirer m₀ ((slots.getD []).filterMap (·.target?)) reported).Holds
        (Wiring.install g.instances reactions) := by
      refine Wiring.install_holds (fun _ => permits (fun _ => nofun) ?_)
        (fun r hr _ => permits (fun _ => nofun) ?_) _
      · rintro _ _ h_eq
        cases h_eq
        exact nofun
      · rintro _ _ h_eq r' hr' target ht
        cases h_eq
        exact h_targets r hr target (List.mem_singleton.mp hr' ▸ ht)
    exact (h_install b m h.1 h.2).bind (fun _ _ _ h_done => And.intro h_done.1 h_done.2)
      fun _ _ _ h_done => Holding.drop h_done

/-- **Wiring an interaction onto a group**: what it reports is in hand. -/
theorem apply_safe (collection : String) (i : Interaction) (g : Group) (config : Config)
    (h : Holding m₀ [] reported b m) :
    (Wiring.apply collection i g config).Safe (authoring m₀.host.scene)
      (ends (fun x => Holding m₀ x.variables reported) (Holding m₀ [] reported)) b m := by
  have h_inert {b m : Moment Session} (property : Option String) (text : String)
      (h : Holding m₀ [] reported b m) : (do
        Program.log .info text
        Wiring.complete i g property none : Program Session Wiring).Safe (authoring m₀.host.scene)
        (ends (fun x => Holding m₀ x.variables reported) (Holding m₀ [] reported)) b m :=
    ⟨rfl, complete_safe i g property none h⟩
  -- without a setting or a property that resolves, nothing is prepared
  rw [Wiring.apply_eq_complete]
  cases Setting.parse? i.primaryAction with
  | none => exact h_inert _ _ h
  | some primary =>
    have h_property : (wirer m₀ [] reported).Holds
        (Resolution.property primary.property g.instances) :=
      Resolution.property_holds (fun _ => permits_other ⟨nofun, nofun⟩) _ _
    refine (h_property b m h.1 h.2).bind (fun property b' m' h_found => ?_)
      fun _ _ _ h_done => h_done
    cases property with
    | none => exact h_inert _ _ h_found
    | some property =>
      refine Safe.bind (P := ends (fun prepared : Option (TargetTable × List Slot) =>
        Holding m₀ (((prepared.map Prod.snd).getD []).filterMap (·.target?)) reported)
        (Holding m₀ [] reported)) ?_ (fun prepared b'' m'' h_prepared => ?_) fun _ _ _ hE => hE
      · exact (prepare_safe h_found collection i g config primary property).bind
          (fun _ _ _ h_prepared => h_prepared) fun _ _ _ hE => hE
      · exact complete_safe i g (some property) prepared h_prepared

theorem wire_safe (collection : String) (i : Interaction) (g : Group)
    (h : Holding m₀ [] reported b m) :
    (Authoring.wire collection i g).Safe (authoring m₀.host.scene)
      (ends (fun x => Holding m₀ x.variables reported) (Holding m₀ [] reported)) b m := by
  have h_markers : (wirer m₀ [] reported).Holds (Wiring.createMarkers collection i) :=
    .mapM _ fun _ _ => Discipline.bind _ (.ask (permits_other ⟨nofun, nofun⟩)) fun _ =>
      Discipline.bind _ (.ask (permits_other ⟨nofun, nofun⟩)) fun _ => .pure _
  refine (put_holds i b m h.1 h.2).bind (fun _ b₁ m₁ h_put => ?_) fun _ _ _ h_done => h_done
  refine (h_markers b₁ m₁ h_put.1 h_put.2).bind (fun _ b₂ m₂ h_marked => ?_)
    fun _ _ _ h_done => h_done
  exact apply_safe collection i g m₂.memory.config h_marked

/-- What has been wired so far is accounted for: no variable of the main wiring is removed before a
nested one begins. -/
def Noted (m₀ : Moment Session) (main : Wiring) (nested : List Wiring) (b m : Moment Session) :
    Prop :=
  Holding m₀ (if nested = [] then main.variables else [])
    ((main :: nested).flatMap (·.variables)) b m

theorem wireNested_safe {main : Wiring} {nested : List Wiring} (collection : String)
    (i : Interaction) (g : Group) (action : NestedAction) (h : Noted m₀ main nested b m) :
    (Authoring.wireNested collection i g action).Safe (authoring m₀.host.scene)
      (ends (fun x => Noted m₀ main (nested ++ x.toList)) (Holding m₀ [] [])) b m := by
  have h_skipped : Noted m₀ main (nested ++ []) b m := by rwa [List.append_nil]
  refine Safe.read (f := fun s : Session => _) ?_
  split
  · exact ⟨rfl, h_skipped⟩
  · rename_i target _
    split
    · exact ⟨rfl, h_skipped⟩
    · refine (wire_safe collection (i.nested action) target h.drop).bind
        (fun x b' m' h_wired => ?_) fun _ _ _ hE => ⟨hE.1, hE.2.mono nofun nofun⟩
      refine ⟨h_wired.1, ?_⟩
      rw [if_neg (by simp)]
      refine h_wired.2.mono nofun fun id h_id => ?_
      rw [Option.toList_some, ← List.cons_append, List.flatMap_append, List.mem_append] at h_id
      exact h_id.symm.imp_left fun h_own => by simpa using h_own

/-- **Carrying an interaction out** accounts for everything that is wired. -/
theorem proceed_safe (i : Interaction) (group : Group) (h : Holding m₀ [] [] b m) :
    (Authoring.proceed i group).Safe (authoring m₀.host.scene)
      (ends (fun a => Noted m₀ a.main a.nested) (Holding m₀ [] [])) b m := by
  have h_collection (name : String) :
      (wirer m₀ [] []).Holds (Wiring.ensureCollection name) :=
    Wiring.ensureCollection_holds (permits_other ⟨nofun, nofun⟩) (permits_other ⟨nofun, nofun⟩)
  refine Safe.read (f := fun s : Session => _) ?_
  refine (h_collection _ b m h.1 h.2).bind (fun collection b₁ m₁ h_ensured => ?_)
    fun _ _ _ h_done => h_done
  refine (wire_safe collection i group h_ensured).bind (fun main b₂ m₂ h_main => ?_)
    fun _ _ _ hE => hE
  have h_noted : Noted m₀ main [] b₂ m₂ :=
    ⟨h_main.1, h_main.2.mono (fun _ h_id => h_id) fun id h_id => .inl (by simpa using h_id)⟩
  refine (Safe.mapM (I := fun done : List (Option Wiring) => Noted m₀ main (done.filterMap id))
    [] h_noted fun action _ done b₃ m₃ h_done => ?_).bind
    (fun nested b₃ m₃ h_nested => h_nested) fun _ _ _ hE => hE
  refine (wireNested_safe collection i group action h_done).mono fun r b₄ m₄ h_wired => ?_
  cases r with
  | error e => exact h_wired
  | ok x =>
    show Noted m₀ main ((done ++ [x]).filterMap id) b₄ m₄
    rw [List.filterMap_append]
    cases x <;> exact h_wired

end Wirer

end Sweeping

end Clickwork
