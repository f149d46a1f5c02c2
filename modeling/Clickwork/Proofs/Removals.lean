import Clickwork.Proofs.Scene.Retired
import Clickwork.Proofs.Wiring

/-!
# Removing variables

Variables are removed one after the other, and the removal of some of them may fail. Failures are
arranged by the numbers of the calls, so which variables they strike depends on the order in which
they are removed. `Host.Withholds` says which ones do not go. Any choice of them can be arranged
(`Host.withholds_failOn`).

On a host that tells what there is (`Host.Lists`), each part of retiring and sweeping that concerns
the scene has one equation. Variables are chosen among the managed ones (`Scene.chosen`), and those
whose removal does not fail are gone (`Records.outcome_remove_chosen`):

* `Records.outcome_removeOwned` — those that an interaction owns, with the reactions that set them;
* `Records.outcome_sweep` — those that no reaction sets.
-/

namespace Clickwork

namespace Host

variable {h : Host} {failing ids : List String}

/-- **The host tells what there is**: no failure is arranged for its lists of collections, of
variables and of reactions. -/
structure Lists (h : Host) : Prop where
  collections : h.Spares .collections
  listing : h.Spares .listVariables
  reactions : h.Spares .allReactions

theorem Reliable.lists (hr : h.Reliable) : h.Lists where
  collections := hr _ rfl (by simp)
  listing := hr _ rfl (by simp)
  reactions := hr _ rfl (by simp)

theorem Reliable.removeVariable (hr : h.Reliable) : h.Spares .removeVariable :=
  hr _ rfl (by simp)

/-! ### Which removals fail -/

/-- **The removals that fail are those of the given variables**, if variables are removed in this
order from now on. -/
def Withholds (h : Host) (failing ids : List String) : Prop :=
  ∀ k id, ids[k]? = some id → (h.strikes .removeVariable (k + 1) = true ↔ id ∈ failing)

theorem withholds_of_spares (hs : h.Spares .removeVariable) (ids : List String) :
    h.Withholds [] ids := by
  intro k id _
  rw [strikes_of_spares hs]
  simp

theorem withholds_nil (h : Host) (failing : List String) : h.Withholds failing [] := by
  intro k id h_id
  simp at h_id

theorem Withholds.head {id : String} (hw : h.Withholds failing (id :: ids)) :
    h.strikes .removeVariable 1 = true ↔ id ∈ failing :=
  hw 0 id rfl

theorem Withholds.tail {id : String} (hw : h.Withholds failing (id :: ids)) :
    (h.counting .removeVariable 1).Withholds failing ids := by
  intro k id' h_id
  rw [strikes_counting, Nat.add_comm 1 (k + 1)]
  exact hw (k + 1) id' h_id

/-- The numbers of the given variables among those that are removed, counted from one. -/
def removalNumbers (failing ids : List String) : List Int :=
  ((ids.zipIdx 1).filter fun e => decide (e.1 ∈ failing)).map fun e => (e.2 : Int)

/-- **Any removals may be arranged to fail.** -/
theorem withholds_failOn (h : Host) (failing ids : List String) :
    (h.failOn .removeVariable (some (removalNumbers failing ids))).Withholds failing ids := by
  intro k id h_id
  have h_fault : (h.failOn .removeVariable (some (removalNumbers failing ids))).faults.find?
      .removeVariable = some { numbers := some (removalNumbers failing ids) } :=
    Registry.find?_insert_self _ _ _
  rw [strikes, h_fault, Option.any_some]
  simp only [Fault.strikes, List.contains_iff_mem, removalNumbers, List.mem_map, List.mem_filter,
    decide_eq_true_eq, Nat.zero_add, Prod.exists, List.mk_mem_zipIdx_iff_le_and_getElem?_sub,
    Int.ofNat_inj]
  constructor
  · -- only one variable has the number
    rintro ⟨id', -, ⟨⟨-, h_id'⟩, h_failing⟩, rfl⟩
    rw [Nat.add_sub_cancel, h_id] at h_id'
    exact Option.some.inj h_id' ▸ h_failing
  · intro h_failing
    refine ⟨id, k + 1, ⟨⟨Nat.le_add_left 1 k, ?_⟩, h_failing⟩, rfl⟩
    rw [Nat.add_sub_cancel, h_id]

end Host

namespace Records

variable {s : Session} {h : Host}

/-! ### Removing variables -/

/-- **A variable that is there is removed**, or its removal fails and nothing is changed. -/
theorem outcome_remove (display : String → String) {v : VariableInfo}
    (h_there : h.scene.variableTable.contains v.id = true) :
    (remove display v).outcome s h =
      if h.strikes .removeVariable 1 = true then (.ok false, s, h.counting .removeVariable 1)
      else (.ok true, s,
        { h.counting .removeVariable 1 with scene := h.scene.discard [v.id] }) := by
  obtain ⟨e, h_perform⟩ := h.perform_eq (.removeVariable v.id)
  have h_ask := Program.outcome_tryAsk s h (.removeVariable v.id)
  by_cases h_strikes : h.strikes .removeVariable 1 = true
  · rw [h_perform, Call.method, if_pos h_strikes] at h_ask
    rw [remove, Program.outcome_bind_ok h_ask, if_pos h_strikes]
    exact Program.outcome_bind_ok (Program.outcome_log _ _ _ _ _) _
  · have h_there' : (h.counting .removeVariable 1).scene.variableTable.contains v.id = true :=
      h_there
    rw [h_perform, Call.method, if_neg h_strikes] at h_ask
    simp only [Host.answer, Scene.removeVariable_eq h_there', Host.change] at h_ask
    rw [remove, Program.outcome_bind_ok h_ask, if_neg h_strikes]
    rfl

/-- **Variables that are there are removed**, but for those whose removal fails. -/
theorem outcome_filterBy_remove (display : String → String) {vs : List VariableInfo}
    {failing : List String} (h_nodup : (vs.map (·.id)).Nodup)
    (h_there : ∀ v ∈ vs, h.scene.variableTable.contains v.id = true)
    (hw : h.Withholds failing (vs.map (·.id))) :
    (filterBy (remove display) vs).outcome s h =
      (.ok (vs.filter fun v => decide (v.id ∉ failing)), s,
        { h.counting .removeVariable vs.length with
          scene := h.scene.discard ((vs.map (·.id)).filter fun id => decide (id ∉ failing)) }) := by
  induction vs generalizing h with
  | nil =>
    simp only [List.map_nil, List.filter_nil, Scene.discard_nil, List.length_nil,
      Host.counting_zero]
    rfl
  | cons v vs ih =>
    rw [List.map_cons, List.nodup_cons] at h_nodup
    rw [List.map_cons] at hw
    -- the first removal is counted whether it fails or not: the others are numbered from there on
    have h_remove := outcome_remove (s := s) display (h_there v List.mem_cons_self)
    have h_counted := h.counting_counting .removeVariable 1 vs.length
    rw [Nat.add_comm] at h_counted
    rw [filterBy, List.map_cons, List.length_cons, ← h_counted]
    by_cases h_failing : v.id ∈ failing
    · rw [if_pos (hw.head.mpr h_failing)] at h_remove
      have h_rest := ih (h := h.counting .removeVariable 1) h_nodup.2
        (fun w hw => h_there w (List.mem_cons_of_mem _ hw)) hw.tail
      rw [Program.outcome_bind_ok h_remove, Program.outcome_bind_ok h_rest,
        List.filter_cons_of_neg (by simpa using h_failing),
        List.filter_cons_of_neg (by simpa using h_failing)]
      rfl
    · rw [if_neg (mt hw.head.mp h_failing)] at h_remove
      -- the other variables are still there, since their ids are different
      have h_rest := ih
        (h := { h.counting .removeVariable 1 with scene := h.scene.discard [v.id] }) h_nodup.2
        (fun w hw => by
          have h_ne : w.id ≠ v.id := fun h_eq => h_nodup.1 (h_eq ▸ List.mem_map_of_mem hw)
          have h_there' := h_there w (List.mem_cons_of_mem _ hw)
          rw [Registry.contains] at h_there' ⊢
          rwa [Scene.find?_discard, if_neg (by simpa using h_ne)]) hw.tail
      rw [Program.outcome_bind_ok h_remove, Program.outcome_bind_ok h_rest,
        List.filter_cons_of_pos (by simpa using h_failing),
        List.filter_cons_of_pos (by simpa using h_failing), Scene.discard_discard,
        List.singleton_append]
      rfl

end Records

/-! ### Chosen variables -/

namespace Scene

/-- **The variables of the collection of a given name**, as they are listed. -/
def managed (s : Scene) (name : String) : List VariableInfo :=
  (s.collections.find? name).elim [] s.variablesOf

/-- The ids of the managed variables that are chosen, in the order in which they are listed. -/
def chosen (s : Scene) (name : String) (p : VariableInfo → Bool) : List String :=
  ((s.managed name).filter p).map (·.id)

variable {s : Scene} {name collection : String} {p : VariableInfo → Bool}

theorem managed_of_find? (h : s.collections.find? name = some collection) :
    s.managed name = s.variablesOf collection := by
  rw [managed, h, Option.elim_some]

/-- Without the collection there is nothing to choose from. -/
theorem chosen_of_find?_eq_none (h : s.collections.find? name = none) : s.chosen name p = [] := by
  rw [chosen, managed, h, Option.elim_none, List.filter_nil, List.map_nil]

theorem nodup_chosen (s : Scene) (name : String) (p : VariableInfo → Bool) :
    (s.chosen name p).Nodup := by
  rw [chosen, managed]
  cases s.collections.find? name with
  | none => exact List.nodup_nil
  | some collection =>
    exact (s.nodup_variablesOf collection).sublist (List.filter_sublist.map _)

theorem mem_chosen {id : String} : id ∈ s.chosen name p ↔
    ∃ v, s.variableTable.find? id = some v ∧ s.collections.find? name = some v.collection ∧
      p { id, name := v.name, collection := v.collection } = true := by
  rw [chosen, managed]
  cases s.collections.find? name with
  | none => simp
  | some collection =>
    rw [Option.elim_some, mem_chosen_of]
    simp only [Option.some.injEq, eq_comm (a := collection)]

/-- An interaction is retired by discarding and detaching what it owns. -/
theorem retired_eq (s : Scene) (name interaction : String) :
    s.retired name interaction =
      (s.discard (s.chosen name fun v => Records.ownedBy interaction v.name)).detach
        (s.chosen name fun v => Records.ownedBy interaction v.name) := by
  rw [retired, chosen, managed]
  cases s.collections.find? name with
  | none => rw [Option.elim_none, List.filter_nil, List.map_nil, discard_nil, detach_nil]
  | some collection => rfl

end Scene

/-- **The host after variables are removed**, but for those whose removal fails. -/
def Host.removing (h : Host) (failing ids : List String) : Host :=
  { h.counting .removeVariable ids.length with
    scene := h.scene.discard (ids.filter fun id => decide (id ∉ failing)) }

@[simp] theorem Host.removing_nil (h : Host) (failing : List String) :
    h.removing failing [] = h := by
  rw [removing, List.filter_nil, List.length_nil, counting_zero, Scene.discard_nil]

theorem Host.spares_removing (h : Host) (failing ids : List String) (method : Method) :
    (h.removing failing ids).Spares method ↔ h.Spares method :=
  h.spares_counting .removeVariable ids.length method

theorem Host.Lists.removing {h : Host} (hl : h.Lists) (failing ids : List String) :
    (h.removing failing ids).Lists where
  collections := (h.spares_removing _ _ _).mpr hl.collections
  listing := (h.spares_removing _ _ _).mpr hl.listing
  reactions := (h.spares_removing _ _ _).mpr hl.reactions

/-- If no removal fails, all variables go. -/
theorem Host.removing_of_spares {h : Host} (hs : h.Spares .removeVariable) (ids : List String) :
    h.removing [] ids = { h with scene := h.scene.discard ids } := by
  rw [removing, counting_of_spares hs, List.filter_eq_self.mpr fun _ _ => by simp]

/-! ### The memory of a session -/

theorem Session.outcome_readConfig (s : Session) (h : Host) :
    Session.readConfig.outcome s h = (.ok s.config, s, h) := rfl

theorem Session.outcome_readContext (s : Session) (h : Host) :
    Session.readContext.outcome s h = (.ok s.context, s, h) := rfl

namespace Records

variable {s : Session} {h : Host} {failing : List String}

/-! ### Removing chosen variables -/

theorem outcome_collection? (hs : h.Spares .collections) :
    collection?.outcome s h = (.ok (h.scene.collections.find? s.config.collection), s, h) := by
  rw [collection?, Program.outcome_bind_ok (Session.outcome_readConfig s h),
    Program.outcome_bind_ok (Program.outcome_ask_of_spares (c := .collections) hs)]
  rfl

/-- **Chosen managed variables are removed**, but for those whose removal fails. -/
theorem outcome_remove_chosen (display : String → String) {name collection : String}
    {p : VariableInfo → Bool} {ids : List String}
    (h_collection : h.scene.collections.find? name = some collection)
    (h_ids : ids = h.scene.chosen name p) (hw : h.Withholds failing ids) :
    ∃ gone : List VariableInfo, gone.map (·.id) = ids.filter (fun id => decide (id ∉ failing)) ∧
      (filterBy (remove display) ((h.scene.variablesOf collection).filter p)).outcome s h =
        (.ok gone, s, h.removing failing ids) := by
  rw [← Scene.managed_of_find? h_collection]
  -- what is listed is there and listed once, so no removal is refused for want of the variable
  have h_nodup : ids.Nodup := h_ids ▸ h.scene.nodup_chosen name p
  have h_there : ∀ v ∈ (h.scene.managed name).filter p,
      h.scene.variableTable.contains v.id = true := fun v hv => by
    obtain ⟨w, hw, -⟩ := Scene.mem_chosen.mp (List.mem_map_of_mem hv)
    exact Registry.contains_iff.mpr ⟨w, hw⟩
  rw [Scene.chosen] at h_ids
  subst h_ids
  refine ⟨_, List.filter_map.symm, (outcome_filterBy_remove display h_nodup h_there hw).trans ?_⟩
  rw [Host.removing, List.length_map]
  rfl

/-! ### Clearing reactions -/

/-- A node that sets one of the variables is cleared. -/
theorem outcome_detachNode (hs : h.Spares .setReactions) (removed : List String) (node : String)
    (reactions : List Reaction) : (detachNode removed (node, reactions)).outcome s h =
      (.ok (), s, { h with
        scene := if Scene.setsAny removed reactions then h.scene.place node [] else h.scene }) := by
  simp only [detachNode]
  by_cases h_sets : Scene.setsAny removed reactions = true
  · obtain ⟨result, h_ask⟩ := Wiring.tryAsk_setReactions (s := s) hs node []
    rw [if_pos h_sets]
    rw [Scene.setsAny] at h_sets
    rw [if_pos h_sets, Program.outcome_bind_ok h_ask]
    cases result with
    | error e => exact Program.outcome_log _ _ _ _ _
    | ok u => rfl
  · rw [if_neg h_sets]
    rw [Scene.setsAny] at h_sets
    rw [if_neg h_sets]
    rfl

theorem outcome_forM_detachNode (hs : h.Spares .setReactions) (removed : List String)
    (entries : List (String × List Reaction)) :
    (entries.forM (detachNode removed)).outcome s h = (.ok (), s, { h with
      scene := h.scene.placeAll ((entries.filter fun e => Scene.setsAny removed e.2).map
        fun e => (e.1, [])) }) := by
  induction entries generalizing h with
  | nil => rfl
  | cons e entries ih =>
    obtain ⟨node, reactions⟩ := e
    change (detachNode removed (node, reactions) >>= fun _ =>
      entries.forM (detachNode removed)).outcome s h = _
    rw [Program.outcome_bind_ok (outcome_detachNode hs removed node reactions)]
    by_cases h_sets : Scene.setsAny removed reactions = true
    · have hs' : ({ h with scene := h.scene.place node [] } : Host).Spares .setReactions := hs
      simp only [if_pos h_sets]
      rw [ih hs', List.filter_cons_of_pos (by simpa using h_sets)]
      rfl
    · simp only [if_neg h_sets]
      rw [ih hs, List.filter_cons_of_neg (by simpa using h_sets)]

/-- **The reactions that set one of the variables are cleared.** -/
theorem outcome_detach (hl : h.Lists) (hs : h.Spares .setReactions) (removed : List String) :
    (detach removed).outcome s h = (.ok (), s, { h with scene := h.scene.detach removed }) := by
  have h_ask := Program.outcome_ask_of_spares (s := s) (c := .allReactions) hl.reactions
  rw [detach, Program.outcome_bind_ok h_ask, ← Scene.placeAll_clearings]
  exact outcome_forM_detachNode hs removed _

/-! ### Retiring and sweeping -/

/-- **Removes what an interaction has in the scene**: its variables, and the reactions that set
them. -/
def removeOwned (interaction : String) : Program Session Nat := do
  match ← collection? with
  | none => return 0
  | some collection =>
    let managed ← Program.ask (.listVariables collection)
    let removed ← filterBy (remove id) (managed.filter fun v => ownedBy interaction v.name)
    unless removed.isEmpty do
      detach (removed.map (·.id))
    return removed.length

theorem retire_eq (interaction : String) : retire interaction = (do
    dropNested interaction
    removeOwned interaction) := rfl

/-- **What an interaction owns is removed**, but for the variables whose removal fails. The
reactions that set one of the others are cleared. -/
theorem outcome_removeOwned (hl : h.Lists) (hs : h.Spares .setReactions) (interaction : String)
    {ids gone : List String}
    (h_ids : ids = h.scene.chosen s.config.collection fun v => ownedBy interaction v.name)
    (h_gone : gone = ids.filter fun id => decide (id ∉ failing)) (hw : h.Withholds failing ids) :
    (removeOwned interaction).outcome s h = (.ok gone.length, s,
      { h.removing failing ids with scene := (h.scene.discard gone).detach gone }) := by
  rw [removeOwned, Program.outcome_bind_ok (outcome_collection? hl.collections)]
  cases h_collection : h.scene.collections.find? s.config.collection with
  | none =>
    obtain rfl : ids = [] := h_ids.trans (Scene.chosen_of_find?_eq_none h_collection)
    obtain rfl : gone = [] := h_gone
    rw [Host.removing_nil, Scene.discard_nil, Scene.detach_nil]
    rfl
  | some collection =>
    have h_ask := Program.outcome_ask_of_spares (s := s) (c := .listVariables collection) hl.listing
    obtain ⟨removed, h_removed, h_remove⟩ := outcome_remove_chosen (s := s) id h_collection h_ids hw
    obtain rfl : gone = removed.map (·.id) := h_gone.trans h_removed.symm
    refine (Program.outcome_bind_ok h_ask _).trans ((Program.outcome_bind_ok h_remove _).trans ?_)
    rw [List.length_map]
    by_cases h_empty : removed.isEmpty = true
    · -- nothing is gone, so no reaction has to be cleared
      have h_detach : ((h.scene.discard (removed.map (·.id))).detach (removed.map (·.id))) =
          (h.removing failing ids).scene := by
        rw [Host.removing, ← h_gone, List.isEmpty_iff.mp h_empty]
        exact Scene.detach_nil _
      rw [if_pos h_empty, h_detach]
      rfl
    · have h_detach := outcome_detach (s := s) (hl.removing failing ids)
        ((h.spares_removing failing ids _).mpr hs) (removed.map (·.id))
      rw [if_neg h_empty]
      refine (Program.outcome_bind_ok h_detach _).trans ?_
      rw [Host.removing, ← h_gone]
      rfl

/-- What is set by a reaction is in use. -/
theorem mem_inUse {t : Scene} {target : String} :
    target ∈ inUse t.allReactions ↔ ∃ node, t.Sets node target := by
  simp only [inUse, List.mem_flatMap, Registry.mem_values_iff, Scene.allReactions,
    Registry.find?_mapValues, Registry.find?_filter, Option.map_eq_some_iff,
    Option.filter_eq_some_iff, Scene.Sets]
  constructor
  · rintro ⟨rs, ⟨node, n, ⟨hn, -⟩, rfl⟩, r, hr, ht⟩
    exact ⟨node, r, by rwa [Scene.reactions_of_find? hn], ht⟩
  · rintro ⟨node, r, hr, ht⟩
    cases hn : t.nodes.find? node with
    | none =>
      rw [Scene.reactions_of_find?_eq_none hn] at hr
      cases hr
    | some n =>
      rw [Scene.reactions_of_find? hn] at hr
      refine ⟨n.reactions, ⟨node, n, ⟨hn, ?_⟩, rfl⟩, r, hr, ht⟩
      rw [Bool.not_eq_true', List.isEmpty_eq_false_iff]
      exact List.ne_nil_of_mem hr

/-- **What no reaction sets is removed**, but for the variables whose removal fails. -/
theorem outcome_sweep (hl : h.Lists) {ids : List String}
    (h_ids : ids = h.scene.chosen s.config.collection
      fun v => !(inUse h.scene.allReactions).contains v.id)
    (hw : h.Withholds failing ids) :
    sweep.outcome s h = (.ok (ids.filter fun id => decide (id ∉ failing)).length, s,
      h.removing failing ids) := by
  rw [sweep, Program.outcome_bind_ok (outcome_collection? hl.collections)]
  cases h_collection : h.scene.collections.find? s.config.collection with
  | none =>
    obtain rfl : ids = [] := h_ids.trans (Scene.chosen_of_find?_eq_none h_collection)
    rw [Host.removing_nil]
    rfl
  | some collection =>
    have h_list := Program.outcome_ask_of_spares (s := s) (c := .listVariables collection) hl.listing
    have h_all := Program.outcome_ask_of_spares (s := s) (c := .allReactions) hl.reactions
    obtain ⟨removed, h_removed, h_remove⟩ :=
      outcome_remove_chosen (s := s) Text.quoted h_collection h_ids hw
    refine (Program.outcome_bind_ok h_list _).trans ?_
    change Program.outcome (if (h.scene.variablesOf collection).isEmpty = true then _ else _) s h = _
    rw [← h_removed, List.length_map]
    by_cases h_empty : (h.scene.variablesOf collection).isEmpty = true
    · -- without managed variables nothing is looked for
      obtain rfl : ids = [] := by
        rw [h_ids, Scene.chosen, Scene.managed_of_find? h_collection, List.isEmpty_iff.mp h_empty]
        rfl
      obtain rfl : removed = [] := List.map_eq_nil_iff.mp h_removed
      rw [if_pos h_empty, Host.removing_nil]
      rfl
    · rw [if_neg h_empty]
      refine (Program.outcome_bind_ok h_all _).trans ((Program.outcome_bind_ok h_remove _).trans ?_)
      exact Program.outcome_bind_ok (Program.outcome_log _ _ _ _ _) _

end Records

end Clickwork
