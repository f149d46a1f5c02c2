import Clickwork.Proofs.Building
import Clickwork.Proofs.Guarded

/-!
# Clean-ups beside one interaction

The turns of the tasks are taken one after the other. What holds between two of them
(`Sweeping.Between`) is that each held task keeps to its terms: the one that authors to
`Sweeping.authoring`, and every other one to `Sweeping.sweeping`. A turn of a clean-up leaves alone
what authoring has in hand, and a turn of authoring leaves idle what a clean-up is about to remove.

So nothing is left dangling when both have finished (`World.swept_safely`), unless a clean-up looks
at the reactions while some of them are still to be installed (`World.swept_while_authored`).
-/

namespace Clickwork

open Program

namespace Sweeping

variable {m₀ b m m' : Moment Session}

/-! ### What authoring comes to -/

/-- **The state variables that were reported are there.** Those of an interaction with nested ones
may have been removed when a nested one took a group over. -/
def Reports (m₀ : Moment Session) (a : Authoring) (m : Moment Session) : Prop :=
  ∀ x ∈ a.wirings, ∀ id ∈ x.variables, m₀.host.scene.NewState m.host.scene id ∨
    (a.nested ≠ [] ∧ .removeVariable id ∈ m₀.since m)

theorem Noted.reports {a : Authoring} (h : Wirer.Noted m₀ a.main a.nested b m) :
    Reports m₀ a m := by
  intro x hx id h_id
  by_cases h_nested : a.nested = []
  · obtain rfl : x = a.main := by
      rw [Authoring.wirings, h_nested] at hx
      exact List.mem_singleton.mp hx
    exact .inl (h.2.held id (by rwa [if_pos h_nested]))
  · exact (h.2.reported id (List.mem_flatMap.mpr ⟨x, hx, h_id⟩)).imp_right fun h_called =>
      ⟨h_nested, h_called⟩

/-- **Where authoring has ended**: nothing is missing, and if there is a new result, the variables
that it reports are there. -/
structure Authored (m₀ m : Moment Session) : Prop where
  continues : Continues m₀ m
  attached : m.host.scene.Attached
  reports : m.memory.lastAuthoring = m₀.memory.lastAuthoring ∨
    ∃ a, m.memory.lastAuthoring = some a ∧ Reports m₀ a m

namespace Authored

theorem of_building {held reported : List String} (h : Building m₀ tight held reported m) :
    Authored m₀ m :=
  ⟨h.continues, h.attached, .inl h.last⟩

/-- **A clean-up leaves it so.** -/
theorem sweeps (h : Authored m₀ m) (h_sweeps : Sweeps m₀.host.scene m m') : Authored m₀ m' where
  continues := h.continues.trans h_sweeps.toContinues
  attached := h_sweeps.attached h.attached
  reports := by
    rw [h_sweeps.last]
    refine h.reports.imp_right fun ⟨a, h_last, h_reports⟩ => ⟨a, h_last, fun x hx id h_id => ?_⟩
    rw [Moment.since_append h.continues.precedes h_sweeps.precedes]
    exact (h_reports x hx id h_id).imp h_sweeps.newState
      fun h_called => ⟨h_called.1, List.mem_append_left _ h_called.2⟩

theorem withMemory (h : Authored m₀ m) {s : Session} (h_core : s.core = m.memory.core) :
    Authored m₀ (m.withMemory s) where
  continues := h.continues.trans
    (.withMemory (congrArg Session.config h_core :) (congrArg Session.handlers h_core :))
  attached := h.attached
  reports := by
    show s.lastAuthoring = _ ∨ ∃ a, s.lastAuthoring = some a ∧ _
    rw [show s.lastAuthoring = m.memory.lastAuthoring from
      (congrArg Session.lastAuthoring h_core :)]
    exact h.reports

end Authored

/-- The discipline of what is left to do when authoring has ended. -/
def teller (m₀ : Moment Session) : Discipline Session :=
  (authoring m₀.host.scene).keeping (Authored m₀)

theorem tells_teller : (teller m₀).Tells where
  reads := Terms.sees _ fun _ _ => trivial
  changes _ := Terms.modifies fun _ hI => ⟨.withMemory rfl rfl, hI.withMemory rfl⟩
  delivers := Terms.delivers

/-! ### Entry points -/

theorem carryOut_safe (i : Interaction) (h : Holding m₀ [] [] b m) :
    (Authoring.carryOut i).Safe (authoring m₀.host.scene)
      (ends (fun a => Wirer.Noted m₀ a.main a.nested) (Holding m₀ [] [])) b m := by
  rw [Authoring.carryOut_eq, Authoring.admission_eq]
  refine Safe.read (f := fun s : Session => _) ?_
  change Safe _ _ (Program.lift (m.memory.admitted i) >>= _) b m
  cases m.memory.admitted i with
  | error e => exact h
  | ok group => exact Wirer.proceed_safe i group h

/-- **An entry point that authors.** -/
theorem entry_authors {entry : Entry}
    (h_author : entry.handler? m.memory.config m.memory.handlers = some .author)
    (hm : Building m₀ tight [] [] m) :
    entry.program.Safe (authoring m₀.host.scene)
      ((authoring m₀.host.scene).closing fun _ => Authored m₀) m m := by
  cases entry with
  | notice => cases h_author
  | message inbound =>
    cases h_decodes : inbound.toEnvelope m.memory.config.limits with
    | error e =>
      simp only [Entry.handler?, h_decodes] at h_author
      cases h_author
    | ok e =>
      simp only [Entry.handler?, h_decodes] at h_author
      refine Session.dispatch_author_safe tells_teller h_decodes h_author
        (fun _ => ⟨.refl _ m, .of_building hm⟩)
        (fun i _ _ => carryOut_safe i ⟨.withMemory rfl rfl, hm.withMemory rfl rfl rfl⟩)
        fun r b m' h_carried => ?_
      cases r with
      | error e =>
        exact ⟨h_carried.1.trans (.withMemory rfl rfl),
          .of_building (h_carried.2.withMemory rfl rfl rfl)⟩
      | ok a =>
        -- the new result is noted, and what it reports is there
        exact ⟨h_carried.1.trans (.withMemory rfl rfl),
          h_carried.2.continues.trans (.withMemory rfl rfl), h_carried.2.attached,
          .inr ⟨a, rfl, show Reports m₀ a m' from Noted.reports h_carried⟩⟩

/-- **An entry point that cleans up.** -/
theorem entry_sweeps {entry : Entry} (h₀ : Ready m₀)
    (h_sweep : entry.handler? m₀.memory.config m₀.memory.handlers = some .sweep)
    (h_later : Continues m₀ m) :
    entry.program.Safe (sweeping m₀.host.scene)
      ((sweeping m₀.host.scene).closing fun _ _ => True) m m := by
  have h_holds : (sweeper m₀ []).Holds entry.program := by
    refine Entry.holds Sweeper.converses (fun h_notice => ?_) fun e handler h_handler => ?_
    · rw [h_notice] at h_sweep
      cases h_sweep
    · obtain rfl := Option.some.inj (h_handler.symm.trans h_sweep)
      exact Session.cleanUp_holds Sweeper.converses (Sweeper.sweep_holds h₀)
  exact (Terms.keeping_safe h_holds ⟨h_later, nofun⟩).mono fun _ _ _ h_done => ⟨h_done.1, trivial⟩

/-! ### Worlds -/

/-- The terms of a task, given which one it is that authors. -/
def terms (s₀ : Scene) (run task : String) : Terms Session :=
  if task = run then authoring s₀ else sweeping s₀

/-- What is required of a task when it has ended. -/
def Done (m₀ : Moment Session) (run task : String) (m : Moment Session) : Prop :=
  task = run → Authored m₀ m

end Sweeping

/-- **A turn of a clean-up**, or of whatever goes on. -/
def Turn.Cleans (run : String) (config : Config) (handlers : Registry String Handler) :
    Turn → Prop
  | .start task entry _ => task ≠ run ∧ entry.handler? config handlers = some .sweep
  | .resume .. => True
  | .host _ => False

instance (run : String) (config : Config) (handlers : Registry String Handler) :
    (t : Turn) → Decidable (t.Cleans run config handlers)
  | .start task entry _ => inferInstanceAs
      (Decidable (task ≠ run ∧ entry.handler? config handlers = some .sweep))
  | .resume .. => inferInstanceAs (Decidable True)
  | .host _ => inferInstanceAs (Decidable False)

namespace Scene

instance (s₀ s : Scene) (id : String) : Decidable (s₀.NewState s id) :=
  inferInstanceAs (Decidable (_ ∧ _))

/-- **Every state variable that was created since** the scene `s₀` is set by a reaction. -/
def AllSet (s₀ s : Scene) : Prop :=
  ∀ id ∈ s.variableTable.keys, s₀.NewState s id → id ∈ Records.inUse s.allReactions

instance (s₀ s : Scene) : Decidable (s₀.AllSet s) :=
  inferInstanceAs (Decidable (∀ id ∈ _, _))

theorem AllSet.sets {s₀ s : Scene} (h : s₀.AllSet s) {id : String} (h_new : s₀.NewState s id) :
    ∃ node, s.Sets node id := by
  refine Records.mem_inUse.mp (h id ?_ h_new)
  by_contra h_absent
  rw [← Registry.find?_eq_none_iff] at h_absent
  rw [NewState, type?, h_absent] at h_new
  cases h_new.1

end Scene

namespace World

/-- **A clean-up looks at all reactions** only when they set every state variable that was created
since the scene `s₀`. -/
def LooksAtAll (s₀ : Scene) (run : String) (w : World Unit) (t : Turn) : Prop :=
  t.task? ≠ some run → (∃ c ∈ w.calls t, c.method = .allReactions) → s₀.AllSet w.host.scene

instance (s₀ : Scene) (run : String) (w : World Unit) (t : Turn) :
    Decidable (w.LooksAtAll s₀ run t) :=
  inferInstanceAs (Decidable (_ → _ → _))

/-- **A turn of another task keeps the state variables** that were created since the scene `s₀`. -/
def SparesStates (s₀ : Scene) (run : String) (w : World Unit) (t : Turn) : Prop :=
  t.task? ≠ some run → ∀ id, s₀.NewState w.host.scene id → s₀.NewState (w.turn t).host.scene id

end World

namespace Sweeping

open World

/-- What holds between two turns. -/
structure Between (m₀ : Moment Session) (run : String) (w : World Unit) : Prop where
  ready : Ready m₀
  continues : Continues m₀ w.moment
  observes : w.Observes (terms m₀.host.scene run) (Done m₀ run)

variable {run : String} {w : World Unit} {t : Turn}

theorem terms_run (s₀ : Scene) : terms s₀ run run = authoring s₀ := if_pos rfl

theorem terms_of_ne (s₀ : Scene) {task : String} (h_ne : task ≠ run) :
    terms s₀ run task = sweeping s₀ :=
  if_neg h_ne

/-- **A turn of a clean-up.** -/
theorem Between.clean (h : Between m₀ run w) (h_other : t.task? ≠ some run)
    (h_cleans : t.Cleans run m₀.memory.config m₀.memory.handlers)
    (h_looks : w.LooksAtAll m₀.host.scene run t) :
    Between m₀ run (w.turn t) ∧ Sweeps m₀.host.scene w.moment (w.turn t).moment := by
  obtain ⟨task, h_task, h_ne⟩ : ∃ task, t.task? = some task ∧ task ≠ run := by
    cases t with
    | host => exact h_cleans.elim
    | start task | resume task => exact ⟨task, rfl, fun h_same => h_other (h_same ▸ rfl)⟩
  have h_turn := h.observes.turn h_task (fun entry stop h_eq => ?_) (fun c hc m h_step => ?_)
    fun h_step task' r c _ _ _ => ?_
  · obtain ⟨h_next, h_step, -⟩ := h_turn
    rw [terms_of_ne _ h_ne] at h_step
    exact ⟨⟨h.ready, h.continues.trans h_step.toContinues, h_next⟩, h_step⟩
  · subst h_eq
    rw [terms_of_ne _ h_ne]
    exact (entry_sweeps h.ready h_cleans.2 h.continues).mono fun _ _ _ h_done =>
      ⟨h_done.1, fun h_run => absurd h_run h_ne⟩
  · rw [terms_of_ne _ h_ne] at h_step ⊢
    -- the task itself has changed nothing yet that it looks at
    intro h_all id h_new
    obtain ⟨node, h_sets⟩ := (h_looks h_other ⟨c, hc, h_all⟩).sets (h_step.newState_of h_new)
    exact ⟨node, (h_step.sets node id).mpr h_sets⟩
  · rw [terms_of_ne _ h_ne] at h_step
    by_cases h_run : task' = run
    · subst h_run
      rw [terms_run]
      exact h_step
    · rw [terms_of_ne _ h_run]
      exact h_step.authors

theorem Between.sparesStates (h : Between m₀ run w)
    (h_cleans : t.Cleans run m₀.memory.config m₀.memory.handlers)
    (h_looks : w.LooksAtAll m₀.host.scene run t) : w.SparesStates m₀.host.scene run t :=
  fun h_other _ h_new => (h.clean h_other h_cleans h_looks).2.newState h_new

/-- **A turn of the task that authors.** -/
theorem Between.author (h : Between m₀ run w) (h_task : t.task? = some run)
    (h_start : ∀ entry stop, t = .start run entry stop → w.tasks.find? run = none ∧
      entry.handler? m₀.memory.config m₀.memory.handlers = some .author ∧
        Building m₀ tight [] [] w.moment) :
    Between m₀ run (w.turn t) ∧
      (w.turn t = w ∨ ((w.turn t).tasks.find? run = none → Authored m₀ (w.turn t).moment)) := by
  have h_turn := h.observes.turn h_task (fun entry stop h_eq => ?_) (fun c _ m _ => ?_)
    fun h_step task' r c h_found h_other _ => ?_
  · obtain ⟨h_next, h_step, h_end⟩ := h_turn
    rw [terms_run] at h_step
    exact ⟨⟨h.ready, h.continues.trans h_step.toContinues, h_next⟩,
      h_end.imp_right fun h_done h_none => h_done h_none rfl⟩
  · subst h_eq
    obtain ⟨-, h_author, h_building⟩ := h_start entry stop rfl
    rw [terms_run]
    rw [← h.continues.config, ← h.continues.handlers] at h_author
    exact (entry_authors h_author h_building).mono fun _ _ _ h_done =>
      ⟨h_done.1, fun _ => h_done.2⟩
  · rw [terms_run]
    trivial
  · rw [terms_run] at h_step
    have h_ne : task' ≠ run := World.ne_of_not_resumed h_task
      (fun entry stop h_eq => (h_start entry stop h_eq).1) h_found h_other
    rw [terms_of_ne _ h_ne]
    exact h_step

/-- **Before the interaction is asked for.** -/
structure Waiting (m₀ : Moment Session) (run : String) (w : World Unit) : Prop
    extends Between m₀ run w where
  absent : w.tasks.find? run = none
  building : Building m₀ tight [] [] w.moment

/-- **From then on.** -/
structure Asked (m₀ : Moment Session) (run : String) (w : World Unit) : Prop
    extends Between m₀ run w where
  authored : w.tasks.find? run = none → Authored m₀ w.moment

theorem Waiting.turn (h : Waiting m₀ run w)
    (h_cleans : t.Cleans run m₀.memory.config m₀.memory.handlers)
    (h_looks : w.LooksAtAll m₀.host.scene run t) : Waiting m₀ run (w.turn t) := by
  by_cases h_run : t.task? = some run
  · -- the task is not there yet
    match t, h_run with
    | .start _ entry stop, h_run => exact absurd (Option.some.inj h_run) h_cleans.1
    | .resume task stop, h_run =>
      have h_absent : w.tasks.find? task = none := Option.some.inj h_run ▸ h.absent
      have h_same : w.turn (.resume task stop) = w := by
        simp only [World.turn, World.resumeTask_absent h_absent]
      rwa [h_same]
  · obtain ⟨h_next, h_sweeps⟩ := h.toBetween.clean h_run h_cleans h_looks
    exact ⟨h_next, (w.find?_turn_of_ne h_run).trans h.absent, h.building.sweeps h_sweeps⟩

/-- The task is started that authors. -/
theorem Waiting.ask (h : Waiting m₀ run w) {entry : Entry} (stop : Stop)
    (h_author : entry.handler? m₀.memory.config m₀.memory.handlers = some .author) :
    Asked m₀ run (w.turn (.start run entry stop)) := by
  obtain ⟨h_next, h_end⟩ := h.toBetween.author (t := .start run entry stop) rfl
    fun _ _ h_eq => by
      cases h_eq
      exact ⟨h.absent, h_author, h.building⟩
  refine ⟨h_next, fun h_none => ?_⟩
  rcases h_end with h_same | h_done
  · rw [h_same]
    exact .of_building h.building
  · exact h_done h_none

theorem Asked.turn (h : Asked m₀ run w)
    (h_cleans : t.Cleans run m₀.memory.config m₀.memory.handlers)
    (h_looks : w.LooksAtAll m₀.host.scene run t) : Asked m₀ run (w.turn t) := by
  by_cases h_run : t.task? = some run
  · obtain ⟨h_next, h_end⟩ := h.toBetween.author h_run fun entry stop h_eq => by
      subst h_eq
      exact absurd rfl h_cleans.1
    refine ⟨h_next, fun h_none => ?_⟩
    rcases h_end with h_same | h_done
    · rw [h_same] at h_none ⊢
      exact h.authored h_none
    · exact h_done h_none
  · obtain ⟨h_next, h_sweeps⟩ := h.toBetween.clean h_run h_cleans h_looks
    refine ⟨h_next, fun h_none => (h.authored ?_).sweeps h_sweeps⟩
    rwa [w.find?_turn_of_ne h_run] at h_none

end Sweeping

/-- **Cleaning up is safe while an interaction is authored**, but for one thing. Let a session begin
at a moment at which every variable that some reaction sets is there, on a host whose nodes accept
reactions. Let one interaction be asked for and any number of clean-ups, which may be held at any
calls and resumed in any order. If a clean-up looks at all reactions only when they set every state
variable that was created so far, then

* no clean-up removes a state variable that was created since;
* when the interaction has been authored, every variable that some reaction sets is there, and so
  are the state variables that are reported, unless one of the nested interactions removed them. -/
theorem World.swept_safely (w : World Unit) (run : String) (entry : Entry) (stop : Stop)
    (before after : List Turn) (h_tasks : w.tasks = ∅) (h_ready : Sweeping.Ready w.moment)
    (h_attached : w.host.scene.Attached)
    (h_author : entry.handler? w.current.config w.current.handlers = some .author)
    (h_cleans : ∀ t ∈ before ++ after, t.Cleans run w.current.config w.current.handlers)
    (h_looks : w.Every (LooksAtAll w.host.scene run) (before ++ .start run entry stop :: after)) :
    let ts := before ++ .start run entry stop :: after
    let w' := w.turns ts
    w.Every (SparesStates w.host.scene run) ts ∧
    (w'.tasks.find? run = none → w'.host.scene.Attached ∧
      (w'.current.lastAuthoring = w.current.lastAuthoring ∨
        ∃ a, w'.current.lastAuthoring = some a ∧ Sweeping.Reports w.moment a w'.moment)) := by
  intro ts w'
  rw [Every.append_iff] at h_looks
  obtain ⟨h_looks, -, h_looks'⟩ := h_looks
  -- each part of the turns keeps what holds before the interaction is asked for, or after
  have h_before := h_looks.and
    (.of_forall fun t ht => h_cleans t (List.mem_append_left after ht))
  have h_after := h_looks'.and
    (.of_forall fun t ht => h_cleans t (List.mem_append_right before ht))
  have h_start : Sweeping.Waiting w.moment run w :=
    { ready := h_ready
      continues := .refl _
      observes := .of_empty h_tasks
      absent := by rw [h_tasks]; rfl
      building := .start h_ready h_attached }
  have h_waiting := h_before.turns (I := Sweeping.Waiting w.moment run)
    (fun _ _ h_turn h => h.turn h_turn.2 h_turn.1) h_start
  have h_asked := h_waiting.ask stop h_author
  have h_end := h_after.turns (I := Sweeping.Asked w.moment run)
    (fun _ _ h_turn h => h.turn h_turn.2 h_turn.1) h_asked
  have h_turns : w' = ((w.turns before).turn (.start run entry stop)).turns after :=
    List.foldl_append ..
  refine ⟨Every.append_iff.mpr ⟨?_, fun h_run => absurd rfl h_run, ?_⟩, fun h_none => ?_⟩
  · exact h_before.along (I := Sweeping.Waiting w.moment run)
      (fun _ _ h_turn h => ⟨h.turn h_turn.2 h_turn.1,
        h.toBetween.sparesStates h_turn.2 h_turn.1⟩) h_start
  · exact h_after.along (I := Sweeping.Asked w.moment run)
      (fun _ _ h_turn h => ⟨h.turn h_turn.2 h_turn.1,
        h.toBetween.sparesStates h_turn.2 h_turn.1⟩) h_asked
  · rw [h_turns] at h_none ⊢
    have h_authored := h_end.authored h_none
    exact ⟨h_authored.attached, h_authored.reports⟩

/-- A clean-up lists the marker of the interaction while its first state variable is about to be
created, and removes it when the interaction has been authored. Another one comes after that. -/
theorem World.swept_safely_on_panel :
    let clean : Entry := .message (.envelope { type := "cleanup" })
    let edit : Entry := .message (.authoring (.switchingOn "tabs" 1 ["badges"]))
    let before : List Turn := [.start "first" clean .everywhere]
    let after : List Turn := [.resume "first" (.before .removeVariable 1), .resume "edit" .never,
      .resume "first" .never, .start "second" clean .never]
    let w := panel.after [.notice]
    let w' := w.turns (before ++ .start "edit" edit (.before .createVariable 2) :: after)
    w'.host.scene.Attached ∧
      ∃ a, w'.current.lastAuthoring = some a ∧ Sweeping.Reports w.moment a w'.moment := by
  intro clean edit before after w w'
  have h_sound : w.Sound := sound_panel.advance (m := .notice) trivial
  have h_unset : Records.inUse w.host.scene.allReactions = [] := by decide +kernel
  have h_attached : w.host.scene.Attached := fun node target h_sets => by
    have h_mem := Records.mem_inUse.mpr ⟨node, h_sets⟩
    rw [h_unset] at h_mem
    cases h_mem
  have h_ready : Sweeping.Ready w.moment :=
    ⟨h_sound.built, by decide +kernel, h_sound.reliable _ (by decide) (by decide),
      h_sound.reliable _ (by decide) (by decide)⟩
  have h_ended : w'.tasks.find? "edit" = none := by decide +kernel
  have h_new : w'.current.lastAuthoring.isSome ≠ w.current.lastAuthoring.isSome := by
    decide +kernel
  obtain ⟨-, h_end⟩ := swept_safely w "edit" edit (.before .createVariable 2) before after
    (by rfl) h_ready h_attached (by decide +kernel) (by decide +kernel) (by decide +kernel)
  have h_turns : w' = w.turns (before ++ .start "edit" edit (.before .createVariable 2) :: after) :=
    rfl
  rw [← h_turns] at h_end
  obtain ⟨h_attached', h_same | h_reports⟩ := h_end h_ended
  · exact absurd (congrArg Option.isSome h_same) h_new
  · exact ⟨h_attached', h_reports⟩

/-- **Reactions are left dangling.** An interaction is authored up to the first of its reactions
when a clean-up looks at all of them. It removes the state variables, which are set from then on. -/
theorem World.swept_while_authored :
    let w := (panel.after [.notice]).turns
      [.start "edit" (.message (.authoring (.switchingOn "tabs" 1 []))) (.before .setReactions 1),
        .start "clean" (.message (.envelope { type := "cleanup" })) .never,
        .resume "edit" .never]
    w.tasks.keys = [] ∧ ¬w.host.scene.Attached := by
  intro w
  refine ⟨by decide +kernel, fun h_attached => ?_⟩
  have h_used : "VariableID:3" ∈ Records.inUse w.host.scene.allReactions := by decide +kernel
  have h_gone : w.host.scene.type? "VariableID:3" = none := by decide +kernel
  obtain ⟨node, h_sets⟩ := Records.mem_inUse.mp h_used
  exact Scene.attached_iff.mp h_attached node _ h_sets h_gone

end Clickwork
