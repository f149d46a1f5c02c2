import Clickwork.Proofs.Applied
import Clickwork.Proofs.Watching

/-!
# Authoring is independent of analyses

While an interaction is authored, the selection may change and be analysed. What authoring comes to
should not depend on that. Two things it reads again and again are shared with the analyses, though:

* the groups of its nested actions are looked up when each of them is carried out, in the context
  that the last analysis has left. If that was another selection, a nested action finds no group any
  more (`World.nested_action_lost`);
* which records are dropped when an interaction is retired depends on which are in memory, and an
  analysis puts records into memory.

If authoring goes on only where it finds the groups as they were, and no analysis reads a stored
record of its footprint, it comes to what it comes to alone, wherever it is held
(`World.independent_of_analyses`).
-/

namespace Clickwork

open Program

/-! ### The message that asks for the interaction -/

/-- **The session and the host when an interaction has been carried out alone** from a moment on. -/
def Moment.authored (m : Moment Session) (i : Interaction) : Session × Host :=
  let outcome := (Authoring.carryOut i).outcome m.memory.enter m.host
  (outcome.2.1.left outcome.1, outcome.2.2)

namespace Watching

variable {F : Footprint} {m₀ m m' : Moment Session} {handlers : Registry String Handler}
  {alone : Session × Host}

/-- **Where authoring has ended** beside analyses: but for the context, the outbox and the
selection, and for records that are not of the footprint, all is as if it had been alone. -/
structure Settled (F : Footprint) (alone : Session × Host) (m : Moment Session) : Prop where
  rest : m.memory.withoutRecords.core = alone.1.withoutRecords.core
  records : F.restrict m.memory.records = F.restrict alone.1.records
  host : m.host.Similar alone.2

theorem Settled.loads (h : Settled F alone m) (h_loads : F.Loads m.memory m'.memory)
    (h_host : m'.host.Similar m.host) : Settled F alone m' :=
  ⟨h_loads.rest.trans h.rest, h_loads.records.trans h.records, h_host.trans h.host⟩

theorem tells_settled : ((carrying F).keeping (Settled F alone)).Tells where
  reads := Terms.sees _ fun _ _ => trivial
  changes _ := Terms.modifies fun m hQ =>
    ⟨.withMemory rfl rfl rfl, hQ.loads (.of_core rfl) (.refl m.host)⟩
  delivers := Terms.delivers

/-- **A message that asks for an interaction and is let in.** -/
theorem dispatch_settles {inbound : Inbound} {e : Envelope} {i : Interaction}
    (h_decodes : inbound.toEnvelope m₀.memory.config.limits = .ok e)
    (h_handler : m₀.memory.handlers.find? e.type = some .author)
    (h_reads : Interaction.ofJson e.data = .ok i) (h_admits : m₀.memory.admits inbound = true)
    (hF : F = Footprint.of m₀.memory m₀.host i) :
    (Session.dispatch inbound).Safe (carrying F)
      ((carrying F).closing fun _ => Settled F (m₀.authored i)) m₀ m₀ := by
  subst hF
  let F := Footprint.of m₀.memory m₀.host i
  have hE := Footprint.agree_of m₀.memory m₀.host i
  -- taking the guard concerns nothing that the footprint holds
  have hE' : F.Agree m₀.memory.enter m₀.memory.enter m₀.host :=
    have h_fits : F.Fits m₀.memory.enter :=
      ⟨hE.fits.config, hE.fits.recalls, hE.fits.foreign, hE.fits.retired⟩
    ⟨h_fits, h_fits, rfl, rfl, hE.stored⟩
  let outcome := (Authoring.carryOut i).outcome m₀.memory.enter m₀.host
  refine Session.dispatch_author_safe (P := fun r b m =>
    (carrying F).closing (fun _ _ => True) r b m ∧ ComesTo (fun _ => F.Agree) outcome r m)
    tells_settled h_decodes h_handler
    (fun h_refused => nomatch h_admits.symm.trans h_refused) (fun i' h_reads' _ => ?_)
    fun r b m h_carried => ?_
  · obtain rfl := Except.ok.inj (h_reads'.symm.trans h_reads)
    exact carryOut_comes (F := F) (m := m₀.withMemory m₀.memory.enter) hE' (.withMemory rfl rfl rfl)
  · obtain ⟨⟨h_step, -⟩, rfl, h_agree, h_host⟩ := h_carried
    refine ⟨h_step.trans (.withMemory rfl rfl rfl), ?_, h_agree.records, h_host⟩
    exact congrArg (fun s : Session =>
      { s with lastAuthoring := outcome.1.toOption.or s.lastAuthoring }) h_agree.rest

/-! ### Worlds -/

/-- The terms of a task, given which one it is that authors. -/
def terms (F : Footprint) (run task : String) : Terms Session :=
  if task = run then carrying F else looking F

/-- What is required of a task when it has ended. -/
def Done (F : Footprint) (alone : Session × Host) (run task : String) (m : Moment Session) : Prop :=
  task = run → Settled F alone m

theorem terms_run (F : Footprint) (run : String) : terms F run run = carrying F := if_pos rfl

theorem terms_of_ne (F : Footprint) {run task : String} (h_ne : task ≠ run) :
    terms F run task = looking F :=
  if_neg h_ne

end Watching

namespace World

/-- **A turn beside the task that authors**: another task analyses the selection, some task goes on,
or something is selected. -/
def Watches (run : String) (w : World Unit) : Turn → Prop
  | .start task entry _ => task ≠ run ∧ entry.looks w.current.config w.current.handlers = true
  | .resume .. => True
  | .host h => ∃ ids, h = w.host.select ids

/-- **No other task reads a record of the footprint** that is not in memory. -/
def Avoids (F : Footprint) (run : String) (w : World Unit) (t : Turn) : Prop :=
  t.task? ≠ some run → ∀ c ∈ w.calls t, F.Avoids w.host c

/-- **The task that authors goes on where the groups are as they were** that its nested actions are
on. -/
def Recalls (F : Footprint) (run : String) (w : World Unit) (t : Turn) : Prop :=
  t.task? = some run → F.Recalls w.current

instance (F : Footprint) (run : String) (w : World Unit) (t : Turn) :
    Decidable (w.Avoids F run t) :=
  inferInstanceAs (Decidable (_ → ∀ c ∈ w.calls t, F.Avoids w.host c))

instance (F : Footprint) (run : String) (w : World Unit) (t : Turn) :
    Decidable (w.Recalls F run t) :=
  inferInstanceAs (Decidable (_ → F.Recalls w.current))

end World

namespace Watching

open World

/-- What holds between two turns. -/
structure Between (F : Footprint) (handlers : Registry String Handler) (alone : Session × Host)
    (run : String) (w : World Unit) : Prop where
  served : Served F handlers w.moment
  observes : w.Observes (terms F run) (Done F alone run)
  settled : w.tasks.find? run = none → Settled F alone w.moment

variable {F : Footprint} {handlers : Registry String Handler} {alone : Session × Host}
  {run : String} {w : World Unit} {t : Turn}

/-- **The task is started that authors.** -/
theorem Between.start (run : String) {inbound : Inbound} {e : Envelope} {i : Interaction}
    (stop : Stop) (h_tasks : w.tasks = ∅) (h_serves : w.host.Serves w.current.config.collection)
    (h_decodes : inbound.toEnvelope w.current.config.limits = .ok e)
    (h_handler : w.current.handlers.find? e.type = some .author)
    (h_reads : Interaction.ofJson e.data = .ok i) (h_admits : w.current.admits inbound = true) :
    Between (Footprint.of w.current w.host i) w.current.handlers (w.moment.authored i) run
      (w.turn (.start run (.message inbound) stop)) := by
  let F := Footprint.of w.current w.host i
  have h_served : Served F w.current.handlers w.moment := ⟨h_serves, rfl, rfl⟩
  have h_safe : (Session.dispatch inbound).Safe (carrying F)
      ((carrying F).closing fun _ => Settled F (w.moment.authored i)) w.moment w.moment :=
    dispatch_settles h_decodes h_handler h_reads h_admits rfl
  have h_empty : w.Observes (terms F run) (Done F (w.moment.authored i) run) := .of_empty h_tasks
  have h_start := h_empty.start run (.message inbound) stop ?_ (fun c _ m h_step => ?_)
    fun _ task' r c h_found _ => ?_
  · obtain ⟨h_next, h_step, h_end⟩ := h_start
    rw [terms_run] at h_step
    exact ⟨h_served.continues h_step.toContinues, h_next, fun h_none => h_end h_none rfl⟩
  · rw [terms_run]
    exact h_safe.mono fun _ _ _ h_done => ⟨h_done.1, fun _ => h_done.2⟩
  · -- whenever it makes a call, the memory recalls what it did at first
    rw [terms_run] at h_step ⊢
    exact h_step.recalls fun _ _ => rfl
  · -- there is no other task yet
    rw [h_tasks] at h_found
    cases h_found

/-- **A turn of another task.** -/
theorem Between.look (h : Between F handlers alone run w) {task : String}
    (h_task : t.task? = some task) (h_ne : task ≠ run) (h_watches : w.Watches run t)
    (h_avoids : w.Avoids F run t) : Between F handlers alone run (w.turn t) := by
  have h_other : t.task? ≠ some run := fun h_same =>
    h_ne (Option.some.inj (h_task.symm.trans h_same))
  have h_turn := h.observes.turn h_task (fun entry stop h_eq => ?_) (fun c hc m h_step => ?_)
    fun h_step task' r c _ _ _ => ?_
  · obtain ⟨h_next, h_step, -⟩ := h_turn
    rw [terms_of_ne F h_ne] at h_step
    refine ⟨h.served.continues h_step.continues, h_next, fun h_none => ?_⟩
    rw [w.find?_turn_of_ne h_other] at h_none
    refine (h.settled h_none).loads h_step.loads ?_
    rw [h_step.host _ h.served.serves]
    exact .refl _
  · -- it only looks
    subst h_eq
    rw [terms_of_ne F h_ne]
    have h_looks : entry.looks w.current.config w.current.handlers = true := h_watches.2
    rw [show w.current.config = F.config from h.served.config,
      show w.current.handlers = handlers from h.served.handlers] at h_looks
    exact (entry_looks h_looks h.served).mono fun _ _ _ h_done =>
      ⟨h_done.1, fun h_run => absurd h_run h_ne⟩
  · -- its calls avoid the footprint
    rw [terms_of_ne F h_ne] at h_step ⊢
    show F.Avoids m.host c
    rw [h_step.host _ h.served.serves]
    exact h_avoids h_other c hc
  · -- so the task that authors finds the footprint as it was
    rw [terms_of_ne F h_ne] at h_step
    by_cases h_run : task' = run
    · subst h_run
      rw [terms_run]
      refine ⟨h_step.loads, ?_⟩
      rw [h_step.host _ h.served.serves]
      exact .refl _
    · rw [terms_of_ne F h_run]
      exact h_step.continues

/-- **The task goes on that authors.** -/
theorem Between.resume (h : Between F handlers alone run w) (stop : Stop)
    (h_recalls : F.Recalls w.current) :
    Between F handlers alone run (w.turn (.resume run stop)) := by
  have h_turn := h.observes.turn (t := .resume run stop) rfl (fun entry stop h_eq => nomatch h_eq)
    (fun c _ m h_step => ?_) fun h_step task' r c h_found h_other _ => ?_
  · obtain ⟨h_next, h_step, h_end⟩ := h_turn
    rw [terms_run] at h_step
    refine ⟨h.served.continues h_step.toContinues, h_next, fun h_none => ?_⟩
    rcases h_end with h_same | h_done
    · rw [h_same] at h_none ⊢
      exact h.settled h_none
    · exact h_done h_none rfl
  · rw [terms_run] at h_step ⊢
    exact h_step.recalls h_recalls
  · rw [terms_run] at h_step
    have h_ne : task' ≠ run := World.ne_of_not_resumed (t := .resume run stop) rfl
      (fun _ _ h_eq => nomatch h_eq) h_found h_other
    rw [terms_of_ne F h_ne]
    exact h_step.toContinues

/-- **Something is selected.** -/
theorem Between.select (h : Between F handlers alone run w) (ids : List String) :
    Between F handlers alone run (w.turn (.host (w.host.select ids))) := by
  have h_continues : Continues w.moment (w.turn (.host (w.host.select ids))).moment :=
    ⟨rfl, rfl, fun _ hs => ⟨hs.spares, hs.collection⟩⟩
  refine ⟨h.served.continues h_continues, h.observes.rely rfl rfl fun task r c _ _ => ?_,
    fun h_none => (h.settled h_none).loads (.refl _) (.select w.host ids)⟩
  by_cases h_run : task = run
  · subst h_run
    rw [terms_run]
    exact ⟨.refl _, .select w.host ids⟩
  · rw [terms_of_ne F h_run]
    exact h_continues

theorem Between.turn (h : Between F handlers alone run w) (h_watches : w.Watches run t)
    (h_avoids : w.Avoids F run t) (h_recalls : w.Recalls F run t) :
    Between F handlers alone run (w.turn t) := by
  cases t with
  | host h' =>
    obtain ⟨ids, rfl⟩ := h_watches
    exact h.select ids
  | start task entry stop => exact h.look rfl h_watches.1 h_watches h_avoids
  | resume task stop =>
    by_cases h_run : task = run
    · subst h_run
      exact h.resume stop (h_recalls rfl)
    · exact h.look rfl h_run h_watches h_avoids

end Watching

namespace World

/-- A task that is never held leaves the held tasks alone. -/
theorem tasks_start_never (w : World Unit) (task : String) (entry : Entry) :
    (w.turn (.start task entry .never)).tasks = w.tasks := by
  simp only [turn, startTask_eq, Program.run_never]
  cases (entry.program.eval w.machine).1 <;> rfl

/-- **Authoring is independent of analyses.** On a host on which nothing fails and which has the
collection of managed variables, let an interaction be asked for that is let in. From then on, let
any number of analyses start and anything be selected, and let the tasks be held at any calls and be
resumed in any order. If authoring goes on only where the groups of the nested actions are as they
were, and no analysis reads a stored record of the footprint, then, when the interaction has been
authored,

* the result, the records of the groups that were wired, the scene but for the selection, and the
  storage are those of authoring it alone;
* if that has a result, every nested action is carried out whose target was another group of the
  context at first. -/
theorem independent_of_analyses (w : World Unit) (run : String) (inbound : Inbound) (stop : Stop)
    (rest : List Turn) {e : Envelope} {i : Interaction} (h_tasks : w.tasks = ∅)
    (h_serves : w.host.Serves w.current.config.collection)
    (h_decodes : inbound.toEnvelope w.current.config.limits = .ok e)
    (h_handler : w.current.handlers.find? e.type = some .author)
    (h_reads : Interaction.ofJson e.data = .ok i) (h_admits : w.current.admits inbound = true)
    (h_watches : (w.turn (.start run (.message inbound) stop)).Every (Watches run) rest)
    (h_avoids : (w.turn (.start run (.message inbound) stop)).Every
      (Avoids (.of w.current w.host i) run) rest)
    (h_recalls : (w.turn (.start run (.message inbound) stop)).Every
      (Recalls (.of w.current w.host i) run) rest) :
    let alone := w.turn (.start run (.message inbound) .never)
    let w' := w.turns (.start run (.message inbound) stop :: rest)
    w'.tasks.find? run = none →
      w'.current.lastAuthoring = alone.current.lastAuthoring ∧
      (∀ part ∈ i.parts,
        w'.current.records.find? part.group = alone.current.records.find? part.group) ∧
      w'.host.Similar alone.host ∧
      ∀ a, ((Authoring.carryOut i).outcome w.current.enter w.host).1 = .ok a →
        w'.current.lastAuthoring = some a ∧ a.interaction = i ∧ a.Applies w.current.context := by
  intro alone w' h_ended
  have h_start (stop : Stop) := Watching.Between.start run stop h_tasks h_serves h_decodes
    h_handler h_reads h_admits
  -- the same holds of the run alone
  have h_alone := (h_start .never).settled (by rw [tasks_start_never, h_tasks]; rfl)
  have h_end := (h_watches.and (h_avoids.and h_recalls)).turns
    (fun _ _ h_turn h => Watching.Between.turn h h_turn.1 h_turn.2.1 h_turn.2.2) (h_start stop)
  have h_settled := h_end.settled h_ended
  have h_last {m : Moment Session} {F : Footprint}
      (h : Watching.Settled F (w.moment.authored i) m) :
      m.memory.lastAuthoring = (w.moment.authored i).1.lastAuthoring :=
    (congrArg Session.lastAuthoring h.rest :)
  refine ⟨(h_last h_settled).trans (h_last h_alone).symm, fun part h_part => ?_,
    h_settled.host.trans h_alone.host.symm, fun a ha => ?_⟩
  · let F := Footprint.of w.current w.host i
    have h_same : F.restrict w'.current.records = F.restrict alone.current.records :=
      h_settled.records.trans h_alone.records.symm
    have h_group := (F.covers part h_part).1
    rw [← F.find?_restrict w'.current.records h_group, h_same, F.find?_restrict _ h_group]
  · obtain ⟨h_interaction, h_applies⟩ := Authoring.carryOut_applies ha
    refine ⟨(h_last h_settled).trans ?_, h_interaction, h_applies⟩
    show ((Authoring.carryOut i).outcome w.current.enter w.host).1.toOption.or _ = some a
    rw [ha]
    rfl

/-- An analysis is held while the reactions of the main group are about to be placed. Before it goes
on, nothing is selected any more, so that the next one fails. Then authoring goes on. -/
theorem independent_on_panel :
    let i : Interaction := .switchingOn "tabs" 1 ["badges"]
    let w := panel.after [.notice]
    let w₁ := w.turn (.start "edit" (.message (.authoring i)) (.before .setReactions 1))
    let w₂ := w₁.turn (.start "look" .notice (.before .collections 1))
    let rest : List Turn := [.start "look" .notice (.before .collections 1),
      .host (w₂.host.select []), .resume "look" .never, .start "late" .notice .never,
      .resume "edit" .never]
    let w' := w.turns (.start "edit" (.message (.authoring i)) (.before .setReactions 1) :: rest)
    w'.host.Similar (w.turn (.start "edit" (.message (.authoring i)) .never)).host ∧
      ∃ a, w'.current.lastAuthoring = some a ∧ a.Applies w.current.context := by
  intro i w w₁ w₂ rest w'
  have h_serves : w.host.Serves w.current.config.collection := by
    refine ⟨fun method => Option.isNone_iff_eq_none.mp ?_, by decide +kernel⟩
    cases method <;> decide +kernel
  have h_ended : w'.tasks.find? "edit" = none :=
    Registry.find?_eq_none_iff.mpr (by decide +kernel)
  have h_carried : ((Authoring.carryOut i).outcome w.current.enter w.host).1.isOk = true := by
    decide +kernel
  have h_watches : w₁.Every (Watches "edit") rest :=
    ⟨⟨by decide, by decide +kernel⟩, ⟨[], rfl⟩, trivial, ⟨by decide, by decide +kernel⟩, trivial,
      trivial⟩
  obtain ⟨-, -, h_host, h_applied⟩ := independent_of_analyses w "edit" (.authoring i)
    (.before .setReactions 1) rest (i := i) (by rfl) h_serves rfl (by rfl) (by rfl)
    (by decide +kernel) h_watches (by decide +kernel) (by decide +kernel) h_ended
  cases h_result : ((Authoring.carryOut i).outcome w.current.enter w.host).1 with
  | error e =>
    rw [h_result] at h_carried
    cases h_carried
  | ok a =>
    obtain ⟨h_some, -, h_all⟩ := h_applied a h_result
    have h_turns : w' = w.turns
        (.start "edit" (.message (.authoring i)) (.before .setReactions 1) :: rest) := rfl
    rw [h_turns]
    exact ⟨h_host, a, h_some, h_all⟩

/-- **A nested action is lost.** While the reactions of the main group are about to be placed, the
other panel is selected and analysed. Alone, authoring places reactions on the badge; now it finds
no group of badges any more. -/
theorem nested_action_lost :
    let edit : Entry := .message (.authoring (.switchingOn "tabs" 1 ["badges"]))
    let w := twoPanels.after [.notice]
    let w₁ := w.turn (.start "edit" edit (.before .setReactions 1))
    let w' := w₁.turns [.host (w₁.host.select ["other"]), .start "look" .notice .never,
      .resume "edit" .never]
    let alone := w.turn (.start "edit" edit .never)
    (alone.host.scene.allReactions.find? "badge-1").isSome = true ∧ w'.tasks.keys = [] ∧
      w'.host.scene.allReactions.find? "badge-1" = none := by
  decide +kernel

end World

end Clickwork
