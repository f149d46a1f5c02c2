import Clickwork.Proofs.Codec
import Clickwork.Proofs.Names
import Clickwork.Proofs.Replies

/-!
# What a run that fails leaves on record

A message that asks for an interaction may fail at any call. Up to the moment at which the
interaction is put on record, the group's record is found as it was before; from then on the
interaction is found, although its variables and reactions are still to come and may fail
(`World.found_after_authoring`).

Both hold because a record leaves the memory only if it belongs to something that is retired: the
group's previous interaction must not belong to the new one, and the new one must not belong to an
interaction that its nested actions displace.
-/

namespace Clickwork

open Program (Ends)
open Records (Drops Putting Retiring dropOwned ownedBy)

/-! ### What is on record anywhere -/

/-- **The interactions on record for a group**, in memory and in the storage. -/
def Session.held (s : Session) (h : Host) (group : String) : List Interaction :=
  (s.records.find? group).toList ++
    ((h.storage.texts.find? (s.config.storageKey group)).bind fun text =>
      (Records.parse s.config.limits text).toOption).toList

namespace Session

variable {s s' : Session} {h h' : Host} {group : String} {p : Interaction}

theorem mem_held : p ∈ s.held h group ↔ s.records.find? group = some p ∨
    ∃ text, h.storage.texts.find? (s.config.storageKey group) = some text ∧
      Records.parse s.config.limits text = .ok p := by
  simp only [held, List.mem_append, Option.mem_toList, Option.bind_eq_some_iff]
  refine or_congr_right (exists_congr fun text => and_congr_right fun _ => ?_)
  cases Records.parse s.config.limits text <;> simp [Except.toOption]

/-- What is stored is on record where it was before if no text was stored. -/
theorem mem_held_of_sheds (h_config : s'.config = s.config)
    (h_memory : s'.records.find? group = some p → p ∈ s.held h group) (h_sheds : h.Sheds h')
    (hp : p ∈ s'.held h' group) : p ∈ s.held h group := by
  rcases mem_held.mp hp with h_record | ⟨text, h_text, h_parse⟩
  · exact h_memory h_record
  · rw [h_config] at h_text h_parse
    exact mem_held.mpr (.inr ⟨text, h_sheds _ _ h_text, h_parse⟩)

/-- A look-up puts nothing on record. -/
theorem Looked.mem_held {group' : String} (h_looked : Looked group' h s s')
    (h_record : s'.records.find? group = some p) : p ∈ s.held h group := by
  refine Session.mem_held.mpr ?_
  rcases h_looked with rfl | ⟨-, rfl⟩
  · exact .inl h_record
  -- what a look-up adds to the memory was stored, so it was on record before
  rcases s.recalling_cases h group' with h_same | ⟨i, -, h_found, h_memory⟩
  · exact .inl (h_same ▸ h_record)
  · rw [h_memory, Registry.find?_insert] at h_record
    split at h_record
    · rename_i h_group
      obtain rfl := Option.some.inj h_record
      exact .inr (h_group ▸ Host.stored_of_recorded h_found)
    · exact .inl h_record

end Session

namespace Records

variable {s s' : Session} {h h' : Host} {i : Interaction} {group : String} {p : Interaction}

/-- The text of a nested interaction holds nothing with another id. -/
theorem id_of_parse_nested {limits : Json.Limits} {a : NestedAction}
    (h_parse : parse limits (i.nested a).text = .ok p) : p.id = (i.nested a).id := by
  have h_exact : (i.nested a).toJson.ExactAt .none 0 := Interaction.exactAt_toJson rfl nofun
  have h_id : (i.nested a).id ≠ "" := by
    intro h_empty
    have h_length := congrArg (·.toList.length) h_empty
    simp only [Interaction.nested, Interaction.toList_nested, List.length_append] at h_length
    simp at h_length
  -- what was read within limits is what is read without them
  unfold parse at h_parse
  split at h_parse
  · cases h_parse
  · cases h_parse
  · rename_i data h_read
    have h_none := (Json.read_none_of_read h_read).symm.trans
      (Json.read_text h_exact.floatFree h_exact.sound)
    rw [Except.ok.inj h_none] at h_parse
    obtain ⟨h_required, -⟩ := Interaction.of_ofJson h_parse
    exact Except.ok.inj (h_required.symm.trans (Interaction.required_of_field rfl h_id))

/-! ### Putting an interaction on record, whatever fails -/

/-- What is on record after something was retired was on record before. -/
theorem Retiring.mem_held {s₁ : Session} {ids : List String} (h_retired : Retiring i s h s₁ ids h')
    (hp : p ∈ (dropOwned ids s₁).held h' group) : p ∈ s.held h group :=
  Session.mem_held_of_sheds h_retired.config_dropOwned
    (fun h_record => h_retired.looked.mem_held (find?_dropOwned.mp h_record).1) h_retired.sheds hp

/-- A record stays in memory while another interaction is put on record if it belongs neither to
that nor to what is on record for its group. -/
theorem Retiring.find?_kept {s₁ : Session} {ids : List String} (h_retired : Retiring i s h s₁ ids h')
    (h_record : s.records.find? group = some p) (h_own : ownedBy i.id p.id = false)
    (h_held : ∀ q ∈ s.held h i.group, ownedBy q.id p.id = false) :
    (dropOwned ids s₁).records.find? group = some p := by
  have h_looked : s₁.records.find? group = some p := by
    rcases h_retired.looked with rfl | ⟨-, rfl⟩
    · exact h_record
    · exact (loaded_recalling s h i.group).find?_kept h_record
  -- two ids are retired at most: that of the interaction, and that of the group's previous one
  refine find?_dropOwned.mpr ⟨h_looked, List.any_eq_false.mpr fun id h_mem => ?_⟩
  rcases mem_retiring.mp (h_retired.among id h_mem) with rfl | ⟨q, h_previous, rfl⟩
  · exact Bool.eq_false_iff.mp h_own
  · exact Bool.eq_false_iff.mp (h_held q (h_retired.looked.mem_held h_previous))

namespace Putting

variable {r : Except Failure Unit} {e : Failure}

/-- **A group whose interaction was not replaced** has on record what it had, unless that belongs to
the new interaction. -/
theorem found_of_gaveUp (h_put : Putting i s h (.error e) s' h')
    (h_own : ∀ p, s.found h i.group = .ok (some p) → ownedBy i.id p.id = false) :
    s'.found h' i.group = s.found h i.group := by
  obtain ⟨h_retired⟩ := h_put
  rename_i s₁ ids
  have h_found : s₁.found h i.group = s.found h i.group := h_retired.looked.found _
  have h_kept : ¬Drops ids s₁ i.group := by
    rintro ⟨p, h_record, h_owned⟩
    obtain ⟨id, h_mem, h_owns⟩ := List.any_eq_true.mp h_owned
    rcases mem_retiring.mp (h_retired.among id h_mem) with rfl | ⟨q, h_previous, rfl⟩
    · rw [h_own p (h_found.symm.trans (Session.found_of_find? h_record))] at h_owns
      cases h_owns
    · -- the previous interaction does not belong to itself
      obtain rfl := Option.some.inj (h_record.symm.trans h_previous)
      rw [ownedBy_self] at h_owns
      cases h_owns
  -- a text is deleted with a record that is dropped only, and no two groups share a key
  have h_text : h'.storage.texts.find? (s₁.config.storageKey i.group) =
      h.storage.texts.find? (s₁.config.storageKey i.group) := by
    rw [h_retired.looked.config]
    refine h_retired.forgets.kept _ fun group h_drops h_key => h_kept ?_
    exact s.config.storageKey_injective h_key ▸ h_drops
  have h_same : (dropOwned ids s₁).found h' i.group = s₁.found h i.group :=
    Session.found_congr rfl (find?_dropOwned_of_not_drops h_kept) h_text
      h_retired.later.unavailable
  exact h_same.trans h_found

/-- What was put on record is in memory. -/
theorem find?_self (h_put : Putting i s h (.ok ()) s' h') : s'.records.find? i.group = some i := by
  cases h_put with
  | kept => exact Registry.find?_insert_self _ _ _

/-- **Another group keeps its record in memory** if that belongs neither to the new interaction nor
to what it displaces. -/
theorem find?_kept (h_put : Putting i s h r s' h') (h_other : group ≠ i.group)
    (h_record : s.records.find? group = some p) (h_own : ownedBy i.id p.id = false)
    (h_held : ∀ q ∈ s.held h i.group, ownedBy q.id p.id = false) :
    s'.records.find? group = some p := by
  cases h_put with
  | gaveUp h_retired => exact h_retired.find?_kept h_record h_own h_held
  | kept h_retired =>
    exact (Registry.find?_insert_of_ne _ _ (Ne.symm h_other)).trans
      (h_retired.find?_kept h_record h_own h_held)

/-- **Nothing else gets on record** but the interaction, and what its text holds. -/
theorem mem_held (h_put : Putting i s h r s' h') (hp : p ∈ s'.held h' group) :
    p ∈ s.held h group ∨
      group = i.group ∧ (p = i ∨ parse s.config.limits i.text = .ok p) := by
  cases h_put with
  | gaveUp h_retired => exact .inl (h_retired.mem_held hp)
  | kept h_retired h_texts =>
    have h_config := h_retired.config_dropOwned
    rcases Session.mem_held.mp hp with h_record | ⟨text, h_text, h_parse⟩
    · simp only [Registry.find?_insert] at h_record
      split at h_record
      · exact .inr ⟨‹_ = group›.symm, .inl (Option.some.inj h_record).symm⟩
      · exact .inl (h_retired.mem_held (Session.mem_held.mpr (.inl h_record)))
    · simp only [h_config] at h_text h_parse
      rcases h_texts _ _ h_text with h_before | ⟨h_key, rfl⟩
      · exact .inl (Session.mem_held.mpr (.inr ⟨text, h_before, h_parse⟩))
      · exact .inr ⟨s.config.storageKey_injective h_key, .inr h_parse⟩

end Putting

end Records

/-- The same is found while memory and storage are untouched. -/
theorem Records.Untouched.found {s s' : Session} {h h' : Host}
    (h_same : Records.Untouched s h s' h') (group : String) :
    s'.found h' group = s.found h group := by
  obtain ⟨rfl, h_storage⟩ := h_same
  exact Session.found_congr rfl rfl (by rw [h_storage]) (by rw [h_storage])

/-! ### Carrying an interaction out -/

/-- **An interaction belongs to none that its nested actions displace**: to none that is on record
for another group of theirs. -/
def Session.Withstands (s : Session) (h : Host) (i : Interaction) : Prop :=
  ∀ a ∈ i.nestedActions, a.target ≠ i.group → ∀ p ∈ s.held h a.target, ownedBy p.id i.id = false

instance (s : Session) (h : Host) (i : Interaction) : Decidable (s.Withstands h i) :=
  inferInstanceAs (Decidable (∀ a ∈ i.nestedActions, a.target ≠ i.group →
    ∀ p ∈ s.held h a.target, ownedBy p.id i.id = false))

theorem Records.Untouched.withstands {s s' : Session} {h h' : Host} {i : Interaction}
    (h_same : Records.Untouched s h s' h') (h_withstands : s.Withstands h i) :
    s'.Withstands h' i := by
  obtain ⟨rfl, h_storage⟩ := h_same
  unfold Session.Withstands Session.held
  rw [h_storage]
  exact h_withstands

/-- **An interaction is on record** and stays there while its nested actions are carried out. -/
structure Session.Enrolled (i : Interaction) (s : Session) (h : Host) : Prop where
  kept : s.records.find? i.group = some i
  withstands : s.Withstands h i

namespace Session.Enrolled

variable {s s' : Session} {h h' : Host} {i : Interaction} {a : NestedAction}
  {r : Except Failure Unit}

/-- The interaction itself gets on record. -/
theorem of_putting (h_put : Putting i s h (.ok ()) s' h') (h_withstands : s.Withstands h i) :
    Session.Enrolled i s' h' where
  kept := h_put.find?_self
  withstands := by
    intro a ha h_other p hp
    rcases h_put.mem_held hp with h_before | ⟨h_group, -⟩
    · exact h_withstands a ha h_other p h_before
    · exact absurd h_group h_other

/-- **A nested action on another group** leaves it on record, however far it gets. -/
theorem putting (h_enrolled : Session.Enrolled i s h) (ha : a ∈ i.nestedActions)
    (h_other : a.target ≠ i.group) (h_put : Putting (i.nested a) s h r s' h') :
    Session.Enrolled i s' h' where
  kept := h_put.find?_kept (Ne.symm h_other) h_enrolled.kept (i.ownedBy_nested a)
    (h_enrolled.withstands a ha h_other)
  withstands := by
    intro b hb h_group p hp
    rcases h_put.mem_held hp with h_before | ⟨-, rfl | h_parse⟩
    · exact h_enrolled.withstands b hb h_group p h_before
    · exact i.ownedBy_nested a
    · -- the text of the nested interaction may not read back as it was, but its id does
      rw [Records.id_of_parse_nested h_parse]
      exact i.ownedBy_nested a

/-- Calls about the scene do not matter. -/
theorem permits {c : Call} (hc : c.method.isStorage = false) :
    (Discipline.keeping (Session.Enrolled i)).Permits c := by
  refine Discipline.keeping_permits fun s h h_enrolled => ⟨h_enrolled.kept, ?_⟩
  exact Records.Untouched.withstands ⟨rfl, h.storage_perform_of_scene hc⟩ h_enrolled.withstands

theorem sees {τ : Type} (view : Session → τ) :
    (Discipline.keeping (Session.Enrolled i)).Sees view fun _ => True :=
  Discipline.keeping_sees view fun _ _ _ => trivial

end Session.Enrolled

namespace Authoring

variable {s : Session} {h : Host} {i : Interaction}

/-- **The first part of carrying an interaction out**: its group is looked up, the collection is
there, and the interaction is put on record. -/
def enroll (i : Interaction) : Program Session (Group × String) := do
  let group ← Program.lift ((← Session.readContext).group i.group)
  if (Setting.parse? i.primaryAction).isNone then
    Program.lift (.error (.protocol (.notSetting i.primaryAction)))
  let config ← Session.readConfig
  let collection ← Wiring.ensureCollection config.collection
  Records.put i
  return (group, collection)

/-- **The rest of it**: the group is equipped, and the nested actions are carried out. -/
def equipAll (collection : String) (i : Interaction) (group : Group) :
    Program Session Authoring := do
  let main ← equip collection i group
  let nested ← i.nestedActions.mapM (wireNested collection i group)
  return { interaction := i, group, main, nested := nested.filterMap id }

theorem enroll_eq (i : Interaction) : enroll i = (do
    let group ← admission i
    let config ← Session.readConfig
    let collection ← Wiring.ensureCollection config.collection
    Records.put i
    return (group, collection)) :=
  (admission_bind i _).symm

theorem carryOut_eq_enroll (i : Interaction) : carryOut i = (do
    let (group, collection) ← enroll i
    equipAll collection i group) := by
  rw [carryOut_eq, enroll_eq]
  unfold proceed wireAll equipAll
  simp only [wire_eq, LawfulMonad.bind_assoc, LawfulMonad.pure_bind]

/-- **How far the first part gets**: without it the group's record is found as before, and with it
the interaction is on record. -/
theorem enroll_ends (i : Interaction) : (enroll i).Ends s h fun r s' h' =>
    (r.isOk = false → (∀ p, s.found h i.group = .ok (some p) → ownedBy i.id p.id = false) →
      s'.found h' i.group = s.found h i.group) ∧
    ∀ group collection, r = .ok (group, collection) → group.id = i.group ∧
      (s.Withstands h i → Session.Enrolled i s' h') := by
  rw [enroll_eq]
  cases h_admitted : s.admitted i with
  | error e =>
    rw [Ends, Program.outcome_bind, outcome_admission, h_admitted]
    exact ⟨fun _ _ => rfl, fun _ _ h_ok => by cases h_ok⟩
  | ok group =>
    have h_id : group.id = i.group :=
      (Context.group_eq_ok (Session.admitted_eq_ok_iff.mp h_admitted).1).2
    refine Ends.bind_eq (by rw [outcome_admission, h_admitted]) ?_
    refine Ends.bind_eq (Session.outcome_readConfig _ _) ?_
    -- memory and storage are as they were when the interaction is put on record
    have h_ensure : (Wiring.ensureCollection s.config.collection).Keeps (Records.Untouched s h) :=
      Wiring.ensureCollection_holds (D := .keeping _) (Records.permits_untouched rfl)
        (Records.permits_untouched rfl)
    refine (h_ensure s h ⟨rfl, rfl⟩).bind ?_ fun e s' h' _ h_same =>
      ⟨fun _ _ => h_same.found _, fun _ _ h_ok => by cases h_ok⟩
    rintro collection s₁ h₁ - h_same
    refine (Records.put_gets i).bind ?_ ?_
    · rintro ⟨⟩ s' h' - h_put
      refine ⟨fun h_error => (by cases h_error), fun _ _ h_ok => ?_⟩
      obtain ⟨rfl, rfl⟩ := Prod.mk.inj (Except.ok.inj h_ok)
      exact ⟨h_id, fun h_withstands => .of_putting h_put (h_same.withstands h_withstands)⟩
    · rintro e s' h' - h_put
      refine ⟨fun _ h_own => ?_, fun _ _ h_ok => by cases h_ok⟩
      rw [← h_same.found] at h_own ⊢
      exact h_put.found_of_gaveUp h_own

/-- **The rest leaves the interaction on record**, whatever fails. -/
theorem equipAll_keeps {group : Group} (h_group : group.id = i.group) (collection : String) :
    (equipAll collection i group).Keeps (Session.Enrolled i) := by
  have h_wires {c : Call} (hc : c.Wires collection) :
      (Discipline.keeping (Session.Enrolled i)).Permits c :=
    Session.Enrolled.permits hc.isStorage
  have h_known (id : String) : (Discipline.keeping (Session.Enrolled i)).Sees (·.context.group id)
      fun found => ∀ target, found = .ok target → target.id = id :=
    Discipline.keeping_sees _ fun s h _ target h_found => (Context.group_eq_ok h_found).2
  have h_nested (a : NestedAction) (ha : a ∈ i.nestedActions) :
      (Discipline.keeping (Session.Enrolled i)).Holds (wireNested collection i group a) := by
    refine wireNested_holds (h_known a.target) fun target h_target h_other => ?_
    have h_put : (Discipline.keeping (Session.Enrolled i)).Holds (Records.put (i.nested a)) := by
      refine fun s h h_enrolled => (Records.put_gets _).mono fun r s' h' _ h_put => ?_
      refine h_enrolled.putting ha (fun h_same => h_other ?_) h_put
      rw [h_target target rfl, h_same, h_group]
    exact wire_holds h_put (Session.Enrolled.sees _) (fun _ => h_wires) target
  have h_main : (Discipline.keeping (Session.Enrolled i)).Holds (equip collection i group) := by
    refine Discipline.bind _ (Wiring.createMarkers_holds (fun _ => h_wires) i) fun _ => ?_
    refine (Session.Enrolled.sees _).readConfig fun config _ => ?_
    exact Wiring.apply_holds (fun _ => h_wires) i group config
  have h_all : (Discipline.keeping (Session.Enrolled i)).Holds (equipAll collection i group) :=
    Discipline.bind _ h_main fun _ => Discipline.bind _ (.mapM _ h_nested) fun _ => .pure _
  exact h_all

/-- **What is found of the group when carrying an interaction out has ended**, whatever failed. -/
theorem carryOut_ends (i : Interaction) : (carryOut i).Ends s h fun r s' h' =>
    (((enroll i).outcome s h).1.isOk = false → r.isOk = false ∧
      ((∀ p, s.found h i.group = .ok (some p) → ownedBy i.id p.id = false) →
        s'.found h' i.group = s.found h i.group)) ∧
    (((enroll i).outcome s h).1.isOk = true → s.Withstands h i →
      s'.found h' i.group = .ok (some i)) := by
  have h_result : (enroll i).Ends s h fun r _ _ => ((enroll i).outcome s h).1 = r := rfl
  rw [carryOut_eq_enroll]
  refine (h_result.and (enroll_ends i)).bind ?_ ?_
  · rintro ⟨group, collection⟩ s₁ h₁ - ⟨h_result, -, h_enrolled⟩
    obtain ⟨h_group, h_enrolled⟩ := h_enrolled group collection rfl
    rw [h_result]
    by_cases h_withstands : s.Withstands h i
    · refine (equipAll_keeps h_group collection s₁ h₁ (h_enrolled h_withstands)).mono ?_
      exact fun r s' h' _ h_kept => ⟨nofun, fun _ _ => Session.found_of_find? h_kept.kept⟩
    · exact ⟨nofun, fun _ h_contrary => absurd h_contrary h_withstands⟩
  · rintro e s' h' - ⟨h_result, h_found, -⟩
    rw [h_result]
    exact ⟨fun _ => ⟨rfl, h_found rfl⟩, nofun⟩

end Authoring

/-! ### Messages that ask for an interaction -/

namespace World

/-- **What a look-up in a world answers** when no call is made to fail. -/
def found (w : World Unit) (group : String) : Except Failure (Option Interaction) :=
  w.current.found w.host group

/-- **The interaction that a message puts on record**, if it gets that far: the guard is free, and
the first part of carrying the interaction out does not fail. -/
def enrolls? (w : World Unit) (e : Envelope) : Option Interaction :=
  match Interaction.ofJson e.data with
  | .ok i =>
    if !w.current.context.busy && ((Authoring.enroll i).outcome w.current.enter w.host).1.isOk
    then some i else none
  | .error _ => none

theorem enrolls?_eq {w : World Unit} {e : Envelope} {i : Interaction}
    (h_reads : Interaction.ofJson e.data = .ok i) : w.enrolls? e =
      if !w.current.context.busy && ((Authoring.enroll i).outcome w.current.enter w.host).1.isOk
      then some i else none := by
  simp only [enrolls?, h_reads]

section Authoring

variable {w : World Unit} {inbound : Inbound} {e : Envelope} (h_open : w.current.closed = false)
  (h_handler : w.current.handlers.find? "create-interaction" = some .author)
  (h_decodes : inbound.toEnvelope w.current.config.limits = .ok e)
  (h_type : e.type = "create-interaction")

include h_open h_handler h_decodes h_type

/-- A message that is not let in is answered with an error, and everything is found as before. -/
theorem found_after_refusal {failure : Failure} (h_refused : (do
      let _ ← Interaction.ofJson e.data
      w.current.context.acquire) = .error failure) :
    ∃ reply, w.Answers inbound reply ∧ reply.type = "error" ∧
      ∀ group, (w.advance (.message inbound)).found group = w.found group := by
  obtain ⟨h_answers, h_host, outbox, h_current⟩ :=
    answers_refused h_open h_handler h_decodes h_type h_refused
  refine ⟨_, h_answers, rfl, fun group => ?_⟩
  rw [found, h_current, h_host]
  exact Session.found_congr rfl rfl rfl rfl

/-- **A message that is let in** is answered, and what is found of the group then depends on how far
the interaction got. -/
theorem found_after_admission {i : Interaction} (h_reads : Interaction.ofJson e.data = .ok i)
    (h_free : w.current.context.busy = false) :
    ∃ reply, w.Answers inbound reply ∧
      (reply.type = "error" ∨ reply.type = "interaction-created") ∧
      (((Authoring.enroll i).outcome w.current.enter w.host).1.isOk = false →
        reply.type = "error" ∧ ((∀ p, w.found i.group = .ok (some p) → ownedBy i.id p.id = false) →
          (w.advance (.message inbound)).found i.group = w.found i.group)) ∧
      (((Authoring.enroll i).outcome w.current.enter w.host).1.isOk = true →
        w.current.Withstands w.host i →
          (w.advance (.message inbound)).found i.group = .ok (some i)) := by
  obtain ⟨h_answers, h_host, outbox, h_current⟩ :=
    answers_authoring h_open h_handler h_decodes h_type h_reads h_free
  -- taking and leaving the guard concerns neither the records nor the storage
  have h_ends : (Authoring.carryOut i).Ends w.current.enter w.host _ := Authoring.carryOut_ends i
  rw [Ends] at h_ends
  generalize (Authoring.carryOut i).outcome w.current.enter w.host = o
    at h_answers h_host h_current h_ends
  obtain ⟨r, s', h'⟩ := o
  have h_before : w.current.enter.found w.host i.group = w.found i.group :=
    Session.found_congr rfl rfl rfl rfl
  have h_after : (w.advance (.message inbound)).found i.group = s'.found h' i.group := by
    rw [found, h_current, h_host]
    exact Session.found_congr rfl rfl rfl rfl
  rw [h_before, ← h_after] at h_ends
  refine ⟨_, h_answers, ?_, fun h_failed => ⟨?_, (h_ends.1 h_failed).2⟩, h_ends.2⟩
  · cases r with
    | error failure => exact .inl rfl
    | ok a => exact .inr rfl
  · cases r with
    | error failure => rfl
    | ok a => cases (h_ends.1 h_failed).1

end Authoring

/-- **What is found of a group after a message asked for an interaction**, whatever the calls that
are made to fail. An open session answers the message, with an error or with the news that the
interaction was created.

* If the message puts nothing on record, the answer is an error, and the same is found as before,
  unless the interaction on record belongs to the one that was asked for. If the message holds no
  interaction, this goes for all groups.
* If the message puts its interaction on record, that is what is found, even if the answer is an
  error, unless the interaction belongs to one that its own nested actions displace. -/
theorem found_after_authoring {w : World Unit} {inbound : Inbound} {e : Envelope}
    (h_open : w.current.closed = false)
    (h_handler : w.current.handlers.find? "create-interaction" = some .author)
    (h_decodes : inbound.toEnvelope w.current.config.limits = .ok e)
    (h_type : e.type = "create-interaction") :
    ∃ reply, w.Answers inbound reply ∧
      (reply.type = "error" ∨ reply.type = "interaction-created") ∧
      (w.enrolls? e = none → reply.type = "error" ∧
        ∀ group, (∀ i, Interaction.ofJson e.data = .ok i → i.group = group ∧
            ∀ p, w.found group = .ok (some p) → ownedBy i.id p.id = false) →
          (w.advance (.message inbound)).found group = w.found group) ∧
      ∀ i, w.enrolls? e = some i → w.current.Withstands w.host i →
        (w.advance (.message inbound)).found i.group = .ok (some i) := by
  cases h_reads : Interaction.ofJson e.data with
  | error failure =>
    have h_none : w.enrolls? e = none := by simp only [enrolls?, h_reads]
    have h_refused : (do
        let _ ← Interaction.ofJson e.data
        w.current.context.acquire) = .error failure := by
      rw [h_reads]
      rfl
    obtain ⟨reply, h_answers, h_error, h_same⟩ :=
      found_after_refusal h_open h_handler h_decodes h_type h_refused
    exact ⟨reply, h_answers, .inl h_error, fun _ => ⟨h_error, fun group _ => h_same group⟩,
      fun i h_some => nomatch h_none.symm.trans h_some⟩
  | ok i =>
    have h_enrolls := enrolls?_eq (w := w) h_reads
    cases h_busy : w.current.context.busy with
    | true =>
      have h_none : w.enrolls? e = none := by simp [h_enrolls, h_busy]
      have h_refused : (do
          let _ ← Interaction.ofJson e.data
          w.current.context.acquire) = .error .busy := by
        rw [h_reads]
        exact if_pos h_busy
      obtain ⟨reply, h_answers, h_error, h_same⟩ :=
        found_after_refusal h_open h_handler h_decodes h_type h_refused
      exact ⟨reply, h_answers, .inl h_error, fun _ => ⟨h_error, fun group _ => h_same group⟩,
        fun i h_some => nomatch h_none.symm.trans h_some⟩
    | false =>
      obtain ⟨reply, h_answers, h_kind, h_failed, h_got⟩ :=
        found_after_admission h_open h_handler h_decodes h_type h_reads h_busy
      rw [h_busy, Bool.not_false, Bool.true_and] at h_enrolls
      refine ⟨reply, h_answers, h_kind, fun h_none => ?_, fun j h_some h_withstands => ?_⟩
      · obtain ⟨h_error, h_found⟩ := h_failed (by simpa [h_enrolls] using h_none)
        refine ⟨h_error, fun group h_asked => ?_⟩
        obtain ⟨rfl, h_own⟩ := h_asked i rfl
        exact h_found h_own
      · obtain ⟨h_ok, rfl⟩ : ((Authoring.enroll i).outcome w.current.enter w.host).1.isOk = true ∧
            i = j := by
          simpa [h_enrolls] using h_some
        exact h_got h_ok h_withstands

/-- **A run that fails may leave its interaction on record**: it was put there before its first
variable was to be created, which nobody can. -/
theorem failed_run_on_record :
    let w := panel.after [.notice, .failOn .createVariable none]
    let inbound := Inbound.authoring (.switchingOn "tabs" 1 [])
    (∃ reply, w.Answers inbound reply ∧ reply.type = "error") ∧
      (w.advance (.message inbound)).found "tabs" ≠ w.found "tabs" := by
  intro w inbound
  have h_open : w.current.closed = false := by decide +kernel
  have h_handler : w.current.handlers.find? "create-interaction" = some .author := by
    decide +kernel
  have h_free : w.current.context.busy = false := by decide +kernel
  have h_decodes : inbound.toEnvelope w.current.config.limits = .ok _ := rfl
  obtain ⟨h_answers, -⟩ := answers_authoring (i := .switchingOn "tabs" 1 []) h_open h_handler
    h_decodes rfl rfl h_free
  refine ⟨⟨_, h_answers, ?_⟩, fun h_same => ?_⟩
  · have h_failed : ((Authoring.carryOut (.switchingOn "tabs" 1 [])).outcome w.current.enter
        w.host).1.isOk = false := by decide +kernel
    cases h_result : ((Authoring.carryOut (.switchingOn "tabs" 1 [])).outcome w.current.enter
        w.host).1 with
    | error e => rfl
    | ok a =>
      rw [h_result] at h_failed
      cases h_failed
  · have h_before : (w.found "tabs").toOption.join.isSome = false := by decide +kernel
    have h_after : ((w.advance (.message inbound)).found "tabs").toOption.join.isSome = true := by
      decide +kernel
    rw [h_same, h_before] at h_after
    cases h_after

/-- An interaction on the tabs is replaced, and one that also drives the badge is asked for while
the badge has its own. The first run fails when the variables to be retired are looked for, and the
previous interaction is still found; the second one fails at the first variable for the badge, and
the new interaction is found. -/
theorem found_after_authoring_on_panel :
    let early := panel.after [.notice, .message (.authoring (.switchingOn "tabs" 1 [])),
      .failOn .collections (some [2])]
    let late := panel.after [.notice, .message (.authoring (.switchingOn "badges" 1 [])),
      .failOn .createVariable (some [4])]
    let i := Interaction.switchingOn "tabs" 2 ["badges"]
    (∃ reply, early.Answers (.authoring i) reply ∧ reply.type = "error") ∧
      (early.advance (.message (.authoring i))).found "tabs" = early.found "tabs" ∧
      (early.found "tabs").toOption.join.map (·.id) = some "tabs_1" ∧
      ((Authoring.carryOut i).outcome late.current.enter late.host).1.isOk = false ∧
      (late.advance (.message (.authoring i))).found "tabs" = .ok (some i) := by
  intro early late i
  have h_early : early.current.closed = false ∧
      early.current.handlers.find? "create-interaction" = some .author := by decide +kernel
  have h_late : late.current.closed = false ∧
      late.current.handlers.find? "create-interaction" = some .author := by decide +kernel
  have h_previous : (early.found "tabs").toOption.join.map (·.id) = some "tabs_1" := by
    decide +kernel
  have h_none : early.enrolls? { type := "create-interaction", data := i.toJson } = none :=
    (enrolls?_eq (i := i) rfl).trans (if_neg (by decide +kernel))
  have h_some : late.enrolls? { type := "create-interaction", data := i.toJson } = some i :=
    (enrolls?_eq (i := i) rfl).trans (if_pos (by decide +kernel))
  have h_decodes (limits : Json.Limits) : (Inbound.authoring i).toEnvelope limits = .ok _ := rfl
  obtain ⟨reply, h_answers, -, h_kept, -⟩ :=
    found_after_authoring h_early.1 h_early.2 (h_decodes _) rfl
  obtain ⟨-, -, -, -, h_new⟩ := found_after_authoring h_late.1 h_late.2 (h_decodes _) rfl
  obtain ⟨h_error, h_same⟩ := h_kept h_none
  refine ⟨⟨reply, h_answers, h_error⟩, h_same "tabs" ?_, h_previous, by decide +kernel,
    h_new i h_some (by decide +kernel)⟩
  rintro j h_reads
  obtain rfl : i = j := Except.ok.inj h_reads
  refine ⟨rfl, fun p h_found => ?_⟩
  rw [h_found] at h_previous
  have h_id : p.id = "tabs_1" := Option.some.inj h_previous
  rw [h_id]
  decide

end World

end Clickwork
