import Clickwork.Config
import Clickwork.Proofs.Later

/-!
# Calls to the client storage

A call to the storage never touches the scene, and concerns the text under one key. Whether it has
its effect depends on the arranged failures; on a host whose storage works (`Host.Stores`) it always
has.

Whether a deletion works depends on its number (`Host.deletes`), and what is left of the host on the
texts that are gone (`Host.deleting`). `Host.Forgets` is what becomes of the stored texts when the records of groups are dropped: other
texts are kept, and those of the groups are gone if the storage works.
-/

namespace Clickwork

namespace Host

/-- **The storage works**: it is available, and no failure is arranged for its calls. -/
structure Stores (h : Host) : Prop where
  available : h.storage.unavailable = false
  spares : ∀ method : Method, method.isStorage = true → h.Spares method

theorem Later.stores {h h' : Host} (h_later : h.Later h') (hs : h.Stores) : h'.Stores where
  available := h_later.unavailable.trans hs.available
  spares := fun method h_storage => h_later.spares method (hs.spares method h_storage)

theorem scene_answer_of_storage (h : Host) {c : Call} (hc : c.method.isStorage = true) :
    (h.answer c).2.scene = h.scene := by
  cases c <;> simp only [Call.method, Method.isStorage, Bool.false_eq_true] at hc
  · rfl
  all_goals
    simp only [answer, store]
    split <;> rfl

theorem scene_perform_of_storage (h : Host) {c : Call} (hc : c.method.isStorage = true) :
    (h.perform c).2.scene = h.scene := by
  obtain ⟨faults, -, h_eq | ⟨e, h_eq⟩⟩ := h.perform_cases c <;> rw [h_eq]
  exact h.scene_answer_of_storage hc

/-- Reading a text changes nothing. -/
theorem storage_perform_storageGet (h : Host) (key : String) :
    (h.perform (.storageGet key)).2.storage = h.storage := by
  obtain ⟨faults, -, h_eq | ⟨e, h_eq⟩⟩ := h.perform_cases (.storageGet key) <;> rw [h_eq]
  rfl

theorem perform_storageGet {h : Host} (hs : h.Stores) (key : String) :
    (h.perform (.storageGet key)).1 = .ok (h.storage.texts.find? key) := by
  rw [perform_of_spares (hs.spares .storageGet rfl)]
  simp only [answer, Storage.get, Storage.whenAvailable, hs.available, Bool.false_eq_true, if_false]

/-- A text that was read is there. -/
theorem find?_of_perform_storageGet {h : Host} {key : String} {text : Option String}
    (h_ok : (h.perform (.storageGet key)).1 = .ok text) : h.storage.texts.find? key = text := by
  obtain ⟨faults, -, h_eq | ⟨e, h_eq⟩⟩ := h.perform_cases (.storageGet key) <;> rw [h_eq] at h_ok
  · simp only [answer, Storage.get, Storage.whenAvailable] at h_ok
    split at h_ok
    · cases h_ok
    · exact Except.ok.inj h_ok
  · cases h_ok

/-- Storing a text leaves the texts under other keys alone. -/
theorem find?_perform_storageSet_of_ne (h : Host) {key key' : String} (text : String)
    (h_ne : key' ≠ key) : (h.perform (.storageSet key text)).2.storage.texts.find? key' =
      h.storage.texts.find? key' := by
  obtain ⟨faults, -, h_eq | ⟨e, h_eq⟩⟩ := h.perform_cases (.storageSet key text) <;> rw [h_eq]
  simp only [answer, Storage.set, Storage.whenAvailable]
  split
  · rfl
  · exact Registry.find?_insert_of_ne _ _ h_ne.symm

/-- **Storing a text.** -/
theorem texts_perform_storageSet {h : Host} (hs : h.Stores) (key text : String) :
    (h.perform (.storageSet key text)).2.storage.texts = h.storage.texts.insert key text := by
  rw [perform_of_spares (hs.spares .storageSet rfl)]
  simp only [answer, Storage.set, Storage.whenAvailable, hs.available, Bool.false_eq_true,
    if_false, store]

theorem find?_perform_storageSet {h : Host} (hs : h.Stores) (key text : String) :
    (h.perform (.storageSet key text)).2.storage.texts.find? key = some text := by
  rw [texts_perform_storageSet hs, Registry.find?_insert_self]

/-! ### Deletions -/

theorem answer_storageDelete (h : Host) (key : String) :
    h.answer (.storageDelete key) =
      if h.storage.unavailable = true then (.error (.host .storageUnavailable), h)
      else (.ok (), { h with
        storage := { h.storage with texts := h.storage.texts.erase key } }) := by
  simp only [answer, Storage.delete, Storage.whenAvailable]
  split <;> rfl

/-- **Whether a text will be deleted**, if its deletion is the one with the given number from now
on. -/
def deletes (h : Host) (number : Nat) : Bool :=
  !h.storage.unavailable && !h.strikes .storageDelete number

/-- **The host after some deletions**, with the keys under which texts were deleted. -/
def deleting (h : Host) (gone : List String) (calls : Nat) : Host :=
  { h.counting .storageDelete calls with
    storage := { h.storage with
      texts := h.storage.texts.filter fun key _ => decide (key ∉ gone) } }

theorem Stores.deletes {h : Host} (hs : h.Stores) (number : Nat) : h.deletes number = true := by
  rw [Host.deletes, hs.available, strikes_of_spares (hs.spares .storageDelete rfl)]
  rfl

theorem Stores.deleting {h : Host} (hs : h.Stores) (gone : List String) (calls : Nat) :
    (h.deleting gone calls).Stores where
  available := hs.available
  spares := fun method h_storage =>
    (h.spares_counting .storageDelete calls method).mpr (hs.spares method h_storage)

/-- A deletion that fails is counted, and no more. -/
theorem deleting_nil (h : Host) (calls : Nat) :
    h.deleting [] calls = h.counting .storageDelete calls := by
  rw [deleting, Registry.filter_eq_self fun _ _ => by simp]
  rfl

theorem deleting_deleting (h : Host) (gone gone' : List String) (calls calls' : Nat) :
    (h.deleting gone calls).deleting gone' calls' =
      h.deleting (gone ++ gone') (calls + calls') := by
  have h_counted := congrArg faults (h.counting_counting .storageDelete calls calls')
  have h_counted' : ((h.deleting gone calls).counting .storageDelete calls').faults =
      (h.counting .storageDelete (calls + calls')).faults := h_counted
  simp only [deleting, Registry.filter_filter, List.mem_append, not_or, Bool.decide_and,
    mk.injEq, true_and]
  exact ⟨rfl, h_counted'⟩

theorem deletes_deleting (h : Host) (gone : List String) (calls number : Nat) :
    (h.deleting gone calls).deletes number = h.deletes (calls + number) := by
  rw [deletes, deletes, ← h.strikes_counting .storageDelete calls number]
  rfl

/-- **A deletion** does what it is to do, or fails and changes nothing. -/
theorem perform_storageDelete (h : Host) (key : String) :
    h.deletes 1 = true ∧ h.perform (.storageDelete key) = (.ok (), h.deleting [key] 1) ∨
      h.deletes 1 = false ∧
        ∃ e, h.perform (.storageDelete key) = (.error e, h.deleting [] 1) := by
  obtain ⟨e, h_perform⟩ := h.perform_eq (.storageDelete key)
  rw [h_perform, Call.method, deleting_nil, deletes]
  by_cases h_strikes : h.strikes .storageDelete 1 = true
  · rw [if_pos h_strikes, h_strikes, Bool.not_true, Bool.and_false]
    exact Or.inr ⟨rfl, e, rfl⟩
  rw [if_neg h_strikes, eq_false_of_ne_true h_strikes, answer_storageDelete]
  by_cases h_gone : h.storage.unavailable = true
  · rw [if_pos (show (h.counting .storageDelete 1).storage.unavailable = true from h_gone), h_gone]
    exact Or.inr ⟨rfl, _, rfl⟩
  · rw [if_neg (show ¬(h.counting .storageDelete 1).storage.unavailable = true from h_gone),
      eq_false_of_ne_true h_gone, deleting]
    simp only [List.mem_singleton]
    exact Or.inl ⟨rfl, rfl⟩

theorem find?_deleting (h : Host) (gone : List String) (calls : Nat) (key : String) :
    (h.deleting gone calls).storage.texts.find? key =
      if key ∈ gone then none else h.storage.texts.find? key := by
  rw [deleting, Registry.find?_filter]
  by_cases h_gone : key ∈ gone
  · rw [if_pos h_gone]
    exact Option.filter_eq_none_iff.mpr fun _ _ => by simp [h_gone]
  · rw [if_neg h_gone]
    cases h.storage.texts.find? key <;> simp [h_gone]

theorem find?_perform_storageDelete_of_ne (h : Host) {key key' : String} (h_ne : key' ≠ key) :
    (h.perform (.storageDelete key)).2.storage.texts.find? key' =
      h.storage.texts.find? key' := by
  rcases h.perform_storageDelete key with ⟨-, h_eq⟩ | ⟨-, e, h_eq⟩ <;> rw [h_eq, find?_deleting]
  · rw [if_neg (by simpa using h_ne)]
  · rw [if_neg List.not_mem_nil]

/-- **Deleting a text.** -/
theorem texts_perform_storageDelete {h : Host} (hs : h.Stores) (key : String) :
    (h.perform (.storageDelete key)).2.storage.texts = h.storage.texts.erase key := by
  rcases h.perform_storageDelete key with ⟨-, h_eq⟩ | ⟨h_fails, -⟩
  · simp only [h_eq, deleting, List.mem_singleton]
    rfl
  · cases h_fails.symm.trans (hs.deletes 1)

/-! ### Dropped records -/

/-- **What becomes of the stored texts** when the records of groups are dropped. -/
structure Forgets (config : Config) (dropped : String → Prop) (h h' : Host) : Prop where
  kept : ∀ key, (∀ group, dropped group → key ≠ config.storageKey group) →
    h'.storage.texts.find? key = h.storage.texts.find? key
  gone : h.Stores → ∀ group, dropped group →
    h'.storage.texts.find? (config.storageKey group) = none

theorem Forgets.refl (config : Config) (h : Host) : Forgets config (fun _ => False) h h where
  kept := fun _ _ => rfl
  gone := fun _ _ h_false => h_false.elim

theorem Forgets.trans {config : Config} {dropped dropped' : String → Prop} {h₁ h₂ h₃ : Host}
    (h : Forgets config dropped h₁ h₂) (h_later : h₁.Later h₂)
    (h' : Forgets config dropped' h₂ h₃) :
    Forgets config (fun group => dropped group ∨ dropped' group) h₁ h₃ where
  kept := by
    intro key h_key
    rw [h'.kept key fun group hg => h_key group (Or.inr hg)]
    exact h.kept key fun group hg => h_key group (Or.inl hg)
  gone := by
    intro hs group h_group
    -- a text that the first part removed may be removed again, but does not come back
    by_cases h_again : ∃ group', dropped' group' ∧
        config.storageKey group = config.storageKey group'
    · obtain ⟨group', h_group', h_key⟩ := h_again
      rw [h_key]
      exact h'.gone (h_later.stores hs) group' h_group'
    · rcases h_group with h_first | h_second
      · rw [h'.kept _ fun group' h_group' h_key => h_again ⟨group', h_group', h_key⟩]
        exact h.gone hs group h_first
      · exact (h_again ⟨group, h_second, rfl⟩).elim

/-- Texts of the groups are deleted, all of them if the storage works. -/
theorem Forgets.of_deleting {config : Config} {h : Host} {groups gone : List String}
    (h_sub : gone.Sublist (groups.map config.storageKey))
    (h_all : h.Stores → gone = groups.map config.storageKey) (calls : Nat) :
    Forgets config (· ∈ groups) h (h.deleting gone calls) where
  kept := by
    intro key h_key
    rw [find?_deleting, if_neg]
    intro h_gone
    obtain ⟨group, h_group, h_eq⟩ := List.mem_map.mp (h_sub.subset h_gone)
    exact h_key group h_group h_eq.symm
  gone := by
    intro hs group h_group
    rw [find?_deleting, if_pos]
    exact h_all hs ▸ List.mem_map_of_mem h_group

theorem Forgets.congr {config : Config} {dropped dropped' : String → Prop} {h h' : Host}
    (hf : Forgets config dropped h h') (h_iff : ∀ group, dropped group ↔ dropped' group) :
    Forgets config dropped' h h' := by
  have h_eq : dropped = dropped' := funext fun group => propext (h_iff group)
  rwa [← h_eq]

end Host

/-- Different groups have different keys. -/
theorem Config.storageKey_injective (c : Config) {group group' : String}
    (h : c.storageKey group = c.storageKey group') : group = group' := by
  -- the keys differ in what follows the common prefix
  have h_list := congrArg String.toList h
  simp only [Config.storageKey, String.toList_append] at h_list
  exact String.toList_inj.mp (List.append_cancel_left h_list)

end Clickwork
