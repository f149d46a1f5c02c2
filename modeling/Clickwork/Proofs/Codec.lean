import Clickwork.Envelope
import Clickwork.Proofs.Failing

/-!
# Texts that are read back

Envelopes travel as JSON texts, and interactions are stored as JSON texts. Both are read back as
they were: an envelope with a type, whatever its payload (`Envelope.decode_text`), and an
interaction that was read from any payload, so that it is found again by whoever opens the storage
next (`Records.found_in_storage`).

For a reader without limits nothing more is asked of a value than that it holds no floats and that
the names in its objects are distinct. For a reader with limits, what was read once can be read
again: writing adds neither digits nor containers.
-/

namespace Clickwork

open Program (Ends)

/-! ### Values -/

namespace Json

/-- **A value whose objects have distinct names**, to any depth. -/
def Distinct (v : Json) : Prop :=
  v.Every (fun _ w => w.DistinctNames) 0

/-- A reader without limits admits every part of a value. -/
theorem Limits.admits_none (depth : Nat) (v : Json) : Limits.none.Admits depth v := by
  cases v with
  | int | arr | obj => exact rfl
  | null | bool | float | str => exact trivial

/-- A reader without limits can return every value whose objects have distinct names. -/
theorem Distinct.soundAt {v : Json} (h : v.Distinct) (depth : Nat) : v.SoundAt .none depth :=
  Every.outward (fun _ _ hw => ⟨hw, Limits.admits_none _ _⟩) h

/-- A reader without limits has room for a record. -/
theorem Limits.ample_none : Limits.none.Ample :=
  ⟨rfl, rfl⟩

/-- What a reader can return inside some containers is read back there if it has no floats. -/
theorem exactAt_of_soundAt {limits : Limits} {depth : Nat} {v : Json} (h_free : v.FloatFree)
    (h_sound : v.SoundAt limits depth) : v.ExactAt limits depth := by
  have h_free' : v.Every (fun _ w => w.kind ≠ .float) depth := Every.outward (fun _ _ hw => hw) h_free
  exact Every.outward (fun _ _ hw => ⟨hw.1, hw.2⟩) (h_free'.and h_sound)

/-- Without limits a machine reads what it reads within them. -/
theorem State.run_none {limits : Limits} {ls : List Placed} {s : State} {v : Json}
    (h : s.run limits ls = .ok v) : s.run .none ls = .ok v := by
  induction ls generalizing s with
  | nil =>
    unfold State.run at h ⊢
    exact h
  | cons l rest ih =>
    unfold State.run at h ⊢
    split at h
    · rename_i t h_token
      split at h
      · rename_i next h_step
        split at h
        · cases h
        · -- no token is too large for a machine without limits
          have h_small : Limits.none.overrun? s.depth t = none := by
            cases t with
            | scalar v => cases v <;> rfl
            | openArr | openObj | closeArr | closeObj | comma | colon | str => rfl
          simp only [h_small]
          exact ih h
      · cases h
    · cases h

/-- **A reader without limits reads what any reader reads.** -/
theorem read_none_of_read {limits : Limits} {text : String} {v : Json}
    (h : Json.read limits text = .ok v) : Json.read .none text = .ok v := by
  unfold Json.read at h ⊢
  dsimp only at h ⊢
  split at h
  · cases h
  · rename_i h_mark
    cases h_run : (State.value []).run limits (lexemes text.toList) with
    | error e =>
      rw [h_run] at h
      cases h
    | ok w =>
      rw [h_run] at h
      rw [State.run_none h_run]
      exact h

end Json

/-! ### Envelopes -/

namespace Envelope

variable {limits : Json.Limits} {e : Envelope}

/-- **An envelope is read from its JSON form** if it has a type. -/
theorem ofJson_toJson (h_type : e.type ≠ "") : ofJson e.toJson = .ok e := by
  obtain ⟨type, data, message⟩ := e
  have h_there : type.isEmpty = false :=
    Bool.eq_false_iff.mpr fun h_empty => h_type (String.isEmpty_iff.mp h_empty)
  -- a payload that is left out is read as the `null` it was
  have h_data : data.kind = .null → data = .null := by
    cases data with
    | null => exact fun _ => rfl
    | bool | int | float | str | arr | obj => nofun
  by_cases h_null : data.kind = .null
  · obtain rfl := h_data h_null
    cases message <;> simp [toJson, ofJson, Json.field?, Entries.find?, Json.kind, h_there]
  · cases message <;> simp [toJson, ofJson, Json.field?, Entries.find?, h_null, h_there]

/-- The JSON form of an envelope is read back if its payload is read back inside it. -/
theorem exactAt_toJson (h_room : limits.HasRoom 0) (h_data : e.data.ExactAt limits 1) :
    e.toJson.ExactAt limits 0 := by
  obtain ⟨type, data, message⟩ := e
  -- with or without a payload, with or without a message
  by_cases h_null : data.kind = .null <;> cases message <;>
    simp only [toJson, h_null, if_true, if_false] <;>
    refine ⟨⟨by simp [Json.kind], by simp [Json.DistinctNames], h_room⟩, Json.exactAt_str .., ?_⟩
  · exact trivial
  · exact ⟨Json.exactAt_str .., trivial⟩
  · exact ⟨h_data, trivial⟩
  · exact ⟨h_data, Json.exactAt_str .., trivial⟩

/-- **An envelope is decoded from its text**: it has a type, and its payload is read back inside of
it. -/
theorem decode_text (h_type : e.type ≠ "") (h_room : limits.HasRoom 0)
    (h_data : e.data.ExactAt limits 1) : decode limits (.str e.text) = .ok e := by
  have h_exact := exactAt_toJson h_room h_data
  simp only [decode, text, Json.read_text h_exact.floatFree h_exact.sound, ofJson_toJson h_type,
    Except.mapError]

/-- **What a decoded envelope is**: it has a type, and its payload is a field of the object that was
read, or `null`. -/
theorem of_ofJson {raw : Json} (h : ofJson raw = .ok e) : raw.kind = .obj ∧ e.type ≠ "" ∧
    (raw.field? "data" = some e.data ∨ e.data = .null) := by
  unfold ofJson at h
  split at h
  · split at h
    · rename_i type h_type
      split at h
      · cases h
      · rename_i h_there
        obtain rfl := Except.ok.inj h
        refine ⟨rfl, fun h_empty => h_there (String.isEmpty_iff.mpr h_empty), ?_⟩
        cases h_data : (Json.obj _).field? "data" with
        | none => exact .inr rfl
        | some data => exact .inl rfl
    · cases h
  · cases h

/-- **What was decoded from a text is decoded again** if its payload has no floats. -/
theorem decode_text_of_decode {t : String} (h : decode limits (.str t) = .ok e)
    (h_free : e.data.FloatFree) : decode limits (.str e.text) = .ok e := by
  cases h_read : Json.read limits t with
  | error flaw => cases flaw <;> simp [decode, h_read] at h
  | ok raw =>
    have h_raw : ofJson raw = .ok e := by
      simp only [decode, h_read] at h
      cases h_raw : ofJson raw with
      | error fault => simp [h_raw, Except.mapError] at h
      | ok e' => simpa [h_raw, Except.mapError] using h
    obtain ⟨h_kind, h_type, h_data⟩ := of_ofJson h_raw
    have h_sound := Json.sound_of_read h_read
    -- the object that was read left room for itself, and its parts are as deep as they will be
    have h_room : limits.HasRoom 0 := by
      have h_admits := h_sound.self.2
      cases raw with
      | obj fields => exact h_admits
      | null | bool | int | float | str | arr => cases h_kind
    have h_payload : e.data.SoundAt limits 1 := by
      rcases h_data with h_field | h_null
      · exact Json.Every.field? h_sound h_field
      · rw [h_null]
        exact ⟨trivial, trivial⟩
    exact decode_text h_type h_room (Json.exactAt_of_soundAt h_free h_payload)

/-- **Envelopes are decoded from their texts.** An envelope with a type is, whatever its message and
however deep its payload, if that holds no floats and the names in its objects are distinct; and so
is every envelope that was decoded from a text, within whichever limits, if its payload holds no
floats. -/
theorem decoded_again :
    (∀ e : Envelope, e.type ≠ "" → e.data.FloatFree → e.data.Distinct →
      decode .none (.str e.text) = .ok e) ∧
    ∀ (limits : Json.Limits) (t : String) (e : Envelope), decode limits (.str t) = .ok e →
      e.data.FloatFree → decode limits (.str e.text) = .ok e := by
  refine ⟨fun e h_type h_free h_distinct => ?_, fun limits t e h_decodes h_free => ?_⟩
  · exact decode_text h_type rfl (Json.exactAt_of_soundAt h_free (h_distinct.soundAt 1))
  · exact decode_text_of_decode h_decodes h_free

/-- A payload with names that must be escaped and an integer of many digits; and a text whose fields
stand in another order, with one that nobody reads and a message that is no text. -/
theorem decoded_again_escaped :
    let e : Envelope :=
      { type := "components-data"
        data := .obj [("\"😀\x7f", .arr [.int (-10000000000000000000000), .null, .obj []]), ("", .bool true)]
        message := some "\\\n" }
    let raw : Json := .obj [("unread", .arr []), ("message", .int 3), ("data", .arr [.str "é"]),
      ("type", .str "cleanup")]
    let e' : Envelope := { type := "cleanup", data := .arr [.str "é"] }
    decode .none (.str e.text) = .ok e ∧
      decode .standard (.str raw.text) = .ok e' ∧ decode .standard (.str e'.text) = .ok e' := by
  intro e raw e'
  have h_raw : raw.FloatFree ∧ raw.Sound .standard := by
    simp [raw, Json.FloatFree, Json.SoundAt, Json.Every, Json.EveryItem, Json.EveryField, Json.kind,
      Json.DistinctNames, Json.Limits.Admits, Json.Limits.HasRoom, Json.Limits.TakesInteger,
      Json.Limits.exceeded, Json.Limits.standard]
    decide
  have h_decodes : decode .standard (.str raw.text) = .ok e' := by
    simp only [decode, Json.read_text h_raw.1 h_raw.2]
    rfl
  refine ⟨decoded_again.1 e (by decide) ?_ ?_, h_decodes, decoded_again.2 .standard _ e' h_decodes ?_⟩
  · simp [e, Json.FloatFree, Json.Every, Json.EveryItem, Json.EveryField, Json.kind]
  · simp [e, Json.Distinct, Json.Every, Json.EveryItem, Json.EveryField, Json.DistinctNames]
  · simp [e', Json.FloatFree, Json.Every, Json.EveryItem, Json.kind]

end Envelope

/-! ### Stored interactions -/

namespace Records

variable {limits : Json.Limits} {v : Json} {x : Interaction}

/-- **An interaction that was read from a payload is read back from its text**, by every reader that
could have returned the payload. -/
theorem parse_text_of_ofJson (h_ample : limits.Ample) (h_free : v.FloatFree)
    (h_sound : v.Sound limits) (h_reads : Interaction.ofJson v = .ok x) :
    parse limits x.text = .ok x :=
  parse_text (Interaction.storable_of_ofJson h_ample (Json.exactAt_of_sound h_free h_sound) h_reads)

/-- **An interaction that is stored is found by a session that begins**, if its text reads back. -/
theorem get_stored {config : Config} {h : Host} (h_parse : parse config.limits x.text = .ok x)
    (h_stores : h.Stores)
    (h_text : h.storage.texts.find? (config.storageKey x.group) = some x.text)
    (listeners : List String) :
    (get x.group).Ends (.start config listeners) h fun r _ _ => r = .ok (some x) := by
  have h_recorded : (Session.start config listeners).recorded h x.group = .ok (some x) :=
    (Session.recorded_of_absent rfl).trans (Host.recorded_of_parse h_text h_parse)
  exact (get_recalls h_stores x.group).mono fun _ _ _ _ h_found => h_found.1.trans h_recorded

/-- **What was read from a payload is found again.** Its text reads back without limits, whatever
the sizes of its integers and the depth of what its rules carry along. On any host whose storage
works, putting it on record stores that text, and from then on every session that begins finds it,
if the configured reader could have returned the payload. -/
theorem found_in_storage (h_free : v.FloatFree) (h_distinct : v.Distinct)
    (h_reads : Interaction.ofJson v = .ok x) :
    parse .none x.text = .ok x ∧
    ∀ (s : Session) (h : Host), s.config.limits.Ample → v.Sound s.config.limits → h.Stores →
      (put x).Ends s h fun r _ h' =>
        (h.Reliable → ∀ previous, s.recorded h x.group = .ok previous → r = .ok ()) ∧
        (r = .ok () →
          h'.storage.texts.find? (s.config.storageKey x.group) = some x.text ∧
          ∀ listeners, (get x.group).Ends (.start s.config listeners) h' fun r' _ _ =>
            r' = .ok (some x)) := by
  refine ⟨parse_text_of_ofJson Json.Limits.ample_none h_free (h_distinct.soundAt 0) h_reads,
    fun s h h_ample h_sound h_stores => ?_⟩
  have h_parse := parse_text_of_ofJson h_ample h_free h_sound h_reads
  -- nothing can fail on a host that does not, but the look-up of the previous record
  have h_succeeds : (put x).Ends s h fun r _ _ =>
      h.Reliable → ∀ previous, s.recorded h x.group = .ok previous → r = .ok () := by
    intro hr previous h_previous
    rcases put_replaces hr h_stores x with ⟨e, h_error, -⟩ | ⟨_, -, h_ok, -⟩
    · cases h_previous.symm.trans h_error
    · exact h_ok
  refine (h_succeeds.and (put_gets x)).mono ?_
  rintro r s' h' h_later ⟨h_ok, h_put⟩
  refine ⟨h_ok, ?_⟩
  rintro rfl
  cases h_put with
  | kept _ _ h_stored => exact ⟨h_stored h_stores,
      get_stored h_parse (h_later.stores h_stores) (h_stored h_stores)⟩

/-- An id that is no text, rules that say little between elements that are no rules, and a target
under its other name: on the panel, what was read from it is stored and found again. -/
theorem found_in_storage_on_panel :
    let v : Json := .obj [("id", .int 7), ("component", .str "tabs"),
      ("primaryAction", .str "State=On"),
      ("conditionalRules", .arr [.str "passed over",
        .obj [("id", .str " 1_0 "), ("condition", .bool false),
          ("targetComponent", .arr [.null, .obj []])],
        .obj [("targetComponent", .null)]]),
      ("nestedActions", .arr [.obj [("componentId", .str "😀")]])]
    let x : Interaction :=
      { id := "7"
        group := "tabs"
        primaryAction := "State=On"
        rules :=
          [{ id := 10, condition := "", action := "", target := some (.arr [.null, .obj []]) },
            { id := 0, condition := "", action := "" }]
        nestedActions := [⟨"😀", ""⟩] }
    Interaction.ofJson v = .ok x ∧ parse .none x.text = .ok x ∧
      (put x).Ends World.panel.current World.panel.host fun r _ h' => r = .ok () ∧
        (get "tabs").Ends (.start {} []) h' fun r' _ _ => r' = .ok (some x) := by
  intro v x
  have h_reads : Interaction.ofJson v = .ok x := rfl
  have h_free : v.FloatFree := by
    simp [v, Json.FloatFree, Json.Every, Json.EveryItem, Json.EveryField, Json.kind]
  have h_distinct : v.Distinct := by
    simp [v, Json.Distinct, Json.Every, Json.EveryItem, Json.EveryField, Json.DistinctNames]
  have h_sound : v.Sound .standard := by
    simp [v, Json.SoundAt, Json.Every, Json.EveryItem, Json.EveryField, Json.DistinctNames,
      Json.Limits.Admits, Json.Limits.HasRoom, Json.Limits.TakesInteger, Json.Limits.exceeded,
      Json.Limits.standard]
    decide
  obtain ⟨h_parse, h_found⟩ := found_in_storage h_free h_distinct h_reads
  refine ⟨h_reads, h_parse, ?_⟩
  refine (h_found World.panel.current World.panel.host Json.Limits.ample_standard h_sound
    World.stores_panel).mono ?_
  rintro r s' h' - ⟨h_ok, h_stored⟩
  have h_put := h_ok World.sound_panel.reliable none rfl
  exact ⟨h_put, (h_stored h_put).2 []⟩

end Records

end Clickwork
