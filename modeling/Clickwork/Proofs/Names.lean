import Clickwork.Proofs.Outcome
import Clickwork.Session.Records
import Clickwork.Wiring

/-!
# Names and ids

What belongs to an interaction begins with its id and an underscore (`Records.ownedBy_iff`), and so
do the names of its variables (`Wiring.Names`).

A name is told apart by its pieces between underscores. Group ids without underscores, integers and
the word that makes an id nested are one piece each, and after the id in the name of a variable
comes a piece that is none of these. So what belongs to an interaction made for one group is a
variable of an interaction made for another only if the latter is nested in the former
(`Interaction.MadeFor.apart`).
-/

namespace Clickwork

/-! ### Belonging -/

/-- What belongs to an interaction begins with its id and an underscore. -/
theorem Records.ownedBy_iff {interaction name : String} :
    Records.ownedBy interaction name = true ↔
      ∃ rest, name.toList = interaction.toList ++ '_' :: rest := by
  rw [Records.ownedBy, List.isPrefixOf_iff_prefix, Interaction.ownPrefix, String.toList_append]
  constructor
  · rintro ⟨rest, h_eq⟩
    exact ⟨rest, by rw [← h_eq, List.append_assoc]; rfl⟩
  · rintro ⟨rest, h_eq⟩
    exact ⟨rest, by rw [h_eq, List.append_assoc]; rfl⟩

/-- What belongs to something that belongs to an interaction belongs to the interaction. -/
theorem Records.ownedBy_trans {interaction interaction' name : String}
    (h : Records.ownedBy interaction interaction' = true)
    (h' : Records.ownedBy interaction' name = true) : Records.ownedBy interaction name = true := by
  obtain ⟨rest, h_eq⟩ := Records.ownedBy_iff.mp h
  obtain ⟨rest', h_eq'⟩ := Records.ownedBy_iff.mp h'
  rw [Records.ownedBy_iff]
  exact ⟨rest ++ '_' :: rest', by rw [h_eq', h_eq, List.append_assoc]; rfl⟩

/-- What belongs to an interaction is longer than its id. -/
theorem Records.length_lt_of_ownedBy {interaction name : String}
    (h : Records.ownedBy interaction name = true) :
    interaction.toList.length < name.toList.length := by
  obtain ⟨rest, h_eq⟩ := Records.ownedBy_iff.mp h
  rw [h_eq, List.length_append, List.length_cons]
  omega

/-- No interaction belongs to itself. -/
theorem Records.ownedBy_self (interaction : String) :
    Records.ownedBy interaction interaction = false :=
  Bool.eq_false_iff.mpr fun h_owned => Nat.lt_irrefl _ (length_lt_of_ownedBy h_owned)

/-! ### The variables of an interaction -/

namespace Wiring

/-- **The names of the variables of an interaction.** -/
def Names (i : Interaction) (name : String) : Prop :=
  name ∈ markerNames i ∨ ∃ index property, name = variableName i.id index property

/-- What follows the id of an interaction in the name of one of its variables, after an underscore:
what kind of variable it is, and what tells it from others of the kind. -/
theorem Names.eq_append {i : Interaction} {name : String} (h : Names i name) :
    ∃ kind rest : List Char, name.toList = i.id.toList ++ '_' :: (kind ++ rest) ∧
      kind ∈ ["primary".toList, "conditional".toList, "instance".toList] ∧
      (rest = [] ∨ ∃ more, rest = '_' :: more) := by
  have h_text : ∀ text : String, toString text = text := fun _ => rfl
  rcases h with h_marker | ⟨index, property, rfl⟩
  · rcases List.mem_cons.mp h_marker with rfl | h_mem
    · exact ⟨"primary".toList, [], by simp [h_text], by simp, Or.inl rfl⟩
    · obtain ⟨n, -, rfl⟩ := List.mem_map.mp h_mem
      exact ⟨"conditional".toList, '_' :: (toString n).toList, by simp [h_text], by simp,
        Or.inr ⟨_, rfl⟩⟩
  · exact ⟨"instance".toList, '_' :: ((toString index).toList ++ '_' :: property.toList),
      by simp [variableName, h_text], by simp, Or.inr ⟨_, rfl⟩⟩

/-- A variable of an interaction belongs to it. -/
theorem Names.ownedBy {i : Interaction} {name : String} (h : Names i name) :
    Records.ownedBy i.id name = true := by
  obtain ⟨kind, rest, h_eq, -⟩ := h.eq_append
  exact Records.ownedBy_iff.mpr ⟨kind ++ rest, h_eq⟩

end Wiring

/-! ### Pieces -/

namespace Interaction

/-- The pieces of a text between its underscores. -/
def pieces (text : List Char) : List (List Char) :=
  text.splitOn '_'

theorem pieces_append (text rest : List Char) :
    pieces (text ++ '_' :: rest) = pieces text ++ pieces rest :=
  List.splitOn_append_cons_self _ _

theorem pieces_of_not_mem {text : List Char} (h : '_' ∉ text) : pieces text = [text] :=
  List.splitOn_eq_singleton h

/-- An integer is one piece. -/
theorem underscore_not_mem_toString (t : Int) : '_' ∉ (toString t).toList := by
  rw [Int.toString_eq_repr, Int.repr_eq_if]
  split
  · simp [Nat.repr]
  · simp [Nat.repr]

/-- The name of a variable has more pieces than the id, and the first of them tells the kind. -/
theorem pieces_names {i : Interaction} {name : String} (h : Wiring.Names i name) :
    ∃ kind rest, pieces name.toList = pieces i.id.toList ++ kind :: rest ∧
      kind ≠ "nested".toList := by
  obtain ⟨kind, rest, h_eq, h_kind, h_rest⟩ := h.eq_append
  have h_piece : '_' ∉ kind ∧ kind ≠ "nested".toList := by
    simp only [List.mem_cons, List.not_mem_nil, or_false] at h_kind
    rcases h_kind with rfl | rfl | rfl <;> decide
  rw [h_eq, pieces_append]
  -- the kind ends the name, or is followed by an underscore
  rcases h_rest with rfl | ⟨more, rfl⟩
  · exact ⟨kind, [], by rw [List.append_nil, pieces_of_not_mem h_piece.1], h_piece.2⟩
  · refine ⟨kind, pieces more, ?_, h_piece.2⟩
    rw [pieces_append, pieces_of_not_mem h_piece.1, List.singleton_append]

/-! ### Ids made for groups -/

/-- **An id made for a group**: that of an interaction authored on the group at some time, or of one
nested in an interaction authored on another group. -/
inductive MadeFor (group : String) : String → Prop where
  | authored (t : Int) : MadeFor group (freshId group (.int t))
  | nested (parent : String) (t : Int) (h_parent : '_' ∉ parent.toList) :
      MadeFor group s!"{freshId parent (.int t)}_nested_{group}"

theorem toList_freshId (group : String) (t : Int) :
    (freshId group (.int t)).toList = group.toList ++ '_' :: (toString t).toList := by
  have h_text : ∀ text : String, toString text = text := fun _ => rfl
  simp [freshId, Json.plain, Json.literal, h_text]

theorem toList_nested (parent group : String) :
    s!"{parent}_nested_{group}".toList =
      parent.toList ++ '_' :: ("nested".toList ++ '_' :: group.toList) := by
  have h_text : ∀ text : String, toString text = text := fun _ => rfl
  simp [h_text]

/-- An interaction belongs to none that is nested in it. -/
theorem ownedBy_nested (i : Interaction) (a : NestedAction) :
    Records.ownedBy (i.nested a).id i.id = false := by
  refine Bool.eq_false_iff.mpr fun h_owned => ?_
  have h_lt := Records.length_lt_of_ownedBy h_owned
  rw [nested, toList_nested, List.length_append] at h_lt
  omega

theorem pieces_freshId {group : String} (h_group : '_' ∉ group.toList) (t : Int) :
    pieces (freshId group (.int t)).toList = [group.toList, (toString t).toList] := by
  rw [toList_freshId, pieces_append, pieces_of_not_mem h_group,
    pieces_of_not_mem (underscore_not_mem_toString t)]
  rfl

theorem pieces_nested {group : String} (h_group : '_' ∉ group.toList) (parent : String) :
    pieces s!"{parent}_nested_{group}".toList =
      pieces parent.toList ++ ["nested".toList, group.toList] := by
  rw [toList_nested, pieces_append, pieces_append, pieces_of_not_mem h_group,
    pieces_of_not_mem (by decide : '_' ∉ "nested".toList)]
  rfl

/-- **Interactions made for different groups do not share what belongs to them**, unless one is
nested in the other: if a variable of `r` belongs to the interaction with the given id, then so does
`r` itself. -/
theorem MadeFor.apart {group group' id name : String} {r : Interaction}
    (h_made : MadeFor group r.id) (h_made' : MadeFor group' id) (h_other : group ≠ group')
    (h_group : '_' ∉ group.toList) (h_group' : '_' ∉ group'.toList) (h_name : Wiring.Names r name)
    (h_owned : Records.ownedBy id name = true) : Records.ownedBy id r.id = true := by
  -- the pieces of the name begin with those of both ids; after those of `r` comes the kind
  obtain ⟨kind, more, h_pieces, h_kind⟩ := pieces_names h_name
  obtain ⟨rest, h_eq⟩ := Records.ownedBy_iff.mp h_owned
  rw [h_eq, pieces_append] at h_pieces
  have h_ne : group.toList ≠ group'.toList := fun h => h_other (String.toList_inj.mp h)
  obtain ⟨id', h_id⟩ : ∃ id', id' = r.id := ⟨_, rfl⟩
  rw [← h_id] at h_made h_pieces ⊢
  cases h_made with
  | authored t =>
    rw [pieces_freshId h_group] at h_pieces
    cases h_made' with
    | authored t' =>
      -- the first piece of the name would be both groups
      rw [pieces_freshId h_group', List.cons_append, List.cons_append] at h_pieces
      exact (h_ne (List.cons.inj h_pieces).1.symm).elim
    | nested parent t' h_parent =>
      -- the third piece of the name would be both its kind and the word that makes an id nested
      rw [pieces_nested h_group', pieces_freshId h_parent] at h_pieces
      simp only [List.cons_append, List.nil_append, List.cons.injEq] at h_pieces
      exact (h_kind h_pieces.2.2.1.symm).elim
  | nested parent t h_parent =>
    rw [pieces_nested h_group, pieces_freshId h_parent] at h_pieces
    cases h_made' with
    | authored t' =>
      -- `r` is nested in the other interaction
      rw [pieces_freshId h_group'] at h_pieces
      simp only [List.cons_append, List.nil_append, List.cons.injEq] at h_pieces
      obtain ⟨h_first, h_second, -⟩ := h_pieces
      rw [Records.ownedBy_iff, toList_nested, toList_freshId, toList_freshId, h_first, h_second]
      exact ⟨_, rfl⟩
    | nested parent' t' h_parent' =>
      -- the fourth piece of the name would be both groups
      rw [pieces_nested h_group', pieces_freshId h_parent'] at h_pieces
      simp only [List.cons_append, List.nil_append, List.cons.injEq] at h_pieces
      exact (h_ne h_pieces.2.2.2.1.symm).elim

end Interaction

end Clickwork
