import SeriesFilter.Proofs.Portable.Reading

/-!
# How deep a stored filter nests

A group at some level stands within two brackets for each level above it, its own and that of the
list it is in, and its statements stand two brackets deeper. So the nesting of the value that
writes a filter says how deep its groups go, and where the deepest statements stand.
-/

namespace SeriesFilter.Portable

open Json

/-- A list that is left out when empty fits when each of its items fits one bracket deeper. -/
theorem memberNesting_listMember_le_iff (key : String) (items : List Value) (n : Nat) :
    Value.memberNesting (listMember key items) ≤ n ↔ ∀ v ∈ items, v.nesting < n := by
  cases items with
  | nil => simp [listMember, Value.memberNesting]
  | cons item rest =>
    change max (Value.itemNesting (item :: rest) + 1) 0 ≤ n ↔ _
    rw [Nat.max_zero]
    cases n with
    | zero =>
      refine iff_of_false (Nat.not_succ_le_zero _) fun h ↦ ?_
      exact Nat.not_lt_zero _ (h item List.mem_cons_self)
    | succ n =>
      rw [Nat.add_le_add_iff_right, Value.itemNesting_le_iff]
      simp only [Nat.lt_succ_iff]

/-- A value that is left out when missing fits when it is missing or fits. -/
theorem memberNesting_optionMember_le_iff (key : String) (value : Option Value) (n : Nat) :
    Value.memberNesting (optionMember key value) ≤ n ↔ ∀ v, value = some v → v.nesting ≤ n := by
  cases value with
  | none => simp [optionMember, Value.memberNesting]
  | some v => simp [optionMember, Value.memberNesting]

/-- A group is written in brackets of its own. -/
theorem nesting_ofGroup_pos (g : SeriesFilter.Group) : 0 < (Group.ofGroup g).toJson.nesting := by
  obtain ⟨statements, and, or⟩ := g
  rw [Group.ofGroup, Group.toJson, Value.nesting]
  exact Nat.succ_pos _

/-- A stored group nests within a bound when its statements and its children do, two brackets
further in. -/
theorem Group.nesting_toJson_le_iff (statements : List Statement) (and or : List Group) (n : Nat) :
    (toJson ⟨statements, and, or⟩).nesting ≤ n + 1 ↔
      (∀ s ∈ statements, s.toJson.nesting < n) ∧ (∀ g ∈ and, g.toJson.nesting < n) ∧
        ∀ g ∈ or, g.toJson.nesting < n := by
  rw [toJson, Value.nesting, Nat.add_le_add_iff_right, Value.memberNesting_append,
    Value.memberNesting_append, Nat.max_le, Nat.max_le, memberNesting_listMember_le_iff,
    memberNesting_listMember_le_iff, memberNesting_listMember_le_iff, listToJson_eq_map,
    listToJson_eq_map, List.forall_mem_map, List.forall_mem_map, List.forall_mem_map, and_assoc]

/-- A stored statement is written in brackets of its own. -/
theorem Statement.nesting_toJson (s : Statement) : s.toJson.nesting = 1 := rfl

private theorem forall_children_iff (gs : List SeriesFilter.Group) (n : Nat) :
    (∀ g ∈ Group.ofGroups gs, g.toJson.nesting < n) ↔
      ∀ child ∈ gs, (Group.ofGroup child).toJson.nesting ≤ n - 1 := by
  rw [Group.ofGroups_eq_map, List.forall_mem_map]
  constructor <;> intro h child hc <;> have := h child hc <;>
    have := nesting_ofGroup_pos child <;> omega

private theorem forall_statements_iff (ss : List SeriesFilter.Statement) (n : Nat) :
    (∀ s ∈ ss.map Statement.ofStatement, s.toJson.nesting < n) ↔ (ss ≠ [] → 2 ≤ n) := by
  simp only [List.forall_mem_map, Statement.nesting_toJson]
  constructor
  · intro h hn
    obtain ⟨s, hs⟩ := List.exists_mem_of_ne_nil _ hn
    exact h s hs
  · intro h s hs
    exact h (List.ne_nil_of_mem hs)

/-- A group nests as deep as its statements and its children make it. -/
private theorem nesting_group_le_iff (statements : List SeriesFilter.Statement)
    (and or : List SeriesFilter.Group) (n : Nat) :
    (Group.ofGroup ⟨statements, and, or⟩).toJson.nesting ≤ n ↔
      1 ≤ n ∧ (statements ≠ [] → 3 ≤ n) ∧
      (∀ child ∈ and, (Group.ofGroup child).toJson.nesting ≤ n - 2) ∧
      ∀ child ∈ or, (Group.ofGroup child).toJson.nesting ≤ n - 2 := by
  cases n with
  | zero =>
    have := nesting_ofGroup_pos ⟨statements, and, or⟩
    omega
  | succ n =>
    rw [Group.ofGroup, Group.nesting_toJson_le_iff, forall_statements_iff, forall_children_iff,
      forall_children_iff, Nat.add_sub_add_right n 1 1]
    have h₁ : 1 ≤ n + 1 := Nat.le_add_left 1 n
    have h₂ : 2 ≤ n ↔ 3 ≤ n + 1 := by omega
    simp only [h₁, h₂, true_and]

/-- What a bound on the children of a group says of the groups that paths lead to through them. -/
private theorem forall_through_iff {gs : List SeriesFilter.Group}
    (h : ∀ g ∈ gs, ∀ n, (Group.ofGroup g).toJson.nesting ≤ n ↔
      ∀ path inner, g.at? path = some inner →
        2 * path.length + 1 ≤ n ∧ (inner.statements ≠ [] → 2 * path.length + 3 ≤ n))
    (step : Nat → Step) (n : Nat) :
    (∀ child ∈ gs, (Group.ofGroup child).toJson.nesting ≤ n - 2) ↔
      ∀ i child, gs[i]? = some child → ∀ path inner, child.at? path = some inner →
        2 * (step i :: path).length + 1 ≤ n ∧
          (inner.statements ≠ [] → 2 * (step i :: path).length + 3 ≤ n) := by
  constructor
  · intro hc i child hi path inner hp
    have hm := List.mem_of_getElem? hi
    obtain ⟨hl, hs⟩ := (h child hm (n - 2)).mp (hc child hm) path inner hp
    rw [List.length_cons]
    exact ⟨by omega, fun hn ↦ by have := hs hn; omega⟩
  · intro hp child hm
    obtain ⟨i, hi⟩ := List.mem_iff_getElem?.mp hm
    refine (h child hm (n - 2)).mpr fun path inner hc ↦ ?_
    obtain ⟨hl, hs⟩ := hp i child hi path inner hc
    rw [List.length_cons] at hl hs
    exact ⟨by omega, fun hn ↦ by have := hs hn; omega⟩

/-- A group nests within a bound exactly when no group below it stands too deep, and none with
statements of its own stands where only a group without them has room. -/
theorem nesting_ofGroup_le_iff (g : SeriesFilter.Group) (n : Nat) :
    (Group.ofGroup g).toJson.nesting ≤ n ↔ ∀ path inner, g.at? path = some inner →
      2 * path.length + 1 ≤ n ∧ (inner.statements ≠ [] → 2 * path.length + 3 ≤ n) := by
  induction g generalizing n with
  | mk statements and or hand hor =>
    rw [nesting_group_le_iff, SeriesFilter.Group.forall_at?_iff, and_assoc,
      forall_through_iff hand Step.and, forall_through_iff hor Step.or]
    rfl

/-- The document of a filter always has room for its flat statements and its order. -/
theorem nesting_ofFilter_le_iff (f : Filter) {n : Nat} (h : 3 ≤ n) :
    (Document.ofFilter f).toJson.nesting ≤ n ↔
      ∀ g, f.group = some g → (Group.ofGroup g).toJson.nesting ≤ n - 1 := by
  have hn : n = n - 1 + 1 := by omega
  rw [Document.toJson, Value.nesting, hn, Nat.add_le_add_iff_right]
  simp only [Value.memberNesting_append, Nat.max_le, memberNesting_listMember_le_iff,
    memberNesting_optionMember_le_iff]
  constructor
  · rintro ⟨-, hg⟩ g hf
    exact hg _ (by rw [Document.ofFilter, hf]; rfl)
  · intro hg
    refine ⟨⟨⟨⟨⟨?_, ?_⟩, ?_⟩, ?_⟩, ?_⟩, ?_⟩
    · rintro v hv
      obtain ⟨s, -, rfl⟩ := Option.map_eq_some_iff.mp hv
      exact Nat.zero_le _
    · intro v hv
      obtain ⟨s, -, rfl⟩ := List.mem_map.mp hv
      change 1 < n - 1
      omega
    · exact Nat.zero_le _
    · intro v hv
      obtain ⟨s, -, rfl⟩ := Option.map_eq_some_iff.mp hv
      change 1 ≤ n - 1
      omega
    · intro v hv
      split at hv
      · cases hv
      · cases hv
        exact Nat.zero_le _
    · intro v hv
      obtain ⟨d, hd, rfl⟩ := Option.map_eq_some_iff.mp hv
      obtain ⟨g, hf, rfl⟩ := Option.map_eq_some_iff.mp hd
      exact hg g hf

end SeriesFilter.Portable
