import SeriesFilter.Proofs.Compile.Meaning
import SeriesFilter.Proofs.Condition.Shapes

/-!
# Filtering for a member

The literal of a collection field stands for its tokens, the members of a series for themselves. A
member that is a token is found by its own text. Any other is taken for what its text is cut into:
it is found when one of those parts is a member as well, and some series that have it are missed.
-/

namespace SeriesFilter

open Calendar Text

/-- The operators that test whether one of the tokens is a member, or none. -/
def Comparison.ofMembership : List Comparison :=
  [.contains, .notContains]

/-- The operators that test the tokens of a literal against members. -/
def Comparison.ofTokens : List Comparison :=
  [.contains, .mustContains, .notContains]

/-- The members that a series has for a field. -/
def Series.membersOf (r : Series) (field : Field) : List String :=
  match r.value? field with
  | some (.members all) => all
  | _ => []

/-- A text finds a series under a collection field: statements with it and the operators on
membership have conditions, the series passes the one and does not pass the other. -/
structure Series.IsFoundBy (now : Instant) (field : Field) (m : String) (r : Series) : Prop where
  compiled : ∀ c ∈ Comparison.ofMembership, Statement.IsCompiled now ⟨field, c, m⟩
  contains : Statement.holds now r ⟨field, .contains, m⟩ = true
  notContains : Statement.holds now r ⟨field, .notContains, m⟩ = false

section Members

variable {field : Field} (hk : field.kind = .collection)
include hk

/-- The value of a collection field is its members. -/
theorem Series.value?_of_collection (r : Series) :
    r.value? field = some (.members (r.membersOf field)) := by
  cases field with
  | publicationStatus | ageRating | wantToRead => cases hk
  | _ => first | rfl | cases hk

section Tokens

variable {c : Comparison} (hc : c ∈ Comparison.ofTokens) (now : Instant) (m : String)
include hc

/-- The operators on tokens apply to all collection fields. -/
theorem Field.allows_ofTokens : field.allows c = true := by
  have hf : field.isFilterable = true := Field.isFilterable_of_kind (by simp [hk])
  have hm : ∀ c ∈ Comparison.ofTokens, c.appliesTo .collection = true := by decide
  exact Field.allows_of_kind hf hk (hm c hc)

/-- The operators on tokens read a literal as its tokens, if it has any. -/
theorem Operand.ofLiteral_of_ofTokens :
    ofLiteral field c now m =
      if splitTokens m = [] then .error .noMembers else .ok (.members (splitTokens m)) := by
  refine ofLiteral_of_collection hk ?_
  rintro rfl
  exact absurd hc (by decide)

/-- A statement with an operator on tokens has a condition when its literal has tokens. -/
theorem Statement.isCompiled_tokens_iff :
    IsCompiled now ⟨field, c, m⟩ ↔ Operand.splitTokens m ≠ [] := by
  rw [isCompiled_iff, exists_condition?_iff]
  constructor
  · rintro ⟨-, operand, ho⟩ ht
    rw [Operand.ofLiteral_of_ofTokens hk hc, if_pos ht] at ho
    cases ho
  · intro ht
    refine ⟨Field.allows_ofTokens hk hc, .members (Operand.splitTokens m), ?_⟩
    rw [Operand.ofLiteral_of_ofTokens hk hc, if_neg ht]

/-- It holds of a series when the operator does of the tokens and the members. -/
theorem Statement.holds_tokens (ht : Operand.splitTokens m ≠ []) (r : Series) :
    holds now r ⟨field, c, m⟩ =
      Condition.membersHold c (Operand.splitTokens m) (r.membersOf field) := by
  have ho : Operand.ofLiteral field c now m = .ok (.members (Operand.splitTokens m)) := by
    rw [Operand.ofLiteral_of_ofTokens hk hc, if_neg ht]
  rw [holds_of_readable (Field.allows_ofTokens hk hc) ho,
    Series.evaluate_of_value? (Series.value?_of_collection hk r)]
  rfl

end Tokens

/-- A statement on membership has a condition when its literal has tokens. -/
theorem Statement.isCompiled_membership_iff {c : Comparison} (hc : c ∈ Comparison.ofMembership)
    (now : Instant) (m : String) :
    IsCompiled now ⟨field, c, m⟩ ↔ Operand.splitTokens m ≠ [] := by
  have hsub : ∀ c ∈ Comparison.ofMembership, c ∈ Comparison.ofTokens := by decide
  exact isCompiled_tokens_iff hk (hsub c hc) now m

end Members

/-- A text finds the series that have one of its tokens as a member. -/
theorem Series.isFoundBy_iff {field : Field} (hk : field.kind = .collection) {now : Instant}
    {m : String} {r : Series} :
    r.IsFoundBy now field m ↔ ∃ token ∈ Operand.splitTokens m, token ∈ r.membersOf field := by
  have hcontains : .contains ∈ Comparison.ofTokens := by decide
  have hnot : .notContains ∈ Comparison.ofTokens := by decide
  have hany : (Operand.splitTokens m).any (r.membersOf field).contains = true ↔
      ∃ token ∈ Operand.splitTokens m, token ∈ r.membersOf field := by
    simp
  rw [← hany]
  constructor
  · intro h
    have ht := (Statement.isCompiled_tokens_iff hk hcontains now m).mp
      (h.compiled .contains (by decide))
    have hh := h.contains
    rwa [Statement.holds_tokens hk hcontains now m ht] at hh
  · intro h
    have ht : Operand.splitTokens m ≠ [] := by
      intro ht
      rw [ht] at h
      cases h
    refine ⟨fun c hc ↦ (Statement.isCompiled_membership_iff hk hc now m).mpr ht, ?_, ?_⟩
    · rw [Statement.holds_tokens hk hcontains now m ht]
      exact h
    · rw [Statement.holds_tokens hk hnot now m ht]
      exact congrArg not h

/-- A text that is not blank, taken as a literal, stands for its tokens: there are statements with
it when it has any, and it finds the series that have one of them as a member. So it finds all
series that have it as a member itself exactly when it is a token. -/
theorem Series.finds_members_iff {field : Field} (hk : field.kind = .collection) (now : Instant)
    {m : String} (hm : ∃ c ∈ m.toList, isBlank c = false) :
    (∀ c ∈ Comparison.ofMembership,
      (Statement.IsCompiled now ⟨field, c, m⟩ ↔ Operand.splitTokens m ≠ [])) ∧
    (∀ r : Series, r.IsFoundBy now field m ↔
      ∃ token ∈ Operand.splitTokens m, token ∈ r.membersOf field) ∧
    ((∀ r : Series, m ∈ r.membersOf field → r.IsFoundBy now field m) ↔ Operand.IsToken m) := by
  refine ⟨fun c hc ↦ Statement.isCompiled_membership_iff hk hc now m, fun r ↦ isFoundBy_iff hk, ?_⟩
  rw [← Operand.mem_splitTokens_self_iff]
  constructor
  · intro h
    have hne : m ≠ "" := by
      rintro rfl
      obtain ⟨c, hc, -⟩ := hm
      cases hc
    -- Only what is asked for is a member here, so it must be one of its own tokens.
    have hmembers : (bearing field m).membersOf field = [m] := by
      rw [membersOf, value?_bearing hk hne]
    have hfound := h (bearing field m) (by rw [hmembers]; exact List.mem_singleton_self m)
    obtain ⟨token, ht, hr⟩ := (isFoundBy_iff hk).mp hfound
    rw [hmembers, List.mem_singleton] at hr
    rwa [hr] at ht
  · intro h r hr
    exact (isFoundBy_iff hk).mpr ⟨m, h, hr⟩

/-- A genre of one word is found by it, next to another one. -/
theorem Series.finds_members_iff_action :
    Series.IsFoundBy ⟨0, 0⟩ .genres "Action" { genres := ["Drama", "Action"] } := by
  have hk : Field.kind .genres = .collection := rfl
  have h := (finds_members_iff hk ⟨0, 0⟩ (m := "Action") ⟨'A', by decide, by decide⟩).2.2
  exact h.mpr ⟨by decide, by decide, by decide⟩ _ (by decide)

/-- A genre with a comma in it is taken for two, and not found. -/
theorem Series.not_forall_members_found :
    ¬ ∀ (field : Field) (now : Instant) (m : String) (r : Series), field.kind = .collection →
      (∃ c ∈ m.toList, isBlank c = false) → m ∈ r.membersOf field → r.IsFoundBy now field m := by
  intro h
  have hfound := h .genres ⟨0, 0⟩ "Action, Adventure" { genres := ["Action, Adventure"] } rfl
    ⟨'A', by decide, by decide⟩ (by decide)
  exact absurd hfound.contains (by decide +kernel)

end SeriesFilter
