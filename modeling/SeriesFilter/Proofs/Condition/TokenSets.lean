import SeriesFilter.Proofs.Condition.Members

/-!
# Literals of collections as sets

A literal of a collection field counts for the set of tokens that it names: neither their order nor
their number matters, and two literals with a comma between them name the tokens of both. So the
operators on tokens take a literal apart, asking for some of the tokens, for all of them or for
none. A literal that can be read names a token, so asking for all of them is asking for some, and a
series without members has none of them.
-/

namespace SeriesFilter

open Calendar

namespace Condition

variable (members : List String)

/-- Tokens after others are tested with them: some, all or none of both. -/
theorem membersHold_append (tokens more : List String) :
    membersHold .contains (tokens ++ more) members =
        (membersHold .contains tokens members || membersHold .contains more members) ∧
      membersHold .mustContains (tokens ++ more) members =
        (membersHold .mustContains tokens members && membersHold .mustContains more members) ∧
      membersHold .notContains (tokens ++ more) members =
        (membersHold .notContains tokens members && membersHold .notContains more members) := by
  refine ⟨List.any_append, List.all_append, ?_⟩
  change (!(tokens ++ more).any members.contains) = _
  rw [List.any_append, Bool.not_or]
  rfl

/-- Only the set of tokens matters. -/
theorem membersHold_of_mem_iff (c : Comparison) {tokens other : List String}
    (h : ∀ token, token ∈ tokens ↔ token ∈ other) :
    membersHold c tokens members = membersHold c other members := by
  have hany : tokens.any members.contains = other.any members.contains := by
    rw [Bool.eq_iff_iff, List.any_eq_true, List.any_eq_true]
    simp only [h]
  have hall : tokens.all members.contains = other.all members.contains := by
    rw [Bool.eq_iff_iff, List.all_eq_true, List.all_eq_true]
    simp only [h]
  cases c with
  | contains => exact hany
  | mustContains => exact hall
  | notContains => exact congrArg not hany
  | _ => rfl

/-- Where all of some tokens are members, one of them is. -/
theorem contains_of_mustContains {tokens : List String} (hne : tokens ≠ [])
    (h : membersHold .mustContains tokens members = true) :
    membersHold .contains tokens members = true := by
  obtain ⟨token, rest, rfl⟩ := List.exists_cons_of_ne_nil hne
  exact List.any_eq_true.mpr ⟨token, List.mem_cons_self, List.all_eq_true.mp h _ List.mem_cons_self⟩

/-- Without members, none of some tokens is one. -/
theorem membersHold_nil {tokens : List String} (hne : tokens ≠ []) :
    membersHold .contains tokens [] = false ∧ membersHold .mustContains tokens [] = false ∧
      membersHold .notContains tokens [] = true := by
  have hcontains : membersHold .contains tokens [] = false :=
    List.any_eq_false.mpr fun token _ ↦ by simp
  refine ⟨hcontains, ?_, congrArg not hcontains⟩
  rw [Bool.eq_false_iff]
  intro h
  rw [contains_of_mustContains [] hne h] at hcontains
  cases hcontains

end Condition

namespace Comparison

/-- The operators of collections: those on tokens, and the one without a literal. -/
theorem eq_isEmpty_of_appliesTo {c : Comparison} (h : c.appliesTo .collection = true)
    (hc : c ∉ ofTokens) : c = .isEmpty := by
  cases c with
  | isEmpty => rfl
  | contains | mustContains | notContains => exact absurd (by decide) hc
  | _ => cases h

end Comparison

namespace Statement

variable {field : Field} (hk : field.kind = .collection) (now : Instant)
include hk

/-- A literal can be read under one operator on tokens when it has tokens, and then under all. -/
theorem exists_isCompiled_tokens_iff (u : String) :
    (∃ c ∈ Comparison.ofTokens, IsCompiled now ⟨field, c, u⟩) ↔ Operand.splitTokens u ≠ [] := by
  constructor
  · rintro ⟨c, hc, h⟩
    exact (isCompiled_tokens_iff hk hc now u).mp h
  · intro h
    have hc : .contains ∈ Comparison.ofTokens := by decide
    exact ⟨.contains, hc, (isCompiled_tokens_iff hk hc now u).mpr h⟩

/-- The operator without a literal reads none. -/
theorem ofLiteral_isEmpty (blank : String) :
    Operand.ofLiteral field .isEmpty now blank = .ok .nothing := by
  unfold Operand.ofLiteral
  rw [hk]

/-- Only a series without members passes the operator without a literal. -/
theorem membersOf_of_holds_isEmpty {r : Series} {blank : String}
    (h : holds now r ⟨field, .isEmpty, blank⟩ = true) : r.membersOf field = [] := by
  have hf : field.isFilterable = true := Field.isFilterable_of_kind (by simp [hk])
  have ha : field.allows .isEmpty = true := Field.allows_of_kind hf hk (by decide)
  rw [holds_of_readable ha (ofLiteral_isEmpty hk now blank),
    Series.evaluate_of_value? (Series.value?_of_collection hk r)] at h
  exact List.isEmpty_iff.mp h

/-- Operators that are not on tokens do not look at the literal. -/
theorem condition?_of_notMem {c : Comparison} (hc : c ∉ Comparison.ofTokens) (u v : String) :
    condition? now ⟨field, c, u⟩ = condition? now ⟨field, c, v⟩ := by
  rw [condition?, condition?, Compile.condition, Compile.condition]
  by_cases ha : field.allows c = true
  · have happlies : c.appliesTo .collection = true := hk ▸ (Bool.and_eq_true_iff.mp ha).2
    obtain rfl := Comparison.eq_isEmpty_of_appliesTo happlies hc
    rw [ofLiteral_isEmpty hk, ofLiteral_isEmpty hk]
  · rw [if_neg ha, if_neg ha]

/-- Literals that name the same tokens fare alike under every operator. -/
theorem alike_of_names_iff {u v : String}
    (h : ∀ token, Operand.Names u token ↔ Operand.Names v token) (c : Comparison) :
    (IsCompiled now ⟨field, c, u⟩ ↔ IsCompiled now ⟨field, c, v⟩) ∧
      ∀ r : Series, holds now r ⟨field, c, u⟩ = holds now r ⟨field, c, v⟩ := by
  by_cases hc : c ∈ Comparison.ofTokens
  · have hm : ∀ token, token ∈ Operand.splitTokens u ↔ token ∈ Operand.splitTokens v := by
      simpa only [Operand.mem_splitTokens_iff] using h
    have hnil : Operand.splitTokens u ≠ [] ↔ Operand.splitTokens v ≠ [] := by
      simp only [ne_eq, List.eq_nil_iff_forall_not_mem, hm]
    have hcompiled : IsCompiled now ⟨field, c, u⟩ ↔ IsCompiled now ⟨field, c, v⟩ := by
      rw [isCompiled_tokens_iff hk hc, isCompiled_tokens_iff hk hc, hnil]
    refine ⟨hcompiled, fun r ↦ ?_⟩
    by_cases hu : IsCompiled now ⟨field, c, u⟩
    · rw [holds_tokens hk hc now u ((isCompiled_tokens_iff hk hc now u).mp hu),
        holds_tokens hk hc now v ((isCompiled_tokens_iff hk hc now v).mp (hcompiled.mp hu)),
        Condition.membersHold_of_mem_iff _ c hm]
    · rw [holds_of_not_isCompiled hu, holds_of_not_isCompiled (mt hcompiled.mpr hu)]
  · have hcond := condition?_of_notMem hk now hc u v
    refine ⟨?_, fun r ↦ ?_⟩
    · rw [isCompiled_iff, isCompiled_iff, hcond]
    · rw [holds, holds, hcond]

end Statement

/-- Literals of a collection field are sets of tokens. Two that can be read, with a comma between
them, can be read: a series has some of the tokens when it has some of either, it has all of them
when it has all of both, and none when none of both. Literals that name the same tokens fare alike
under every operator. A series that has all tokens of a literal has some of them, and one without
members has none of them. -/
theorem Statement.tokens_are_sets {field : Field} (hk : field.kind = .collection)
    (now : Instant) :
    (∀ u v : String, (∃ c ∈ Comparison.ofTokens, IsCompiled now ⟨field, c, u⟩) →
      (∃ c ∈ Comparison.ofTokens, IsCompiled now ⟨field, c, v⟩) →
      (∀ c ∈ Comparison.ofTokens, IsCompiled now ⟨field, c, u ++ "," ++ v⟩) ∧
      ∀ r : Series,
        let passes c value := holds now r ⟨field, c, value⟩
        passes .contains (u ++ "," ++ v) = (passes .contains u || passes .contains v) ∧
        passes .mustContains (u ++ "," ++ v) = (passes .mustContains u && passes .mustContains v) ∧
        passes .notContains (u ++ "," ++ v) = (passes .notContains u && passes .notContains v)) ∧
    (∀ u v : String, (∀ token, Operand.Names u token ↔ Operand.Names v token) → ∀ c,
      (IsCompiled now ⟨field, c, u⟩ ↔ IsCompiled now ⟨field, c, v⟩) ∧
      ∀ r : Series, holds now r ⟨field, c, u⟩ = holds now r ⟨field, c, v⟩) ∧
    ∀ u : String, (∃ c ∈ Comparison.ofTokens, IsCompiled now ⟨field, c, u⟩) → ∀ r : Series,
      let passes c value := holds now r ⟨field, c, value⟩
      (passes .mustContains u = true → passes .contains u = true) ∧
      ∀ blank, passes .isEmpty blank = true →
        passes .contains u = false ∧ passes .mustContains u = false ∧
          passes .notContains u = true := by
  have hcontains : .contains ∈ Comparison.ofTokens := by decide
  have hmust : .mustContains ∈ Comparison.ofTokens := by decide
  have hnot : .notContains ∈ Comparison.ofTokens := by decide
  refine ⟨?_, fun u v h c ↦ alike_of_names_iff hk now h c, ?_⟩
  · intro u v hu hv
    rw [exists_isCompiled_tokens_iff hk] at hu hv
    have hw : Operand.splitTokens (u ++ "," ++ v) ≠ [] := by
      rw [Operand.splitTokens_append]
      exact List.append_ne_nil_of_left_ne_nil hu _
    refine ⟨fun c hc ↦ (isCompiled_tokens_iff hk hc now _).mpr hw, fun r ↦ ?_⟩
    simp only [holds_tokens hk hcontains now _ hw, holds_tokens hk hcontains now _ hu,
      holds_tokens hk hcontains now _ hv, holds_tokens hk hmust now _ hw,
      holds_tokens hk hmust now _ hu, holds_tokens hk hmust now _ hv, holds_tokens hk hnot now _ hw,
      holds_tokens hk hnot now _ hu, holds_tokens hk hnot now _ hv, Operand.splitTokens_append]
    exact Condition.membersHold_append _ _ _
  · intro u hu r
    rw [exists_isCompiled_tokens_iff hk] at hu
    simp only [holds_tokens hk hcontains now u hu, holds_tokens hk hmust now u hu,
      holds_tokens hk hnot now u hu]
    refine ⟨Condition.contains_of_mustContains _ hu, fun blank h ↦ ?_⟩
    rw [membersOf_of_holds_isEmpty hk now h]
    exact Condition.membersHold_nil hu

/-- Genres are asked for with blanks and empty parts among them, and again in another order. One
series has both, another has none. -/
theorem Statement.tokens_are_sets_genres :
    let passes r c value := holds ⟨0, 0⟩ r ⟨.genres, c, value⟩
    let both : Series := { genres := ["Drama", "Horror"] }
    passes both .mustContains (" Horror, " ++ "," ++ "Drama") =
        (passes both .mustContains " Horror, " && passes both .mustContains "Drama") ∧
      passes both .mustContains "Horror,Drama" = passes both .mustContains ",Drama, Horror" ∧
      passes both .contains "Horror,Drama" = true ∧
      passes ({} : Series) .notContains "Horror,Drama" = true := by
  have hk : Field.kind .genres = .collection := rfl
  have hcompiled : ∀ u, Operand.splitTokens u ≠ [] →
      ∃ c ∈ Comparison.ofTokens, IsCompiled ⟨0, 0⟩ ⟨.genres, c, u⟩ :=
    fun u ↦ (exists_isCompiled_tokens_iff hk ⟨0, 0⟩ u).mpr
  have hnames : ∀ token,
      Operand.Names "Horror,Drama" token ↔ Operand.Names ",Drama, Horror" token := by
    intro token
    have hu : Operand.splitTokens "Horror,Drama" = ["Horror", "Drama"] := by decide
    have hv : Operand.splitTokens ",Drama, Horror" = ["Drama", "Horror"] := by decide
    rw [← Operand.mem_splitTokens_iff, ← Operand.mem_splitTokens_iff, hu, hv]
    simp [or_comm]
  obtain ⟨hcompose, hset, hask⟩ := tokens_are_sets hk ⟨0, 0⟩
  refine ⟨?_, (hset _ _ hnames .mustContains).2 _, ?_, ?_⟩
  · exact ((hcompose " Horror, " "Drama" (hcompiled _ (by decide)) (hcompiled _ (by decide))).2
      _).2.1
  · exact (hask "Horror,Drama" (hcompiled _ (by decide)) _).1 (by decide)
  · exact ((hask "Horror,Drama" (hcompiled _ (by decide)) _).2 "" (by decide)).2.2

end SeriesFilter
