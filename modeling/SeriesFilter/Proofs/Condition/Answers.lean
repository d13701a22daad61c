import SeriesFilter.Condition.Basic
import SeriesFilter.Proofs.Condition.Shapes

/-!
# Tests and the fallback

Testing falls back on `false` where an operand and a value are of different shapes, and where the
operator stands for no test of such values. The tests that operators stand for are given here
without the fallback. On a series, the condition of a statement always finds a test, unless the
series carries no value for the field or knows of no date.
-/

namespace SeriesFilter

open Calendar Decimal Text

namespace Condition

/-! ### The tests that operators stand for -/

/-- The test of a text. -/
def textTest? (exact folded : String) : Comparison → Option (String → Bool)
  | .equal => some fun text ↦ text == exact
  | .notEqual => some fun text ↦ text != exact
  | .matches => some fun text ↦ occursIn folded.toList (lowerChars text.toList)
  | .beginsWith => some fun text ↦ folded.toList.isPrefixOf (lowerChars text.toList)
  | .endsWith => some fun text ↦ folded.toList.isSuffixOf (lowerChars text.toList)
  | _ => none

/-- The test of several texts. -/
def textsTest? (exact folded : String) : Comparison → Option (List String → Bool)
  | .notEqual => some fun texts ↦ !texts.contains exact
  | comparison => (textTest? exact folded comparison).map fun test texts ↦ texts.any test

/-- The test of an ordinal. -/
def ordinalTest? (expected : Nat) : Comparison → Option (Nat → Bool)
  | .equal => some fun actual ↦ actual == expected
  | .notEqual => some fun actual ↦ actual != expected
  | _ => none

/-- The test of how a value compares with the literal. -/
def orderTest? : Comparison → Option (Ordering → Bool)
  | .equal => some fun order ↦ order == .eq
  | .notEqual => some fun order ↦ order != .eq
  | .greaterThan | .isAfter => some fun order ↦ order == .gt
  | .greaterThanEqual => some fun order ↦ order != .lt
  | .lessThan | .isBefore => some fun order ↦ order == .lt
  | .lessThanEqual => some fun order ↦ order != .gt
  | _ => none

/-- The test of a number. -/
def numberTest? (expected : Number) : Comparison → Option (Number → Bool)
  | .equal => some fun actual ↦ actual.isNear expected
  | .notEqual => some fun actual ↦ actual.isFar expected
  | comparison => (orderTest? comparison).map fun test actual ↦ test (actual.compare expected)

/-- The test of a date against a window. -/
def windowTest? (seconds : Int) (now : Instant) : Comparison → Option (Instant → Bool)
  | .isInLast => some fun actual ↦ now.since actual ≤ seconds * secondParts
  | .isNotInLast => some fun actual ↦ now.since actual > seconds * secondParts
  | _ => none

/-- The test of members against tokens. -/
def membersTest? (tokens : List String) : Comparison → Option (List String → Bool)
  | .contains => some fun members ↦ tokens.any members.contains
  | .mustContains => some fun members ↦ tokens.all members.contains
  | .notContains => some fun members ↦ !tokens.any members.contains
  | _ => none

/-- The test of members without a literal. -/
def bareTest? : Comparison → Option (List String → Bool)
  | .isEmpty => some List.isEmpty
  | _ => none

/-- The answer of the test that an operator stands for between an operand and a value, if there is
such a test. -/
def test? (comparison : Comparison) : Operand → FieldValue → Option Bool
  | .text exact folded, .text text => (textTest? exact folded comparison).map fun test ↦ test text
  | .text exact folded, .texts texts =>
    (textsTest? exact folded comparison).map fun test ↦ test texts
  | .enum expected, .enum actual => (ordinalTest? expected comparison).map fun test ↦ test actual
  | .number expected, .number actual =>
    (numberTest? expected comparison).map fun test ↦ test actual
  | .day number, .date (some actual) =>
    (orderTest? comparison).map fun test ↦ test (compare actual.day number)
  | .instant t, .date (some actual) =>
    (orderTest? comparison).map fun test ↦ test (actual.compare t)
  | .window seconds now, .date (some actual) =>
    (windowTest? seconds now comparison).map fun test ↦ test actual
  | .duration expected, .duration actual =>
    (orderTest? comparison).map fun test ↦ test (compare actual expected)
  | .members tokens, .members members =>
    (membersTest? tokens comparison).map fun test ↦ test members
  | .nothing, .members members => (bareTest? comparison).map fun test ↦ test members
  | _, _ => none

/-- The answer of a condition's test on an entity, if the entity has a value for the field and
there is a test of it. -/
def answer? [Filterable α] (c : Condition) (entity : α) : Option Bool :=
  (Filterable.value? entity c.field).bind (test? c.comparison c.operand)

/-! ### Without a test the answer is no -/

section Fallback

variable (comparison : Comparison)

private theorem textHolds_eq (exact folded text : String) :
    textHolds comparison exact folded text =
      ((textTest? exact folded comparison).map fun test ↦ test text).getD false := by
  cases comparison <;> rfl

private theorem anyTextHolds_eq (exact folded : String) (texts : List String) :
    anyTextHolds comparison exact folded texts =
      ((textsTest? exact folded comparison).map fun test ↦ test texts).getD false := by
  have hnone : texts.any (fun _ ↦ false) = false := List.any_eq_false.mpr nofun
  cases comparison <;> first | rfl | exact hnone

private theorem ordinalHolds_eq (expected actual : Nat) :
    ordinalHolds comparison expected actual =
      ((ordinalTest? expected comparison).map fun test ↦ test actual).getD false := by
  cases comparison <;> rfl

private theorem orderHolds_eq (order : Ordering) :
    orderHolds comparison order =
      ((orderTest? comparison).map fun test ↦ test order).getD false := by
  cases comparison <;> rfl

private theorem numberHolds_eq (expected actual : Number) :
    numberHolds comparison expected actual =
      ((numberTest? expected comparison).map fun test ↦ test actual).getD false := by
  cases comparison <;> rfl

private theorem windowHolds_eq (seconds : Int) (now actual : Instant) :
    windowHolds comparison seconds now actual =
      ((windowTest? seconds now comparison).map fun test ↦ test actual).getD false := by
  cases comparison <;> rfl

private theorem membersHold_eq (tokens members : List String) :
    membersHold comparison tokens members =
      ((membersTest? tokens comparison).map fun test ↦ test members).getD false := by
  cases comparison <;> rfl

private theorem isEmptyHolds_eq (members : List String) :
    (comparison == .isEmpty && members.isEmpty) =
      ((bareTest? comparison).map fun test ↦ test members).getD false := by
  cases comparison <;> rfl

/-- What holds is what the test says, and nothing without a test. -/
theorem holds_eq_getD (operand : Operand) (value : FieldValue) :
    holds comparison operand value = (test? comparison operand value).getD false := by
  fun_cases test? comparison operand value with
  | case1 exact folded text => exact textHolds_eq comparison exact folded text
  | case2 exact folded texts => exact anyTextHolds_eq comparison exact folded texts
  | case3 expected actual => exact ordinalHolds_eq comparison expected actual
  | case4 expected actual => exact numberHolds_eq comparison expected actual
  | case5 number actual => exact orderHolds_eq comparison _
  | case6 t actual => exact orderHolds_eq comparison _
  | case7 seconds now actual => exact windowHolds_eq comparison seconds now actual
  | case8 expected actual => exact orderHolds_eq comparison _
  | case9 tokens members => exact membersHold_eq comparison tokens members
  | case10 members => exact isEmptyHolds_eq comparison members
  | case11 =>
    unfold holds
    split <;> simp_all

end Fallback

/-- An entity passes a condition when the test says so, and not without a test. -/
theorem evaluate_eq_getD [Filterable α] (c : Condition) (entity : α) :
    c.evaluate entity = (c.answer? entity).getD false := by
  rw [evaluate, answer?]
  cases Filterable.value? entity c.field with
  | none => rfl
  | some value => exact holds_eq_getD c.comparison c.operand value

/-! ### Where there is a test -/

/-- An operator that the field allows has a test between an operand and a value that suit it, when
there is anything to test. -/
theorem isSome_test? {field : Field} {comparison : Comparison} {operand : Operand}
    {value : FieldValue} (ha : field.allows comparison = true)
    (ho : operand.Suits field comparison) (hv : value.Suits field)
    (hp : value.isPresent = true) : (test? comparison operand value).isSome = true := by
  have hk : operand.kind = value.kind := ho.kind.trans hv.kind.symm
  have hc : comparison.appliesTo value.kind = true := by
    rw [hv.kind]
    exact (Bool.and_eq_true_iff.mp ha).2
  cases value with
  | text | texts =>
    cases operand with
    | text => cases comparison <;> first | rfl | cases hc
    | _ => cases hk
  | enum =>
    cases operand with
    | enum => cases comparison <;> first | rfl | cases hc
    | _ => cases hk
  | number =>
    cases operand with
    | number => cases comparison <;> first | rfl | cases hc
    | _ => cases hk
  | date t =>
    cases t with
    | none => cases hp
    | some actual =>
      cases operand with
      | day | instant =>
        have hw : ¬ (comparison = .isInLast ∨ comparison = .isNotInLast) := by
          intro hc
          obtain ⟨seconds, now, he⟩ := ho.window.mpr hc
          cases he
        cases comparison with
        | isInLast => exact absurd (.inl rfl) hw
        | isNotInLast => exact absurd (.inr rfl) hw
        | _ => first | rfl | cases hc
      | window seconds now => rcases ho.window.mp ⟨seconds, now, rfl⟩ with rfl | rfl <;> rfl
      | _ => cases hk
  | duration =>
    cases operand with
    | duration => cases comparison <;> first | rfl | cases hc
    | _ => cases hk
  | members =>
    cases operand with
    | members tokens =>
      cases comparison with
      | isEmpty => cases ho.nothing.mpr rfl
      | _ => first | rfl | cases hc
    | nothing =>
      rw [ho.nothing.mp rfl]
      rfl
    | _ => cases hk

/-- No operator has a test of a missing date. -/
theorem test?_noDate (comparison : Comparison) (operand : Operand) :
    test? comparison operand (.date none) = none := by
  cases operand <;> rfl

end Condition

open Condition in
/-- The condition of a statement has an operand as its field and operator ask for, and every series
has a value as the field asks for, if any. A series passes when the test between the two says so,
and there always is a test, except where the series carries no value or knows of no date. -/
theorem Compile.condition_finds_test {now : Instant} {place : Location} {s : Statement}
    {c : Condition} (h : condition now place s = .ok c) :
    (c.field = s.field ∧ c.comparison = s.comparison ∧ c.kind = s.field.kind ∧
      c.operand.Suits s.field s.comparison) ∧
    ∀ r : Series,
      (∀ value, r.value? s.field = some value → value.Suits s.field) ∧
      c.evaluate r = (c.answer? r).getD false ∧
      (c.answer? r = none ↔
        r.value? s.field = none ∨ r.value? s.field = some (.date none)) := by
  obtain ⟨ha, operand, ho, rfl⟩ := condition_eq_ok_iff_readable.mp h
  have ho : operand.Suits s.field s.comparison := Operand.suits_of_ofLiteral ha ho
  refine ⟨⟨rfl, rfl, rfl, ho⟩, fun r ↦
    ⟨fun value ↦ Series.suits_value?, evaluate_eq_getD _ r, ?_⟩⟩
  change (r.value? s.field).bind (test? s.comparison operand) = none ↔ _
  rw [← Series.carries_eq_false_iff, Series.carries]
  cases hv : r.value? s.field with
  | none => simp
  | some value =>
    rw [Option.bind_some, Option.any_some]
    cases hp : value.isPresent with
    | true =>
      have ht := isSome_test? ha ho (Series.suits_value? hv) hp
      simpa using Option.isSome_iff_ne_none.mp ht
    | false =>
      rw [FieldValue.isPresent_eq_false_iff.mp hp, test?_noDate]
      simp

/-- A date is asked about by its distance from now. One series knows of a date, another does
not. -/
theorem Compile.condition_finds_test_window :
    ∃ c, condition ⟨100, 0⟩ (.flat 0) ⟨.readingDate, .isNotInLast, "60"⟩ = .ok c ∧
      c.operand.Suits .readingDate .isNotInLast ∧
      c.answer? ({} : Series) = none ∧
      c.answer? ({ lastRead := some ⟨30, 0⟩ } : Series) ≠ none := by
  obtain ⟨⟨-, -, -, ho⟩, h⟩ := condition_finds_test
    (show condition ⟨100, 0⟩ (.flat 0) ⟨.readingDate, .isNotInLast, "60"⟩ = .ok
      ⟨.readingDate, .isNotInLast, .date, .window 60 ⟨100, 0⟩⟩ from rfl)
  refine ⟨_, rfl, ho, (h _).2.2.mpr (.inr rfl), fun hn ↦ ?_⟩
  rcases (h _).2.2.mp hn with hv | hv <;> cases hv

end SeriesFilter
