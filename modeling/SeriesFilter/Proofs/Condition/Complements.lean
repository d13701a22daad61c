import SeriesFilter.Condition.Basic
import SeriesFilter.Proofs.Condition.Shapes

/-!
# Operators that are opposites

Some operators say the opposite of others. The two read a literal in the same way, and of every
series that carries a value of the field exactly one of them holds; of a series that carries none,
neither does. Equality of numbers is left out, which is up to a tolerance and leaves out the values
that are no number. A date moreover precedes, equals or follows a day or an instant, and the
operators made for dates say the same as the general ones.
-/

namespace SeriesFilter

open Calendar

namespace Comparison

/-- The second operator says the opposite of the first. -/
inductive Opposes : Comparison → Comparison → Prop where
  | equal : Opposes .equal .notEqual
  | greaterThan : Opposes .greaterThan .lessThanEqual
  | lessThan : Opposes .lessThan .greaterThanEqual
  | isAfter : Opposes .isAfter .lessThanEqual
  | isBefore : Opposes .isBefore .greaterThanEqual
  | contains : Opposes .contains .notContains
  | isInLast : Opposes .isInLast .isNotInLast

/-- The operators that compare a date with a day or an instant, save for those that are opposites of
others. -/
def ofMoments : List Comparison :=
  [.lessThan, .equal, .greaterThan, .isBefore, .isAfter]

end Comparison

namespace Operand

variable (field : Field) (now : Instant) (value : String)

/-- Opposite operators read a literal in the same way. -/
theorem ofLiteral_of_opposes {c d : Comparison} (h : c.Opposes d) :
    ofLiteral field c now value = ofLiteral field d now value := by
  cases h <;> rfl

/-- All operators on moments read a literal in the same way. -/
theorem ofLiteral_of_mem_ofMoments {c : Comparison} (h : c ∈ Comparison.ofMoments) :
    ofLiteral field c now value = ofLiteral field .equal now value := by
  simp only [Comparison.ofMoments, List.mem_cons, List.not_mem_nil, or_false] at h
  rcases h with rfl | rfl | rfl | rfl | rfl <;> rfl

end Operand

namespace Condition

/-- Opposite operators on ordered values say the opposite of every order. -/
theorem orderHolds_of_opposes {c d : Comparison} (h : c.Opposes d) (hm : c ≠ .contains)
    (hw : c ≠ .isInLast) (order : Ordering) : orderHolds c order = !orderHolds d order := by
  cases h with
  | contains => exact absurd rfl hm
  | isInLast => exact absurd rfl hw
  | _ => cases order <;> rfl

/-- Equality holds of one of several texts exactly when inequality does not hold of all. -/
theorem anyTextHolds_equal (exact folded : String) (texts : List String) :
    anyTextHolds .equal exact folded texts = !anyTextHolds .notEqual exact folded texts := by
  change texts.any (fun text ↦ text == exact) = !!texts.contains exact
  rw [Bool.not_not, List.any_beq']

/-- Opposite operators that the field allows say the opposite of every value, between an operand and
a value that suit it. -/
theorem holds_of_opposes {field : Field} {c d : Comparison} {operand : Operand}
    {value : FieldValue} (h : c.Opposes d) (hc : field.allows c = true)
    (hn : field.kind = .number → c ≠ .equal) (ho : operand.Suits field c)
    (hv : value.Suits field) (hp : value.isPresent = true) :
    holds c operand value = !holds d operand value := by
  have hk : operand.kind = value.kind := ho.kind.trans hv.kind.symm
  have ha : c.appliesTo value.kind = true := by
    rw [hv.kind]
    exact (Bool.and_eq_true_iff.mp hc).2
  cases value with
  | text =>
    cases operand with
    | text =>
      cases h with
      | equal => exact (Bool.not_not _).symm
      | _ => cases ha
    | _ => cases hk
  | texts texts =>
    cases operand with
    | text exact folded =>
      cases h with
      | equal => exact anyTextHolds_equal exact folded texts
      | _ => cases ha
    | _ => cases hk
  | enum =>
    cases operand with
    | enum =>
      cases h with
      | equal => exact (Bool.not_not _).symm
      | _ => cases ha
    | _ => cases hk
  | number actual =>
    cases operand with
    | number expected =>
      have hne : c ≠ .equal := hn hv.kind.symm
      have horder := orderHolds_of_opposes h (by rintro rfl; cases ha) (by rintro rfl; cases ha)
        (actual.compare expected)
      cases h with
      | equal => exact absurd rfl hne
      | _ => exact horder
    | _ => cases hk
  | date t =>
    cases t with
    | none => cases hp
    | some actual =>
      cases operand with
      | day | instant =>
        refine orderHolds_of_opposes h (by rintro rfl; cases ha) ?_ _
        rintro rfl
        obtain ⟨seconds, now, he⟩ := ho.window.mpr (.inl rfl)
        cases he
      | window seconds now =>
        rcases ho.window.mp ⟨seconds, now, rfl⟩ with rfl | rfl
        · cases h with
          | isInLast =>
            change decide (now.since actual ≤ seconds * secondParts) =
              !decide (seconds * secondParts < now.since actual)
            rw [← decide_not]
            exact decide_eq_decide.mpr Int.not_lt.symm
        · cases h
      | _ => cases hk
  | duration =>
    cases operand with
    | duration =>
      exact orderHolds_of_opposes h (by rintro rfl; cases ha) (by rintro rfl; cases ha) _
    | _ => cases hk
  | members =>
    cases operand with
    | members =>
      cases h with
      | contains => exact (Bool.not_not _).symm
      | _ => cases ha
    | nothing =>
      cases ho.nothing.mp rfl
      cases h
    | _ => cases hk

/-- A date precedes, equals or follows a moment, and the operators for dates say so as well. -/
theorem holds_ofMoments {field : Field} {operand : Operand} (ho : operand.Suits field .equal)
    (hf : field.kind = .date) (t : Instant) :
    ([.lessThan, .equal, .greaterThan].countP fun c ↦ holds c operand (.date (some t))) = 1 ∧
      holds .isBefore operand (.date (some t)) = holds .lessThan operand (.date (some t)) ∧
      holds .isAfter operand (.date (some t)) = holds .greaterThan operand (.date (some t)) := by
  have hk : operand.kind = .date := ho.kind.trans hf
  have horder : ∀ order : Ordering,
      ([.lessThan, .equal, .greaterThan].countP fun c ↦ orderHolds c order) = 1 := by
    decide
  cases operand with
  | day | instant => exact ⟨horder _, rfl, rfl⟩
  | window seconds now =>
    have hw := ho.window.mp ⟨seconds, now, rfl⟩
    simp at hw
  | _ => cases hk

end Condition

namespace Compile

/-- Statements with one field and one literal fail for the same reason under some operators. -/
def FailAlike (now : Instant) (field : Field) (value : String) (cs : List Comparison) : Prop :=
  ∃ reason, ∀ c ∈ cs, ∀ place,
    condition now place ⟨field, c, value⟩ = .error (.unreadable field c value reason place)

/-- Statements with one field and one literal have conditions with the same operand under some
operators. -/
def ReadAlike (now : Instant) (field : Field) (value : String) (cs : List Comparison)
    (operand : Operand) : Prop :=
  ∀ c ∈ cs, ∀ place,
    condition now place ⟨field, c, value⟩ = .ok ⟨field, c, field.kind, operand⟩

section Literals

variable {now : Instant} {field : Field} {value : String} {cs : List Comparison}
  (ha : ∀ c ∈ cs, field.allows c = true)
include ha

/-- Statements whose literal is read as one operand have conditions with it. -/
theorem readAlike_of_ofLiteral {operand : Operand}
    (hr : ∀ c ∈ cs, Operand.ofLiteral field c now value = .ok operand) :
    ReadAlike now field value cs operand := by
  intro c hc place
  rw [condition, if_pos (ha c hc), hr c hc]

/-- Statements whose literal is read in the same way fare alike. -/
theorem failAlike_or_readAlike {read : Except LiteralError Operand}
    (hr : ∀ c ∈ cs, Operand.ofLiteral field c now value = read) :
    FailAlike now field value cs ∨
      ∃ operand, read = .ok operand ∧ ReadAlike now field value cs operand := by
  cases read with
  | error reason =>
    refine .inl ⟨reason, fun c hc place ↦ ?_⟩
    rw [condition, if_pos (ha c hc), hr c hc]
  | ok operand => exact .inr ⟨operand, rfl, readAlike_of_ofLiteral ha hr⟩

end Literals

/-- Statements with opposite operators both have conditions or both fail for the same reason, and
exactly one of the two takes a series that carries a value of the field, none a series that does
not. On dates, exactly one of three operators takes a series that has a date, and the operators for
dates are two of these by another name. -/
theorem opposites_complement (now : Instant) (field : Field) (value : String) :
    (∀ c d : Comparison, c.Opposes d → field.allows c = true → field.allows d = true →
      (field.kind = .number → c ≠ .equal) →
      FailAlike now field value [c, d] ∨
      ∃ operand, ReadAlike now field value [c, d] operand ∧ ∀ r : Series,
        let passes x := Condition.evaluate ⟨field, x, field.kind, operand⟩ r
        (r.carries field = true → passes c = !passes d) ∧
          (r.carries field = false → passes c = false ∧ passes d = false)) ∧
    (field.kind = .date →
      FailAlike now field value Comparison.ofMoments ∨
      ∃ operand, ReadAlike now field value Comparison.ofMoments operand ∧ ∀ r : Series,
        let passes x := Condition.evaluate ⟨field, x, field.kind, operand⟩ r
        (r.carries field = true → [.lessThan, .equal, .greaterThan].countP passes = 1) ∧
          passes .isBefore = passes .lessThan ∧ passes .isAfter = passes .greaterThan) := by
  constructor
  · intro c d h hc hd hn
    have hr : ∀ x ∈ [c, d], Operand.ofLiteral field x now value =
        Operand.ofLiteral field c now value := by
      simp [Operand.ofLiteral_of_opposes field now value h]
    refine (failAlike_or_readAlike (by simp [hc, hd]) hr).imp_right ?_
    rintro ⟨operand, ho, halike⟩
    have ho : operand.Suits field c := Operand.suits_of_ofLiteral hc ho
    refine ⟨operand, halike, fun r ↦ ?_⟩
    dsimp only
    constructor
    · intro hr
      obtain ⟨v, hv, hp⟩ := Series.exists_value?_of_carries hr
      rw [Series.evaluate_of_value? hv, Series.evaluate_of_value? hv]
      exact Condition.holds_of_opposes h hc hn ho (Series.suits_value? hv) hp
    · intro hr
      exact ⟨Series.evaluate_of_carries_eq_false hr, Series.evaluate_of_carries_eq_false hr⟩
  · intro hf
    have ha : ∀ x ∈ Comparison.ofMoments, field.allows x = true := by
      intro x hx
      have hfield : field.isFilterable = true := Field.isFilterable_of_kind (by simp [hf])
      have hdate : ∀ x ∈ Comparison.ofMoments, x.appliesTo .date = true := by decide
      exact Field.allows_of_kind hfield hf (hdate x hx)
    refine (failAlike_or_readAlike ha fun x ↦
      Operand.ofLiteral_of_mem_ofMoments field now value).imp_right ?_
    rintro ⟨operand, ho, halike⟩
    have ho : operand.Suits field .equal := Operand.suits_of_ofLiteral (ha _ (by decide)) ho
    refine ⟨operand, halike, fun r ↦ ?_⟩
    dsimp only
    cases hc : r.carries field with
    | false =>
      simp [Series.evaluate_of_carries_eq_false hc]
    | true =>
      obtain ⟨v, hv, hp⟩ := Series.exists_value?_of_carries hc
      have hk : v.kind = .date := (Series.suits_value? hv).kind.trans hf
      obtain ⟨t, rfl⟩ := FieldValue.exists_date_of_isPresent hk hp
      obtain ⟨hone, hnames⟩ := Condition.holds_ofMoments ho hf t
      simp only [Series.evaluate_of_value? hv]
      exact ⟨fun _ ↦ hone, hnames⟩

/-- Whether a series was read in the last minute, and whether not, is asked of one that was read
earlier. -/
theorem opposites_complement_window :
    ∃ operand, ReadAlike ⟨100, 0⟩ .readingDate "60" [.isInLast, .isNotInLast] operand ∧
      ∃ r : Series, r.carries .readingDate = true ∧
        Condition.evaluate ⟨.readingDate, .isInLast, .date, operand⟩ r =
          !Condition.evaluate ⟨.readingDate, .isNotInLast, .date, operand⟩ r := by
  rcases (opposites_complement ⟨100, 0⟩ .readingDate "60").1 _ _ .isInLast rfl rfl nofun with
    ⟨reason, h⟩ | ⟨operand, ho, h⟩
  · cases h .isInLast List.mem_cons_self (.flat 0)
  · exact ⟨operand, ho, { lastRead := some ⟨30, 0⟩ }, rfl, (h _).1 rfl⟩

end Compile

end SeriesFilter
