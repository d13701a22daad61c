import SeriesFilter.Proofs.Compile.Shape
import SeriesFilter.Proofs.Condition.Tokens
import SeriesFilter.Proofs.Outcome
import SeriesFilter.Series

/-!
# The shapes of operands and values

The kind of a field decides what its values look like, and with the operator what a literal is read
as. Every value that a series has for a field, and every operand of a literal that can be read, is
as field and operator ask: of the field's kind, an ordinal within the domain, a window under the
operators on windows, tokens under the operators on members.
-/

namespace SeriesFilter

open Calendar Decimal Text

/-! ### Shapes -/

/-- Whether an ordinal belongs to the domain of a field. -/
def Field.HasOrdinal (field : Field) (ordinal : Nat) : Prop :=
  ∃ domain, field.domain? = some domain ∧ ordinal < domain.names.length

/-- A field that is not for texts may be used by statements. -/
theorem Field.isFilterable_of_kind {field : Field} (hk : field.kind ≠ .text) :
    field.isFilterable = true := by
  cases field with
  | placeholder => exact absurd rfl hk
  | _ => rfl

/-- A field allows the operators that apply to its kind. -/
theorem Field.allows_of_kind {field : Field} {kind : ValueKind} {comparison : Comparison}
    (hf : field.isFilterable = true) (hk : field.kind = kind)
    (hc : comparison.appliesTo kind = true) : field.allows comparison = true := by
  subst hk
  exact Bool.and_eq_true_iff.mpr ⟨hf, hc⟩

namespace FieldValue

/-- The kind of the fields that hold values of this shape. -/
def kind : FieldValue → ValueKind
  | .text _ | .texts _ => .text
  | .enum _ => .enum
  | .number _ => .number
  | .date _ => .date
  | .duration _ => .duration
  | .members _ => .collection

/-- Whether there is anything to test. The knowledge that there is no date is nothing. -/
def isPresent : FieldValue → Bool
  | .date none => false
  | _ => true

/-- Only a missing date is nothing. -/
theorem isPresent_eq_false_iff {value : FieldValue} :
    value.isPresent = false ↔ value = .date none := by
  constructor
  · intro h
    unfold isPresent at h
    split at h
    · rfl
    · cases h
  · rintro rfl
    rfl

/-- A present value for dates is a date. -/
theorem exists_date_of_isPresent {value : FieldValue} (hk : value.kind = .date)
    (hp : value.isPresent = true) : ∃ t, value = .date (some t) := by
  cases value with
  | date t =>
    cases t with
    | none => cases hp
    | some t => exact ⟨t, rfl⟩
  | _ => cases hk

/-- A value is one that the field can hold. -/
structure Suits (field : Field) (value : FieldValue) : Prop where
  kind : value.kind = field.kind
  ordinal : ∀ n, value = .enum n → field.HasOrdinal n

/-- A value that is no ordinal suits the fields of its kind. -/
theorem Suits.of_kind {field : Field} {value : FieldValue} (hk : value.kind = field.kind)
    (hn : value.kind ≠ .enum) : value.Suits field where
  kind := hk
  ordinal := by
    rintro n rfl
    exact absurd rfl hn

end FieldValue

namespace Operand

/-- The kind of the fields that statements with such an operand are about. -/
def kind : Operand → ValueKind
  | .text _ _ => .text
  | .enum _ => .enum
  | .number _ => .number
  | .day _ | .instant _ | .window _ _ => .date
  | .duration _ => .duration
  | .members _ | .nothing => .collection

/-- An operand is one that the field and the operator ask for. -/
structure Suits (field : Field) (comparison : Comparison) (operand : Operand) : Prop where
  kind : operand.kind = field.kind
  ordinal : ∀ n, operand = .enum n → field.HasOrdinal n
  window : (∃ seconds now, operand = .window seconds now) ↔
    comparison = .isInLast ∨ comparison = .isNotInLast
  nothing : operand = .nothing ↔ comparison = .isEmpty
  tokens : ∀ tokens, operand = .members tokens → tokens ≠ [] ∧ ∀ token ∈ tokens, IsToken token

/-- A value is there when an operand is taken from it. -/
theorem orError_eq_ok_iff {error : LiteralError} {x : Option α} {a : α} :
    orError error x = .ok a ↔ x = some a := by
  cases x with
  | none => exact iff_of_false nofun nofun
  | some b => simp [orError]

section Literals

variable {field : Field} {comparison : Comparison} {now : Instant} {value : String}
  {operand : Operand}

/-- The operators on windows apply to dates alone. -/
theorem kind_of_window (ha : field.allows comparison = true)
    (hc : comparison = .isInLast ∨ comparison = .isNotInLast) : field.kind = .date := by
  have hk := (Bool.and_eq_true_iff.mp ha).2
  rcases hc with rfl | rfl
  · exact List.mem_singleton.mp (List.contains_iff_mem.mp hk)
  · exact List.mem_singleton.mp (List.contains_iff_mem.mp hk)

/-- The operator without a literal applies to collections alone. -/
theorem kind_of_isEmpty (ha : field.allows comparison = true) (hc : comparison = .isEmpty) :
    field.kind = .collection := by
  subst hc
  exact List.mem_singleton.mp (List.contains_iff_mem.mp (Bool.and_eq_true_iff.mp ha).2)

/-- An operand that is neither about dates nor about collections needs only the right kind. -/
theorem Suits.of_kind (ha : field.allows comparison = true) (hk : operand.kind = field.kind)
    (hd : operand.kind ≠ .date) (hc : operand.kind ≠ .collection)
    (ho : ∀ n, operand = .enum n → field.HasOrdinal n) : operand.Suits field comparison where
  kind := hk
  ordinal := ho
  window := by
    refine iff_of_false ?_ fun h ↦ hd (hk.trans (kind_of_window ha h))
    rintro ⟨seconds, now, rfl⟩
    exact hd rfl
  nothing := by
    refine iff_of_false ?_ fun h ↦ hc (hk.trans (kind_of_isEmpty ha h))
    rintro rfl
    exact hc rfl
  tokens := by
    rintro tokens rfl
    exact absurd rfl hc

/-- An operand about dates is a window exactly under the operators on windows. -/
theorem Suits.of_date (ha : field.allows comparison = true) (hf : field.kind = .date)
    (hk : operand.kind = .date)
    (hw : (∃ seconds now, operand = .window seconds now) ↔
      comparison = .isInLast ∨ comparison = .isNotInLast) : operand.Suits field comparison where
  kind := hk.trans hf.symm
  ordinal := by
    rintro n rfl
    cases hk
  window := hw
  nothing := by
    refine iff_of_false ?_ fun h ↦ ?_
    · rintro rfl
      cases hk
    · rw [kind_of_isEmpty ha h] at hf
      cases hf
  tokens := by
    rintro tokens rfl
    cases hk

/-- A day or an instant is about a date, and no window. -/
theorem kind_of_ofDate (h : ofDate value = .ok operand) :
    operand.kind = .date ∧ ¬ ∃ seconds now, operand = .window seconds now := by
  rw [ofDate] at h
  split at h
  · cases h
    exact ⟨rfl, nofun⟩
  · cases h
    exact ⟨rfl, nofun⟩
  · cases h

/-- A window is read as one. -/
theorem exists_window_of_ofWindow (h : ofWindow now value = .ok operand) :
    ∃ seconds, operand = .window seconds now := by
  obtain ⟨seconds, -, rfl⟩ := Option.map_eq_some_iff.mp (orError_eq_ok_iff.mp h)
  exact ⟨seconds, rfl⟩

/-- The literal of a collection is read as its tokens, if it has any. -/
theorem ofLiteral_of_collection (hf : field.kind = .collection) (hc : comparison ≠ .isEmpty) :
    ofLiteral field comparison now value =
      if splitTokens value = [] then .error .noMembers else .ok (.members (splitTokens value)) := by
  unfold ofLiteral
  rw [hf]
  cases comparison with
  | isEmpty => exact absurd rfl hc
  | _ => cases splitTokens value <;> rfl

/-- A literal that can be read is read as what the field and the operator ask for. -/
theorem suits_of_ofLiteral (ha : field.allows comparison = true)
    (h : ofLiteral field comparison now value = .ok operand) :
    operand.Suits field comparison := by
  cases hf : field.kind with
  | text =>
    unfold ofLiteral at h
    rw [hf] at h
    cases h
    exact .of_kind ha hf.symm nofun nofun nofun
  | enum =>
    unfold ofLiteral at h
    rw [hf] at h
    cases hd : field.domain? with
    | none =>
      rw [hd] at h
      cases h
    | some domain =>
      rw [hd] at h
      obtain ⟨n, hn, rfl⟩ := Option.map_eq_some_iff.mp (orError_eq_ok_iff.mp h)
      refine .of_kind ha hf.symm nofun nofun ?_
      rintro _ ⟨⟩
      exact ⟨domain, hd, Domain.ordinal?_lt hn⟩
  | number =>
    unfold ofLiteral at h
    rw [hf] at h
    obtain ⟨n, -, rfl⟩ := Option.map_eq_some_iff.mp (orError_eq_ok_iff.mp h)
    exact .of_kind ha hf.symm nofun nofun nofun
  | date =>
    unfold ofLiteral at h
    rw [hf] at h
    by_cases hc : comparison = .isInLast ∨ comparison = .isNotInLast
    · have hw : ofWindow now value = .ok operand := by rcases hc with rfl | rfl <;> exact h
      obtain ⟨seconds, rfl⟩ := exists_window_of_ofWindow hw
      exact .of_date ha hf rfl (iff_of_true ⟨seconds, now, rfl⟩ hc)
    · have hd : ofDate value = .ok operand := by
        cases comparison with
        | isInLast => exact absurd (.inl rfl) hc
        | isNotInLast => exact absurd (.inr rfl) hc
        | _ => exact h
      obtain ⟨hk, hw⟩ := kind_of_ofDate hd
      exact .of_date ha hf hk (iff_of_false hw hc)
  | duration =>
    unfold ofLiteral at h
    rw [hf] at h
    obtain ⟨seconds, -, rfl⟩ := map_eq_ok_iff.mp h
    exact .of_kind ha hf.symm nofun nofun nofun
  | collection =>
    have hw : ¬ (comparison = .isInLast ∨ comparison = .isNotInLast) := by
      intro hc
      rw [kind_of_window ha hc] at hf
      cases hf
    by_cases hc : comparison = .isEmpty
    · unfold ofLiteral at h
      rw [hf, hc] at h
      cases h
      exact ⟨hf.symm, nofun, iff_of_false nofun hw, iff_of_true rfl hc, nofun⟩
    · rw [ofLiteral_of_collection hf hc] at h
      split at h
      · cases h
      · next hne =>
        cases h
        refine ⟨hf.symm, nofun, iff_of_false nofun hw, iff_of_false nofun hc, ?_⟩
        rintro _ ⟨⟩
        exact ⟨hne, fun token ht ↦ isToken_of_mem_splitTokens ht⟩

end Literals

end Operand

/-- The value of a field on a series is one that the field can hold. -/
theorem Series.suits_value? {r : Series} {field : Field} {value : FieldValue}
    (h : r.value? field = some value) : value.Suits field := by
  have hdomain : ∀ {text : String}, ordinalOf field text = some value → value.Suits field := by
    intro text ho
    obtain ⟨n, hn, rfl⟩ := Option.map_eq_some_iff.mp ho
    obtain ⟨domain, hd, hn⟩ := Option.bind_eq_some_iff.mp hn
    refine ⟨?_, ?_⟩
    · cases field with
      | publicationStatus | ageRating | wantToRead => rfl
      | _ => cases hd
    · rintro _ ⟨⟩
      exact ⟨domain, hd, Domain.ordinal?_lt hn⟩
  cases field with
  | placeholder => cases h
  | summary | path | seriesName | filePath =>
    cases h
    exact .of_kind rfl nofun
  | publicationStatus | ageRating => exact hdomain h
  | wantToRead =>
    cases h
    refine ⟨rfl, ?_⟩
    rintro _ ⟨⟩
    exact ⟨.boolean, rfl, Bool.toNat_lt r.wantToRead⟩
  | userRating | averageRating | releaseYear =>
    obtain ⟨n, -, rfl⟩ := Option.map_eq_some_iff.mp h
    exact .of_kind rfl nofun
  | readTime =>
    obtain ⟨seconds, -, rfl⟩ := Option.map_eq_some_iff.mp h
    exact .of_kind rfl nofun
  | _ =>
    cases h
    exact .of_kind rfl nofun

section Evaluation

variable {r : Series} {field : Field} {comparison : Comparison} {kind : ValueKind}
  {operand : Operand} {value : FieldValue}

/-- A series that has a value for the field passes a condition when the value does. -/
theorem Series.evaluate_of_value? (h : r.value? field = some value) :
    Condition.evaluate ⟨field, comparison, kind, operand⟩ r =
      Condition.holds comparison operand value := by
  have hv : Filterable.value? r field = some value := h
  simp only [Condition.evaluate, hv]

/-- Whether a series carries a value of a field, for a date a present one. -/
def Series.carries (r : Series) (field : Field) : Bool :=
  (r.value? field).any FieldValue.isPresent

/-- A series that carries a value has one, and one that is present. -/
theorem Series.exists_value?_of_carries (h : r.carries field = true) :
    ∃ value, r.value? field = some value ∧ value.isPresent = true := by
  rw [carries] at h
  cases hv : r.value? field with
  | none =>
    rw [hv] at h
    cases h
  | some value =>
    rw [hv, Option.any_some] at h
    exact ⟨value, rfl, h⟩

/-- A series that carries no value has none, or knows of no date. -/
theorem Series.carries_eq_false_iff :
    r.carries field = false ↔
      r.value? field = none ∨ r.value? field = some (.date none) := by
  rw [carries]
  cases r.value? field with
  | none => simp
  | some value => simp [FieldValue.isPresent_eq_false_iff]

/-- A series that carries no value of the field passes no condition on it. -/
theorem Series.evaluate_of_carries_eq_false (h : r.carries field = false) :
    Condition.evaluate ⟨field, comparison, kind, operand⟩ r = false := by
  rcases carries_eq_false_iff.mp h with hv | hv
  · have hv : Filterable.value? r field = none := hv
    simp only [Condition.evaluate, hv]
  · rw [evaluate_of_value? hv]
    cases operand <;> rfl

end Evaluation

/-! ### Series with one text -/

/-- A series that has nothing but one text, in a field for texts or members. -/
def Series.bearing (field : Field) (s : String) : Series :=
  match field.role?, field with
  | some role, _ => { people := [(role, [s])] }
  | none, .summary => { summary := s }
  | none, .seriesName => { name := s }
  | none, .path => { folderPath := s }
  | none, .filePath => { filePaths := [s] }
  | none, .languages => { language := s }
  | none, .libraries => { library := s }
  | none, .formats => { format := s }
  | none, .tags => { tags := [s] }
  | none, .collectionTags => { collectionTags := [s] }
  | none, .genres => { genres := [s] }
  | none, _ => {}

/-- A text that is not empty is the one member of its series. -/
theorem Series.value?_bearing {field : Field} (hf : field.kind = .collection) {s : String}
    (hs : s ≠ "") : (bearing field s).value? field = some (.members [s]) := by
  cases field with
  | publicationStatus | ageRating | wantToRead => cases hf
  | languages | libraries | formats =>
    change some (FieldValue.members (singleMember s)) = _
    rw [singleMember, if_neg hs]
  | _ => first | rfl | cases hf

end SeriesFilter
