import SeriesFilter.Proofs.Compile.Meaning
import SeriesFilter.Proofs.Condition.Shapes
import SeriesFilter.Proofs.Text.Lower

/-!
# Text operators without regard to case

Three operators look for a literal in the texts of a field, both in lower case. They should find at
least what is there letter by letter, and mostly they do. But the lower case of a capital sigma
depends on what stands around it, and the literal and the text are put into lower case apart: a
literal that ends in a final sigma, or begins with a sigma, is missed in some of the texts that hold
it. No other literal is missed anywhere.
-/

namespace SeriesFilter

open Calendar Text

/-! ### Finding a literal -/

namespace Comparison

/-- The operators without regard to case. -/
def folding : List Comparison :=
  [.matches, .beginsWith, .endsWith]

/-- There are three of them. -/
theorem mem_folding_iff {c : Comparison} :
    c ∈ folding ↔ c = .matches ∨ c = .beginsWith ∨ c = .endsWith := by
  simp [folding]

/-- Where these operators look for a part: anywhere, at the beginning or at the end. -/
def Finds (c : Comparison) (part whole : List Char) : Prop :=
  match c with
  | .matches => part <:+: whole
  | .beginsWith => part <+: whole
  | .endsWith => part <:+ whole
  | _ => False

/-- The literals that these operators miss in some text that holds them. -/
def Misses (c : Comparison) (part : List Char) : Prop :=
  match c with
  | .matches => EndsFinal part ∨ BeginsFinal part []
  | .beginsWith => EndsFinal part
  | .endsWith => BeginsFinal part []
  | _ => False

variable {c : Comparison}

/-- The lower case of a literal is found in the lower case of all texts that hold the literal unless
it is one of those missed. -/
theorem forall_finds_lowerChars_iff (hc : c ∈ folding) {part : List Char} :
    (∀ whole, c.Finds part whole → c.Finds (lowerChars part) (lowerChars whole)) ↔
      ¬ c.Misses part := by
  rcases mem_folding_iff.mp hc with rfl | rfl | rfl
  · exact forall_lowerChars_infix_iff.trans not_or.symm
  · exact forall_lowerChars_prefix_iff
  · exact forall_lowerChars_suffix_iff

/-- Where a literal keeps its sigmas, its lower case is found. -/
theorem finds_lowerChars_of_keepsFinals (hc : c ∈ folding) {before part after : List Char}
    (hb : c = .beginsWith → before = []) (ha : c = .endsWith → after = [])
    (hk : KeepsFinals before.reverse part after) :
    c.Finds (lowerChars part) (lowerChars (before ++ part ++ after)) := by
  rcases mem_folding_iff.mp hc with rfl | rfl | rfl
  · exact lowerChars_infix_of_keepsFinals hk
  · rw [hb rfl] at hk ⊢
    exact lowerChars_prefix_iff.mpr (keepsFinals_iff_not.mp hk).1
  · rw [ha rfl] at hk ⊢
    rw [List.append_nil]
    exact lowerChars_suffix_iff.mpr (keepsFinals_iff_not.mp hk).2

/-- A literal without capital sigmas is missed nowhere. -/
theorem not_misses_of_notMem {part : List Char} (h : 'Σ' ∉ part) : ¬ c.Misses part := by
  have he : ¬ EndsFinal part := by
    rintro ⟨x, y, rfl, -⟩
    exact h (List.mem_append_right x List.mem_cons_self)
  have hb : ¬ BeginsFinal part [] := by
    rintro ⟨x, y, rfl, -⟩
    exact h (List.mem_append_right x List.mem_cons_self)
  cases c with
  | «matches» => exact not_or.mpr ⟨he, hb⟩
  | beginsWith => exact he
  | endsWith => exact hb
  | _ => exact fun h ↦ h

end Comparison

/-- On texts, these operators find the lower case of the literal in that of the text. -/
theorem Condition.textHolds_iff_finds {c : Comparison} (hc : c ∈ Comparison.folding)
    (value text : String) :
    textHolds c value (lower value) text = true ↔
      c.Finds (lowerChars value.toList) (lowerChars text.toList) := by
  rw [← toList_lower value]
  rcases Comparison.mem_folding_iff.mp hc with rfl | rfl | rfl
  · exact occursIn_iff
  · exact List.isPrefixOf_iff_prefix
  · exact List.isSuffixOf_iff_suffix

/-! ### The texts of a series -/

/-- The texts that a series has for a field. -/
def Series.textsOf (r : Series) (field : Field) : List String :=
  match r.value? field with
  | some (.text s) => [s]
  | some (.texts all) => all
  | _ => []

section Folding

variable {field : Field} (hf : field.isFilterable = true) (hk : field.kind = .text)
include hf hk

/-- A series with one text has it as the text of its field. -/
theorem Series.textsOf_bearing (s : String) : (bearing field s).textsOf field = [s] := by
  cases field with
  | placeholder => cases hf
  | summary | seriesName | path | filePath => rfl
  | _ => cases hk

variable {c : Comparison} (hc : c ∈ Comparison.folding)
include hc

/-- The operators without regard to case apply to all text fields. -/
theorem Field.allows_folding : field.allows c = true := by
  have ht : ∀ c ∈ Comparison.folding, c.appliesTo .text = true := by decide
  exact Field.allows_of_kind hf hk (ht c hc)

/-- A statement with one of these operators holds of a series when the lower case of its literal is
found in one of the texts. -/
theorem Statement.holds_folding_iff (now : Instant) (value : String) (r : Series) :
    Statement.holds now r ⟨field, c, value⟩ = true ↔
      ∃ t ∈ r.textsOf field, c.Finds (lowerChars value.toList) (lowerChars t.toList) := by
  have ho : Operand.ofLiteral field c now value = .ok (.ofText value) := by
    unfold Operand.ofLiteral
    rw [hk]
  have hany : ∀ texts, Condition.anyTextHolds c value (lower value) texts =
      texts.any (Condition.textHolds c value (lower value)) := by
    intro texts
    rcases Comparison.mem_folding_iff.mp hc with rfl | rfl | rfl <;> rfl
  have hvalue : Statement.holds now r ⟨field, c, value⟩ =
      (r.textsOf field).any (Condition.textHolds c value (lower value)) := by
    rw [holds_of_readable (Field.allows_folding hf hk hc) ho]
    cases field with
    | placeholder => cases hf
    | summary | path =>
      rw [Series.evaluate_of_value? rfl]
      exact (Bool.or_false _).symm
    | seriesName | filePath =>
      rw [Series.evaluate_of_value? rfl]
      exact hany _
    | _ => cases hk
  rw [hvalue, List.any_eq_true]
  simp only [Condition.textHolds_iff_finds hc]

end Folding

/-- The operators without regard to case can be used with every literal on every text field, and
hold of the series that have the literal where they look, both in lower case. So they find a literal
wherever it keeps its sigmas; and they find it in all texts that hold it letter by letter exactly
when it neither ends in a final sigma nor begins with a sigma, as far as they look for something
before it or behind it. -/
theorem Statement.holds_of_finds_iff {field : Field} (hf : field.isFilterable = true)
    (hk : field.kind = .text) {c : Comparison} (hc : c ∈ Comparison.folding) (now : Instant)
    (value : String) :
    let s : Statement := ⟨field, c, value⟩
    s.IsCompiled now ∧
      (∀ r : Series, s.holds now r = true ↔
        ∃ t ∈ r.textsOf field, c.Finds (lowerChars value.toList) (lowerChars t.toList)) ∧
      (∀ r : Series, ∀ t ∈ r.textsOf field, ∀ before after,
        t.toList = before ++ value.toList ++ after →
        (c = .beginsWith → before = []) → (c = .endsWith → after = []) →
        KeepsFinals before.reverse value.toList after → s.holds now r = true) ∧
      ((∀ r : Series, ∀ t ∈ r.textsOf field, c.Finds value.toList t.toList →
          s.holds now r = true) ↔
        ¬ c.Misses value.toList) := by
  have hholds := holds_folding_iff hf hk hc now value
  refine ⟨?_, hholds, ?_, ?_⟩
  · have hv : IsValid now ⟨field, c, value⟩ := by
      refine ⟨Field.allows_folding hf hk hc, .ofText value, ?_⟩
      unfold Operand.ofLiteral
      rw [hk]
    exact isCompiled_iff.mpr (exists_condition?_iff.mpr hv)
  · intro r t ht before after htext hb ha hkeeps
    refine (hholds r).mpr ⟨t, ht, ?_⟩
    rw [htext]
    exact Comparison.finds_lowerChars_of_keepsFinals hc hb ha hkeeps
  · rw [← Comparison.forall_finds_lowerChars_iff hc]
    constructor
    · intro h whole hw
      have htexts := Series.textsOf_bearing hf hk (String.ofList whole)
      have hr := h (Series.bearing field (String.ofList whole)) (String.ofList whole)
        (by rw [htexts]; exact List.mem_singleton_self _) (by rwa [String.toList_ofList])
      obtain ⟨t, ht, hfind⟩ := (hholds _).mp hr
      rw [htexts, List.mem_singleton] at ht
      rwa [ht, String.toList_ofList] at hfind
    · intro h r t ht hfind
      exact (hholds r).mpr ⟨t, ht, h t.toList hfind⟩

/-- A part of the name of a series is found. -/
theorem Statement.holds_of_finds_iff_onTit :
    Statement.holds ⟨0, 0⟩ { name := "Attack on Titan" : Series }
      ⟨.seriesName, .matches, "on Tit"⟩ = true := by
  have hk : Field.kind .seriesName = .text := rfl
  have h := (holds_of_finds_iff rfl hk (c := .matches) (by decide) ⟨0, 0⟩ "on Tit").2.2.2
  refine h.mpr (Comparison.not_misses_of_notMem (by decide)) _ "Attack on Titan" (by decide) ?_
  exact ⟨"Attack ".toList, "an".toList, by decide⟩

/-- A name that goes on behind a final sigma is not found by what it begins with. -/
theorem Statement.not_forall_holds_of_finds :
    ¬ ∀ (field : Field) (c : Comparison) (now : Instant) (value : String) (r : Series) (t : String),
      field.isFilterable = true → field.kind = .text → c ∈ Comparison.folding →
      t ∈ r.textsOf field → c.Finds value.toList t.toList →
      Statement.holds now r ⟨field, c, value⟩ = true := by
  intro h
  have hh := h .seriesName .matches ⟨0, 0⟩ "ΑΣ" { name := "ΑΣΑ" } "ΑΣΑ" rfl rfl (by decide)
    (by decide) ⟨[], ['Α'], rfl⟩
  exact absurd hh (by decide +kernel)

end SeriesFilter
