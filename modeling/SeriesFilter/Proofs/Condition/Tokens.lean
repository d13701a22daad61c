import SeriesFilter.Condition.Operand
import SeriesFilter.Proofs.Text.Parts

/-!
# Tokens of collection literals

The literal of a collection field is cut at its commas, and blanks around the parts do not count. A
token is a text that this leaves alone. A literal is cut into tokens, and a text is found among its
own parts exactly when it is one. Two literals with a comma between them have the tokens of both.
-/

namespace SeriesFilter

namespace Text

/-- Trimming adds no characters. -/
theorem trimChars_subset (s : List Char) : trimChars s ⊆ s := by
  have hend : trimChars s <+: trimStart s := trimEnd_prefix (trimStart s)
  have hstart : trimStart s <:+ s := List.dropWhile_suffix isBlank
  exact List.Subset.trans hend.subset hstart.subset

end Text

namespace Operand

open Text

/-- A text that a literal can stand for in a collection: it is not empty, has no blanks at its ends
and no comma. -/
structure IsToken (s : String) : Prop where
  ne_empty : s ≠ ""
  trimmed : trim s = s
  comma : ',' ∉ s.toList

/-- A literal is cut into tokens. -/
theorem isToken_of_mem_splitTokens {value token : String} (h : token ∈ splitTokens value) :
    IsToken token := by
  obtain ⟨cs, hcs, rfl⟩ := List.mem_map.mp h
  obtain ⟨hm, hne⟩ := List.mem_filter.mp hcs
  obtain ⟨part, hp, rfl⟩ := List.mem_map.mp hm
  refine ⟨?_, ?_, ?_⟩
  · intro he
    have hnil : trimChars part = [] := by simpa using congrArg String.toList he
    simp [hnil] at hne
  · rw [trim, String.toList_ofList, trimChars_trimChars]
  · rw [String.toList_ofList]
    exact fun hc ↦ notMem_of_mem_splitAtEach hp (trimChars_subset part hc)

/-- A token is cut into itself. -/
theorem IsToken.splitTokens_eq {s : String} (h : IsToken s) : splitTokens s = [s] := by
  have ht : trimChars s.toList = s.toList := by
    rw [← toList_trim, h.trimmed]
  have hne : s.toList ≠ [] := by simpa using h.ne_empty
  rw [splitTokens, splitAtEach_of_notMem h.comma]
  simp [ht, hne]

/-- The tokens are the texts found among their own parts. -/
theorem mem_splitTokens_self_iff {s : String} : s ∈ splitTokens s ↔ IsToken s := by
  constructor
  · exact isToken_of_mem_splitTokens
  · intro h
    rw [h.splitTokens_eq]
    exact List.mem_singleton_self s

/-- A literal with another one after a comma has the tokens of both. -/
theorem splitTokens_append (u v : String) :
    splitTokens (u ++ "," ++ v) = splitTokens u ++ splitTokens v := by
  have hl : (u ++ "," ++ v).toList = u.toList ++ ',' :: v.toList := by simp
  rw [splitTokens, hl, splitAtEach_append, List.map_append, List.filter_append, List.map_append,
    splitTokens, splitTokens]

/-- A literal names a token: it stands between two commas, or an end and a comma, with nothing but
blanks around it, and is not empty. -/
def Names (value token : String) : Prop :=
  token ≠ "" ∧ ∃ part : List Char, ',' ∉ part ∧
    ',' :: part ++ [','] <:+: ',' :: value.toList ++ [','] ∧ trimChars part = token.toList

/-- A literal is cut into the tokens that it names. -/
theorem mem_splitTokens_iff {value token : String} :
    token ∈ splitTokens value ↔ Names value token := by
  constructor
  · intro h
    have hne := (isToken_of_mem_splitTokens h).ne_empty
    obtain ⟨cs, hcs, rfl⟩ := List.mem_map.mp h
    obtain ⟨part, hp, rfl⟩ := List.mem_map.mp (List.mem_filter.mp hcs).1
    obtain ⟨hn, hi⟩ := mem_splitAtEach_iff.mp hp
    exact ⟨hne, part, hn, hi, String.toList_ofList.symm⟩
  · rintro ⟨hne, part, hn, hi, ht⟩
    have hp : part ∈ splitAtEach ',' value.toList := mem_splitAtEach_iff.mpr ⟨hn, hi⟩
    have hcs : trimChars part ∈
        ((splitAtEach ',' value.toList).map trimChars).filter (!·.isEmpty) := by
      refine List.mem_filter.mpr ⟨List.mem_map_of_mem hp, ?_⟩
      simpa [ht] using hne
    rw [← String.ofList_toList (s := token), ← ht]
    exact List.mem_map_of_mem hcs

end Operand

end SeriesFilter
