import SeriesFilter.Proofs.Portable.Health
import SeriesFilter.Proofs.Portable.RoundTrip

/-!
# Encoded filters in addresses

Whatever the texts of a filter hold, its encoding stands in an address as it is. It is the version,
the separator and the symbols of the document, and no symbol is the separator. So the separator
stands in it once, nothing of it is trimmed away, and it is in health.
-/

namespace SeriesFilter.Portable

open Text

/-- The characters that encoded filters may hold, all of which stand for themselves in an address:
ASCII letters and digits, `-`, `_` and `~`. -/
def isUnreserved (c : Char) : Bool :=
  c.isAlphanum || c == '-' || c == '_' || c == '~'

/-- A symbol of an encoding stands for itself. -/
theorem isUnreserved_of_isSymbol {c : Char} (h : Base64Url.isSymbol c = true) :
    isUnreserved c = true := by
  rw [isUnreserved, Bool.or_eq_true]
  exact .inl h

/-- The separator is no symbol of an encoding. -/
theorem separator_notMem_symbols (bs : List UInt8) : separator ∉ Base64Url.encode bs := by
  intro h
  have hs : Base64Url.isSymbol separator = true := Base64Url.isSymbol_of_mem_encode h
  revert hs
  decide

/-- An encoded filter holds characters only that stand for themselves. -/
theorem isUnreserved_of_mem_encode {f : Filter} {c : Char} (h : c ∈ (encode f).toList) :
    isUnreserved c = true := by
  rw [encode_eq_enclose, toList_enclose, List.mem_append, List.mem_cons] at h
  rcases h with hv | rfl | hs
  · rcases mem_version_iff.mp hv with rfl | rfl | rfl <;> decide
  · decide
  · exact isUnreserved_of_isSymbol (Base64Url.isSymbol_of_mem_encode hs)

/-- The separator stands in an encoded filter once. -/
theorem count_separator_encode (f : Filter) : (encode f).toList.count separator = 1 := by
  have hv : version.toList.count separator = 0 := by decide
  have hs := List.count_eq_zero.mpr (separator_notMem_symbols (Document.ofFilter f).payload)
  rw [encode_eq_enclose, toList_enclose, List.count_append, List.count_cons_self, hv, hs]

/-- An encoded filter is in health. -/
theorem isErrored_encode (f : Filter) : isErrored (encode f) = false := by
  rw [isErrored_eq_false_iff, encode_eq_enclose, trim_enclose, hasHeader_iff]
  exact .inr ⟨_, split?_enclose _⟩

/-- An encoded filter stands in an address as it is, whatever its texts hold. Its characters are
ASCII letters and digits, `-`, `_` and `~`; the latter stands in it once, between the version and
symbols that decode to the document of the filter. Trimming leaves it as it is, and it is in
health. -/
theorem encode_stands_in_address (f : Filter) :
    (∀ c ∈ (encode f).toList, isUnreserved c = true) ∧
    (encode f).toList.count '~' = 1 ∧
    (∃ symbols : String, encode f = "sf2~" ++ symbols ∧
      Base64Url.decode symbols.toUTF8.toList = .ok (Document.ofFilter f).payload) ∧
    trim (encode f) = encode f ∧ isErrored (encode f) = false := by
  refine ⟨fun c ↦ isUnreserved_of_mem_encode, count_separator_encode f, ?_, ?_,
    isErrored_encode f⟩
  · refine ⟨_, ?_, decode_symbols _⟩
    have hv : version.toList = ['s', 'f', '2'] := by decide
    rw [← String.toList_inj, encode_eq_enclose, toList_enclose, hv, String.toList_append,
      String.toList_ofList, separator]
    simp
  · rw [encode_eq_enclose, trim_enclose]

/-- A name of separators, quotes and characters beyond ASCII leaves one separator in the encoded
filter, which begins with the version. -/
theorem encode_stands_in_address_separators :
    let f : Filter := { name := some "~\"\n~\u00e9~" }
    '~' ∈ (encode f).toList ∧ isUnreserved '~' = true ∧ (encode f).toList.count '~' = 1 ∧
      isErrored (encode f) = false := by
  intro f
  obtain ⟨hu, hc, -, -, he⟩ := encode_stands_in_address f
  have hm : '~' ∈ (encode f).toList := List.count_pos_iff.mp (by rw [hc]; exact Nat.one_pos)
  exact ⟨hm, hu '~' hm, hc, he⟩

end SeriesFilter.Portable
