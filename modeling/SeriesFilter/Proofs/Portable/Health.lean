import Mathlib.Data.List.TakeDrop
import Mathlib.Data.List.TakeWhile
import SeriesFilter.Portable.Codec
import SeriesFilter.Proofs.Outcome

/-!
# The health of encoded filters

A string is in health when it is blank or begins with the version and the separator, once the blanks
around it are gone. That is told from its beginning alone, and the decoder agrees: a string that is
not in health is never decoded, for a reason that lies in its beginning or in its length, and one
that is in health is refused for what comes after, or for its length.
-/

namespace SeriesFilter.Portable

open Text

/-! ### The beginning of a string -/

/-- A string is parted at its first separator. -/
theorem split?_append {v : List Char} (h : separator ∉ v) (symbols : List Char) :
    split? (v ++ separator :: symbols) = some (v, symbols) := by
  have hv : ∀ c ∈ v, (c != separator) = true := fun c hc ↦
    bne_iff_ne.mpr (ne_of_mem_of_not_mem hc h)
  rw [split?, List.span_eq_takeWhile_dropWhile, List.takeWhile_append_of_pos hv,
    List.dropWhile_append_of_pos hv]
  simp

/-- A string without a separator is not parted. -/
theorem split?_of_notMem {s : List Char} (h : separator ∉ s) : split? s = none := by
  have hs : ∀ c ∈ s, (c != separator) = true := fun c hc ↦
    bne_iff_ne.mpr (ne_of_mem_of_not_mem hc h)
  rw [split?, List.span_eq_takeWhile_dropWhile, List.dropWhile_eq_nil_iff.mpr hs]

/-- A string that is parted is the version, the first separator and the symbols. -/
theorem split?_eq_some_iff {s v symbols : List Char} :
    split? s = some (v, symbols) ↔ s = v ++ separator :: symbols ∧ separator ∉ v := by
  refine ⟨fun h ↦ ?_, fun ⟨hs, hn⟩ ↦ by rw [hs, split?_append hn]⟩
  by_cases hm : separator ∈ s
  · obtain ⟨before, after, rfl, hn⟩ := List.eq_append_cons_of_mem hm
    rw [split?_append hn] at h
    cases h
    exact ⟨rfl, hn⟩
  · rw [split?_of_notMem hm] at h
    cases h

/-- A string that is parted is the version, the separator and the symbols. -/
theorem eq_of_split? {s v symbols : List Char} (h : split? s = some (v, symbols)) :
    s = v ++ separator :: symbols :=
  (split?_eq_some_iff.mp h).1

/-- A string is not parted when it has no separator. -/
theorem split?_eq_none_iff {s : List Char} : split? s = none ↔ separator ∉ s := by
  refine ⟨fun h hm ↦ ?_, split?_of_notMem⟩
  obtain ⟨before, after, rfl, hn⟩ := List.eq_append_cons_of_mem hm
  rw [split?_append hn] at h
  cases h

/-- Whether a list of characters begins with the version and the separator. -/
def HasHeader (s : List Char) : Prop :=
  version.toList ++ [separator] <+: s

/-- A list begins with the version and the separator when it is parted behind the version. -/
theorem hasHeader_iff {s : List Char} :
    HasHeader s ↔ ∃ symbols, split? s = some (version.toList, symbols) := by
  have hn : separator ∉ version.toList := by decide
  simp only [split?_eq_some_iff, hn, not_false_eq_true, and_true]
  constructor
  · rintro ⟨symbols, rfl⟩
    exact ⟨symbols, by simp⟩
  · rintro ⟨symbols, rfl⟩
    exact ⟨symbols, by simp⟩

/-! ### The two readers -/

variable {s : String} {max : Nat}

/-- A string is in health when it is blank or begins with the version and the separator. -/
theorem isErrored_eq_false_iff :
    isErrored s = false ↔ trim s = "" ∨ HasHeader (trim s).toList := by
  have he : trim s = "" ↔ trimChars s.toList = [] := by
    rw [← toList_trim, String.toList_eq_nil_iff]
  rw [he, hasHeader_iff, toList_trim, isErrored]
  cases ht : trimChars s.toList with
  | nil => simp
  | cons c rest =>
    cases hs : split? (c :: rest) with
    | none => simp
    | some parts => simp [Prod.ext_iff]

/-- Whether an error tells what is wrong with the beginning of a string: it has no separator, or
stands under another version. -/
inductive DecodeError.ExplainsHeader (s : List Char) : DecodeError → Prop
  | missing (h : separator ∉ s) : ExplainsHeader s .missingSeparator
  | version {v symbols : List Char} (hs : s = v ++ separator :: symbols) (hn : separator ∉ v)
    (hv : v ≠ version.toList) : ExplainsHeader s (.unsupportedVersion (String.ofList v))

/-- A string that is not in health is refused, as too long or for its beginning. -/
theorem decodeUpTo_of_isErrored (h : isErrored s = true) (max : Nat) :
    let size := (trim s).utf8ByteSize
    ∃ e, decodeUpTo max s = .error e ∧ (max < size ∧ e = .tooLong size max ∨
      size ≤ max ∧ e.ExplainsHeader (trim s).toList) := by
  intro size
  have hh : ¬ (trim s = "" ∨ HasHeader (trim s).toList) := by
    rw [← isErrored_eq_false_iff, h]
    exact Bool.noConfusion
  obtain ⟨hb, hh⟩ := not_or.mp hh
  rw [hasHeader_iff, not_exists] at hh
  rw [decodeUpTo, if_neg (mt String.isEmpty_iff.mp hb)]
  by_cases hl : max < size
  · exact ⟨_, if_pos hl, .inl ⟨hl, rfl⟩⟩
  have hle : size ≤ max := Nat.le_of_not_lt hl
  rw [if_neg hl]
  cases hs : split? (trim s).toList with
  | none => exact ⟨_, rfl, .inr ⟨hle, .missing (split?_eq_none_iff.mp hs)⟩⟩
  | some parts =>
    obtain ⟨v, symbols⟩ := parts
    obtain ⟨he, hn⟩ := split?_eq_some_iff.mp hs
    have hv : v ≠ version.toList := by
      rintro rfl
      exact hh symbols hs
    exact ⟨_, if_pos hv, .inr ⟨hle, .version he hn hv⟩⟩

/-- What stands behind the separator is not refused for the beginning of the string. -/
theorem decodePayload_ne_header (bytes : List UInt8) :
    decodePayload bytes ≠ .error .missingSeparator ∧
      ∀ v, decodePayload bytes ≠ .error (.unsupportedVersion v) := by
  rw [decodePayload]
  cases (Json.Document.ofBytes bytes).read Document.reader with
  | error fault => exact ⟨nofun, nofun⟩
  | ok document =>
    dsimp only
    cases (uint8? document.combination).bind Combination.ofId? with
    | none => exact ⟨nofun, nofun⟩
    | some combination => exact ⟨nofun, nofun⟩

/-- A string in health is not refused for its beginning. -/
theorem decodeUpTo_ne_header (h : isErrored s = false) (max : Nat) :
    decodeUpTo max s ≠ .error .missingSeparator ∧
      ∀ v, decodeUpTo max s ≠ .error (.unsupportedVersion v) := by
  rw [decodeUpTo]
  split
  · exact ⟨nofun, nofun⟩
  next hb =>
  have hh : HasHeader (trim s).toList :=
    (isErrored_eq_false_iff.mp h).resolve_left (mt String.isEmpty_iff.mpr hb)
  obtain ⟨symbols, hs⟩ := hasHeader_iff.mp hh
  split
  · exact ⟨nofun, nofun⟩
  rw [hs]
  dsimp only
  rw [if_neg (not_not_intro rfl)]
  cases Base64Url.decode (String.ofList symbols).toUTF8.toList with
  | error error => exact ⟨nofun, nofun⟩
  | ok bytes => exact decodePayload_ne_header bytes

/-- Two bounds that both admit a string do not tell in what it is decoded as. -/
theorem decodeUpTo_eq_of_le {other : Nat} (h : (trim s).utf8ByteSize ≤ max)
    (ho : (trim s).utf8ByteSize ≤ other) : decodeUpTo other s = decodeUpTo max s := by
  rw [decodeUpTo, decodeUpTo, if_neg (Nat.not_lt.mpr h), if_neg (Nat.not_lt.mpr ho)]

/-- The check of a string's health and the decoder agree. The check asks for the version and the
separator at the beginning of a string that is not blank. Where it finds an error the decoder does
too: one of the length, when the string is over the bound, and else the one that the beginning has.
Where it finds none the decoder finds none in the beginning either, so what is decoded is in health.
Blanks around the string count for neither, and a bound only for the strings that are over it. -/
theorem isErrored_agrees_with_decode (s : String) (max : Nat) :
    let size := (trim s).utf8ByteSize
    (isErrored s = false ↔ trim s = "" ∨ HasHeader (trim s).toList) ∧
    (isErrored s = true → ∃ e, decodeUpTo max s = .error e ∧
      (max < size ∧ e = .tooLong size max ∨ size ≤ max ∧ e.ExplainsHeader (trim s).toList)) ∧
    (isErrored s = false → decodeUpTo max s ≠ .error .missingSeparator ∧
      ∀ v, decodeUpTo max s ≠ .error (.unsupportedVersion v)) ∧
    (∀ d, decodeUpTo max s = .ok d → isErrored s = false) ∧
    (∀ before after : String, (∀ c ∈ before.toList, isBlank c = true) →
      (∀ c ∈ after.toList, isBlank c = true) →
      isErrored (before ++ s ++ after) = isErrored s ∧
        decodeUpTo max (before ++ s ++ after) = decodeUpTo max s) ∧
    ∀ other, size ≤ max → size ≤ other → decodeUpTo other s = decodeUpTo max s := by
  intro size
  have herrored (h : isErrored s = true) := decodeUpTo_of_isErrored h max
  refine ⟨isErrored_eq_false_iff, herrored, fun h ↦ decodeUpTo_ne_header h max, ?_, ?_,
    fun other ↦ decodeUpTo_eq_of_le⟩
  · intro d hd
    rw [Bool.eq_false_iff]
    intro h
    obtain ⟨e, he, -⟩ := herrored h
    rw [hd] at he
    cases he
  · intro before after hb ha
    have ht := trim_between hb ha s
    refine ⟨?_, by rw [decodeUpTo, decodeUpTo, ht]⟩
    rw [isErrored, isErrored, ← toList_trim, ← toList_trim, ht]

/-- The empty document is in health, between blanks and under every bound from its seven bytes on;
under another version it is not, though the version comes again behind the separator. -/
theorem isErrored_agrees_with_decode_padded :
    (∃ e, decodeUpTo 100 "\u3000sf3~sf2~e30\n" = .error e ∧
      (100 < 11 ∧ e = .tooLong 11 100 ∨ 11 ≤ 100 ∧ e.ExplainsHeader "sf3~sf2~e30".toList)) ∧
    decodeUpTo 7 "sf2~e30" = .ok {} ∧ isErrored "sf2~e30" = false ∧
    (∀ v, decodeUpTo 7 "sf2~e30" ≠ .error (.unsupportedVersion v)) ∧
    isErrored ("\u3000" ++ "sf2~e30" ++ "\n") = isErrored "sf2~e30" ∧
    decodeUpTo 100 "sf2~e30" = decodeUpTo 7 "sf2~e30" := by
  have ht : trim "\u3000sf3~sf2~e30\n" = "sf3~sf2~e30" := by decide +kernel
  have hd : decodeUpTo 7 "sf2~e30" = .ok {} := toOption_eq_some_iff.mp (by decide +kernel)
  obtain ⟨-, he, -⟩ := isErrored_agrees_with_decode "\u3000sf3~sf2~e30\n" 100
  obtain ⟨-, -, hv, ho, hb, hl⟩ := isErrored_agrees_with_decode "sf2~e30" 7
  have hbefore : ∀ c ∈ "\u3000".toList, isBlank c = true := List.all_eq_true.mp (by decide)
  have hafter : ∀ c ∈ "\n".toList, isBlank c = true := List.all_eq_true.mp (by decide)
  refine ⟨?_, hd, ho _ hd, (hv (ho _ hd)).2, (hb _ _ hbefore hafter).1, hl 100 ?_ ?_⟩
  · rw [ht] at he
    exact he (by decide +kernel)
  · decide +kernel
  · decide +kernel

end SeriesFilter.Portable
