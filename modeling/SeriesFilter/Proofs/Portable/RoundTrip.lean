import SeriesFilter.Portable.Codec
import SeriesFilter.Proofs.Base64Url
import SeriesFilter.Proofs.Portable.Nesting
import SeriesFilter.Proofs.Portable.Payload

/-!
# Encoded filters decode to themselves

An encoded filter comes back whole: the same name, statements, order, limit and tree, nothing
dropped and nothing removed. It does so exactly when it is not too long for the bound and its tree
keeps within the levels for which the document has brackets. A longer string is refused for its
length and a deeper tree as malformed, so that no filter ever comes back as another one.
-/

namespace SeriesFilter

/-- No group stands below level 63, and none with statements of its own below level 62; the root
of the tree stands at level one. -/
def Filter.FitsLevels (f : Filter) : Prop :=
  ∀ root, f.group = some root → ∀ path inner, root.at? path = some inner →
    path.length + 1 ≤ 63 ∧ (inner.statements ≠ [] → path.length + 1 ≤ 62)

/-- A filter without a tree fits the levels. -/
theorem Filter.fitsLevels_of_flat {f : Filter} (h : f.group = none) : f.FitsLevels := by
  simp [FitsLevels, h]

namespace Portable

open Json Text

/-! ### What stands around the document -/

/-- The string that stores a payload. -/
def enclose (payload : List UInt8) : String :=
  version ++ String.singleton separator ++ String.ofList (Base64Url.encode payload)

/-- A filter is stored by the payload of its document. -/
theorem encode_eq_enclose (f : Filter) : encode f = enclose (Document.ofFilter f).payload := by
  have hb : (Document.ofFilter f).toJson.compact.toUTF8.toList = (Document.ofFilter f).payload := by
    rw [toList_toUTF8, Value.compact, String.toList_ofList, Document.payload]
  rw [encode, hb, enclose]

/-- The characters of the version. -/
theorem mem_version_iff {c : Char} : c ∈ version.toList ↔ c = 's' ∨ c = 'f' ∨ c = '2' := by
  have hv : version.toList = ['s', 'f', '2'] := rfl
  rw [hv]
  simp only [List.mem_cons, List.not_mem_nil, or_false]

section Enclose

variable (payload : List UInt8)

/-- An enclosed payload is the version, the separator and the symbols of the payload. -/
theorem toList_enclose :
    (enclose payload).toList = version.toList ++ separator :: Base64Url.encode payload := by
  rw [enclose, String.toList_append, String.toList_append, String.toList_singleton,
    String.toList_ofList, List.append_assoc, List.singleton_append]

/-- No symbol is blank. -/
private theorem isBlank_symbol {n : Nat} (h : n < 64) : isBlank (Base64Url.symbol n) = false := by
  revert n
  decide

private theorem isBlank_of_mem_enclose {payload : List UInt8} {c : Char}
    (h : c ∈ (enclose payload).toList) : isBlank c = false := by
  rw [toList_enclose, List.mem_append, List.mem_cons, Base64Url.encode_eq_map] at h
  rcases h with h | rfl | h
  · rcases mem_version_iff.mp h with rfl | rfl | rfl <;> rfl
  · rfl
  · obtain ⟨n, hn, rfl⟩ := List.mem_map.mp h
    exact isBlank_symbol (Base64Url.lt_of_mem_sextets hn)

/-- Trimming leaves an enclosed payload as it is. -/
theorem trim_enclose : trim (enclose payload) = enclose payload := by
  rw [trim, trimChars_eq_self fun c ↦ isBlank_of_mem_enclose, String.ofList_toList]

/-- An enclosed payload is parted after the version. -/
theorem split?_enclose :
    split? (enclose payload).toList = some (version.toList, Base64Url.encode payload) := by
  rw [toList_enclose]
  rfl

/-- The symbols of an enclosed payload give the payload back. -/
theorem decode_symbols :
    Base64Url.decode (String.ofList (Base64Url.encode payload)).toUTF8.toList = .ok payload := by
  rw [toList_toUTF8, String.toList_ofList, Base64Url.decode_encode]

end Enclose

/-- Whether a string consists of the version and the symbols of a payload. -/
def Encloses (s : String) (payload : List UInt8) : Prop :=
  ∃ symbols, split? s.toList = some (version.toList, symbols) ∧
    Base64Url.decode (String.ofList symbols).toUTF8.toList = .ok payload

/-- An enclosed payload is enclosed. -/
theorem encloses_enclose (payload : List UInt8) : Encloses (trim (enclose payload)) payload := by
  rw [trim_enclose]
  exact ⟨_, split?_enclose payload, decode_symbols payload⟩

/-- A string with a payload is decoded from the payload when it is within the bound. -/
theorem Encloses.decodeUpTo_eq {s : String} {payload : List UInt8} (h : Encloses (trim s) payload)
    (max : Nat) :
    decodeUpTo max s =
      if max < (trim s).utf8ByteSize then .error (.tooLong (trim s).utf8ByteSize max)
      else decodePayload payload := by
  obtain ⟨symbols, hs, hd⟩ := h
  have hn : (trim s).isEmpty = false := by
    have h : trim s ≠ "" := by
      intro h
      rw [h] at hs
      cases hs
    simpa using h
  rw [decodeUpTo, hn, if_neg Bool.false_ne_true, hs]
  dsimp only
  rw [if_neg (not_not_intro rfl), hd]

/-- An encoded filter within the bound is decoded from the bytes of its document. -/
theorem decodeUpTo_eq_decodePayload (f : Filter) (max : Nat) :
    decodeUpTo max (encode f) =
      if max < (encode f).utf8ByteSize then .error (.tooLong (encode f).utf8ByteSize max)
      else decodePayload (Document.ofFilter f).payload := by
  rw [encode_eq_enclose, (encloses_enclose _).decodeUpTo_eq, trim_enclose]

/-- The document of a filter is read from its payload where its brackets may open. -/
theorem read_payload_ofFilter (f : Filter) :
    (Json.Document.ofBytes (Document.ofFilter f).payload).read Document.reader =
      within (Document.ofFilter f).toJson.nesting maxNesting (Document.ofFilter f) := by
  rw [Document.read_payload, Document.readsAs_ofFilter f maxNesting]

/-! ### What the document means -/

namespace Statement

/-- The numbers of a statement of a filter are known. -/
theorem resolve_ofStatement (s : SeriesFilter.Statement) : (ofStatement s).resolve = .ok s := by
  have hf : Field.ofId? (ofStatement s).field = some s.field := Field.ofId?_eq_some_iff.mpr rfl
  have hc : Comparison.ofId? (ofStatement s).comparison = some s.comparison :=
    Comparison.ofId?_eq_some_iff.mpr rfl
  rw [resolve, Field.int32?_bind_ofId?, Comparison.int32?_bind_ofId?, hf, hc]
  rfl

end Statement

/-- Statements of a filter are all kept. -/
theorem resolveStatements_map_ofStatement (place : Nat → Location) (index : Nat)
    (ss : List SeriesFilter.Statement) :
    resolveStatements place index (ss.map Statement.ofStatement) = (ss, []) := by
  induction ss generalizing index with
  | nil => rfl
  | cons s rest ih => rw [List.map_cons, resolveStatements, ih, Statement.resolve_ofStatement]

namespace Group

private theorem resolveList_ofGroups (path : GroupPath) (step : Nat → Step)
    {gs : List SeriesFilter.Group} (h : ∀ g ∈ gs, ∀ path, (ofGroup g).resolve path = (some g, {}))
    (index : Nat) : resolveList path step index (ofGroups gs) = (gs, {}) := by
  induction gs generalizing index with
  | nil => rfl
  | cons g gs ih =>
    have hg := h g List.mem_cons_self (path ++ [step index])
    have hr := ih (fun c hc ↦ h c (List.mem_cons_of_mem g hc)) (index + 1)
    rw [ofGroups, resolveList, hg, hr]
    rfl

/-- A group of a filter is kept whole. -/
theorem resolve_ofGroup (g : SeriesFilter.Group) (path : GroupPath) :
    (ofGroup g).resolve path = (some g, {}) := by
  induction g generalizing path with
  | mk statements and or hand hor =>
    rw [ofGroup, resolve, resolveStatements_map_ofStatement,
      resolveList_ofGroups path Step.and hand, resolveList_ofGroups path Step.or hor]
    rfl

end Group

/-- An order of a filter is kept. -/
theorem Order.resolve_ofSortOptions (s : SortOptions) :
    (ofSortOptions s).resolve = (some s, none) := by
  have hf : SortField.ofId? (ofSortOptions s).field = some s.field :=
    SortField.ofId?_eq_some_iff.mpr rfl
  rw [resolve, SortField.uint8?_bind_ofId?, hf]
  rfl

/-- The document of a filter means that filter, and nothing is lost. -/
theorem Document.resolve_ofFilter (f : Filter) :
    (ofFilter f).resolve f.combination = { filter := f } := by
  obtain ⟨name, statements, combination, sort, limit, group⟩ := f
  rw [resolve, ofFilter]
  dsimp only
  rw [resolveStatements_map_ofStatement]
  cases group with
  | none =>
    cases sort with
    | none => rfl
    | some s =>
      simp only [Option.map_some, Order.resolve_ofSortOptions]
      rfl
  | some g =>
    cases sort with
    | none =>
      simp only [Option.map_some, Group.resolve_ofGroup]
      rfl
    | some s =>
      simp only [Option.map_some, Group.resolve_ofGroup, Order.resolve_ofSortOptions]
      rfl

/-- The document of a filter is decoded where its brackets may open. -/
theorem decodePayload_ofFilter (f : Filter) :
    decodePayload (Document.ofFilter f).payload =
      if (Document.ofFilter f).toJson.nesting ≤ maxNesting then .ok { filter := f }
      else .error (.payload .malformed) := by
  have hc : Combination.ofId? (Document.ofFilter f).combination = some f.combination :=
    Combination.ofId?_eq_some_iff.mpr rfl
  rw [decodePayload, read_payload_ofFilter]
  by_cases hn : (Document.ofFilter f).toJson.nesting ≤ maxNesting
  · rw [if_pos hn, within, if_pos hn]
    dsimp only
    rw [Combination.uint8?_bind_ofId?, hc]
    exact congrArg Except.ok (Document.resolve_ofFilter f)
  · rw [if_neg hn, within, if_neg hn]

/-- A filter fits the levels exactly when its document has room for its brackets. -/
theorem nesting_le_maxNesting_iff (f : Filter) :
    (Document.ofFilter f).toJson.nesting ≤ maxNesting ↔ f.FitsLevels := by
  rw [nesting_ofFilter_le_iff f (by decide), Filter.FitsLevels]
  constructor
  · intro h root hr path inner hi
    obtain ⟨hl, hs⟩ := (nesting_ofGroup_le_iff root 126).mp (h root hr) path inner hi
    exact ⟨by omega, fun hn ↦ by have := hs hn; omega⟩
  · intro h root hr
    refine (nesting_ofGroup_le_iff root 126).mpr fun path inner hi ↦ ?_
    obtain ⟨hl, hs⟩ := h root hr path inner hi
    exact ⟨by omega, fun hn ↦ by have := hs hn; omega⟩

/-- What comes of an encoded filter is that filter, when it is within the bound and fits the
levels. -/
theorem decodeUpTo_encode_eq_ok_iff {f : Filter} {max : Nat} {d : Decoded} :
    decodeUpTo max (encode f) = .ok d ↔
      (encode f).utf8ByteSize ≤ max ∧ f.FitsLevels ∧ d = { filter := f } := by
  rw [decodeUpTo_eq_decodePayload, decodePayload_ofFilter, ← nesting_le_maxNesting_iff]
  by_cases hl : max < (encode f).utf8ByteSize
  · simp [hl, Nat.not_le.mpr hl]
  · by_cases hn : (Document.ofFilter f).toJson.nesting ≤ maxNesting
    · simp [hl, hn, Nat.not_lt.mp hl, eq_comm]
    · simp [hl, hn]

/-- An encoded filter is decoded when it is within the usual bound and fits the levels. -/
theorem decode_encode_eq_ok_iff {f : Filter} {d : Decoded} :
    decode (encode f) = .ok d ↔
      (encode f).utf8ByteSize ≤ defaultMaxLength ∧ f.FitsLevels ∧ d = { filter := f } :=
  decodeUpTo_encode_eq_ok_iff

/-- An encoded filter comes back whole exactly when it is within the bound and fits the levels, that
is, when its document opens at most 127 brackets inside each other. Otherwise it is too long or
malformed, and no other filter comes of it. -/
theorem decodeUpTo_encode (f : Filter) (max : Nat) :
    (decodeUpTo max (encode f) =
        .ok { filter := f, losses := ⟨[], []⟩, ignoredSort := none } ↔
      (encode f).utf8ByteSize ≤ max ∧ f.FitsLevels) ∧
    ((Document.ofFilter f).toJson.nesting ≤ 127 ↔ f.FitsLevels) ∧
    decodeUpTo max (encode f) =
      if max < (encode f).utf8ByteSize then .error (.tooLong (encode f).utf8ByteSize max)
      else if 127 < (Document.ofFilter f).toJson.nesting then .error (.payload .malformed)
      else .ok { filter := f, losses := ⟨[], []⟩, ignoredSort := none } := by
  have hf : (Document.ofFilter f).toJson.nesting ≤ 127 ↔ f.FitsLevels :=
    nesting_le_maxNesting_iff f
  have he : decodeUpTo max (encode f) =
      if max < (encode f).utf8ByteSize then .error (.tooLong (encode f).utf8ByteSize max)
      else if 127 < (Document.ofFilter f).toJson.nesting then .error (.payload .malformed)
      else .ok { filter := f, losses := ⟨[], []⟩, ignoredSort := none } := by
    rw [decodeUpTo_eq_decodePayload, decodePayload_ofFilter, maxNesting]
    by_cases hn : (Document.ofFilter f).toJson.nesting ≤ 127
    · rw [if_pos hn, if_neg (Nat.not_lt.mpr hn)]
    · rw [if_neg hn, if_pos (Nat.lt_of_not_le hn)]
  refine ⟨?_, hf, he⟩
  rw [he, ← hf]
  by_cases hl : max < (encode f).utf8ByteSize
  · rw [if_pos hl]
    exact ⟨nofun, fun h ↦ absurd h.1 (Nat.not_le_of_lt hl)⟩
  · rw [if_neg hl]
    by_cases hn : 127 < (Document.ofFilter f).toJson.nesting
    · rw [if_pos hn]
      exact ⟨nofun, fun h ↦ absurd h.2 (Nat.not_le_of_lt hn)⟩
    · rw [if_neg hn]
      exact ⟨fun _ ↦ ⟨Nat.le_of_not_lt hl, Nat.le_of_not_lt hn⟩, fun _ ↦ rfl⟩

end Portable

end SeriesFilter
