import SeriesFilter.Proofs.Series.Order
import SeriesFilter.Proofs.Sorting.Stable
import SeriesFilter.Proofs.Store.History

/-!
# What holds of a store after any calls

Whatever calls a new store has answered, its identities are distinct and were given out once, its
names are trimmed and distinct, its filters can be decoded, and its listing holds just what is
stored, in the order of the names. A call succeeds exactly when it can, changes one filter, and
changes nothing when it is refused.
-/

namespace SeriesFilter

open Portable

namespace Store

/-! ### The listing -/

/-- The order of a listing is total up to ties. -/
instance : Std.TransCmp listOrder := by
  have := transCmp_on compareTexts fun f : SmartFilter ↦ Text.lower f.name
  have h : listOrder = compareLex
      (fun f g ↦ compareTexts (Text.lower f.name) (Text.lower g.name))
      (compareOn SmartFilter.id) := by
    funext f g
    rw [listOrder, compareLex, compareOn]
  rw [h]
  infer_instance

/-- The order of a listing is that of the names in lower case, then that of the identities. -/
theorem listOrder_eq_lt_iff {f g : SmartFilter} :
    listOrder f g = .lt ↔ Text.lower f.name < Text.lower g.name ∨
      Text.lower f.name = Text.lower g.name ∧ f.id < g.id := by
  rw [listOrder, Ordering.then_eq_lt, compareTexts_eq_lt_iff, compareTexts_eq_eq_iff,
    Std.compare_eq_lt]

/-- Filters with different identities stand in a listing in strict order. -/
theorem pairwise_list {s : Store} (h : (s.filters.map SmartFilter.id).Nodup) :
    s.list.Pairwise fun f g ↦ Text.lower f.name < Text.lower g.name ∨
      Text.lower f.name = Text.lower g.name ∧ f.id < g.id := by
  have hs : Sorting.IsStable listOrder s.filters s.list := Sorting.isStable_sort s.filters
  have hid : s.list.Pairwise fun f g ↦ f.id ≠ g.id := by
    rw [← List.pairwise_map]
    exact ((Sorting.sort_perm listOrder s.filters).map SmartFilter.id).nodup_iff.mpr h
  refine (hs.sorted.and hid).imp fun {f g} ⟨hle, hne⟩ ↦ listOrder_eq_lt_iff.mp ?_
  cases ho : listOrder f g with
  | lt => rfl
  | eq => exact absurd (Std.LawfulEqOrd.eq_of_compare (Ordering.then_eq_eq.mp ho).2) hne
  | gt => exact absurd ho hle

/-! ### Calls -/

/-- A filter is deleted when its identity is stored. -/
theorem exists_delete_iff {s : Store} {id : Int} :
    (∃ f after, s.delete id = (.ok f, after)) ↔ ∃ f ∈ s.filters, f.id = id := by
  simp only [delete_eq_ok_iff]
  constructor
  · rintro ⟨f, after, hf, -⟩
    exact ⟨f, List.mem_of_find?_eq_some hf, by simpa using List.find?_some hf⟩
  · rintro ⟨f, hf, rfl⟩
    have hs : (s.filters.find? fun g ↦ g.id == f.id).isSome := by
      rw [List.find?_isSome]
      exact ⟨f, hf, by simp⟩
    obtain ⟨g, hg⟩ := Option.isSome_iff_exists.mp hs
    exact ⟨g, _, hg, rfl⟩

/-- After any calls of a new store: no identity is given out twice, stored identities are distinct
and lie between one and the number of filters that were saved; names are trimmed and differ by more
than the case of letters; every stored filter can be decoded; the listing holds what is stored in
the order of the names in lower case, then of the identities. A filter is saved when its trimmed
name is new and it can be decoded, and then is added with an identity that was never given out; an
identity is deleted when it is stored, and then its filter alone is gone; a call that is refused
changes nothing. -/
theorem run_new_sound (changes : List Change) :
    let s := run {} changes
    let saved := savedIn (history {} changes)
    ((saved.map SmartFilter.id).Nodup ∧ (s.filters.map SmartFilter.id).Nodup ∧
      ∀ f ∈ s.filters, 0 < f.id ∧ f.id ≤ saved.length) ∧
    ((∀ f ∈ s.filters, Text.trim f.name = f.name) ∧
      (s.filters.Pairwise fun f g ↦ Text.sameName f.name g.name = false) ∧
      s.filters.Pairwise fun f g ↦ Text.foldAscii f.name ≠ Text.foldAscii g.name) ∧
    (∀ f ∈ s.filters, ∃ d, decodeUpTo defaultMaxLength f.encoded = .ok d) ∧
    (s.list.Perm s.filters ∧
      s.list.Pairwise fun f g ↦ Text.lower f.name < Text.lower g.name ∨
        Text.lower f.name = Text.lower g.name ∧ f.id < g.id) ∧
    (∀ name encoded,
      ((∃ f after, s.create name encoded = (.ok f, after)) ↔
        (∀ f ∈ s.filters, Text.sameName f.name (Text.trim name) = false) ∧
          ∃ d, decodeUpTo defaultMaxLength encoded = .ok d) ∧
      (∀ f after, s.create name encoded = (.ok f, after) →
        f.name = Text.trim name ∧ f.encoded = encoded ∧ f.id ∉ saved.map SmartFilter.id ∧
          after = ⟨s.filters ++ [f], f.id⟩) ∧
      ∀ error after, s.create name encoded = (.error error, after) → after = s) ∧
    ∀ id,
      ((∃ f after, s.delete id = (.ok f, after)) ↔ ∃ f ∈ s.filters, f.id = id) ∧
      (∀ f after, s.delete id = (.ok f, after) →
        f.id = id ∧ ∃ before behind, s.filters = before ++ f :: behind ∧
          after = ⟨before ++ behind, s.lastId⟩) ∧
      ∀ error after, s.delete id = (.error error, after) → after = s := by
  intro s saved
  have h : s.Recorded (history {} changes) := recorded_run changes
  refine ⟨⟨h.nodup_saved, h.nodup_filters, fun f ↦ h.id_bounds⟩,
    ⟨h.trimmed, h.names, h.foldedNames⟩, h.decodes,
    ⟨Sorting.sort_perm listOrder s.filters, pairwise_list h.nodup_filters⟩,
    fun name encoded ↦ ⟨?_, fun f after hc ↦ ?_, fun error after ↦ eq_of_create_eq_error⟩,
    fun id ↦ ⟨exists_delete_iff, fun f after ↦ exists_of_delete,
      fun error after ↦ eq_of_delete_eq_error⟩⟩
  · simp only [create_eq_ok_iff]
    constructor
    · rintro ⟨f, after, hn, hd, -⟩
      exact ⟨hn, hd⟩
    · rintro ⟨hn, hd⟩
      exact ⟨_, _, hn, hd, rfl, rfl⟩
  · obtain ⟨-, -, rfl, rfl⟩ := create_eq_ok_iff.mp hc
    exact ⟨rfl, rfl, h.next_notMem, rfl⟩

end Store

end SeriesFilter
