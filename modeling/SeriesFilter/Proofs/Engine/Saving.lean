import SeriesFilter.Proofs.Engine.Runs
import SeriesFilter.Proofs.Outcome

/-!
# What can be saved and what can be loaded

The engine decodes filters under the bound that its settings name. The store, which checks a filter
before it is saved, decodes it under the usual bound, whatever the settings are. A filter whose
length lies between the two bounds is therefore saved and cannot be loaded by the same engine, or
could be loaded and is not saved.
-/

namespace SeriesFilter

open Calendar Portable

/-- An encoded filter over the bound is too long. -/
theorem Portable.decodeUpTo_encode_of_lt {f : Filter} {max : Nat}
    (h : max < (encode f).utf8ByteSize) :
    decodeUpTo max (encode f) = .error (.tooLong (encode f).utf8ByteSize max) := by
  rw [decodeUpTo_eq_decodePayload, if_pos h]

namespace Engine

variable {e : Engine} {now : Instant} {name : String} {f : Filter}

/-! ### The two checks -/

/-- The engine decodes under the bound of its settings. -/
theorem exists_decode_encode_iff :
    (∃ d, e.decode (encode f) = .ok d) ↔
      (encode f).utf8ByteSize ≤ e.settings.maxEncodedLength ∧ f.FitsLevels := by
  simp only [decode, mapError_eq_ok_iff, decodeUpTo_encode_eq_ok_iff]
  constructor
  · rintro ⟨d, hl, hf, -⟩
    exact ⟨hl, hf⟩
  · rintro ⟨hl, hf⟩
    exact ⟨_, hl, hf, rfl⟩

/-- The engine refuses what is over the bound of its settings. -/
theorem decode_encode_of_lt (h : e.settings.maxEncodedLength < (encode f).utf8ByteSize) :
    e.decode (encode f) =
      .error (.decode (.tooLong (encode f).utf8ByteSize e.settings.maxEncodedLength)) := by
  rw [decode, decodeUpTo_encode_of_lt h]
  rfl

section New

variable {plan : Plan} (hp : e.validate now f = .ok plan)
  (hn : ∀ g ∈ e.store.filters, Text.sameName g.name (Text.trim name) = false)
include hp hn

/-- What is within the usual bound is saved. -/
theorem exists_create_iff :
    (∃ saved after, e.create now name f = (.ok saved, after)) ↔
      (encode f).utf8ByteSize ≤ defaultMaxLength ∧ f.FitsLevels := by
  constructor
  · rintro ⟨saved, after, hc⟩
    obtain ⟨-, store, hs, -⟩ := create_eq_ok_iff.mp hc
    obtain ⟨-, ⟨d, hd⟩, -⟩ := Store.create_eq_ok_iff.mp hs
    obtain ⟨hl, hf, -⟩ := decode_encode_eq_ok_iff.mp hd
    exact ⟨hl, hf⟩
  · rintro ⟨hl, hf⟩
    have hd : Portable.decode (encode f) = .ok { filter := f } :=
      decode_encode_eq_ok_iff.mpr ⟨hl, hf, rfl⟩
    have hs := Store.create_eq_ok_iff.mpr ⟨hn, ⟨_, hd⟩, rfl, rfl⟩
    exact ⟨_, _, create_eq_ok_iff.mpr ⟨⟨plan, mapError_eq_ok_iff.mp hp⟩, _, hs, rfl⟩⟩

/-- What is over the usual bound is not saved. -/
theorem create_of_lt (h : defaultMaxLength < (encode f).utf8ByteSize) :
    e.create now name f =
      (.error (.store (.undecodable (.tooLong (encode f).utf8ByteSize defaultMaxLength))), e) := by
  have hd : Portable.decode (encode f) =
      .error (.tooLong (encode f).utf8ByteSize defaultMaxLength) := decodeUpTo_encode_of_lt h
  rw [create_of_plan (mapError_eq_ok_iff.mp hp), Store.create_of_undecodable hn hd]
  rfl

end New

/-! ### Where they differ -/

/-- A filter that has a plan and is given a new name can be saved exactly when it can be loaded, if
it does not fit the levels or is on the same side of the usual bound and of the bound of the
settings. Otherwise it is saved though loading refuses it as too long, or it is refused as too long
though it can be loaded. -/
theorem create_agrees_with_decode_iff {other : Instant} {plan : Plan}
    (hp : e.validate other f = .ok plan)
    (hn : ∀ g ∈ e.store.filters, Text.sameName g.name (Text.trim name) = false) (now : Instant) :
    let size := (encode f).utf8ByteSize
    let bound := e.settings.maxEncodedLength
    (((∃ saved after, e.create now name f = (.ok saved, after)) ↔
        ∃ d, e.decode (encode f) = .ok d) ↔
      (f.FitsLevels → (size ≤ defaultMaxLength ↔ size ≤ bound))) ∧
    ((∃ saved after, e.create now name f = (.ok saved, after)) ∧
        e.decode (encode f) = .error (.decode (.tooLong size bound)) ↔
      f.FitsLevels ∧ bound < size ∧ size ≤ defaultMaxLength) ∧
    (e.create now name f =
          (.error (.store (.undecodable (.tooLong size defaultMaxLength))), e) ∧
        (∃ d, e.decode (encode f) = .ok d) ↔
      f.FitsLevels ∧ defaultMaxLength < size ∧ size ≤ bound) := by
  intro size bound
  -- A plan at some time is all that is asked for: there is one at the time of saving, too.
  obtain ⟨planNow, hp⟩ : ∃ plan, e.validate now f = .ok plan := by
    simp only [validate, mapError_eq_ok_iff] at hp ⊢
    exact Filter.exists_plan_at hp now
  have hcreate := exists_create_iff hp hn
  have hdecode := exists_decode_encode_iff (e := e) (f := f)
  refine ⟨?_, ⟨?_, ?_⟩, ⟨?_, ?_⟩⟩
  · rw [hcreate, hdecode, and_congr_left_iff]
  · rintro ⟨hc, hd⟩
    obtain ⟨hl, hf⟩ := hcreate.mp hc
    refine ⟨hf, Nat.lt_of_not_le fun hb ↦ ?_, hl⟩
    obtain ⟨d, hd'⟩ := hdecode.mpr ⟨hb, hf⟩
    rw [hd] at hd'
    cases hd'
  · rintro ⟨hf, hb, hl⟩
    exact ⟨hcreate.mpr ⟨hl, hf⟩, decode_encode_of_lt hb⟩
  · rintro ⟨hc, hd⟩
    obtain ⟨hb, hf⟩ := hdecode.mp hd
    refine ⟨hf, Nat.lt_of_not_le fun hl ↦ ?_, hb⟩
    obtain ⟨saved, after, hs⟩ := hcreate.mpr ⟨hl, hf⟩
    rw [hc] at hs
    cases hs
  · rintro ⟨hf, hl, hb⟩
    exact ⟨create_of_lt hp hn hl, hdecode.mpr ⟨hb, hf⟩⟩

/-- An engine whose settings name a bound of eight bytes. -/
private def narrow : Engine :=
  { settings := { maxEncodedLength := 8 } }

/-- The filter that asks for nothing is fourteen bytes long. -/
private theorem utf8ByteSize_encode_empty : (encode {}).utf8ByteSize = 14 := by
  decide +kernel

/-- A filter of fourteen bytes is saved by an engine that decodes eight at most. -/
theorem create_agrees_with_decode_iff_narrow :
    (∃ plan, narrow.validate ⟨0, 0⟩ {} = .ok plan) ∧
    (∀ g ∈ narrow.store.filters, Text.sameName g.name (Text.trim "All") = false) ∧
    (∃ saved after, narrow.create ⟨60, 0⟩ "All" {} = (.ok saved, after)) ∧
    narrow.decode (encode {}) = .error (.decode (.tooLong 14 8)) := by
  have hp : ∃ plan, narrow.validate ⟨0, 0⟩ {} = .ok plan := ⟨_, rfl⟩
  have hn : ∀ g ∈ narrow.store.filters, Text.sameName g.name (Text.trim "All") = false := nofun
  obtain ⟨plan, hplan⟩ := hp
  obtain ⟨-, hsaved, -⟩ := create_agrees_with_decode_iff hplan hn ⟨60, 0⟩
  rw [utf8ByteSize_encode_empty] at hsaved
  have hf : ({} : Filter).FitsLevels := Filter.fitsLevels_of_flat rfl
  obtain ⟨hc, hd⟩ := hsaved.mpr ⟨hf, by decide, by decide⟩
  exact ⟨⟨plan, hplan⟩, hn, hc, hd⟩

/-- What is saved cannot always be loaded. -/
theorem not_forall_create_iff_decode :
    ¬ ∀ (e : Engine) (now : Instant) (name : String) (f : Filter) (plan : Plan),
      e.validate now f = .ok plan →
      (∀ g ∈ e.store.filters, Text.sameName g.name (Text.trim name) = false) →
      ((∃ saved after, e.create now name f = (.ok saved, after)) ↔
        ∃ d, e.decode (encode f) = .ok d) := by
  intro h
  have hp : narrow.validate ⟨0, 0⟩ {} = .ok _ := rfl
  have hn : ∀ g ∈ narrow.store.filters, Text.sameName g.name (Text.trim "All") = false := nofun
  have hagree := h narrow ⟨0, 0⟩ "All" {} _ hp hn
  rw [exists_create_iff hp hn, exists_decode_encode_iff, utf8ByteSize_encode_empty] at hagree
  obtain ⟨hb, -⟩ := hagree.mp ⟨by decide, Filter.fitsLevels_of_flat rfl⟩
  exact absurd hb (by decide)

end Engine

end SeriesFilter
