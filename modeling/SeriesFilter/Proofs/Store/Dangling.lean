import SeriesFilter.Proofs.Portable.RoundTrip
import SeriesFilter.Proofs.Store.History
import SeriesFilter.Stream

/-!
# Streams of deleted filters

A stream that refers to a saved filter by its identity shows it from the call that saved it to the
call that deletes it. After that it shows nothing, whatever is saved later, since no identity is
given out twice.
-/

namespace SeriesFilter

open Portable

namespace Store

/-! ### Identities that are gone -/

/-- Whether an identity has been given out and is not stored. -/
def IsGone (s : Store) (id : Int) : Prop :=
  s.get? id = none ∧ id ≤ s.lastId

/-- An identity that is gone stays so through a call. -/
theorem IsGone.apply {s : Store} {id : Int} (h : s.IsGone id) (change : Change) :
    (s.apply change).IsGone id := by
  obtain ⟨hg, hid⟩ := h
  rw [get?_eq_none_iff] at hg
  rw [IsGone, get?_eq_none_iff]
  obtain ⟨-, ha⟩ | ⟨f, -, ha, hf, -⟩ | ⟨f, before, behind, -, ha, hs⟩ := s.event?_cases change
  · rw [ha]
    exact ⟨hg, hid⟩
  · rw [ha]
    dsimp only
    -- The new identity is greater than every one that was given out.
    refine ⟨fun g hm ↦ ?_, by omega⟩
    rcases List.mem_append.mp hm with hm | hm
    · exact hg g hm
    · obtain rfl := List.mem_singleton.mp hm
      omega
  · rw [ha]
    refine ⟨fun g hm ↦ hg g ?_, hid⟩
    rw [hs, List.mem_append, List.mem_cons]
    rcases List.mem_append.mp hm with hm | hm
    · exact .inl hm
    · exact .inr (.inr hm)

/-- An identity that is gone stays so through a run. -/
theorem IsGone.run {s : Store} {id : Int} (h : s.IsGone id) (changes : List Change) :
    (s.run changes).IsGone id := by
  induction changes generalizing s with
  | nil => exact h
  | cons change rest ih => exact ih (h.apply change)

/-- A deleted identity is gone. -/
theorem Recorded.isGone_of_delete {s after : Store} {events : List Event} (h : s.Recorded events)
    {id : Int} {f : SmartFilter} (hd : s.delete id = (.ok f, after)) : after.IsGone id := by
  obtain ⟨rfl, before, behind, hs, rfl⟩ := exists_of_delete hd
  have hb : 0 < f.id ∧ f.id ≤ (savedIn events).length := h.id_bounds (by simp [hs])
  refine ⟨get?_eq_none_iff.mpr (h.id_ne hs), ?_⟩
  rw [h.lastId]
  exact hb.2

/-! ### Streams -/

/-- A stream of a saved filter shows it while the identity is stored. -/
theorem Recorded.exists_resolve_iff {s : Store} {events : List Event} (h : s.Recorded events)
    {stream : Stream} {id : Int} (hs : stream.source = .saved id) :
    (∃ d, s.resolve stream = .ok d) ↔ ∃ f ∈ s.filters, f.id = id := by
  simp only [← h.get?_eq_some_iff]
  rw [resolve, hs, encodedOf]
  cases hg : s.get? id with
  | none => simp
  | some f =>
    obtain ⟨d, hd⟩ := h.decodes f (h.get?_eq_some_iff.mp hg).1
    simp [hd]

/-- A stream of an identity that is not stored is refused. -/
theorem resolve_eq_gone {s : Store} {stream : Stream} {id : Int} (hs : stream.source = .saved id)
    (hg : s.get? id = none) : s.resolve stream = .error (.gone id) := by
  rw [resolve, hs, encodedOf, hg]

/-- After any calls of a new store, a stream that refers to an identity shows a filter exactly when
a filter was saved under the identity and has not been deleted since. Once the identity has been
deleted, the stream shows nothing after any further calls. -/
theorem resolve_saved_run (changes : List Change) {stream : Stream} {id : Int}
    (hs : stream.source = .saved id) :
    ((∃ d, (run {} changes).resolve stream = .ok d) ↔
      ∃ earlier f later, history {} changes = earlier ++ .saved f :: later ∧ f.id = id ∧
        .deleted id ∉ later) ∧
    ∀ f after, (run {} changes).delete id = (.ok f, after) → ∀ later,
      (run {} (changes ++ .delete id :: later)).resolve stream = .error (.gone id) := by
  have h := recorded_run changes
  refine ⟨?_, fun f after hd later ↦ ?_⟩
  · rw [h.exists_resolve_iff hs]
    constructor
    · rintro ⟨f, hf, rfl⟩
      obtain ⟨earlier, later, he, hl⟩ := (h.mem_filters f).mp hf
      exact ⟨earlier, f, later, he, rfl, hl⟩
    · rintro ⟨earlier, f, later, he, rfl, hl⟩
      exact ⟨f, (h.mem_filters f).mpr ⟨earlier, later, he, hl⟩, rfl⟩
  · have hrun : run {} (changes ++ .delete id :: later) =
        ((run {} changes).apply (.delete id)).run later := List.foldl_append
    have happly : (run {} changes).apply (.delete id) = after := by rw [apply, hd]
    rw [hrun, happly]
    exact resolve_eq_gone hs ((h.isGone_of_delete hd).run later).1

/-- A filter saved again under its old name does not bring back the streams of the old one. -/
theorem resolve_saved_run_again :
    let all : SmartFilter := ⟨1, "All", encode {}⟩
    let stream : Stream := ⟨1, "All", .sideNav, .saved 1⟩
    run {} [.create "All" (encode {})] = ⟨[all], 1⟩ ∧
    delete ⟨[all], 1⟩ 1 = (.ok all, ⟨[], 1⟩) ∧
    (∃ d, (run {} [.create "All" (encode {})]).resolve stream = .ok d) ∧
    (run {} ([.create "All" (encode {})] ++ .delete 1 :: [.create "All" (encode {})])).resolve
      stream = .error (.gone 1) := by
  intro all stream
  have hd : decode (encode {}) = .ok { filter := {} } := decode_encode_eq_ok_iff.mpr
    ⟨by decide +kernel, Filter.fitsLevels_of_flat rfl, rfl⟩
  have hc : create {} "All" (encode {}) = (.ok all, ⟨[all], 1⟩) :=
    create_eq_ok_iff.mpr ⟨nofun, ⟨_, hd⟩, rfl, rfl⟩
  have hrun : run {} [.create "All" (encode {})] = ⟨[all], 1⟩ := by
    rw [run, List.foldl_cons, List.foldl_nil, apply, hc]
  have hh : history {} [.create "All" (encode {})] = [.saved all] := by
    rw [history, history, event?, hc]
    rfl
  have hdel : delete ⟨[all], 1⟩ 1 = (.ok all, ⟨[], 1⟩) := rfl
  have hs : stream.source = .saved 1 := rfl
  obtain ⟨hshows, hgone⟩ := resolve_saved_run [.create "All" (encode {})] hs
  refine ⟨hrun, hdel, hshows.mpr ⟨[], all, [], hh, rfl, List.not_mem_nil⟩, ?_⟩
  exact hgone all ⟨[], 1⟩ (by rw [hrun, hdel]) _

end Store

end SeriesFilter
