import SeriesFilter.Store

/-!
# Runs of a store

A store lives through calls that save and delete filters. What a call can do is said once; from it
follows what a run of calls keeps: identities are given out in increasing order, and a saved filter
stays as it is until its identity is deleted.
-/

namespace SeriesFilter

open Portable

namespace Store

/-- A call that may change a store. -/
inductive Change where
  | create (name encoded : String)
  | delete (id : Int)
  deriving DecidableEq, Repr

/-- The store after a call. -/
def apply (s : Store) : Change → Store
  | .create name encoded => (s.create name encoded).2
  | .delete id => (s.delete id).2

/-- The store after calls, one after the other. -/
def run (s : Store) (changes : List Change) : Store :=
  changes.foldl apply s

/-! ### What a call does -/

/-- A name that is taken is refused, whatever the filter. -/
theorem create_of_duplicate {s : Store} {name : String} {f : SmartFilter} (hf : f ∈ s.filters)
    (hs : Text.sameName f.name (Text.trim name) = true) (encoded : String) :
    s.create name encoded = (.error (.duplicate (Text.trim name)), s) := by
  have hany : (s.filters.any fun g ↦ Text.sameName g.name (Text.trim name)) = true :=
    List.any_eq_true.mpr ⟨f, hf, hs⟩
  rw [create, if_pos hany]

section New

variable {s : Store} {name encoded : String}
  (hn : ∀ f ∈ s.filters, Text.sameName f.name (Text.trim name) = false)
include hn

private theorem not_any_sameName :
    ¬ (s.filters.any fun f ↦ Text.sameName f.name (Text.trim name)) = true := by
  rw [List.any_eq_true]
  rintro ⟨f, hf, hs⟩
  rw [hn f hf] at hs
  cases hs

/-- A filter that cannot be decoded is refused under a new name. -/
theorem create_of_undecodable {error : DecodeError} (hd : decode encoded = .error error) :
    s.create name encoded = (.error (.undecodable error), s) := by
  rw [create, if_neg (not_any_sameName hn), hd]

/-- A filter that can be decoded is saved under a new name. It gets the next identity and comes
last. -/
theorem create_of_decodes {d : Decoded} (hd : decode encoded = .ok d) :
    s.create name encoded =
      (.ok ⟨s.lastId + 1, Text.trim name, encoded⟩,
        ⟨s.filters ++ [⟨s.lastId + 1, Text.trim name, encoded⟩], s.lastId + 1⟩) := by
  rw [create, if_neg (not_any_sameName hn), hd]

end New

/-- A call to save a filter is refused and changes nothing, unless the name is new and the filter
can be decoded. -/
theorem create_cases (s : Store) (name encoded : String) :
    (∃ error, s.create name encoded = (.error error, s)) ∨
    (∀ f ∈ s.filters, Text.sameName f.name (Text.trim name) = false) ∧
      ∃ d, decode encoded = .ok d := by
  by_cases hn : ∃ f ∈ s.filters, Text.sameName f.name (Text.trim name) = true
  · obtain ⟨f, hf, hs⟩ := hn
    exact .inl ⟨_, create_of_duplicate hf hs encoded⟩
  · have hn : ∀ f ∈ s.filters, Text.sameName f.name (Text.trim name) = false :=
      fun f hf ↦ Bool.eq_false_iff.mpr fun hs ↦ hn ⟨f, hf, hs⟩
    cases hd : decode encoded with
    | error error => exact .inl ⟨_, create_of_undecodable hn hd⟩
    | ok d => exact .inr ⟨hn, d, rfl⟩

/-- A filter is saved when its name is new and it can be decoded. -/
theorem create_eq_ok_iff {s after : Store} {name encoded : String} {saved : SmartFilter} :
    s.create name encoded = (.ok saved, after) ↔
      (∀ f ∈ s.filters, Text.sameName f.name (Text.trim name) = false) ∧
      (∃ d, decode encoded = .ok d) ∧
      saved = ⟨s.lastId + 1, Text.trim name, encoded⟩ ∧
      after = ⟨s.filters ++ [saved], s.lastId + 1⟩ := by
  constructor
  · intro h
    obtain ⟨error, he⟩ | ⟨hn, d, hd⟩ := s.create_cases name encoded
    · rw [he] at h
      cases h
    · rw [create_of_decodes hn hd] at h
      cases h
      exact ⟨hn, ⟨d, hd⟩, rfl, rfl⟩
  · rintro ⟨hn, ⟨d, hd⟩, rfl, rfl⟩
    exact create_of_decodes hn hd

/-- A store that does not save a filter stays as it was. -/
theorem eq_of_create_eq_error {s after : Store} {name encoded : String} {error : StoreError}
    (h : s.create name encoded = (.error error, after)) : after = s := by
  obtain ⟨other, he⟩ | ⟨hn, d, hd⟩ := s.create_cases name encoded
  · rw [he] at h
    exact (Prod.mk.inj h).2.symm
  · rw [create_of_decodes hn hd] at h
    cases h

/-- A filter is deleted when it is there. -/
theorem delete_eq_ok_iff {s after : Store} {id : Int} {deleted : SmartFilter} :
    s.delete id = (.ok deleted, after) ↔
      s.get? id = some deleted ∧
      after = { s with filters := s.filters.eraseP fun f ↦ f.id == id } := by
  rw [delete]
  cases s.get? id with
  | none => simp
  | some f =>
    simp only [Prod.mk.injEq, Except.ok.injEq, Option.some.injEq]
    exact and_congr_right fun _ ↦ eq_comm

/-- A store that does not delete a filter stays as it was. -/
theorem eq_of_delete_eq_error {s after : Store} {id : Int} {error : StoreError}
    (h : s.delete id = (.error error, after)) : after = s := by
  rw [delete] at h
  cases hg : s.get? id with
  | none =>
    rw [hg] at h
    exact (Prod.mk.inj h).2.symm
  | some f =>
    rw [hg] at h
    cases h

/-- A call leaves a store as it was, saves one filter in it, or takes one identity out of it. -/
theorem apply_cases (s : Store) (change : Change) :
    s.apply change = s ∨
    (∃ name encoded saved, change = .create name encoded ∧
      s.create name encoded = (.ok saved, s.apply change)) ∨
    ∃ id deleted, change = .delete id ∧ s.delete id = (.ok deleted, s.apply change) := by
  cases change with
  | create name encoded =>
    cases h : (s.create name encoded).1 with
    | error error => exact .inl (eq_of_create_eq_error (Prod.ext h rfl))
    | ok saved => exact .inr (.inl ⟨name, encoded, saved, rfl, Prod.ext h rfl⟩)
  | delete id =>
    cases h : (s.delete id).1 with
    | error error => exact .inl (eq_of_delete_eq_error (Prod.ext h rfl))
    | ok deleted => exact .inr (.inr ⟨id, deleted, rfl, Prod.ext h rfl⟩)

/-! ### Identities -/

/-- An identity is not found when no stored filter has it. -/
theorem get?_eq_none_iff {s : Store} {id : Int} :
    s.get? id = none ↔ ∀ f ∈ s.filters, f.id ≠ id := by
  simp [get?, List.find?_eq_none]

/-- Whether no identity is greater than the one given last. -/
def IdsGiven (s : Store) : Prop :=
  ∀ f ∈ s.filters, f.id ≤ s.lastId

/-- A new store has given no identity out. -/
theorem idsGiven_new : IdsGiven {} := by
  simp [IdsGiven]

/-- No identity is used before it is given out. -/
theorem IdsGiven.get?_eq_none {s : Store} (h : s.IdsGiven) {id : Int} (hid : s.lastId < id) :
    s.get? id = none := by
  rw [get?_eq_none_iff]
  intro f hf
  have := h f hf
  omega

/-- A call gives identities out in order. -/
theorem IdsGiven.apply {s : Store} (h : s.IdsGiven) (change : Change) :
    (s.apply change).IdsGiven := by
  rcases s.apply_cases change with hs | ⟨name, encoded, saved, -, hc⟩ | ⟨id, deleted, -, hd⟩
  · rwa [hs]
  · obtain ⟨-, -, rfl, hs⟩ := create_eq_ok_iff.mp hc
    rw [hs]
    intro f hf
    rcases List.mem_append.mp hf with hf | hf
    · have := h f hf
      dsimp only
      omega
    · obtain rfl := List.mem_singleton.mp hf
      exact Int.le_refl _
  · obtain ⟨-, hs⟩ := delete_eq_ok_iff.mp hd
    rw [hs]
    exact fun f hf ↦ h f (List.mem_of_mem_eraseP hf)

/-- A run gives identities out in order. -/
theorem IdsGiven.run {s : Store} (h : s.IdsGiven) (changes : List Change) :
    (s.run changes).IdsGiven := by
  induction changes generalizing s with
  | nil => exact h
  | cons change rest ih => exact ih (h.apply change)

/-! ### Saved filters -/

/-- A filter that has just been saved is found by its identity. -/
theorem get?_create {s after : Store} (h : s.IdsGiven) {name encoded : String} {saved : SmartFilter}
    (hc : s.create name encoded = (.ok saved, after)) : after.get? saved.id = some saved := by
  obtain ⟨-, -, rfl, rfl⟩ := create_eq_ok_iff.mp hc
  have hn : s.get? (s.lastId + 1) = none := h.get?_eq_none (by omega)
  rw [get?] at hn ⊢
  simp [List.find?_append, hn]

private theorem find?_eraseP_of_ne (filters : List SmartFilter) {id other : Int} (h : id ≠ other) :
    (filters.eraseP fun f ↦ f.id == other).find? (fun f ↦ f.id == id) =
      filters.find? fun f ↦ f.id == id := by
  induction filters with
  | nil => rfl
  | cons f rest ih =>
    by_cases hf : f.id = other
    · simp [hf, h.symm]
    · simp [List.find?_cons, hf, ih]

/-- A saved filter stays through a call that does not delete its identity. -/
theorem get?_apply {s : Store} {id : Int} {f : SmartFilter} (h : s.get? id = some f)
    {change : Change} (hne : change ≠ .delete id) : (s.apply change).get? id = some f := by
  rcases s.apply_cases change with hs | ⟨name, encoded, saved, -, hc⟩ | ⟨other, deleted, ho, hd⟩
  · rwa [hs]
  · obtain ⟨-, -, -, hs⟩ := create_eq_ok_iff.mp hc
    rw [get?] at h
    rw [hs, get?, List.find?_append, h, Option.some_or]
  · obtain ⟨-, hs⟩ := delete_eq_ok_iff.mp hd
    have hid : id ≠ other := by
      rintro rfl
      exact hne ho
    rw [hs, get?, find?_eraseP_of_ne s.filters hid, ← get?, h]

/-- A saved filter stays through a run that does not delete its identity. -/
theorem get?_run {s : Store} {id : Int} {f : SmartFilter} (h : s.get? id = some f)
    {changes : List Change} (hne : Change.delete id ∉ changes) :
    (s.run changes).get? id = some f := by
  induction changes generalizing s with
  | nil => exact h
  | cons change rest ih =>
    rw [List.mem_cons, not_or] at hne
    exact ih (get?_apply h (Ne.symm hne.1)) hne.2

end Store

end SeriesFilter
