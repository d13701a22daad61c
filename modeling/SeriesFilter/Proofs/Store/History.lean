import SeriesFilter.Proofs.Store.Runs

/-!
# The history of a store

The calls that are not refused make up the history of a store: which filters were saved and which
identities were deleted, in order. A store holds just the filters that were saved and not deleted
since, and the filters that were saved are numbered from one.
-/

namespace SeriesFilter

open Portable

namespace Store

/-- What a call does to a store that does not refuse it. -/
inductive Event where
  | saved (f : SmartFilter)
  | deleted (id : Int)
  deriving DecidableEq, Repr

/-- What a call does to a store; a call that is refused does nothing. -/
def event? (s : Store) : Change → Option Event
  | .create name encoded =>
    match (s.create name encoded).1 with
    | .ok f => some (.saved f)
    | .error _ => none
  | .delete id =>
    match (s.delete id).1 with
    | .ok _ => some (.deleted id)
    | .error _ => none

/-- What the calls of a run do, in order. -/
def history (s : Store) : List Change → List Event
  | [] => []
  | change :: rest => (s.event? change).toList ++ (s.apply change).history rest

/-- The filters that were saved, in order. -/
def savedIn (events : List Event) : List SmartFilter :=
  events.filterMap fun
    | .saved f => some f
    | .deleted _ => none

/-- Whether a filter was saved and its identity has not been deleted since. -/
def Stays (f : SmartFilter) (events : List Event) : Prop :=
  ∃ earlier later, events = earlier ++ .saved f :: later ∧ .deleted f.id ∉ later

/-! ### Events -/

/-- Nothing stays of an empty history. -/
theorem not_stays_nil (f : SmartFilter) : ¬ Stays f [] := by
  rintro ⟨earlier, later, h, -⟩
  cases earlier <;> cases h

/-- What stays after one more event was saved by it, or stayed before and was not deleted by it. -/
theorem stays_concat_iff {f : SmartFilter} {events : List Event} {event : Event} :
    Stays f (events ++ [event]) ↔ event = .saved f ∨ Stays f events ∧ event ≠ .deleted f.id := by
  constructor
  · rintro ⟨earlier, later, h, hd⟩
    obtain rfl | ⟨later, last, rfl⟩ := List.eq_nil_or_concat later
    · exact .inl (List.append_singleton_inj.mp h).2
    · rw [List.concat_eq_append] at h hd
      have hs : events ++ [event] = (earlier ++ .saved f :: later) ++ [last] := by
        rw [h, List.append_assoc, List.cons_append]
      obtain ⟨rfl, rfl⟩ := List.append_singleton_inj.mp hs
      rw [List.mem_append, List.mem_singleton, not_or] at hd
      exact .inr ⟨⟨earlier, later, rfl, hd.1⟩, Ne.symm hd.2⟩
  · rintro (rfl | ⟨⟨earlier, later, rfl, hd⟩, he⟩)
    · exact ⟨events, [], rfl, List.not_mem_nil⟩
    · refine ⟨earlier, later ++ [event], by rw [List.append_assoc, List.cons_append], ?_⟩
      rw [List.mem_append, List.mem_singleton, not_or]
      exact ⟨hd, Ne.symm he⟩

/-- The first filter of an identity is taken out, and the others stay in order. -/
theorem exists_of_delete {s after : Store} {id : Int} {f : SmartFilter}
    (h : s.delete id = (.ok f, after)) :
    f.id = id ∧ ∃ before behind, s.filters = before ++ f :: behind ∧
      after = ⟨before ++ behind, s.lastId⟩ := by
  obtain ⟨hf, rfl⟩ := delete_eq_ok_iff.mp h
  obtain ⟨hid, before, behind, hs, hb⟩ := List.find?_eq_some_iff_append.mp hf
  refine ⟨by simpa using hid, before, behind, hs, ?_⟩
  rw [hs, List.eraseP_append_right _ (by simpa using hb), List.eraseP_cons_of_pos (by exact hid)]

/-- A call is refused and leaves the store as it was, or saves a filter under the next identity, or
takes a filter out. -/
theorem event?_cases (s : Store) (change : Change) :
    (s.event? change = none ∧ s.apply change = s) ∨
    (∃ f, s.event? change = some (.saved f) ∧ s.apply change = ⟨s.filters ++ [f], f.id⟩ ∧
      f.id = s.lastId + 1 ∧ Text.trim f.name = f.name ∧
      (∀ g ∈ s.filters, Text.sameName g.name f.name = false) ∧ ∃ d, decode f.encoded = .ok d) ∨
    ∃ f before behind, s.event? change = some (.deleted f.id) ∧
      s.apply change = ⟨before ++ behind, s.lastId⟩ ∧ s.filters = before ++ f :: behind := by
  cases change with
  | create name encoded =>
    rw [event?, apply]
    rcases h : s.create name encoded with ⟨error | f, after⟩
    · exact .inl ⟨rfl, eq_of_create_eq_error h⟩
    · obtain ⟨hn, hd, rfl, rfl⟩ := create_eq_ok_iff.mp h
      exact .inr (.inl ⟨_, rfl, rfl, rfl, Text.trim_trim name, hn, hd⟩)
  | delete id =>
    rw [event?, apply]
    rcases h : s.delete id with ⟨error | f, after⟩
    · exact .inl ⟨rfl, eq_of_delete_eq_error h⟩
    · obtain ⟨rfl, before, behind, hs, rfl⟩ := exists_of_delete h
      exact .inr (.inr ⟨f, before, behind, rfl, rfl, hs⟩)

/-! ### What a history brings about -/

/-- A store as some events, from the first one on, have brought it about. -/
structure Recorded (s : Store) (events : List Event) : Prop where
  /-- The filters that were saved are numbered from one. -/
  ids : (savedIn events).map SmartFilter.id =
    (List.range (savedIn events).length).map fun n : Nat ↦ (n : Int) + 1
  /-- The last identity is the number of filters that were saved. -/
  lastId : s.lastId = (savedIn events).length
  /-- What is stored stands in the order in which it was saved. -/
  sublist : s.filters.Sublist (savedIn events)
  /-- What was saved is stored until it is deleted. -/
  mem_filters : ∀ f, f ∈ s.filters ↔ Stays f events
  /-- The names are trimmed. -/
  trimmed : ∀ f ∈ s.filters, Text.trim f.name = f.name
  /-- No two names differ by the case of letters alone. -/
  names : s.filters.Pairwise fun f g ↦ Text.sameName f.name g.name = false
  /-- Every stored filter can be decoded. -/
  decodes : ∀ f ∈ s.filters, ∃ d, decode f.encoded = .ok d

/-- A new store has no history. -/
theorem recorded_new : Recorded {} [] where
  ids := rfl
  lastId := rfl
  sublist := .slnil
  mem_filters f := iff_of_false List.not_mem_nil (not_stays_nil f)
  trimmed := nofun
  names := .nil
  decodes := nofun

namespace Recorded

variable {s : Store} {events : List Event} (h : s.Recorded events)
include h

/-- No identity is given out twice. -/
theorem nodup_saved : ((savedIn events).map SmartFilter.id).Nodup := by
  rw [h.ids]
  exact List.pairwise_map.mpr (List.nodup_range.imp fun hn he ↦ hn (by omega))

/-- No two stored filters have the same identity. -/
theorem nodup_filters : (s.filters.map SmartFilter.id).Nodup :=
  h.nodup_saved.sublist (h.sublist.map SmartFilter.id)

/-- No filter beside a stored one has its identity. -/
theorem id_ne {f : SmartFilter} {before behind : List SmartFilter}
    (hf : s.filters = before ++ f :: behind) : ∀ g ∈ before ++ behind, g.id ≠ f.id := by
  have hd := h.nodup_filters
  rw [hf, (List.perm_middle.map SmartFilter.id).nodup_iff, List.map_cons, List.nodup_cons] at hd
  exact fun g hg he ↦ hd.1 (he ▸ List.mem_map_of_mem hg)

/-- No two stored names are the same characters once their ASCII capitals are made small. -/
theorem foldedNames :
    s.filters.Pairwise fun f g ↦ Text.foldAscii f.name ≠ Text.foldAscii g.name :=
  h.names.imp fun hn he ↦ Bool.eq_false_iff.mp hn (Text.sameName_iff.mpr he)

/-- An identity lies between one and the number of filters that were saved. -/
theorem id_bounds {f : SmartFilter} (hf : f ∈ s.filters) :
    0 < f.id ∧ f.id ≤ (savedIn events).length := by
  have hm := List.mem_map_of_mem (f := SmartFilter.id) (h.sublist.subset hf)
  rw [h.ids] at hm
  obtain ⟨n, hn, he⟩ := List.mem_map.mp hm
  have hn := List.mem_range.mp hn
  omega

/-- The next identity is new. -/
theorem next_notMem : s.lastId + 1 ∉ (savedIn events).map SmartFilter.id := by
  rw [h.ids, h.lastId]
  intro hm
  obtain ⟨n, hn, he⟩ := List.mem_map.mp hm
  have hn := List.mem_range.mp hn
  omega

/-- A filter is found by its identity. -/
theorem get?_eq_some_iff {id : Int} {f : SmartFilter} :
    s.get? id = some f ↔ f ∈ s.filters ∧ f.id = id := by
  constructor
  · intro hf
    exact ⟨List.mem_of_find?_eq_some hf, by simpa using List.find?_some hf⟩
  · rintro ⟨hf, rfl⟩
    obtain ⟨before, behind, hs⟩ := List.append_of_mem hf
    refine List.find?_eq_some_iff_append.mpr ⟨by simp, before, behind, hs, fun g hg ↦ ?_⟩
    simpa using h.id_ne hs g (List.mem_append_left behind hg)

/-- The history goes on when a filter is saved under the next identity and a new name. -/
theorem save {f : SmartFilter} (hid : f.id = s.lastId + 1) (ht : Text.trim f.name = f.name)
    (hn : ∀ g ∈ s.filters, Text.sameName g.name f.name = false)
    (hd : ∃ d, decode f.encoded = .ok d) :
    Recorded ⟨s.filters ++ [f], f.id⟩ (events ++ [.saved f]) := by
  have hs : savedIn (events ++ [.saved f]) = savedIn events ++ [f] := by
    rw [savedIn, List.filterMap_append]
    rfl
  have hl : f.id = (savedIn events).length + 1 := by rw [hid, h.lastId]
  constructor
  case ids =>
    rw [hs, List.map_append, h.ids, List.length_append, List.length_singleton, List.range_succ,
      List.map_append, List.map_singleton, List.map_singleton, hl]
  case lastId =>
    rw [hs, List.length_append, List.length_singleton, hl]
    rfl
  case sublist =>
    rw [hs]
    exact h.sublist.append (List.Sublist.refl [f])
  case mem_filters =>
    intro g
    rw [stays_concat_iff, ← h.mem_filters, List.mem_append, List.mem_singleton, or_comm]
    simp [eq_comm]
  case trimmed => simpa [or_imp, forall_and] using ⟨h.trimmed, ht⟩
  case names =>
    rw [List.pairwise_append]
    exact ⟨h.names, List.pairwise_singleton _ _, by simpa using hn⟩
  case decodes => simpa [or_imp, forall_and] using ⟨h.decodes, hd⟩

/-- The history goes on when a filter is taken out. -/
theorem erase {f : SmartFilter} {before behind : List SmartFilter}
    (hf : s.filters = before ++ f :: behind) :
    Recorded ⟨before ++ behind, s.lastId⟩ (events ++ [.deleted f.id]) := by
  have hs : savedIn (events ++ [.deleted f.id]) = savedIn events := by
    rw [savedIn, List.filterMap_append]
    exact List.append_nil _
  have hsub : (before ++ behind).Sublist s.filters := by
    rw [hf]
    exact (List.Sublist.refl before).append (List.sublist_cons_self f behind)
  constructor
  case ids => rw [hs, h.ids]
  case lastId => rw [hs, h.lastId]
  case sublist =>
    rw [hs]
    exact hsub.trans h.sublist
  case mem_filters =>
    intro g
    rw [stays_concat_iff, ← h.mem_filters]
    constructor
    · intro hg
      -- No other filter has the identity, so that no other one counts as deleted.
      exact .inr ⟨hsub.subset hg, fun he ↦ h.id_ne hf g hg (Event.deleted.inj he).symm⟩
    · rintro (he | ⟨hg, he⟩)
      · cases he
      · rw [hf, List.mem_append, List.mem_cons] at hg
        rw [List.mem_append]
        rcases hg with hg | rfl | hg
        · exact .inl hg
        · exact absurd rfl he
        · exact .inr hg
  case trimmed => exact fun g hg ↦ h.trimmed g (hsub.subset hg)
  case names => exact h.names.sublist hsub
  case decodes => exact fun g hg ↦ h.decodes g (hsub.subset hg)

/-- The history goes on with what a call does. -/
theorem apply (change : Change) :
    (s.apply change).Recorded (events ++ (s.event? change).toList) := by
  obtain ⟨he, ha⟩ | ⟨f, he, ha, hid, ht, hn, hd⟩ | ⟨f, before, behind, he, ha, hf⟩ :=
    s.event?_cases change
  · rw [he, ha, Option.toList_none, List.append_nil]
    exact h
  · rw [he, ha]
    exact h.save hid ht hn hd
  · rw [he, ha]
    exact h.erase hf

/-- The history goes on with what the calls of a run do. -/
theorem run (changes : List Change) : (s.run changes).Recorded (events ++ s.history changes) := by
  induction changes generalizing s events with
  | nil =>
    rw [history, List.append_nil]
    exact h
  | cons change rest ih =>
    have hr := ih (h.apply change)
    rw [List.append_assoc] at hr
    exact hr

end Recorded

/-- A store that was new before some calls has the history that they make. -/
theorem recorded_run (changes : List Change) : (run {} changes).Recorded (history {} changes) :=
  recorded_new.run changes

end Store

end SeriesFilter
