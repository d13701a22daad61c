import SeriesFilter.Engine
import SeriesFilter.Proofs.Compile.Clock
import SeriesFilter.Proofs.Outcome
import SeriesFilter.Proofs.Portable.RoundTrip
import SeriesFilter.Proofs.Store.Runs
import SeriesFilter.Series

/-!
# What is saved is what is shown

An interface calls the engine again and again: it saves and deletes filters, shows streams, lists
the filters and asks for pages. Only the first two change the engine, and only its store. From the
moment a filter is saved until it is deleted, every stream of it shows the filter as it was saved.
-/

namespace SeriesFilter

open Calendar Json Portable

namespace Engine

/-- A call of the engine. -/
inductive Operation where
  | create (now : Instant) (name : String) (f : Filter)
  | delete (id : Int)
  | resolve (stream : Stream)
  | list
  | query (now : Instant) (rows : List Series) (f : Filter) (r : PageRequest)

/-- What a call returns. -/
inductive Answer where
  | created (saved : Except Error SmartFilter)
  | deleted (deleted : Except Error SmartFilter)
  | resolved (decoded : Except StreamError Decoded)
  | listed (filters : List SmartFilter)
  | queried (page : Except Error (Page Series))

/-- What a call returns, and the engine after it. -/
def serve (e : Engine) : Operation → Answer × Engine
  | .create now name f =>
    let (saved, after) := e.create now name f
    (.created saved, after)
  | .delete id =>
    let (deleted, after) := e.delete id
    (.deleted deleted, after)
  | .resolve stream => (.resolved (e.resolve stream), e)
  | .list => (.listed e.store.list, e)
  | .query now rows f r => (.queried (e.query now rows f r), e)

/-- The engine after calls, one after the other. -/
def run (e : Engine) (calls : List Operation) : Engine :=
  calls.foldl (fun e call ↦ (e.serve call).2) e

/-! ### What reaches the store -/

/-- What a call asks the store to change. A filter that has no plan does not reach the store. -/
def Operation.change? (settings : Settings) : Operation → Option Store.Change
  | .create now name f =>
    match f.compile settings now with
    | .ok _ => some (.create name (encode f))
    | .error _ => none
  | .delete id => some (.delete id)
  | .resolve _ | .list | .query .. => none

/-- Only a call that deletes asks the store to delete. -/
theorem Operation.eq_delete_of_change? {settings : Settings} {call : Operation} {id : Int}
    (h : call.change? settings = some (.delete id)) : call = .delete id := by
  cases call with
  | create now name f =>
    rw [change?] at h
    cases hp : f.compile settings now with
    | error error => simp [hp] at h
    | ok plan => simp [hp] at h
  | delete other =>
    cases h
    rfl
  | resolve stream => cases h
  | list => cases h
  | query now rows f r => cases h

/-- A filter that has no plan does not reach the store. -/
theorem create_of_no_plan {e : Engine} {now : Instant} {f : Filter} {error : CompileError}
    (h : f.compile e.settings now = .error error) (name : String) :
    e.create now name f = (.error (.compile error), e) := by
  rw [create, validate, h]
  rfl

/-- A filter that has a plan is saved or refused by the store. -/
theorem create_of_plan {e : Engine} {now : Instant} {f : Filter} {plan : Plan}
    (h : f.compile e.settings now = .ok plan) (name : String) :
    e.create now name f =
      ((e.store.create name (encode f)).1.mapError .store,
        { e with store := (e.store.create name (encode f)).2 }) := by
  rw [create, validate, h]
  rfl

/-- A call saves a filter when the filter has a plan and the store takes it. -/
theorem create_eq_ok_iff {e after : Engine} {now : Instant} {name : String} {f : Filter}
    {saved : SmartFilter} :
    e.create now name f = (.ok saved, after) ↔
      (∃ plan, f.compile e.settings now = .ok plan) ∧
      ∃ store, e.store.create name (encode f) = (.ok saved, store) ∧ after = { e with store } := by
  cases hp : f.compile e.settings now with
  | error error => simp [create_of_no_plan hp]
  | ok plan =>
    simp only [create_of_plan hp, Prod.ext_iff, mapError_eq_ok_iff]
    constructor
    · rintro ⟨hs, he⟩
      exact ⟨⟨plan, rfl⟩, _, ⟨hs, rfl⟩, he.symm⟩
    · rintro ⟨-, store, ⟨hs, rfl⟩, rfl⟩
      exact ⟨hs, rfl⟩

/-- A call to save returns the filter that the engine has saved. -/
theorem serve_create_fst_iff {e : Engine} {now : Instant} {name : String} {f : Filter}
    {saved : SmartFilter} :
    (e.serve (.create now name f)).1 = .created (.ok saved) ↔
      ∃ after, e.create now name f = (.ok saved, after) := by
  rw [serve, Answer.created.injEq]
  constructor
  · intro h
    exact ⟨_, Prod.ext h rfl⟩
  · rintro ⟨after, h⟩
    rw [h]

/-- A call changes the engine by what it asks of the store. -/
theorem serve_snd (e : Engine) (call : Operation) :
    (e.serve call).2 =
      { e with store := (call.change? e.settings).elim e.store e.store.apply } := by
  cases call with
  | create now name f =>
    rw [serve, Operation.change?]
    cases hp : f.compile e.settings now with
    | error error =>
      rw [create_of_no_plan hp]
      rfl
    | ok plan =>
      rw [create_of_plan hp]
      rfl
  | delete id => rfl
  | resolve stream => rfl
  | list => rfl
  | query now rows f r => rfl

/-- A run changes the engine by what its calls ask of the store. -/
theorem run_eq (e : Engine) (calls : List Operation) :
    e.run calls =
      { e with store := e.store.run (calls.filterMap (Operation.change? e.settings)) } := by
  induction calls generalizing e with
  | nil => rfl
  | cons call rest ih =>
    have hr : e.run (call :: rest) = (e.serve call).2.run rest := rfl
    rw [hr, ih, serve_snd]
    cases hc : call.change? e.settings with
    | none => rw [List.filterMap_cons_none hc, Option.elim_none]
    | some change =>
      rw [List.filterMap_cons_some hc, Option.elim_some]
      rfl

/-! ### Streams of a saved filter -/

/-- A filter that has just been saved stays through calls that do not delete its identity. -/
theorem get?_run_of_created {e : Engine} (hids : e.store.IdsGiven) {now : Instant} {name : String}
    {f : Filter} {saved : SmartFilter}
    (h : (e.serve (.create now name f)).1 = .created (.ok saved)) {later : List Operation}
    (hdel : .delete saved.id ∉ later) :
    ((e.serve (.create now name f)).2.run later).store.get? saved.id = some saved := by
  obtain ⟨after, hs⟩ := serve_create_fst_iff.mp h
  obtain ⟨-, store, hc, rfl⟩ := create_eq_ok_iff.mp hs
  have hafter : (e.serve (.create now name f)).2 = { e with store } := by rw [serve, hs]
  have hchanges : .delete saved.id ∉ later.filterMap (Operation.change? e.settings) := by
    intro hm
    obtain ⟨call, hcall, heq⟩ := List.mem_filterMap.mp hm
    rw [Operation.eq_delete_of_change? heq] at hcall
    exact hdel hcall
  rw [hafter, run_eq]
  exact Store.get?_run (Store.get?_create hids hc) hchanges

/-- A stream shows the filter that its source encodes, once that has been decoded. -/
theorem resolve_eq_of_encodedOf {e : Engine} {stream : Stream} {f : Filter} {d : Decoded}
    (hs : e.store.encodedOf stream.source = .ok (encode f))
    (hd : Portable.decode (encode f) = .ok d) : e.resolve stream = .ok { filter := f } := by
  obtain ⟨-, -, hwhole⟩ := decode_encode_eq_ok_iff.mp hd
  rw [resolve, Store.resolve, hs]
  dsimp only
  rw [hd, hwhole]

/-- When the engine, begun with no filters, has saved a filter, then in every later state in which
the identity has not been deleted a stream of the saved filter shows that very filter, with nothing
lost. A stream with a copy shows it in every later state. The filter has a plan at every time. -/
theorem resolve_of_created {settings : Settings} {earlier : List Operation} {now : Instant}
    {name : String} {f : Filter} {saved : SmartFilter}
    (h : ((run { settings } earlier).serve (.create now name f)).1 = .created (.ok saved))
    (later : List Operation) :
    let e := run { settings } (earlier ++ .create now name f :: later)
    (.delete saved.id ∉ later → ∀ stream : Stream, stream.source = .saved saved.id →
      e.resolve stream = .ok { filter := f, losses := ⟨[], []⟩, ignoredSort := none }) ∧
    (∀ stream : Stream, stream.source = .copy saved.encoded →
      e.resolve stream = .ok { filter := f, losses := ⟨[], []⟩, ignoredSort := none }) ∧
    ∀ other, ∃ plan, e.validate other f = .ok plan := by
  intro e
  obtain ⟨after, hs⟩ := serve_create_fst_iff.mp h
  obtain ⟨⟨plan, hp⟩, store, hc, -⟩ := create_eq_ok_iff.mp hs
  -- no bound on the filter is asked for: the store has decoded it once, which is `hd`
  obtain ⟨-, ⟨d, hd⟩, hsaved, -⟩ := Store.create_eq_ok_iff.mp hc
  have henc : saved.encoded = encode f := by rw [hsaved]
  have he : e = ((run { settings } earlier).serve (.create now name f)).2.run later := by
    simp only [e, run, List.foldl_append, List.foldl_cons]
  refine ⟨fun hdel stream hs ↦ ?_, fun stream hs ↦ ?_, fun other ↦ ?_⟩
  · have hids : (run { settings } earlier).store.IdsGiven := by
      rw [run_eq]
      exact Store.idsGiven_new.run _
    have hget : e.store.get? saved.id = some saved := by
      rw [he]
      exact get?_run_of_created hids h hdel
    refine resolve_eq_of_encodedOf ?_ hd
    rw [hs, Store.encodedOf, hget, ← henc]
  · refine resolve_eq_of_encodedOf ?_ hd
    rw [hs, Store.encodedOf, henc]
  · have hsame : (run { settings } earlier).settings = e.settings := by
      simp only [e, run_eq]
    rw [hsame] at hp
    obtain ⟨moved, hm⟩ := Filter.exists_plan_at hp other
    rw [validate, hm]
    exact ⟨moved, rfl⟩

/-- A filter for series of one genre. -/
private def horror : Filter :=
  { name := "Horror", statements := [⟨.genres, .contains, "Horror"⟩] }

/-- A filter saved second is shown after the first has been deleted. -/
theorem resolve_of_created_horror :
    let first : Operation := .create ⟨0, 0⟩ "All" {}
    let saved : SmartFilter := ⟨2, "Horror", encode horror⟩
    let later : List Operation := [.delete 1, .list]
    ((run {} [first]).serve (.create ⟨0, 0⟩ " Horror" horror)).1 = .created (.ok saved) ∧
    .delete saved.id ∉ later ∧
    (run {} ([first] ++ .create ⟨0, 0⟩ " Horror" horror :: later)).resolve
      ⟨1, "Horror", .sideNav, .saved 2⟩ = .ok { filter := horror } := by
  intro first saved later
  have hfirst : Store.create {} "All" (encode {}) =
      (.ok ⟨1, "All", encode {}⟩, ⟨[⟨1, "All", encode {}⟩], 1⟩) := by
    rw [Store.create_eq_ok_iff]
    have hd : Portable.decode (encode {}) = .ok { filter := {} } :=
      decode_encode_eq_ok_iff.mpr ⟨by decide +kernel, Filter.fitsLevels_of_flat rfl, rfl⟩
    exact ⟨by simp, ⟨_, hd⟩, rfl, rfl⟩
  have hrun : run {} [first] = { store := ⟨[⟨1, "All", encode {}⟩], 1⟩ } := by
    have hp : first.change? {} = some (.create "All" (encode {})) := rfl
    simp [run_eq, hp, Store.run, Store.apply, hfirst]
  have hsecond : ∃ store, Store.create ⟨[⟨1, "All", encode {}⟩], 1⟩ " Horror" (encode horror) =
      (.ok saved, store) := by
    simp only [Store.create_eq_ok_iff]
    have hd : Portable.decode (encode horror) = .ok { filter := horror } :=
      decode_encode_eq_ok_iff.mpr ⟨by decide +kernel, Filter.fitsLevels_of_flat rfl, rfl⟩
    exact ⟨_, by decide, ⟨_, hd⟩, rfl, rfl⟩
  have h : ((run {} [first]).serve (.create ⟨0, 0⟩ " Horror" horror)).1 = .created (.ok saved) := by
    obtain ⟨store, hs⟩ := hsecond
    rw [hrun, serve_create_fst_iff]
    exact ⟨_, create_eq_ok_iff.mpr ⟨⟨_, rfl⟩, store, hs, rfl⟩⟩
  have hdel : .delete saved.id ∉ later := by
    simp [later, saved]
  exact ⟨h, hdel, (resolve_of_created h later).1 hdel _ rfl⟩

end Engine

end SeriesFilter
