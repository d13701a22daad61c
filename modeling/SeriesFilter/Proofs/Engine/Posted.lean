import SeriesFilter.Engine
import SeriesFilter.Proofs.Outcome
import SeriesFilter.Proofs.Portable.Accounting
import SeriesFilter.Proofs.Portable.RoundTrip

/-!
# Posted and stored numbers

A form posts the numbers of a statement and a document stores them, and each is looked up by a
function of its own, which narrows it first. However wide a number is, both find only what has that
very number, and otherwise both report it as it was written. So it is with the numbers that a
document gives for its combination and its order.
-/

namespace SeriesFilter

open Portable

/-! ### Posted statements -/

/-- What a report says of a posted statement: nothing has the number that it gives. The field comes
first. -/
def RawStatementError.Explains (r : RawStatement) (location : String) : RawStatementError → Prop
  | .unknownField id place =>
    id = r.field ∧ place = location ∧ ∀ f : Field, f.id ≠ r.field
  | .unknownComparison id place =>
    id = r.comparison ∧ place = location ∧ (∃ f : Field, f.id = r.field) ∧
      ∀ c : Comparison, c.id ≠ r.comparison

namespace RawStatement

variable {r : RawStatement} {location : String}

/-- A posted statement means the one with its numbers and its literal. -/
theorem resolve_eq_ok_iff {s : Statement} :
    r.resolve location = .ok s ↔
      s.field.id = r.field ∧ s.comparison.id = r.comparison ∧ s.value = r.value := by
  rw [resolve, Field.int32?_bind_ofId?, Comparison.int32?_bind_ofId?,
    ← Field.ofId?_eq_some_iff, ← Comparison.ofId?_eq_some_iff]
  cases Field.ofId? r.field with
  | none => simp
  | some f =>
    cases Comparison.ofId? r.comparison with
    | none => simp
    | some c =>
      obtain ⟨field, comparison, value⟩ := s
      simp [eq_comm]

/-- A posted statement is refused for a field that is none. -/
theorem resolve_of_unknownField (h : ∀ f : Field, f.id ≠ r.field) :
    r.resolve location = .error (.unknownField r.field location) := by
  rw [resolve, Field.int32?_bind_ofId?, Field.ofId?_eq_none_iff.mpr h]

/-- A posted statement is refused for an operator that is none, if its field is one. -/
theorem resolve_of_unknownComparison {f : Field} (hf : f.id = r.field)
    (h : ∀ c : Comparison, c.id ≠ r.comparison) :
    r.resolve location = .error (.unknownComparison r.comparison location) := by
  rw [resolve, Field.int32?_bind_ofId?, Field.ofId?_eq_some_iff.mpr hf,
    Comparison.int32?_bind_ofId?, Comparison.ofId?_eq_none_iff.mpr h]

/-- A posted statement is refused for a number that nothing has, and only for one. -/
theorem resolve_eq_error_iff {e : RawStatementError} :
    r.resolve location = .error e ↔ e.Explains r location := by
  constructor
  · intro h
    by_cases hf : ∀ f : Field, f.id ≠ r.field
    · rw [resolve_of_unknownField hf] at h
      cases h
      exact ⟨rfl, rfl, hf⟩
    obtain ⟨f, hf⟩ := Classical.not_forall_not.mp hf
    by_cases hc : ∀ c : Comparison, c.id ≠ r.comparison
    · rw [resolve_of_unknownComparison hf hc] at h
      cases h
      exact ⟨rfl, rfl, ⟨f, hf⟩, hc⟩
    obtain ⟨c, hc⟩ := Classical.not_forall_not.mp hc
    have hk : r.resolve location = .ok ⟨f, c, r.value⟩ := resolve_eq_ok_iff.mpr ⟨hf, hc, rfl⟩
    rw [hk] at h
    cases h
  · cases e with
    | unknownField id place =>
      rintro ⟨rfl, rfl, hf⟩
      exact resolve_of_unknownField hf
    | unknownComparison id place =>
      rintro ⟨rfl, rfl, ⟨f, hf⟩, hc⟩
      exact resolve_of_unknownComparison hf hc

end RawStatement

/-! ### Stored statements -/

namespace Portable

/-- The statement that posts the numbers and the literal of a stored one. -/
def Statement.posted (s : Statement) : RawStatement :=
  ⟨s.field, s.comparison, s.value⟩

/-- The report of a posted statement that has the reason for which a stored one is dropped. -/
def Statement.refusal (s : Statement) (location : String) : DropReason → RawStatementError
  | .unknownField => .unknownField s.field location
  | .unknownComparison => .unknownComparison s.comparison location

namespace Statement

variable {s : Statement} {location : String}

/-- A statement is read alike whether it is posted or stored. -/
theorem resolve_posted (s : Statement) (location : String) :
    s.posted.resolve location = s.resolve.mapError (s.refusal location) := by
  rw [RawStatement.resolve, resolve]
  dsimp only [posted]
  cases (int32? s.field).bind Field.ofId? with
  | none => rfl
  | some f =>
    cases (int32? s.comparison).bind Comparison.ofId? with
    | none => rfl
    | some c => rfl

/-- Reports for different reasons differ. -/
theorem refusal_inj {reason other : DropReason} :
    s.refusal location reason = s.refusal location other ↔ reason = other := by
  cases reason <;> cases other <;> simp [refusal]

/-- A posted statement is refused exactly for the reason for which it is dropped when stored. -/
theorem resolve_posted_eq_error_iff {reason : DropReason} :
    s.posted.resolve location = .error (s.refusal location reason) ↔ s.resolve = .error reason := by
  rw [resolve_posted, mapError_eq_error_iff]
  constructor
  · rintro ⟨other, hr, he⟩
    rw [hr, refusal_inj.mp he]
  · intro hr
    exact ⟨reason, hr, rfl⟩

/-- A posted statement is taken exactly when it is kept as it is stored. -/
theorem exists_resolve_posted_iff :
    (∃ kept, s.posted.resolve location = .ok kept) ↔ s.isKnown = true := by
  simp only [resolve_posted, mapError_eq_ok_iff]
  cases hk : s.isKnown with
  | true =>
    obtain ⟨kept, hr, -⟩ := resolve_of_isKnown hk
    exact iff_of_true ⟨kept, hr⟩ rfl
  | false =>
    simp [resolve_of_not_isKnown hk]

end Statement

/-- The statements that are kept of some stored ones are those that are taken when these are
posted. -/
theorem eq_filterMap_posted {stored : List Statement} {kept : List SeriesFilter.Statement}
    (h : kept.map Statement.ofStatement = stored.filter Statement.isKnown) (location : String) :
    kept = stored.filterMap fun s ↦ (s.posted.resolve location).toOption := by
  let taken (s : Statement) := (s.posted.resolve location).toOption
  have hk : taken ∘ Statement.ofStatement = some := by
    funext s
    change ((Statement.ofStatement s).posted.resolve location).toOption = some s
    rw [Statement.resolve_posted, Statement.resolve_ofStatement]
    rfl
  have hu : (fun s : Statement ↦ if s.isKnown = true then taken s else none) = taken := by
    funext s
    cases hs : s.isKnown with
    | true => rfl
    | false =>
      simp only [taken]
      rw [Statement.resolve_posted, Statement.resolve_of_not_isKnown hs]
      rfl
  -- Nothing is lost when the known statements are taken out first, for no other one is taken.
  calc kept = kept.filterMap some := List.filterMap_some.symm
    _ = (kept.map Statement.ofStatement).filterMap taken := by rw [List.filterMap_map, hk]
    _ = stored.filterMap taken := by rw [h, List.filterMap_filter, hu]

/-! ### Orders and combinations -/

namespace Order

variable {o : Order}

/-- A stored order means the one with its number and its direction. -/
theorem resolve_fst_iff {s : SortOptions} :
    o.resolve.1 = some s ↔ s.field.id = o.field ∧ s.ascending = o.ascending := by
  rw [resolve, SortField.uint8?_bind_ofId?, ← SortField.ofId?_eq_some_iff]
  cases SortField.ofId? o.field with
  | none => simp
  | some f =>
    obtain ⟨field, ascending⟩ := s
    simp [eq_comm]

/-- The number of an order is ignored exactly when no sort field has it. -/
theorem resolve_snd_iff {n : Int} :
    o.resolve.2 = some n ↔ o.field = n ∧ ∀ f : SortField, f.id ≠ n := by
  rw [resolve, SortField.uint8?_bind_ofId?, ← SortField.ofId?_eq_none_iff]
  cases hf : SortField.ofId? o.field with
  | none =>
    constructor
    · rintro ⟨⟩
      exact ⟨rfl, hf⟩
    · rintro ⟨rfl, -⟩
      rfl
  | some f =>
    constructor
    · rintro ⟨⟩
    · rintro ⟨rfl, hn⟩
      rw [hf] at hn
      cases hn

end Order

namespace Document

/-- The order that decoding finds, or the number that it ignores. -/
theorem sort_resolve (document : Document) (c : Combination) :
    ((document.resolve c).filter.sort, (document.resolve c).ignoredSort) =
      (document.sort.map Order.resolve).getD (none, none) := by
  obtain ⟨name, statements, number, sort, limit, group⟩ := document
  cases sort <;> cases group <;> rfl

/-- Whether a string, apart from blanks around it, stores a document. -/
def StoredIn (document : Document) (s : String) : Prop :=
  ∃ payload, Encloses (Text.trim s) payload ∧
    (Json.Document.ofBytes payload).read reader = .ok document

/-- A document is stored by its payload when its numbers fit and its brackets may open. -/
theorem storedIn_enclose {document : Document} (h : document.Fits)
    (hn : document.toJson.nesting ≤ Json.maxNesting) :
    document.StoredIn (enclose document.payload) := by
  refine ⟨document.payload, encloses_enclose _, ?_⟩
  rw [read_payload, readsAs h, Json.within, if_pos hn]

section StoredIn

variable {document : Document} {s : String} {max : Nat} (h : document.StoredIn s)
  (hl : (Text.trim s).utf8ByteSize ≤ max)
include h hl

/-- A string within the bound is decoded from a payload of its document. -/
theorem StoredIn.exists_payload :
    ∃ payload, decodeUpTo max s = decodePayload payload ∧
      (Json.Document.ofBytes payload).read reader = .ok document := by
  obtain ⟨payload, hp, hr⟩ := h
  exact ⟨payload, by rw [hp.decodeUpTo_eq, if_neg (Nat.not_lt.mpr hl)], hr⟩

/-- A string is decoded under the combination that has the stored number. -/
theorem StoredIn.decodeUpTo_eq_ok_iff {d : Decoded} :
    decodeUpTo max s = .ok d ↔
      ∃ c : Combination, c.id = document.combination ∧ document.resolve c = d := by
  obtain ⟨payload, he, hr⟩ := h.exists_payload hl
  rw [he, decodePayload, hr]
  dsimp only
  rw [Combination.uint8?_bind_ofId?]
  simp only [← Combination.ofId?_eq_some_iff]
  cases Combination.ofId? document.combination with
  | none => simp
  | some c => simp

/-- A string is refused exactly when no combination has the stored number. -/
theorem StoredIn.decodeUpTo_eq_error_iff {e : DecodeError} :
    decodeUpTo max s = .error e ↔
      (∀ c : Combination, c.id ≠ document.combination) ∧
        e = .combination document.combination := by
  obtain ⟨payload, he, hr⟩ := h.exists_payload hl
  rw [he, decodePayload, hr]
  dsimp only
  rw [Combination.uint8?_bind_ofId?, ← Combination.ofId?_eq_none_iff]
  cases Combination.ofId? document.combination with
  | none => simp [eq_comm]
  | some c => simp

end StoredIn

/-- Decoding reads the statements of a document as if they were posted, and gives its combination
and its order the numbers that are stored. -/
structure ReadAsPosted (document : Document) (location : String) (d : Decoded) : Prop where
  /-- The statements that stay are those that are taken when posted, in their order. -/
  kept : d.filter.allStatements =
    document.allStatements.filterMap fun s ↦ (s.posted.resolve location).toOption
  /-- The others are dropped, each for what it is refused for when posted. -/
  mem_dropped : ∀ x, x ∈ d.losses.dropped ↔
    document.statementAt? x.location = some x.statement ∧
      x.statement.posted.resolve location = .error (x.statement.refusal location x.reason)
  /-- A statement stays at its place exactly when it is taken as it is posted. -/
  survives : ∀ place s, document.statementAt? place = some s →
    (place ∉ d.losses.dropped.map Dropped.location ↔
      ∃ kept, s.posted.resolve location = .ok kept)
  /-- The combination has the number that is stored. -/
  combination : d.filter.combination.id = document.combination
  /-- The order is the stored one if a sort field has its number. -/
  sort : ∀ s, d.filter.sort = some s ↔
    ∃ o, document.sort = some o ∧ s.field.id = o.field ∧ s.ascending = o.ascending
  /-- Otherwise that number is reported. -/
  ignoredSort : ∀ n, d.ignoredSort = some n ↔
    ∃ o, document.sort = some o ∧ o.field = n ∧ ∀ f : SortField, f.id ≠ n

section Accounted

variable {document : Document} {d : Decoded} (h : document.Accounted d) (location : String)
include h

/-- What is dropped is what is refused when it is posted, for the same reason. -/
theorem Accounted.mem_dropped_iff_refused (x : Dropped) :
    x ∈ d.losses.dropped ↔
      document.statementAt? x.location = some x.statement ∧
        x.statement.posted.resolve location = .error (x.statement.refusal location x.reason) := by
  rw [h.mem_dropped, Statement.resolve_posted_eq_error_iff, Statement.resolve_eq_error_iff]
  constructor
  · rintro ⟨s, hs, hu, hx⟩
    have he : x.statement = s := congrArg Dropped.statement hx
    have hw : x.reason = s.unknownReason := congrArg Dropped.reason hx
    rw [he, hw]
    exact ⟨hs, hu, rfl⟩
  · rintro ⟨hs, hu, hw⟩
    refine ⟨x.statement, hs, hu, ?_⟩
    rw [Statement.droppedFrom, hw]
    rfl

/-- Nothing is dropped from the place of a statement exactly when the statement is taken as it is
posted. -/
theorem Accounted.location_notMem_iff_taken {place : Location} {s : Statement}
    (hp : document.statementAt? place = some s) :
    place ∉ d.losses.dropped.map Dropped.location ↔
      ∃ kept, s.posted.resolve location = .ok kept := by
  rw [Statement.exists_resolve_posted_iff, List.mem_map]
  cases hk : s.isKnown with
  | true =>
    refine iff_of_true ?_ rfl
    rintro ⟨x, hx, rfl⟩
    obtain ⟨t, ht, hu, -⟩ := (h.mem_dropped x).mp hx
    obtain rfl := Option.some.inj (hp.symm.trans ht)
    rw [hk] at hu
    cases hu
  | false =>
    refine iff_of_false (not_not_intro ?_) nofun
    exact ⟨s.droppedFrom place, (h.mem_dropped _).mpr ⟨s, hp, hk, rfl⟩, rfl⟩

end Accounted

/-- A document is read as if its statements were posted. -/
theorem readAsPosted_resolve {document : Document} {c : Combination}
    (hc : c.id = document.combination) (location : String) :
    document.ReadAsPosted location (document.resolve c) := by
  have ha := document.accounted_resolve c
  obtain ⟨hs, hi⟩ := Prod.mk.inj (document.sort_resolve c)
  exact {
    kept := eq_filterMap_posted ha.statements location
    mem_dropped := ha.mem_dropped_iff_refused location
    survives := fun place s ↦ ha.location_notMem_iff_taken location
    combination := by
      rw [← hc]
      obtain ⟨name, statements, number, sort, limit, group⟩ := document
      rfl
    sort := by
      intro s
      rw [hs]
      cases document.sort with
      | none => simp
      | some o => simp [Order.resolve_fst_iff]
    ignoredSort := by
      intro n
      rw [hi]
      cases document.sort with
      | none => simp
      | some o => simp [Order.resolve_snd_iff] }

end Document

end Portable

/-- Whether it is posted or stored, a statement means the one that has its numbers, however wide
they are. One whose field or operator has no such number is refused or dropped for it, and the
report names the number as it was written. In the same way a string that stores a document is
refused for a combination that has no such number, and otherwise its order is ignored and reported.
Any numbers of 64 bits can be stored. -/
theorem posted_and_stored_numbers_agree (location : String) :
    (∀ (r : RawStatement) (s : Statement), r.resolve location = .ok s ↔
      s.field.id = r.field ∧ s.comparison.id = r.comparison ∧ s.value = r.value) ∧
    (∀ (r : RawStatement) (e : RawStatementError),
      r.resolve location = .error e ↔ e.Explains r location) ∧
    (∀ (document : Document) (s : String) (max : Nat), document.StoredIn s →
      (Text.trim s).utf8ByteSize ≤ max →
      (∀ e, decodeUpTo max s = .error e ↔
        (∀ c : Combination, c.id ≠ document.combination) ∧
          e = .combination document.combination) ∧
      ∀ d, decodeUpTo max s = .ok d → document.ReadAsPosted location d) ∧
    ∀ document : Document, document.Fits → document.toJson.nesting ≤ Json.maxNesting →
      document.StoredIn (enclose document.payload) := by
  refine ⟨fun r s ↦ RawStatement.resolve_eq_ok_iff,
    fun r e ↦ RawStatement.resolve_eq_error_iff, fun document s max h hl ↦ ?_,
    fun document ↦ Document.storedIn_enclose⟩
  refine ⟨fun e ↦ h.decodeUpTo_eq_error_iff hl, fun d hd ↦ ?_⟩
  obtain ⟨c, hc, rfl⟩ := (h.decodeUpTo_eq_ok_iff hl).mp hd
  exact Document.readAsPosted_resolve hc location

/-- A document whose numbers would stand for something if only their lowest bits were taken. -/
private def wideDocument (combination : Int) : Document where
  statements := [⟨0x100000001, 0, "x"⟩, ⟨1, 0x100000000, "y"⟩, ⟨1, 0, "z"⟩]
  combination
  sort := some ⟨0x101, true⟩

/-- The string that stores it. -/
private def wideString (combination : Int) : String :=
  enclose (wideDocument combination).payload

private theorem storedIn_wideString {combination : Int} (h : IsInt64 combination) :
    (wideDocument combination).StoredIn (wideString combination) := by
  refine Document.storedIn_enclose ⟨?_, h, ?_⟩ ?_
  · change ∀ s ∈ [(⟨0x100000001, 0, "x"⟩ : Portable.Statement), ⟨1, 0x100000000, "y"⟩,
      ⟨1, 0, "z"⟩], s.Fits
    decide
  · rintro o ⟨⟩
    decide
  · change 3 ≤ 127
    decide

/-- Numbers that are too wide stand for nothing: posted statements with such numbers are refused,
stored ones are dropped, such an order is ignored and such a combination refused. -/
theorem posted_and_stored_numbers_agree_wide :
    RawStatement.resolve ⟨0x100000001, 0, "x"⟩ "form" =
      .error (.unknownField 0x100000001 "form") ∧
    RawStatement.resolve ⟨1, 0x100000000, "y"⟩ "form" =
      .error (.unknownComparison 0x100000000 "form") ∧
    decodeUpTo (Text.trim (wideString 0x101)).utf8ByteSize (wideString 0x101) =
      .error (.combination 0x101) ∧
    ∃ d, decodeUpTo (Text.trim (wideString 1)).utf8ByteSize (wideString 1) = .ok d ∧
      d.filter.allStatements = [⟨.seriesName, .equal, "z"⟩] ∧
      ⟨.flat 0, 0x100000001, 0, "x", .unknownField⟩ ∈ d.losses.dropped ∧
      ⟨.flat 1, 1, 0x100000000, "y", .unknownComparison⟩ ∈ d.losses.dropped ∧
      d.filter.combination = .and ∧ d.filter.sort = none ∧ d.ignoredSort = some 0x101 := by
  obtain ⟨-, herror, hdecode, -⟩ := posted_and_stored_numbers_agree "form"
  have hx : RawStatement.resolve ⟨0x100000001, 0, "x"⟩ "form" =
      .error (.unknownField 0x100000001 "form") := by
    refine (herror _ _).mpr ⟨rfl, rfl, fun f ↦ ?_⟩
    have hf := f.id_bounds
    dsimp only
    omega
  have hy : RawStatement.resolve ⟨1, 0x100000000, "y"⟩ "form" =
      .error (.unknownComparison 0x100000000 "form") := by
    refine (herror _ _).mpr ⟨rfl, rfl, ⟨.seriesName, rfl⟩, fun c ↦ ?_⟩
    have hc := c.id_bounds
    dsimp only
    omega
  have hsort (f : SortField) : f.id ≠ 0x101 := by
    have hf := f.id_bounds
    omega
  obtain ⟨hc, -⟩ := hdecode (wideDocument 0x101) (wideString 0x101) _
    (storedIn_wideString (by decide)) (Nat.le_refl _)
  obtain ⟨hn, hr⟩ := hdecode (wideDocument 1) (wideString 1) _
    (storedIn_wideString (by decide)) (Nat.le_refl _)
  refine ⟨hx, hy, (hc _).mpr ⟨fun c ↦ ?_, rfl⟩, ?_⟩
  · have hb := c.id_bounds
    change c.id ≠ 0x101
    omega
  cases hd : decodeUpTo (Text.trim (wideString 1)).utf8ByteSize (wideString 1) with
  | error e => exact absurd rfl (((hn e).mp hd).1 .and)
  | ok d =>
    have ha := hr d hd
    refine ⟨d, rfl, ha.kept, (ha.mem_dropped _).mpr ⟨rfl, hx⟩, (ha.mem_dropped _).mpr ⟨rfl, hy⟩,
      ?_, ?_, (ha.ignoredSort _).mpr ⟨_, rfl, rfl, hsort⟩⟩
    · have hi := ha.combination
      cases hk : d.filter.combination with
      | or =>
        rw [hk] at hi
        cases hi
      | and => rfl
    · refine Option.eq_none_iff_forall_ne_some.mpr fun s hs ↦ ?_
      obtain ⟨o, ho, hi, -⟩ := (ha.sort s).mp hs
      cases ho
      exact hsort _ hi

end SeriesFilter
