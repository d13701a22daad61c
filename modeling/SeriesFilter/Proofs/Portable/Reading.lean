import SeriesFilter.Proofs.Filter.Reading
import SeriesFilter.Proofs.Portable.Payload

/-!
# Stored filters read back

The value that writes a document is read as that document wherever the brackets of the value may
open, if the numbers in it fit 64 bits, whether they mean anything or not. Where the brackets may
not open, the text is malformed. The proofs follow the readers member by member; a member that was
left out leaves its default in the draft.
-/

namespace SeriesFilter.Portable

open Json Json.Reader

section Members

variable {σ : Type} (put : Nat → σ → String → Tree → Except Fault σ) (depth : Nat) (key : String)
  (fill : Option α → σ) {r : Reader α}

/-- A list that is left out when empty fills its field or leaves it empty. -/
theorem gathers_listField {items : List Value} {a : α} (h : r.ReadsAs (.list items) a)
    (hp : ∀ t, put depth (fill none) key t = (Reader.fill none (r depth) t).map fill) :
    Gathers (put depth) depth (fill none) (listMember key items)
      (fill (if items.isEmpty then none else some a)) := by
  cases items with
  | nil => exact gathers_nil _
  | cons item rest => exact gathers_field put depth key fill h hp

/-- A value that is left out when missing fills its field or leaves it empty. -/
theorem gathers_optionField {write : β → Value} {read : β → α} {o : Option β}
    (h : ∀ b, o = some b → r.ReadsAs (write b) (read b))
    (hp : ∀ t, put depth (fill none) key t = (Reader.fill none (r depth) t).map fill) :
    Gathers (put depth) depth (fill none) (optionMember key (o.map write))
      (fill (o.map read)) := by
  cases o with
  | none => exact gathers_nil _
  | some b => exact gathers_field put depth key fill (h b rfl) hp

end Members

private theorem getD_unless_isEmpty {α β : Type} (as : List α) {bs : List β}
    (h : bs.isEmpty = as.isEmpty) : (if bs.isEmpty then none else some as).getD [] = as := by
  rw [h]
  cases as <;> rfl

private theorem join_map_some {α : Type} (o : Option α) : (o.map some).join = o := by
  cases o <;> rfl

/-! ### Numbers that fit -/

/-- The numbers that a document can hold: the signed 64-bit integers. -/
def IsInt64 (n : Int) : Prop :=
  -0x8000000000000000 ≤ n ∧ n ≤ 0x7FFFFFFFFFFFFFFF

instance (n : Int) : Decidable (IsInt64 n) :=
  inferInstanceAs (Decidable (_ ∧ _))

/-- A number that fits is read back. -/
private theorem readsAs_int64 {n : Int} (h : IsInt64 n) : int64.ReadsAs (.integer n) n := by
  obtain ⟨hl, hg⟩ := h
  exact readsAs_integer hl hg hl (by omega)

/-- The numbers of a statement fit. -/
def Statement.Fits (s : Statement) : Prop :=
  IsInt64 s.field ∧ IsInt64 s.comparison

instance (s : Statement) : Decidable s.Fits :=
  inferInstanceAs (Decidable (_ ∧ _))

/-- All numbers of a document fit. -/
structure Document.Fits (d : Document) : Prop where
  statements : ∀ s ∈ d.allStatements, s.Fits
  combination : IsInt64 d.combination
  sort : ∀ o, d.sort = some o → IsInt64 o.field

/-- The numbers of a statement of a filter fit. -/
theorem Statement.fits_ofStatement (s : SeriesFilter.Statement) : (ofStatement s).Fits := by
  have hf := s.field.id_bounds
  have hc := s.comparison.id_bounds
  change IsInt64 s.field.id ∧ IsInt64 s.comparison.id
  unfold IsInt64
  omega

/-- All numbers of the document of a filter fit. -/
theorem Document.fits_ofFilter (f : Filter) : (ofFilter f).Fits where
  statements := by
    rw [allStatements_ofFilter, List.forall_mem_map]
    exact fun s _ ↦ Statement.fits_ofStatement s
  combination := by
    have hc := f.combination.id_bounds
    change IsInt64 f.combination.id
    unfold IsInt64
    omega
  sort := by
    intro o ho
    obtain ⟨s, -, rfl⟩ := Option.map_eq_some_iff.mp ho
    have hs := s.field.id_bounds
    change IsInt64 s.field.id
    unfold IsInt64
    omega

/-! ### Reading -/

namespace Statement

/-- A statement whose numbers fit is read back. -/
theorem readsAs {s : Statement} (h : s.Fits) : reader.ReadsAs s.toJson s := by
  have hm (depth : Nat) : Gathers (Draft.put depth) depth {} _ _ :=
    ((gathers_field Draft.put depth "f" (fun slot ↦ ⟨slot, none, none⟩) (readsAs_int64 h.1)
      fun _ ↦ rfl).append
      (gathers_field Draft.put depth "c" (fun slot ↦ ⟨_, slot, none⟩) (readsAs_int64 h.2)
        fun _ ↦ rfl)).append
      (gathers_field Draft.put depth "v" (fun slot ↦ ⟨_, _, slot⟩) (readsAs_text s.value)
        fun _ ↦ rfl)
  exact readsAs_record (fun _ _ ↦ rfl) (fun _ ↦ rfl) hm rfl

/-- Statements whose numbers fit are read back. -/
theorem readsAs_list {ss : List Statement} (h : ∀ s ∈ ss, s.Fits) :
    (Reader.list reader).ReadsAs (.list (ss.map toJson)) ss := by
  have hl := Reader.readsAs_list fun s hs ↦ readsAs (h s hs)
  rwa [List.map_id'] at hl

end Statement

namespace Group

private theorem reader_succ (depth : Nat) (t : Tree) :
    reader (depth + 1) t = readWith depth (Reader.list reader depth) t := by
  cases depth <;> rfl

private theorem readsAs_groups {gs : List Group}
    (h : ∀ g ∈ gs, (∀ s ∈ g.allStatements, s.Fits) → reader.ReadsAs g.toJson g)
    (hs : ∀ s ∈ listStatements gs, s.Fits) :
    (Reader.list reader).ReadsAs (.list (listToJson gs)) gs := by
  rw [listStatements_eq_flatMap] at hs
  have hg (g : Group) (hm : g ∈ gs) : reader.ReadsAs g.toJson g :=
    h g hm fun s hi ↦ hs s (List.mem_flatMap.mpr ⟨g, hm, hi⟩)
  have hl := Reader.readsAs_list hg
  rwa [List.map_id', ← listToJson_eq_map] at hl

/-- A group is read back when the numbers of the statements below it fit. -/
theorem readsAs {g : Group} (h : ∀ s ∈ g.allStatements, s.Fits) : reader.ReadsAs g.toJson g := by
  induction g with
  | mk statements and or hand hor =>
    rw [allStatements, List.forall_mem_append, List.forall_mem_append] at h
    obtain ⟨⟨hs, ha⟩, ho⟩ := h
    let put (depth : Nat) := Draft.put depth (Reader.list reader depth)
    have hm (depth : Nat) : Gathers (put depth) depth {} _ _ :=
      ((gathers_listField put depth "s" (fun slot ↦ ⟨slot, none, none⟩)
        (Statement.readsAs_list hs) fun _ ↦ rfl).append
        (gathers_listField put depth "a" (fun slot ↦ ⟨_, slot, none⟩) (readsAs_groups hand ha)
          fun _ ↦ rfl)).append
        (gathers_listField put depth "o" (fun slot ↦ ⟨_, _, slot⟩) (readsAs_groups hor ho)
          fun _ ↦ rfl)
    rw [toJson]
    refine readsAs_record reader_succ (fun _ ↦ rfl) hm ?_
    change Except.ok (Group.mk _ _ _) = _
    rw [getD_unless_isEmpty, getD_unless_isEmpty, getD_unless_isEmpty]
    all_goals simp [listToJson_eq_map]

end Group

/-- An order is read back when its number fits. -/
theorem Order.readsAs {o : Order} (h : IsInt64 o.field) : reader.ReadsAs o.toJson o := by
  have hm (depth : Nat) : Gathers (Draft.put depth) depth {} _ _ :=
    (gathers_field Draft.put depth "f" (fun slot ↦ ⟨slot, none⟩) (readsAs_int64 h)
      fun _ ↦ rfl).append
      (gathers_field Draft.put depth "a" (fun slot ↦ ⟨_, slot⟩) (readsAs_bool o.ascending)
        fun _ ↦ rfl)
  exact readsAs_record (fun _ _ ↦ rfl) (fun _ ↦ rfl) hm rfl

namespace Document

/-- A document is read back when all its numbers fit. -/
theorem readsAs {d : Document} (h : d.Fits) : reader.ReadsAs d.toJson d := by
  obtain ⟨name, statements, combination, sort, limit, group⟩ := d
  obtain ⟨hs, hc, ho⟩ := h
  rw [allStatements, List.forall_mem_append] at hs
  have hn (s : String) : (optional text).ReadsAs (.text s) (some s) :=
    readsAs_optional (readsAs_text s) (by rintro ⟨⟩)
  have ho (o : Order) (hm : sort = some o) : (optional Order.reader).ReadsAs o.toJson (some o) :=
    readsAs_optional (Order.readsAs (ho o hm)) (by rintro ⟨⟩)
  have hg (g : Group) (hm : group = some g) :
      (optional Group.reader).ReadsAs g.toJson (some g) := by
    refine readsAs_optional (Group.readsAs fun s hi ↦ hs.2 s ?_) ?_
    · rw [hm]
      exact hi
    · cases g
      rintro ⟨⟩
  -- The limit is written as an optional member that is missing when the limit is zero.
  let limit? : Option UInt32 := if limit = 0 then none else some limit
  have hl : (if limit = 0 then none else some (Value.integer limit.toNat)) =
      limit?.map fun l ↦ .integer l.toNat := by
    simp only [limit?]
    split <;> rfl
  have hm (depth : Nat) : Gathers (Draft.put depth) depth {} _ _ :=
    (((((gathers_optionField Draft.put depth "n" (fun slot ↦ ⟨slot, none, none, none, none, none⟩)
      (o := name) (fun s _ ↦ hn s) fun _ ↦ rfl).append
      (gathers_listField Draft.put depth "s" (fun slot ↦ ⟨_, slot, none, none, none, none⟩)
        (Statement.readsAs_list hs.1) fun _ ↦ rfl)).append
      (gathers_field Draft.put depth "c" (fun slot ↦ ⟨_, _, slot, none, none, none⟩)
        (readsAs_int64 hc) fun _ ↦ rfl)).append
      (gathers_optionField Draft.put depth "o" (fun slot ↦ ⟨_, _, _, slot, none, none⟩) ho
        fun _ ↦ rfl)).append
      (gathers_optionField Draft.put depth "l" (fun slot ↦ ⟨_, _, _, _, slot, none⟩)
        (o := limit?) (fun l _ ↦ Filter.readsAs_limit l) fun _ ↦ rfl)).append
      (gathers_optionField Draft.put depth "g" (fun slot ↦ ⟨_, _, _, _, _, slot⟩) hg
        fun _ ↦ rfl)
  rw [toJson]
  dsimp only
  rw [hl]
  refine readsAs_record (fun _ _ ↦ rfl) (fun _ ↦ rfl) hm ?_
  have hd : (limit?.map fun l ↦ l).getD 0 = limit := by
    simp only [limit?]
    split
    · next h => exact h.symm
    · rfl
  change Except.ok (Document.mk _ _ _ _ _ _) = _
  rw [join_map_some, join_map_some, join_map_some, getD_unless_isEmpty _ (by simp), hd]
  rfl

/-- The document that stores a filter is read back. -/
theorem readsAs_ofFilter (f : Filter) : reader.ReadsAs (ofFilter f).toJson (ofFilter f) :=
  readsAs (fits_ofFilter f)

end Document

end SeriesFilter.Portable
