import SeriesFilter.Filter.Json
import SeriesFilter.Proofs.Catalog.Numbers
import SeriesFilter.Proofs.Filter.Tree
import SeriesFilter.Proofs.Json.Readers

/-!
# Filters read back from JSON

The value that writes a filter is read as that filter wherever the brackets of the value may open.
Members under other keys may follow those of the filter: they are passed over and need no room.
-/

namespace SeriesFilter

open Json Json.Reader

namespace Statement

/-- A statement is read back. -/
theorem readsAs (s : Statement) : reader.ReadsAs s.toJson s := by
  have hf := s.field.id_bounds
  have hc := s.comparison.id_bounds
  have hfi : Field.reader.ReadsAs (.integer s.field.id) s.field :=
    readsAs_refine (readsAs_integer (by omega) (by omega) (by omega) (by omega))
      (Field.ofId?_eq_some_iff.mpr rfl)
  have hci : Comparison.reader.ReadsAs (.integer s.comparison.id) s.comparison :=
    readsAs_refine (readsAs_integer (by omega) (by omega) (by omega) (by omega))
      (Comparison.ofId?_eq_some_iff.mpr rfl)
  have hm (depth : Nat) : Gathers (Draft.put depth) depth {} _ _ :=
    ((gathers_field Draft.put depth "field" (fun slot ↦ ⟨slot, none, none⟩) hfi
      fun _ ↦ rfl).append
      (gathers_field Draft.put depth "comparison" (fun slot ↦ ⟨some s.field, slot, none⟩) hci
        fun _ ↦ rfl)).append
      (gathers_field Draft.put depth "value"
        (fun slot ↦ ⟨some s.field, some s.comparison, slot⟩) (readsAs_text s.value) fun _ ↦ rfl)
  exact readsAs_record (fun _ _ ↦ rfl) (fun _ ↦ rfl) hm rfl

/-- A list of statements is read back. -/
theorem readsAs_list (ss : List Statement) :
    (Reader.list reader).ReadsAs (.list (ss.map toJson)) ss := by
  have h : (Reader.list reader).ReadsAs (.list (ss.map toJson)) (ss.map id) :=
    Reader.readsAs_list fun s _ ↦ s.readsAs
  rwa [List.map_id] at h

end Statement

namespace Group

/-- A list of groups is written group by group. -/
theorem listToJson_eq_map (gs : List Group) : listToJson gs = gs.map toJson := by
  induction gs with
  | nil => rfl
  | cons g gs ih => rw [listToJson, ih, List.map_cons]

private theorem reader_succ (depth : Nat) (t : Tree) :
    reader (depth + 1) t = readWith depth (Reader.list reader depth) t := by
  cases depth <;> rfl

private theorem readsAs_list {gs : List Group} (h : ∀ g ∈ gs, reader.ReadsAs g.toJson g) :
    (Reader.list reader).ReadsAs (.list (listToJson gs)) gs := by
  have hl := Reader.readsAs_list (g := id) h
  rwa [List.map_id, ← listToJson_eq_map] at hl

/-- A group is read back. -/
theorem readsAs (g : Group) : reader.ReadsAs g.toJson g := by
  induction g with
  | mk statements and or hand hor =>
    let put (depth : Nat) := Draft.put depth (Reader.list reader depth)
    have hm (depth : Nat) : Gathers (put depth) depth {} _ _ :=
      ((gathers_field put depth "statements" (fun slot ↦ ⟨slot, none, none⟩)
        (Statement.readsAs_list statements) fun _ ↦ rfl).append
        (gathers_field put depth "and" (fun slot ↦ ⟨some statements, slot, none⟩)
          (readsAs_list hand) fun _ ↦ rfl)).append
        (gathers_field put depth "or" (fun slot ↦ ⟨some statements, some and, slot⟩)
          (readsAs_list hor) fun _ ↦ rfl)
    rw [toJson]
    exact readsAs_record reader_succ (fun _ ↦ rfl) hm rfl

end Group

/-- An order is read back. -/
theorem SortOptions.readsAs (s : SortOptions) : reader.ReadsAs s.toJson s := by
  have hf := s.field.id_bounds
  have hfi : SortField.reader.ReadsAs (.integer s.field.id) s.field :=
    readsAs_refine (readsAs_integer (by omega) (by omega) (by omega) (by omega))
      (SortField.ofId?_eq_some_iff.mpr rfl)
  have hm (depth : Nat) : Gathers (Draft.put depth) depth {} _ _ :=
    (gathers_field Draft.put depth "sortField" (fun slot ↦ ⟨slot, none⟩) hfi fun _ ↦ rfl).append
      (gathers_field Draft.put depth "isAscending" (fun slot ↦ ⟨some s.field, slot⟩)
        (readsAs_bool s.ascending) fun _ ↦ rfl)
  exact readsAs_record (fun _ _ ↦ rfl) (fun _ ↦ rfl) hm rfl

namespace Filter

/-- A limit is read back. -/
theorem readsAs_limit (limit : UInt32) :
    limitReader.ReadsAs (.integer limit.toNat) limit := by
  intro depth
  have hl := limit.toNat_lt
  have hn : (natural 0x100000000).ReadsAs (.integer limit.toNat) limit.toNat :=
    readsAs_natural (by omega) (by omega)
  rw [limitReader, hn depth, map_within, Nat.toUInt32, UInt32.ofNat_toNat]

/-- The members of a filter fill all fields of the draft. -/
private theorem gathers_members (f : Filter) (depth : Nat) :
    Gathers (Draft.put depth) depth {} f.members
      ⟨some f.name, some f.statements, some f.combination, some f.sort, some f.limit,
        some f.group⟩ := by
  obtain ⟨name, statements, combination, sort, limit, group⟩ := f
  have hn : (optional text).ReadsAs (.ofOption .text name) name :=
    readsAs_ofOption (fun s _ ↦ readsAs_text s) nofun
  have hb := combination.id_bounds
  have hc : Combination.reader.ReadsAs (.integer combination.id) combination :=
    readsAs_refine (readsAs_integer (by omega) (by omega) (by omega) (by omega))
      (Combination.ofId?_eq_some_iff.mpr rfl)
  have ho : (optional SortOptions.reader).ReadsAs (.ofOption SortOptions.toJson sort) sort :=
    readsAs_ofOption (fun s _ ↦ s.readsAs) nofun
  have hg : (optional Group.reader).ReadsAs (.ofOption Group.toJson group) group :=
    readsAs_ofOption (fun g _ ↦ g.readsAs) fun g ↦ by
      cases g
      nofun
  exact (((((gathers_field Draft.put depth "name"
    (fun slot ↦ ⟨slot, none, none, none, none, none⟩) hn fun _ ↦ rfl).append
    (gathers_field Draft.put depth "statements"
      (fun slot ↦ ⟨some name, slot, none, none, none, none⟩)
      (Statement.readsAs_list statements) fun _ ↦ rfl)).append
    (gathers_field Draft.put depth "combination"
      (fun slot ↦ ⟨some name, some statements, slot, none, none, none⟩) hc fun _ ↦ rfl)).append
    (gathers_field Draft.put depth "sortOptions"
      (fun slot ↦ ⟨some name, some statements, some combination, slot, none, none⟩) ho
        fun _ ↦ rfl)).append
    (gathers_field Draft.put depth "limitTo"
      (fun slot ↦ ⟨some name, some statements, some combination, some sort, slot, none⟩)
      (readsAs_limit limit) fun _ ↦ rfl)).append
    (gathers_field Draft.put depth "group"
      (fun slot ↦ ⟨some name, some statements, some combination, some sort, some limit, slot⟩) hg
        fun _ ↦ rfl)

/-- A member under a key that no filter has is passed over. -/
private theorem put_of_notMem {key : String} (h : key ∉ keys) (depth : Nat) (d : Draft)
    (v : Value) : Draft.put depth d key v.tree = .ok d := by
  unfold Draft.put
  split
  case h_7 =>
    rw [v.skip_tree]
    rfl
  all_goals exact absurd (by decide) h

/-- A filter is read back when its brackets may open, whatever follows under other keys. -/
theorem reader_record (f : Filter) {extras : List (String × Value)}
    (h : ∀ m ∈ extras, m.1 ∉ keys) (depth : Nat) :
    reader (depth + 1) (Value.record (f.members ++ extras)).tree =
      within (Value.memberNesting f.members) depth f := by
  change (Reader.record keys (Draft.put depth) {} _).bind _ = _
  rw [record_append_eq (f.gathers_members depth) fun m hm ↦ put_of_notMem (h m hm) depth _ m.2]
  unfold within
  split <;> rfl

end Filter

end SeriesFilter
