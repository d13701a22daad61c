import SeriesFilter.Command.Basic
import SeriesFilter.Proofs.Filter.Reading
import SeriesFilter.Proofs.Json.Indented
import SeriesFilter.Proofs.Portable.Normalization

/-!
# What decoding shows can be loaded again

Decoding shows a filter as JSON, with what was lost after the members of the filter. Loading that
JSON gives the filter that was decoded. In this form every list of a group is written, the empty
ones too, so a group without statements stands in one bracket more than in the stored form. Those
groups stand in an odd number of brackets there, and the bound on them is even: the bracket that is
added still has room.
-/

namespace SeriesFilter

open Json Portable

/-! ### No floating numbers -/

private theorem noReal_ofOption {write : β → Value} {o : Option β}
    (h : ∀ b, o = some b → (write b).NoReal) : (Value.ofOption write o).NoReal := by
  cases o with
  | none => trivial
  | some b => exact h b rfl

private theorem noReals_map {write : β → Value} {bs : List β} (h : ∀ b ∈ bs, (write b).NoReal) :
    (Value.list (bs.map write)).NoReal :=
  Value.noReals_of_forall (List.forall_mem_map.mpr h)

private theorem noReals_statements (ss : List Statement) :
    (Value.list (ss.map Statement.toJson)).NoReal :=
  noReals_map fun _ _ ↦ ⟨trivial, trivial, trivial, trivial⟩

private theorem Group.noReal_toJson (g : Group) : g.toJson.NoReal := by
  induction g with
  | mk statements and or hand hor =>
    rw [toJson, listToJson_eq_map, listToJson_eq_map]
    exact ⟨noReals_statements statements, noReals_map hand, noReals_map hor, trivial⟩

private theorem Filter.noReal_members (f : Filter) : Value.NoRealMembers f.members :=
  ⟨noReal_ofOption fun _ _ ↦ trivial, noReals_statements f.statements, trivial,
    noReal_ofOption fun _ _ ↦ ⟨trivial, trivial, trivial⟩, trivial,
    noReal_ofOption fun g _ ↦ g.noReal_toJson, trivial⟩

/-- The members that write what was lost. -/
def Portable.Decoded.lossMembers (d : Decoded) : List (String × Value) :=
  [("isPartial", .bool d.isPartial), ("dropped", .list (d.losses.dropped.map Dropped.toJson))] ++
    listMember "removedGroups" (d.losses.removed.map fun path ↦ .text path.text) ++
    optionMember "ignoredSortField" (d.ignoredSort.map .integer)

/-- A decoded filter is written as the filter and then what was lost. -/
theorem Portable.Decoded.toJson_eq (d : Decoded) :
    d.toJson = .record (d.filter.members ++ d.lossMembers) := by
  rw [toJson, lossMembers, ← List.append_assoc, ← List.append_assoc]

/-- No floating number is written for a decoded filter. -/
theorem Portable.Decoded.noReal_toJson (d : Decoded) : d.toJson.NoReal := by
  have hd : (Value.list (d.losses.dropped.map Dropped.toJson)).NoReal :=
    noReals_map fun _ _ ↦ ⟨trivial, trivial, trivial, trivial, trivial, trivial⟩
  have hr : ∀ v ∈ d.losses.removed.map fun path ↦ Value.text path.text, v.NoReal :=
    List.forall_mem_map.mpr fun _ _ ↦ trivial
  have hi : ∀ v, d.ignoredSort.map Value.integer = some v → v.NoReal := by
    intro v hv
    obtain ⟨id, -, rfl⟩ := Option.map_eq_some_iff.mp hv
    trivial
  rw [toJson_eq, Value.NoReal]
  exact Value.noRealMembers_append d.filter.noReal_members (Value.noRealMembers_append
    (Value.noRealMembers_append ⟨trivial, hd, trivial⟩ (noReal_listMember hr))
    (noReal_optionMember hi))

/-! ### Room for the brackets -/

namespace Group

/-- Every group below a group has room for itself and its lists in a number of brackets, and for
its own statements, which stand one deeper. -/
def HasRoom (n : Nat) (g : Group) : Prop :=
  ∀ path inner, g.at? path = some inner →
    2 * path.length + 2 ≤ n ∧ (inner.statements ≠ [] → 2 * path.length + 3 ≤ n)

/-- A group has room when its own lists have and its children have, two brackets further in. -/
private theorem hasRoom_mk {n : Nat} {statements : List Statement} {and or : List Group}
    (h : HasRoom n ⟨statements, and, or⟩) :
    ∃ m, n = m + 2 ∧ (statements ≠ [] → 1 ≤ m) ∧ (∀ g ∈ and, g.HasRoom m) ∧
      ∀ g ∈ or, g.HasRoom m := by
  obtain ⟨⟨hr, hs⟩, ha, ho⟩ := (forall_at?_iff _).mp h
  obtain ⟨m, rfl⟩ := Nat.exists_eq_add_of_le' hr
  have hl {gs : List Group} {step : Nat → Step}
      (hp : ∀ i child, gs[i]? = some child → ∀ path inner, child.at? path = some inner →
        2 * (step i :: path).length + 2 ≤ m + 2 ∧
          (inner.statements ≠ [] → 2 * (step i :: path).length + 3 ≤ m + 2)) :
      ∀ g ∈ gs, g.HasRoom m := by
    intro child hm path inner hi
    obtain ⟨i, hc⟩ := List.mem_iff_getElem?.mp hm
    obtain ⟨hd, hs⟩ := hp i child hc path inner hi
    rw [List.length_cons] at hd hs
    exact ⟨by omega, fun hn ↦ by have := hs hn; omega⟩
  refine ⟨m, rfl, fun hn ↦ ?_, hl ha, hl ho⟩
  have := hs hn
  simp only [List.length_nil] at this
  omega

/-- A group that has room in some brackets nests no deeper. -/
theorem nesting_toJson_le {g : Group} {n : Nat} (h : g.HasRoom n) : g.toJson.nesting ≤ n := by
  induction g generalizing n with
  | mk statements and or hand hor =>
    obtain ⟨m, rfl, hs, ha, ho⟩ := hasRoom_mk h
    have hs : Value.itemNesting (statements.map Statement.toJson) ≤ m := by
      rw [Value.itemNesting_le_iff, List.forall_mem_map]
      exact fun s hm ↦ hs (List.ne_nil_of_mem hm)
    have ha : Value.itemNesting (and.map toJson) ≤ m := by
      rw [Value.itemNesting_le_iff, List.forall_mem_map]
      exact fun g hg ↦ hand g hg (ha g hg)
    have ho : Value.itemNesting (or.map toJson) ≤ m := by
      rw [Value.itemNesting_le_iff, List.forall_mem_map]
      exact fun g hg ↦ hor g hg (ho g hg)
    rw [toJson, listToJson_eq_map, listToJson_eq_map]
    simp only [Value.nesting, Value.memberNesting]
    omega

end Group

/-- The members of a filter that fits the levels nest within one bracket less than may open. -/
theorem Filter.memberNesting_members_lt {f : Filter} (h : f.FitsLevels) :
    Value.memberNesting f.members < maxNesting := by
  have hg : (Value.ofOption Group.toJson f.group).nesting ≤ 126 := by
    cases hf : f.group with
    | none => exact Nat.zero_le _
    | some g =>
      refine Group.nesting_toJson_le fun path inner hi ↦ ?_
      obtain ⟨hd, hs⟩ := h g hf path inner hi
      exact ⟨by omega, fun hn ↦ by have := hs hn; omega⟩
  have hs : Value.itemNesting (f.statements.map Statement.toJson) ≤ 1 := by
    rw [Value.itemNesting_le_iff, List.forall_mem_map]
    exact fun _ _ ↦ Nat.le_refl 1
  have hn : (Value.ofOption Value.text f.name).nesting = 0 := by
    cases f.name <;> rfl
  have ho : (Value.ofOption SortOptions.toJson f.sort).nesting ≤ 1 := by
    cases f.sort <;> exact Nat.le_add_left _ _
  simp only [members, Value.memberNesting, Value.nesting, maxNesting]
  omega

/-- A decoded filter whose tree fits the levels is written within the brackets that may open. -/
theorem Portable.Decoded.nesting_toJson_le {d : Decoded} (h : d.filter.FitsLevels) :
    d.toJson.nesting ≤ maxNesting := by
  have hf := Filter.memberNesting_members_lt h
  have hd : Value.itemNesting (d.losses.dropped.map Dropped.toJson) ≤ 1 := by
    rw [Value.itemNesting_le_iff, List.forall_mem_map]
    exact fun _ _ ↦ Nat.le_refl 1
  have hr : Value.memberNesting (listMember "removedGroups"
      (d.losses.removed.map fun path ↦ .text path.text)) ≤ 1 := by
    rw [memberNesting_listMember_le_iff, List.forall_mem_map]
    exact fun _ _ ↦ Nat.zero_lt_one
  have hi : Value.memberNesting (optionMember "ignoredSortField" (d.ignoredSort.map .integer)) ≤
      0 := by
    rw [memberNesting_optionMember_le_iff]
    intro v hv
    obtain ⟨id, -, rfl⟩ := Option.map_eq_some_iff.mp hv
    exact Nat.le_refl 0
  rw [toJson_eq, lossMembers, Value.nesting]
  simp only [Value.memberNesting_append, Value.memberNesting, Value.nesting]
  unfold maxNesting at hf ⊢
  omega

/-! ### Loading -/

/-- What was lost stands under keys that no filter has. -/
private theorem Portable.Decoded.key_lossMembers {d : Decoded} {m : String × Value}
    (h : m ∈ d.lossMembers) : m.1 ∉ Filter.keys := by
  have hl {key : String} {items : List Value} (hm : m ∈ listMember key items) : m.1 = key := by
    unfold listMember at hm
    split at hm
    · cases hm
    · rw [List.mem_singleton.mp hm]
  have ho {key : String} {value : Option Value} (hm : m ∈ optionMember key value) : m.1 = key := by
    cases value with
    | none => cases hm
    | some v => rw [List.mem_singleton.mp hm]
  have hk : m.1 ∈ ["isPartial", "dropped", "removedGroups", "ignoredSortField"] := by
    simp only [lossMembers, List.mem_append, List.mem_cons, List.not_mem_nil, or_false] at h ⊢
    rcases h with ((rfl | rfl) | h) | h
    · exact .inl rfl
    · exact .inr (.inl rfl)
    · exact .inr (.inr (.inl (hl h)))
    · exact .inr (.inr (.inr (ho h)))
  revert hk
  generalize m.1 = key
  revert key
  decide

/-- The JSON of a decoded filter whose tree fits the levels is read as the filter. -/
theorem Portable.Decoded.readString_indented {d : Decoded} (h : d.filter.FitsLevels) :
    readString Filter.reader (d.toJson.indented ++ "\n") = .ok d.filter := by
  have hr : Filter.reader maxNesting d.toJson.tree = .ok d.filter := by
    rw [toJson_eq]
    refine (d.filter.reader_record (fun _ ↦ key_lossMembers) 126).trans ?_
    exact if_pos (Nat.le_of_lt_succ (Filter.memberNesting_members_lt h))
  rw [readString, ofString_indented d.noReal_toJson, Json.Document.read, hr]
  rfl

namespace Command

/-- What decoding a string shows as JSON is loaded as the filter that was decoded, the one that
loading the string itself gives, whatever was lost of it; encoding the JSON gives the encoded form
of that filter. The JSON never nests deeper than may be read. -/
theorem decode_reloads {e : Engine} {s : String} {d : Decoded} (h : e.decode s = .ok d) :
    ∃ shown, decode e .json s = .ok shown ∧
      shown = d.toJson.indented ++ "\n" ∧
      load e true shown = .ok ⟨d.filter, []⟩ ∧
      load e false s = .ok ⟨d.filter, d.losses.dropped⟩ ∧
      (∀ now, encode e now true shown = .ok (Portable.encode d.filter ++ "\n")) ∧
      d.toJson.nesting ≤ maxNesting := by
  have hf := fitsLevels_of_decodeUpTo (mapError_eq_ok_iff.mp h)
  have hr : readFilter (d.toJson.indented ++ "\n") = .ok d.filter :=
    mapError_eq_ok_iff.mpr (Decoded.readString_indented hf)
  refine ⟨_, ?_, rfl, ?_, ?_, fun now ↦ ?_, d.nesting_toJson_le hf⟩
  · rw [decode, h]
    rfl
  · rw [load, if_pos rfl, hr]
    rfl
  · rw [load, if_neg Bool.false_ne_true, h]
    rfl
  · rw [encode, hr]
    rfl

/-- What is kept of a group one of whose statements is unknown is loaded from what is shown. -/
theorem decode_reloads_partial :
    let s := "sf2~eyJsIjozLCJnIjpbW1sxLDAsIngiXSxbOTksMF1dLFt7fV1dLCJ6eiI6WzFdfQ"
    let kept : Filter := { limit := 3, group := some ⟨[⟨.seriesName, .equal, "x"⟩], [{}], []⟩ }
    let lost : List Dropped := [⟨.inGroup [] 1, 99, 0, "", .unknownField⟩]
    ∃ shown, decode {} .json s = .ok shown ∧ load {} true shown = .ok ⟨kept, []⟩ ∧
      load {} false s = .ok ⟨kept, lost⟩ := by
  intro s kept lost
  have h : ({} : Engine).decode s = .ok { filter := kept, losses := ⟨lost, []⟩ } :=
    mapError_eq_ok_iff.mpr (toOption_eq_some_iff.mp (by decide +kernel))
  obtain ⟨shown, hd, -, hj, hl, -⟩ := decode_reloads h
  exact ⟨shown, hd, hj, hl⟩

end Command

end SeriesFilter
