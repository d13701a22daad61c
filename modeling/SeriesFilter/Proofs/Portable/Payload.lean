import SeriesFilter.Proofs.Json.Trees
import SeriesFilter.Proofs.Portable.Tree

/-!
# The payload of a document

A document is stored as the bytes of its compact text. Reading those bytes gives the tree of the
value that writes the document, since no floating number stands in it.
-/

namespace SeriesFilter.Portable

open Json Text

/-- The bytes that store a document. -/
def Document.payload (d : Document) : List UInt8 :=
  bytes d.toJson.compactChars

/-- A list of groups is written group by group. -/
theorem Group.listToJson_eq_map (gs : List Group) : listToJson gs = gs.map toJson := by
  induction gs with
  | nil => rfl
  | cons g gs ih => rw [listToJson, ih, List.map_cons]

/-- A list that is left out when empty holds no floating number when none of its items does. -/
theorem noReal_listMember {key : String} {items : List Value}
    (h : ∀ v ∈ items, v.NoReal) : Value.NoRealMembers (listMember key items) := by
  cases items with
  | nil => trivial
  | cons item rest => exact ⟨Value.noReals_of_forall h, trivial⟩

/-- A value that is left out when missing holds no floating number when it is missing or holds
none. -/
theorem noReal_optionMember {key : String} {value : Option Value}
    (h : ∀ v, value = some v → v.NoReal) : Value.NoRealMembers (optionMember key value) := by
  cases value with
  | none => trivial
  | some v => exact ⟨h v rfl, trivial⟩

private theorem noReal_statements (ss : List Statement) :
    ∀ v ∈ ss.map Statement.toJson, v.NoReal := by
  intro v hv
  obtain ⟨s, -, rfl⟩ := List.mem_map.mp hv
  exact ⟨trivial, trivial, trivial, trivial⟩

private theorem noReal_groups {gs : List Group} (h : ∀ g ∈ gs, g.toJson.NoReal) :
    ∀ v ∈ Group.listToJson gs, v.NoReal := by
  rw [Group.listToJson_eq_map]
  intro v hv
  obtain ⟨g, hg, rfl⟩ := List.mem_map.mp hv
  exact h g hg

private theorem noReal_group (g : Group) : g.toJson.NoReal := by
  induction g with
  | mk statements and or hand hor =>
    rw [Group.toJson, Value.NoReal]
    exact Value.noRealMembers_append
      (Value.noRealMembers_append (noReal_listMember (noReal_statements statements))
        (noReal_listMember (noReal_groups hand)))
      (noReal_listMember (noReal_groups hor))

/-- No floating number is written for a document. -/
theorem Document.noReal_toJson (d : Document) : d.toJson.NoReal := by
  have hn : ∀ v, d.name.map Value.text = some v → v.NoReal := by
    intro v hv
    obtain ⟨s, -, rfl⟩ := Option.map_eq_some_iff.mp hv
    trivial
  have ho : ∀ v, d.sort.map Order.toJson = some v → v.NoReal := by
    intro v hv
    obtain ⟨s, -, rfl⟩ := Option.map_eq_some_iff.mp hv
    exact ⟨trivial, trivial, trivial⟩
  have hl : ∀ v, (if d.limit = 0 then none else some (Value.integer d.limit.toNat)) = some v →
      v.NoReal := by
    intro v hv
    split at hv
    · cases hv
    · cases hv
      trivial
  have hg : ∀ v, d.group.map Group.toJson = some v → v.NoReal := by
    intro v hv
    obtain ⟨g, -, rfl⟩ := Option.map_eq_some_iff.mp hv
    exact noReal_group g
  rw [toJson, Value.NoReal]
  refine Value.noRealMembers_append (Value.noRealMembers_append (Value.noRealMembers_append
    (Value.noRealMembers_append (Value.noRealMembers_append ?_ ?_) ?_) ?_) ?_) ?_
  · exact noReal_optionMember hn
  · exact noReal_listMember (noReal_statements d.statements)
  · exact ⟨trivial, trivial⟩
  · exact noReal_optionMember ho
  · exact noReal_optionMember hl
  · exact noReal_optionMember hg

/-- Reading a document from the bytes that store it reads the tree of its value. -/
theorem Document.read_payload (d : Document) :
    (Json.Document.ofBytes d.payload).read reader = reader maxNesting d.toJson.tree := by
  rw [payload, ofBytes_compactChars d.noReal_toJson, Json.Document.read]
  cases reader maxNesting d.toJson.tree <;> rfl

end SeriesFilter.Portable
