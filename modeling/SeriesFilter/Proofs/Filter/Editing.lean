import SeriesFilter.Proofs.Compile.Meaning
import SeriesFilter.Series

/-!
# Editing a tree

A group is changed where it stands, and everything around it stays. Each step of the way to it, be
it to an `and` or to an `or` child, passes truth on as truth. So the whole tree moves in the
direction in which the group at that place does: an `or` child that is appended anywhere loses no
match, and a statement or an `and` child gains none.
-/

namespace SeriesFilter

open Calendar

namespace Group

/-- A group with one more statement of its own. -/
def withStatement (g : Group) (s : Statement) : Group :=
  { g with statements := g.statements ++ [s] }

/-- A group with the group that a path leads to changed. A path that leads nowhere changes
nothing. -/
def editAt (edit : Group → Group) : GroupPath → Group → Group
  | [], g => edit g
  | .and i :: path, g => { g with and := g.and.modify i (editAt edit path) }
  | .or i :: path, g => { g with or := g.or.modify i (editAt edit path) }

/-! ### What stands where after a change -/

variable {edit : Group → Group} {path : GroupPath}

/-- The child at the first step is changed further down. -/
theorem child?_editAt (g : Group) (step : Step) :
    (g.editAt edit (step :: path)).child? step = (g.child? step).map (editAt edit path) := by
  cases step <;> simp [editAt, child?]

/-- The other children stay. -/
theorem child?_editAt_of_ne (g : Group) {step other : Step} (h : other ≠ step) :
    (g.editAt edit (step :: path)).child? other = g.child? other := by
  cases step <;> cases other <;> simp_all [editAt, child?, List.getElem?_modify_ne, eq_comm]

/-- The path leads to the changed group. -/
theorem at?_editAt (g : Group) : (g.editAt edit path).at? path = (g.at? path).map edit := by
  induction path generalizing g with
  | nil => rfl
  | cons step path ih =>
    rw [at?_cons, at?_cons, child?_editAt, Option.bind_map, Option.map_bind]
    exact Option.bind_congr fun child _ ↦ ih child

/-- A path that leads neither through the changed group nor towards it leads where it led. -/
theorem at?_editAt_of_not_prefix (g : Group) {other : GroupPath} (hp : ¬ path <+: other)
    (ho : ¬ other <+: path) : (g.editAt edit path).at? other = g.at? other := by
  induction path generalizing g other with
  | nil => exact absurd List.nil_prefix hp
  | cons step path ih =>
    cases other with
    | nil => exact absurd List.nil_prefix ho
    | cons next other =>
      rw [at?_cons, at?_cons]
      by_cases hn : next = step
      · subst hn
        rw [child?_editAt, Option.bind_map]
        refine Option.bind_congr fun child _ ↦ ih child ?_ ?_
        · exact fun h ↦ hp (List.cons_prefix_cons.mpr ⟨rfl, h⟩)
        · exact fun h ↦ ho (List.cons_prefix_cons.mpr ⟨rfl, h⟩)
      · rw [child?_editAt_of_ne g hn]

/-- A change that changes no group leaves everything as it was. -/
theorem editAt_id (g : Group) : g.editAt id path = g := by
  induction path generalizing g with
  | nil => rfl
  | cons step path ih =>
    have hf : editAt id path = id := funext ih
    obtain ⟨statements, and, or⟩ := g
    cases step with
    | and i => rw [editAt, hf, List.modify_id]
    | or i => rw [editAt, hf, List.modify_id]

/-! ### What holds after a change -/

private theorem mem_modify_iff {gs : List Group} {i : Nat} {child : Group} :
    child ∈ gs.modify i edit ↔
      ∃ j kept, gs[j]? = some kept ∧ (if i = j then edit kept else kept) = child := by
  simp only [List.mem_iff_getElem?, List.getElem?_modify, Option.map_eq_map,
    Option.map_eq_some_iff]

/-- Of two changes at a place, one makes the tree hold where the other does if it makes every group
hold that the other does. -/
theorem holds_editAt_mono {p : Statement → Bool} {before after : Group → Group}
    (h : ∀ g, (before g).holds p = true → (after g).holds p = true) (g : Group)
    (hg : (g.editAt before path).holds p = true) : (g.editAt after path).holds p = true := by
  induction path generalizing g with
  | nil => exact h g hg
  | cons step path ih =>
    -- the child on the way moves by induction, and every other one stays
    have hchild {i j : Nat} {kept : Group}
        (hk : (if i = j then kept.editAt before path else kept).holds p = true) :
        (if i = j then kept.editAt after path else kept).holds p = true := by
      split at hk
      · next hij => rw [if_pos hij]; exact ih kept hk
      · next hij => rwa [if_neg hij]
    cases step with
    | and i =>
      rw [holds_iff] at hg ⊢
      refine Or.imp_left (And.imp_right fun ha child hc ↦ ?_) hg
      obtain ⟨j, kept, hj, rfl⟩ := mem_modify_iff.mp hc
      exact hchild (ha _ (mem_modify_iff.mpr ⟨j, kept, hj, rfl⟩))
    | or i =>
      rw [holds_iff] at hg ⊢
      refine Or.imp_right (fun ⟨child, hc, ho⟩ ↦ ?_) hg
      obtain ⟨j, kept, hj, rfl⟩ := mem_modify_iff.mp hc
      exact ⟨_, mem_modify_iff.mpr ⟨j, kept, hj, rfl⟩, hchild ho⟩

section Append

variable {p : Statement → Bool} (g : Group)

/-- With one more `or` child a group holds where it did and where the child does. -/
theorem holds_withOr (child : Group) :
    (g.withOr child).holds p = (g.holds p || child.holds p) := by
  obtain ⟨statements, and, or⟩ := g
  rw [withOr, holds, holds, anyHolds_eq_any, anyHolds_eq_any, List.any_append, List.any_cons,
    List.any_nil, Bool.or_false, Bool.or_assoc]

/-- With one more `and` child a group holds only where it did. -/
theorem holds_of_withAnd {child : Group} (h : (g.withAnd child).holds p = true) :
    g.holds p = true := by
  rw [holds_iff] at h ⊢
  exact Or.imp_left (And.imp_right fun ha c hc ↦ ha c (List.mem_append_left _ hc)) h

/-- With one more `and` child that holds a group holds where it did. -/
theorem holds_withAnd {child : Group} (hc : child.holds p = true) (h : g.holds p = true) :
    (g.withAnd child).holds p = true := by
  rw [holds_iff] at h ⊢
  refine Or.imp_left (And.imp_right fun ha ↦ ?_) h
  exact List.forall_mem_append.mpr ⟨ha, List.forall_mem_singleton.mpr hc⟩

/-- With one more statement a group holds only where it did. -/
theorem holds_of_withStatement {s : Statement} (h : (g.withStatement s).holds p = true) :
    g.holds p = true := by
  rw [holds_iff] at h ⊢
  exact Or.imp_left (And.imp_left fun hs t ht ↦ hs t (List.mem_append_left _ ht)) h

/-- With one more statement that holds a group holds where it did. -/
theorem holds_withStatement {s : Statement} (hs : p s = true) (h : g.holds p = true) :
    (g.withStatement s).holds p = true := by
  rw [holds_iff] at h ⊢
  refine Or.imp_left (And.imp_left fun ht ↦ ?_) h
  exact List.forall_mem_append.mpr ⟨ht, List.forall_mem_singleton.mpr hs⟩

end Append

end Group

namespace Filter

/-- A filter with the group that a path leads to changed. -/
def editAt (f : Filter) (edit : Group → Group) (path : GroupPath) : Filter :=
  { f with group := f.group.map (Group.editAt edit path) }

/-- A change that changes no group leaves a filter as it was. -/
theorem editAt_id (f : Filter) (path : GroupPath) : f.editAt id path = f := by
  have hg : Group.editAt id path = id := funext Group.editAt_id
  rw [editAt, hg, Option.map_id_apply]

variable {f : Filter} {settings : Settings} {now : Instant} {path : GroupPath}

/-- Of two changes at a place, one makes the plan take what it takes with the other if it makes
every group hold that the other does. -/
theorem matches_editAt_mono {before after : Group → Group} {b a : Plan}
    (hb : (f.editAt before path).compile settings now = .ok b)
    (ha : (f.editAt after path).compile settings now = .ok a) [Filterable α] {entity : α}
    (h : ∀ g, (before g).holds (Statement.holds now entity) = true →
      (after g).holds (Statement.holds now entity) = true)
    (hm : b.matches entity = true) : a.matches entity = true := by
  rw [Compile.matches_eq_holds entity hb, Bool.and_eq_true] at hm
  rw [Compile.matches_eq_holds entity ha, Bool.and_eq_true]
  refine ⟨hm.1, ?_⟩
  have ht := hm.2
  cases hg : f.group with
  | none => simp only [treeHolds, editAt, hg, Option.map_none]
  | some g =>
    simp only [treeHolds, editAt, hg, Option.map_some] at ht ⊢
    exact Group.holds_editAt_mono h g ht

end Filter

/-- Wherever a tree is edited, an `or` child that is appended there keeps every match and adds only
entities that pass the child; an `and` child or a statement adds no match, and takes away only
entities that fail it. -/
theorem edits_move_matches {f : Filter} {settings : Settings} {now : Instant} {plan : Plan}
    (h : f.compile settings now = .ok plan) (path : GroupPath) :
    (∀ child edited, (f.editAt (·.withOr child) path).compile settings now = .ok edited →
      ∀ {α : Type} [Filterable α] (entity : α),
        (plan.matches entity = true → edited.matches entity = true) ∧
        (edited.matches entity = true →
          plan.matches entity = true ∨ child.holds (Statement.holds now entity) = true)) ∧
    (∀ child edited, (f.editAt (·.withAnd child) path).compile settings now = .ok edited →
      ∀ {α : Type} [Filterable α] (entity : α),
        (edited.matches entity = true → plan.matches entity = true) ∧
        (plan.matches entity = true →
          edited.matches entity = true ∨ child.holds (Statement.holds now entity) = false)) ∧
    ∀ s edited, (f.editAt (·.withStatement s) path).compile settings now = .ok edited →
      ∀ {α : Type} [Filterable α] (entity : α),
        (edited.matches entity = true → plan.matches entity = true) ∧
        (plan.matches entity = true →
          edited.matches entity = true ∨ s.holds now entity = false) := by
  -- the plan as it was is the one after the change that changes nothing
  rw [← f.editAt_id path] at h
  refine ⟨fun child edited he α _ entity ↦ ⟨?_, fun hm ↦ ?_⟩,
    fun child edited he α _ entity ↦ ⟨?_, fun hm ↦ ?_⟩,
    fun s edited he α _ entity ↦ ⟨?_, fun hm ↦ ?_⟩⟩
  · refine Filter.matches_editAt_mono h he fun g hg ↦ ?_
    rw [g.holds_withOr, Bool.or_eq_true]
    exact .inl hg
  · cases hc : child.holds (Statement.holds now entity) with
    | true => exact .inr rfl
    | false =>
      refine .inl (Filter.matches_editAt_mono he h (fun g hg ↦ ?_) hm)
      rwa [g.holds_withOr, hc, Bool.or_false] at hg
  · exact Filter.matches_editAt_mono he h fun g ↦ g.holds_of_withAnd
  · cases hc : child.holds (Statement.holds now entity) with
    | false => exact .inr rfl
    | true => exact .inl (Filter.matches_editAt_mono h he (fun g ↦ g.holds_withAnd hc) hm)
  · exact Filter.matches_editAt_mono he h fun g ↦ g.holds_of_withStatement
  · cases hs : s.holds now entity with
    | false => exact .inr rfl
    | true => exact .inl (Filter.matches_editAt_mono h he (fun g ↦ g.holds_withStatement hs) hm)

/-- A filter whose tree asks two steps below its root for names that begin with a letter. -/
private def nestedTree : Filter where
  statements := [⟨.seriesName, .notEqual, "c"⟩]
  group := some {
    statements := [⟨.seriesName, .equal, "a"⟩]
    or := [{ and := [{ statements := [⟨.seriesName, .beginsWith, "b"⟩] }] }] }

/-- A statement or a group about the end of the name is appended two steps below the root. A name
that passes keeps passing with the `or` child, and one that passes with the statement or with the
`and` child has passed before. -/
theorem edits_move_matches_nested :
    let ends : Statement := ⟨.seriesName, .endsWith, "x"⟩
    let path : GroupPath := [.or 0, .and 0]
    let r : Series := { id := 1, name := "bx" }
    ∃ plan wider narrower shorter, nestedTree.compile {} ⟨0, 0⟩ = .ok plan ∧
      (nestedTree.editAt (·.withOr (.all [ends])) path).compile {} ⟨0, 0⟩ = .ok wider ∧
      (nestedTree.editAt (·.withAnd (.all [ends])) path).compile {} ⟨0, 0⟩ = .ok narrower ∧
      (nestedTree.editAt (·.withStatement ends) path).compile {} ⟨0, 0⟩ = .ok shorter ∧
      (plan.matches r = true ∧ wider.matches r = true) ∧
      (narrower.matches r = true ∧ plan.matches r = true) ∧
      (shorter.matches r = true ∧ plan.matches r = true) := by
  intro ends path r
  have h : nestedTree.compile {} ⟨0, 0⟩ = .ok _ := rfl
  obtain ⟨ho, ha, hs⟩ := edits_move_matches h path
  refine ⟨_, _, _, _, rfl, rfl, rfl, rfl, ⟨?_, (ho (.all [ends]) _ rfl r).1 ?_⟩,
    ⟨?_, (ha (.all [ends]) _ rfl r).1 ?_⟩, ?_, (hs ends _ rfl r).1 ?_⟩ <;> decide +kernel

end SeriesFilter
