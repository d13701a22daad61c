import SeriesFilter.Portable.Document
import SeriesFilter.Proofs.Filter.Places
import SeriesFilter.Proofs.Filter.Tree

/-!
# The tree of a stored filter

The tree of a document has groups and paths as the tree of a filter has. A walk lists every group
below a root with its path, in the order in which groups are written or in the order in which they
are left.
-/

namespace SeriesFilter.Portable

namespace Group

mutual

/-- What holds of a stored group when it holds of all its children holds of every one. -/
@[elab_as_elim, induction_eliminator] theorem induction {P : Group → Prop}
    (mk : ∀ statements and or, (∀ g ∈ and, P g) → (∀ g ∈ or, P g) → P ⟨statements, and, or⟩) :
    ∀ g, P g
  | ⟨statements, and, or⟩ =>
    mk statements and or (forall_induction mk and) (forall_induction mk or)

/-- What holds of a stored group when it holds of all its children holds of every one of a list. -/
theorem forall_induction {P : Group → Prop}
    (mk : ∀ statements and or, (∀ g ∈ and, P g) → (∀ g ∈ or, P g) → P ⟨statements, and, or⟩) :
    ∀ gs : List Group, ∀ g ∈ gs, P g
  | [] => nofun
  | g :: gs => List.forall_mem_cons.mpr ⟨induction mk g, forall_induction mk gs⟩

end

/-- A list of groups is taken group by group. -/
theorem ofGroups_eq_map (gs : List SeriesFilter.Group) : ofGroups gs = gs.map ofGroup := by
  induction gs with
  | nil => rfl
  | cons g gs ih => rw [ofGroups, ih, List.map_cons]

mutual

/-- The statements of a stored group and of all groups below it, as they are written. -/
def allStatements : Group → List Statement
  | ⟨statements, and, or⟩ => statements ++ listStatements and ++ listStatements or

/-- The statements of some stored groups in order. -/
def listStatements : List Group → List Statement
  | [] => []
  | g :: gs => allStatements g ++ listStatements gs

end

/-- The statements of some stored groups are those of each. -/
theorem listStatements_eq_flatMap (gs : List Group) :
    listStatements gs = gs.flatMap allStatements := by
  induction gs with
  | nil => rfl
  | cons g gs ih => rw [listStatements, ih, List.flatMap_cons]

private theorem listStatements_ofGroups {gs : List SeriesFilter.Group}
    (h : ∀ g ∈ gs, (ofGroup g).allStatements = g.allStatements.map Statement.ofStatement) :
    listStatements (ofGroups gs) =
      (SeriesFilter.Group.listStatements gs).map Statement.ofStatement := by
  induction gs with
  | nil => rfl
  | cons g gs ih =>
    obtain ⟨hg, hs⟩ := List.forall_mem_cons.mp h
    rw [ofGroups, listStatements, hg, ih hs, SeriesFilter.Group.listStatements, List.map_append]

/-- A group is stored with the statements that it has. -/
theorem allStatements_ofGroup (g : SeriesFilter.Group) :
    (ofGroup g).allStatements = g.allStatements.map Statement.ofStatement := by
  induction g with
  | mk statements and or hand hor =>
    rw [ofGroup, allStatements, listStatements_ofGroups hand, listStatements_ofGroups hor,
      SeriesFilter.Group.allStatements, List.map_append, List.map_append]

/-- The child at a step. -/
def child? (g : Group) : Step → Option Group
  | .and i => g.and[i]?
  | .or i => g.or[i]?

/-- The stored group that a path leads to. -/
def at? (g : Group) (path : GroupPath) : Option Group :=
  path.follow child? g

private theorem allStatements_child_subset {g child : Group} {step : Step}
    (h : g.child? step = some child) : child.allStatements ⊆ g.allStatements := by
  obtain ⟨statements, and, or⟩ := g
  rw [allStatements, listStatements_eq_flatMap, listStatements_eq_flatMap]
  intro s hs
  cases step with
  | and i =>
    have hm := List.mem_flatMap.mpr ⟨child, List.mem_of_getElem? h, hs⟩
    exact List.mem_append_left _ (List.mem_append_right _ hm)
  | or i =>
    have hm := List.mem_flatMap.mpr ⟨child, List.mem_of_getElem? h, hs⟩
    exact List.mem_append_right _ hm

/-- The statements below a group are among those below every group around it. -/
theorem allStatements_at?_subset {g inner : Group} {path : GroupPath}
    (h : g.at? path = some inner) : inner.allStatements ⊆ g.allStatements := by
  induction path generalizing g with
  | nil =>
    cases h
    exact List.Subset.refl _
  | cons step path ih =>
    obtain ⟨child, hc, hi⟩ := Option.bind_eq_some_iff.mp h
    exact fun s hs ↦ allStatements_child_subset hc (ih hi hs)

mutual

/-- A group and the groups below it, each with its path, outer ones first or last. -/
def walk (outerFirst : Bool) : Group → List (GroupPath × Group)
  | ⟨statements, and, or⟩ =>
    let below := walkList outerFirst Step.and 0 and ++ walkList outerFirst Step.or 0 or
    if outerFirst then ([], ⟨statements, and, or⟩) :: below
    else below ++ [([], ⟨statements, and, or⟩)]

/-- The groups of a list of children and those below them, the first child at some index. -/
def walkList (outerFirst : Bool) (step : Nat → Step) (index : Nat) :
    List Group → List (GroupPath × Group)
  | [] => []
  | g :: gs =>
    (walk outerFirst g).map (fun (path, inner) ↦ (step index :: path, inner)) ++
      walkList outerFirst step (index + 1) gs

end

variable {outerFirst : Bool}

/-- A walk over children meets the groups below each. -/
theorem mem_walkList {step : Nat → Step} {index : Nat} {gs : List Group} {path : GroupPath}
    {inner : Group} :
    (path, inner) ∈ walkList outerFirst step index gs ↔
      ∃ i child rest, gs[i]? = some child ∧ path = step (index + i) :: rest ∧
        (rest, inner) ∈ walk outerFirst child := by
  induction gs generalizing index with
  | nil =>
    constructor
    · nofun
    · rintro ⟨i, child, rest, hc, -⟩
      cases i <;> cases hc
  | cons g gs ih =>
    rw [walkList, List.mem_append, ih, List.mem_map]
    constructor
    · rintro (⟨⟨rest, below⟩, hm, he⟩ | ⟨i, child, rest, hc, rfl, hm⟩)
      · cases he
        exact ⟨0, g, rest, rfl, rfl, hm⟩
      · exact ⟨i + 1, child, rest, hc, by rw [Nat.add_right_comm]; rfl, hm⟩
    · rintro ⟨_ | i, child, rest, hc, rfl, hm⟩
      · cases hc
        exact .inl ⟨(rest, inner), hm, rfl⟩
      · exact .inr ⟨i, child, rest, hc, by rw [Nat.add_right_comm]; rfl, hm⟩

private theorem mem_walk_mk {statements : List Statement} {and or : List Group}
    {place : GroupPath × Group} :
    place ∈ walk outerFirst ⟨statements, and, or⟩ ↔ place = ([], ⟨statements, and, or⟩) ∨
      place ∈ walkList outerFirst Step.and 0 and ∨ place ∈ walkList outerFirst Step.or 0 or := by
  rw [walk]
  cases outerFirst
  · rw [if_neg Bool.false_ne_true, List.mem_append, List.mem_append, List.mem_singleton, or_comm]
  · rw [if_pos rfl, List.mem_cons, List.mem_append]

/-- A walk meets exactly the groups that paths lead to. -/
theorem mem_walk (g : Group) {path : GroupPath} {inner : Group} :
    (path, inner) ∈ g.walk outerFirst ↔ g.at? path = some inner := by
  induction g generalizing path with
  | mk statements and or hand hor =>
    rw [mem_walk_mk, mem_walkList, mem_walkList]
    cases path with
    | nil =>
      constructor
      · rintro (h | ⟨_, _, _, _, h, _⟩ | ⟨_, _, _, _, h, _⟩)
        · cases h
          rfl
        · cases h
        · cases h
      · rintro ⟨⟩
        exact .inl rfl
    | cons step path =>
      change _ ↔ (child? _ step).bind (fun child ↦ child.at? path) = some inner
      rw [Option.bind_eq_some_iff]
      constructor
      · rintro (h | ⟨i, child, rest, hc, h, hm⟩ | ⟨i, child, rest, hc, h, hm⟩)
        · cases h
        · cases h
          refine ⟨child, ?_, (hand child (List.mem_of_getElem? hc)).mp hm⟩
          rw [child?, Nat.zero_add, hc]
        · cases h
          refine ⟨child, ?_, (hor child (List.mem_of_getElem? hc)).mp hm⟩
          rw [child?, Nat.zero_add, hc]
      · rintro ⟨child, hc, hm⟩
        cases step with
        | and i =>
          refine .inr (.inl ⟨i, child, path, hc, by rw [Nat.zero_add], ?_⟩)
          exact (hand child (List.mem_of_getElem? hc)).mpr hm
        | or i =>
          refine .inr (.inr ⟨i, child, path, hc, by rw [Nat.zero_add], ?_⟩)
          exact (hor child (List.mem_of_getElem? hc)).mpr hm

private theorem pairwise_walkList {step : Nat → Step}
    (hs : ∀ {i j}, i < j → (step i).before (step j)) {gs : List Group}
    (h : ∀ g ∈ gs, (g.walk outerFirst).Pairwise fun a b ↦ a.1.before outerFirst b.1)
    (index : Nat) :
    (walkList outerFirst step index gs).Pairwise fun a b ↦ a.1.before outerFirst b.1 := by
  induction gs generalizing index with
  | nil => exact .nil
  | cons g gs ih =>
    rw [walkList, List.pairwise_append, List.pairwise_map]
    refine ⟨(h g List.mem_cons_self).imp fun hb ↦ .inr ⟨rfl, hb⟩,
      ih (fun c hc ↦ h c (List.mem_cons_of_mem g hc)) (index + 1), ?_⟩
    rintro a ha ⟨path, inner⟩ hb
    obtain ⟨⟨rest, below⟩, -, rfl⟩ := List.mem_map.mp ha
    obtain ⟨i, child, more, -, rfl, -⟩ := mem_walkList.mp hb
    exact .inl (hs (by omega))

/-- A walk meets groups in its order. -/
theorem pairwise_walk (g : Group) :
    (g.walk outerFirst).Pairwise fun a b ↦ a.1.before outerFirst b.1 := by
  induction g with
  | mk statements and or hand hor =>
    have hb : (walkList outerFirst Step.and 0 and ++ walkList outerFirst Step.or 0 or).Pairwise
        fun a b ↦ a.1.before outerFirst b.1 := by
      rw [List.pairwise_append]
      refine ⟨pairwise_walkList id hand 0, pairwise_walkList id hor 0, ?_⟩
      rintro ⟨path, inner⟩ ha ⟨other, last⟩ hb
      obtain ⟨i, child, rest, -, rfl, -⟩ := mem_walkList.mp ha
      obtain ⟨j, next, more, -, rfl, -⟩ := mem_walkList.mp hb
      exact .inl trivial
    -- Every path below the root has a first step, so the root stands before or after it.
    have hc : ∀ place ∈ walkList outerFirst Step.and 0 and ++ walkList outerFirst Step.or 0 or,
        ∃ s rest, place.1 = s :: rest := by
      rintro ⟨path, inner⟩ hp
      rcases List.mem_append.mp hp with hp | hp
      · obtain ⟨i, child, rest, -, he, -⟩ := mem_walkList.mp hp
        exact ⟨_, rest, he⟩
      · obtain ⟨i, child, rest, -, he, -⟩ := mem_walkList.mp hp
        exact ⟨_, rest, he⟩
    rw [walk]
    cases outerFirst
    · rw [if_neg Bool.false_ne_true, List.pairwise_append]
      refine ⟨hb, List.pairwise_singleton _ _, ?_⟩
      intro place hp root hr
      obtain ⟨s, rest, he⟩ := hc place hp
      rw [List.mem_singleton.mp hr, he]
      rfl
    · rw [if_pos rfl, List.pairwise_cons]
      refine ⟨?_, hb⟩
      intro place hp
      obtain ⟨s, rest, he⟩ := hc place hp
      rw [he]
      rfl

end Group

namespace Document

/-- The statements of a document: the flat ones, then those of its tree. -/
def allStatements (d : Document) : List Statement :=
  d.statements ++ (d.group.map Group.allStatements).getD []

/-- A filter is stored with the statements that it has. -/
theorem allStatements_ofFilter (f : Filter) :
    (ofFilter f).allStatements = f.allStatements.map Statement.ofStatement := by
  obtain ⟨name, statements, combination, sort, limit, group⟩ := f
  rw [allStatements, Filter.allStatements, List.map_append, ofFilter]
  cases group with
  | none => rfl
  | some g => exact congrArg (_ ++ ·) (Group.allStatements_ofGroup g)

/-- The group of a document that a path leads to. -/
def groupAt? (d : Document) (path : GroupPath) : Option Group :=
  d.group.bind fun g ↦ g.at? path

/-- The statements below a group of a document are among those of the document. -/
theorem allStatements_groupAt?_subset {d : Document} {path : GroupPath} {g : Group}
    (h : d.groupAt? path = some g) : g.allStatements ⊆ d.allStatements := by
  obtain ⟨root, hr, hi⟩ := Option.bind_eq_some_iff.mp h
  rw [allStatements, hr]
  exact fun s hs ↦ List.mem_append_right _ (Group.allStatements_at?_subset hi hs)

/-- The groups of a document with their paths, outer ones first or last. -/
def groups (outerFirst : Bool) (d : Document) : List (GroupPath × Group) :=
  d.group.toList.flatMap fun g ↦ g.walk outerFirst

/-- The groups of a document are those that paths lead to. -/
theorem mem_groups {outerFirst : Bool} {d : Document} {path : GroupPath} {g : Group} :
    (path, g) ∈ d.groups outerFirst ↔ d.groupAt? path = some g := by
  rw [groups, groupAt?]
  cases d.group with
  | none => exact ⟨nofun, nofun⟩
  | some root => rw [Option.toList_some, List.flatMap_singleton, root.mem_walk, Option.bind_some]

/-- The groups of a document stand in the order of the walk. -/
theorem pairwise_groups {outerFirst : Bool} (d : Document) :
    (d.groups outerFirst).Pairwise fun a b ↦ a.1.before outerFirst b.1 := by
  rw [groups]
  cases d.group with
  | none => exact .nil
  | some root =>
    rw [Option.toList_some, List.flatMap_singleton]
    exact root.pairwise_walk

/-- The statement of a document at a place. -/
def statementAt? (d : Document) : Location → Option Statement
  | .flat i => d.statements[i]?
  | .inGroup path i => (d.groupAt? path).bind fun g ↦ g.statements[i]?

end Document

end SeriesFilter.Portable
