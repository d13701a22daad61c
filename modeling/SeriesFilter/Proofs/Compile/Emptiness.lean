import SeriesFilter.Proofs.Compile.Conditions
import SeriesFilter.Proofs.Compile.Meaning
import SeriesFilter.Proofs.Filter.Vacuity
import SeriesFilter.Series

/-!
# Filters without statements

A filter without statements holds of everything, however deep its groups are and in whichever lists
they stand. It is told from its statements, while a trivial predicate is told from its root alone:
the root has no conditions and no children exactly when the filter has neither statements nor groups
that have children. So what is trivial is empty, and not the other way round.
-/

namespace SeriesFilter

open Calendar

/-! ### The tree -/

/-- A group below which there is no statement is vacuous. -/
theorem Group.vacuous_of_allStatements (g : Group) (h : g.allStatements = []) :
    g.vacuous = true := by
  rw [vacuous_iff_forall_holds]
  intro p
  induction g with
  | mk statements and or hand hor =>
    simp only [allStatements, listStatements_eq_flatMap, List.append_eq_nil_iff,
      List.flatMap_eq_nil_iff] at h
    obtain ⟨⟨rfl, ha⟩, -⟩ := h
    refine holds_iff.mpr (.inl ⟨?_, fun child hc ↦ hand child hc (ha child hc)⟩)
    exact fun s hs ↦ absurd hs List.not_mem_nil

/-- A group is empty when it has neither statements nor children. -/
theorem Group.isEmpty_iff {g : Group} : g.isEmpty = true ↔ g = {} := by
  obtain ⟨statements, and, or⟩ := g
  simp [isEmpty, and_assoc]

/-- A filter is empty when it has no statement at any place. -/
theorem Filter.isEmpty_iff {f : Filter} : f.isEmpty = true ↔ f.allStatements = [] := by
  rw [isEmpty, allStatements, Bool.and_eq_true, List.isEmpty_iff, List.append_eq_nil_iff]
  cases f.group with
  | none => simp
  | some g => simp [g.statementCount_eq_length]

/-- An empty filter holds whatever statements do. -/
theorem Filter.holds_of_isEmpty {f : Filter} (h : f.isEmpty = true) (p : Statement → Bool) :
    (f.flatHolds p && f.treeHolds p) = true := by
  obtain ⟨hs, ht⟩ := List.append_eq_nil_iff.mp (isEmpty_iff.mp h)
  rw [Bool.and_eq_true]
  refine ⟨Combination.forall_joins_iff.mpr hs p, ?_⟩
  rw [treeHolds]
  cases hg : f.group with
  | none => rfl
  | some g =>
    rw [hg] at ht
    exact Group.vacuous_iff_forall_holds.mp (g.vacuous_of_allStatements ht) p

/-! ### The predicate -/

namespace Compile

variable {now : Instant}

private theorem isEmpty_of_mapM {ss : List Statement} {cs : List Condition}
    (h : ss.mapM (Statement.condition? now) = some cs) : cs.isEmpty = ss.isEmpty := by
  cases Statement.forall₂_isMirrored h with
  | nil => rfl
  | cons _ _ => rfl

private theorem isEmpty_of_nodes? {gs : List Group} {ns : List Node}
    (h : Group.nodes? now gs = some ns) : ns.isEmpty = gs.isEmpty := by
  cases gs with
  | nil =>
    cases h
    rfl
  | cons g gs =>
    obtain ⟨n, -, h⟩ := Option.bind_eq_some_iff.mp h
    obtain ⟨more, -, h⟩ := Option.bind_eq_some_iff.mp h
    cases h
    rfl

/-- The node of a group is empty when the group is. -/
theorem isEmpty_of_node? {g : Group} {combination : Combination} {n : Node}
    (h : g.node? now combination = some n) : n.isEmpty = g.isEmpty := by
  obtain ⟨statements, and, or⟩ := g
  obtain ⟨cs, hc, h⟩ := Option.bind_eq_some_iff.mp h
  obtain ⟨as, ha, h⟩ := Option.bind_eq_some_iff.mp h
  obtain ⟨os, ho, h⟩ := Option.bind_eq_some_iff.mp h
  cases h
  rw [Node.isEmpty, Group.isEmpty, isEmpty_of_mapM hc, isEmpty_of_nodes? ha, isEmpty_of_nodes? ho]

/-- The root is empty when there are no flat conditions and the tree, if there is one, is empty. -/
theorem isEmpty_root (combination : Combination) (flat : List Condition) (tree : Option Node) :
    (root combination flat tree).isEmpty = (flat.isEmpty && tree.all Node.isEmpty) := by
  cases tree with
  | none => cases flat <;> rfl
  | some n => cases flat <;> rfl

/-- The root of a plan is empty when its filter has no flat statement and its tree, if there is one,
is an empty group. -/
theorem isEmpty_root_of_compile {settings : Settings} {f : Filter} {plan : Plan}
    (h : f.compile settings now = .ok plan) :
    plan.root.isEmpty = (f.statements.isEmpty && f.group.all Group.isEmpty) := by
  obtain ⟨flat, tree, hf, ht, hr⟩ := root_of_compile h
  rw [hr, isEmpty_root, isEmpty_of_mapM hf]
  obtain ⟨hg, rfl⟩ | ⟨g, n, hg, rfl, hn⟩ := tree_cases ht
  · rw [hg]
    rfl
  · rw [hg, Option.all_some, Option.all_some, isEmpty_of_node? hn]

end Compile

/-- A plan takes every entity when its filter is empty, that is, when there are no conditions
anywhere in its predicate. A root that is empty itself comes from an empty filter; it is that of the
filters without flat statements and with no tree or an empty group for one. -/
theorem empty_filter_matches_all {settings : Settings} {now : Instant} {f : Filter} {plan : Plan}
    (h : f.compile settings now = .ok plan) :
    (f.isEmpty = true ↔ plan.root.allConditions = []) ∧
    (f.isEmpty = true → ∀ {α : Type} [Filterable α] (entity : α), plan.matches entity = true) ∧
    (plan.root.isEmpty = true ↔ f.statements = [] ∧ ∀ g, f.group = some g → g = {}) ∧
    (plan.root.isEmpty = true →
      f.isEmpty = true ∧ ∀ {α : Type} [Filterable α] (entity : α), plan.matches entity = true) := by
  have hall (he : f.isEmpty = true) {α : Type} [Filterable α] (entity : α) :
      plan.matches entity = true := by
    rw [Compile.matches_eq_holds entity h]
    exact Filter.holds_of_isEmpty he _
  have hroot : plan.root.isEmpty = true ↔ f.statements = [] ∧ ∀ g, f.group = some g → g = {} := by
    rw [Compile.isEmpty_root_of_compile h, Bool.and_eq_true, List.isEmpty_iff, Option.all_eq_true]
    simp only [Group.isEmpty_iff]
  refine ⟨?_, hall, hroot, fun ht ↦ ?_⟩
  · have hl := (Compile.forall₂_conditions h).length_eq
    rw [Filter.isEmpty_iff, ← List.length_eq_zero_iff, hl, List.length_eq_zero_iff]
  · have he : f.isEmpty = true := by
      obtain ⟨hs, hg⟩ := hroot.mp ht
      rw [Filter.isEmpty, hs, Bool.and_eq_true, Option.all_eq_true]
      refine ⟨rfl, fun g h ↦ ?_⟩
      rw [hg g h]
      rfl
    exact ⟨he, hall he⟩

/-- A filter with empty groups at several depths, under the combination that asks for one. -/
private def hollowFilter : Filter where
  combination := .or
  group := some { and := [{}, { or := [{}, { and := [{}] }] }], or := [{ and := [{}] }] }

/-- That filter is empty and takes every series, though its root is not empty; a filter that is an
empty group has an empty root. -/
theorem empty_filter_matches_all_hollow :
    (∃ plan, hollowFilter.compile {} ⟨0, 0⟩ = .ok plan ∧ hollowFilter.isEmpty = true ∧
      plan.root.isEmpty = false ∧ ∀ r : Series, plan.matches r = true) ∧
    ∃ plan, Filter.compile {} ⟨0, 0⟩ { combination := .or, group := some {} } = .ok plan ∧
      plan.root.isEmpty = true ∧ ∀ r : Series, plan.matches r = true := by
  have hp : hollowFilter.compile {} ⟨0, 0⟩ = .ok _ := rfl
  obtain ⟨-, he, -, -⟩ := empty_filter_matches_all hp
  have ht : Filter.compile {} ⟨0, 0⟩ { combination := .or, group := some {} } = .ok _ := rfl
  obtain ⟨-, -, -, hr⟩ := empty_filter_matches_all ht
  exact ⟨⟨_, hp, rfl, rfl, he rfl⟩, _, ht, rfl, (hr rfl).2⟩

end SeriesFilter
