import SeriesFilter.Proofs.Compile.Bounds
import Mathlib.Data.List.Forall2

/-!
# The conditions of a plan

A predicate has one condition for each statement of its filter, in the order in which the statements
stand: the flat ones first, then those of each group before those of its children. The root that
joins the flat conditions with the tree adds none and takes none away.
-/

namespace SeriesFilter

open Calendar

/-- A condition says what a statement does: it is about the same field, under the same operator,
with the kind of the field and what the literal is read as. -/
structure Statement.IsMirrored (now : Instant) (s : Statement) (c : Condition) : Prop where
  field : c.field = s.field
  comparison : c.comparison = s.comparison
  kind : c.kind = s.field.kind
  operand : Operand.ofLiteral s.field s.comparison now s.value = .ok c.operand

variable {now : Instant}

/-- The condition of a statement mirrors it. -/
theorem Statement.isMirrored_of_condition? {s : Statement} {c : Condition}
    (h : s.condition? now = some c) : s.IsMirrored now c := by
  have hc : Compile.condition now (.flat 0) s = .ok c := Compile.condition_eq_ok_iff.mpr h
  obtain ⟨-, operand, ho, rfl⟩ := Compile.condition_eq_ok_iff_readable.mp hc
  exact ⟨rfl, rfl, rfl, ho⟩

/-- The conditions of some statements mirror them one by one. -/
theorem Statement.forall₂_isMirrored {ss : List Statement} {cs : List Condition}
    (h : ss.mapM (condition? now) = some cs) : List.Forall₂ (IsMirrored now) ss cs := by
  induction ss generalizing cs with
  | nil =>
    cases h
    exact .nil
  | cons s rest ih =>
    rw [List.mapM_cons] at h
    obtain ⟨c, hc, h⟩ := Option.bind_eq_some_iff.mp h
    obtain ⟨more, hm, h⟩ := Option.bind_eq_some_iff.mp h
    cases h
    exact .cons (isMirrored_of_condition? hc) (ih hm)

namespace Group

private theorem forall₂_listConditions {gs : List Group} {ns : List Node}
    (h : ∀ g ∈ gs, ∀ {n}, g.node? now .and = some n →
      List.Forall₂ (Statement.IsMirrored now) g.allStatements n.allConditions)
    (hn : nodes? now gs = some ns) :
    List.Forall₂ (Statement.IsMirrored now) (listStatements gs) (Node.listConditions ns) := by
  induction gs generalizing ns with
  | nil =>
    cases hn
    exact .nil
  | cons g gs ih =>
    obtain ⟨n, hf, hn⟩ := Option.bind_eq_some_iff.mp hn
    obtain ⟨more, hm, hn⟩ := Option.bind_eq_some_iff.mp hn
    cases hn
    rw [listStatements, Node.listConditions]
    exact List.rel_append (h g List.mem_cons_self hf)
      (ih (fun c hc ↦ h c (List.mem_cons_of_mem g hc)) hm)

/-- The conditions of a group's node mirror the statements of the group and of all groups below
it. -/
theorem forall₂_allConditions (g : Group) {combination : Combination} {n : Node}
    (h : g.node? now combination = some n) :
    List.Forall₂ (Statement.IsMirrored now) g.allStatements n.allConditions := by
  induction g generalizing combination n with
  | mk statements and or hand hor =>
    obtain ⟨cs, hc, h⟩ := Option.bind_eq_some_iff.mp h
    obtain ⟨as, ha, h⟩ := Option.bind_eq_some_iff.mp h
    obtain ⟨os, ho, h⟩ := Option.bind_eq_some_iff.mp h
    cases h
    rw [allStatements, Node.allConditions]
    have hown := List.rel_append (Statement.forall₂_isMirrored hc)
      (forall₂_listConditions (fun g hg n hn ↦ hand g hg hn) ha)
    exact List.rel_append hown (forall₂_listConditions (fun g hg n hn ↦ hor g hg hn) ho)

end Group

namespace Compile

/-- The root has the flat conditions and those of the tree, also where the tree is the root. -/
theorem allConditions_root (combination : Combination) (flat : List Condition)
    (tree : Option Node) :
    (root combination flat tree).allConditions =
      flat ++ (tree.map Node.allConditions).getD [] := by
  cases tree with
  | none =>
    change flat ++ Node.listConditions [] ++ Node.listConditions [] = _
    rw [Node.listConditions, List.append_nil]
    rfl
  | some n =>
    cases flat with
    | nil => rfl
    | cons c more =>
      change c :: more ++ Node.listConditions [n] ++ Node.listConditions [] = _
      simp only [Node.listConditions, List.append_nil]
      rfl

/-- The conditions of a plan mirror the statements of its filter. -/
theorem forall₂_conditions {settings : Settings} {f : Filter} {plan : Plan}
    (h : f.compile settings now = .ok plan) :
    List.Forall₂ (Statement.IsMirrored now) f.allStatements plan.root.allConditions := by
  obtain ⟨flat, tree, hf, ht, hr⟩ := root_of_compile h
  have htree : List.Forall₂ (Statement.IsMirrored now)
      ((f.group.map Group.allStatements).getD []) ((tree.map Node.allConditions).getD []) := by
    obtain ⟨hg, rfl⟩ | ⟨g, n, hg, rfl, hn⟩ := tree_cases ht
    · rw [hg]
      exact .nil
    · rw [hg]
      exact g.forall₂_allConditions hn
  rw [hr, allConditions_root, Filter.allStatements]
  exact List.rel_append (Statement.forall₂_isMirrored hf) htree

/-- Every condition of a plan is that of a statement of its filter. -/
theorem exists_isMirrored {settings : Settings} {f : Filter} {plan : Plan}
    (h : f.compile settings now = .ok plan) {c : Condition} (hc : c ∈ plan.root.allConditions) :
    ∃ s ∈ f.allStatements, s.IsMirrored now c := by
  obtain ⟨i, hi, rfl⟩ := List.getElem_of_mem hc
  have hm := forall₂_conditions h
  have hs : i < f.allStatements.length := hm.length_eq ▸ hi
  exact ⟨f.allStatements[i], List.getElem_mem hs, hm.get hs hi⟩

/-- The conditions that need related records are those of the statements on collections. -/
theorem countP_needsJoin {ss : List Statement} {cs : List Condition}
    (h : List.Forall₂ (Statement.IsMirrored now) ss cs) :
    cs.countP Condition.needsJoin = ss.countP fun s ↦ s.field.kind == .collection := by
  induction h with
  | nil => rfl
  | cons hs _ ih => rw [List.countP_cons, List.countP_cons, ih, Condition.needsJoin, hs.kind]

end Compile

end SeriesFilter
