import SeriesFilter.Filter.Basic
import SeriesFilter.Filter.Location

/-!
# The tree of a filter

Induction over groups, the statements in a filter in their order, and the group that a path leads
to. A path is followed from the root by its steps, each to a child that is there.
-/

namespace SeriesFilter

/-- Follows a path by its steps; `child?` gives the child at a step. -/
def GroupPath.follow (child? : γ → Step → Option γ) (root : γ) : GroupPath → Option γ
  | [] => some root
  | step :: path => (child? root step).bind fun child ↦ GroupPath.follow child? child path

namespace Group

mutual

/-- What holds of a group when it holds of all its children holds of every group. -/
@[elab_as_elim, induction_eliminator] theorem induction {P : Group → Prop}
    (mk : ∀ statements and or, (∀ g ∈ and, P g) → (∀ g ∈ or, P g) → P ⟨statements, and, or⟩) :
    ∀ g, P g
  | ⟨statements, and, or⟩ =>
    mk statements and or (forall_induction mk and) (forall_induction mk or)

/-- What holds of a group when it holds of all its children holds of every group of a list. -/
theorem forall_induction {P : Group → Prop}
    (mk : ∀ statements and or, (∀ g ∈ and, P g) → (∀ g ∈ or, P g) → P ⟨statements, and, or⟩) :
    ∀ gs : List Group, ∀ g ∈ gs, P g
  | [] => nofun
  | g :: gs => List.forall_mem_cons.mpr ⟨induction mk g, forall_induction mk gs⟩

end

mutual

/-- The statements of a group and of all groups below it: its own first, then those of its `and`
children, then those of its `or` children. -/
def allStatements : Group → List Statement
  | ⟨statements, and, or⟩ => statements ++ listStatements and ++ listStatements or

/-- The statements of some groups in order. -/
def listStatements : List Group → List Statement
  | [] => []
  | g :: gs => allStatements g ++ listStatements gs

end

/-- The statements of some groups are those of each. -/
theorem listStatements_eq_flatMap (gs : List Group) :
    listStatements gs = gs.flatMap allStatements := by
  induction gs with
  | nil => rfl
  | cons g gs ih => rw [listStatements, ih, List.flatMap_cons]

private theorem sumStatements_eq_length {gs : List Group}
    (h : ∀ g ∈ gs, g.statementCount = g.allStatements.length) :
    sumStatements gs = (listStatements gs).length := by
  induction gs with
  | nil => rfl
  | cons g gs ih =>
    rw [sumStatements, listStatements, List.length_append, h g List.mem_cons_self,
      ih fun c hc ↦ h c (List.mem_cons_of_mem g hc)]

/-- The statements below a group are counted one by one. -/
theorem statementCount_eq_length (g : Group) : g.statementCount = g.allStatements.length := by
  induction g with
  | mk statements and or hand hor =>
    rw [statementCount, allStatements, List.length_append, List.length_append,
      sumStatements_eq_length hand, sumStatements_eq_length hor]

/-- The child at a step. -/
def child? (g : Group) : Step → Option Group
  | .and i => g.and[i]?
  | .or i => g.or[i]?

/-- The group that a path leads to. -/
def at? (g : Group) (path : GroupPath) : Option Group :=
  path.follow child? g

/-- A path with a first step goes on from the child at it. -/
theorem at?_cons (g : Group) (step : Step) (path : GroupPath) :
    g.at? (step :: path) = (g.child? step).bind fun child ↦ child.at? path := rfl

/-- What holds of all groups that paths lead to holds of the root and of all groups that paths
lead to from its children. -/
theorem forall_at?_iff {P : GroupPath → Group → Prop} (g : Group) :
    (∀ path inner, g.at? path = some inner → P path inner) ↔
      P [] g ∧
      (∀ i child, g.and[i]? = some child → ∀ path inner, child.at? path = some inner →
        P (.and i :: path) inner) ∧
      ∀ i child, g.or[i]? = some child → ∀ path inner, child.at? path = some inner →
        P (.or i :: path) inner := by
  constructor
  · intro h
    refine ⟨h [] g rfl, ?_, ?_⟩
    · intro i child hc path inner hi
      exact h _ _ (by rw [at?_cons, child?, hc, Option.bind_some, hi])
    · intro i child hc path inner hi
      exact h _ _ (by rw [at?_cons, child?, hc, Option.bind_some, hi])
  · rintro ⟨hr, ha, ho⟩ path inner hi
    cases path with
    | nil =>
      cases hi
      exact hr
    | cons step path =>
      obtain ⟨child, hc, hs⟩ := Option.bind_eq_some_iff.mp hi
      cases step with
      | and i => exact ha i child hc path inner hs
      | or i => exact ho i child hc path inner hs

private theorem maxDepth_le {gs : List Group} {n : Nat} (h : ∀ g ∈ gs, g.depth ≤ n) :
    maxDepth gs ≤ n := by
  induction gs with
  | nil => exact Nat.zero_le n
  | cons g gs ih =>
    obtain ⟨hg, hs⟩ := List.forall_mem_cons.mp h
    exact Nat.max_le.mpr ⟨hg, ih hs⟩

/-- A group is no deeper than the paths to the groups below it are long. -/
theorem depth_le {g : Group} {n : Nat}
    (h : ∀ path inner, g.at? path = some inner → path.length + 1 ≤ n) : g.depth ≤ n := by
  induction g generalizing n with
  | mk statements and or hand hor =>
    obtain ⟨hr, ha, ho⟩ := (forall_at?_iff _).mp h
    have hn : 1 ≤ n := hr
    have hand : maxDepth and ≤ n - 1 := by
      refine maxDepth_le fun g hg ↦ hand g hg fun path inner hi ↦ ?_
      obtain ⟨i, hc⟩ := List.mem_iff_getElem?.mp hg
      exact Nat.le_sub_one_of_lt (ha i g hc path inner hi)
    have hor : maxDepth or ≤ n - 1 := by
      refine maxDepth_le fun g hg ↦ hor g hg fun path inner hi ↦ ?_
      obtain ⟨i, hc⟩ := List.mem_iff_getElem?.mp hg
      exact Nat.le_sub_one_of_lt (ho i g hc path inner hi)
    rw [depth]
    omega

/-- The statement at an index of the group that a path leads to. -/
def statementAt? (g : Group) (path : GroupPath) (index : Nat) : Option Statement :=
  (g.at? path).bind fun inner ↦ inner.statements[index]?

/-- A path with a first step leads to the statements below the child at it. -/
theorem statementAt?_cons (g : Group) (step : Step) (path : GroupPath) (index : Nat) :
    g.statementAt? (step :: path) index =
      (g.child? step).bind fun child ↦ child.statementAt? path index := by
  rw [statementAt?, at?_cons, Option.bind_assoc]
  rfl

/-- The statements that paths lead to are among those below the group. -/
theorem mem_allStatements_of_statementAt? {g : Group} {path : GroupPath} {index : Nat}
    {s : Statement} (h : g.statementAt? path index = some s) : s ∈ g.allStatements := by
  induction path generalizing g with
  | nil =>
    obtain ⟨statements, and, or⟩ := g
    rw [allStatements, List.append_assoc]
    exact List.mem_append_left _ (List.mem_of_getElem? h)
  | cons step path ih =>
    rw [statementAt?_cons] at h
    obtain ⟨child, hc, hs⟩ := Option.bind_eq_some_iff.mp h
    obtain ⟨statements, and, or⟩ := g
    rw [allStatements, listStatements_eq_flatMap, listStatements_eq_flatMap]
    cases step with
    | and i =>
      have hm := List.mem_flatMap.mpr ⟨child, List.mem_of_getElem? hc, ih hs⟩
      exact List.mem_append_left _ (List.mem_append_right _ hm)
    | or i =>
      have hm := List.mem_flatMap.mpr ⟨child, List.mem_of_getElem? hc, ih hs⟩
      exact List.mem_append_right _ hm

end Group

/-- The statements of a filter: the flat ones, then those of its tree. -/
def Filter.allStatements (f : Filter) : List Statement :=
  f.statements ++ (f.group.map Group.allStatements).getD []

/-- The statement of a filter at a place. -/
def Filter.statementAt? (f : Filter) : Location → Option Statement
  | .flat i => f.statements[i]?
  | .inGroup path i => f.group.bind fun g ↦ g.statementAt? path i

end SeriesFilter
