import Mathlib.Tactic.MkIffOfInductiveProp
import SeriesFilter.Proofs.Compile.Shape
import SeriesFilter.Proofs.Outcome

/-!
# Which filters have plans

A filter is walked through under three bounds, and what has been found so far is carried along. The
walk ends well exactly when the depth, the groups and the statements of the whole filter are within
their bounds and every statement is valid.
-/

namespace SeriesFilter

open Calendar

namespace Compile

/-- The conditions of a list of statements are those of each. -/
theorem conditionsFrom_eq_ok_iff {now : Instant} {place : Nat → Location} {index : Nat}
    {ss : List Statement} {cs : List Condition} :
    conditionsFrom now place index ss = .ok cs ↔
      ss.mapM (Statement.condition? now) = some cs := by
  induction ss generalizing index cs with
  | nil => simp [conditionsFrom]
  | cons s rest ih =>
    rw [conditionsFrom, List.mapM_cons]
    simp [bind_eq_ok_iff, condition_eq_ok_iff, ih, Option.bind_eq_some_iff, pure, Except.pure]

/-- Statements that are not too many have the conditions of each. -/
theorem conditions_eq_ok_iff {settings : Settings} {now : Instant} {place : Nat → Location}
    {ss : List Statement} {cs : List Condition} {tally after : Tally} :
    conditions settings now place ss tally = .ok (cs, after) ↔
      tally.statements + ss.length ≤ settings.maxStatements ∧
        ss.mapM (Statement.condition? now) = some cs ∧
        after = { tally with statements := tally.statements + ss.length } := by
  rw [conditions]
  by_cases hs : settings.maxStatements < tally.statements + ss.length
  · have hn : ¬ tally.statements + ss.length ≤ settings.maxStatements := by omega
    simp [hs, hn]
  · have hn : tally.statements + ss.length ≤ settings.maxStatements := by omega
    simp only [hs, hn, if_false, true_and, bind_eq_ok_iff, conditionsFrom_eq_ok_iff]
    constructor
    · rintro ⟨found, hf, h⟩
      cases h
      exact ⟨hf, rfl⟩
    · rintro ⟨hf, rfl⟩
      exact ⟨cs, hf, rfl⟩

/-- A tally after a group has been walked through as well. -/
def Tally.withGroup (t : Tally) (g : Group) : Tally :=
  ⟨t.statements + g.statementCount, t.groups + g.groupCount⟩

/-- A tally after some groups have been walked through as well. -/
def Tally.withGroups (t : Tally) (gs : List Group) : Tally :=
  ⟨t.statements + Group.sumStatements gs, t.groups + Group.sumGroups gs⟩

/-- Whether a tally and the depth that was reached keep within the bounds. -/
@[mk_iff] structure Tally.Within (settings : Settings) (depth : Nat) (t : Tally) : Prop where
  depth : depth ≤ settings.maxDepth
  statements : t.statements ≤ settings.maxStatements
  groups : t.groups ≤ settings.maxGroups

/-- Groups are walked through one after the other. -/
theorem Tally.withGroups_cons (t : Tally) (g : Group) (gs : List Group) :
    t.withGroups (g :: gs) = (t.withGroup g).withGroups gs := by
  simp [withGroups, withGroup, Group.sumStatements, Group.sumGroups, Nat.add_assoc]

section Within

variable {settings : Settings} {depth deeper : Nat} {t : Tally}

/-- What keeps within the bounds at some depth does so above it. -/
theorem Tally.Within.mono (h : t.Within settings deeper) (hd : depth ≤ deeper) :
    t.Within settings depth :=
  ⟨Nat.le_trans hd h.depth, h.statements, h.groups⟩

/-- What keeps within the bounds after some groups kept within them before. -/
theorem Tally.Within.of_withGroups {gs : List Group}
    (h : (t.withGroups gs).Within settings depth) : t.Within settings depth :=
  ⟨h.depth, Nat.le_trans (Nat.le_add_right _ _) h.statements,
    Nat.le_trans (Nat.le_add_right _ _) h.groups⟩

/-- Of two depths both are within the bounds when the greater one is. -/
theorem Tally.within_max_iff {a b : Nat} :
    t.Within settings (depth + max a b) ↔
      t.Within settings (depth + a) ∧ t.Within settings (depth + b) := by
  constructor
  · intro h
    exact ⟨h.mono (by omega), h.mono (by omega)⟩
  · rintro ⟨ha, hb⟩
    have := ha.depth
    have := hb.depth
    exact ⟨by omega, ha.statements, ha.groups⟩

end Within

/-- A group comes after its own statements, its `and` children and its `or` children. -/
theorem Tally.withGroup_mk (t : Tally) (statements : List Statement) (and or : List Group) :
    t.withGroup ⟨statements, and, or⟩ =
      (Tally.withGroups ⟨t.statements + statements.length, t.groups + 1⟩ and).withGroups or := by
  simp [withGroup, withGroups, Group.statementCount, Group.groupCount, Nat.add_assoc]

variable {settings : Settings} {now : Instant}

private theorem nodes_eq_ok_iff {gs : List Group}
    (h : ∀ g ∈ gs, ∀ {path depth tally after n},
      node settings now .and path (depth + 1) tally g = .ok (n, after) ↔
        g.node? now .and = some n ∧ after = tally.withGroup g ∧
          after.Within settings (depth + g.depth))
    {path : GroupPath} {step : Nat → Step} {index depth : Nat} {tally after : Tally}
    {ns : List Node} (hw : tally.Within settings depth) :
    nodes settings now path step index (depth + 1) tally gs = .ok (ns, after) ↔
      Group.nodes? now gs = some ns ∧ after = tally.withGroups gs ∧
        after.Within settings (depth + Group.maxDepth gs) := by
  induction gs generalizing index tally after ns with
  | nil =>
    simp only [nodes, Group.nodes?, Group.maxDepth, Nat.add_zero, Tally.withGroups,
      Group.sumStatements, Group.sumGroups, Except.ok.injEq, Option.some.injEq, Prod.mk.injEq]
    constructor
    · rintro ⟨rfl, rfl⟩
      exact ⟨rfl, rfl, hw⟩
    · rintro ⟨rfl, rfl, -⟩
      exact ⟨rfl, rfl⟩
  | cons g gs ih =>
    have hg := @h g List.mem_cons_self
    have hgs := @ih fun c hc ↦ h c (List.mem_cons_of_mem g hc)
    rw [nodes, Group.maxDepth, Tally.withGroups_cons, Tally.within_max_iff]
    simp only [bind_eq_ok_iff, Prod.exists]
    constructor
    · rintro ⟨n, between, hf, more, last, hm, h⟩
      cases h
      obtain ⟨hn, rfl, hb⟩ := hg.mp hf
      obtain ⟨hns, rfl, ha⟩ := (hgs (hb.mono (Nat.le_add_right _ _))).mp hm
      refine ⟨?_, rfl, ⟨hb.depth, ha.statements, ha.groups⟩, ha⟩
      simp [Group.nodes?, hn, hns]
    · rintro ⟨hn, rfl, ha, hb⟩
      obtain ⟨n, hf, hn⟩ := Option.bind_eq_some_iff.mp hn
      obtain ⟨more, hm, hn⟩ := Option.bind_eq_some_iff.mp hn
      cases hn
      have hw := ha.of_withGroups
      exact ⟨n, _, hg.mpr ⟨hf, rfl, hw⟩, more, _,
        (hgs (hw.mono (Nat.le_add_right _ _))).mpr ⟨hm, rfl, hb⟩, rfl⟩

/-- A group has its node exactly when it has one without any bounds and, with what has been walked
through before, keeps within them. -/
theorem node_eq_ok_iff (g : Group) {combination : Combination} {path : GroupPath} {depth : Nat}
    {tally after : Tally} {n : Node} :
    node settings now combination path (depth + 1) tally g = .ok (n, after) ↔
      g.node? now combination = some n ∧ after = tally.withGroup g ∧
        after.Within settings (depth + g.depth) := by
  induction g generalizing combination path depth tally after n with
  | mk statements and or hand hor =>
    have hand := fun g hg ↦ @hand g hg .and
    have hor := fun g hg ↦ @hor g hg .and
    rw [node, Group.depth, Tally.withGroup_mk, ← Nat.add_assoc, Tally.within_max_iff]
    by_cases hd : settings.maxDepth < depth + 1
    · rw [if_pos hd]
      constructor
      · rintro ⟨⟩
      · rintro ⟨-, -, h, -⟩
        have := h.depth
        omega
    by_cases hg : settings.maxGroups < tally.groups + 1
    · rw [if_neg hd, if_pos hg]
      constructor
      · rintro ⟨⟩
      · rintro ⟨-, rfl, h, -⟩
        have : tally.groups + 1 ≤ settings.maxGroups := h.of_withGroups.of_withGroups.groups
        omega
    rw [if_neg hd, if_neg hg]
    simp only [bind_eq_ok_iff, Prod.exists, conditions_eq_ok_iff]
    constructor
    · rintro ⟨cs, t₁, ⟨hs, hc, rfl⟩, as, t₂, ha, os, t₃, ho, h⟩
      cases h
      have hw : Tally.Within settings (depth + 1)
          ⟨tally.statements + statements.length, tally.groups + 1⟩ :=
        ⟨Nat.le_of_not_lt hd, hs, Nat.le_of_not_lt hg⟩
      obtain ⟨hand, rfl, hwa⟩ := (nodes_eq_ok_iff hand hw).mp ha
      obtain ⟨hor, rfl, hwo⟩ := (nodes_eq_ok_iff hor (hwa.mono (Nat.le_add_right _ _))).mp ho
      refine ⟨?_, rfl, ⟨hwa.depth, hwo.statements, hwo.groups⟩, hwo⟩
      simp [Group.node?, hc, hand, hor]
    · rintro ⟨hn, rfl, hwa, hwo⟩
      obtain ⟨cs, hc, hn⟩ := Option.bind_eq_some_iff.mp hn
      obtain ⟨as, ha, hn⟩ := Option.bind_eq_some_iff.mp hn
      obtain ⟨os, ho, hn⟩ := Option.bind_eq_some_iff.mp hn
      cases hn
      have hwa := hwa.of_withGroups
      have hw := hwa.of_withGroups.mono (Nat.le_add_right _ _)
      exact ⟨cs, _, ⟨hw.statements, hc, rfl⟩, as, _, (nodes_eq_ok_iff hand hw).mpr ⟨ha, rfl, hwa⟩,
        os, _, (nodes_eq_ok_iff hor (hwa.mono (Nat.le_add_right _ _))).mpr ⟨ho, rfl, hwo⟩, rfl⟩

/-- A group within the bounds has the node that it has without any. -/
theorem node?_of_node (g : Group) {combination : Combination} {path : GroupPath} {depth : Nat}
    {tally after : Tally} {n : Node}
    (h : node settings now combination path (depth + 1) tally g = .ok (n, after)) :
    g.node? now combination = some n :=
  ((node_eq_ok_iff g).mp h).1

end Compile

/-- Whether a group alone keeps within the bounds. -/
@[mk_iff] structure Group.FitsBounds (settings : Settings) (g : Group) : Prop where
  statements : g.statementCount ≤ settings.maxStatements
  depth : g.depth ≤ settings.maxDepth
  groups : g.groupCount ≤ settings.maxGroups

/-- Whether a filter keeps within the bounds. The flat statements count with those of the tree, and
without a tree there is no depth and no group to count. -/
@[mk_iff] structure Filter.FitsBounds (settings : Settings) (f : Filter) : Prop where
  statements :
    f.statements.length + (f.group.map Group.statementCount).getD 0 ≤ settings.maxStatements
  depth : ∀ g, f.group = some g → g.depth ≤ settings.maxDepth
  groups : ∀ g, f.group = some g → g.groupCount ≤ settings.maxGroups

variable {settings : Settings} {now : Instant}

/-- A group alone has a predicate when it keeps within the bounds and has one without any. -/
theorem Group.compile_eq_ok_iff {g : Group} {combination : Combination} {n : Node} :
    g.compile settings now combination = .ok n ↔
      g.FitsBounds settings ∧ g.node? now combination = some n := by
  have hw : (Compile.Tally.withGroup {} g).Within settings (0 + g.depth) ↔
      g.FitsBounds settings := by
    rw [Compile.Tally.within_iff, Group.fitsBounds_iff]
    simp [Compile.Tally.withGroup, and_left_comm]
  rw [compile, ← hw, map_eq_ok_iff]
  constructor
  · rintro ⟨⟨n, after⟩, hn, rfl⟩
    obtain ⟨hf, rfl, hb⟩ := (Compile.node_eq_ok_iff g).mp hn
    exact ⟨hb, hf⟩
  · rintro ⟨hb, hf⟩
    exact ⟨_, (Compile.node_eq_ok_iff g).mpr ⟨hf, rfl, hb⟩, rfl⟩

namespace Compile

/-- A filter has a plan when it keeps within the bounds, its flat statements have conditions and its
tree has a node. -/
theorem compile_eq_ok_iff {f : Filter} {plan : Plan} :
    f.compile settings now = .ok plan ↔
      f.FitsBounds settings ∧ ∃ flat tree,
        f.statements.mapM (Statement.condition? now) = some flat ∧
        f.group.map (Group.node? now .and) = tree.map some ∧
        plan = ⟨root f.combination flat tree, f.sort.getD settings.defaultSort,
          .ofCount f.limit.toNat⟩ := by
  rw [Filter.compile, Filter.fitsBounds_iff]
  simp only [bind_eq_ok_iff, Prod.exists, conditions_eq_ok_iff]
  cases f.group with
  | none =>
    constructor
    · rintro ⟨flat, tally, ⟨hs, hf, rfl⟩, h⟩
      cases h
      exact ⟨by simpa using hs, flat, none, hf, rfl, rfl⟩
    · rintro ⟨hb, flat, tree, hf, ht, rfl⟩
      cases tree with
      | some n => cases ht
      | none => exact ⟨flat, _, ⟨by simpa using hb, hf, rfl⟩, rfl⟩
  | some g =>
    have hw : (Tally.withGroup ⟨0 + f.statements.length, 0⟩ g).Within settings (0 + g.depth) ↔
        f.statements.length + g.statementCount ≤ settings.maxStatements ∧
          g.depth ≤ settings.maxDepth ∧ g.groupCount ≤ settings.maxGroups := by
      rw [Tally.within_iff]
      simp [Tally.withGroup, and_left_comm]
    simp only [Option.map_some, Option.getD_some, Option.some.injEq, forall_eq']
    rw [← hw]
    constructor
    · rintro ⟨flat, tally, ⟨hs, hf, rfl⟩, h⟩
      obtain ⟨tree, ht, h⟩ := bind_eq_ok_iff.mp h
      obtain ⟨⟨n, after⟩, hn, rfl⟩ := map_eq_ok_iff.mp ht
      cases h
      obtain ⟨hg, rfl, hb⟩ := (node_eq_ok_iff g).mp hn
      exact ⟨hb, flat, some n, hf, by rw [hg]; rfl, rfl⟩
    · rintro ⟨hb, flat, tree, hf, ht, rfl⟩
      cases tree with
      | none => cases ht
      | some n =>
        have hs := (hw.mp hb).1
        refine ⟨flat, _, ⟨by omega, hf, rfl⟩, bind_eq_ok_iff.mpr ⟨some n, ?_, rfl⟩⟩
        exact map_eq_ok_iff.mpr ⟨_, (node_eq_ok_iff g).mpr ⟨Option.some.inj ht, rfl, hb⟩, rfl⟩

/-- There is a node of the tree when there is a tree. -/
theorem tree_cases {group : Option Group} {tree : Option Node}
    (h : group.map (Group.node? now .and) = tree.map some) :
    group = none ∧ tree = none ∨
      ∃ g n, group = some g ∧ tree = some n ∧ g.node? now .and = some n := by
  cases group with
  | none =>
    cases tree with
    | none => exact .inl ⟨rfl, rfl⟩
    | some n => cases h
  | some g =>
    cases tree with
    | none => cases h
    | some n => exact .inr ⟨g, n, rfl, rfl, Option.some.inj h⟩

/-- A filter that has a plan has the conditions of its flat statements and the node of its tree. -/
theorem root_of_compile {f : Filter} {plan : Plan} (h : f.compile settings now = .ok plan) :
    ∃ flat tree, f.statements.mapM (Statement.condition? now) = some flat ∧
      f.group.map (Group.node? now .and) = tree.map some ∧
      plan.root = root f.combination flat tree := by
  obtain ⟨-, flat, tree, hf, ht, rfl⟩ := compile_eq_ok_iff.mp h
  exact ⟨flat, tree, hf, ht, rfl⟩

end Compile

/-- A filter has a plan when it keeps within the bounds and every statement has a condition. -/
theorem Filter.exists_plan_iff (f : Filter) :
    (∃ plan, f.compile settings now = .ok plan) ↔
      f.FitsBounds settings ∧ ∀ s ∈ f.allStatements, ∃ c, s.condition? now = some c := by
  rw [allStatements, List.forall_mem_append, ← Statement.exists_mapM_condition?_iff]
  simp only [Compile.compile_eq_ok_iff]
  constructor
  · rintro ⟨plan, hb, flat, tree, hf, ht, -⟩
    refine ⟨hb, ⟨flat, hf⟩, ?_⟩
    obtain ⟨hg, -⟩ | ⟨g, n, hg, -, hn⟩ := Compile.tree_cases ht
    · simp [hg]
    · rw [hg]
      exact g.conditions_of_node? hn
  · rintro ⟨hb, ⟨flat, hf⟩, ht⟩
    cases hg : f.group with
    | none => exact ⟨_, hb, flat, none, hf, rfl, rfl⟩
    | some g =>
      rw [hg] at ht
      obtain ⟨n, hn⟩ := g.exists_node?_iff.mpr ht
      exact ⟨_, hb, flat, some n, hf, congrArg some hn, rfl⟩

/-- Every statement of a filter that has a plan has a condition. -/
theorem Filter.conditions_of_compile {f : Filter} {plan : Plan}
    (h : f.compile settings now = .ok plan) :
    ∀ s ∈ f.allStatements, ∃ c, s.condition? now = some c :=
  (f.exists_plan_iff.mp ⟨plan, h⟩).2

/-- Compiling succeeds exactly for what keeps within the bounds and has only valid statements, be it
a whole filter or a group alone. -/
theorem exists_compile_iff (settings : Settings) (now : Instant) :
    (∀ f : Filter, (∃ plan, f.compile settings now = .ok plan) ↔
      f.FitsBounds settings ∧ ∀ s ∈ f.allStatements, s.IsValid now) ∧
    ∀ (g : Group) (combination : Combination),
      (∃ n, g.compile settings now combination = .ok n) ↔
        g.FitsBounds settings ∧ ∀ s ∈ g.allStatements, s.IsValid now := by
  simp only [← Statement.exists_condition?_iff]
  constructor
  · exact Filter.exists_plan_iff
  · intro g combination
    simp only [Group.compile_eq_ok_iff, exists_and_left]
    rw [g.exists_node?_iff]

end SeriesFilter
