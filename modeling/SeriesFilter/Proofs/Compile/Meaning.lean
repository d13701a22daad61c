import SeriesFilter.Proofs.Compile.Bounds
import SeriesFilter.Proofs.Filter.Meaning

/-!
# Compilation keeps the meaning

The predicate of a filter holds of an entity exactly when the filter does, where a statement holds
when its condition is passed. The bounds only decide whether there is a predicate at all.
-/

namespace SeriesFilter

open Calendar

/-- Whether a statement holds of an entity: whether the entity passes its condition. -/
def Statement.holds [Filterable α] (now : Instant) (entity : α) (s : Statement) : Bool :=
  (s.condition? now).any fun c ↦ c.evaluate entity

/-- A statement whose literal can be read holds when its condition is passed. -/
theorem Statement.holds_of_readable [Filterable α] {now : Instant} {s : Statement}
    {operand : Operand} (ha : s.field.allows s.comparison = true)
    (ho : Operand.ofLiteral s.field s.comparison now s.value = .ok operand) (entity : α) :
    s.holds now entity =
      Condition.evaluate ⟨s.field, s.comparison, s.field.kind, operand⟩ entity := by
  have hc : Compile.condition now (.flat 0) s =
      .ok ⟨s.field, s.comparison, s.field.kind, operand⟩ :=
    Compile.condition_eq_ok_iff_readable.mpr ⟨ha, operand, ho, rfl⟩
  rw [holds, Compile.condition_eq_ok_iff.mp hc, Option.any_some]

/-- Whether compiling a statement gives one condition wherever it stands, which an entity passes
exactly when the statement holds of it. -/
def Statement.IsCompiled (now : Instant) (s : Statement) : Prop :=
  ∃ c, (∀ place, Compile.condition now place s = .ok c) ∧
    ∀ {α : Type} [Filterable α] (entity : α), s.holds now entity = c.evaluate entity

/-- A statement is compiled when it has a condition. -/
theorem Statement.isCompiled_iff {now : Instant} {s : Statement} :
    s.IsCompiled now ↔ ∃ c, s.condition? now = some c := by
  constructor
  · rintro ⟨c, hc, -⟩
    exact ⟨c, Compile.condition_eq_ok_iff.mp (hc (.flat 0))⟩
  · rintro ⟨c, hc⟩
    refine ⟨c, fun place ↦ Compile.condition_eq_ok_iff.mpr hc, fun entity ↦ ?_⟩
    rw [holds, hc, Option.any_some]

/-- A statement without a condition holds of nothing. -/
theorem Statement.holds_of_not_isCompiled [Filterable α] {now : Instant} {s : Statement}
    (h : ¬ s.IsCompiled now) (entity : α) : s.holds now entity = false := by
  rw [isCompiled_iff, not_exists] at h
  rw [holds, Option.eq_none_iff_forall_ne_some.mpr h]
  rfl

namespace Node

variable [Filterable α] (entity : α)

/-- All of some nodes are passed when each is. -/
theorem evaluateAll_eq_all (ns : List Node) :
    evaluateAll entity ns = ns.all (evaluate entity) := by
  induction ns with
  | nil => rfl
  | cons n ns ih => rw [evaluateAll, ih, List.all_cons]

/-- Any of some nodes is passed when one is. -/
theorem evaluateAny_eq_any (ns : List Node) :
    evaluateAny entity ns = ns.any (evaluate entity) := by
  induction ns with
  | nil => rfl
  | cons n ns ih => rw [evaluateAny, ih, List.any_cons]

end Node

namespace Compile

variable {now : Instant}

section Conditions

variable {ss : List Statement} {cs : List Condition}
  (h : ss.mapM (Statement.condition? now) = some cs)
include h

variable [Filterable α] (entity : α)

private theorem map_holds :
    ss.map (Statement.holds now entity) = cs.map fun c ↦ c.evaluate entity := by
  induction ss generalizing cs with
  | nil =>
    cases h
    rfl
  | cons s rest ih =>
    rw [List.mapM_cons] at h
    obtain ⟨c, hc, h⟩ := Option.bind_eq_some_iff.mp h
    obtain ⟨more, hm, h⟩ := Option.bind_eq_some_iff.mp h
    cases h
    have hs : s.holds now entity = c.evaluate entity := by rw [Statement.holds, hc, Option.any_some]
    rw [List.map_cons, List.map_cons, hs, ih hm]

/-- Conditions hold under a combination when their statements do. -/
theorem conditionsHold_eq_joins (combination : Combination) :
    Node.conditionsHold combination cs entity =
      combination.joins (Statement.holds now entity) ss := by
  have hm := map_holds h entity
  have ha : ss.all (Statement.holds now entity) = cs.all fun c ↦ c.evaluate entity := by
    simpa [List.all_map] using congrArg (List.all · id) hm
  have ho : ss.any (Statement.holds now entity) = cs.any fun c ↦ c.evaluate entity := by
    simpa [List.any_map] using congrArg (List.any · id) hm
  have hl := congrArg List.length hm
  rw [List.length_map, List.length_map] at hl
  cases ss with
  | nil =>
    rw [List.eq_nil_of_length_eq_zero hl.symm]
    cases combination <;> rfl
  | cons s rest =>
    cases cs with
    | nil => cases hl
    | cons c more =>
      cases combination with
      | and => exact ha.symm
      | or => exact ho.symm

end Conditions

variable [Filterable α] (entity : α)

private theorem map_evaluate {gs : List Group}
    (h : ∀ g ∈ gs, ∀ {n}, g.node? now .and = some n →
      n.evaluate entity = g.holds (Statement.holds now entity))
    {ns : List Node} (hn : Group.nodes? now gs = some ns) :
    ns.map (Node.evaluate entity) = gs.map (Group.holds (Statement.holds now entity)) := by
  induction gs generalizing ns with
  | nil =>
    cases hn
    rfl
  | cons g gs ih =>
    obtain ⟨n, hf, hn⟩ := Option.bind_eq_some_iff.mp hn
    obtain ⟨more, hm, hn⟩ := Option.bind_eq_some_iff.mp hn
    cases hn
    rw [List.map_cons, List.map_cons, h g List.mem_cons_self hf,
      ih (fun c hc ↦ h c (List.mem_cons_of_mem g hc)) hm]

/-- The node of a group holds when the group does. -/
theorem evaluate_eq_holdsUnder (g : Group) {combination : Combination} {n : Node}
    (h : g.node? now combination = some n) :
    n.evaluate entity = g.holdsUnder (Statement.holds now entity) combination := by
  induction g generalizing combination n with
  | mk statements and or hand hor =>
    obtain ⟨cs, hc, h⟩ := Option.bind_eq_some_iff.mp h
    obtain ⟨as, ha, h⟩ := Option.bind_eq_some_iff.mp h
    obtain ⟨os, ho, h⟩ := Option.bind_eq_some_iff.mp h
    cases h
    have hea := map_evaluate entity (fun g hg n hn ↦ by
      rw [hand g hg hn, Group.holdsUnder_and]) ha
    have heo := map_evaluate entity (fun g hg n hn ↦ by
      rw [hor g hg hn, Group.holdsUnder_and]) ho
    have hall : Node.evaluateAll entity as = Group.allHold (Statement.holds now entity) and := by
      rw [Node.evaluateAll_eq_all, Group.allHold_eq_all]
      simpa [List.all_map] using congrArg (List.all · id) hea
    have hany : Node.evaluateAny entity os = Group.anyHolds (Statement.holds now entity) or := by
      rw [Node.evaluateAny_eq_any, Group.anyHolds_eq_any]
      simpa [List.any_map] using congrArg (List.any · id) heo
    rw [Node.evaluate, Group.holdsUnder, conditionsHold_eq_joins hc, hall, hany]

/-- The root asks for the flat conditions and for the tree. -/
theorem evaluate_root (combination : Combination) (flat : List Condition) (tree : Option Node) :
    (root combination flat tree).evaluate entity =
      (Node.conditionsHold combination flat entity && tree.all (Node.evaluate entity)) := by
  cases tree with
  | none =>
    change (_ && Node.evaluateAll entity [] || Node.evaluateAny entity []) = _
    rw [Node.evaluateAll, Node.evaluateAny, Bool.or_false]
    rfl
  | some n =>
    cases flat with
    | nil => cases combination <;> rfl
    | cons c more =>
      change (_ && Node.evaluateAll entity [n] || Node.evaluateAny entity []) = _
      rw [Node.evaluateAll, Node.evaluateAll, Node.evaluateAny, Bool.or_false, Bool.and_true]
      rfl

/-- A plan takes an entity when the flat statements hold of it and the tree does. -/
theorem matches_eq_holds {f : Filter} {settings : Settings} {plan : Plan}
    (h : f.compile settings now = .ok plan) :
    plan.matches entity =
      (f.flatHolds (Statement.holds now entity) && f.treeHolds (Statement.holds now entity)) := by
  obtain ⟨flat, tree, hf, ht, hr⟩ := root_of_compile h
  have hc : tree.all (Node.evaluate entity) = f.treeHolds (Statement.holds now entity) := by
    rw [Filter.treeHolds]
    obtain ⟨hg, rfl⟩ | ⟨g, n, hg, rfl, hn⟩ := tree_cases ht
    · rw [hg]
      rfl
    · have he := evaluate_eq_holdsUnder entity g hn
      rw [Group.holdsUnder_and] at he
      rw [hg]
      exact he
  rw [Plan.matches, hr, evaluate_root, conditionsHold_eq_joins hf, hc, Filter.flatHolds]

/-- A tree without flat statements gives the predicate of the tree alone. -/
theorem map_root_compile {f : Filter} {g : Group} (hs : f.statements = []) (hg : f.group = some g)
    (settings : Settings) :
    (f.compile settings now).map Plan.root = g.compile settings now .and := by
  have hc : conditions settings now .flat f.statements {} = .ok ([], {}) := by
    rw [hs]
    rfl
  rw [Filter.compile, hc, hg, Group.compile]
  change Except.map _ ((Except.map _ _).bind _) = _
  cases node settings now .and [] 1 {} g with
  | error e => rfl
  | ok found => rfl

end Compile

/-- A plan takes exactly the entities of which its filter holds, and the predicate of a group holds
of exactly those of which the group does. A statement holds when the condition compiled from it is
passed, wherever it stands, and a filter that is only a tree has the predicate of that tree. -/
theorem compile_keeps_meaning (settings : Settings) (now : Instant) :
    (∀ (f : Filter) (plan : Plan), f.compile settings now = .ok plan →
      (∀ s ∈ f.allStatements, s.IsCompiled now) ∧
      ∀ {α : Type} [Filterable α] (entity : α), plan.matches entity =
        (f.flatHolds (Statement.holds now entity) && f.treeHolds (Statement.holds now entity))) ∧
    (∀ (g : Group) (combination : Combination) (n : Node),
      g.compile settings now combination = .ok n →
      (∀ s ∈ g.allStatements, s.IsCompiled now) ∧
      ∀ {α : Type} [Filterable α] (entity : α),
        n.evaluate entity = g.holdsUnder (Statement.holds now entity) combination) ∧
    ∀ (f : Filter) (g : Group), f.statements = [] → f.group = some g →
      (f.compile settings now).map Plan.root = g.compile settings now .and := by
  refine ⟨?_, ?_, ?_⟩
  · intro f plan h
    exact ⟨fun s hs ↦ Statement.isCompiled_iff.mpr (Filter.conditions_of_compile h s hs),
      fun entity ↦ Compile.matches_eq_holds entity h⟩
  · intro g combination n h
    rw [Group.compile] at h
    cases hn : Compile.node settings now combination [] 1 {} g with
    | error e =>
      rw [hn] at h
      cases h
    | ok found =>
      rw [hn] at h
      cases h
      have hg := Compile.node?_of_node g hn
      exact ⟨fun s hs ↦ Statement.isCompiled_iff.mpr (g.conditions_of_node? hg s hs),
        fun entity ↦ Compile.evaluate_eq_holdsUnder entity g hg⟩
  · intro f g hs hg
    exact Compile.map_root_compile hs hg settings

/-- A filter with a flat statement and with statements at two levels of its tree. -/
private def nestedFilter : Filter where
  statements := [⟨.seriesName, .notEqual, "c"⟩]
  combination := .or
  group := some {
    statements := [⟨.seriesName, .equal, "a"⟩]
    or := [{ and := [{ statements := [⟨.seriesName, .beginsWith, "b"⟩] }] }] }

/-- That filter has a plan, its tree a predicate, and its tree alone the same one either way. -/
theorem compile_keeps_meaning_nested :
    (∃ plan, nestedFilter.compile {} ⟨0, 0⟩ = .ok plan ∧
      ∀ {α : Type} [Filterable α] (entity : α), plan.matches entity =
        (nestedFilter.flatHolds (Statement.holds ⟨0, 0⟩ entity) &&
          nestedFilter.treeHolds (Statement.holds ⟨0, 0⟩ entity))) ∧
    (∃ g n, nestedFilter.group = some g ∧ g.compile {} ⟨0, 0⟩ .or = .ok n ∧
      ∀ {α : Type} [Filterable α] (entity : α),
        n.evaluate entity = g.holdsUnder (Statement.holds ⟨0, 0⟩ entity) .or) ∧
    ∃ g, nestedFilter.group = some g ∧
      (Filter.compile {} ⟨0, 0⟩ { nestedFilter with statements := [] }).map Plan.root =
        g.compile {} ⟨0, 0⟩ .and := by
  obtain ⟨hf, hg, ht⟩ := compile_keeps_meaning {} ⟨0, 0⟩
  exact ⟨⟨_, rfl, (hf nestedFilter _ rfl).2⟩, ⟨_, _, rfl, rfl, (hg _ .or _ rfl).2⟩,
    ⟨_, rfl, ht { nestedFilter with statements := [] } _ rfl rfl⟩⟩

end SeriesFilter
