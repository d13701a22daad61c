import SeriesFilter.Compile
import SeriesFilter.Proofs.Filter.Tree

/-!
# The shape of a predicate

Without regard to bounds, every statement gives one condition, wherever it stands, and every group
one node. A group has its node exactly when all statements below it have their conditions, and a
statement has one when its field allows the operator and its literal can be read.
-/

namespace SeriesFilter

open Calendar

/-- The condition of a statement, if it has one. -/
def Statement.condition? (now : Instant) (s : Statement) : Option Condition :=
  (Compile.condition now (.flat 0) s).toOption

/-- Whether a statement may be made: its field allows the operator, and its literal is one for the
field and the operator. -/
structure Statement.IsValid (now : Instant) (s : Statement) : Prop where
  allows : s.field.allows s.comparison = true
  readable : ∃ operand, Operand.ofLiteral s.field s.comparison now s.value = .ok operand

/-- The valid statements are those that have conditions. -/
theorem Statement.exists_condition?_iff {now : Instant} {s : Statement} :
    (∃ c, s.condition? now = some c) ↔ s.IsValid now := by
  rw [condition?, Compile.condition]
  by_cases ha : s.field.allows s.comparison = true
  · rw [if_pos ha]
    cases ho : Operand.ofLiteral s.field s.comparison now s.value with
    | error reason =>
      have hn : ¬ s.IsValid now := by
        intro h
        obtain ⟨operand, hr⟩ := h.readable
        rw [ho] at hr
        contradiction
      simp [Except.toOption, hn]
    | ok operand =>
      have hv : s.IsValid now := ⟨ha, operand, ho⟩
      simp [Except.toOption, hv]
  · have hn : ¬ s.IsValid now := fun h ↦ ha h.allows
    rw [if_neg ha]
    simp [Except.toOption, hn]

/-- The condition of a statement holds the operand that its literal is read as. -/
theorem Compile.condition_eq_ok_iff_readable {now : Instant} {place : Location} {s : Statement}
    {c : Condition} : condition now place s = .ok c ↔
      s.field.allows s.comparison = true ∧
        ∃ operand, Operand.ofLiteral s.field s.comparison now s.value = .ok operand ∧
          c = ⟨s.field, s.comparison, s.field.kind, operand⟩ := by
  rw [condition]
  by_cases ha : s.field.allows s.comparison = true
  · rw [if_pos ha]
    cases Operand.ofLiteral s.field s.comparison now s.value with
    | error reason => simp
    | ok operand => simp [ha, eq_comm]
  · rw [if_neg ha]
    simp [ha]

/-- The condition of a statement does not depend on where the statement stands. -/
theorem Compile.condition_eq_ok_iff {now : Instant} {place : Location} {s : Statement}
    {c : Condition} : condition now place s = .ok c ↔ s.condition? now = some c := by
  rw [Statement.condition?, condition, condition]
  by_cases ha : s.field.allows s.comparison = true
  · rw [if_pos ha, if_pos ha]
    cases Operand.ofLiteral s.field s.comparison now s.value with
    | error reason => simp [Except.toOption]
    | ok operand => simp [Except.toOption]
  · rw [if_neg ha, if_neg ha]
    simp [Except.toOption]

/-- Statements have conditions together when each has one. -/
theorem Statement.exists_mapM_condition?_iff {now : Instant} {ss : List Statement} :
    (∃ cs, ss.mapM (condition? now) = some cs) ↔ ∀ s ∈ ss, ∃ c, s.condition? now = some c := by
  induction ss with
  | nil => simp
  | cons s rest ih =>
    rw [List.forall_mem_cons, ← ih, List.mapM_cons]
    constructor
    · rintro ⟨cs, h⟩
      obtain ⟨c, hc, h⟩ := Option.bind_eq_some_iff.mp h
      obtain ⟨more, hm, -⟩ := Option.bind_eq_some_iff.mp h
      exact ⟨⟨c, hc⟩, more, hm⟩
    · rintro ⟨⟨c, hc⟩, more, hm⟩
      exact ⟨c :: more, by simp [hc, hm]⟩

namespace Group

mutual

/-- The node of a group without regard to bounds, if all statements below it have conditions. -/
def node? (now : Instant) (combination : Combination) : Group → Option Node
  | ⟨statements, and, or⟩ => do
    let conditions ← statements.mapM (Statement.condition? now)
    let and ← nodes? now and
    let or ← nodes? now or
    return ⟨combination, conditions, and, or⟩

/-- The nodes of some groups without regard to bounds. -/
def nodes? (now : Instant) : List Group → Option (List Node)
  | [] => some []
  | g :: gs => do
    let n ← node? now .and g
    let ns ← nodes? now gs
    return n :: ns

end

private theorem exists_nodes?_iff {now : Instant} {gs : List Group}
    (h : ∀ g ∈ gs, (∃ n, g.node? now .and = some n) ↔
      ∀ s ∈ g.allStatements, ∃ c, s.condition? now = some c) :
    (∃ ns, nodes? now gs = some ns) ↔
      ∀ s ∈ listStatements gs, ∃ c, s.condition? now = some c := by
  induction gs with
  | nil => simp [nodes?, listStatements]
  | cons g gs ih =>
    have ih := ih fun c hc ↦ h c (List.mem_cons_of_mem g hc)
    rw [listStatements, List.forall_mem_append, ← h g List.mem_cons_self, ← ih]
    constructor
    · rintro ⟨ns, hn⟩
      obtain ⟨n, hf, hn⟩ := Option.bind_eq_some_iff.mp hn
      obtain ⟨more, hm, -⟩ := Option.bind_eq_some_iff.mp hn
      exact ⟨⟨n, hf⟩, more, hm⟩
    · rintro ⟨⟨n, hf⟩, more, hm⟩
      exact ⟨n :: more, by simp [nodes?, hf, hm]⟩

/-- A group has a node when every statement below it has a condition. -/
theorem exists_node?_iff (g : Group) {now : Instant} {combination : Combination} :
    (∃ n, g.node? now combination = some n) ↔
      ∀ s ∈ g.allStatements, ∃ c, s.condition? now = some c := by
  induction g generalizing combination with
  | mk statements and or hand hor =>
    rw [allStatements, List.forall_mem_append, List.forall_mem_append,
      ← Statement.exists_mapM_condition?_iff, ← exists_nodes?_iff fun g hg ↦ hand g hg,
      ← exists_nodes?_iff fun g hg ↦ hor g hg]
    constructor
    · rintro ⟨n, h⟩
      obtain ⟨cs, hc, h⟩ := Option.bind_eq_some_iff.mp h
      obtain ⟨as, ha, h⟩ := Option.bind_eq_some_iff.mp h
      obtain ⟨os, ho, -⟩ := Option.bind_eq_some_iff.mp h
      exact ⟨⟨⟨cs, hc⟩, as, ha⟩, os, ho⟩
    · rintro ⟨⟨⟨cs, hc⟩, as, ha⟩, os, ho⟩
      exact ⟨⟨combination, cs, as, os⟩, by simp [node?, hc, ha, ho]⟩

/-- Every statement below a group that has a node has a condition. -/
theorem conditions_of_node? (g : Group) {now : Instant} {combination : Combination} {n : Node}
    (h : g.node? now combination = some n) :
    ∀ s ∈ g.allStatements, ∃ c, s.condition? now = some c :=
  g.exists_node?_iff.mp ⟨n, h⟩

end Group

end SeriesFilter
