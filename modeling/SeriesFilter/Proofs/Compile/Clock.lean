import SeriesFilter.Proofs.Compile.Conditions

/-!
# What the time of compilation decides

The time stands in the windows of a plan and nowhere else. Compiled at another time, a filter has
the same plan with its windows moved to that time, or the same fault at the same place. A filter
without statements on windows has one and the same plan at all times.
-/

namespace SeriesFilter

open Calendar

namespace Operand

/-- An operand with its window, if it is one, moved to another time. -/
def anchored (now : Instant) : Operand → Operand
  | .window seconds _ => .window seconds now
  | operand => operand

variable (now other : Instant) (value : String)

private theorem ofWindow_eq_map_anchored :
    ofWindow other value = (ofWindow now value).map (anchored other) := by
  rw [ofWindow, ofWindow]
  cases (Text.count? (Text.trimChars value.toList)).bind fun n ↦ span? n with
  | none => rfl
  | some seconds => rfl

private theorem ofDate_eq_map_anchored : ofDate value = (ofDate value).map (anchored other) := by
  rw [ofDate]
  cases dayOfText (Text.trimChars value.toList) with
  | ok d => rfl
  | error _ =>
    cases instantOfText (Text.trimChars value.toList) with
    | ok t => rfl
    | error _ => rfl

/-- A literal read at another time is the same operand, moved to that time. -/
theorem ofLiteral_eq_map_anchored (field : Field) (comparison : Comparison) :
    ofLiteral field comparison other value =
      (ofLiteral field comparison now value).map (anchored other) := by
  unfold ofLiteral
  cases field.kind with
  | text => rfl
  | enum =>
    cases field.domain? with
    | none => rfl
    | some domain =>
      dsimp only
      cases domain.ordinal? value with
      | none => rfl
      | some ordinal => rfl
  | number =>
    dsimp only
    cases Decimal.numberOfText? (Text.trimChars value.toList) with
    | none => rfl
    | some n => rfl
  | date =>
    cases comparison with
    | isInLast => exact ofWindow_eq_map_anchored now other value
    | isNotInLast => exact ofWindow_eq_map_anchored now other value
    | _ => exact ofDate_eq_map_anchored other value
  | duration =>
    dsimp only
    cases durationOfText value with
    | error _ => rfl
    | ok seconds => rfl
  | collection =>
    cases comparison with
    | isEmpty => rfl
    | _ =>
      dsimp only
      cases splitTokens value with
      | nil => rfl
      | cons token rest => rfl

/-- A literal that is not about a window is the same operand at all times. -/
theorem ofLiteral_eq_of_ne {field : Field} {comparison : Comparison}
    (hi : comparison ≠ .isInLast) (hn : comparison ≠ .isNotInLast) :
    ofLiteral field comparison other value = ofLiteral field comparison now value := by
  unfold ofLiteral
  cases field.kind with
  | date =>
    cases comparison with
    | isInLast => exact absurd rfl hi
    | isNotInLast => exact absurd rfl hn
    | _ => rfl
  | _ => rfl

end Operand

/-- A condition with its window, if it has one, moved to another time. -/
def Condition.anchored (now : Instant) (c : Condition) : Condition :=
  { c with operand := c.operand.anchored now }

/-- The condition of a statement that is not about a window is the same at all times. -/
theorem Statement.IsMirrored.anchored_eq_self {now : Instant} {s : Statement} {c : Condition}
    (h : s.IsMirrored now c) (hi : s.comparison ≠ .isInLast) (hn : s.comparison ≠ .isNotInLast)
    (other : Instant) : c.anchored other = c := by
  have ho : (Except.ok (c.operand.anchored other) : Except LiteralError Operand) =
      .ok c.operand := by
    calc Except.ok (c.operand.anchored other)
      _ = (Operand.ofLiteral s.field s.comparison now s.value).map (Operand.anchored other) := by
        rw [h.operand]; rfl
      _ = Operand.ofLiteral s.field s.comparison other s.value :=
        (Operand.ofLiteral_eq_map_anchored now other _ _ _).symm
      _ = Operand.ofLiteral s.field s.comparison now s.value :=
        Operand.ofLiteral_eq_of_ne now other _ hi hn
      _ = .ok c.operand := h.operand
  rw [Condition.anchored, Except.ok.inj ho]

namespace Node

variable (f : Condition → Condition)

mutual

/-- A node with the conditions of it and of all nodes below it changed. -/
def map : Node → Node
  | ⟨combination, conditions, and, or⟩ =>
    ⟨combination, conditions.map f, mapAll and, mapAll or⟩

/-- Some nodes with all their conditions changed. -/
def mapAll : List Node → List Node
  | [] => []
  | n :: ns => map n :: mapAll ns

end

mutual

/-- A node stays as it is when all its conditions do. -/
theorem map_eq_self {f : Condition → Condition} :
    ∀ {n : Node}, (∀ c ∈ n.allConditions, f c = c) → n.map f = n
  | ⟨combination, conditions, and, or⟩, h => by
    rw [allConditions, List.forall_mem_append, List.forall_mem_append] at h
    obtain ⟨⟨hown, hand⟩, hor⟩ := h
    rw [map, mapAll_eq_self hand, mapAll_eq_self hor, List.map_congr_left hown, List.map_id']

/-- Nodes stay as they are when all their conditions do. -/
theorem mapAll_eq_self {f : Condition → Condition} :
    ∀ {ns : List Node}, (∀ c ∈ listConditions ns, f c = c) → mapAll f ns = ns
  | [], _ => rfl
  | n :: ns, h => by
    rw [listConditions, List.forall_mem_append] at h
    rw [mapAll, map_eq_self h.1, mapAll_eq_self h.2]

end

end Node

/-- A plan with all its windows moved to another time. -/
def Plan.anchored (now : Instant) (p : Plan) : Plan :=
  { p with root := p.root.map (Condition.anchored now) }

namespace Compile

variable (settings : Settings) (now other : Instant)

/-- A statement compiled at another time has the same condition, moved to that time. -/
theorem condition_eq_map_anchored (place : Location) (s : Statement) :
    condition other place s = (condition now place s).map (Condition.anchored other) := by
  rw [condition, condition, Operand.ofLiteral_eq_map_anchored now other]
  by_cases ha : s.field.allows s.comparison = true
  · rw [if_pos ha, if_pos ha]
    cases Operand.ofLiteral s.field s.comparison now s.value with
    | error reason => rfl
    | ok operand => rfl
  · rw [if_neg ha, if_neg ha]
    rfl

/-- The first fault among some statements is the same at another time. -/
theorem conditionsFrom_eq_map_anchored (place : Nat → Location) (index : Nat)
    (ss : List Statement) :
    conditionsFrom other place index ss =
      (conditionsFrom now place index ss).map (List.map (Condition.anchored other)) := by
  induction ss generalizing index with
  | nil => rfl
  | cons s rest ih =>
    rw [conditionsFrom, conditionsFrom]
    refine bind_eq_map_bind (condition_eq_map_anchored now other (place index) s) fun c ↦ ?_
    exact bind_eq_map_bind (ih (index + 1)) fun cs ↦ rfl

/-- Statements are counted alike at all times. -/
theorem conditions_eq_map_anchored (place : Nat → Location) (ss : List Statement) (tally : Tally) :
    conditions settings other place ss tally =
      (conditions settings now place ss tally).map
        (Prod.map (List.map (Condition.anchored other)) id) := by
  rw [conditions, conditions]
  by_cases hs : settings.maxStatements < tally.statements + ss.length
  · rw [if_pos hs, if_pos hs]
    rfl
  · rw [if_neg hs, if_neg hs]
    exact bind_eq_map_bind (conditionsFrom_eq_map_anchored now other place 0 ss) fun cs ↦ rfl

private theorem nodes_eq_map_anchored {gs : List Group}
    (h : ∀ g ∈ gs, ∀ path depth tally, node settings other .and path depth tally g =
      (node settings now .and path depth tally g).map
        (Prod.map (Node.map (Condition.anchored other)) id))
    (path : GroupPath) (step : Nat → Step) (index depth : Nat) (tally : Tally) :
    nodes settings other path step index depth tally gs =
      (nodes settings now path step index depth tally gs).map
        (Prod.map (Node.mapAll (Condition.anchored other)) id) := by
  induction gs generalizing index tally with
  | nil => rw [nodes, nodes]; rfl
  | cons g gs ih =>
    obtain ⟨hg, hgs⟩ := List.forall_mem_cons.mp h
    rw [nodes, nodes]
    refine bind_eq_map_bind (hg _ depth tally) ?_
    rintro ⟨n, between⟩
    exact bind_eq_map_bind (ih hgs (index + 1) between) fun _ ↦ rfl

/-- A group compiled at another time has the same node with its windows moved to that time. The
walk meets its bounds and its faults in the same order, as what is carried along is the same. -/
theorem node_eq_map_anchored (g : Group) (combination : Combination) (path : GroupPath)
    (depth : Nat) (tally : Tally) :
    node settings other combination path depth tally g =
      (node settings now combination path depth tally g).map
        (Prod.map (Node.map (Condition.anchored other)) id) := by
  induction g generalizing combination path depth tally with
  | mk statements and or hand hor =>
    have hand := nodes_eq_map_anchored settings now other fun g hg ↦ hand g hg .and
    have hor := nodes_eq_map_anchored settings now other fun g hg ↦ hor g hg .and
    rw [node, node]
    by_cases hd : settings.maxDepth < depth
    · rw [if_pos hd, if_pos hd]
      rfl
    by_cases hg : settings.maxGroups < tally.groups + 1
    · rw [if_neg hd, if_neg hd, if_pos hg, if_pos hg]
      rfl
    rw [if_neg hd, if_neg hd, if_neg hg, if_neg hg]
    refine bind_eq_map_bind (conditions_eq_map_anchored settings now other _ _ _) ?_
    rintro ⟨cs, afterOwn⟩
    refine bind_eq_map_bind (hand path Step.and 0 (depth + 1) afterOwn) ?_
    rintro ⟨ands, afterAnd⟩
    exact bind_eq_map_bind (hor path Step.or 0 (depth + 1) afterAnd) fun _ ↦ rfl

/-- The root is put together alike at all times. -/
theorem root_map (f : Condition → Condition) (combination : Combination) (flat : List Condition)
    (tree : Option Node) :
    root combination (flat.map f) (tree.map (Node.map f)) = (root combination flat tree).map f := by
  cases tree with
  | none => rfl
  | some n =>
    cases flat with
    | nil => rfl
    | cons c more => rfl

end Compile

/-- A plan put together from conditions and a node is moved by moving them. -/
theorem Plan.anchored_mk_root (now : Instant) (combination : Combination) (flat : List Condition)
    (tree : Option Node) (sort : SortOptions) (limit : Limit) :
    (⟨Compile.root combination flat tree, sort, limit⟩ : Plan).anchored now =
      ⟨Compile.root combination (flat.map (Condition.anchored now))
        (tree.map (Node.map (Condition.anchored now))), sort, limit⟩ := by
  rw [anchored, ← Compile.root_map]

namespace Filter

variable {f : Filter} {settings : Settings}

/-- A filter compiled at another time has the same plan with its windows moved to that time, or the
same fault. -/
theorem compile_eq_map_anchored (f : Filter) (settings : Settings) (now other : Instant) :
    f.compile settings other = (f.compile settings now).map (Plan.anchored other) := by
  rw [compile, compile]
  refine bind_eq_map_bind (Compile.conditions_eq_map_anchored settings now other _ _ _) ?_
  rintro ⟨flat, tally⟩
  cases f.group with
  | none => exact congrArg Except.ok (Plan.anchored_mk_root other _ flat none _ _).symm
  | some g =>
    dsimp only [Prod.map, id]
    rw [Compile.node_eq_map_anchored settings now other]
    cases Compile.node settings now .and [] 1 tally g with
    | error error => rfl
    | ok found =>
      exact congrArg Except.ok (Plan.anchored_mk_root other _ flat (some found.1) _ _).symm

/-- A filter that has a plan has one at every time. -/
theorem exists_plan_at {now : Instant} {plan : Plan} (h : f.compile settings now = .ok plan)
    (other : Instant) : ∃ plan, f.compile settings other = .ok plan := by
  rw [f.compile_eq_map_anchored settings now other, h]
  exact ⟨plan.anchored other, rfl⟩

/-- A filter without statements on windows has the same plan at all times, or the same fault. -/
theorem compile_eq_of_windowless
    (h : ∀ s ∈ f.allStatements, s.comparison ≠ .isInLast ∧ s.comparison ≠ .isNotInLast)
    (now other : Instant) : f.compile settings other = f.compile settings now := by
  rw [f.compile_eq_map_anchored settings now other]
  cases hp : f.compile settings now with
  | error error => rfl
  | ok plan =>
    have hsame : ∀ c ∈ plan.root.allConditions, c.anchored other = c := by
      intro c hc
      obtain ⟨s, hs, hm⟩ := Compile.exists_isMirrored hp hc
      obtain ⟨hi, hn⟩ := h s hs
      exact hm.anchored_eq_self hi hn other
    rw [Except.map, Plan.anchored, Node.map_eq_self hsame]

end Filter

end SeriesFilter
