import SeriesFilter.Proofs.Compile.Bounds
import SeriesFilter.Proofs.Filter.Location
import SeriesFilter.Proofs.Filter.Places

/-!
# What is reported of a filter without a plan

A filter is walked through in the order in which it is written, and the walk ends at the first
fault. So a report on a statement is true of the statement at its place, everything before that
place is valid, and the text of the place stands for no other statement. A report on a bound gives
the bound of the settings and a greater number that the whole filter reaches.
-/

namespace SeriesFilter

open Calendar

namespace CompileError

/-- Whether an error says what is wrong with a statement at a place: either its field does not allow
the operator, or it does and the literal cannot be read. -/
inductive Explains (now : Instant) (place : Location) (s : Statement) : CompileError → Prop
  | illegal (h : s.field.allows s.comparison = false) :
    Explains now place s (.illegal s.field s.comparison place)
  | unreadable {reason : LiteralError} (h : s.field.allows s.comparison = true)
    (hr : Operand.ofLiteral s.field s.comparison now s.value = .error reason) :
    Explains now place s (.unreadable s.field s.comparison s.value reason place)

/-- Whether an error explains a statement below the group that stands at a path, and all statements
of the group that are written before that one are valid. -/
def IsFirstBelow (now : Instant) (around : GroupPath) (g : Group) (e : CompileError) : Prop :=
  ∃ path i s, g.statementAt? path i = some s ∧ e.Explains now (.inGroup (around ++ path) i) s ∧
    ∀ other j t, g.statementAt? other j = some t →
      (other.before true path ∨ other = path ∧ j < i) → t.IsValid now

/-- A fault that is the first one below a child is the first one below the group when the group's
own statements and those below the children before it are valid. -/
theorem IsFirstBelow.of_child {now : Instant} {around : GroupPath} {step : Step} {g child : Group}
    {e : CompileError} (h : e.IsFirstBelow now (around ++ [step]) child)
    (hc : g.child? step = some child) (ho : ∀ s ∈ g.statements, s.IsValid now)
    (hb : ∀ other c, other.before step → g.child? other = some c →
      ∀ s ∈ c.allStatements, s.IsValid now) : e.IsFirstBelow now around g := by
  obtain ⟨path, i, s, hs, he, hv⟩ := h
  refine ⟨step :: path, i, s, ?_, ?_, ?_⟩
  · rw [Group.statementAt?_cons, hc, Option.bind_some, hs]
  · rwa [List.append_assoc] at he
  · intro other j t ht hw
    cases other with
    | nil => exact ho t (List.mem_of_getElem? ht)
    | cons next other =>
      rw [Group.statementAt?_cons] at ht
      obtain ⟨c, hn, ht⟩ := Option.bind_eq_some_iff.mp ht
      obtain (hw | ⟨rfl, hw⟩) | ⟨hw, hj⟩ := hw
      · exact hb next c hw hn t (Group.mem_allStatements_of_statementAt? ht)
      · cases hc.symm.trans hn
        exact hv other j t ht (.inl hw)
      · cases hw
        cases hc.symm.trans hn
        exact hv path j t ht (.inr ⟨rfl, hj⟩)

end CompileError

/-- What the settings allow. -/
def Bound.limit (settings : Settings) : Bound → Nat
  | .depth => settings.maxDepth
  | .statements => settings.maxStatements
  | .groups => settings.maxGroups

/-- What counts for a bound at some depth and after what has been walked through. -/
def Bound.reached (depth : Nat) (t : Compile.Tally) : Bound → Nat
  | .depth => depth
  | .statements => t.statements
  | .groups => t.groups

/-- Whether an error reports a bound of the settings together with a greater number that is reached
at some depth and after what has been walked through. -/
def CompileError.Exceeds (settings : Settings) (depth : Nat) (t : Compile.Tally)
    (e : CompileError) : Prop :=
  ∃ bound actual, e = .exceeded bound (bound.limit settings) actual ∧
    bound.limit settings < actual ∧ actual ≤ bound.reached depth t

namespace Compile

variable {settings : Settings} {now : Instant} {e : CompileError}

/-! ### Bounds that are exceeded -/

/-- What exceeds a bound does so at a greater depth and after more has been walked through. -/
theorem exceeds_mono {depth deeper : Nat} {t after : Tally} (h : e.Exceeds settings depth t)
    (hd : depth ≤ deeper) (hs : t.statements ≤ after.statements) (hg : t.groups ≤ after.groups) :
    e.Exceeds settings deeper after := by
  obtain ⟨bound, actual, he, hl, hr⟩ := h
  refine ⟨bound, actual, he, hl, Nat.le_trans hr ?_⟩
  cases bound with
  | depth => exact hd
  | statements => exact hs
  | groups => exact hg

/-- A child and the children before it are part of all children. -/
theorem exceeds_of_child {gs : List Group} {i depth : Nat} {t : Tally} {child : Group}
    (hc : gs[i]? = some child)
    (h : e.Exceeds settings (depth + child.depth) ((t.withGroups (gs.take i)).withGroup child)) :
    e.Exceeds settings (depth + Group.maxDepth gs) (t.withGroups gs) := by
  induction gs generalizing i t with
  | nil => cases hc
  | cons g gs ih =>
    rw [Group.maxDepth, Tally.withGroups_cons]
    cases i with
    | zero =>
      cases hc
      refine exceeds_mono h (by omega) ?_ ?_
      · exact Nat.le_add_right _ _
      · exact Nat.le_add_right _ _
    | succ i =>
      rw [List.take_succ_cons, Tally.withGroups_cons] at h
      exact exceeds_mono (ih hc h) (by omega) (Nat.le_refl _) (Nat.le_refl _)

/-! ### Where a walk ends -/

/-- A statement has no condition for the reason that is reported. -/
theorem explains_of_condition {place : Location} {s : Statement}
    (h : condition now place s = .error e) : e.Explains now place s := by
  rw [condition] at h
  split at h
  · next ha =>
    split at h
    · cases h
    · next reason hr =>
      cases h
      exact .unreadable ha hr
  · next ha =>
    cases h
    exact .illegal (Bool.eq_false_iff.mpr ha)

/-- A list of statements is left at the first one that has no condition. -/
theorem conditionsFrom_eq_error {place : Nat → Location} {index : Nat} {ss : List Statement}
    (h : conditionsFrom now place index ss = .error e) :
    ∃ i s, ss[i]? = some s ∧ e.Explains now (place (index + i)) s ∧
      ∀ j < i, ∀ t, ss[j]? = some t → t.IsValid now := by
  induction ss generalizing index with
  | nil => cases h
  | cons s rest ih =>
    rw [conditionsFrom] at h
    obtain hc | ⟨c, hc, h⟩ := bind_eq_error_iff.mp h
    · exact ⟨0, s, rfl, explains_of_condition hc, fun j hj ↦ absurd hj (Nat.not_lt_zero j)⟩
    obtain hr | ⟨cs, -, h⟩ := bind_eq_error_iff.mp h
    · obtain ⟨i, t, ht, he, hb⟩ := ih hr
      refine ⟨i + 1, t, ht, by rwa [Nat.add_right_comm] at he, ?_⟩
      rintro (_ | j) hj u hu
      · cases hu
        exact Statement.exists_condition?_iff.mp ⟨c, condition_eq_ok_iff.mp hc⟩
      · exact hb j (Nat.lt_of_succ_lt_succ hj) u hu
    · cases h

/-- A list of statements is too long with what was walked through before, or is left at the first
one that has no condition. -/
theorem conditions_eq_error {place : Nat → Location} {ss : List Statement} {tally : Tally}
    (h : conditions settings now place ss tally = .error e) :
    (e = .exceeded .statements settings.maxStatements (tally.statements + ss.length) ∧
      settings.maxStatements < tally.statements + ss.length) ∨
    ∃ i s, ss[i]? = some s ∧ e.Explains now (place i) s ∧
      ∀ j < i, ∀ t, ss[j]? = some t → t.IsValid now := by
  rw [conditions] at h
  split at h
  · next hl =>
    cases h
    exact .inl ⟨rfl, hl⟩
  · obtain h | ⟨cs, -, h⟩ := bind_eq_error_iff.mp h
    · obtain ⟨i, s, hs, he, hv⟩ := conditionsFrom_eq_error h
      rw [Nat.zero_add] at he
      exact .inr ⟨i, s, hs, he, hv⟩
    · cases h

/-- Children are left at the first one that has no node, after those before it. -/
theorem nodes_eq_error {path : GroupPath} {step : Nat → Step} {index depth : Nat} {tally : Tally}
    {gs : List Group} (h : nodes settings now path step index (depth + 1) tally gs = .error e) :
    ∃ i child, gs[i]? = some child ∧
      node settings now .and (path ++ [step (index + i)]) (depth + 1)
        (tally.withGroups (gs.take i)) child = .error e ∧
      ∀ j < i, ∀ c, gs[j]? = some c → ∀ s ∈ c.allStatements, s.IsValid now := by
  induction gs generalizing index tally with
  | nil => cases h
  | cons g gs ih =>
    rw [nodes] at h
    obtain hn | ⟨⟨n, after⟩, hn, h⟩ := bind_eq_error_iff.mp h
    · exact ⟨0, g, rfl, hn, fun j hj ↦ absurd hj (Nat.not_lt_zero j)⟩
    obtain hr | ⟨ns, -, h⟩ := bind_eq_error_iff.mp h
    · obtain ⟨hg, rfl, -⟩ := (node_eq_ok_iff g).mp hn
      obtain ⟨i, child, hc, he, hb⟩ := ih hr
      refine ⟨i + 1, child, hc, ?_, ?_⟩
      · rwa [Nat.add_right_comm, ← Tally.withGroups_cons, ← List.take_succ_cons] at he
      · rintro (_ | j) hj c hm s hs
        · cases hm
          exact Statement.exists_condition?_iff.mp (g.conditions_of_node? hg s hs)
        · exact hb j (Nat.lt_of_succ_lt_succ hj) c hm s hs
    · cases h

/-- Children that have nodes have been walked through, and all statements below them are valid. -/
theorem valid_of_nodes {path : GroupPath} {step : Nat → Step} {index depth : Nat}
    {tally after : Tally} {gs : List Group} {ns : List Node}
    (h : nodes settings now path step index (depth + 1) tally gs = .ok (ns, after)) :
    after = tally.withGroups gs ∧ ∀ g ∈ gs, ∀ s ∈ g.allStatements, s.IsValid now := by
  induction gs generalizing index tally ns with
  | nil =>
    cases h
    exact ⟨rfl, nofun⟩
  | cons g gs ih =>
    rw [nodes] at h
    obtain ⟨⟨n, between⟩, hn, h⟩ := bind_eq_ok_iff.mp h
    obtain ⟨⟨more, last⟩, hm, h⟩ := bind_eq_ok_iff.mp h
    cases h
    obtain ⟨hg, rfl, -⟩ := (node_eq_ok_iff g).mp hn
    obtain ⟨rfl, hv⟩ := ih hm
    refine ⟨(Tally.withGroups_cons tally g gs).symm, List.forall_mem_cons.mpr ⟨?_, hv⟩⟩
    exact fun s hs ↦ Statement.exists_condition?_iff.mp (g.conditions_of_node? hg s hs)

/-- A group is left because a bound is exceeded at the group itself, at the first of its own
statements that has no condition, or among its children: all its own statements are valid then, and
those below its `and` children too when an `or` child has no node. -/
theorem node_eq_error {combination : Combination} {path : GroupPath} {depth : Nat} {tally : Tally}
    {statements : List Statement} {and or : List Group} {own : Tally}
    (hown : own = ⟨tally.statements + statements.length, tally.groups + 1⟩)
    (h : node settings now combination path (depth + 1) tally ⟨statements, and, or⟩ = .error e) :
    e.Exceeds settings (depth + 1) own ∨
    (∃ i s, statements[i]? = some s ∧ e.Explains now (.inGroup path i) s ∧
      ∀ j < i, ∀ t, statements[j]? = some t → t.IsValid now) ∨
    (∀ s ∈ statements, s.IsValid now) ∧
      (nodes settings now path Step.and 0 (depth + 2) own and = .error e ∨
      (∀ g ∈ and, ∀ s ∈ g.allStatements, s.IsValid now) ∧
        nodes settings now path Step.or 0 (depth + 2) (own.withGroups and) or = .error e) := by
  subst hown
  rw [node] at h
  split at h
  · next hl =>
    cases h
    exact .inl ⟨.depth, depth + 1, rfl, hl, Nat.le_refl _⟩
  split at h
  · next hl =>
    cases h
    exact .inl ⟨.groups, tally.groups + 1, rfl, hl, Nat.le_refl _⟩
  obtain h | ⟨⟨cs, after⟩, hc, h⟩ := bind_eq_error_iff.mp h
  · obtain ⟨rfl, hl⟩ | hs := conditions_eq_error h
    · exact .inl ⟨.statements, _, rfl, hl, Nat.le_refl _⟩
    · exact .inr (.inl hs)
  obtain ⟨-, hm, rfl⟩ := conditions_eq_ok_iff.mp hc
  have hv : ∀ s ∈ statements, s.IsValid now := fun s hs ↦
    Statement.exists_condition?_iff.mp (Statement.exists_mapM_condition?_iff.mp ⟨cs, hm⟩ s hs)
  refine .inr (.inr ⟨hv, ?_⟩)
  obtain ha | ⟨⟨as, after⟩, ha, h⟩ := bind_eq_error_iff.mp h
  · exact .inl ha
  obtain ⟨rfl, hva⟩ := valid_of_nodes ha
  obtain ho | ⟨⟨os, after⟩, -, h⟩ := bind_eq_error_iff.mp h
  · exact .inr ⟨hva, ho⟩
  · cases h

/-! ### What is reported is true -/

/-- What is reported of a group exceeds a bound that the whole group exceeds, or is the first fault
below the group. -/
theorem exceeds_or_isFirstBelow_of_node (g : Group) {combination : Combination} {path : GroupPath}
    {depth : Nat} {tally : Tally}
    (h : node settings now combination path (depth + 1) tally g = .error e) :
    e.Exceeds settings (depth + g.depth) (tally.withGroup g) ∨ e.IsFirstBelow now path g := by
  induction g generalizing combination path depth tally with
  | mk statements and or hand hor =>
    rw [Group.depth, Tally.withGroup_mk]
    obtain hx | ⟨i, s, hs, he, hv⟩ | ⟨hv, hn | ⟨hva, hn⟩⟩ := node_eq_error rfl h
    · refine .inl (exceeds_mono hx (by omega) ?_ ?_)
      · exact Nat.le_trans (Nat.le_add_right _ _) (Nat.le_add_right _ _)
      · exact Nat.le_trans (Nat.le_add_right _ _) (Nat.le_add_right _ _)
    · refine .inr ⟨[], i, s, hs, by rwa [List.append_nil], ?_⟩
      rintro other j t ht (hw | ⟨rfl, hj⟩)
      · cases other <;> cases hw
      · exact hv j hj t ht
    · obtain ⟨i, child, hc, hn, hb⟩ := nodes_eq_error hn
      rw [Nat.zero_add] at hn
      obtain hx | hf := hand child (List.mem_of_getElem? hc) hn
      · refine .inl (exceeds_mono (exceeds_of_child hc hx) (by omega) ?_ ?_)
        · exact Nat.le_add_right _ _
        · exact Nat.le_add_right _ _
      · refine .inr (hf.of_child hc hv ?_)
        rintro (j | j) c hj hm
        · exact hb j hj c hm
        · cases hj
    · obtain ⟨i, child, hc, hn, hb⟩ := nodes_eq_error hn
      rw [Nat.zero_add] at hn
      obtain hx | hf := hor child (List.mem_of_getElem? hc) hn
      · have hx := exceeds_of_child hc hx
        exact .inl (exceeds_mono hx (by omega) (Nat.le_refl _) (Nat.le_refl _))
      · refine .inr (hf.of_child hc hv ?_)
        rintro (j | j) c hj hm
        · exact hva c (List.mem_of_getElem? hm)
        · exact hb j hj c hm

end Compile

/-- What a filter reaches of what is bounded. Without a tree it has neither depth nor groups. -/
def Filter.measure (f : Filter) : Bound → Nat
  | .depth => (f.group.map Group.depth).getD 0
  | .statements => f.statements.length + (f.group.map Group.statementCount).getD 0
  | .groups => (f.group.map Group.groupCount).getD 0

/-- A filter that has no plan is refused for a reason that holds. Either a statement is reported
that stands at the reported place, with its field, its operator and its literal, and is at fault as
reported; all statements that are written before it are valid, and no other statement has the text
of its place. Or a bound of the settings is reported with a greater number, which the filter
reaches. -/
theorem compile_eq_error {settings : Settings} {now : Instant} {f : Filter} {e : CompileError}
    (h : f.compile settings now = .error e) :
    (∃ place s, f.statementAt? place = some s ∧ e.Explains now place s ∧
      (∀ other t, f.statementAt? other = some t → other.before place → t.IsValid now) ∧
      ∀ other t, f.statementAt? other = some t → other.text = place.text → other = place) ∨
    ∃ bound actual, e = .exceeded bound (bound.limit settings) actual ∧
      bound.limit settings < actual ∧ actual ≤ f.measure bound := by
  have hplace (place : Location) (s : Statement) (hs : f.statementAt? place = some s)
      (he : e.Explains now place s)
      (hb : ∀ other t, f.statementAt? other = some t → other.before place → t.IsValid now) :
      ∃ place s, f.statementAt? place = some s ∧ e.Explains now place s ∧
        (∀ other t, f.statementAt? other = some t → other.before place → t.IsValid now) ∧
        ∀ other t, f.statementAt? other = some t → other.text = place.text → other = place :=
    ⟨place, s, hs, he, hb, fun _ _ _ ht ↦ Location.text_injective ht⟩
  rw [Filter.compile] at h
  obtain h | ⟨⟨flat, tally⟩, hc, h⟩ := bind_eq_error_iff.mp h
  · obtain ⟨rfl, hl⟩ | ⟨i, s, hs, he, hv⟩ := Compile.conditions_eq_error h
    · refine .inr ⟨.statements, _, rfl, hl, ?_⟩
      rw [Nat.zero_add]
      exact Nat.le_add_right _ _
    · refine .inl (hplace (.flat i) s hs he ?_)
      rintro (j | ⟨path, j⟩) t ht hj
      · exact hv j hj t ht
      · cases hj
  obtain ⟨-, hm, rfl⟩ := Compile.conditions_eq_ok_iff.mp hc
  have hv : ∀ s ∈ f.statements, s.IsValid now := fun s hs ↦
    Statement.exists_condition?_iff.mp (Statement.exists_mapM_condition?_iff.mp ⟨flat, hm⟩ s hs)
  dsimp only at h
  cases hg : f.group with
  | none =>
    rw [hg] at h
    cases h
  | some g =>
    rw [hg] at h
    have hf (path : GroupPath) (i : Nat) :
        f.statementAt? (.inGroup path i) = g.statementAt? path i := by
      rw [Filter.statementAt?, hg, Option.bind_some]
    obtain h | ⟨tree, -, h⟩ := bind_eq_error_iff.mp h
    · obtain ⟨bound, actual, he, hl, hr⟩ | ⟨path, i, s, hs, he, hb⟩ :=
        Compile.exceeds_or_isFirstBelow_of_node g (map_eq_error_iff.mp h)
      · refine .inr ⟨bound, actual, he, hl, Nat.le_trans hr ?_⟩
        cases bound <;> simp [Bound.reached, Filter.measure, hg, Compile.Tally.withGroup]
      · refine .inl (hplace (.inGroup path i) s ((hf path i).trans hs) he ?_)
        rintro (j | ⟨other, j⟩) t ht hw
        · exact hv t (List.mem_of_getElem? ht)
        · exact hb other j t ((hf other j).symm.trans ht) hw
    · cases h

/-- A title under an operator for dates, in an `or` child, is reported with its place, and all
statements before it are valid, those of the root and of the `and` child among them. -/
theorem compile_eq_error_nested :
    let name : Statement := ⟨.seriesName, .equal, "Horror"⟩
    let f : Filter := {
      statements := [name]
      group := some
        ⟨[name], [⟨[name], [], []⟩], [⟨[name, ⟨.seriesName, .isInLast, "7"⟩], [], []⟩]⟩ }
    let place : Location := .inGroup [.or 0] 1
    f.compile {} ⟨0, 0⟩ = .error (.illegal .seriesName .isInLast place) ∧
      place.text = "group.or[0].statements[1]" ∧
      f.statementAt? place = some ⟨.seriesName, .isInLast, "7"⟩ ∧
      (∀ other t, f.statementAt? other = some t → other.before place → t.IsValid ⟨0, 0⟩) ∧
      ∀ other t, f.statementAt? other = some t → other.text = place.text → other = place := by
  intro name f place
  have h : f.compile {} ⟨0, 0⟩ = .error (.illegal .seriesName .isInLast place) := rfl
  obtain ⟨found, ⟨field, comparison, value⟩, hs, he, hb, ht⟩ | ⟨bound, actual, he, -⟩ :=
    compile_eq_error h
  · cases he
    exact ⟨h, by decide, rfl, hb, ht⟩
  · cases he

end SeriesFilter
