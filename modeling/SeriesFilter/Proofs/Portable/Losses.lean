import SeriesFilter.Portable.Resolve
import SeriesFilter.Proofs.Catalog.Numbers
import SeriesFilter.Proofs.Portable.Tree

/-!
# What decoding loses

A statement is known when both its numbers stand for something, and a group is lost when statements
stand below it and none of them is known. Decoding keeps the known statements and drops the others;
it removes the lost groups and keeps what survives of the others.
-/

namespace SeriesFilter.Portable

/-! ### Known statements -/

namespace Statement

/-- Whether both numbers of a statement stand for something. -/
def isKnown (s : Statement) : Bool :=
  (Field.ofId? s.field).isSome && (Comparison.ofId? s.comparison).isSome

/-- Why a statement that is not known is dropped: its field comes first. -/
def unknownReason (s : Statement) : DropReason :=
  if Field.ofId? s.field = none then .unknownField else .unknownComparison

/-- The report of a statement that is dropped from a place. -/
def droppedFrom (s : Statement) (place : Location) : Dropped :=
  ⟨place, s.field, s.comparison, s.value, s.unknownReason⟩

/-- A known statement is kept with its numbers and its literal. -/
theorem resolve_of_isKnown {s : Statement} (h : s.isKnown = true) :
    ∃ kept, s.resolve = .ok kept ∧ ofStatement kept = s := by
  obtain ⟨hf, hc⟩ := Bool.and_eq_true_iff.mp h
  obtain ⟨field, hf⟩ := Option.isSome_iff_exists.mp hf
  obtain ⟨comparison, hc⟩ := Option.isSome_iff_exists.mp hc
  refine ⟨⟨field, comparison, s.value⟩, ?_, ?_⟩
  · rw [resolve, Field.int32?_bind_ofId?, Comparison.int32?_bind_ofId?, hf, hc]
  · rw [ofStatement, Field.ofId?_eq_some_iff.mp hf, Comparison.ofId?_eq_some_iff.mp hc]

/-- An unknown statement is dropped for its reason. -/
theorem resolve_of_not_isKnown {s : Statement} (h : s.isKnown = false) :
    s.resolve = .error s.unknownReason := by
  rw [resolve, unknownReason, Field.int32?_bind_ofId?, Comparison.int32?_bind_ofId?]
  cases hf : Field.ofId? s.field with
  | none => rfl
  | some field =>
    cases hc : Comparison.ofId? s.comparison with
    | none => rfl
    | some comparison =>
      rw [isKnown, hf, hc] at h
      cases h

/-- A statement is dropped exactly when it is unknown, for its reason. -/
theorem resolve_eq_error_iff {s : Statement} {reason : DropReason} :
    s.resolve = .error reason ↔ s.isKnown = false ∧ s.unknownReason = reason := by
  cases hk : s.isKnown with
  | true =>
    obtain ⟨kept, hr, -⟩ := resolve_of_isKnown hk
    rw [hr]
    constructor
    · rintro ⟨⟩
    · rintro ⟨⟨⟩, -⟩
  | false =>
    rw [resolve_of_not_isKnown hk, Except.error.injEq]
    exact (and_iff_right rfl).symm

end Statement

/-- The statement that a report is about. -/
def Dropped.statement (x : Dropped) : Statement :=
  ⟨x.fieldId, x.comparisonId, x.value⟩

/-! ### Lists of statements -/

section Statements

variable (place : Nat → Location) (index : Nat)

/-- A known statement is put before what is kept of the statements after it. -/
theorem resolveStatements_cons_known {s : Statement} (h : s.isKnown = true) (ss : List Statement) :
    ∃ kept, Statement.ofStatement kept = s ∧
      resolveStatements place index (s :: ss) =
        (kept :: (resolveStatements place (index + 1) ss).1,
          (resolveStatements place (index + 1) ss).2) := by
  obtain ⟨kept, hr, he⟩ := Statement.resolve_of_isKnown h
  exact ⟨kept, he, by rw [resolveStatements, hr]⟩

/-- The report of an unknown statement is put before those of the statements after it. -/
theorem resolveStatements_cons_unknown {s : Statement} (h : s.isKnown = false)
    (ss : List Statement) :
    resolveStatements place index (s :: ss) =
      ((resolveStatements place (index + 1) ss).1,
        s.droppedFrom (place index) :: (resolveStatements place (index + 1) ss).2) := by
  rw [resolveStatements, Statement.resolve_of_not_isKnown h]
  rfl

variable (ss : List Statement)

/-- The statements that are kept are the known ones. -/
theorem map_kept_resolveStatements :
    (resolveStatements place index ss).1.map Statement.ofStatement =
      ss.filter Statement.isKnown := by
  induction ss generalizing index with
  | nil => rfl
  | cons s rest ih =>
    cases hk : s.isKnown with
    | true =>
      obtain ⟨kept, he, hr⟩ := resolveStatements_cons_known place index hk rest
      rw [hr, List.map_cons, he, ih, List.filter_cons_of_pos hk]
    | false =>
      rw [resolveStatements_cons_unknown place index hk, ih,
        List.filter_cons_of_neg (by simp [hk])]

/-- The reports carry the numbers and the literals of the other statements. -/
theorem map_statement_dropped_resolveStatements :
    (resolveStatements place index ss).2.map Dropped.statement =
      ss.filter fun s ↦ !s.isKnown := by
  induction ss generalizing index with
  | nil => rfl
  | cons s rest ih =>
    cases hk : s.isKnown with
    | true =>
      obtain ⟨kept, -, hr⟩ := resolveStatements_cons_known place index hk rest
      rw [hr, ih, List.filter_cons_of_neg (by simp [hk])]
    | false =>
      rw [resolveStatements_cons_unknown place index hk, List.map_cons, ih,
        List.filter_cons_of_pos (by simp [hk])]
      rfl

/-- Every report is about one of the other statements, and says where it stands. -/
theorem mem_dropped_resolveStatements {x : Dropped} :
    x ∈ (resolveStatements place index ss).2 ↔ ∃ (i : Nat) (s : Statement), ss[i]? = some s ∧
      s.isKnown = false ∧ x = s.droppedFrom (place (index + i)) := by
  induction ss generalizing index with
  | nil =>
    constructor
    · nofun
    · rintro ⟨i, s, hs, -⟩
      cases i <;> cases hs
  | cons s rest ih =>
    have hi : x ∈ (resolveStatements place (index + 1) rest).2 ↔ ∃ (i : Nat) (t : Statement),
        (s :: rest)[i + 1]? = some t ∧ t.isKnown = false ∧
          x = t.droppedFrom (place (index + (i + 1))) := by
      rw [ih]
      simp only [List.getElem?_cons_succ, Nat.add_assoc, Nat.add_comm 1]
    cases hk : s.isKnown with
    | true =>
      obtain ⟨kept, -, hr⟩ := resolveStatements_cons_known place index hk rest
      rw [hr, hi]
      constructor
      · rintro ⟨i, t, h⟩
        exact ⟨i + 1, t, h⟩
      · rintro ⟨_ | i, t, ht, hu, he⟩
        · cases ht
          rw [hk] at hu
          cases hu
        · exact ⟨i, t, ht, hu, he⟩
    | false =>
      rw [resolveStatements_cons_unknown place index hk, List.mem_cons, hi]
      constructor
      · rintro (rfl | ⟨i, t, h⟩)
        · exact ⟨0, s, rfl, hk, rfl⟩
        · exact ⟨i + 1, t, h⟩
      · rintro ⟨_ | i, t, ht, hu, he⟩
        · cases ht
          exact .inl he
        · exact .inr ⟨i, t, ht, hu, he⟩

/-- The reports stand in the order of the places. -/
theorem pairwise_dropped_resolveStatements :
    (resolveStatements place index ss).2.Pairwise fun x y ↦
      ∃ i j, i < j ∧ x.location = place i ∧ y.location = place j := by
  induction ss generalizing index with
  | nil => exact .nil
  | cons s rest ih =>
    cases hk : s.isKnown with
    | true =>
      obtain ⟨kept, -, hr⟩ := resolveStatements_cons_known place index hk rest
      rw [hr]
      exact ih (index + 1)
    | false =>
      rw [resolveStatements_cons_unknown place index hk, List.pairwise_cons]
      refine ⟨?_, ih (index + 1)⟩
      intro y hy
      obtain ⟨i, t, -, -, rfl⟩ := (mem_dropped_resolveStatements place (index + 1) rest).mp hy
      exact ⟨index, index + 1 + i, by omega, rfl, rfl⟩

end Statements

/-! ### Groups -/

namespace Group

/-- Whether a stored group is lost: statements stand below it, and none of them is known. -/
def isLost (g : Group) : Bool :=
  !g.allStatements.isEmpty && g.allStatements.all fun s ↦ !s.isKnown

mutual

/-- What stays of a stored group that is not lost. -/
def surviving : Group → Group
  | ⟨statements, and, or⟩ => ⟨statements.filter Statement.isKnown, survivors and, survivors or⟩

/-- What stays of some stored groups, in order. -/
def survivors : List Group → List Group
  | [] => []
  | g :: gs => if isLost g then survivors gs else surviving g :: survivors gs

end

/-- The groups that stay are those that are not lost. -/
theorem survivors_eq_map_filter (gs : List Group) :
    survivors gs = (gs.filter fun g ↦ !g.isLost).map surviving := by
  induction gs with
  | nil => rfl
  | cons g gs ih =>
    rw [survivors]
    cases hl : g.isLost with
    | true => rw [if_pos rfl, ih, List.filter_cons_of_neg (by simp [hl])]
    | false =>
      rw [if_neg Bool.false_ne_true, ih, List.filter_cons_of_pos (by simp [hl]), List.map_cons]

/-- The statements of a group are those of the groups of its walk. -/
theorem allStatements_eq_flatMap_walk (g : Group) :
    g.allStatements = (g.walk true).flatMap fun x ↦ x.2.statements := by
  have hl {gs : List Group} {step : Nat → Step} (index : Nat)
      (h : ∀ g ∈ gs, g.allStatements = (g.walk true).flatMap fun x ↦ x.2.statements) :
      listStatements gs = (walkList true step index gs).flatMap fun x ↦ x.2.statements := by
    induction gs generalizing index with
    | nil => rfl
    | cons g gs ih =>
      rw [listStatements, walkList, List.flatMap_append, List.flatMap_map, h g List.mem_cons_self,
        ih (index + 1) fun c hc ↦ h c (List.mem_cons_of_mem g hc)]
  induction g with
  | mk statements and or hand hor =>
    rw [allStatements, walk, if_pos rfl, List.flatMap_cons, List.flatMap_append, hl 0 hand,
      hl 0 hor, List.append_assoc]

/-- What is gathered from children one by one is gathered from the walk over them. -/
private theorem flatMap_walkList {β : Type} {outerFirst : Bool} (path : GroupPath)
    (step : Nat → Step) (own : GroupPath → Group → List β) {whole : GroupPath → Group → List β}
    (list : Nat → List Group → List β) (hn : ∀ index, list index [] = [])
    (hc : ∀ index g gs,
      list index (g :: gs) = whole (path ++ [step index]) g ++ list (index + 1) gs)
    {gs : List Group} (h : ∀ g ∈ gs, ∀ path, whole path g =
      (g.walk outerFirst).flatMap fun x ↦ own (path ++ x.1) x.2) (index : Nat) :
    list index gs = (walkList outerFirst step index gs).flatMap fun x ↦ own (path ++ x.1) x.2 := by
  induction gs generalizing index with
  | nil => exact hn index
  | cons g gs ih =>
    rw [hc, h g List.mem_cons_self, ih fun c hm ↦ h c (List.mem_cons_of_mem g hm), walkList,
      List.flatMap_append, List.flatMap_map]
    simp only [List.append_assoc, List.singleton_append]

private theorem dropped_mk (path : GroupPath) (statements : List Statement) (and or : List Group) :
    (resolve path ⟨statements, and, or⟩).2.dropped =
      (resolveStatements (.inGroup path) 0 statements).2 ++
        (resolveList path Step.and 0 and).2.dropped ++
        (resolveList path Step.or 0 or).2.dropped := by
  rw [resolve]
  dsimp only
  split
  · exact List.append_nil _
  · rfl

/-- Decoding a group drops from it what it drops from the groups of its walk. -/
theorem dropped_resolve (g : Group) (path : GroupPath) :
    (g.resolve path).2.dropped = (g.walk true).flatMap fun x ↦
      (resolveStatements (.inGroup (path ++ x.1)) 0 x.2.statements).2 := by
  induction g generalizing path with
  | mk statements and or hand hor =>
    have hl {gs : List Group} (step : Nat → Step) (h : ∀ g ∈ gs, ∀ path,
        (resolve path g).2.dropped = (g.walk true).flatMap fun x ↦
          (resolveStatements (.inGroup (path ++ x.1)) 0 x.2.statements).2) :=
      flatMap_walkList path step
        (fun path g ↦ (resolveStatements (.inGroup path) 0 g.statements).2)
        (fun index gs ↦ (resolveList path step index gs).2.dropped)
        (fun _ ↦ rfl) (fun _ _ _ ↦ rfl) h 0
    rw [dropped_mk, hl Step.and hand, hl Step.or hor, walk, if_pos rfl, List.flatMap_cons,
      List.flatMap_append, List.append_nil, List.append_assoc]

/-- The statements dropped from a group are the unknown ones below it. -/
theorem map_statement_dropped_resolve (g : Group) (path : GroupPath) :
    (g.resolve path).2.dropped.map Dropped.statement =
      g.allStatements.filter fun s ↦ !s.isKnown := by
  rw [dropped_resolve, allStatements_eq_flatMap_walk, List.map_flatMap, List.filter_flatMap]
  simp only [map_statement_dropped_resolveStatements]

/-- Whether decoding a stored group keeps just the known statements below it. -/
private def KeepsKnown (g : Group) : Prop :=
  ∀ path, ((g.resolve path).1.toList.flatMap SeriesFilter.Group.allStatements).map
    Statement.ofStatement = g.allStatements.filter Statement.isKnown

private theorem map_kept_resolveList {gs : List Group} (h : ∀ g ∈ gs, g.KeepsKnown)
    (path : GroupPath) (step : Nat → Step) (index : Nat) :
    ((resolveList path step index gs).1.flatMap SeriesFilter.Group.allStatements).map
      Statement.ofStatement = (listStatements gs).filter Statement.isKnown := by
  induction gs generalizing index with
  | nil => rfl
  | cons g gs ih =>
    rw [resolveList]
    dsimp only
    rw [List.flatMap_append, List.map_append, h g List.mem_cons_self,
      ih (fun c hc ↦ h c (List.mem_cons_of_mem g hc)), listStatements, List.filter_append]

/-- The group that decoding makes of the kept parts of a stored group, before it is removed. -/
private def keptGroup (path : GroupPath) : Group → SeriesFilter.Group
  | ⟨statements, and, or⟩ =>
    ⟨(resolveStatements (.inGroup path) 0 statements).1, (resolveList path Step.and 0 and).1,
      (resolveList path Step.or 0 or).1⟩

private theorem map_keptGroup {statements : List Statement} {and or : List Group}
    (hand : ∀ g ∈ and, g.KeepsKnown) (hor : ∀ g ∈ or, g.KeepsKnown) (path : GroupPath) :
    (keptGroup path ⟨statements, and, or⟩).allStatements.map Statement.ofStatement =
      (allStatements ⟨statements, and, or⟩).filter Statement.isKnown := by
  rw [keptGroup, SeriesFilter.Group.allStatements, SeriesFilter.Group.listStatements_eq_flatMap,
    SeriesFilter.Group.listStatements_eq_flatMap, List.map_append, List.map_append,
    map_kept_resolveStatements, map_kept_resolveList hand, map_kept_resolveList hor,
    allStatements, List.filter_append, List.filter_append]

/-- The statements kept below a group are the known ones. -/
theorem map_kept_resolve (g : Group) (path : GroupPath) :
    ((g.resolve path).1.toList.flatMap SeriesFilter.Group.allStatements).map
      Statement.ofStatement = g.allStatements.filter Statement.isKnown := by
  induction g generalizing path with
  | mk statements and or hand hor =>
    rw [← map_keptGroup hand hor path, resolve]
    dsimp only
    split
    · next h =>
      -- The group is removed because no statement is left below it.
      have hc := (Bool.and_eq_true_iff.mp h).2
      rw [SeriesFilter.Group.statementCount_eq_length, beq_iff_eq, List.length_eq_zero_iff] at hc
      rw [keptGroup, hc]
      rfl
    · rw [Option.toList_some, List.flatMap_singleton]
      rfl

private theorem isLost_iff {g : Group} :
    g.isLost = true ↔ g.allStatements.filter (fun s ↦ !s.isKnown) ≠ [] ∧
      g.allStatements.filter Statement.isKnown = [] := by
  rw [isLost]
  generalize g.allStatements = ss
  rw [Bool.and_eq_true, List.all_eq_true, List.filter_eq_nil_iff]
  constructor
  · rintro ⟨hn, hu⟩
    rw [List.filter_eq_self.mpr hu]
    exact ⟨by simpa using hn, fun s hs ↦ by simpa using hu s hs⟩
  · rintro ⟨hn, hk⟩
    refine ⟨?_, fun s hs ↦ by simpa using hk s hs⟩
    cases ss with
    | nil => exact absurd rfl hn
    | cons s rest => rfl

/-- The test for removal, on what was dropped and what is kept, finds the groups that are lost. -/
private theorem removal_eq_isLost (path : GroupPath) (statements : List Statement)
    (and or : List Group) :
    (!(resolve path ⟨statements, and, or⟩).2.dropped.isEmpty &&
      (keptGroup path ⟨statements, and, or⟩).statementCount == 0) =
        isLost ⟨statements, and, or⟩ := by
  have hk : (keptGroup path ⟨statements, and, or⟩).allStatements.map Statement.ofStatement = _ :=
    map_keptGroup (fun g _ ↦ map_kept_resolve g) (fun g _ ↦ map_kept_resolve g) path
  rw [Bool.eq_iff_iff, isLost_iff, ← hk, ← map_statement_dropped_resolve _ path, Bool.and_eq_true,
    SeriesFilter.Group.statementCount_eq_length, beq_iff_eq, List.length_eq_zero_iff]
  simp

/-- Decoding a group gives nothing when the group is lost. -/
private theorem kept_mk (path : GroupPath) (statements : List Statement) (and or : List Group) :
    (resolve path ⟨statements, and, or⟩).1 =
      if isLost ⟨statements, and, or⟩ then none
      else some (keptGroup path ⟨statements, and, or⟩) := by
  rw [← removal_eq_isLost path, dropped_mk, resolve]
  dsimp only
  split
  · next h => exact (if_pos h).symm
  · next h => exact (if_neg h).symm

/-- Decoding a group reports it as removed, after the groups below it, when it is lost. -/
private theorem removed_mk (path : GroupPath) (statements : List Statement) (and or : List Group) :
    (resolve path ⟨statements, and, or⟩).2.removed =
      (resolveList path Step.and 0 and).2.removed ++ (resolveList path Step.or 0 or).2.removed ++
        if isLost ⟨statements, and, or⟩ then [path] else [] := by
  rw [← removal_eq_isLost path, dropped_mk, resolve]
  dsimp only
  split
  · next h =>
    rw [if_pos (by exact h)]
    rfl
  · next h =>
    rw [if_neg (by exact h), List.append_nil]
    rfl

/-- The groups removed by decoding a group are the lost ones of its walk, inner ones first. -/
theorem removed_resolve (g : Group) (path : GroupPath) :
    (g.resolve path).2.removed = (g.walk false).flatMap fun x ↦
      if x.2.isLost then [path ++ x.1] else [] := by
  induction g generalizing path with
  | mk statements and or hand hor =>
    have hl {gs : List Group} (step : Nat → Step) (h : ∀ g ∈ gs, ∀ path,
        (resolve path g).2.removed = (g.walk false).flatMap fun x ↦
          if x.2.isLost then [path ++ x.1] else []) :=
      flatMap_walkList path step (fun path g ↦ if g.isLost then [path] else [])
        (fun index gs ↦ (resolveList path step index gs).2.removed)
        (fun _ ↦ rfl) (fun _ _ _ ↦ rfl) h 0
    rw [removed_mk, hl Step.and hand, hl Step.or hor, walk, if_neg Bool.false_ne_true,
      List.flatMap_append, List.flatMap_append, List.flatMap_singleton, List.append_nil]

/-- What is kept of a group is what survives of it. -/
theorem map_ofGroup_resolve (g : Group) (path : GroupPath) :
    (g.resolve path).1.map ofGroup = if g.isLost then none else some g.surviving := by
  have hl {gs : List Group} {path : GroupPath} {step : Nat → Step} (index : Nat)
      (h : ∀ g ∈ gs, ∀ path, (resolve path g).1.map ofGroup =
        if g.isLost then none else some g.surviving) :
      (resolveList path step index gs).1.map ofGroup = survivors gs := by
    induction gs generalizing index with
    | nil => rfl
    | cons g gs ih =>
      rw [resolveList, survivors]
      dsimp only
      rw [List.map_append, ← Option.toList_map, h g List.mem_cons_self,
        ih (index + 1) fun c hc ↦ h c (List.mem_cons_of_mem g hc)]
      split <;> rfl
  induction g generalizing path with
  | mk statements and or hand hor =>
    rw [kept_mk]
    split
    · rfl
    · rw [Option.map_some, keptGroup, ofGroup, map_kept_resolveStatements, ofGroups_eq_map,
        ofGroups_eq_map, hl 0 hand, hl 0 hor, surviving]

private theorem exists_child {gs : List Group} {kept : List SeriesFilter.Group}
    (hk : ofGroups kept = survivors gs) {i : Nat} {child : Group} (hc : gs[i]? = some child)
    (hl : child.isLost = false) :
    ∃ (j : Nat) (stays : SeriesFilter.Group), kept[j]? = some stays ∧
      ofGroup stays = child.surviving := by
  have hm : child.surviving ∈ kept.map ofGroup := by
    rw [← ofGroups_eq_map, hk, survivors_eq_map_filter]
    exact List.mem_map.mpr
      ⟨child, List.mem_filter.mpr ⟨List.mem_of_getElem? hc, by rw [hl]; rfl⟩, rfl⟩
  obtain ⟨stays, hs, he⟩ := List.mem_map.mp hm
  obtain ⟨j, hj⟩ := List.mem_iff_getElem?.mp hs
  exact ⟨j, stays, hj, he⟩

/-- A group with no lost group between it and the root stays at its depth when the root does. -/
theorem exists_place {g inner : Group} {kept : SeriesFilter.Group} {path : GroupPath}
    (hk : ofGroup kept = g.surviving) (hi : g.at? path = some inner)
    (hl : ∀ n outer, g.at? (path.take (n + 1)) = some outer → outer.isLost = false) :
    ∃ place stays, place.length = path.length ∧ kept.at? place = some stays ∧
      ofGroup stays = inner.surviving := by
  induction path generalizing g kept with
  | nil =>
    cases hi
    exact ⟨[], kept, rfl, rfl, hk⟩
  | cons step path ih =>
    obtain ⟨child, hc, hci⟩ := Option.bind_eq_some_iff.mp hi
    have hstep (n : Nat) : g.at? ((step :: path).take (n + 1)) = child.at? (path.take n) := by
      change (g.child? step).bind _ = _
      rw [hc]
      rfl
    have hcl : child.isLost = false := hl 0 child (by rw [hstep]; rfl)
    have hrest (n : Nat) (outer : Group) (ho : child.at? (path.take (n + 1)) = some outer) :
        outer.isLost = false := hl (n + 1) outer (by rw [hstep, ho])
    obtain ⟨statements, and, or⟩ := g
    obtain ⟨own, keptAnd, keptOr⟩ := kept
    rw [ofGroup, surviving] at hk
    cases step with
    | and i =>
      obtain ⟨j, stays, hj, he⟩ := exists_child (Group.mk.inj hk).2.1 hc hcl
      obtain ⟨place, last, hp, ha, hs⟩ := ih he hci hrest
      refine ⟨.and j :: place, last, congrArg Nat.succ hp, ?_, hs⟩
      rw [SeriesFilter.Group.at?_cons, SeriesFilter.Group.child?, hj, Option.bind_some, ha]
    | or i =>
      obtain ⟨j, stays, hj, he⟩ := exists_child (Group.mk.inj hk).2.2 hc hcl
      obtain ⟨place, last, hp, ha, hs⟩ := ih he hci hrest
      refine ⟨.or j :: place, last, congrArg Nat.succ hp, ?_, hs⟩
      rw [SeriesFilter.Group.at?_cons, SeriesFilter.Group.child?, hj, Option.bind_some, ha]

end Group

end SeriesFilter.Portable
