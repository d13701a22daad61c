import SeriesFilter.Command.Basic
import SeriesFilter.Proofs.Compile.Conditions
import SeriesFilter.Proofs.Portable.Normalization
import SeriesFilter.Proofs.Text.Numerals
import SeriesFilter.Proofs.Text.Parts

/-!
# Checking a filter

The report of a check counts the statements of the filter, and how many of them are about related
records, by the conditions of its plan. It has a line about what decoding lost when statements were
dropped, and a strict check then fails. Groups are removed only when statements are dropped, so
nothing of the filter's statements is lost unseen; but a sort field that nobody knows is ignored
without a word.
-/

namespace SeriesFilter

open Calendar Portable Text

/-! ### Lines of a report -/

/-- A line of a report begins with a word. -/
def HasLine (report word : String) : Prop :=
  ∃ line ∈ splitAtEach '\n' report.toList, word.toList <+: line

/-- The first line is cut off at its end, the others follow. -/
theorem joinLines_cons (line : String) (rest : List String) :
    joinLines (line :: rest) = line ++ ("\n" ++ joinLines rest) := by
  rw [joinLines, List.map_cons, String.join_cons, String.append_assoc]
  rfl

/-- A word begins a line when it begins the first one or one of the others. -/
theorem hasLine_joinLines_cons {line word : String} (rest : List String)
    (hl : '\n' ∉ line.toList) : HasLine (joinLines (line :: rest)) word ↔
      word.toList <+: line.toList ∨ HasLine (joinLines rest) word := by
  have ht : (joinLines (line :: rest)).toList = line.toList ++ '\n' :: (joinLines rest).toList := by
    rw [joinLines_cons, String.toList_append, String.toList_append]
    rfl
  rw [HasLine, ht, splitAtEach_append, splitAtEach_of_notMem hl, List.singleton_append,
    List.exists_mem_cons_iff]
  rfl

/-- No number ends a line. -/
theorem newline_notMem_toDigits (n : Nat) : '\n' ∉ Nat.toDigits 10 n :=
  notMem_toDigits rfl n

/-- The parts of the line about a plan. -/
theorem Plan.line_eq (p : Plan) :
    p.line = "ok: " ++ toString p.root.allConditions.length ++ " conditions (" ++
      toString (p.root.allConditions.countP Condition.needsJoin) ++ " on related records), " ++
      ("sort " ++ p.sort.field.label ++ " " ++ directionLabel p.sort.ascending ++ ", " ++
        p.limit.text) := by
  rw [List.countP_eq_length_filter]
  rfl

/-- The line about a plan is one line. -/
theorem Plan.newline_notMem_line (p : Plan) : '\n' ∉ p.line.toList := by
  have hfield : '\n' ∉ p.sort.field.label.toList := by cases p.sort.field <;> decide
  have hdirection : '\n' ∉ (directionLabel p.sort.ascending).toList := by
    cases p.sort.ascending <;> decide
  have hlimit : '\n' ∉ p.limit.text.toList := by
    cases p.limit with
    | unlimited => decide
    | upTo n =>
      change '\n' ∉ ("limit " ++ toString n).toList
      simp [newline_notMem_toDigits]
  rw [line_eq]
  simp [hfield, hdirection, hlimit, newline_notMem_toDigits]

namespace Portable

/-- The parts of the count of dropped statements. -/
theorem droppedCount_eq (dropped : List Dropped) :
    droppedCount dropped = "partial: " ++ (toString dropped.length ++ " statements dropped") :=
  String.append_assoc

/-- The count of dropped statements is one line. -/
theorem newline_notMem_droppedCount (dropped : List Dropped) :
    '\n' ∉ (droppedCount dropped).toList := by
  rw [droppedCount_eq]
  simp [newline_notMem_toDigits]

end Portable

/-- The report on a plan has a line about what is partial when statements were dropped. -/
theorem Plan.hasLine_report_iff (p : Plan) (dropped : List Dropped) :
    HasLine (p.report dropped) "partial:" ↔ dropped ≠ [] := by
  have hline : ¬ "partial:".toList <+: p.line.toList := by
    rw [line_eq]
    simp
  have hcount : "partial:".toList <+: (droppedCount dropped).toList := by
    have hword : "partial:".toList <+: "partial: ".toList := by decide
    rw [droppedCount_eq, String.toList_append]
    exact hword.trans (List.prefix_append _ _)
  rw [report, hasLine_joinLines_cons _ p.newline_notMem_line, or_iff_right hline]
  cases dropped with
  | nil =>
    refine iff_of_false ?_ (by simp)
    simp [HasLine, joinLines, splitAtEach]
  | cons x rest =>
    rw [if_neg (by simp), hasLine_joinLines_cons _ (newline_notMem_droppedCount _)]
    exact iff_of_true (.inl hcount) (List.cons_ne_nil x rest)

/-! ### What was lost -/

/-- Nothing was lost when there are neither dropped statements nor removed groups. -/
theorem Portable.Losses.eq_none_iff {l : Losses} : l = {} ↔ l.dropped = [] ∧ l.removed = [] := by
  cases l with
  | mk dropped removed => simp

/-- Where something of a decoded filter's tree was lost, statements were dropped. -/
theorem Portable.dropped_ne_nil_iff {max : Nat} {s : String} {d : Decoded}
    (h : decodeUpTo max s = .ok d) : d.losses.dropped ≠ [] ↔ d.losses ≠ {} := by
  refine ⟨fun hd he ↦ hd (Losses.eq_none_iff.mp he).1, fun hl hd ↦ ?_⟩
  have hr : d.losses.removed ≠ [] := fun hr ↦ hl (Losses.eq_none_iff.mpr ⟨hd, hr⟩)
  obtain ⟨-, rfl⟩ | ⟨symbols, payload, -, -, -, hp⟩ := decodeUpTo_cases h
  · exact hl rfl
  · obtain ⟨document, -, ha⟩ := accounted_of_decodePayload hp
    exact ha.dropped_ne_nil hr hd

/-- A decoded filter is partial when something of its tree was lost or its sort field ignored. -/
theorem Portable.Decoded.isPartial_iff (d : Decoded) :
    d.isPartial = true ↔ d.losses ≠ {} ∨ d.ignoredSort ≠ none := by
  rw [isPartial, ne_eq, Losses.eq_none_iff, not_and_or]
  simp [Option.isSome_iff_ne_none]

namespace Command

variable {e : Engine} {now : Instant}

/-- A string that can be decoded is loaded as its filter and the statements dropped from it. -/
theorem load_encoded {s : String} {d : Decoded} (h : e.decode s = .ok d) :
    load e false s = .ok ⟨d.filter, d.losses.dropped⟩ := by
  rw [load, if_neg Bool.false_ne_true, h]
  rfl

/-- A filter that has a plan is reported on, save by a strict check when statements were dropped. -/
theorem check_eq (e : Engine) (given : Loaded) {plan : Plan}
    (h : given.filter.compile e.settings now = .ok plan) (strict : Bool) :
    check e now strict given =
      if strict = true ∧ given.dropped ≠ [] then .error (.incomplete given.dropped)
      else .ok (plan.report given.dropped) := by
  rw [check, Engine.validate, h]
  cases strict <;> cases given.dropped <;> rfl

/-- The conditions of a plan mirror the statements of its filter one by one, in their order. So what
a check counts are all statements of the filter, and those on collections. -/
theorem conditions_mirror_statements {settings : Settings} {f : Filter} {plan : Plan}
    (h : f.compile settings now = .ok plan) :
    List.Forall₂ (Statement.IsMirrored now) f.allStatements plan.root.allConditions ∧
    ∀ (store : Store) (dropped : List Dropped),
      let e : Engine := ⟨store, settings⟩
      let count := f.statements.length + (f.group.map Group.statementCount).getD 0
      let onCollections := f.allStatements.countP fun s ↦ s.field.kind == .collection
      (∃ report, check e now false ⟨f, dropped⟩ = .ok report) ∧
      ∀ strict report, check e now strict ⟨f, dropped⟩ = .ok report → ∃ rest,
        report = "ok: " ++ toString count ++ " conditions (" ++ toString onCollections ++
          " on related records), " ++ rest := by
  have hm := Compile.forall₂_conditions h
  have hcount : plan.root.allConditions.length =
      f.statements.length + (f.group.map Group.statementCount).getD 0 := by
    rw [← hm.length_eq, Filter.allStatements, List.length_append]
    cases f.group with
    | none => rfl
    | some g => rw [Option.map_some, Option.map_some, Option.getD_some, Option.getD_some,
        g.statementCount_eq_length]
  refine ⟨hm, fun store dropped ↦ ?_⟩
  dsimp only
  have hc := check_eq ⟨store, settings⟩ ⟨f, dropped⟩ h
  refine ⟨⟨plan.report dropped, hc false⟩, fun strict report hr ↦ ?_⟩
  rw [hc] at hr
  split at hr
  · cases hr
  · cases hr
    rw [Plan.report, joinLines_cons, Plan.line_eq, hcount, Compile.countP_needsJoin hm,
      String.append_assoc]
    exact ⟨_, rfl⟩

/-- A filter with statements on collections at two places of its tree, beside a flat one. -/
private def mixedFilter : Filter where
  statements := [⟨.seriesName, .equal, "a"⟩]
  combination := .or
  group := some {
    statements := [⟨.genres, .contains, "b, c"⟩]
    or := [{ and := [{ statements := [⟨.tags, .isEmpty, ""⟩] }] }] }

/-- Its conditions stand in the order of its statements, and two of the three count as joined. -/
theorem conditions_mirror_statements_mixed :
    ∃ plan, mixedFilter.compile {} ⟨0, 0⟩ = .ok plan ∧
      List.Forall₂ (Statement.IsMirrored ⟨0, 0⟩) mixedFilter.allStatements
        plan.root.allConditions ∧
      ∃ report rest, check {} ⟨0, 0⟩ false { filter := mixedFilter } = .ok report ∧
        report = "ok: 3 conditions (2 on related records), " ++ rest := by
  have h : mixedFilter.compile {} ⟨0, 0⟩ = .ok _ := rfl
  obtain ⟨hm, hc⟩ := conditions_mirror_statements h
  obtain ⟨⟨report, hr⟩, hb⟩ := hc {} []
  obtain ⟨rest, he⟩ := hb false report hr
  exact ⟨_, rfl, hm, report, rest, hr, he⟩

/-- A strict check of a decoded filter fails exactly when something of its tree was lost, and the
report of any other check has a line that says so. A filter is partial then, or when its sort field
was ignored, of which no check tells. -/
theorem check_tells_of_losses {e : Engine} {now : Instant} {s : String} {d : Decoded} {plan : Plan}
    (hd : e.decode s = .ok d) (hp : d.filter.compile e.settings now = .ok plan) :
    ∃ given report, load e false s = .ok given ∧ check e now false given = .ok report ∧
      ((∃ failure, check e now true given = .error failure) ↔ d.losses ≠ {}) ∧
      (HasLine report "partial:" ↔ d.losses ≠ {}) ∧
      (d.isPartial = true ↔ d.losses ≠ {} ∨ d.ignoredSort ≠ none) := by
  have hl := dropped_ne_nil_iff (mapError_eq_ok_iff.mp hd)
  have hc := check_eq e ⟨d.filter, d.losses.dropped⟩ hp
  refine ⟨_, plan.report d.losses.dropped, load_encoded hd, hc false, ?_, ?_, d.isPartial_iff⟩
  · rw [hc, ← hl]
    by_cases hn : d.losses.dropped = []
    · simp [hn]
    · simp [hn]
  · rw [Plan.hasLine_report_iff, hl]

/-- A filter that has lost its only group with the statement in it: the strict check fails. -/
theorem check_tells_of_losses_group :
    let s := "sf2~eyJnIjp7InMiOlt7ImYiOjk5LCJjIjowLCJ2IjoieCJ9XX19"
    ∃ given failure, load {} false s = .ok given ∧
      check {} ⟨0, 0⟩ true given = .error failure := by
  intro s
  have hd : ({} : Engine).decode s = .ok
      { losses := ⟨[⟨.inGroup [] 0, 99, 0, "x", .unknownField⟩], [[]]⟩ } :=
    mapError_eq_ok_iff.mpr (toOption_eq_some_iff.mp (by decide +kernel))
  have hp : Filter.compile {} ⟨0, 0⟩ {} = .ok _ := rfl
  obtain ⟨given, report, hg, -, hs, -⟩ := check_tells_of_losses hd hp
  obtain ⟨failure, hf⟩ := hs.mpr nofun
  exact ⟨given, failure, hg, hf⟩

/-- An ignored sort field makes a filter partial, and no check tells of it. -/
theorem not_forall_check_tells_of_partial :
    ¬ ∀ (e : Engine) (now : Instant) (s : String) (d : Decoded) (plan : Plan) (given : Loaded)
      (report : String), e.decode s = .ok d → d.filter.compile e.settings now = .ok plan →
      load e false s = .ok given → check e now false given = .ok report →
      ((∃ failure, check e now true given = .error failure) ↔ d.isPartial = true) ∧
      (HasLine report "partial:" ↔ d.isPartial = true) := by
  intro h
  have hd : ({} : Engine).decode "sf2~eyJvIjp7ImYiOjk5LCJhIjp0cnVlfX0" =
      .ok { ignoredSort := some 99 } :=
    mapError_eq_ok_iff.mpr (toOption_eq_some_iff.mp (by decide +kernel))
  obtain ⟨hs, -⟩ := h {} ⟨0, 0⟩ _ _ _ _ _ hd rfl (load_encoded hd) (check_eq _ _ rfl false)
  obtain ⟨failure, hf⟩ := hs.mpr rfl
  rw [check_eq _ _ rfl] at hf
  cases hf

end Command

end SeriesFilter
