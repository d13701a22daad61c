import SeriesFilter.Proofs.Command.Checking
import SeriesFilter.Proofs.Compile.Clock
import SeriesFilter.Proofs.Engine.Runs

/-!
# What was accepted once

An engine accepts a filter when there is a plan for it, and then the time does not matter. So a
filter that a check has reported on, or that has been saved, is refused by no query at any other
time under the same settings.
-/

namespace SeriesFilter

open Calendar Portable

namespace Engine

variable {e : Engine} {now : Instant} {f : Filter}

/-- A filter has the same plan at another time, its windows moved to that time, or is refused for
the same reason. -/
theorem validate_eq_map_anchored (e : Engine) (f : Filter) (now other : Instant) :
    e.validate other f = (e.validate now f).map (Plan.anchored other) := by
  rw [validate, validate, f.compile_eq_map_anchored e.settings now other]
  cases f.compile e.settings now with
  | error error => rfl
  | ok plan => rfl

/-- What has been saved has a plan. -/
theorem exists_validate_of_create {after : Engine} {name : String} {saved : SmartFilter}
    (h : e.create now name f = (.ok saved, after)) : ∃ plan, e.validate now f = .ok plan := by
  obtain ⟨⟨plan, hp⟩, -⟩ := create_eq_ok_iff.mp h
  exact ⟨plan, mapError_eq_ok_iff.mpr hp⟩

/-- A filter that has a plan is answered with every page that there can be. -/
theorem exists_query_iff [Filterable α] {plan : Plan} (h : e.validate now f = .ok plan)
    (rows : List α) (r : PageRequest) :
    (∃ page, e.query now rows f r = .ok page) ↔ r.isValid = true := by
  rw [query, h]
  change (∃ page, (plan.run rows r).mapError Error.page = .ok page) ↔ r.isValid = true
  simp only [mapError_eq_ok_iff]
  rw [Plan.run]
  by_cases hr : r.isValid = true
  · rw [if_pos hr]
    exact iff_of_true ⟨_, rfl⟩ hr
  · rw [if_neg hr]
    refine iff_of_false ?_ hr
    rintro ⟨page, ⟨⟩⟩

end Engine

namespace Command

open Json

/-- No query under some settings is refused for a filter's sake: whatever the time, it is answered
if only there can be such a page and, where the rows are given as a text, the text can be read. -/
structure Answered (settings : Settings) (f : Filter) : Prop where
  page : ∀ {α : Type} [Filterable α] (store : Store) (now : Instant) (rows : List α)
    (r : PageRequest),
      (∃ page, Engine.query ⟨store, settings⟩ now rows f r = .ok page) ↔ r.isValid = true
  report : ∀ (store : Store) (now : Instant) (dropped : List Dropped) (rows : String)
    (r : PageRequest) (format : ReportFormat),
      (∃ report, query ⟨store, settings⟩ now ⟨f, dropped⟩ rows r format = .ok report) ↔
        (∃ series, readString Series.listReader rows = .ok series) ∧ r.isValid = true

/-- A filter that has a plan at some time is refused by no query. -/
theorem answered_of_validate {e : Engine} {now : Instant} {f : Filter} {plan : Plan}
    (h : e.validate now f = .ok plan) : Answered e.settings f := by
  have hp : ∀ store other,
      Engine.validate ⟨store, e.settings⟩ other f = .ok (plan.anchored other) := by
    intro store other
    have hm := e.validate_eq_map_anchored f now other
    rw [h] at hm
    exact hm
  constructor
  · intro α _ store other rows r
    exact Engine.exists_query_iff (hp store other) rows r
  · intro store other dropped rows r format
    have hq := fun series : List Series ↦ Engine.exists_query_iff (hp store other) series r
    simp only [query, bind_eq_ok_iff, mapError_eq_ok_iff]
    constructor
    · rintro ⟨report, series, hs, page, ha, -⟩
      exact ⟨⟨series, hs⟩, (hq series).mp ⟨page, ha⟩⟩
    · rintro ⟨⟨series, hs⟩, hr⟩
      obtain ⟨page, ha⟩ := (hq series).mpr hr
      exact ⟨_, series, hs, page, ha, rfl⟩

/-- What a check has reported on has a plan. -/
theorem exists_validate_of_check {e : Engine} {now : Instant} {strict : Bool} {given : Loaded}
    {report : String} (h : check e now strict given = .ok report) :
    ∃ plan, e.validate now given.filter = .ok plan := by
  obtain ⟨plan, hp, -⟩ := bind_eq_ok_iff.mp h
  exact ⟨plan, mapError_eq_ok_iff.mp hp⟩

end Command

/-- The time moves the windows of a plan and nothing else. At two times an engine accepts the same
filters and refuses the others for the same reasons, and the plans of a filter differ in the times
of their windows alone, so not at all where no statement is on a window. A filter that a check has
reported on, or that has been saved, is therefore refused by no query. -/
theorem clock_moves_windows_only (e : Engine) (f : Filter) (now other : Instant) :
    ((∃ plan, e.validate now f = .ok plan) ↔ ∃ plan, e.validate other f = .ok plan) ∧
    (∀ error, e.validate now f = .error error ↔ e.validate other f = .error error) ∧
    (∀ plan moved, e.validate now f = .ok plan → e.validate other f = .ok moved →
      moved.sort = plan.sort ∧ moved.limit = plan.limit ∧
        moved.root = plan.root.map (Condition.anchored other)) ∧
    ((∀ s ∈ f.allStatements, s.comparison ≠ .isInLast ∧ s.comparison ≠ .isNotInLast) →
      e.validate other f = e.validate now f) ∧
    (∀ strict dropped report, Command.check e now strict ⟨f, dropped⟩ = .ok report →
      Command.Answered e.settings f) ∧
    ∀ name saved after, e.create now name f = (.ok saved, after) →
      Command.Answered e.settings f := by
  have hm := e.validate_eq_map_anchored f now other
  refine ⟨?_, fun error ↦ ?_, fun plan moved hp ho ↦ ?_, fun hw ↦ ?_,
    fun strict dropped report h ↦ ?_, fun name saved after h ↦ ?_⟩
  · rw [hm]
    constructor
    · rintro ⟨plan, hp⟩
      exact ⟨_, map_eq_ok_iff.mpr ⟨plan, hp, rfl⟩⟩
    · rintro ⟨moved, ho⟩
      obtain ⟨plan, hp, -⟩ := map_eq_ok_iff.mp ho
      exact ⟨plan, hp⟩
  · rw [hm, map_eq_error_iff]
  · rw [hm, hp] at ho
    cases ho
    exact ⟨rfl, rfl, rfl⟩
  · rw [Engine.validate, Engine.validate, Filter.compile_eq_of_windowless hw now other]
  · obtain ⟨plan, hp⟩ := Command.exists_validate_of_check h
    exact Command.answered_of_validate hp
  · obtain ⟨plan, hp⟩ := Engine.exists_validate_of_create h
    exact Command.answered_of_validate hp

/-- A filter for what was read in the last minute. -/
private def recentFilter : Filter :=
  { statements := [⟨.readingDate, .isInLast, "60"⟩, ⟨.seriesName, .equal, "a"⟩] }

/-- Checked at one time it has another plan later, which is the first one with its window moved. -/
theorem clock_moves_windows_only_recent :
    ∃ plan moved, Engine.validate {} ⟨0, 0⟩ recentFilter = .ok plan ∧
      Engine.validate {} ⟨100, 0⟩ recentFilter = .ok moved ∧
      moved.root.conditions ≠ plan.root.conditions ∧
      moved.root = plan.root.map (Condition.anchored ⟨100, 0⟩) ∧
      Command.Answered {} recentFilter := by
  obtain ⟨-, -, hm, -, hc, -⟩ := clock_moves_windows_only {} recentFilter ⟨0, 0⟩ ⟨100, 0⟩
  have hp : Engine.validate {} ⟨0, 0⟩ recentFilter = .ok _ := rfl
  have ho : Engine.validate {} ⟨100, 0⟩ recentFilter = .ok _ := rfl
  have hr : Command.check {} ⟨0, 0⟩ false ⟨recentFilter, []⟩ = .ok _ :=
    Command.check_eq {} ⟨recentFilter, []⟩ rfl false
  exact ⟨_, _, hp, ho, by decide, (hm _ _ hp ho).2.2, hc false [] _ hr⟩

end SeriesFilter
