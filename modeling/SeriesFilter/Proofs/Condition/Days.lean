import SeriesFilter.Proofs.Calendar.Written
import SeriesFilter.Proofs.Compile.Meaning
import SeriesFilter.Proofs.Condition.Complements

/-!
# Days as literals

A literal that names a day stands for the time from the midnight with which the day begins up to
the next midnight, and each operator on dates asks where an instant lies beside that interval. The
operators that look at its beginning only do not tell the day from an instant that is its midnight.
-/

namespace SeriesFilter

open Calendar Text

namespace Comparison

/-- What an operator asks of an instant, where the literal is the time from one instant on and
before another. -/
def Asks (c : Comparison) (first last t : Instant) : Prop :=
  match c with
  | .equal => first ≤ t ∧ t < last
  | .notEqual => ¬ (first ≤ t ∧ t < last)
  | .lessThan | .isBefore => t < first
  | .lessThanEqual => t < last
  | .greaterThan | .isAfter => last ≤ t
  | .greaterThanEqual => first ≤ t
  | _ => False

/-- The operators that compare a date with a literal. -/
def ofDates : List Comparison :=
  [.equal, .notEqual, .lessThan, .isBefore, .lessThanEqual, .greaterThan, .isAfter,
    .greaterThanEqual]

/-- The operators that ask only whether a date is before the beginning of the literal. -/
def ofBeginnings : List Comparison :=
  [.lessThan, .isBefore, .greaterThanEqual]

end Comparison

namespace Condition

/-- The operators on a day ask where an instant lies beside the interval of the day. -/
theorem orderHolds_day_iff (c : Comparison) {d : Date} (h : d.OnCalendar) (t : Instant) :
    orderHolds c (compare t.day d.number) = true ↔ c.Asks d.start d.next.start t := by
  have hlt : t < d.next.start ↔ t.day ≤ d.number := by
    rw [Date.lt_start_iff, h.next.2, Int.lt_add_one_iff]
  have hle : d.next.start ≤ t ↔ d.number < t.day := by
    rw [Date.start_le_iff, h.next.2, Int.add_one_le_iff]
  -- Each operator says something about the number of the instant's day.
  cases c <;>
    simp only [orderHolds, Comparison.Asks, hlt, hle, Date.lt_start_iff, Date.start_le_iff,
      beq_iff_eq, bne_iff_ne, ne_eq, Int.compare_eq_lt, Int.compare_eq_eq, Int.compare_eq_gt,
      Bool.false_eq_true] <;>
    omega

/-- An instant precedes a midnight when its day precedes the one that begins then. -/
theorem compare_start_eq_lt_iff {d : Date} {t : Instant} :
    t.compare d.start = .lt ↔ compare t.day d.number = .lt := by
  rw [Int.compare_eq_lt]
  exact Date.lt_start_iff

/-- Some operators only ask whether a value precedes the literal. -/
theorem orderHolds_ofBeginnings {c : Comparison} (hc : c ∈ Comparison.ofBeginnings)
    {order other : Ordering} (h : order = .lt ↔ other = .lt) :
    orderHolds c order = orderHolds c other := by
  have hlt : (order == .lt) = (other == .lt) := by
    rw [Bool.eq_iff_iff, beq_iff_eq, beq_iff_eq, h]
  simp only [Comparison.ofBeginnings, List.mem_cons, List.not_mem_nil, or_false] at hc
  rcases hc with rfl | rfl | rfl
  · exact hlt
  · exact hlt
  · exact congrArg not hlt

/-- Such an operator does not tell a day from its midnight. -/
theorem evaluate_day_eq_midnight {c : Comparison} (hc : c ∈ Comparison.ofBeginnings) (d : Date)
    (field : Field) (kind : ValueKind) [Filterable α] (entity : α) :
    evaluate ⟨field, c, kind, .day d.number⟩ entity =
      evaluate ⟨field, c, kind, .instant d.start⟩ entity := by
  unfold evaluate
  cases Filterable.value? entity field with
  | none => rfl
  | some value =>
    cases value with
    | date t =>
      cases t with
      | none => rfl
      | some t => exact orderHolds_ofBeginnings hc compare_start_eq_lt_iff.symm
    | _ => rfl

end Condition

namespace Operand

/-- The operators that compare dates read a literal as a date. -/
theorem ofLiteral_of_ofDates {field : Field} (hk : field.kind = .date) {c : Comparison}
    (hc : c ∈ Comparison.ofDates) (now : Instant) (value : String) :
    ofLiteral field c now value = ofDate value := by
  unfold ofLiteral
  rw [hk]
  cases c with
  | isInLast | isNotInLast => exact absurd hc (by decide)
  | _ => rfl

section Written

variable {d : Date} (h : d.isValid = true)
include h

/-- A date is read as its day. -/
theorem ofDate_text : ofDate d.text = .ok (.day d.number) := by
  have ht : trimChars d.text.toList = d.text.toList :=
    trimChars_eq_self fun c hc ↦ Date.isBlank_of_mem_text hc
  have hr := Date.dayOfText_text_append h []
  rw [List.append_nil] at hr
  rw [ofDate, ht, hr]
  rfl

/-- A midnight is read as that instant, and not as a day. -/
theorem ofDate_text_start (hy : 0 ≤ d.year ∧ d.year ≤ 9999) :
    ofDate d.start.text = .ok (.instant d.start) := by
  have hs := text_start (Date.isValid_iff.mp h).1
  have hl : d.start.text.toList = d.text.toList ++ "T00:00:00Z".toList := by
    rw [hs, String.toList_ofList]
  have ht : trimChars d.start.text.toList = d.start.text.toList := by
    rw [hl]
    have htime : "T00:00:00Z".toList.any isBlank = false := rfl
    refine trimChars_eq_self fun c hc ↦ ?_
    rcases List.mem_append.mp hc with hc | hc
    · exact Date.isBlank_of_mem_text hc
    · exact Bool.eq_false_iff.mpr (List.any_eq_false.mp htime c hc)
  have hd : dayOfText d.start.text.toList = .error .trailing := by
    rw [hl, Date.dayOfText_text_append h]
    rfl
  rw [ofDate, ht, hd, instantOfText_text_start h hy]

end Written

end Operand

namespace Condition

/-- A condition with a day as its operand asks where an instant lies beside the interval from the
midnight of the day up to the next one, which is as the instant's date compares with the day. A
literal that is the day and one that is the midnight hold of the same entities under the operators
that look at the beginning only. The day and its midnight, as they are written, are such
literals. -/
theorem day_is_interval {d : Date} (hd : d.isValid = true) (hn : d.next.isValid = true) :
    (instantAt? d ⟨0, 0, 0, 0⟩ 0 = some d.start ∧
      instantAt? d.next ⟨0, 0, 0, 0⟩ 0 = some d.next.start) ∧
    (∀ t : Instant, compare t.day d.number = (Date.ofNumber t.day).compare d) ∧
    (∀ {α : Type} [Filterable α] (entity : α) (field : Field) (kind : ValueKind) (t : Instant),
      Filterable.value? entity field = some (.date (some t)) → ∀ c : Comparison,
        evaluate ⟨field, c, kind, .day d.number⟩ entity = true ↔
          c.Asks d.start d.next.start t) ∧
    (∀ (now : Instant) (field : Field), field.kind = .date →
      ∀ day : String, Operand.ofDate day = .ok (.day d.number) →
        Compile.ReadAlike now field day Comparison.ofDates (.day d.number) ∧
        ∀ midnight : String, Operand.ofDate midnight = .ok (.instant d.start) →
          Compile.ReadAlike now field midnight Comparison.ofDates (.instant d.start) ∧
          ∀ c ∈ Comparison.ofBeginnings, ∀ {α : Type} [Filterable α] (entity : α),
            Statement.holds now entity ⟨field, c, day⟩ =
              Statement.holds now entity ⟨field, c, midnight⟩) ∧
    Operand.ofDate d.text = .ok (.day d.number) ∧
    (0 ≤ d.year ∧ d.year ≤ 9999 → Operand.ofDate d.start.text = .ok (.instant d.start)) := by
  have hc := (Date.isValid_iff.mp hd).1
  refine ⟨⟨Date.instantAt?_midnight hd, Date.instantAt?_midnight hn⟩, ?_, ?_, ?_,
    Operand.ofDate_text hd, Operand.ofDate_text_start hd⟩
  · intro t
    obtain ⟨ho, hnumber⟩ := Date.onCalendar_ofNumber t.day
    rw [← ho.compare_number hc, hnumber]
  · intro α _ entity field kind t hv c
    rw [evaluate]
    simp only [hv]
    exact orderHolds_day_iff c hc t
  · intro now field hk day hday
    have hdate : ∀ c ∈ Comparison.ofDates, c.appliesTo .date = true := by decide
    have ha : ∀ c ∈ Comparison.ofDates, field.allows c = true := fun c h ↦
      Field.allows_of_kind (Field.isFilterable_of_kind (by simp [hk])) hk (hdate c h)
    have hread {value : String} {operand : Operand} (hv : Operand.ofDate value = .ok operand) :
        ∀ c ∈ Comparison.ofDates, Operand.ofLiteral field c now value = .ok operand :=
      fun c h ↦ (Operand.ofLiteral_of_ofDates hk h now value).trans hv
    refine ⟨Compile.readAlike_of_ofLiteral ha (hread hday), fun midnight hmidnight ↦
      ⟨Compile.readAlike_of_ofLiteral ha (hread hmidnight), fun c hb α _ entity ↦ ?_⟩⟩
    have hsub : ∀ c ∈ Comparison.ofBeginnings, c ∈ Comparison.ofDates := by decide
    rw [Statement.holds_of_readable (ha c (hsub c hb)) (hread hday c (hsub c hb)),
      Statement.holds_of_readable (ha c (hsub c hb)) (hread hmidnight c (hsub c hb))]
    exact evaluate_day_eq_midnight hb d field field.kind entity

/-- A series that was read in the leap second with which 2016 ended was read on the last day of that
year, and not before the midnight with which the day began, however this is written. -/
theorem day_is_interval_leap_second :
    Date.isValid ⟨2016, 12, 31⟩ = true ∧ (Date.next ⟨2016, 12, 31⟩).isValid = true ∧
    ∃ r : Series, r.lastRead = some ⟨1483228799, 1000000000⟩ ∧
      evaluate ⟨.readingDate, .equal, .date, .day (Date.number ⟨2016, 12, 31⟩)⟩ r = true ∧
      Statement.holds ⟨0, 0⟩ r ⟨.readingDate, .isBefore, "2016-12-31"⟩ =
        Statement.holds ⟨0, 0⟩ r ⟨.readingDate, .isBefore, "2016-12-31T00:00:00Z"⟩ := by
  have hd : Date.isValid ⟨2016, 12, 31⟩ = true := by decide
  have hn : (Date.next ⟨2016, 12, 31⟩).isValid = true := by decide
  obtain ⟨-, -, hinterval, hliteral, hday, hmidnight⟩ := day_is_interval hd hn
  refine ⟨hd, hn, { lastRead := some ⟨1483228799, 1000000000⟩ }, rfl, ?_, ?_⟩
  · exact (hinterval _ _ _ _ rfl .equal).mpr ⟨by decide, by decide⟩
  · exact ((hliteral ⟨0, 0⟩ .readingDate rfl _ hday).2 _ (hmidnight (by decide))).2 .isBefore
      (by decide) _

end Condition

end SeriesFilter
