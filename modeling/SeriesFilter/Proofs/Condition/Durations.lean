import SeriesFilter.Proofs.Condition.Shapes
import SeriesFilter.Proofs.Text.Numerals

/-!
# Durations as literals

A duration is written as a numeral, then of hours, or as a numeral and the letter of a unit. It is
read when the numeral is not negative and the duration is no longer than the longest span, and then
it is that many seconds, however it is written.
-/

namespace SeriesFilter.Operand

open Calendar Text

/-! ### Units -/

/-- The letters of the units of time, of either case, and the seconds in each unit. -/
def unitLetters : List (Char × Nat) :=
  [('s', 1), ('S', 1), ('m', 60), ('M', 60), ('h', 3600), ('H', 3600), ('d', 86400), ('D', 86400)]

/-- The small letter of a character outside ASCII is that character. -/
private theorem toLower_of_le {c : Char} (h : 128 ≤ c.toNat) : c.toLower = c := by
  refine dif_neg fun ⟨_, hz⟩ ↦ ?_
  have hc : c.toNat ≤ 90 := UInt32.le_iff_toNat_le.mp hz
  omega

private theorem unitSeconds?_ascii {n : Nat} (h : n < 128) :
    (unitSeconds? (Char.ofNat n).toLower).all
      (fun seconds ↦ unitLetters.contains (Char.ofNat n, seconds)) = true := by
  revert n
  decide

/-- The small letter of a unit's letter names the unit, and no other character has such a small
letter. -/
theorem mem_unitLetters_iff {c : Char} {seconds : Nat} :
    (c, seconds) ∈ unitLetters ↔ unitSeconds? c.toLower = some seconds := by
  constructor
  · have hu : ∀ u ∈ unitLetters, unitSeconds? u.1.toLower = some u.2 := by decide
    exact hu (c, seconds)
  · intro h
    by_cases hc : c.toNat < 128
    · have ha := unitSeconds?_ascii hc
      rw [Char.ofNat_toNat, h] at ha
      exact List.contains_iff_mem.mp ha
    · rw [toLower_of_le (Nat.le_of_not_lt hc)] at h
      unfold unitSeconds? at h
      split at h
      · exact absurd (by decide) hc
      · exact absurd (by decide) hc
      · exact absurd (by decide) hc
      · exact absurd (by decide) hc
      · cases h

/-- Units are named by letters, which are no blanks, and have a second at least. -/
theorem bounds_of_mem_unitLetters {c : Char} {seconds : Nat} (h : (c, seconds) ∈ unitLetters) :
    isLetter c = true ∧ isBlank c = false ∧ 0 < seconds := by
  have hu : ∀ u ∈ unitLetters, isLetter u.1 = true ∧ isBlank u.1 = false ∧ 0 < u.2 := by decide
  exact hu (c, seconds) h

/-! ### Counts of units -/

/-- A duration as it is written, with the count and the seconds in a unit: a numeral alone counts
hours, and one before the letter of a unit, with blanks between them or not, counts that unit. -/
inductive IsDuration : List Char → Int → Nat → Prop
  | hours {s : List Char} {count : Int} (h : IsNumeral s count) : IsDuration s count 3600
  | units {s blanks : List Char} {count : Int} {letter : Char} {seconds : Nat}
    (h : IsNumeral s count) (hb : ∀ c ∈ blanks, isBlank c = true)
    (hl : (letter, seconds) ∈ unitLetters) :
    IsDuration (s ++ blanks ++ [letter]) count seconds

/-- A letter at the end is taken off as the unit, and behind anything else the count is of hours. -/
theorem splitUnit_concat (s : List Char) (c : Char) :
    splitUnit (s ++ [c]) = if isLetter c then (s, c.toLower) else (s ++ [c], 'h') := by
  rw [splitUnit, List.getLast?_concat, List.dropLast_concat]

section Grammar

variable {s : List Char} {count : Int} {seconds : Nat}

/-- A numeral is not cut, and blanks around it are trimmed away. -/
private theorem splitUnit_numeral (h : IsNumeral s count) :
    trimChars (splitUnit s).1 = s ∧ (splitUnit s).2 = 'h' := by
  obtain ⟨init, last, rfl⟩ := (List.eq_nil_or_concat s).resolve_left h.ne_nil
  rw [List.concat_eq_append] at h ⊢
  have hl : isLetter last = false := h.isLetter_of_mem (by simp)
  rw [splitUnit_concat, hl]
  exact ⟨trimChars_eq_self fun c ↦ h.isBlank_of_mem, rfl⟩

/-- A numeral before the letter of a unit is cut off from it. -/
private theorem splitUnit_units {blanks : List Char} {letter : Char} (h : IsNumeral s count)
    (hb : ∀ c ∈ blanks, isBlank c = true) (hl : (letter, seconds) ∈ unitLetters) :
    trimChars (splitUnit (s ++ blanks ++ [letter])).1 = s ∧
      (splitUnit (s ++ blanks ++ [letter])).2 = letter.toLower := by
  have ht : trimChars (s ++ blanks) = trimChars s := trimChars_between (List.forall_mem_nil _) hb s
  rw [splitUnit_concat, if_pos (bounds_of_mem_unitLetters hl).1]
  exact ⟨ht.trans (trimChars_eq_self fun c ↦ h.isBlank_of_mem), rfl⟩

/-- A trimmed text is a duration when what is left of it without the letter at its end is a numeral,
and the letter, or that of hours, is the letter of a unit. -/
theorem isDuration_iff (hs : trimChars s = s) :
    IsDuration s count seconds ↔
      IsNumeral (trimChars (splitUnit s).1) count ∧
        unitSeconds? (splitUnit s).2 = some seconds := by
  constructor
  · intro h
    cases h with
    | hours h =>
      obtain ⟨hn, hu⟩ := splitUnit_numeral h
      rw [hn, hu]
      exact ⟨h, rfl⟩
    | units h hb hl =>
      obtain ⟨hn, hu⟩ := splitUnit_units h hb hl
      rw [hn, hu]
      exact ⟨h, mem_unitLetters_iff.mp hl⟩
  · rintro ⟨hn, hu⟩
    rcases List.eq_nil_or_concat s with rfl | ⟨init, last, rfl⟩
    · exact absurd rfl hn.ne_nil
    rw [List.concat_eq_append] at hs hn hu ⊢
    rw [splitUnit_concat] at hn hu
    cases hl : isLetter last with
    | true =>
      rw [hl, if_pos rfl] at hn hu
      have hi : trimStart init = init := by
        refine trimStart_eq_self fun c hc ↦ ?_
        apply isBlank_of_head?_trimStart (s := init ++ [last])
        rw [trimStart_of_trimChars hs, List.head?_append, hc, Option.some_or]
      obtain ⟨blanks, hb, he⟩ := exists_trimEnd_append init
      rw [trimChars, hi] at hn
      rw [← he]
      exact .units hn hb (mem_unitLetters_iff.mpr hu)
    | false =>
      rw [hl, if_neg Bool.false_ne_true] at hn hu
      cases hu
      rw [hs] at hn
      exact .hours hn

/-- A text is written as one count of one unit at most. -/
theorem IsDuration.unique {other : Int} {seconds' : Nat} (hs : trimChars s = s)
    (h : IsDuration s count seconds) (h' : IsDuration s other seconds') :
    count = other ∧ seconds = seconds' := by
  obtain ⟨hn, hu⟩ := (isDuration_iff hs).mp h
  obtain ⟨hn', hu'⟩ := (isDuration_iff hs).mp h'
  have hi := integer?_eq_some_iff.mpr hn
  rw [integer?_eq_some_iff.mpr hn'] at hi
  rw [hu'] at hu
  cases hi
  cases hu
  exact ⟨rfl, rfl⟩

/-- A unit has a second at least. -/
theorem IsDuration.seconds_pos (h : IsDuration s count seconds) : 0 < seconds := by
  cases h with
  | hours => decide
  | units _ _ hl => exact (bounds_of_mem_unitLetters hl).2.2

/-- Every number of every unit can be written. -/
theorem isDuration_toDigits (n : Nat) {letter : Char} (h : (letter, seconds) ∈ unitLetters) :
    IsDuration (trimChars (Nat.toDigits 10 n ++ [letter])) n seconds := by
  have hn : IsNumeral (Nat.toDigits 10 n) n := .unsigned (isDigits_toDigits n)
  have hd := IsDuration.units hn (List.forall_mem_nil _) h
  rw [List.append_nil] at hd
  rw [trimChars_eq_self fun c hc ↦ ?_]
  · exact hd
  · rcases List.mem_append.mp hc with hc | hc
    · exact hn.isBlank_of_mem hc
    · rw [List.mem_singleton.mp hc]
      exact (bounds_of_mem_unitLetters h).2.1

end Grammar

/-! ### Amounts of time -/

section Amounts

variable {value : String} {t : Int}

/-- A span that is not negative is taken when it is within the longest one. -/
private theorem span?_eq_some_iff {seconds : Int} (h : 0 ≤ seconds) :
    span? seconds = some t ↔ seconds ≤ maxSpan ∧ t = seconds := by
  have hl : -maxSpan ≤ seconds := Int.le_trans (by decide) h
  rw [span?]
  by_cases hg : seconds ≤ maxSpan
  · rw [if_pos ⟨hl, hg⟩, Option.some.injEq, eq_comm]
    exact (and_iff_right hg).symm
  · rw [if_neg fun hm ↦ hg hm.2]
    exact iff_of_false nofun fun hm ↦ hg hm.1

/-- A duration is taken when its count is not negative and fits 64 bits with their sign, and its
seconds are within the longest span. -/
theorem durationOfText_eq_ok_iff :
    durationOfText value = .ok t ↔
      ∃ count seconds, IsDuration (trimChars value.toList) count seconds ∧ 0 ≤ count ∧
        count < 0x8000000000000000 ∧ count * seconds ≤ maxSpan ∧ t = count * seconds := by
  simp only [isDuration_iff (trimChars_trimChars value.toList)]
  change (do
    let n ← orError .notADuration (count? (trimChars (splitUnit (trimChars value.toList)).1))
    let seconds ← orError (.unknownUnit (splitUnit (trimChars value.toList)).2)
      (unitSeconds? (splitUnit (trimChars value.toList)).2)
    orError .durationOutOfRange (span? (n * seconds))) = Except.ok t ↔ _
  simp only [bind_eq_ok_iff, orError_eq_ok_iff, count?_eq_some_iff, maxInt64]
  constructor
  · rintro ⟨n, ⟨hn, hl⟩, seconds, hu, hs⟩
    have hz : (0 : Int) ≤ n * seconds :=
      Int.mul_nonneg (Int.natCast_nonneg n) (Int.natCast_nonneg seconds)
    obtain ⟨hm, ht⟩ := (span?_eq_some_iff hz).mp hs
    exact ⟨n, seconds, ⟨hn, hu⟩, Int.natCast_nonneg n, by omega, hm, ht⟩
  · rintro ⟨count, seconds, ⟨hn, hu⟩, hz, hl, hm, ht⟩
    obtain ⟨n, rfl⟩ := Int.eq_ofNat_of_zero_le hz
    refine ⟨n, ⟨hn, by omega⟩, seconds, hu, ?_⟩
    exact (span?_eq_some_iff (Int.mul_nonneg hz (Int.natCast_nonneg seconds))).mpr ⟨hm, ht⟩

/-- What is taken of a text that is written as some count of some unit depends on the amount of time
alone. -/
theorem IsDuration.durationOfText_eq_ok_iff {count : Int} {seconds : Nat}
    (h : IsDuration (trimChars value.toList) count seconds) :
    durationOfText value = .ok t ↔
      0 ≤ count * seconds ∧ count * seconds ≤ maxSpan ∧ t = count * seconds := by
  have hp : (0 : Int) < seconds := Int.natCast_pos.mpr h.seconds_pos
  rw [Operand.durationOfText_eq_ok_iff]
  constructor
  · rintro ⟨other, seconds', h', hz, -, hm, ht⟩
    obtain ⟨rfl, rfl⟩ := h'.unique (trimChars_trimChars _) h
    exact ⟨Int.mul_nonneg hz (Int.le_of_lt hp), hm, ht⟩
  · rintro ⟨hz, hm, ht⟩
    have hc : 0 ≤ count := Int.nonneg_of_mul_nonneg_left hz hp
    have hl : count * 1 ≤ count * seconds := Int.mul_le_mul_of_nonneg_left hp hc
    have hs : maxSpan < 0x8000000000000000 := by decide
    exact ⟨count, seconds, h, hc, by omega, hm, ht⟩

end Amounts

/-- A text is taken as a duration exactly when, trimmed, it is a numeral or a numeral before the
letter of a unit, the count is not negative and fits 64 bits with their sign, and the exact product
of count and unit is within the longest span; then that product is what is taken. So amounts that
are equal are taken alike, in whatever units they are written, and every number of every unit can be
written. -/
theorem durations_are_amounts :
    (∀ (value : String) (t : Int), durationOfText value = .ok t ↔
      ∃ (count : Int) (seconds : Nat), IsDuration (trimChars value.toList) count seconds ∧
        0 ≤ count ∧ count < 0x8000000000000000 ∧
        count * seconds ≤ 0x7FFFFFFFFFFFFFFF / 1000 ∧ t = count * seconds) ∧
    (∀ (u v : String) (n m : Int) (a b : Nat), IsDuration (trimChars u.toList) n a →
      IsDuration (trimChars v.toList) m b → n * a = m * b →
        (durationOfText u).toOption = (durationOfText v).toOption) ∧
    ∀ (n : Nat) (letter : Char) (seconds : Nat), (letter, seconds) ∈ unitLetters →
      IsDuration (trimChars (Nat.toDigits 10 n ++ [letter])) n seconds := by
  refine ⟨fun value t ↦ durationOfText_eq_ok_iff, ?_, fun n _ _ ↦ isDuration_toDigits n⟩
  intro u v n m a b hu hv he
  apply Option.ext
  intro t
  rw [toOption_eq_some_iff, toOption_eq_some_iff, hu.durationOfText_eq_ok_iff,
    hv.durationOfText_eq_ok_iff, he]

/-- The most days that are taken, with a sign and a wide blank, are taken as their hours are; a day
more is taken in no unit. -/
theorem durations_are_amounts_longest :
    durationOfText "+106751991167\u3000D\n" = .ok 9223372036828800 ∧
    (durationOfText "+106751991167\u3000D\n").toOption =
      (durationOfText "2562047788008").toOption ∧
    (durationOfText "106751991168d").toOption = none ∧
    (durationOfText "106751991168d").toOption = (durationOfText "9223372036915200s").toOption := by
  obtain ⟨hg, ha, hw⟩ := durations_are_amounts
  have hdigits (s : List Char) (n : Nat) (hs : Nat.toDigits 10 n = s) : IsDigits s n :=
    hs ▸ isDigits_toDigits n
  have hday : IsDuration (trimChars "+106751991167\u3000D\n".toList) 106751991167 86400 := by
    have ht : trimChars "+106751991167\u3000D\n".toList =
      '+' :: "106751991167".toList ++ ['\u3000'] ++ ['D'] := by decide
    rw [ht]
    exact .units (.plus (hdigits _ 106751991167 (by decide)))
      (List.forall_mem_singleton.mpr (by decide)) (by decide)
  have hhour : IsDuration (trimChars "2562047788008".toList) 2562047788008 3600 := by
    have ht : trimChars "2562047788008".toList = "2562047788008".toList := by decide
    rw [ht]
    exact .hours (.unsigned (hdigits _ 2562047788008 (by decide)))
  refine ⟨?_, ha _ _ _ _ _ _ hday hhour (by decide), by decide, ?_⟩
  · exact (hg _ _).mpr ⟨_, _, hday, by decide, by decide, by decide, by decide⟩
  · exact ha _ _ 106751991168 9223372036915200 86400 1 (hw 106751991168 'd' 86400 (by decide))
      (hw 9223372036915200 's' 1 (by decide)) (by decide)

end SeriesFilter.Operand
