import SeriesFilter.Text.Search

/-!
# Parts between separators

A text is cut at its separators, and no part holds one. Two texts with a separator between them are
cut into the parts of both, and everything else about the parts follows from this. A part is what
stands between two neighbouring separators, once the text itself stands between two of them.
-/

namespace SeriesFilter.Text

variable {separator : Char} {s part : List Char}

/-- No part between separators holds one. -/
theorem notMem_of_mem_splitAtEach (h : part ∈ splitAtEach separator s) : separator ∉ part := by
  induction s generalizing part with
  | nil =>
    rw [splitAtEach, List.mem_singleton] at h
    simp [h]
  | cons c rest ih =>
    rw [splitAtEach] at h
    by_cases hc : c = separator
    · rw [if_pos hc] at h
      rcases List.mem_cons.mp h with rfl | h
      · exact List.not_mem_nil
      · exact ih h
    · rw [if_neg hc] at h
      cases hs : splitAtEach separator rest with
      | nil => exact absurd hs (splitAtEach_ne_nil separator rest)
      | cons first parts =>
        rw [hs] at h ih
        rcases List.mem_cons.mp h with rfl | h
        · simpa [Ne.symm hc] using ih List.mem_cons_self
        · exact ih (List.mem_cons_of_mem first h)

/-- A text without separators is its only part. -/
theorem splitAtEach_of_notMem (h : separator ∉ s) : splitAtEach separator s = [s] := by
  induction s with
  | nil => rfl
  | cons c rest ih =>
    have hc : separator ≠ c := List.ne_of_not_mem_cons h
    rw [splitAtEach, if_neg hc.symm, ih (List.not_mem_of_not_mem_cons h)]

variable (separator)

/-- Two texts with a separator between them have the parts of both. -/
theorem splitAtEach_append (s t : List Char) :
    splitAtEach separator (s ++ separator :: t) =
      splitAtEach separator s ++ splitAtEach separator t := by
  induction s with
  | nil => simp [splitAtEach]
  | cons c rest ih =>
    rw [List.cons_append, splitAtEach, splitAtEach, ih]
    by_cases hc : c = separator
    · rw [if_pos hc, if_pos hc, List.cons_append]
    · rw [if_neg hc, if_neg hc]
      cases hs : splitAtEach separator rest with
      | nil => exact absurd hs (splitAtEach_ne_nil separator rest)
      | cons first parts => rfl

variable {separator}

private theorem infix_of_mem_splitAtEach (h : part ∈ splitAtEach separator s) :
    separator :: part ++ [separator] <:+: separator :: s ++ [separator] := by
  induction hl : s.length using Nat.strongRecOn generalizing s with
  | ind length ih =>
    by_cases hs : separator ∈ s
    · -- The first separator cuts off the first part; the others are parts of what comes after it.
      obtain ⟨first, rest, rfl, hn⟩ := List.eq_append_cons_of_mem hs
      rw [splitAtEach_append, splitAtEach_of_notMem hn, List.singleton_append] at h
      rcases List.mem_cons.mp h with rfl | h
      · exact ⟨[], rest ++ [separator], by simp⟩
      · have hrest : rest.length < length := by
          rw [← hl, List.length_append, List.length_cons]
          omega
        have hsuffix : separator :: rest ++ [separator] <:+
            separator :: (first ++ separator :: rest) ++ [separator] :=
          ⟨separator :: first, by simp⟩
        exact (ih rest.length hrest h rfl).trans hsuffix.isInfix
    · rw [splitAtEach_of_notMem hs, List.mem_singleton] at h
      subst h
      exact List.infix_refl _

/-- The parts are what stands between neighbouring separators of the text, put between two of
them. -/
theorem mem_splitAtEach_iff :
    part ∈ splitAtEach separator s ↔
      separator ∉ part ∧ separator :: part ++ [separator] <:+: separator :: s ++ [separator] := by
  constructor
  · intro h
    exact ⟨notMem_of_mem_splitAtEach h, infix_of_mem_splitAtEach h⟩
  · rintro ⟨hn, before, after, he⟩
    have hcut : splitAtEach separator before ++ part :: splitAtEach separator after =
        [] :: splitAtEach separator s ++ [[]] := by
      have hl : before ++ (separator :: part ++ [separator]) ++ after =
          before ++ separator :: (part ++ separator :: after) := by simp
      have hr : separator :: s ++ [separator] = [] ++ separator :: (s ++ separator :: []) := rfl
      have hc := congrArg (splitAtEach separator) he
      rw [hl, hr, splitAtEach_append, splitAtEach_append, splitAtEach_append, splitAtEach_append,
        splitAtEach_of_notMem hn] at hc
      exact hc
    obtain ⟨b, bs, hb⟩ := List.exists_cons_of_ne_nil (splitAtEach_ne_nil separator before)
    obtain ⟨as, a, ha⟩ :=
      (List.eq_nil_or_concat _).resolve_left (splitAtEach_ne_nil separator after)
    have hs : bs ++ part :: as = splitAtEach separator s := by
      have ht : bs ++ part :: as ++ [a] = splitAtEach separator s ++ [[]] := by
        rw [hb, ha] at hcut
        simpa using (List.cons.inj hcut).2
      exact (List.append_inj' ht rfl).1
    rw [← hs]
    exact List.mem_append_right bs List.mem_cons_self

end SeriesFilter.Text
