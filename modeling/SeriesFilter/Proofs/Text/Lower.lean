import Mathlib.Data.List.Infix
import SeriesFilter.Text.Lower

/-!
# Lower case of parts of a text

Every character but one has its lower case by itself. A capital sigma has it by what stands around
it: it is final behind a cased character and not before one, where case-ignorable characters are
passed over. So a part of a text has the same lower case in the text and alone exactly when its
sigmas are final in both or in neither, and that depends on the first and the last characters of the
part that are not passed over.
-/

namespace SeriesFilter.Text

/-! ### Lower case between two texts -/

/-- Lower case of a character between what stands before it, held in reverse, and what stands after
it. -/
def lowerAt (before : List Char) (c : Char) (after : List Char) : List Char :=
  if c = 'Σ' then [if isFinalSigma before after then 'ς' else 'σ'] else lowerChar c

/-- Lower case of a text between what stands before it, held in reverse, and what stands after
it. -/
def lowerBetween (before : List Char) : (s after : List Char) → List Char
  | [], _ => []
  | c :: rest, after => lowerAt before c (rest ++ after) ++ lowerBetween (c :: before) rest after

/-- Lower case is taken character by character. -/
theorem lowerAfter_cons (before : List Char) (c : Char) (rest : List Char) :
    lowerAfter before (c :: rest) = lowerAt before c rest ++ lowerAfter (c :: before) rest := by
  by_cases hc : c = 'Σ'
  · subst hc
    rw [lowerAfter, lowerAt, if_pos rfl]
    rfl
  · rw [lowerAfter, lowerAt, if_neg hc]
    exact hc

/-- A text put together has its parts in lower case one after the other. -/
theorem lowerAfter_append (before s t : List Char) :
    lowerAfter before (s ++ t) = lowerBetween before s t ++ lowerAfter (s.reverse ++ before) t := by
  induction s generalizing before with
  | nil => rfl
  | cons c rest ih =>
    rw [List.cons_append, lowerAfter_cons, ih, lowerBetween, List.reverse_cons]
    simp

/-- Lower case behind something is that between it and nothing. -/
theorem lowerAfter_eq_lowerBetween (before s : List Char) :
    lowerAfter before s = lowerBetween before s [] := by
  have h := lowerAfter_append before s []
  rwa [List.append_nil, lowerAfter, List.append_nil] at h

private theorem length_lowerAt (before before' : List Char) (c : Char) (after after' : List Char) :
    (lowerAt before c after).length = (lowerAt before' c after').length := by
  rw [lowerAt, lowerAt]
  split <;> rfl

/-- What stands around a text does not change how long its lower case is. -/
theorem length_lowerBetween (before s after : List Char) :
    (lowerBetween before s after).length = (lowerChars s).length := by
  suffices h : ∀ before before' : List Char,
      (lowerBetween before s after).length = (lowerBetween before' s []).length by
    rw [lowerChars, lowerAfter_eq_lowerBetween]
    exact h before []
  induction s with
  | nil => exact fun _ _ ↦ rfl
  | cons c rest ih =>
    intro before before'
    rw [lowerBetween, lowerBetween, List.length_append, List.length_append,
      length_lowerAt before before', ih (c :: before) (c :: before')]

/-! ### Where sigmas are final -/

/-- The sigmas of a text are final between what stands before it, held in reverse, and what stands
after it exactly when they are in the text alone. -/
def KeepsFinals (before s after : List Char) : Prop :=
  ∀ x y, s = x ++ 'Σ' :: y →
    isFinalSigma (x.reverse ++ before) (y ++ after) = isFinalSigma x.reverse y

private theorem lowerAt_eq_iff {before before' after after' : List Char} {c : Char} :
    lowerAt before c after = lowerAt before' c after' ↔
      (c = 'Σ' → isFinalSigma before after = isFinalSigma before' after') := by
  rw [lowerAt, lowerAt]
  by_cases hc : c = 'Σ'
  · simp only [hc, if_true, List.cons.injEq, and_true, true_implies]
    cases isFinalSigma before after <;> cases isFinalSigma before' after' <;> decide
  · simp [hc]

private theorem forall_places_cons {P : List Char → List Char → Prop} {c d : Char}
    {rest : List Char} :
    (∀ x y, c :: rest = x ++ d :: y → P x y) ↔
      (c = d → P [] rest) ∧ ∀ x y, rest = x ++ d :: y → P (c :: x) y := by
  constructor
  · intro h
    refine ⟨fun hc ↦ h [] rest (by rw [hc, List.nil_append]), fun x y hr ↦ h (c :: x) y ?_⟩
    rw [hr, List.cons_append]
  · rintro ⟨hc, hr⟩ x y he
    cases x with
    | nil =>
      cases he
      exact hc rfl
    | cons a x =>
      cases he
      exact hr x y rfl

/-- A text has the same lower case in two places exactly when its sigmas are final in both or in
neither. -/
theorem lowerBetween_eq_iff {before before' s after after' : List Char} :
    lowerBetween before s after = lowerBetween before' s after' ↔
      ∀ x y, s = x ++ 'Σ' :: y →
        isFinalSigma (x.reverse ++ before) (y ++ after) =
          isFinalSigma (x.reverse ++ before') (y ++ after') := by
  induction s generalizing before before' with
  | nil => simp [lowerBetween]
  | cons c rest ih =>
    rw [lowerBetween, lowerBetween, forall_places_cons, ← lowerAt_eq_iff]
    simp only [List.reverse_cons, List.append_assoc, List.singleton_append, ← ih]
    constructor
    · intro h
      exact List.append_inj h (length_lowerAt ..)
    · rintro ⟨hc, hr⟩
      rw [hr]
      congr 1

/-- A text keeps its lower case exactly where its sigmas stay final or not. -/
theorem keepsFinals_iff {before s after : List Char} :
    KeepsFinals before s after ↔ lowerBetween before s after = lowerChars s := by
  rw [lowerChars, lowerAfter_eq_lowerBetween, lowerBetween_eq_iff, KeepsFinals]
  simp only [List.append_nil]

/-! ### What can change a sigma -/

private theorem startsCased_of_all {s : List Char} (h : s.all isCaseIgnorable = true) :
    startsCased s = false := by
  have hn : s.find? (fun c ↦ !isCaseIgnorable c) = none := by simpa using h
  rw [startsCased, hn]

/-- What begins a text decides whether it starts cased, unless all of it is passed over. -/
theorem startsCased_append (s t : List Char) :
    startsCased (s ++ t) = if s.all isCaseIgnorable then startsCased t else startsCased s := by
  by_cases h : s.all isCaseIgnorable = true
  · have hn : s.find? (fun c ↦ !isCaseIgnorable c) = none := by simpa using h
    rw [if_pos h, startsCased, startsCased, List.find?_append, hn, Option.none_or]
  · obtain ⟨c, hc⟩ : ∃ c, s.find? (fun c ↦ !isCaseIgnorable c) = some c := by
      rw [← Option.isSome_iff_exists, List.find?_isSome]
      simpa using h
    rw [if_neg h, startsCased, startsCased, List.find?_append, hc, Option.some_or]

/-- The text ends in a final sigma, up to characters that are passed over. -/
def EndsFinal (s : List Char) : Prop :=
  ∃ x y, s = x ++ 'Σ' :: y ∧ startsCased x.reverse = true ∧ y.all isCaseIgnorable = true

/-- The text begins, up to characters that are passed over, with a sigma that is not before a cased
character when `after` follows. -/
def BeginsFinal (s after : List Char) : Prop :=
  ∃ x y, s = x ++ 'Σ' :: y ∧ x.all isCaseIgnorable = true ∧ startsCased (y ++ after) = false

/-- A sigma changes when a cased character follows where it was final, or when one comes before it
and there was none, and it is not before a cased character. -/
private theorem isFinalSigma_eq_iff {before x y after : List Char} :
    isFinalSigma (x.reverse ++ before) (y ++ after) = isFinalSigma x.reverse y ↔
      ¬ (startsCased after = true ∧ startsCased x.reverse = true ∧
          y.all isCaseIgnorable = true) ∧
        ¬ (startsCased before = true ∧ x.all isCaseIgnorable = true ∧
          startsCased (y ++ after) = false) := by
  have hx : x.reverse.all isCaseIgnorable = true → startsCased x.reverse = false :=
    startsCased_of_all
  have hy : y.all isCaseIgnorable = true → startsCased y = false := startsCased_of_all
  rw [isFinalSigma, isFinalSigma, startsCased_append, startsCased_append]
  rw [List.all_reverse] at hx ⊢
  revert hx hy
  generalize startsCased x.reverse = u, startsCased y = w, startsCased before = p,
    startsCased after = q, x.all isCaseIgnorable = a, y.all isCaseIgnorable = b
  revert u w p q a b
  decide

/-- A text keeps its sigmas except where it ends in a final one and a cased character follows, and
where it begins with one and a cased character stands before it. -/
theorem keepsFinals_iff_not {before s after : List Char} :
    KeepsFinals before s after ↔
      ¬ (startsCased after = true ∧ EndsFinal s) ∧
        ¬ (startsCased before = true ∧ BeginsFinal s after) := by
  simp only [KeepsFinals, isFinalSigma_eq_iff]
  constructor
  · intro h
    constructor
    · rintro ⟨ha, x, y, hs, hx, hy⟩
      exact (h x y hs).1 ⟨ha, hx, hy⟩
    · rintro ⟨hb, x, y, hs, hx, hy⟩
      exact (h x y hs).2 ⟨hb, hx, hy⟩
  · rintro ⟨he, hb⟩ x y hs
    exact ⟨fun ⟨ha, hx, hy⟩ ↦ he ⟨ha, x, y, hs, hx, hy⟩,
      fun ⟨ha, hx, hy⟩ ↦ hb ⟨ha, x, y, hs, hx, hy⟩⟩

/-- A text that begins with a sigma before something does so alone. -/
theorem BeginsFinal.alone {s after : List Char} (h : BeginsFinal s after) : BeginsFinal s [] := by
  obtain ⟨x, y, hs, hx, hy⟩ := h
  refine ⟨x, y, hs, hx, ?_⟩
  rw [List.append_nil]
  rw [startsCased_append] at hy
  split at hy
  · next ha => exact startsCased_of_all ha
  · exact hy

/-! ### Parts in lower case -/

/-- The lower case of a beginning begins the lower case of the text, unless it ends in a final sigma
and a cased character follows. -/
theorem lowerChars_prefix_iff {s after : List Char} :
    lowerChars s <+: lowerChars (s ++ after) ↔ ¬ (startsCased after = true ∧ EndsFinal s) := by
  have hk : KeepsFinals [] s after ↔ ¬ (startsCased after = true ∧ EndsFinal s) := by
    rw [keepsFinals_iff_not]
    exact and_iff_left fun h ↦ Bool.false_ne_true h.1
  rw [← hk, keepsFinals_iff, lowerChars.eq_1 (s ++ after), lowerAfter_append]
  constructor
  · rintro ⟨rest, h⟩
    exact (List.append_inj_left h (length_lowerBetween ..).symm).symm
  · intro h
    rw [h]
    exact List.prefix_append ..

/-- The lower case of an end ends the lower case of the text, unless it begins with a sigma before
nothing cased and a cased character stands before it. -/
theorem lowerChars_suffix_iff {before s : List Char} :
    lowerChars s <:+ lowerChars (before ++ s) ↔
      ¬ (startsCased before.reverse = true ∧ BeginsFinal s []) := by
  have hk : KeepsFinals before.reverse s [] ↔
      ¬ (startsCased before.reverse = true ∧ BeginsFinal s []) := by
    rw [keepsFinals_iff_not]
    exact and_iff_right fun h ↦ Bool.false_ne_true h.1
  rw [← hk, keepsFinals_iff, lowerChars.eq_1 (before ++ s), lowerAfter_append, List.append_nil,
    lowerAfter_eq_lowerBetween before.reverse]
  constructor
  · rintro ⟨rest, h⟩
    exact (List.append_inj_right' h (length_lowerBetween ..).symm).symm
  · intro h
    rw [h]
    exact List.suffix_append ..

/-- The lower case of a part stands in the lower case of the text where the part keeps its
sigmas. -/
theorem lowerChars_infix_of_keepsFinals {before s after : List Char}
    (h : KeepsFinals before.reverse s after) :
    lowerChars s <:+: lowerChars (before ++ s ++ after) := by
  rw [lowerChars.eq_1 (before ++ s ++ after), List.append_assoc, lowerAfter_append,
    lowerAfter_append, List.append_nil, keepsFinals_iff.mp h, ← List.append_assoc]
  exact List.infix_append ..

/-! ### Parts that keep their lower case in every text -/

/-- What stands in a list of its own length with one more item in front, and does not begin with
that item, is that list. -/
private theorem eq_of_infix_cons {α : Type} {c : α} {s t : List α} (h : s <:+: c :: t)
    (hl : s.length = t.length) (hc : s.head? ≠ some c) : s = t := by
  rcases List.infix_cons_iff.mp h with h | h
  · rcases List.prefix_cons_iff.mp h with rfl | ⟨rest, rfl, -⟩
    · exact (List.eq_nil_of_length_eq_zero hl.symm).symm
    · exact absurd rfl hc
  · exact h.eq_of_length hl

/-- There is a cased character that is its own lower case, other than any given one. -/
private theorem exists_cased_ne (d : Option Char) :
    ∃ c, (∀ rest, startsCased (c :: rest) = true) ∧
      (∀ before after, lowerAt before c after = [c]) ∧ d ≠ some c := by
  have hcased : ∀ c, isCaseIgnorable c = false → isCased c = true →
      ∀ rest, startsCased (c :: rest) = true := by
    intro c hi hc rest
    rw [startsCased, List.find?_cons_of_pos (by rw [hi]; rfl)]
    exact hc
  by_cases hd : d = some 'a'
  · exact ⟨'b', hcased 'b' (by decide +kernel) (by decide +kernel), fun _ _ ↦ rfl, by simp [hd]⟩
  · exact ⟨'a', hcased 'a' (by decide +kernel) (by decide +kernel), fun _ _ ↦ rfl, hd⟩

/-- The lower case of a part stands in the lower case of every text with the part exactly when the
part neither ends in a final sigma nor begins with a sigma before nothing cased. -/
theorem forall_lowerChars_infix_iff {s : List Char} :
    (∀ t, s <:+: t → lowerChars s <:+: lowerChars t) ↔ ¬ EndsFinal s ∧ ¬ BeginsFinal s [] := by
  constructor
  · intro h
    constructor
    · intro he
      obtain ⟨c, hc, hl, hne⟩ := exists_cased_ne (lowerChars s).getLast?
      have ht : lowerChars (s ++ [c]) = lowerBetween [] s [c] ++ [c] := by
        rw [lowerChars, lowerAfter_append, lowerAfter_cons, hl]
        rfl
      have hi : (lowerChars s).reverse <:+: c :: (lowerBetween [] s [c]).reverse := by
        rw [← List.reverse_concat, ← ht, List.reverse_infix]
        exact h (s ++ [c]) (List.prefix_append s [c]).isInfix
      have hk := eq_of_infix_cons hi (by simp [length_lowerBetween]) (by simpa using hne)
      have hk : KeepsFinals [] s [c] := keepsFinals_iff.mpr (List.reverse_inj.mp hk).symm
      exact (keepsFinals_iff_not.mp hk).1 ⟨hc [], he⟩
    · intro hb
      obtain ⟨c, hc, hl, hne⟩ := exists_cased_ne (lowerChars s).head?
      have ht : lowerChars (c :: s) = c :: lowerBetween [c] s [] := by
        rw [lowerChars, lowerAfter_cons, hl, lowerAfter_eq_lowerBetween]
        rfl
      have hi := h (c :: s) (List.suffix_cons c s).isInfix
      rw [ht] at hi
      have hk := eq_of_infix_cons hi (length_lowerBetween ..).symm hne
      exact (keepsFinals_iff_not.mp (keepsFinals_iff.mpr hk.symm)).2 ⟨hc [], hb⟩
  · rintro ⟨he, hb⟩ t ⟨before, after, rfl⟩
    refine lowerChars_infix_of_keepsFinals (keepsFinals_iff_not.mpr ?_)
    exact ⟨fun h ↦ he h.2, fun h ↦ hb h.2.alone⟩

/-- The lower case of a beginning begins the lower case of every text that goes on from it exactly
when it does not end in a final sigma. -/
theorem forall_lowerChars_prefix_iff {s : List Char} :
    (∀ t, s <+: t → lowerChars s <+: lowerChars t) ↔ ¬ EndsFinal s := by
  constructor
  · intro h he
    obtain ⟨c, hc, -, -⟩ := exists_cased_ne none
    exact lowerChars_prefix_iff.mp (h (s ++ [c]) (List.prefix_append s [c])) ⟨hc [], he⟩
  · rintro he t ⟨after, rfl⟩
    exact lowerChars_prefix_iff.mpr fun h ↦ he h.2

/-- The lower case of an end ends the lower case of every text that leads to it exactly when it does
not begin with a sigma before nothing cased. -/
theorem forall_lowerChars_suffix_iff {s : List Char} :
    (∀ t, s <:+ t → lowerChars s <:+ lowerChars t) ↔ ¬ BeginsFinal s [] := by
  constructor
  · intro h hb
    obtain ⟨c, hc, -, -⟩ := exists_cased_ne none
    exact lowerChars_suffix_iff.mp (h ([c] ++ s) (List.suffix_append [c] s)) ⟨hc [], hb⟩
  · rintro hb t ⟨before, rfl⟩
    exact lowerChars_suffix_iff.mpr fun h ↦ hb h.2

end SeriesFilter.Text
