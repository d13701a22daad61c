import SeriesFilter.Proofs.Filter.Meaning

/-!
# Groups that hold of everything

A group holds whatever its statements are exactly when its shape alone makes it hold: it has no
statement of its own and its `and` children are such groups, or some `or` child is. More true
statements never make a group false, so it is enough to look at it with all statements false.
-/

namespace SeriesFilter

namespace Group

mutual

/-- Whether a group holds whatever its statements are. -/
def vacuous : Group → Bool
  | ⟨statements, and, or⟩ => (statements.isEmpty && allVacuous and) || anyVacuous or

/-- Whether all of some groups hold whatever their statements are. -/
def allVacuous : List Group → Bool
  | [] => true
  | g :: gs => vacuous g && allVacuous gs

/-- Whether any of some groups holds whatever its statements are. -/
def anyVacuous : List Group → Bool
  | [] => false
  | g :: gs => vacuous g || anyVacuous gs

end

/-- A group is vacuous when it holds with all statements false. -/
theorem vacuous_eq_holds (g : Group) : g.vacuous = g.holds fun _ ↦ false := by
  have hl {gs : List Group} (h : ∀ g ∈ gs, g.vacuous = g.holds fun _ ↦ false) :
      allVacuous gs = allHold (fun _ ↦ false) gs ∧
        anyVacuous gs = anyHolds (fun _ ↦ false) gs := by
    induction gs with
    | nil => exact ⟨rfl, rfl⟩
    | cons g gs ih =>
      obtain ⟨ha, ho⟩ := ih fun c hc ↦ h c (List.mem_cons_of_mem g hc)
      have hg := h g List.mem_cons_self
      exact ⟨by rw [allVacuous, allHold, hg, ha], by rw [anyVacuous, anyHolds, hg, ho]⟩
  induction g with
  | mk statements and or hand hor =>
    have hs : (statements.all fun _ ↦ false) = statements.isEmpty := by
      cases statements <;> rfl
    rw [vacuous, holds, hs, (hl hand).1, (hl hor).2]

/-- A group that holds still holds when more statements do. -/
theorem holds_mono {p q : Statement → Bool} (hpq : ∀ s, p s = true → q s = true) (g : Group)
    (h : g.holds p = true) : g.holds q = true := by
  induction g with
  | mk statements and or hand hor =>
    rw [holds_iff] at h ⊢
    rcases h with ⟨hs, ha⟩ | ⟨child, hc, ho⟩
    · exact .inl ⟨fun s hm ↦ hpq s (hs s hm), fun child hm ↦ hand child hm (ha child hm)⟩
    · exact .inr ⟨child, hc, hor child hc ho⟩

/-- A group is vacuous exactly when it holds whatever its statements are. -/
theorem vacuous_iff_forall_holds {g : Group} : g.vacuous = true ↔ ∀ p, g.holds p = true := by
  rw [vacuous_eq_holds]
  constructor
  · intro h p
    exact holds_mono (fun _ hs ↦ absurd hs Bool.false_ne_true) g h
  · intro h
    exact h _

end Group

/-- Statements hold under a combination whatever they are exactly when there are none. -/
theorem Combination.forall_joins_iff {combination : Combination} {ss : List Statement} :
    (∀ p, combination.joins p ss = true) ↔ ss = [] := by
  constructor
  · intro h
    have hf := h fun _ ↦ false
    cases ss with
    | nil => rfl
    | cons s rest =>
      cases combination with
      | and => exact absurd hf Bool.false_ne_true
      | or => simp [joins] at hf
  · rintro rfl p
    cases combination <;> rfl

end SeriesFilter
