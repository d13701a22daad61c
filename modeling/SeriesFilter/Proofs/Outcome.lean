/-!
# Outcomes

A computation that can fail ends well when each of its parts does, one after the other.
-/

namespace SeriesFilter

/-- One part after another ends well when both do. -/
theorem bind_eq_ok_iff {x : Except ε α} {f : α → Except ε β} {b : β} :
    x >>= f = .ok b ↔ ∃ a, x = .ok a ∧ f a = .ok b := by
  cases x with
  | error e => simp [bind, Except.bind]
  | ok a => simp [bind, Except.bind]

/-- One part after another fails when the first does, or the second after it. -/
theorem bind_eq_error_iff {x : Except ε α} {f : α → Except ε β} {e : ε} :
    x >>= f = .error e ↔ x = .error e ∨ ∃ a, x = .ok a ∧ f a = .error e := by
  cases x with
  | error e => simp [bind, Except.bind]
  | ok a => simp [bind, Except.bind]

/-- A result is turned into another when there is one. -/
theorem map_eq_ok_iff {x : Except ε α} {f : α → β} {b : β} :
    x.map f = .ok b ↔ ∃ a, x = .ok a ∧ f a = b := by
  cases x with
  | error e => simp [Except.map]
  | ok a => simp [Except.map]

/-- A failure is not turned into anything else. -/
theorem map_eq_error_iff {x : Except ε α} {f : α → β} {e : ε} :
    x.map f = .error e ↔ x = .error e := by
  cases x with
  | error e => simp [Except.map]
  | ok a => simp [Except.map]

/-- When one part and what follows it each have the same end up to a change of the result, so have
both together. -/
theorem bind_eq_map_bind {x : Except ε α} {x' : Except ε α'} {k : α → Except ε β}
    {k' : α' → Except ε β'} {change : α → α'} {changed : β → β'} (hx : x' = x.map change)
    (hk : ∀ a, k' (change a) = (k a).map changed) : x' >>= k' = (x >>= k).map changed := by
  rw [hx]
  cases x with
  | error e => rfl
  | ok a => exact hk a

/-- A failure told in other words is still one. -/
theorem mapError_eq_ok_iff {x : Except ε α} {f : ε → δ} {a : α} :
    x.mapError f = .ok a ↔ x = .ok a := by
  cases x with
  | error e => exact iff_of_false nofun nofun
  | ok b =>
    constructor
    · rintro ⟨⟩
      rfl
    · rintro ⟨⟩
      rfl

/-- A failure told in other words is that failure. -/
theorem mapError_eq_error_iff {x : Except ε α} {f : ε → δ} {d : δ} :
    x.mapError f = .error d ↔ ∃ e, x = .error e ∧ f e = d := by
  cases x with
  | error e =>
    constructor
    · rintro ⟨⟩
      exact ⟨e, rfl, rfl⟩
    · rintro ⟨other, ⟨⟩, rfl⟩
      rfl
  | ok b =>
    constructor
    · rintro ⟨⟩
    · rintro ⟨e, ⟨⟩, -⟩

/-- A result is there when it is there as an option, where it can be compared. -/
theorem toOption_eq_some_iff {x : Except ε α} {a : α} : x.toOption = some a ↔ x = .ok a := by
  cases x with
  | error e => simp [Except.toOption]
  | ok b => simp [Except.toOption]

/-- What holds of every result of a function holds of all its results over a list. -/
theorem forall_mem_of_mapM {f : α → Except ε β} {P : β → Prop} (h : ∀ a b, f a = .ok b → P b)
    {as : List α} {bs : List β} (hm : as.mapM f = .ok bs) : ∀ b ∈ bs, P b := by
  induction as generalizing bs with
  | nil =>
    cases hm
    nofun
  | cons a rest ih =>
    rw [List.mapM_cons, bind_eq_ok_iff] at hm
    obtain ⟨b, hb, hm⟩ := hm
    obtain ⟨more, hr, he⟩ := bind_eq_ok_iff.mp hm
    cases he
    exact List.forall_mem_cons.mpr ⟨h a b hb, ih hr⟩

end SeriesFilter
