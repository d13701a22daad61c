import SeriesFilter.Proofs.Series.Order

/-!
# When an order of entities is total

Entities whose keys are of one shape are ordered totally up to ties. Between keys of different
shapes only the identities decide, and they need not agree with the keys: an entity of another
shape can stand behind one entity and before a second that precedes the first by its key. Such a
crossing is all that keeps an order from being total.
-/

namespace SeriesFilter

open Decimal

namespace SortKey

/-- The shapes of keys. -/
inductive Shape where
  | text | number | date
  deriving DecidableEq, Repr

/-- The shape of a key. -/
def shape : SortKey → Shape
  | .text _ => .text
  | .number _ => .number
  | .date _ => .date

/-- Keys of different shapes tie. -/
theorem compare_of_shape_ne : ∀ {a b : SortKey}, a.shape ≠ b.shape → a.compare b = .eq
  | .text _, .text _, h | .number _, .number _, h | .date _, .date _, h => absurd rfl h
  | .text _, .number _, _ | .text _, .date _, _ | .number _, .text _, _ | .number _, .date _, _
  | .date _, .text _, _ | .date _, .number _, _ => rfl

/-- Comparing keys the other way round gives the reverse, whatever their shapes. -/
instance : Std.OrientedCmp SortKey.compare where
  eq_swap := by
    intro a b
    by_cases h : a.shape = b.shape
    · cases a <;> cases b <;> cases h
      · change compareTexts _ _ = (compareTexts _ _).swap
        exact Std.OrientedCmp.eq_swap
      · change Number.compare _ _ = (Number.compare _ _).swap
        exact Std.OrientedCmp.eq_swap
      · change compareDates _ _ = (compareDates _ _).swap
        exact Std.OrientedCmp.eq_swap
    · rw [compare_of_shape_ne h, compare_of_shape_ne (Ne.symm h)]
      rfl

/-- Keys of one shape are ordered transitively. -/
theorem isLE_trans : ∀ {a b c : SortKey}, a.shape = b.shape → b.shape = c.shape →
    (a.compare b).isLE → (b.compare c).isLE → (a.compare c).isLE
  | .text a, .text b, .text c, _, _, hab, hbc => by
    change (compareTexts a c).isLE
    exact Std.TransCmp.isLE_trans hab hbc
  | .number a, .number b, .number c, _, _, hab, hbc => by
    change (a.compare c).isLE
    exact Std.TransCmp.isLE_trans hab hbc
  | .date a, .date b, .date c, _, _, hab, hbc => by
    change (compareDates a c).isLE
    exact Std.TransCmp.isLE_trans hab hbc

end SortKey

namespace SortOptions

variable [Filterable α] (s : SortOptions)

/-- The shape of the key that an entity has for an order. -/
def shape (a : α) : SortKey.Shape :=
  (Filterable.sortKey a s.field).shape

/-- The order of entities by their keys alone, in the direction of the order. -/
def byKey (a b : α) : Ordering :=
  let byKey := (Filterable.sortKey a s.field).compare (Filterable.sortKey b s.field)
  if s.ascending then byKey else byKey.swap

/-- Entities with keys of different shapes tie by their keys. -/
theorem byKey_of_shape_ne {a b : α} (h : s.shape a ≠ s.shape b) : s.byKey a b = .eq := by
  rw [byKey, SortKey.compare_of_shape_ne h]
  split <;> rfl

/-- The order by keys, the other way round, is its reverse. -/
instance : Std.OrientedCmp (s.byKey : α → α → Ordering) where
  eq_swap := by
    intro a b
    have h : (Filterable.sortKey a s.field).compare (Filterable.sortKey b s.field) =
        ((Filterable.sortKey b s.field).compare (Filterable.sortKey a s.field)).swap :=
      Std.OrientedCmp.eq_swap
    rw [byKey, byKey, h]
    split <;> rfl

/-- An order of entities, the other way round, is its reverse. -/
instance : Std.OrientedCmp (s.compare : α → α → Ordering) :=
  inferInstanceAs (Std.OrientedCmp (compareLex s.byKey (compareOn Filterable.id)))

/-- Entities with keys of one shape are ordered totally, up to ties. -/
theorem transCmp_ofShape (shape : SortKey.Shape) :
    Std.TransCmp fun a b : { a : α // s.shape a = shape } ↦ s.compare a.val b.val := by
  have hk : Std.TransCmp fun a b : { a : α // s.shape a = shape } ↦ s.byKey a.val b.val := by
    refine { eq_swap := Std.OrientedCmp.eq_swap, isLE_trans := ?_ }
    rintro ⟨a, ha⟩ ⟨b, hb⟩ ⟨c, hc⟩ hab hbc
    cases hs : s.ascending with
    | true =>
      simp only [byKey, hs, if_true] at hab hbc ⊢
      exact SortKey.isLE_trans (ha.trans hb.symm) (hb.trans hc.symm) hab hbc
    | false =>
      -- against the direction of the keys, the chain is run through from its end
      simp only [byKey, hs, Bool.false_eq_true, if_false] at hab hbc ⊢
      rw [← Std.OrientedCmp.eq_swap] at hab hbc ⊢
      exact SortKey.isLE_trans (hc.trans hb.symm) (hb.trans ha.symm) hbc hab
  exact inferInstanceAs (Std.TransCmp (compareLex
    (fun a b : { a : α // s.shape a = shape } ↦ s.byKey a.val b.val)
    (compareOn fun a ↦ Filterable.id a.val)))

variable {s} {a b c : α}

/-- An entity does not come after another when its key precedes the other's, or when the keys tie
and its identity is not greater. -/
theorem compare_ne_gt_iff : s.compare a b ≠ .gt ↔
    s.byKey a b = .lt ∨ s.byKey a b = .eq ∧ Filterable.id a ≤ Filterable.id b := by
  change (s.byKey a b).then (Ord.compare (Filterable.id a) (Filterable.id b)) ≠ .gt ↔ _
  rw [ne_eq, Ordering.then_eq_gt, Int.compare_eq_gt]
  cases s.byKey a b <;> simp

/-- Between keys of different shapes the identities decide. -/
theorem compare_ne_gt_iff_of_shape_ne (h : s.shape a ≠ s.shape b) :
    s.compare a b ≠ .gt ↔ Filterable.id a ≤ Filterable.id b := by
  rw [compare_ne_gt_iff, s.byKey_of_shape_ne h]
  simp

/-- Entities of which one precedes the other by its key have keys of one shape. -/
theorem shape_eq_of_byKey (h : s.byKey a b = .lt) : s.shape a = s.shape b := by
  refine Decidable.of_not_not fun hs ↦ ?_
  rw [s.byKey_of_shape_ne hs] at h
  cases h

variable (s)

/-- An entity crosses two others: the first precedes the second by its key, yet by identity the one
that crosses them, with a key of another shape, stands behind the second and before the first. -/
structure Crosses (c a b : α) : Prop where
  byKey : s.byKey a b = .lt
  shape : s.shape c ≠ s.shape a
  behind : Filterable.id b ≤ Filterable.id c
  before : Filterable.id c ≤ Filterable.id a

variable {s}

/-- A crossing is a way from the second entity back to the first, which precedes it. -/
theorem Crosses.cycle (h : s.Crosses c a b) :
    s.compare b c ≠ .gt ∧ s.compare c a ≠ .gt ∧ s.compare b a = .gt := by
  have hab := shape_eq_of_byKey h.byKey
  refine ⟨(compare_ne_gt_iff_of_shape_ne ?_).mpr h.behind,
    (compare_ne_gt_iff_of_shape_ne h.shape).mpr h.before, Std.OrientedCmp.gt_of_lt ?_⟩
  · rw [← hab]
    exact h.shape.symm
  · exact Ordering.then_eq_lt.mpr (.inl h.byKey)

/-- An entity with a key of another shape that closes a cycle crosses the other two. -/
theorem crosses_of_byKey (h : s.byKey a b = .lt) (hc : s.shape c ≠ s.shape a)
    (hbc : s.compare b c ≠ .gt) (hca : s.compare c a ≠ .gt) : s.Crosses c a b := by
  have hs : s.shape b ≠ s.shape c := by
    rw [← shape_eq_of_byKey h]
    exact hc.symm
  exact ⟨h, hc, (compare_ne_gt_iff_of_shape_ne hs).mp hbc,
    (compare_ne_gt_iff_of_shape_ne hc).mp hca⟩

/-- Where an order fails to be transitive, one of the three entities crosses the other two. -/
theorem crosses_of_cycle (hab : s.compare a b ≠ .gt) (hbc : s.compare b c ≠ .gt)
    (hac : s.compare a c = .gt) : s.Crosses c a b ∨ s.Crosses a b c ∨ s.Crosses b c a := by
  have hca : s.compare c a ≠ .gt := by
    rw [Std.OrientedCmp.lt_of_gt hac]
    nofun
  have hs : ¬ (s.shape a = s.shape c ∧ s.shape b = s.shape c) := by
    rintro ⟨ha, hb⟩
    rw [ne_eq, ← Ordering.isLE_iff_ne_gt] at hab hbc
    have ht : (s.compare a c).isLE := (s.transCmp_ofShape (s.shape c)).isLE_trans
      (a := ⟨a, ha⟩) (b := ⟨b, hb⟩) (c := ⟨c, rfl⟩) hab hbc
    rw [hac] at ht
    cases ht
  -- one step of the cycle goes by the keys, since the identities alone make no cycle
  obtain hk | ⟨-, hi⟩ := compare_ne_gt_iff.mp hab
  · refine .inl (crosses_of_byKey hk (fun he ↦ hs ⟨he.symm, ?_⟩) hbc hca)
    rw [← shape_eq_of_byKey hk, he]
  obtain hk | ⟨-, hj⟩ := compare_ne_gt_iff.mp hbc
  · have hbc := shape_eq_of_byKey hk
    exact .inr (.inl (crosses_of_byKey hk (fun he ↦ hs ⟨he.trans hbc, hbc⟩) hca hab))
  have hlt : s.compare c a = .lt := Std.OrientedCmp.lt_of_gt hac
  obtain hk | ⟨-, hk⟩ := Ordering.then_eq_lt.mp hlt
  · have hca := shape_eq_of_byKey hk
    exact .inr (.inr (crosses_of_byKey hk (fun he ↦ hs ⟨hca.symm, he⟩) hab hbc))
  · have := Int.compare_eq_lt.mp hk
    omega

variable (s)

/-- Every order of entities turns around when its sides are exchanged, and no entity comes before
or after itself. Among some entities it is transitive exactly when none of them crosses two
others. -/
theorem compare_trans_iff_forall_not_crosses (rows : List α) :
    (∀ a b : α, s.compare a b = (s.compare b a).swap) ∧ (∀ a : α, s.compare a a = .eq) ∧
    ((∀ a ∈ rows, ∀ b ∈ rows, ∀ c ∈ rows,
        s.compare a b ≠ .gt → s.compare b c ≠ .gt → s.compare a c ≠ .gt) ↔
      ∀ a ∈ rows, ∀ b ∈ rows, ∀ c ∈ rows, ¬ s.Crosses c a b) := by
  refine ⟨fun a b ↦ Std.OrientedCmp.eq_swap, fun a ↦ Std.ReflCmp.compare_self, ?_, ?_⟩
  · intro h a ha b hb c hc hx
    obtain ⟨hbc, hca, hba⟩ := hx.cycle
    exact h b hb c hc a ha hbc hca hba
  · intro h a ha b hb c hc hab hbc hac
    obtain hx | hx | hx := crosses_of_cycle hab hbc hac
    · exact h a ha b hb c hc hx
    · exact h b hb c hc a ha hx
    · exact h c hc a ha b hb hx

/-- An entity of which only identity and key matter: it has the same key for every order. -/
private structure Keyed where
  id : Int
  key : SortKey

private instance : Filterable Keyed := ⟨Keyed.id, fun _ _ ↦ none, fun k _ ↦ k.key⟩

/-- A number between two texts, which are ordered against their identities, makes a cycle. -/
theorem not_forall_compare_trans :
    ¬ ∀ (α : Type) [Filterable α] (s : SortOptions) (a b c : α),
      s.compare a b = (s.compare b a).swap ∧ s.compare a a = .eq ∧
        (s.compare a b ≠ .gt → s.compare b c ≠ .gt → s.compare a c ≠ .gt) := by
  intro h
  have ht := (h Keyed {} ⟨1, .text "z"⟩ ⟨2, .number .zero⟩ ⟨3, .text "a"⟩).2.2
  exact ht (by decide) (by decide) (by decide)

end SortOptions

end SeriesFilter
