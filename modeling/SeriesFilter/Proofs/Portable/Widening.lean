import SeriesFilter.Proofs.Filter.Vacuity
import SeriesFilter.Proofs.Portable.Accounting

/-!
# Groups that decoding makes hold of everything

A group goes when no statement below it is known, so that an empty group cannot widen the filter.
The test counts all statements below the group. A group that loses every statement of its own and
every `and` child, and keeps a statement below some `or` child, stays and holds of everything.
-/

namespace SeriesFilter.Portable

namespace Group

mutual

/-- Whether a stored group holds whatever its statements are. -/
def vacuous : Group → Bool
  | ⟨statements, and, or⟩ => (statements.isEmpty && allVacuous and) || anyVacuous or

/-- Whether all of some stored groups hold whatever their statements are. -/
def allVacuous : List Group → Bool
  | [] => true
  | g :: gs => vacuous g && allVacuous gs

/-- Whether any of some stored groups holds whatever its statements are. -/
def anyVacuous : List Group → Bool
  | [] => false
  | g :: gs => vacuous g || anyVacuous gs

end

mutual

/-- Whether what survives of a stored group holds of everything: it has no known statement of its
own and every `and` child is lost or hollow itself, or some `or` child stays that is hollow. -/
def hollow : Group → Bool
  | ⟨statements, and, or⟩ =>
    (!statements.any Statement.isKnown && allHollow and) || anyHollow or

/-- Whether all of some stored groups are lost or hollow. -/
def allHollow : List Group → Bool
  | [] => true
  | g :: gs => (isLost g || hollow g) && allHollow gs

/-- Whether any of some stored groups stays and is hollow. -/
def anyHollow : List Group → Bool
  | [] => false
  | g :: gs => (!isLost g && hollow g) || anyHollow gs

end

/-- A group of a filter is vacuous when the group that stores it is. -/
theorem vacuous_ofGroup (g : SeriesFilter.Group) : (ofGroup g).vacuous = g.vacuous := by
  have hl {gs : List SeriesFilter.Group} (h : ∀ g ∈ gs, (ofGroup g).vacuous = g.vacuous) :
      allVacuous (ofGroups gs) = SeriesFilter.Group.allVacuous gs ∧
        anyVacuous (ofGroups gs) = SeriesFilter.Group.anyVacuous gs := by
    induction gs with
    | nil => exact ⟨rfl, rfl⟩
    | cons g gs ih =>
      obtain ⟨ha, ho⟩ := ih fun c hc ↦ h c (List.mem_cons_of_mem g hc)
      have hg := h g List.mem_cons_self
      exact ⟨by rw [ofGroups, allVacuous, SeriesFilter.Group.allVacuous, hg, ha],
        by rw [ofGroups, anyVacuous, SeriesFilter.Group.anyVacuous, hg, ho]⟩
  induction g with
  | mk statements and or hand hor =>
    rw [ofGroup, vacuous, SeriesFilter.Group.vacuous, (hl hand).1, (hl hor).2, List.isEmpty_map]

private theorem isEmpty_filter (ss : List Statement) :
    (ss.filter Statement.isKnown).isEmpty = !ss.any Statement.isKnown := by
  induction ss with
  | nil => rfl
  | cons s rest ih =>
    rw [List.any_cons, List.filter_cons]
    cases s.isKnown with
    | true => rfl
    | false => exact ih

/-- What survives of a group is vacuous exactly when the group is hollow. -/
theorem vacuous_surviving (g : Group) : g.surviving.vacuous = g.hollow := by
  have hl {gs : List Group} (h : ∀ g ∈ gs, g.surviving.vacuous = g.hollow) :
      allVacuous (survivors gs) = allHollow gs ∧ anyVacuous (survivors gs) = anyHollow gs := by
    induction gs with
    | nil => exact ⟨rfl, rfl⟩
    | cons g gs ih =>
      obtain ⟨ha, ho⟩ := ih fun c hc ↦ h c (List.mem_cons_of_mem g hc)
      have hg := h g List.mem_cons_self
      rw [survivors, allHollow, anyHollow]
      cases g.isLost with
      | true =>
        rw [if_pos rfl, ha, ho]
        exact ⟨rfl, rfl⟩
      | false =>
        rw [if_neg Bool.false_ne_true, allVacuous, anyVacuous, hg, ha, ho]
        exact ⟨rfl, rfl⟩
  induction g with
  | mk statements and or hand hor =>
    rw [surviving, vacuous, hollow, (hl hand).1, (hl hor).2, isEmpty_filter]

/-- A group below which every statement is known is hollow only when it is vacuous. -/
theorem hollow_eq_vacuous (g : Group) (h : ∀ s ∈ g.allStatements, s.isKnown = true) :
    g.hollow = g.vacuous := by
  have hn {g : Group} (h : ∀ s ∈ g.allStatements, s.isKnown = true) : g.isLost = false := by
    rw [isLost]
    cases hs : g.allStatements with
    | nil => rfl
    | cons s rest =>
      rw [List.all_cons, h s (by rw [hs]; exact List.mem_cons_self)]
      rfl
  have hl {gs : List Group} (hg : ∀ g ∈ gs, (∀ s ∈ g.allStatements, s.isKnown = true) →
      g.hollow = g.vacuous) (h : ∀ s ∈ listStatements gs, s.isKnown = true) :
      allHollow gs = allVacuous gs ∧ anyHollow gs = anyVacuous gs := by
    induction gs with
    | nil => exact ⟨rfl, rfl⟩
    | cons g gs ih =>
      rw [listStatements] at h
      obtain ⟨hf, hr⟩ := List.forall_mem_append.mp h
      obtain ⟨ha, ho⟩ := ih (fun c hc ↦ hg c (List.mem_cons_of_mem g hc)) hr
      have hh := hg g List.mem_cons_self hf
      rw [allHollow, anyHollow, allVacuous, anyVacuous, hn hf, hh, ha, ho]
      exact ⟨rfl, rfl⟩
  induction g with
  | mk statements and or hand hor =>
    rw [allStatements] at h
    obtain ⟨h, ho⟩ := List.forall_mem_append.mp h
    obtain ⟨hs, ha⟩ := List.forall_mem_append.mp h
    have he : (!statements.any Statement.isKnown) = statements.isEmpty := by
      rw [← isEmpty_filter, List.filter_eq_self.mpr hs]
    rw [hollow, vacuous, (hl hand ha).1, (hl hor ho).2, he]

end Group

namespace Document

variable {document : Document} {d : Decoded} (h : document.Accounted d)
include h

/-- The tree of the filter holds of everything when the tree of the document is lost or hollow, or
when there is none. -/
theorem Accounted.forall_treeHolds_iff :
    (∀ p, d.filter.treeHolds p = true) ↔
      ∀ root, document.group = some root → root.isLost = true ∨ root.hollow = true := by
  have ht := h.tree
  cases hd : document.group with
  | none =>
    rw [hd] at ht
    have hn : d.filter.group = none := by simpa using ht
    simp [Filter.treeHolds, hn]
  | some root =>
    rw [hd, Option.filter_some] at ht
    cases hl : root.isLost with
    | true =>
      rw [hl] at ht
      have hn : d.filter.group = none := by simpa using ht
      simp [Filter.treeHolds, hn, hl]
    | false =>
      rw [hl] at ht
      obtain ⟨kept, hk, hs⟩ := Option.map_eq_some_iff.mp ht
      have hv : root.hollow = kept.vacuous := by
        rw [← Group.vacuous_surviving, ← hs, Group.vacuous_ofGroup]
      have hf := SeriesFilter.Group.vacuous_iff_forall_holds (g := kept)
      simp [Filter.treeHolds, hk, hl, hv, hf]

/-- The filter holds of everything when no flat statement is known and the tree asks nothing. -/
theorem Accounted.forall_holds_iff :
    (∀ p, (d.filter.flatHolds p && d.filter.treeHolds p) = true) ↔
      (∀ s ∈ document.statements, s.isKnown = false) ∧
        ∀ root, document.group = some root → root.isLost = true ∨ root.hollow = true := by
  have hf : d.filter.statements = [] ↔ ∀ s ∈ document.statements, s.isKnown = false := by
    rw [← List.map_eq_nil_iff (f := Statement.ofStatement), h.flat, List.filter_eq_nil_iff]
    simp
  have hj : (∀ p, d.filter.flatHolds p = true) ↔ d.filter.statements = [] :=
    Combination.forall_joins_iff
  rw [← h.forall_treeHolds_iff, ← hf, ← hj]
  simp only [Bool.and_eq_true, forall_and]

end Document

/-- A group that stays when a payload is decoded holds of everything exactly when it is hollow, so
decoding keeps a group from holding of everything unless it is hollow and was not vacuous before;
where nothing below it is dropped the two agree. The whole filter holds of everything exactly when
no flat statement is known and its tree is lost or hollow. -/
theorem decodePayload_vacuous_iff {payload : List UInt8} {d : Decoded}
    (h : decodePayload payload = .ok d) :
    ∃ document, (Json.Document.ofBytes payload).read Document.reader = .ok document ∧
      (∀ path g, document.groupAt? path = some g → (∀ n, path.take n ∉ d.losses.removed) →
        ∃ place kept, place.length = path.length ∧
          (d.filter.group.bind fun root ↦ root.at? place) = some kept ∧
          Group.ofGroup kept = g.surviving ∧
          ((∀ p, kept.holds p = true) ↔ g.hollow = true) ∧
          ((g.vacuous = false → kept.vacuous = false) ↔ g.vacuous = true ∨ g.hollow = false) ∧
          ((∀ s ∈ g.allStatements, s.isKnown = true) → g.hollow = g.vacuous)) ∧
      ((∀ p, (d.filter.flatHolds p && d.filter.treeHolds p) = true) ↔
        (∀ s ∈ document.statements, s.isKnown = false) ∧
          ∀ root, document.group = some root → root.isLost = true ∨ root.hollow = true) := by
  obtain ⟨document, hr, ha⟩ := accounted_of_decodePayload h
  refine ⟨document, hr, ?_, ha.forall_holds_iff⟩
  intro path g hg hn
  obtain ⟨place, kept, hl, hk, hs⟩ := ha.exists_place hg hn
  have hv : kept.vacuous = g.hollow := by
    rw [← Group.vacuous_ofGroup, hs, Group.vacuous_surviving]
  refine ⟨place, kept, hl, hk, hs, ?_, ?_, g.hollow_eq_vacuous⟩
  · rw [← SeriesFilter.Group.vacuous_iff_forall_holds, hv]
  · rw [hv]
    cases g.vacuous <;> simp

/-- A tree whose `or` child has an unknown statement of its own, and a known one below its own `or`
child. -/
private def widenedDocument : Document where
  group := some ⟨[⟨1, 0, "Wanted"⟩], [], [⟨[⟨99, 0, "x"⟩], [], [⟨[⟨1, 0, "Also"⟩], [], []⟩]⟩]⟩

private theorem read_widenedDocument :
    (Json.Document.ofBytes widenedDocument.payload).read Document.reader = .ok widenedDocument := by
  rw [Document.read_payload]
  rfl

/-- What decoding makes of that tree. -/
private def widenedFilter : Filter where
  group := some ⟨[⟨.seriesName, .equal, "Wanted"⟩], [],
    [⟨[], [], [⟨[⟨.seriesName, .equal, "Also"⟩], [], []⟩]⟩]⟩

private theorem decodePayload_widenedDocument :
    decodePayload widenedDocument.payload =
      .ok ⟨widenedFilter, ⟨[⟨.inGroup [.or 0] 0, 99, 0, "x", .unknownField⟩], []⟩, none⟩ := by
  rw [decodePayload, read_widenedDocument]
  rfl

/-- The `or` child of that tree stays and holds of everything, and so does the whole filter. -/
theorem decodePayload_vacuous_iff_widened :
    decodePayload widenedDocument.payload =
      .ok ⟨widenedFilter, ⟨[⟨.inGroup [.or 0] 0, 99, 0, "x", .unknownField⟩], []⟩, none⟩ ∧
    (∃ kept : SeriesFilter.Group, (∀ p, kept.holds p = true) ∧
      Group.ofGroup kept = ⟨[], [], [⟨[⟨1, 0, "Also"⟩], [], []⟩]⟩) ∧
    ∀ p, (widenedFilter.flatHolds p && widenedFilter.treeHolds p) = true := by
  obtain ⟨document, hr, hg, hf⟩ := decodePayload_vacuous_iff decodePayload_widenedDocument
  obtain rfl := Except.ok.inj (read_widenedDocument.symm.trans hr)
  refine ⟨decodePayload_widenedDocument, ?_, hf.mpr ⟨nofun, ?_⟩⟩
  · obtain ⟨place, kept, -, -, hs, hv, -, -⟩ := hg [.or 0] _ rfl fun _ ↦ List.not_mem_nil
    exact ⟨kept, hv.mpr rfl, hs⟩
  · rintro root ⟨⟩
    exact .inr rfl

/-- A group that was not vacuous as it was stored may hold of everything when statements are dropped
below it, and may stand where the whole filter then holds of everything. -/
theorem not_forall_stays_not_vacuous :
    ¬ ∀ (payload : List UInt8) (document : Document) (d : Decoded),
      (Json.Document.ofBytes payload).read Document.reader = .ok document →
      decodePayload payload = .ok d →
      ∀ path g, document.groupAt? path = some g → (∀ n, path.take n ∉ d.losses.removed) →
        (∃ s ∈ g.allStatements, s.isKnown = false) → g.vacuous = false →
        ∀ place kept, (d.filter.group.bind fun root ↦ root.at? place) = some kept →
          Group.ofGroup kept = g.surviving → kept.vacuous = false := by
  intro h
  have hv := h _ _ _ read_widenedDocument decodePayload_widenedDocument [.or 0] _ rfl
    (fun _ ↦ List.not_mem_nil) ⟨⟨99, 0, "x"⟩, List.mem_cons_self, rfl⟩ rfl [.or 0] _ rfl rfl
  cases hv

end SeriesFilter.Portable
