import SeriesFilter.Portable.Codec
import SeriesFilter.Proofs.Portable.Losses
import SeriesFilter.Proofs.Portable.Payload

/-!
# Decoding accounts for everything

Every statement of a document is either kept, with its numbers and its literal, or dropped and
reported with its place and the reason; every group is either kept without the statements and
children that are lost, or removed. Nothing is reported twice, and nothing that was not there.
-/

namespace SeriesFilter.Portable

namespace Document

/-- What decoding makes of a document and what it reports: every statement is kept or reported, and
every group is reported or stays with what survives of it, unless a group around it is removed. -/
structure Accounted (document : Document) (d : Decoded) : Prop where
  /-- The known statements are kept, in the order in which they are written. -/
  statements : d.filter.allStatements.map Statement.ofStatement =
    document.allStatements.filter Statement.isKnown
  /-- The other statements are dropped, in the order in which they are written. -/
  dropped : d.losses.dropped.map Dropped.statement =
    document.allStatements.filter fun s ↦ !s.isKnown
  /-- Every report says where its statement stands in the document, and why it is dropped. -/
  mem_dropped : ∀ x, x ∈ d.losses.dropped ↔
    ∃ s, document.statementAt? x.location = some s ∧ s.isKnown = false ∧
      x = s.droppedFrom x.location
  /-- The reports stand in the order of the places, each of which is met once. -/
  dropped_before : d.losses.dropped.Pairwise fun x y ↦ x.location.before y.location
  /-- The removed groups are those with statements below them of which none is known. -/
  mem_removed : ∀ path, path ∈ d.losses.removed ↔
    ∃ g, document.groupAt? path = some g ∧ g.isLost = true
  /-- Removed groups are reported once, after the ones below them. -/
  removed_before : d.losses.removed.Pairwise (GroupPath.before false)
  /-- The flat statements stay flat. -/
  flat : d.filter.statements.map Statement.ofStatement =
    document.statements.filter Statement.isKnown
  /-- The tree is what survives of the tree of the document. -/
  tree : d.filter.group.map Group.ofGroup =
    (document.group.filter fun g ↦ !g.isLost).map Group.surviving

section Resolve

variable (document : Document) (combination : Combination)

private theorem dropped_resolve :
    (document.resolve combination).losses.dropped =
      (resolveStatements .flat 0 document.statements).2 ++
        (document.groups true).flatMap fun x ↦
          (resolveStatements (.inGroup x.1) 0 x.2.statements).2 := by
  obtain ⟨name, statements, number, sort, limit, group⟩ := document
  rw [groups]
  cases group with
  | none => rfl
  | some g =>
    rw [Option.toList_some, List.flatMap_singleton]
    exact congrArg (_ ++ ·) (g.dropped_resolve [])

private theorem removed_resolve :
    (document.resolve combination).losses.removed =
      (document.groups false).flatMap fun x ↦ if x.2.isLost then [x.1] else [] := by
  obtain ⟨name, statements, number, sort, limit, group⟩ := document
  rw [groups]
  cases group with
  | none => rfl
  | some g =>
    rw [Option.toList_some, List.flatMap_singleton]
    exact g.removed_resolve []

private theorem group_resolve :
    (document.resolve combination).filter.group = document.group.bind fun g ↦ (g.resolve []).1 := by
  obtain ⟨name, statements, number, sort, limit, group⟩ := document
  cases group <;> rfl

private theorem mem_dropped_resolve (x : Dropped) :
    x ∈ (document.resolve combination).losses.dropped ↔
      ∃ s, document.statementAt? x.location = some s ∧ s.isKnown = false ∧
        x = s.droppedFrom x.location := by
  rw [dropped_resolve, List.mem_append, mem_dropped_resolveStatements, List.mem_flatMap]
  constructor
  · rintro (⟨i, s, hs, hu, rfl⟩ | ⟨⟨path, g⟩, hg, hx⟩)
    · rw [Nat.zero_add]
      exact ⟨s, hs, hu, rfl⟩
    · obtain ⟨i, s, hs, hu, rfl⟩ := (mem_dropped_resolveStatements _ 0 _).mp hx
      rw [Nat.zero_add]
      refine ⟨s, ?_, hu, rfl⟩
      change (document.groupAt? path).bind _ = _
      rw [mem_groups.mp hg]
      exact hs
  · rintro ⟨s, hs, hu, hx⟩
    cases hl : x.location with
    | flat i =>
      rw [hl] at hs hx
      exact .inl ⟨i, s, hs, hu, by rw [Nat.zero_add, hx]⟩
    | inGroup path i =>
      rw [hl] at hs hx
      obtain ⟨g, hg, hs⟩ := Option.bind_eq_some_iff.mp hs
      refine .inr ⟨(path, g), mem_groups.mpr hg, ?_⟩
      exact (mem_dropped_resolveStatements _ 0 _).mpr ⟨i, s, hs, hu, by rw [Nat.zero_add, hx]⟩

private theorem pairwise_dropped_resolve :
    (document.resolve combination).losses.dropped.Pairwise fun x y ↦
      x.location.before y.location := by
  rw [dropped_resolve, List.pairwise_append, List.pairwise_flatMap]
  refine ⟨?_, ⟨?_, ?_⟩, ?_⟩
  · refine (pairwise_dropped_resolveStatements _ 0 _).imp ?_
    rintro x y ⟨i, j, hij, hx, hy⟩
    rw [hx, hy]
    exact hij
  · rintro ⟨path, g⟩ -
    refine (pairwise_dropped_resolveStatements _ 0 _).imp ?_
    rintro x y ⟨i, j, hij, hx, hy⟩
    rw [hx, hy]
    exact .inr ⟨rfl, hij⟩
  · refine document.pairwise_groups.imp ?_
    rintro ⟨path, g⟩ ⟨other, next⟩ hb x hx y hy
    obtain ⟨i, s, -, -, rfl⟩ := (mem_dropped_resolveStatements _ 0 _).mp hx
    obtain ⟨j, t, -, -, rfl⟩ := (mem_dropped_resolveStatements _ 0 _).mp hy
    exact .inl hb
  · rintro x hx y hy
    obtain ⟨⟨path, g⟩, -, hy⟩ := List.mem_flatMap.mp hy
    obtain ⟨i, s, -, -, rfl⟩ := (mem_dropped_resolveStatements _ 0 _).mp hx
    obtain ⟨j, t, -, -, rfl⟩ := (mem_dropped_resolveStatements _ 0 _).mp hy
    trivial

private theorem mem_removed_resolve (path : GroupPath) :
    path ∈ (document.resolve combination).losses.removed ↔
      ∃ g, document.groupAt? path = some g ∧ g.isLost = true := by
  rw [removed_resolve, List.mem_flatMap]
  constructor
  · rintro ⟨⟨other, g⟩, hg, hp⟩
    split at hp
    · next hl =>
      rw [List.mem_singleton] at hp
      subst hp
      exact ⟨g, mem_groups.mp hg, hl⟩
    · cases hp
  · rintro ⟨g, hg, hl⟩
    exact ⟨(path, g), mem_groups.mpr hg, by rw [if_pos hl]; exact List.mem_singleton_self path⟩

private theorem pairwise_removed_resolve :
    (document.resolve combination).losses.removed.Pairwise (GroupPath.before false) := by
  rw [removed_resolve, List.pairwise_flatMap]
  constructor
  · rintro ⟨path, g⟩ -
    split
    · exact List.pairwise_singleton _ _
    · exact .nil
  · refine document.pairwise_groups.imp ?_
    rintro ⟨path, g⟩ ⟨other, next⟩ hb x hx y hy
    split at hx
    · split at hy
      · rw [List.mem_singleton.mp hx, List.mem_singleton.mp hy]
        exact hb
      · cases hy
    · cases hx

end Resolve

/-- Decoding accounts for everything in a document. -/
theorem accounted_resolve (document : Document) (combination : Combination) :
    document.Accounted (document.resolve combination) where
  statements := by
    obtain ⟨name, statements, number, sort, limit, group⟩ := document
    rw [allStatements, List.filter_append, ← map_kept_resolveStatements .flat 0,
      Filter.allStatements, List.map_append, group_resolve]
    cases group with
    | none => rfl
    | some g =>
      refine congrArg (_ ++ ·) ?_
      rw [Option.bind_some, Option.map_some, Option.getD_some, ← g.map_kept_resolve []]
      cases (g.resolve []).1 with
      | none => rfl
      | some kept =>
        rw [Option.toList_some, List.flatMap_singleton]
        rfl
  dropped := by
    obtain ⟨name, statements, number, sort, limit, group⟩ := document
    rw [allStatements, List.filter_append, ← map_statement_dropped_resolveStatements .flat 0]
    cases group with
    | none => exact List.map_append
    | some g =>
      rw [Option.map_some, Option.getD_some, ← g.map_statement_dropped_resolve [],
        ← List.map_append]
      rfl
  mem_dropped := mem_dropped_resolve document combination
  dropped_before := pairwise_dropped_resolve document combination
  mem_removed := mem_removed_resolve document combination
  removed_before := pairwise_removed_resolve document combination
  flat := by
    obtain ⟨name, statements, number, sort, limit, group⟩ := document
    rw [← map_kept_resolveStatements .flat 0]
    cases group <;> rfl
  tree := by
    rw [group_resolve]
    cases document.group with
    | none => rfl
    | some g =>
      rw [Option.bind_some, g.map_ofGroup_resolve, Option.filter_some]
      cases g.isLost <;> rfl

section Accounted

variable {document : Document} {d : Decoded} (h : document.Accounted d)
include h

/-- No place is reported twice, and no group is removed twice. -/
theorem Accounted.nodup :
    (d.losses.dropped.map Dropped.location).Nodup ∧ d.losses.removed.Nodup := by
  constructor
  · refine List.pairwise_map.mpr (h.dropped_before.imp fun {x y} hb he ↦ ?_)
    rw [he] at hb
    exact y.location.not_before_self hb
  · refine h.removed_before.imp fun {path other} hb he ↦ ?_
    rw [he] at hb
    exact other.not_before_self false hb

/-- Groups are removed only when statements are dropped. -/
theorem Accounted.dropped_ne_nil (hr : d.losses.removed ≠ []) : d.losses.dropped ≠ [] := by
  obtain ⟨path, hp⟩ := List.exists_mem_of_ne_nil _ hr
  obtain ⟨g, hg, hl⟩ := (h.mem_removed path).mp hp
  obtain ⟨hn, hu⟩ := Bool.and_eq_true_iff.mp hl
  obtain ⟨s, hs⟩ := List.exists_mem_of_ne_nil g.allStatements (by simpa using hn)
  have hm : s ∈ document.allStatements.filter fun s ↦ !s.isKnown :=
    List.mem_filter.mpr ⟨allStatements_groupAt?_subset hg hs, List.all_eq_true.mp hu s hs⟩
  rw [← h.dropped] at hm
  intro hd
  rw [hd] at hm
  cases hm

/-- A group that is not removed and that no removed group is around stays at its depth. -/
theorem Accounted.exists_place {path : GroupPath} {g : Group}
    (hg : document.groupAt? path = some g) (hr : ∀ n, path.take n ∉ d.losses.removed) :
    ∃ place kept, place.length = path.length ∧
      (d.filter.group.bind fun root ↦ root.at? place) = some kept ∧
      Group.ofGroup kept = g.surviving := by
  obtain ⟨root, hd, hg⟩ := Option.bind_eq_some_iff.mp hg
  have hl (n : Nat) (outer : Group) (ho : root.at? (path.take n) = some outer) :
      outer.isLost = false := by
    cases hi : outer.isLost with
    | false => rfl
    | true =>
      refine absurd ((h.mem_removed _).mpr ⟨outer, ?_, hi⟩) (hr n)
      rw [groupAt?, hd, Option.bind_some, ho]
  have ht := h.tree
  rw [hd, Option.filter_some, hl 0 root rfl] at ht
  obtain ⟨kept, hk, hs⟩ := Option.map_eq_some_iff.mp ht
  rw [hk]
  exact Group.exists_place hs hg fun n ↦ hl (n + 1)

end Accounted

end Document

/-- A payload that decodes is that of a document of which decoding accounts for everything. -/
theorem accounted_of_decodePayload {payload : List UInt8} {d : Decoded}
    (h : decodePayload payload = .ok d) :
    ∃ document, (Json.Document.ofBytes payload).read Document.reader = .ok document ∧
      document.Accounted d := by
  rw [decodePayload] at h
  split at h
  · cases h
  · next document hr =>
    split at h
    · cases h
    · next combination hc =>
      cases h
      exact ⟨document, hr, document.accounted_resolve combination⟩

/-- Decoding a payload accounts for everything in the document that it stores, and reports nothing
twice. A group stays at its depth unless it or a group around it is removed, and groups are removed
only when statements are dropped. -/
theorem decodePayload_accounted {payload : List UInt8} {d : Decoded}
    (h : decodePayload payload = .ok d) :
    ∃ document, (Json.Document.ofBytes payload).read Document.reader = .ok document ∧
      document.Accounted d ∧
      (d.losses.dropped.map Dropped.location).Nodup ∧ d.losses.removed.Nodup ∧
      (∀ path g, document.groupAt? path = some g → (∀ n, path.take n ∉ d.losses.removed) →
        ∃ place kept, place.length = path.length ∧
          (d.filter.group.bind fun root ↦ root.at? place) = some kept ∧
          Group.ofGroup kept = g.surviving) ∧
      (d.losses.removed ≠ [] → d.losses.dropped ≠ []) := by
  obtain ⟨document, hr, ha⟩ := accounted_of_decodePayload h
  obtain ⟨hd, hn⟩ := ha.nodup
  exact ⟨document, hr, ha, hd, hn, fun path g ↦ ha.exists_place, ha.dropped_ne_nil⟩

/-- A tree that keeps one of two statements, and of the groups below it loses one. -/
private def unknownDocument : Document where
  statements := [⟨99, 0, "flat"⟩]
  group := some
    ⟨[⟨1, 0, "a"⟩, ⟨99, 0, "x"⟩], [⟨[⟨18, 77, "y"⟩], [], []⟩, ⟨[⟨18, 5, "b"⟩], [], []⟩], []⟩

/-- What decoding makes of it: the statements that are left and the reports on the others. -/
private def unknownDecoded : Decoded where
  filter :=
    { group := some ⟨[⟨.seriesName, .equal, "a"⟩], [⟨[⟨.genres, .contains, "b"⟩], [], []⟩], []⟩ }
  losses :=
    ⟨[⟨.flat 0, 99, 0, "flat", .unknownField⟩, ⟨.inGroup [] 1, 99, 0, "x", .unknownField⟩,
      ⟨.inGroup [.and 0] 0, 18, 77, "y", .unknownComparison⟩], [[.and 0]]⟩

private theorem read_unknownDocument :
    (Json.Document.ofBytes unknownDocument.payload).read Document.reader = .ok unknownDocument := by
  rw [Document.read_payload]
  rfl

/-- Of two groups below the root the first is removed, and the second stays at its depth. -/
theorem decodePayload_accounted_unknown :
    decodePayload unknownDocument.payload = .ok unknownDecoded ∧
    unknownDocument.Accounted unknownDecoded ∧
    unknownDocument.groupAt? [.and 1] = some ⟨[⟨18, 5, "b"⟩], [], []⟩ ∧
    (∀ n, List.take n [.and 1] ∉ unknownDecoded.losses.removed) ∧
    ∃ place kept, place.length = 1 ∧
      (unknownDecoded.filter.group.bind fun root ↦ root.at? place) = some kept ∧
      Group.ofGroup kept = ⟨[⟨18, 5, "b"⟩], [], []⟩ := by
  have hd : decodePayload unknownDocument.payload = .ok unknownDecoded := by
    rw [decodePayload, read_unknownDocument]
    rfl
  have hg : unknownDocument.groupAt? [.and 1] = some ⟨[⟨18, 5, "b"⟩], [], []⟩ := rfl
  have hr : ∀ n, List.take n [.and 1] ∉ unknownDecoded.losses.removed := by
    intro n
    cases n <;> simp [unknownDecoded]
  obtain ⟨document, hread, ha, -, -, hstays, -⟩ := decodePayload_accounted hd
  cases read_unknownDocument.symm.trans hread
  exact ⟨hd, ha, hg, hr, hstays _ _ hg hr⟩

/-- A tree whose only statement is unknown, and an empty group below it. -/
private def emptiedDocument : Document where
  group := some ⟨[⟨99, 0, "x"⟩], [⟨[], [], []⟩], []⟩

private theorem read_emptiedDocument :
    (Json.Document.ofBytes emptiedDocument.payload).read Document.reader = .ok emptiedDocument := by
  rw [Document.read_payload]
  rfl

private theorem decodePayload_emptiedDocument :
    decodePayload emptiedDocument.payload =
      .ok { losses := ⟨[⟨.inGroup [] 0, 99, 0, "x", .unknownField⟩], [[]]⟩ } := by
  rw [decodePayload, read_emptiedDocument]
  rfl

/-- A group that is not removed itself does not stay when a group around it is removed. -/
theorem not_forall_group_stays :
    ¬ ∀ (payload : List UInt8) (document : Document) (d : Decoded),
      (Json.Document.ofBytes payload).read Document.reader = .ok document →
      decodePayload payload = .ok d →
      ∀ path g, document.groupAt? path = some g → path ∉ d.losses.removed →
        ∃ place kept, place.length = path.length ∧
          (d.filter.group.bind fun root ↦ root.at? place) = some kept := by
  intro h
  obtain ⟨place, kept, -, hk⟩ := h _ _ _ read_emptiedDocument decodePayload_emptiedDocument
    [.and 0] ⟨[], [], []⟩ rfl (by decide)
  cases hk

end SeriesFilter.Portable
