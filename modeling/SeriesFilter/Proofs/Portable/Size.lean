import SeriesFilter.Proofs.Json.Size
import SeriesFilter.Proofs.Portable.Health
import SeriesFilter.Proofs.Portable.Normalization

/-!
# How large a decoded filter can be

Every group of a stored filter is paid for by two bytes of the payload and every statement by five:
the shortest group is a pair of brackets, and the shortest statement a list of two digits. Decoding
adds nothing, so what is kept and what is dropped together are paid for by the payload, which is
three quarters of its symbols.
-/

namespace SeriesFilter.Portable

open Json Json.Reader

/-! ### Statements -/

namespace Statement

/-- What the numbers of a statement being read cost. -/
private def Draft.cost (d : Draft) : Nat :=
  slotCost (fun _ ↦ 1) d.field + slotCost (fun _ ↦ 1) d.comparison

private theorem Draft.cost_put_le {depth : Nat} {d after : Draft} {key : String} {t : Tree}
    (h : Draft.put depth d key t = .ok after) : after.cost ≤ d.cost + (t.size + 1) := by
  have ht := t.one_le_size
  unfold Draft.put at h
  split at h
  all_goals
    obtain ⟨filled, hf, he⟩ := bind_eq_ok_iff.mp h
    cases he
    simp only [cost]
  · obtain ⟨-, a, -, rfl⟩ := fill_eq_ok_iff.mp hf
    simp only [slotCost, Option.map_some, Option.getD_some]
    omega
  · obtain ⟨-, a, -, rfl⟩ := fill_eq_ok_iff.mp hf
    simp only [slotCost, Option.map_some, Option.getD_some]
    omega
  · exact Nat.le_add_right _ _
  · exact Nat.le_add_right _ _

/-- A statement is paid for by five tokens. -/
theorem charges_reader (depth : Nat) : Charges (reader depth) fun _ ↦ 5 := by
  intro t s h
  cases depth with
  | zero => cases h
  | succ depth =>
    obtain ⟨d, hd, h⟩ := bind_eq_ok_iff.mp h
    obtain ⟨field, hf, h⟩ := bind_eq_ok_iff.mp h
    obtain ⟨comparison, hc, -⟩ := bind_eq_ok_iff.mp h
    have hr := (cost_lt_of_record (fun _ _ _ _ ↦ Draft.cost_put_le) hd).1
    have hd : d.cost = 4 := by
      rw [Draft.cost, required_eq_ok_iff.mp hf, required_eq_ok_iff.mp hc]
      rfl
    have h₀ : Draft.cost {} = 0 := rfl
    change 5 ≤ t.size
    omega

end Statement

/-! ### Groups -/

namespace Group

mutual

/-- A stored group and all groups below it. -/
def count : Group → Nat
  | ⟨_, and, or⟩ => 1 + countList and + countList or

/-- The groups of a list of stored groups. -/
def countList : List Group → Nat
  | [] => 0
  | g :: gs => count g + countList gs

end

/-- What a stored group costs: two for each group and five for each statement. -/
def weight (g : Group) : Nat :=
  2 * g.count + 5 * g.allStatements.length

private theorem sum_weight (gs : List Group) :
    (gs.map weight).sum = 2 * countList gs + 5 * (listStatements gs).length := by
  induction gs with
  | nil => rfl
  | cons g gs ih =>
    rw [List.map_cons, List.sum_cons, ih, weight, countList, listStatements, List.length_append]
    omega

/-- A group costs what it holds and two for itself. -/
theorem weight_mk (statements : List Statement) (and or : List Group) :
    weight ⟨statements, and, or⟩ =
      2 + 5 * statements.length + (and.map weight).sum + (or.map weight).sum := by
  rw [sum_weight, sum_weight, weight, count, allStatements, List.length_append, List.length_append]
  omega

/-- What a group being read costs. -/
private def Draft.cost (d : Draft) : Nat :=
  slotCost (fun ss ↦ 5 * ss.length) d.statements + slotCost (fun gs ↦ (gs.map weight).sum) d.and +
    slotCost (fun gs ↦ (gs.map weight).sum) d.or

private theorem charges_statements (depth : Nat) :
    Charges (Reader.list Statement.reader depth) fun ss ↦ 5 * ss.length := by
  intro t ss h
  have hs := Charges.list Statement.charges_reader depth t ss h
  dsimp only at hs
  rwa [List.map_const', List.sum_replicate_nat, Nat.mul_comm] at hs

private theorem Draft.cost_put_le {depth : Nat} {children : Tree → Except Fault (List Group)}
    (hc : Charges children fun gs ↦ (gs.map weight).sum) {d after : Draft} {key : String}
    {t : Tree} (h : Draft.put depth children d key t = .ok after) :
    after.cost ≤ d.cost + (t.size + 1) := by
  obtain rfl | ⟨ss, hs, rfl⟩ | ⟨gs, hg, rfl⟩ | ⟨gs, hg, rfl⟩ := Draft.put_cases h
  · exact Nat.le_add_right _ _
  · have := (charges_statements depth).slotCost_some_le hs
    simp only [cost]
    omega
  · have := hc.slotCost_some_le hg
    simp only [cost]
    omega
  · have := hc.slotCost_some_le hg
    simp only [cost]
    omega

private theorem charges_readWith (depth : Nat) (children : Tree → Except Fault (List Group))
    (hc : Charges children fun gs ↦ (gs.map weight).sum) :
    Charges (readWith depth children) weight := by
  intro t g h
  obtain ⟨⟨statements, and, or⟩, hd, he⟩ := bind_eq_ok_iff.mp h
  cases he
  have hr := (cost_lt_of_record (fun _ _ _ _ ↦ Draft.cost_put_le hc) hd).1
  have h₀ : Draft.cost {} = 0 := rfl
  rw [h₀, Draft.cost] at hr
  rw [weight_mk]
  cases statements <;> cases and <;> cases or <;>
    simp only [slotCost, Option.map_some, Option.map_none, Option.getD_some, Option.getD_none,
      List.length_nil, List.map_nil, List.sum_nil] at hr ⊢ <;> omega

/-- A group is paid for by two tokens for each group and five for each statement. -/
theorem charges_reader : ∀ depth, Charges (reader depth) weight
  | 0 => nofun
  | 1 => charges_readWith 0 (fun t ↦ .error (tooDeep t)) nofun
  | depth + 2 => charges_readWith (depth + 1) _ (charges_reader depth).items

private theorem countList_survivors_le {gs : List Group}
    (h : ∀ g ∈ gs, g.surviving.count ≤ g.count) : countList (survivors gs) ≤ countList gs := by
  induction gs with
  | nil => exact Nat.le_refl 0
  | cons g gs ih =>
    obtain ⟨hg, hs⟩ := List.forall_mem_cons.mp h
    have hi := ih hs
    rw [survivors]
    split
    · rw [countList]
      omega
    · rw [countList, countList]
      omega

/-- No group is added to what survives of a group. -/
theorem count_surviving_le (g : Group) : g.surviving.count ≤ g.count := by
  induction g with
  | mk statements and or hand hor =>
    have ha := countList_survivors_le hand
    have ho := countList_survivors_le hor
    rw [surviving, count, count]
    omega

private theorem countList_ofGroups {gs : List SeriesFilter.Group}
    (h : ∀ g ∈ gs, (ofGroup g).count = g.groupCount) :
    countList (ofGroups gs) = SeriesFilter.Group.sumGroups gs := by
  induction gs with
  | nil => rfl
  | cons g gs ih =>
    obtain ⟨hg, hs⟩ := List.forall_mem_cons.mp h
    rw [ofGroups, countList, SeriesFilter.Group.sumGroups, hg, ih hs]

/-- A group is stored with as many groups as it has. -/
theorem count_ofGroup (g : SeriesFilter.Group) : (ofGroup g).count = g.groupCount := by
  induction g with
  | mk statements and or hand hor =>
    rw [ofGroup, count, countList_ofGroups hand, countList_ofGroups hor,
      SeriesFilter.Group.groupCount]

end Group

/-! ### Documents -/

namespace Document

/-- What a document costs: two for each group and five for each statement. -/
def weight (d : Document) : Nat :=
  2 * (d.group.map Group.count).getD 0 + 5 * d.allStatements.length

/-- What the statements and the tree of a document being read cost. -/
private def Draft.cost (d : Draft) : Nat :=
  slotCost (fun ss ↦ 5 * ss.length) d.statements +
    slotCost (fun g ↦ (g.map Group.weight).getD 0) d.group

private theorem Draft.cost_put_le {depth : Nat} {d after : Draft} {key : String} {t : Tree}
    (h : Draft.put depth d key t = .ok after) : after.cost ≤ d.cost + (t.size + 1) := by
  obtain ⟨hs, hg⟩ | ⟨ss, hr, hs, hg⟩ | ⟨tree, hr, hs, hg⟩ := Draft.put_cases h
  · rw [cost, hs, hg]
    exact Nat.le_add_right _ _
  · have := (Group.charges_statements depth).slotCost_some_le hr
    rw [cost, cost, hs, hg]
    omega
  · have := (Group.charges_reader depth).optional.slotCost_some_le hr
    rw [cost, cost, hs, hg]
    omega

/-- A document is paid for by its tree, which is closed. -/
theorem weight_le_of_reader {depth : Nat} {t : Tree} {document : Document}
    (h : reader depth t = .ok document) : document.weight ≤ t.size ∧ t.IsClosed := by
  cases depth with
  | zero => cases h
  | succ depth =>
    obtain ⟨⟨name, statements, combination, sort, limit, group⟩, hd, he⟩ := bind_eq_ok_iff.mp h
    cases he
    obtain ⟨hr, ht⟩ := cost_lt_of_record (fun _ _ _ _ ↦ Draft.cost_put_le) hd
    refine ⟨?_, ht⟩
    have h₀ : Draft.cost {} = 0 := rfl
    rw [h₀, Draft.cost] at hr
    rw [weight, allStatements, List.length_append]
    rcases statements with _ | ss <;> rcases group with _ | _ | g <;>
      simp only [slotCost, Group.weight, Option.map_some, Option.map_none, Option.getD_some,
        Option.getD_none, Option.join_some, Option.join_none, List.length_nil] at hr ⊢ <;> omega

/-- A document is paid for by the bytes that it is read from. -/
theorem weight_le_length {payload : List UInt8} {document : Document}
    (h : (Json.Document.ofBytes payload).read reader = .ok document) :
    document.weight ≤ payload.length := by
  obtain ⟨found, hf, he⟩ := bind_eq_ok_iff.mp h
  obtain ⟨hw, hc⟩ := weight_le_of_reader hf
  split at he
  · cases he
  · cases he
    exact Nat.le_trans hw (Json.Document.size_ofBytes_le hc)

/-- What decoding keeps of a document and what it drops is paid for by the document. -/
theorem Accounted.weight_le {document : Document} {d : Decoded} (h : document.Accounted d) :
    2 * (d.filter.group.map SeriesFilter.Group.groupCount).getD 0 +
      5 * (d.filter.allStatements.length + d.losses.dropped.length) ≤ document.weight := by
  have hs : d.filter.allStatements.length + d.losses.dropped.length =
      document.allStatements.length := by
    rw [← List.length_map Statement.ofStatement, h.statements, ← List.length_map Dropped.statement,
      h.dropped, ← List.length_append]
    exact (List.filter_append_perm Statement.isKnown document.allStatements).length_eq
  have hg : (d.filter.group.map SeriesFilter.Group.groupCount).getD 0 ≤
      (document.group.map Group.count).getD 0 := by
    cases hk : d.filter.group with
    | none => exact Nat.zero_le _
    | some g =>
      have ht := h.tree
      rw [hk, Option.map_some] at ht
      obtain ⟨root, hr, hs⟩ := Option.map_eq_some_iff.mp ht.symm
      have hc := root.count_surviving_le
      rw [hs, Group.count_ofGroup] at hc
      rw [(Option.filter_eq_some_iff.mp hr).1]
      exact hc
  rw [weight]
  omega

end Document

/-! ### Encoded filters -/

/-- A decoded filter is no larger than its string: its tree has at most 63 levels, and its groups
and its statements, kept or dropped, are paid for by the bytes of the payload, which are at most
three quarters of the bound on the string. -/
theorem decodeUpTo_bounded {max : Nat} {s : String} {d : Decoded} (h : decodeUpTo max s = .ok d)
    (hs : (Text.trim s).isEmpty = false) :
    ∃ symbols payload,
      split? (Text.trim s).toList = some (version.toList, symbols) ∧
      Base64Url.decode (String.ofList symbols).toUTF8.toList = .ok payload ∧
      (∀ g, d.filter.group = some g → g.depth ≤ 63) ∧
      2 * (d.filter.group.map SeriesFilter.Group.groupCount).getD 0 +
        5 * (d.filter.allStatements.length + d.losses.dropped.length) ≤ payload.length ∧
      payload.length ≤ 3 * max / 4 := by
  obtain ⟨hb, -⟩ | ⟨symbols, payload, hl, hsplit, hd, hp⟩ := decodeUpTo_cases h
  · rw [hs] at hb
    cases hb
  · obtain ⟨document, hr, ha⟩ := accounted_of_decodePayload hp
    refine ⟨symbols, payload, hsplit, hd, fun g hg ↦ ?_, ?_, ?_⟩
    · exact SeriesFilter.Group.depth_le fun path inner hi ↦
        (fitsLevels_of_decodePayload hp g hg path inner hi).1
    · exact Nat.le_trans ha.weight_le (Document.weight_le_length hr)
    · have hq := Base64Url.length_decode_le hd
      have hn : (Text.bytes symbols).length ≤ (Text.trim s).utf8ByteSize := by
        rw [← Text.length_bytes, eq_of_split? hsplit, Text.bytes_append, List.length_append,
          Text.bytes_cons, List.length_append]
        omega
      rw [Text.toList_toUTF8, String.toList_ofList] at hq
      omega

/-- Two groups, a statement that is kept and one that is dropped are paid for by the payload. -/
theorem decodeUpTo_bounded_list :
    let s := "sf2~eyJsIjozLCJnIjpbW1sxLDAsIngiXSxbOTksMF1dLFt7fV1dLCJ6eiI6WzFdfQ"
    let d : Decoded :=
      { filter := { limit := 3, group := some ⟨[⟨.seriesName, .equal, "x"⟩], [{}], []⟩ }
        losses := ⟨[⟨.inGroup [] 1, 99, 0, "", .unknownField⟩], []⟩ }
    decodeUpTo 100 s = .ok d ∧ (Text.trim s).isEmpty = false ∧
    ∃ symbols payload, split? (Text.trim s).toList = some (version.toList, symbols) ∧
      Base64Url.decode (String.ofList symbols).toUTF8.toList = .ok payload ∧
      (∀ g, d.filter.group = some g → g.depth ≤ 63) ∧
      2 * 2 + 5 * (1 + 1) ≤ payload.length ∧ payload.length ≤ 3 * 100 / 4 := by
  intro s d
  have h : decodeUpTo 100 s = .ok d := toOption_eq_some_iff.mp (by decide +kernel)
  have hs : (Text.trim s).isEmpty = false := by decide +kernel
  exact ⟨h, hs, decodeUpTo_bounded h hs⟩

end SeriesFilter.Portable
