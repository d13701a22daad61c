import SeriesFilter.Proofs.Portable.Accounting
import SeriesFilter.Proofs.Portable.RoundTrip

/-!
# Encoding what was decoded

The payload of a filter may have been written in many ways, and parts of it may have been lost in
decoding. What was read stood in brackets; written anew it needs no more of them, and what survives
of it needs no more either. So a filter that was decoded can always be encoded and decoded again,
and then nothing more is lost.
-/

namespace SeriesFilter.Portable

open Json

/-! ### What was read nests no deeper than its text -/

namespace Group

/-- A member of a group is passed over or fills one field of the draft. -/
theorem Draft.put_cases {depth : Nat} {children : Tree → Except Fault (List Group)}
    {d after : Draft} {key : String} {t : Tree} (h : Draft.put depth children d key t = .ok after) :
    after = d ∨
    (∃ ss, Reader.list Statement.reader depth t = .ok ss ∧
      after = { d with statements := some ss }) ∨
    (∃ gs, children t = .ok gs ∧ after = { d with and := some gs }) ∨
    ∃ gs, children t = .ok gs ∧ after = { d with or := some gs } := by
  unfold Draft.put at h
  split at h
  · obtain ⟨filled, hf, he⟩ := bind_eq_ok_iff.mp h
    obtain ⟨-, ss, hs, rfl⟩ := Reader.fill_eq_ok_iff.mp hf
    cases he
    exact .inr (.inl ⟨ss, hs, rfl⟩)
  · obtain ⟨filled, hf, he⟩ := bind_eq_ok_iff.mp h
    obtain ⟨-, gs, hg, rfl⟩ := Reader.fill_eq_ok_iff.mp hf
    cases he
    exact .inr (.inr (.inl ⟨gs, hg, rfl⟩))
  · obtain ⟨filled, hf, he⟩ := bind_eq_ok_iff.mp h
    obtain ⟨-, gs, hg, rfl⟩ := Reader.fill_eq_ok_iff.mp hf
    cases he
    exact .inr (.inr (.inr ⟨gs, hg, rfl⟩))
  · obtain ⟨-, -, he⟩ := bind_eq_ok_iff.mp h
    cases he
    exact .inl rfl

private theorem nesting_lt_of_statements {depth : Nat} {t : Tree} {ss : List Statement}
    (h : Reader.list Statement.reader depth t = .ok ss) : ∀ s ∈ ss, s.toJson.nesting < depth := by
  cases depth with
  | zero => cases h
  | succ depth =>
    refine Reader.forall_mem_of_items (fun t s hs ↦ ?_) h
    cases depth with
    | zero => cases hs
    | succ depth =>
      rw [Statement.nesting_toJson]
      omega

private theorem nesting_le_of_readWith {depth : Nat} {children : Tree → Except Fault (List Group)}
    (hc : ∀ t gs, children t = .ok gs → ∀ g ∈ gs, g.toJson.nesting < depth) {t : Tree} {g : Group}
    (h : readWith depth children t = .ok g) : g.toJson.nesting ≤ depth + 1 := by
  obtain ⟨d, hd, he⟩ := bind_eq_ok_iff.mp h
  cases he
  rw [nesting_toJson_le_iff]
  -- The invariant of the draft: what has been read so far stands in its brackets.
  refine Reader.record_induction (P := fun d : Draft ↦
    (∀ s ∈ d.statements.getD [], s.toJson.nesting < depth) ∧
      (∀ g ∈ d.and.getD [], g.toJson.nesting < depth) ∧
        ∀ g ∈ d.or.getD [], g.toJson.nesting < depth) ?_ hd ⟨nofun, nofun, nofun⟩
  rintro d key t after ⟨hs, ha, ho⟩ hp
  obtain rfl | ⟨ss, hr, rfl⟩ | ⟨gs, hr, rfl⟩ | ⟨gs, hr, rfl⟩ := Draft.put_cases hp
  · exact ⟨hs, ha, ho⟩
  · exact ⟨nesting_lt_of_statements hr, ha, ho⟩
  · exact ⟨hs, hc t gs hr, ho⟩
  · exact ⟨hs, ha, hc t gs hr⟩

/-- A group that was read where some brackets may open is written with no more of them. -/
theorem nesting_le_of_reader : ∀ {depth : Nat} {t : Tree} {g : Group},
    reader depth t = .ok g → g.toJson.nesting ≤ depth
  | 0, _, _, h => by cases h
  | 1, _, _, h => nesting_le_of_readWith (fun _ _ hc ↦ by cases hc) h
  | depth + 2, _, _, h => by
    refine nesting_le_of_readWith (fun _ _ hc ↦ Reader.forall_mem_of_items ?_ hc) h
    intro t g hg
    have := nesting_le_of_reader hg
    omega

/-- What survives of a group nests no deeper than the group. -/
theorem nesting_surviving_le (g : Group) : g.surviving.toJson.nesting ≤ g.toJson.nesting := by
  have hs {gs : List Group} {n : Nat}
      (h : ∀ g ∈ gs, g.surviving.toJson.nesting ≤ g.toJson.nesting)
      (hn : ∀ g ∈ gs, g.toJson.nesting < n) : ∀ g ∈ survivors gs, g.toJson.nesting < n := by
    rw [survivors_eq_map_filter, List.forall_mem_map]
    intro g hg
    have hm := (List.mem_filter.mp hg).1
    exact Nat.lt_of_le_of_lt (h g hm) (hn g hm)
  induction g with
  | mk statements and or hand hor =>
    obtain ⟨n, hn⟩ : ∃ n, (toJson ⟨statements, and, or⟩).nesting = n + 1 :=
      ⟨_, by rw [toJson, Value.nesting]⟩
    obtain ⟨ho, ha, hr⟩ := (nesting_toJson_le_iff statements and or n).mp (Nat.le_of_eq hn)
    rw [hn, surviving, nesting_toJson_le_iff]
    exact ⟨fun s hm ↦ ho s (List.mem_filter.mp hm).1, hs hand ha, hs hor hr⟩

end Group

namespace Document

/-- A member of a document is passed over, as far as statements go, or fills one of the fields that
hold them. -/
theorem Draft.put_cases {depth : Nat} {d after : Draft} {key : String} {t : Tree}
    (h : Draft.put depth d key t = .ok after) :
    (after.statements = d.statements ∧ after.group = d.group) ∨
    (∃ ss, Reader.list Statement.reader depth t = .ok ss ∧ after.statements = some ss ∧
      after.group = d.group) ∨
    ∃ tree, Reader.optional Group.reader depth t = .ok tree ∧ after.statements = d.statements ∧
      after.group = some tree := by
  unfold Draft.put at h
  split at h
  case h_2 =>
    obtain ⟨filled, hf, he⟩ := bind_eq_ok_iff.mp h
    obtain ⟨-, ss, hs, rfl⟩ := Reader.fill_eq_ok_iff.mp hf
    cases he
    exact .inr (.inl ⟨ss, hs, rfl, rfl⟩)
  case h_6 =>
    obtain ⟨filled, hf, he⟩ := bind_eq_ok_iff.mp h
    obtain ⟨-, tree, ht, rfl⟩ := Reader.fill_eq_ok_iff.mp hf
    cases he
    exact .inr (.inr ⟨tree, ht, rfl, rfl⟩)
  all_goals
    obtain ⟨filled, -, he⟩ := bind_eq_ok_iff.mp h
    cases he
    exact .inl ⟨rfl, rfl⟩

/-- The tree of a document that was read stands in the brackets of the document. -/
theorem nesting_group_lt_of_reader {depth : Nat} {t : Tree} {document : Document} {g : Group}
    (h : reader depth t = .ok document) (hg : document.group = some g) :
    g.toJson.nesting < depth := by
  cases depth with
  | zero => cases h
  | succ depth =>
    obtain ⟨d, hd, he⟩ := bind_eq_ok_iff.mp h
    cases he
    refine Reader.record_induction
      (P := fun d : Draft ↦ ∀ g, d.group.join = some g → g.toJson.nesting < depth + 1)
      ?_ hd nofun g hg
    intro d key t after hi hp g hj
    obtain ⟨-, hs⟩ | ⟨-, -, -, hs⟩ | ⟨tree, hr, -, hs⟩ := Draft.put_cases hp
    · rw [hs] at hj
      exact hi g hj
    · rw [hs] at hj
      exact hi g hj
    · rw [hs] at hj
      obtain rfl : tree = some g := hj
      exact Nat.lt_succ_of_le (Group.nesting_le_of_reader (Reader.optional_eq_ok hr))

end Document

/-! ### Filters that were decoded -/

/-- A filter that was decoded from a payload fits the levels. -/
theorem fitsLevels_of_decodePayload {payload : List UInt8} {d : Decoded}
    (h : decodePayload payload = .ok d) : d.filter.FitsLevels := by
  obtain ⟨document, hr, ha⟩ := accounted_of_decodePayload h
  obtain ⟨found, hf, he⟩ := bind_eq_ok_iff.mp hr
  split at he
  · cases he
  · cases he
    rw [← nesting_le_maxNesting_iff, nesting_ofFilter_le_iff _ (by decide)]
    intro g hg
    have ht := ha.tree
    rw [hg, Option.map_some] at ht
    obtain ⟨root, hroot, hs⟩ := Option.map_eq_some_iff.mp ht.symm
    have hin : root.toJson.nesting < maxNesting :=
      Document.nesting_group_lt_of_reader hf (Option.filter_eq_some_iff.mp hroot).1
    have hle := root.nesting_surviving_le
    rw [← hs]
    omega

/-- A string that is decoded is blank, or is the version and a payload within the bound. -/
theorem decodeUpTo_cases {max : Nat} {s : String} {d : Decoded} (h : decodeUpTo max s = .ok d) :
    (Text.trim s).isEmpty ∧ d = {} ∨
    ∃ symbols payload, (Text.trim s).utf8ByteSize ≤ max ∧
      split? (Text.trim s).toList = some (version.toList, symbols) ∧
      Base64Url.decode (String.ofList symbols).toUTF8.toList = .ok payload ∧
      decodePayload payload = .ok d := by
  rw [decodeUpTo] at h
  split at h
  · next hb =>
    cases h
    exact .inl ⟨hb, rfl⟩
  · split at h
    · cases h
    · next hl =>
      split at h
      · cases h
      · next v symbols hs =>
        split at h
        · cases h
        · next hv =>
          split at h
          · cases h
          · next payload hp =>
            refine .inr ⟨symbols, payload, Nat.le_of_not_lt hl, ?_, hp, h⟩
            rw [hs, Decidable.of_not_not hv]

/-- A filter that was decoded fits the levels. -/
theorem fitsLevels_of_decodeUpTo {max : Nat} {s : String} {d : Decoded}
    (h : decodeUpTo max s = .ok d) : d.filter.FitsLevels := by
  obtain ⟨-, rfl⟩ | ⟨symbols, payload, -, -, -, hp⟩ := decodeUpTo_cases h
  · exact Filter.fitsLevels_of_flat rfl
  · exact fitsLevels_of_decodePayload hp

/-- A filter that was decoded, whatever was lost of it, is encoded within the brackets that may
open, and comes back whole under every bound that admits the string. Encoding what then is decoded
gives the same string. -/
theorem decodeUpTo_normalization {max : Nat} {s : String} {d : Decoded}
    (h : decodeUpTo max s = .ok d) :
    (∀ bound, (encode d.filter).utf8ByteSize ≤ bound → decodeUpTo bound (encode d.filter) =
      .ok { filter := d.filter, losses := ⟨[], []⟩, ignoredSort := none }) ∧
    (Document.ofFilter d.filter).toJson.nesting ≤ maxNesting ∧
    ∀ bound again, decodeUpTo bound (encode d.filter) = .ok again →
      encode again.filter = encode d.filter := by
  have hf := fitsLevels_of_decodeUpTo h
  refine ⟨fun bound hb ↦ ?_, (nesting_le_maxNesting_iff d.filter).mpr hf, fun bound again ha ↦ ?_⟩
  · exact decodeUpTo_encode_eq_ok_iff.mpr ⟨hb, hf, rfl⟩
  · obtain ⟨-, -, rfl⟩ := decodeUpTo_encode_eq_ok_iff.mp ha
    rfl

/-- What is kept of a group that is written as a list of its fields, and one of whose statements is
unknown, comes back whole when it is encoded anew. -/
theorem decodeUpTo_normalization_list :
    let s := "sf2~eyJsIjozLCJnIjpbW1sxLDAsIngiXSxbOTksMF1dLFt7fV1dLCJ6eiI6WzFdfQ"
    let kept : Filter := { limit := 3, group := some ⟨[⟨.seriesName, .equal, "x"⟩], [{}], []⟩ }
    let lost : Losses := ⟨[⟨.inGroup [] 1, 99, 0, "", .unknownField⟩], []⟩
    decodeUpTo 100 s = .ok { filter := kept, losses := lost } ∧
      decodeUpTo 100 (encode kept) = .ok { filter := kept } := by
  -- The payload is `{"l":3,"g":[[[1,0,"x"],[99,0]],[{}]],"zz":[1]}`.
  intro s kept lost
  have h : decodeUpTo 100 s = .ok { filter := kept, losses := lost } :=
    toOption_eq_some_iff.mp (by decide +kernel)
  exact ⟨h, (decodeUpTo_normalization h).1 100 (by decide +kernel)⟩

end SeriesFilter.Portable
