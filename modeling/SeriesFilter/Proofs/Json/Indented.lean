import SeriesFilter.Proofs.Json.Trees

/-!
# The indented text of a value

Line ends and spaces stand between tokens only, so the indented text of a value has the tokens of
its compact text and is read as the same tree.
-/

namespace SeriesFilter.Json

open Text

private theorem scan_spaces (ts : List Token) (n : Nat) (rest : List Char) :
    (bytes (List.replicate n ' ' ++ rest)).foldl Scanner.step ⟨ts, .between⟩ =
      (bytes rest).foldl Scanner.step ⟨ts, .between⟩ := by
  induction n with
  | zero => rfl
  | succ n ih =>
    rw [List.replicate_succ, List.cons_append, bytes_cons, List.foldl_append]
    exact ih

/-- After a text that is read up to its last number, a new line changes nothing. -/
private theorem scan_newLine {s : Scanner} {cs : List Char} {ts : List Token}
    (h : ((bytes cs).foldl Scanner.step s).settle = ⟨ts, .between⟩) (depth : Nat)
    (rest : List Char) :
    (bytes (cs ++ Value.newLine depth ++ rest)).foldl Scanner.step s =
      (bytes rest).foldl Scanner.step ⟨ts, .between⟩ := by
  rw [List.append_assoc, Value.newLine, List.cons_append, scan_append h (by decide)]
  exact scan_spaces ts (2 * depth) rest

/-- A new line between tokens changes nothing. -/
private theorem scan_newLine_between (ts : List Token) (depth : Nat) (rest : List Char) :
    (bytes (Value.newLine depth ++ rest)).foldl Scanner.step ⟨ts, .between⟩ =
      (bytes rest).foldl Scanner.step ⟨ts, .between⟩ := by
  have h : ((bytes []).foldl Scanner.step ⟨ts, .between⟩).settle = ⟨ts, .between⟩ := rfl
  exact scan_newLine h depth rest

mutual

/-- The scanner makes the tokens of a value of its indented text. -/
theorem scan_indentedChars : ∀ (v : Value), v.NoReal → ∀ (depth : Nat) (ts : List Token),
    ((bytes (v.indentedChars depth)).foldl Scanner.step ⟨ts, .between⟩).settle =
      ⟨v.tokens.reverse ++ ts, .between⟩
  | .null, h, _, ts => scan_compactChars .null h ts
  | .bool b, h, _, ts => scan_compactChars (.bool b) h ts
  | .integer n, h, _, ts => scan_compactChars (.integer n) h ts
  | .text s, h, _, ts => scan_compactChars (.text s) h ts
  | .list [], h, _, ts => scan_compactChars (.list []) h ts
  | .list (item :: rest), h, depth, ts => by
    have hi := scan_indentedItems (item :: rest) (by rwa [Value.NoReal] at h) (depth + 1)
      (.openBracket :: ts)
    rw [Value.indentedChars, List.cons_append]
    change ((bytes (Value.indentedItems (depth + 1) (item :: rest) ++ Value.newLine depth ++
      [']'])).foldl Scanner.step ⟨.openBracket :: ts, .between⟩).settle = _
    rw [scan_newLine hi]
    change (⟨.closeBracket :: ((Value.itemTokens (item :: rest)).reverse ++ .openBracket :: ts),
      .between⟩ : Scanner) = _
    simp [Value.tokens]
  | .record [], h, _, ts => scan_compactChars (.record []) h ts
  | .record (member :: rest), h, depth, ts => by
    have hm := scan_indentedMembers (member :: rest) (by rwa [Value.NoReal] at h) (depth + 1)
      (.openBrace :: ts)
    rw [Value.indentedChars, List.cons_append]
    change ((bytes (Value.indentedMembers (depth + 1) (member :: rest) ++ Value.newLine depth ++
      ['\x7d'])).foldl Scanner.step ⟨.openBrace :: ts, .between⟩).settle = _
    rw [scan_newLine hm]
    change (⟨.closeBrace :: ((Value.memberTokens (member :: rest)).reverse ++ .openBrace :: ts),
      .between⟩ : Scanner) = _
    simp [Value.tokens]
  | .real _, h, _, _ => by
    rw [Value.NoReal] at h
    exact h.elim

/-- The scanner makes the tokens of items of their indented text. -/
theorem scan_indentedItems : ∀ (items : List Value), Value.NoReals items →
    ∀ (depth : Nat) (ts : List Token),
    ((bytes (Value.indentedItems depth items)).foldl Scanner.step ⟨ts, .between⟩).settle =
      ⟨(Value.itemTokens items).reverse ++ ts, .between⟩
  | [], _, _, ts => rfl
  | [item], h, depth, ts => by
    rw [Value.indentedItems, scan_newLine_between, scan_indentedChars item h.1, Value.itemTokens]
  | item :: next :: rest, h, depth, ts => by
    have hi := scan_indentedChars item h.1 depth ts
    have hr := scan_indentedItems (next :: rest) h.2 depth (.comma :: (item.tokens.reverse ++ ts))
    rw [Value.indentedItems, List.append_assoc, scan_newLine_between, scan_append hi (by decide)]
    · change ((bytes (Value.indentedItems depth (next :: rest))).foldl Scanner.step
        ⟨.comma :: (item.tokens.reverse ++ ts), .between⟩).settle = _
      rw [hr, Value.itemTokens_cons_cons]
      simp
    · exact List.cons_ne_nil next rest

/-- The scanner makes the tokens of members of their indented text. -/
theorem scan_indentedMembers : ∀ (members : List (String × Value)),
    Value.NoRealMembers members → ∀ (depth : Nat) (ts : List Token),
    ((bytes (Value.indentedMembers depth members)).foldl Scanner.step ⟨ts, .between⟩).settle =
      ⟨(Value.memberTokens members).reverse ++ ts, .between⟩
  | [], _, _, ts => rfl
  | [(key, value)], h, depth, ts => by
    rw [Value.indentedMembers, List.append_assoc, scan_newLine_between, scan_key]
    change ((bytes (value.indentedChars depth)).foldl Scanner.step
      ⟨.colon :: .text (some key) :: ts, .between⟩).settle = _
    rw [scan_indentedChars value h.1, Value.memberTokens]
    simp
  | (key, value) :: next :: rest, h, depth, ts => by
    have hv := scan_indentedChars value h.1 depth (.colon :: .text (some key) :: ts)
    have hr := scan_indentedMembers (next :: rest) h.2 depth
      (.comma :: (value.tokens.reverse ++ .colon :: .text (some key) :: ts))
    rw [Value.indentedMembers]
    · simp only [List.append_assoc, List.cons_append]
      rw [scan_newLine_between, scan_key]
      change ((bytes (value.indentedChars depth ++
        ',' :: Value.indentedMembers depth (next :: rest))).foldl Scanner.step
          ⟨.colon :: .text (some key) :: ts, .between⟩).settle = _
      rw [scan_append hv (by decide)]
      change ((bytes (Value.indentedMembers depth (next :: rest))).foldl Scanner.step
        ⟨.comma :: (value.tokens.reverse ++ .colon :: .text (some key) :: ts), .between⟩).settle =
          _
      rw [hr, Value.memberTokens_cons_cons]
      simp
    · exact List.cons_ne_nil next rest

end

/-- Reading the indented text of a value and the end of its last line gives the tree of the value,
and nothing follows it. -/
theorem ofString_indented {v : Value} (h : v.NoReal) :
    Document.ofString (v.indented ++ "\n") = ⟨v.tree, false⟩ := by
  have hs := scan_append (scan_indentedChars v h 0 []) (by decide : '\n' ∈ numberEnds) []
  rw [List.append_nil] at hs
  rw [Document.ofString, toList_toUTF8, Value.indented, String.toList_append,
    String.toList_ofList]
  exact ofBytes_of_scan (congrArg Scanner.settle hs)

end SeriesFilter.Json
