import SeriesFilter.Proofs.Json.Integers
import SeriesFilter.Proofs.Json.Strings

/-!
# The tokens of a written value

The scanner makes of the compact text of a value the tokens that the value has, up to a number at
its end, of which the scanner does not know yet whether it is over. Floating numbers, which no
filter holds, are left out.
-/

namespace SeriesFilter.Json

open Text

namespace Value

mutual

/-- A value in which no floating number stands. -/
def NoReal : Value → Prop
  | .null | .bool _ | .integer _ | .text _ => True
  | .real _ => False
  | .list items => NoReals items
  | .record members => NoRealMembers members

/-- Values in which no floating number stands. -/
def NoReals : List Value → Prop
  | [] => True
  | item :: rest => NoReal item ∧ NoReals rest

/-- Members in which no floating number stands. -/
def NoRealMembers : List (String × Value) → Prop
  | [] => True
  | (_, value) :: rest => NoReal value ∧ NoRealMembers rest

end

/-- Members put together hold no floating number when neither part does. -/
theorem noRealMembers_append {ms ns : List (String × Value)} (hm : NoRealMembers ms)
    (hn : NoRealMembers ns) : NoRealMembers (ms ++ ns) := by
  induction ms with
  | nil => exact hn
  | cons member rest ih => exact ⟨hm.1, ih hm.2⟩

/-- Items hold no floating number when none of them does. -/
theorem noReals_of_forall {items : List Value} (h : ∀ v ∈ items, v.NoReal) : NoReals items := by
  induction items with
  | nil => trivial
  | cons item rest ih =>
    exact ⟨h item List.mem_cons_self, ih fun v hv ↦ h v (List.mem_cons_of_mem item hv)⟩

mutual

/-- The tokens of a value. -/
def tokens : Value → List Token
  | .null | .real _ => [.null]
  | .bool b => [.bool b]
  | .integer n => [.number (numeralOf n)]
  | .text s => [.text (some s)]
  | .list items => .openBracket :: itemTokens items ++ [.closeBracket]
  | .record members => .openBrace :: memberTokens members ++ [.closeBrace]

/-- The tokens of items with commas between them. -/
def itemTokens : List Value → List Token
  | [] => []
  | [item] => tokens item
  | item :: rest => tokens item ++ .comma :: itemTokens rest

/-- The tokens of members with commas between them. -/
def memberTokens : List (String × Value) → List Token
  | [] => []
  | [(key, value)] => .text (some key) :: .colon :: tokens value
  | (key, value) :: rest =>
    .text (some key) :: .colon :: tokens value ++ .comma :: memberTokens rest

end

/-- A comma stands after an item that is not the last. -/
theorem itemTokens_cons_cons (item next : Value) (rest : List Value) :
    itemTokens (item :: next :: rest) = tokens item ++ .comma :: itemTokens (next :: rest) := by
  rw [itemTokens]
  exact List.cons_ne_nil next rest

/-- A comma stands after a member that is not the last. -/
theorem memberTokens_cons_cons (key : String) (value : Value) (next : String × Value)
    (rest : List (String × Value)) :
    memberTokens ((key, value) :: next :: rest) =
      .text (some key) :: .colon :: tokens value ++ .comma :: memberTokens (next :: rest) := by
  rw [memberTokens]
  exact List.cons_ne_nil next rest

end Value

/-! ### Scanning -/

/-- The characters that a written value has after a number. -/
def numberEnds : List Char := [',', ']', '\x7d', '\n']

private theorem endsNumber_of {c : Char} (h : c ∈ numberEnds) :
    c.toNat < 128 ∧ EndsNumber c.toUInt8 := by
  simp only [numberEnds, List.mem_cons, List.not_mem_nil, or_false] at h
  rcases h with rfl | rfl | rfl | rfl <;>
    exact ⟨by decide, by decide, by decide, by decide, by decide⟩

/-- After a text that is read up to its last number, a character that ends numbers goes on. -/
theorem scan_append {s : Scanner} {cs : List Char} {ts : List Token}
    (h : ((bytes cs).foldl Scanner.step s).settle = ⟨ts, .between⟩) {d : Char}
    (hd : d ∈ numberEnds) (rest : List Char) :
    (bytes (cs ++ d :: rest)).foldl Scanner.step s =
      (bytes rest).foldl Scanner.step (Scanner.step ⟨ts, .between⟩ d.toUInt8) := by
  obtain ⟨ha, he⟩ := endsNumber_of hd
  rw [bytes_append, List.foldl_append, bytes_cons, utf8EncodeChar_of_ascii ha,
    List.singleton_append, List.foldl_cons, ← step_settle _ he, h]

/-- A key and the colon after it are two tokens. -/
theorem scan_key (ts : List Token) (key : String) (rest : List Char) :
    (bytes (stringText key ++ ':' :: rest)).foldl Scanner.step ⟨ts, .between⟩ =
      (bytes rest).foldl Scanner.step ⟨.colon :: .text (some key) :: ts, .between⟩ := by
  rw [bytes_append, List.foldl_append, scan_stringText]
  rfl

private theorem scan_null (ts : List Token) :
    (bytes ['n', 'u', 'l', 'l']).foldl Scanner.step ⟨ts, .between⟩ = ⟨.null :: ts, .between⟩ := by
  change (bytes ['u', 'l', 'l']).foldl Scanner.step ⟨ts, .word "ull".toUTF8.toList .null⟩ = _
  rw [toList_toUTF8]
  rfl

private theorem scan_true (ts : List Token) :
    (bytes ['t', 'r', 'u', 'e']).foldl Scanner.step ⟨ts, .between⟩ =
      ⟨.bool true :: ts, .between⟩ := by
  change (bytes ['r', 'u', 'e']).foldl Scanner.step
    ⟨ts, .word "rue".toUTF8.toList (.bool true)⟩ = _
  rw [toList_toUTF8]
  rfl

private theorem scan_false (ts : List Token) :
    (bytes ['f', 'a', 'l', 's', 'e']).foldl Scanner.step ⟨ts, .between⟩ =
      ⟨.bool false :: ts, .between⟩ := by
  change (bytes ['a', 'l', 's', 'e']).foldl Scanner.step
    ⟨ts, .word "alse".toUTF8.toList (.bool false)⟩ = _
  rw [toList_toUTF8]
  rfl

mutual

/-- The scanner makes the tokens of a value of its compact text. -/
theorem scan_compactChars : ∀ (v : Value), v.NoReal → ∀ ts : List Token,
    ((bytes v.compactChars).foldl Scanner.step ⟨ts, .between⟩).settle =
      ⟨v.tokens.reverse ++ ts, .between⟩
  | .null, _, ts => congrArg Scanner.settle (scan_null ts)
  | .bool true, _, ts => congrArg Scanner.settle (scan_true ts)
  | .bool false, _, ts => congrArg Scanner.settle (scan_false ts)
  | .integer n, _, ts => scan_integerText ts n
  | .text s, _, ts => by
    rw [Value.compactChars, scan_stringText]
    rfl
  | .list items, h, ts => by
    have hi := scan_compactItems items (by rwa [Value.NoReal] at h) (.openBracket :: ts)
    rw [Value.compactChars, List.cons_append]
    change ((bytes (Value.compactItems items ++ [']'])).foldl Scanner.step
      ⟨.openBracket :: ts, .between⟩).settle = _
    rw [scan_append hi (by decide)]
    change (⟨.closeBracket :: ((Value.itemTokens items).reverse ++ .openBracket :: ts), .between⟩ :
      Scanner) = _
    simp [Value.tokens]
  | .record members, h, ts => by
    have hm := scan_compactMembers members (by rwa [Value.NoReal] at h) (.openBrace :: ts)
    rw [Value.compactChars, List.cons_append]
    change ((bytes (Value.compactMembers members ++ ['\x7d'])).foldl Scanner.step
      ⟨.openBrace :: ts, .between⟩).settle = _
    rw [scan_append hm (by decide)]
    change (⟨.closeBrace :: ((Value.memberTokens members).reverse ++ .openBrace :: ts), .between⟩ :
      Scanner) = _
    simp [Value.tokens]
  | .real _, h, _ => by
    rw [Value.NoReal] at h
    exact h.elim

/-- The scanner makes the tokens of items of their compact text. -/
theorem scan_compactItems : ∀ (items : List Value), Value.NoReals items → ∀ ts : List Token,
    ((bytes (Value.compactItems items)).foldl Scanner.step ⟨ts, .between⟩).settle =
      ⟨(Value.itemTokens items).reverse ++ ts, .between⟩
  | [], _, ts => rfl
  | [item], h, ts => scan_compactChars item h.1 ts
  | item :: next :: rest, h, ts => by
    have hi := scan_compactChars item h.1 ts
    have hr := scan_compactItems (next :: rest) h.2 (.comma :: (item.tokens.reverse ++ ts))
    rw [Value.compactItems, scan_append hi (by decide)]
    · change ((bytes (Value.compactItems (next :: rest))).foldl Scanner.step
        ⟨.comma :: (item.tokens.reverse ++ ts), .between⟩).settle = _
      rw [hr, Value.itemTokens_cons_cons]
      simp
    · exact List.cons_ne_nil next rest

/-- The scanner makes the tokens of members of their compact text. -/
theorem scan_compactMembers : ∀ (members : List (String × Value)),
    Value.NoRealMembers members → ∀ ts : List Token,
    ((bytes (Value.compactMembers members)).foldl Scanner.step ⟨ts, .between⟩).settle =
      ⟨(Value.memberTokens members).reverse ++ ts, .between⟩
  | [], _, ts => rfl
  | [(key, value)], h, ts => by
    rw [Value.compactMembers, scan_key, scan_compactChars value h.1, Value.memberTokens]
    simp
  | (key, value) :: next :: rest, h, ts => by
    have hv := scan_compactChars value h.1 (.colon :: .text (some key) :: ts)
    have hr := scan_compactMembers (next :: rest) h.2
      (.comma :: (value.tokens.reverse ++ .colon :: .text (some key) :: ts))
    rw [Value.compactMembers, List.append_assoc, List.cons_append, scan_key,
      scan_append hv (by decide)]
    · change ((bytes (Value.compactMembers (next :: rest))).foldl Scanner.step
        ⟨.comma :: (value.tokens.reverse ++ .colon :: .text (some key) :: ts), .between⟩).settle =
          _
      rw [hr, Value.memberTokens_cons_cons]
      simp
    · exact List.cons_ne_nil next rest

end

end SeriesFilter.Json
