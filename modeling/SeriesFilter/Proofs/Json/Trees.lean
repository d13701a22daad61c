import SeriesFilter.Json.Builder
import SeriesFilter.Proofs.Json.Tokens

/-!
# The tree of a written value

The builder makes the tree of a value of its tokens, wherever a value may stand. With the scanner
before it, reading the compact text of a value gives its tree and finds nothing after it.
-/

namespace SeriesFilter.Json

open Text

namespace Value

mutual

/-- The tree of a value. -/
def tree : Value → Tree
  | .null | .real _ => .null
  | .bool b => .bool b
  | .integer n => .number (numeralOf n)
  | .text s => .text (some s)
  | .list items => .array (trees items) none
  | .record members => .object (memberTrees members) none

/-- The trees of items. -/
def trees : List Value → List Tree
  | [] => []
  | item :: rest => tree item :: trees rest

/-- The trees of members. -/
def memberTrees : List (String × Value) → List (Tree × Tree)
  | [] => []
  | (key, value) :: rest => (.text (some key), tree value) :: memberTrees rest

end

end Value

namespace Builder

/-- A place where a value may begin: outside everything, or where the innermost frame wants one. -/
def Ready (stack : List Frame) : Prop :=
  ∀ frame, stack.head? = some frame → frame.wantsValue = true

private theorem step_ready {stack : List Frame} (h : Ready stack) (token : Token)
    (ht : token ≠ .closeBracket) : step (.reading stack) token = beginValue stack token := by
  cases stack with
  | nil => rfl
  | cons frame stack =>
    have hw := h frame rfl
    cases frame with
    | array place items =>
      cases place with
      | opened =>
        cases token with
        | closeBracket => exact absurd rfl ht
        | _ => rfl
      | afterItem => exact absurd hw Bool.false_ne_true
      | afterComma => rfl
    | object place key members =>
      cases place with
      | afterColon => rfl
      | _ => exact absurd hw Bool.false_ne_true

private theorem build_scalar {stack : List Frame} (h : Ready stack) (token : Token)
    (ht : token ≠ .closeBracket) {value : Tree}
    (hv : beginValue stack token = deliver value stack) :
    [token].foldl step (.reading stack) = deliver value stack := by
  rw [List.foldl_cons, List.foldl_nil, step_ready h token ht, hv]

private theorem ready_array {place : ListPlace} (h : place ≠ .afterItem) (items : List Tree)
    (stack : List Frame) : Ready (.array place items :: stack) := by
  rintro frame ⟨⟩
  simpa [Frame.wantsValue] using h

private theorem ready_object (key : Tree) (members : List (Tree × Tree)) (stack : List Frame) :
    Ready (.object .afterColon key members :: stack) := by
  rintro frame ⟨⟩
  rfl

private theorem step_key {place : RecordPlace} (h : place = .opened ∨ place = .afterComma)
    (old : Tree) (members : List (Tree × Tree)) (stack : List Frame) (key : String) :
    step (step (.reading (.object place old members :: stack)) (.text (some key))) .colon =
      .reading (.object .afterColon (.text (some key)) members :: stack) := by
  rcases h with rfl | rfl <;> rfl

mutual

/-- The builder makes the tree of a value of its tokens. -/
theorem build_tokens : ∀ (v : Value) (stack : List Frame), Ready stack →
    v.tokens.foldl step (.reading stack) = deliver v.tree stack
  | .null, _, h => build_scalar h .null nofun rfl
  | .bool b, _, h => build_scalar h (.bool b) nofun rfl
  | .integer n, _, h => build_scalar h (.number (numeralOf n)) nofun rfl
  | .real _, _, h => build_scalar h .null nofun rfl
  | .text s, _, h => build_scalar h (.text (some s)) nofun rfl
  | .list [], stack, h => by
    rw [Value.tokens, List.cons_append, List.foldl_cons, step_ready h .openBracket nofun]
    rfl
  | .list (item :: rest), stack, h => by
    rw [Value.tokens, List.cons_append, List.foldl_cons, step_ready h .openBracket nofun,
      List.foldl_append]
    change [Token.closeBracket].foldl step ((Value.itemTokens (item :: rest)).foldl step
      (.reading (.array .opened [] :: stack))) = _
    rw [build_itemTokens (item :: rest) (List.cons_ne_nil item rest) .opened [] stack nofun,
      List.append_nil]
    change deliver (.array (Value.trees (item :: rest)).reverse.reverse none) stack = _
    rw [List.reverse_reverse]
    rfl
  | .record [], stack, h => by
    rw [Value.tokens, List.cons_append, List.foldl_cons, step_ready h .openBrace nofun]
    rfl
  | .record (member :: rest), stack, h => by
    rw [Value.tokens, List.cons_append, List.foldl_cons, step_ready h .openBrace nofun,
      List.foldl_append]
    change [Token.closeBrace].foldl step ((Value.memberTokens (member :: rest)).foldl step
      (.reading (.object .opened .null [] :: stack))) = _
    obtain ⟨key, hk⟩ := build_memberTokens (member :: rest) (List.cons_ne_nil member rest)
      .opened .null [] stack (.inl rfl)
    rw [hk, List.append_nil]
    change deliver (.object (Value.memberTrees (member :: rest)).reverse.reverse none) stack = _
    rw [List.reverse_reverse]
    rfl

/-- The builder puts the trees of items into the list that is open. -/
theorem build_itemTokens : ∀ values : List Value, values ≠ [] → ∀ (place : ListPlace)
    (items : List Tree) (stack : List Frame), place ≠ .afterItem →
    (Value.itemTokens values).foldl step (.reading (.array place items :: stack)) =
      .reading (.array .afterItem ((Value.trees values).reverse ++ items) :: stack)
  | [], hn, _, _, _, _ => absurd rfl hn
  | [item], _, place, items, stack, h => by
    rw [Value.itemTokens, build_tokens item _ (ready_array h items stack)]
    rfl
  | item :: next :: rest, _, place, items, stack, h => by
    rw [Value.itemTokens_cons_cons, List.foldl_append,
      build_tokens item _ (ready_array h items stack), List.foldl_cons]
    change (Value.itemTokens (next :: rest)).foldl step
      (.reading (.array .afterComma (item.tree :: items) :: stack)) = _
    rw [build_itemTokens (next :: rest) (List.cons_ne_nil next rest) .afterComma
        (item.tree :: items) stack nofun,
      Value.trees.eq_2 item, List.reverse_cons, List.append_assoc]
    rfl

/-- The builder puts the trees of members into the record that is open. -/
theorem build_memberTokens : ∀ values : List (String × Value), values ≠ [] →
    ∀ (place : RecordPlace) (old : Tree) (members : List (Tree × Tree)) (stack : List Frame),
    place = .opened ∨ place = .afterComma →
    ∃ key, (Value.memberTokens values).foldl step
        (.reading (.object place old members :: stack)) =
      .reading (.object .afterValue key
        ((Value.memberTrees values).reverse ++ members) :: stack)
  | [], hn, _, _, _, _, _ => absurd rfl hn
  | [(key, value)], _, place, old, members, stack, h => by
    refine ⟨.text (some key), ?_⟩
    rw [Value.memberTokens, List.foldl_cons, List.foldl_cons, step_key h,
      build_tokens value _ (ready_object _ members stack)]
    rfl
  | (key, value) :: next :: rest, _, place, old, members, stack, h => by
    obtain ⟨last, hl⟩ := build_memberTokens (next :: rest) (List.cons_ne_nil next rest)
      .afterComma (.text (some key))
      ((.text (some key), value.tree) :: members) stack (.inr rfl)
    refine ⟨last, ?_⟩
    rw [Value.memberTokens_cons_cons, List.cons_append, List.cons_append, List.foldl_cons,
      List.foldl_cons, step_key h, List.foldl_append,
      build_tokens value _ (ready_object _ members stack), List.foldl_cons]
    change (Value.memberTokens (next :: rest)).foldl step (.reading
      (.object .afterComma (.text (some key))
        ((.text (some key), value.tree) :: members) :: stack)) = _
    rw [hl, Value.memberTrees.eq_2 key value, List.reverse_cons, List.append_assoc]
    rfl

end

end Builder

/-- Bytes of which the scanner makes the tokens of a value are read as its tree, and nothing
follows it. -/
theorem ofBytes_of_scan {v : Value} {bs : List UInt8}
    (h : (bs.foldl Scanner.step {}).settle = ⟨v.tokens.reverse, .between⟩) :
    Document.ofBytes bs = ⟨v.tree, false⟩ := by
  have ht : Tokens.ofBytes bs = ⟨v.tokens, .ended⟩ := by
    rw [Tokens.ofBytes, ← finish_settle, h]
    change (⟨v.tokens.reverse.reverse, .ended⟩ : Tokens) = _
    rw [List.reverse_reverse]
  rw [Document.ofBytes, ht, Document.ofTokens, Builder.build_tokens v [] nofun]
  rfl

/-- Reading the compact text of a value gives its tree, and nothing follows it. -/
theorem ofBytes_compactChars {v : Value} (h : v.NoReal) :
    Document.ofBytes (bytes v.compactChars) = ⟨v.tree, false⟩ := by
  have hs := scan_compactChars v h []
  rw [List.append_nil] at hs
  exact ofBytes_of_scan hs

end SeriesFilter.Json
