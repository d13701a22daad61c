import Mathlib.Algebra.Ring.Nat
import SeriesFilter.Json.Builder
import SeriesFilter.Proofs.Json.Readers

/-!
# What a text pays for

The size of a tree is a number of tokens that every text of it has: its scalars, the brackets around
it and the points between its parts. A byte ends at most one token, so a text is at least as long
as the size of its tree. A reader charges its result to the tree: what the result costs is no more
than the size of the tree, when the parts of the result are charged to different parts of the tree.

A text that breaks off has a tree too, but no record is read from it.
-/

namespace SeriesFilter.Json

namespace Tree

mutual

/-- The tokens that every text of a tree has at least. -/
def size : Tree → Nat
  | .array items _ => max 1 (itemsSize items) + 1
  | .object members _ => max 1 (membersSize members) + 1
  | .null | .bool _ | .number _ | .text _ | .absent _ => 1

/-- The tokens of some items, each with what stands before it: a comma or the opening bracket. -/
def itemsSize : List Tree → Nat
  | [] => 0
  | item :: rest => size item + 1 + itemsSize rest

/-- The tokens of some members, each with its key, its colon and what stands before it. -/
def membersSize : List (Tree × Tree) → Nat
  | [] => 0
  | (_, value) :: rest => size value + 3 + membersSize rest

end

/-- Every tree takes a token. -/
theorem one_le_size (t : Tree) : 1 ≤ t.size := by
  cases t <;> simp [size]

/-- Items are counted one by one. -/
theorem itemsSize_eq_sum (items : List Tree) :
    itemsSize items = (items.map fun t ↦ t.size + 1).sum := by
  induction items with
  | nil => rfl
  | cons item rest ih => rw [itemsSize, ih, List.map_cons, List.sum_cons]

/-- Members are counted one by one. -/
theorem membersSize_eq_sum (members : List (Tree × Tree)) :
    membersSize members = (members.map fun m ↦ m.2.size + 3).sum := by
  induction members with
  | nil => rfl
  | cons member rest ih => rw [membersSize, ih, List.map_cons, List.sum_cons]

/-- Whether a tree is whole on the outside: something stands there, it is closed in order and its
keys are texts. -/
def IsClosed : Tree → Prop
  | .absent _ => False
  | .array _ tail => tail = none
  | .object members tail => tail = none ∧ ∀ m ∈ members, ∃ name, m.1.key = .ok name
  | .null | .bool _ | .number _ | .text _ => True

end Tree

/-! ### Tokens pay for the tree -/

namespace Frame

/-- The tokens that an open list or record has taken. -/
def spent : Frame → Nat
  | .array .afterItem items => max 1 (Tree.itemsSize items)
  | .array _ items => Tree.itemsSize items + 1
  | .object .afterValue _ members => max 1 (Tree.membersSize members)
  | .object .afterKey _ members => Tree.membersSize members + 2
  | .object .afterColon _ members => Tree.membersSize members + 3
  | .object _ _ members => Tree.membersSize members + 1

/-- The tokens that an open list or record has taken when a value stands next in it. -/
def held : Frame → Nat
  | .array _ items => Tree.itemsSize items + 1
  | .object _ _ members => Tree.membersSize members + 3

/-- A frame that wants a value has taken what it has taken then. -/
theorem held_eq_spent {frame : Frame} (h : frame.wantsValue = true) : frame.held = frame.spent := by
  cases frame with
  | array place items => cases place <;> first | rfl | cases h
  | object place key members => cases place <;> first | rfl | cases h

/-- A value is paid for in the frame that it is put in. -/
theorem spent_put_le (frame : Frame) (value : Tree) :
    (frame.put value).spent ≤ frame.held + value.size := by
  cases frame with
  | array place items =>
    simp only [put, spent, held, Tree.itemsSize]
    omega
  | object place key members =>
    simp only [put, spent, held, Tree.membersSize]
    omega

/-- The closing bracket is paid for by itself. -/
theorem size_close_le (frame : Frame) : (frame.close none).size ≤ frame.spent + 1 := by
  cases frame with
  | array place items =>
    rw [close, Tree.size, Tree.itemsSize_eq_sum, List.map_reverse, List.sum_reverse,
      ← Tree.itemsSize_eq_sum]
    cases place <;> simp only [spent] <;> omega
  | object place key members =>
    rw [close, Tree.size, Tree.membersSize_eq_sum, List.map_reverse, List.sum_reverse,
      ← Tree.membersSize_eq_sum]
    cases place <;> simp only [spent] <;> omega

/-- A frame that is closed around a fault is not closed in order. -/
theorem not_isClosed_close (frame : Frame) (fault : Fault) :
    ¬ (frame.close (some fault)).IsClosed := by
  cases frame with
  | array place items => exact nofun
  | object place key members => exact fun h ↦ Option.some_ne_none _ h.1

end Frame

namespace Builder

/-- A builder whose trees and open frames are paid for by a number of tokens. What was built of a
text that breaks off is not closed, and nobody pays for it. -/
def PaidBy (n : Nat) : Builder → Prop
  | .reading [] => True
  | .reading (frame :: stack) => frame.spent + (stack.map Frame.held).sum ≤ n
  | .complete tree _ => tree.size ≤ n
  | .broken tree => ¬ tree.IsClosed

private theorem not_isClosed_wrap (value : Tree) (h : ¬ value.IsClosed) (stack : List Frame) :
    ¬ (wrap value stack).IsClosed := by
  induction stack generalizing value with
  | nil => exact h
  | cons frame stack ih => exact ih _ (Frame.not_isClosed_close (frame.put value) .early)

variable {n : Nat} {stack : List Frame}

private theorem paidBy_stopAt (gap : Ending) (stack : List Frame) :
    (stopAt gap stack).PaidBy n :=
  not_isClosed_wrap (.absent gap) id stack

private theorem paidBy_stopIn (fault : Fault) (frame : Frame) (stack : List Frame) :
    (stopIn fault frame stack).PaidBy n :=
  not_isClosed_wrap _ (frame.not_isClosed_close fault) stack

private theorem paidBy_stopAtKey (key : Tree) {fault : Fault} (h : key.key = .error fault)
    (members : List (Tree × Tree)) (stack : List Frame) :
    (stopAtKey key members stack).PaidBy n := by
  refine not_isClosed_wrap _ (fun hc ↦ ?_) stack
  obtain ⟨name, hn⟩ := hc.2 (key, .absent .malformed) (by simp)
  rw [h] at hn
  cases hn

private theorem paidBy_deliver {value : Tree}
    (h : value.size + (stack.map Frame.held).sum ≤ n) : (deliver value stack).PaidBy n := by
  cases stack with
  | nil => exact h
  | cons frame stack =>
    have hp := frame.spent_put_le value
    rw [List.map_cons, List.sum_cons] at h
    change (frame.put value).spent + (stack.map Frame.held).sum ≤ n
    omega

private theorem paidBy_beginValue (h : (stack.map Frame.held).sum ≤ n) (token : Token) :
    (beginValue stack token).PaidBy (n + 1) := by
  have hs {value : Tree} (hv : value.size = 1) : (deliver value stack).PaidBy (n + 1) :=
    paidBy_deliver (by omega)
  cases token with
  | openBracket =>
    change 0 + 1 + (stack.map Frame.held).sum ≤ n + 1
    omega
  | openBrace =>
    change 0 + 1 + (stack.map Frame.held).sum ≤ n + 1
    omega
  | null | bool _ | number _ | text _ => exact hs rfl
  | closeBracket | closeBrace | comma | colon => exact paidBy_stopAt .malformed stack

private theorem paidBy_beginKey {members : List (Tree × Tree)}
    (h : Tree.membersSize members + 1 + (stack.map Frame.held).sum ≤ n) (token : Token) :
    (beginKey members stack token).PaidBy (n + 1) := by
  cases token with
  | text content =>
    change Tree.membersSize members + 2 + (stack.map Frame.held).sum ≤ n + 1
    omega
  | _ => exact paidBy_stopAtKey _ rfl members stack

private theorem paidBy_close {frame : Frame}
    (h : frame.spent + (stack.map Frame.held).sum ≤ n) :
    (deliver (frame.close none) stack).PaidBy (n + 1) := by
  have hc := frame.size_close_le
  exact paidBy_deliver (by omega)

private theorem paidBy_step_array {place : ListPlace} {items : List Tree}
    (h : (Frame.array place items).spent + (stack.map Frame.held).sum ≤ n) (token : Token) :
    (step (.reading (.array place items :: stack)) token).PaidBy (n + 1) := by
  have hv (hw : (Frame.array place items).wantsValue = true) :
      (beginValue (.array place items :: stack) token).PaidBy (n + 1) := by
    refine paidBy_beginValue ?_ token
    rwa [List.map_cons, List.sum_cons, Frame.held_eq_spent hw]
  cases place with
  | opened =>
    cases token with
    | closeBracket => exact paidBy_close h
    | _ => exact hv rfl
  | afterItem =>
    cases token with
    | closeBracket => exact paidBy_close h
    | comma =>
      change max 1 (Tree.itemsSize items) + (stack.map Frame.held).sum ≤ n at h
      change Tree.itemsSize items + 1 + (stack.map Frame.held).sum ≤ n + 1
      omega
    | _ => exact paidBy_stopIn .malformed _ stack
  | afterComma => exact hv rfl

private theorem paidBy_step_object {place : RecordPlace} {key : Tree}
    {members : List (Tree × Tree)}
    (h : (Frame.object place key members).spent + (stack.map Frame.held).sum ≤ n) (token : Token) :
    (step (.reading (.object place key members :: stack)) token).PaidBy (n + 1) := by
  cases place with
  | opened =>
    have hk := paidBy_beginKey h token
    cases token with
    | closeBrace => exact paidBy_close h
    | _ => exact hk
  | afterKey =>
    cases token with
    | colon =>
      change Tree.membersSize members + 2 + (stack.map Frame.held).sum ≤ n at h
      change Tree.membersSize members + 3 + (stack.map Frame.held).sum ≤ n + 1
      omega
    | _ => exact paidBy_stopAt .malformed _
  | afterColon => exact paidBy_beginValue h token
  | afterValue =>
    cases token with
    | closeBrace => exact paidBy_close h
    | comma =>
      change max 1 (Tree.membersSize members) + (stack.map Frame.held).sum ≤ n at h
      change Tree.membersSize members + 1 + (stack.map Frame.held).sum ≤ n + 1
      omega
    | _ => exact paidBy_stopIn .malformed _ stack
  | afterComma => exact paidBy_beginKey h token

/-- Each token pays for what the builder makes of it. -/
theorem paidBy_step {b : Builder} (h : b.PaidBy n) (token : Token) :
    (b.step token).PaidBy (n + 1) := by
  cases b with
  | broken tree => exact h
  | complete tree followed => exact Nat.le_succ_of_le h
  | reading stack =>
    cases stack with
    | nil => exact paidBy_beginValue (Nat.zero_le n) token
    | cons frame stack =>
      cases frame with
      | array place items => exact paidBy_step_array h token
      | object place key members => exact paidBy_step_object h token

/-- The tokens pay for what the builder makes of them. -/
theorem paidBy_foldl (tokens : List Token) :
    (tokens.foldl step (.reading [])).PaidBy tokens.length := by
  suffices hb : ∀ (b : Builder) (n : Nat), b.PaidBy n →
      (tokens.foldl step b).PaidBy (n + tokens.length) by
    simpa using hb (.reading []) 0 trivial
  induction tokens with
  | nil => exact fun _ _ h ↦ h
  | cons token tokens ih =>
    intro b n h
    rw [List.foldl_cons, List.length_cons, Nat.add_comm tokens.length, ← Nat.add_assoc]
    exact ih _ _ (paidBy_step h token)

/-- The end of the tokens closes nothing. -/
theorem paidBy_finish {b : Builder} (h : b.PaidBy n) (ending : Ending) :
    (b.finish ending).PaidBy n := by
  cases b with
  | broken tree => exact h
  | complete tree followed => exact h
  | reading stack =>
    rcases stack with _ | ⟨frame, stack⟩
    · exact paidBy_stopAt ending []
    · cases frame with
      | array place items =>
        cases place with
        | opened =>
          change (if ending = .ended then _ else _ : Builder).PaidBy n
          split
          · exact paidBy_stopIn .early _ stack
          · exact paidBy_stopAt ending _
        | afterItem => exact paidBy_stopIn ending.pointFault _ stack
        | afterComma => exact paidBy_stopAt ending _
      | object place key members =>
        cases place with
        | opened =>
          change (if ending = .ended then _ else _ : Builder).PaidBy n
          split
          · exact paidBy_stopIn .early _ stack
          · exact paidBy_stopAtKey (.absent ending) rfl members stack
        | afterKey => exact paidBy_stopAt _ _
        | afterColon => exact paidBy_stopAt ending _
        | afterValue => exact paidBy_stopIn ending.pointFault _ stack
        | afterComma => exact paidBy_stopAtKey _ rfl members stack

end Builder

/-- A tree that is closed has no more tokens than its text. -/
theorem Document.size_ofTokens_le {t : Tokens} (h : (ofTokens t).tree.IsClosed) :
    (ofTokens t).tree.size ≤ t.tokens.length := by
  have hp := Builder.paidBy_finish (Builder.paidBy_foldl t.tokens) t.ending
  rw [ofTokens] at h ⊢
  generalize (t.tokens.foldl Builder.step (.reading [])).finish t.ending = b at hp h ⊢
  cases b with
  | complete tree followed => exact hp
  | broken tree => exact absurd h hp
  | reading stack => exact h.elim

/-! ### Bytes pay for the tokens -/

namespace Scanner

/-- The tokens of a scanner, with the one that it is in the middle of. -/
def begun (s : Scanner) : Nat :=
  match s.mode with
  | .between | .stuck => s.tokens.length
  | .word .. | .numeral _ | .text .. => s.tokens.length + 1

private theorem begun_become_le (s : Scanner) (mode : Mode) :
    (s.become mode).begun ≤ s.tokens.length + 1 := by
  cases mode <;> simp [become, begun]

private theorem begun_emit (s : Scanner) (token : Token) :
    (s.emit token).begun = s.tokens.length + 1 := rfl

private theorem begun_begin_le (s : Scanner) (b : UInt8) :
    (s.begin b).begun ≤ s.tokens.length + 1 := by
  unfold begin
  split
  · exact s.begun_become_le _
  · split
    case h_12 =>
      split <;> exact s.begun_become_le _
    all_goals first | exact s.begun_become_le _ | exact Nat.le_of_eq (s.begun_emit _)

private theorem begun_stepText_le (s : Scanner) (units : List TextUnit) (escape : Escape)
    (b : UInt8) : (s.stepText units escape b).begun ≤ s.tokens.length + 1 := by
  unfold stepText
  split
  · split
    · exact Nat.le_of_eq (s.begun_emit _)
    · exact s.begun_become_le _
    · split <;> exact s.begun_become_le _
  · split <;> exact s.begun_become_le _
  · split
    · exact s.begun_become_le _
    · split <;> exact s.begun_become_le _

/-- A byte begins at most one token. -/
theorem begun_step_le (s : Scanner) (b : UInt8) : (s.step b).begun ≤ s.begun + 1 := by
  obtain ⟨tokens, mode⟩ := s
  cases mode with
  | stuck => exact Nat.le_succ _
  | between => exact begun_begin_le _ b
  | text units escape => exact Nat.le_succ_of_le (begun_stepText_le _ units escape b)
  | word left token =>
    refine Nat.le_trans (m := tokens.length + 1) ?_ (Nat.le_succ _)
    rcases left with _ | ⟨next, _ | ⟨second, rest⟩⟩
    · exact begun_become_le _ _
    · change (if b == next then _ else _ : Scanner).begun ≤ _
      split
      · exact Nat.le_of_eq (begun_emit _ _)
      · exact begun_become_le _ _
    · change (if b == next then _ else _ : Scanner).begun ≤ _
      split <;> exact begun_become_le _ _
  | numeral draft =>
    unfold step
    dsimp only
    split
    · exact Nat.le_succ_of_le (begun_become_le _ _)
    · split
      · exact Nat.le_succ_of_le (begun_become_le _ _)
      · split
        -- The byte ends the number and may begin a token of its own.
        · exact begun_begin_le _ b
        · exact Nat.le_succ_of_le (begun_become_le _ _)

/-- The end of a text ends at most the token that was begun. -/
theorem length_finish_le (s : Scanner) : s.finish.tokens.length ≤ s.begun := by
  obtain ⟨tokens, mode⟩ := s
  cases mode with
  | between | stuck | word _ _ => simp [finish, begun]
  | numeral draft =>
    unfold finish
    dsimp only
    split <;> simp [begun]
  | text units escape =>
    unfold finish
    dsimp only
    split <;> simp [begun]

end Scanner

/-- A text has no more tokens than bytes. -/
theorem Tokens.length_ofBytes_le (bytes : List UInt8) :
    (Tokens.ofBytes bytes).tokens.length ≤ bytes.length := by
  suffices hs : ∀ s : Scanner, (bytes.foldl Scanner.step s).begun ≤ s.begun + bytes.length by
    refine Nat.le_trans (Scanner.length_finish_le _) (Nat.le_trans (hs {}) ?_)
    exact Nat.le_of_eq (Nat.zero_add _)
  induction bytes with
  | nil => exact fun s ↦ Nat.le_refl _
  | cons b rest ih =>
    intro s
    have hb := s.begun_step_le b
    have hr := ih (s.step b)
    rw [List.foldl_cons, List.length_cons]
    omega

/-- A text whose tree is closed is at least as long as the size of its tree. -/
theorem Document.size_ofBytes_le {bytes : List UInt8} (h : (ofBytes bytes).tree.IsClosed) :
    (ofBytes bytes).tree.size ≤ bytes.length :=
  Nat.le_trans (size_ofTokens_le h) (Tokens.length_ofBytes_le bytes)

/-! ### The tree pays for what is read -/

namespace Reader

/-- What is read costs no more than the size of its tree. -/
def Charges (read : Tree → Except Fault α) (cost : α → Nat) : Prop :=
  ∀ t a, read t = .ok a → cost a ≤ t.size

private theorem sum_le_of_mapM {read : Tree → Except Fault α} {cost : α → Nat}
    (h : Charges read cost) {ts : List Tree} {as : List α} (hm : ts.mapM read = .ok as) :
    (as.map cost).sum ≤ Tree.itemsSize ts := by
  induction ts generalizing as with
  | nil =>
    cases hm
    exact Nat.le_refl 0
  | cons t rest ih =>
    rw [List.mapM_cons, bind_eq_ok_iff] at hm
    obtain ⟨a, ha, hm⟩ := hm
    obtain ⟨more, hr, he⟩ := bind_eq_ok_iff.mp hm
    cases he
    have hc := h t a ha
    have hs := ih hr
    rw [List.map_cons, List.sum_cons, Tree.itemsSize]
    omega

/-- The items of a list are charged to its items. -/
theorem Charges.items {read : Tree → Except Fault α} {cost : α → Nat} (h : Charges read cost) :
    Charges (items read) fun as ↦ (as.map cost).sum := by
  intro t as ht
  obtain ⟨trees, rfl, hm⟩ := items_eq_ok ht
  have hs := sum_le_of_mapM h hm
  rw [Tree.size]
  exact Nat.le_succ_of_le (Nat.le_trans hs (Nat.le_max_right 1 _))

/-- A list is charged to its items wherever its brackets may open. -/
theorem Charges.list {r : Reader α} {cost : α → Nat} (h : ∀ depth, Charges (r depth) cost)
    (depth : Nat) : Charges (list r depth) fun as ↦ (as.map cost).sum := by
  cases depth with
  | zero => exact nofun
  | succ depth => exact (h depth).items

/-- A value that may be missing costs nothing when it is. -/
theorem Charges.optional {r : Reader α} {depth : Nat} {cost : α → Nat}
    (h : Charges (r depth) cost) :
    Charges (optional r depth) fun found ↦ (found.map cost).getD 0 := by
  intro t found ht
  cases found with
  | none => exact Nat.zero_le _
  | some a => exact h t a (optional_eq_ok ht)

/-- What a field of a draft costs with what stands before its value: nothing while it is empty. -/
def slotCost (cost : α → Nat) (slot : Option α) : Nat :=
  (slot.map fun a ↦ cost a + 1).getD 0

/-- A field that is filled is charged to its value and to what stands before it. -/
theorem Charges.slotCost_some_le {read : Tree → Except Fault α} {cost : α → Nat}
    (h : Charges read cost) {t : Tree} {a : α} (hr : read t = .ok a) :
    slotCost cost (some a) ≤ t.size + 1 :=
  Nat.succ_le_succ (h t a hr)

variable {put : σ → String → Tree → Except Fault σ} {cost : σ → Nat}

private theorem cost_le_of_gather
    (hp : ∀ d key t after, put d key t = .ok after → cost after ≤ cost d + (t.size + 1))
    {ms : List (Tree × Tree)} {draft result : σ} (h : gather put draft ms = .ok result) :
    cost result ≤ cost draft + (ms.map fun m ↦ m.2.size + 1).sum ∧
      ∀ m ∈ ms, ∃ name, m.1.key = .ok name := by
  induction ms generalizing draft with
  | nil =>
    cases h
    exact ⟨Nat.le_refl _, nofun⟩
  | cons member rest ih =>
    obtain ⟨key, value⟩ := member
    obtain ⟨name, hn, h⟩ := bind_eq_ok_iff.mp h
    obtain ⟨after, ha, h⟩ := bind_eq_ok_iff.mp h
    obtain ⟨hr, hk⟩ := ih h
    have hc := hp draft name value after ha
    refine ⟨?_, List.forall_mem_cons.mpr ⟨⟨name, hn⟩, hk⟩⟩
    rw [List.map_cons, List.sum_cons]
    dsimp only
    omega

private theorem sum_zip_le (keys : List Tree) (items : List Tree) :
    ((keys.zip items).map fun m ↦ m.2.size + 1).sum ≤ Tree.itemsSize items := by
  induction keys generalizing items with
  | nil => exact Nat.zero_le _
  | cons key keys ih =>
    cases items with
    | nil => exact Nat.le_refl 0
    | cons item items =>
      have := ih items
      rw [List.zip_cons_cons, List.map_cons, List.sum_cons, Tree.itemsSize]
      dsimp only
      omega

private theorem sum_members_le (members : List (Tree × Tree)) :
    (members.map fun m ↦ m.2.size + 1).sum ≤ Tree.membersSize members := by
  rw [Tree.membersSize_eq_sum]
  induction members with
  | nil => exact Nat.le_refl 0
  | cons member rest ih =>
    rw [List.map_cons, List.sum_cons, List.map_cons, List.sum_cons]
    omega

/-- A record is charged to its members when each of them is charged to its value and what stands
before it. Its brackets are paid in any case, and it is closed. -/
theorem cost_lt_of_record
    (hp : ∀ d key t after, put d key t = .ok after → cost after ≤ cost d + (t.size + 1))
    {keys : List String} {draft result : σ} {t : Tree}
    (h : record keys put draft t = .ok result) :
    max 1 (cost result - cost draft) < t.size ∧ t.IsClosed := by
  obtain ⟨ms, hm, hg⟩ := record_eq_ok h
  obtain ⟨hc, hk⟩ := cost_le_of_gather hp hg
  cases t with
  | array items end? =>
    have hz := sum_zip_le (keys.map fun key ↦ .text (some key)) items
    obtain ⟨rfl, he⟩ := Prod.mk.inj (Except.ok.inj hm)
    refine ⟨?_, ?_⟩
    · rw [Tree.size]
      omega
    · split at he
      · cases he
      · exact he
  | object members end? =>
    have hs := sum_members_le members
    obtain ⟨rfl, rfl⟩ := Prod.mk.inj (Except.ok.inj hm)
    refine ⟨?_, rfl, hk⟩
    rw [Tree.size]
    omega
  | _ => cases hm

end Reader

end SeriesFilter.Json
