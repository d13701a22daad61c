import SeriesFilter.Json.Reader
import SeriesFilter.Proofs.Json.Trees
import SeriesFilter.Proofs.Outcome

/-!
# Readers on written values

How many brackets deep a value nests decides whether a reader of its type takes it: `ReadsAs` says
that a reader gives one result where that many brackets may open, and finds the text malformed
where they may not. Records are read member by member, so that a record's result is put together
from the results of its parts. Of a text that was written otherwise, one knows what holds of every
part that was taken.
-/

namespace SeriesFilter.Json

namespace Value

mutual

/-- How many brackets stand around the innermost part of a value. -/
def nesting : Value → Nat
  | .null | .bool _ | .integer _ | .real _ | .text _ => 0
  | .list items => itemNesting items + 1
  | .record members => memberNesting members + 1

/-- The greatest nesting of some items. -/
def itemNesting : List Value → Nat
  | [] => 0
  | item :: rest => max (nesting item) (itemNesting rest)

/-- The greatest nesting of the values of some members. -/
def memberNesting : List (String × Value) → Nat
  | [] => 0
  | (_, value) :: rest => max (nesting value) (memberNesting rest)

end

/-- Items nest within a bound when each of them does. -/
theorem itemNesting_le_iff {items : List Value} {n : Nat} :
    itemNesting items ≤ n ↔ ∀ v ∈ items, v.nesting ≤ n := by
  induction items with
  | nil => simp [itemNesting]
  | cons item rest ih => rw [itemNesting, Nat.max_le, ih, List.forall_mem_cons]

/-- The nesting of members put together is the greater one. -/
theorem memberNesting_append (ms ns : List (String × Value)) :
    memberNesting (ms ++ ns) = max (memberNesting ms) (memberNesting ns) := by
  induction ms with
  | nil => rw [List.nil_append, memberNesting, Nat.zero_max]
  | cons member rest ih => rw [List.cons_append, memberNesting, memberNesting, ih, Nat.max_assoc]

/-- Trees of members put together are put together. -/
theorem memberTrees_append (ms ns : List (String × Value)) :
    memberTrees (ms ++ ns) = memberTrees ms ++ memberTrees ns := by
  induction ms with
  | nil => rfl
  | cons member rest ih => rw [List.cons_append, memberTrees, memberTrees, ih, List.cons_append]

mutual

/-- Every written value can be passed over. -/
theorem skip_tree : ∀ v : Value, v.tree.skip = .ok ()
  | .null | .bool _ | .integer _ | .real _ | .text _ => rfl
  | .list items => by rw [tree, Tree.skip, skipItems_trees items]; rfl
  | .record members => by rw [tree, Tree.skip, skipMembers_memberTrees members]; rfl

/-- All items can be passed over. -/
theorem skipItems_trees : ∀ items : List Value, Tree.skipItems (trees items) = .ok ()
  | [] => rfl
  | item :: rest => by rw [trees, Tree.skipItems, skip_tree item]; exact skipItems_trees rest

/-- All members can be passed over. -/
theorem skipMembers_memberTrees :
    ∀ members : List (String × Value), Tree.skipMembers (memberTrees members) = .ok ()
  | [] => rfl
  | (key, value) :: rest => by
    rw [memberTrees, Tree.skipMembers, skip_tree value]
    exact skipMembers_memberTrees rest

end

end Value

/-- The result of reading when `needed` brackets must open and `depth` may. -/
def within (needed depth : Nat) (a : α) : Except Fault α :=
  if needed ≤ depth then .ok a else .error .malformed

/-- One bracket more on both sides makes no difference. -/
@[simp] theorem within_succ (needed depth : Nat) (a : α) :
    within (needed + 1) (depth + 1) a = within needed depth a := by
  simp only [within, Nat.add_le_add_iff_right]

/-- Where no bracket is needed there is a result. -/
@[simp] theorem within_zero (depth : Nat) (a : α) : within 0 depth a = .ok a :=
  if_pos (Nat.zero_le depth)

/-- A result may be turned into another. -/
@[simp] theorem map_within (f : α → β) (needed depth : Nat) (a : α) :
    (within needed depth a).map f = within needed depth (f a) := by
  unfold within
  split <;> rfl

/-- Reading one part after another needs the brackets of both. -/
theorem within_bind (needed more depth : Nat) (a : α) (b : β) (f : α → Except Fault β)
    (h : f a = within more depth b) :
    (within needed depth a).bind f = within (max needed more) depth b := by
  simp only [within, Nat.max_le] at h ⊢
  by_cases hn : needed ≤ depth
  · rw [if_pos hn]
    simp only [hn, true_and]
    exact h
  · rw [if_neg hn, if_neg fun hm ↦ hn hm.1]
    rfl

/-- A reader gives one result for a written value wherever its brackets may open, and finds the
text malformed elsewhere. -/
def Reader.ReadsAs (r : Reader α) (v : Value) (a : α) : Prop :=
  ∀ depth, r depth v.tree = within v.nesting depth a

namespace Reader

/-- A text is read back. -/
theorem readsAs_text (s : String) : text.ReadsAs (.text s) s :=
  fun depth ↦ (within_zero depth s).symm

/-- A truth value is read back. -/
theorem readsAs_bool (b : Bool) : bool.ReadsAs (.bool b) b :=
  fun depth ↦ (within_zero depth b).symm

/-- An integer between the bounds is read back. -/
theorem readsAs_integer {least greatest n : Int} (hl : least ≤ n) (hg : n ≤ greatest)
    (hmin : -0x8000000000000000 ≤ n) (hmax : n ≤ 0xFFFFFFFFFFFFFFFF) :
    (integer least greatest).ReadsAs (.integer n) n := by
  intro depth
  rw [Value.tree, integer, integer?_numeralOf hmin hmax]
  simp only [Value.nesting, within_zero, if_pos (And.intro hl hg)]

/-- A natural number below the bound is read back. -/
theorem readsAs_natural {bound n : Nat} (h : n < bound) (hmax : n ≤ 0xFFFFFFFFFFFFFFFF) :
    (natural bound).ReadsAs (.integer n) n := by
  intro depth
  have hi : (integer 0 (bound - 1)).ReadsAs (.integer n) n :=
    readsAs_integer (by omega) (by omega) (by omega) (by omega)
  rw [natural, hi depth, map_within, Int.toNat_natCast]

/-- What a reader makes of a value, it makes of the value where it may be missing. -/
theorem readsAs_optional {r : Reader α} {v : Value} {a : α} (h : r.ReadsAs v a)
    (hn : v.tree ≠ .null) : (optional r).ReadsAs v (some a) := by
  intro depth
  rw [optional]
  · rw [h depth, map_within]
  · exact hn

/-- What is missing is read as missing, and what is not is read back. -/
theorem readsAs_ofOption {r : Reader α} {write : α → Value} {o : Option α}
    (h : ∀ a, o = some a → r.ReadsAs (write a) a) (hn : ∀ a, (write a).tree ≠ .null) :
    (optional r).ReadsAs (.ofOption write o) o := by
  cases o with
  | none => exact fun depth ↦ (within_zero depth none).symm
  | some a => exact readsAs_optional (h a rfl) (hn a)

/-- A value that passes the further test is read back as what the test makes of it. -/
theorem readsAs_refine {r : Reader α} {v : Value} {a : α} (h : r.ReadsAs v a) {f : α → Option β}
    {b : β} (hf : f a = some b) : (refine r f).ReadsAs v b := by
  intro depth
  change (r depth v.tree).bind _ = _
  rw [h depth]
  refine (within_bind _ 0 depth a b _ ?_).trans (by rw [Nat.max_zero])
  rw [hf, within_zero]

private theorem mapM_items {r : Reader α} {f : β → Value} {g : β → α} {bs : List β}
    (h : ∀ b ∈ bs, r.ReadsAs (f b) (g b)) (depth : Nat) :
    (Value.trees (bs.map f)).mapM (r depth) =
      within (Value.itemNesting (bs.map f)) depth (bs.map g) := by
  induction bs with
  | nil => exact (within_zero depth _).symm
  | cons b rest ih =>
    have hb := h b List.mem_cons_self depth
    have hr := ih fun c hc ↦ h c (List.mem_cons_of_mem b hc)
    rw [List.map_cons, Value.trees, List.mapM_cons, hb, hr]
    apply within_bind
    exact map_within _ _ _ _

/-- A list is read back when its items are. -/
theorem readsAs_list {r : Reader α} {f : β → Value} {g : β → α} {bs : List β}
    (h : ∀ b ∈ bs, r.ReadsAs (f b) (g b)) :
    (list r).ReadsAs (.list (bs.map f)) (bs.map g) := by
  intro depth
  cases depth with
  | zero => rfl
  | succ depth =>
    rw [list, Value.tree, items, mapM_items h, Value.nesting, within_succ]
    generalize Value.itemNesting (bs.map f) = needed
    unfold within
    split <;> rfl

/-- Some members take one draft to another wherever their brackets may open. -/
def Gathers (put : σ → String → Tree → Except Fault σ) (depth : Nat) (draft : σ)
    (members : List (String × Value)) (result : σ) : Prop :=
  gather put draft (Value.memberTrees members) = within (Value.memberNesting members) depth result

variable {put : σ → String → Tree → Except Fault σ} {depth : Nat}

/-- No members leave the draft as it is. -/
theorem gathers_nil (draft : σ) : Gathers put depth draft [] draft :=
  (within_zero depth draft).symm

/-- One member does what its value does. -/
theorem gathers_member {draft result : σ} {key : String} {v : Value}
    (h : put draft key v.tree = within v.nesting depth result) :
    Gathers put depth draft [(key, v)] result := by
  change (put draft key v.tree).bind (fun d ↦ .ok d) = _
  rw [h, within_bind v.nesting 0 depth result result _ (within_zero depth result).symm]
  rfl

/-- Members after members are taken one after the other. -/
theorem gather_append (ms ns : List (Tree × Tree)) (draft : σ) :
    gather put draft (ms ++ ns) = (gather put draft ms).bind fun d ↦ gather put d ns := by
  induction ms generalizing draft with
  | nil => rfl
  | cons member rest ih =>
    obtain ⟨key, value⟩ := member
    rw [List.cons_append, gather, gather]
    cases key.key with
    | error fault => rfl
    | ok name =>
      change (put draft name value).bind (fun d ↦ gather put d (rest ++ ns)) =
        ((put draft name value).bind fun d ↦ gather put d rest).bind _
      cases put draft name value with
      | error fault => rfl
      | ok d => exact ih d

/-- Members after members do one thing after the other. -/
theorem Gathers.append {draft middle result : σ} {ms ns : List (String × Value)}
    (hm : Gathers put depth draft ms middle) (hn : Gathers put depth middle ns result) :
    Gathers put depth draft (ms ++ ns) result := by
  rw [Gathers, Value.memberTrees_append, gather_append, hm, Value.memberNesting_append]
  exact within_bind _ _ _ _ _ _ hn

/-- A member fills an empty field of the draft with what its reader makes of the value. -/
theorem gathers_field {σ α : Type} (put : Nat → σ → String → Tree → Except Fault σ) (depth : Nat)
    (key : String) (slot : Option α → σ) {r : Reader α} {v : Value} {a : α} (h : r.ReadsAs v a)
    (hp : ∀ t, put depth (slot none) key t = (fill none (r depth) t).map slot) :
    Gathers (put depth) depth (slot none) [(key, v)] (slot (some a)) := by
  apply gathers_member
  rw [hp]
  change ((r depth v.tree).map some).map slot = _
  rw [h depth, map_within, map_within]

/-- A record does what its members do. -/
theorem record_eq {draft result : σ} {members : List (String × Value)}
    (h : Gathers put depth draft members result) (keys : List String) :
    record keys put draft (Value.record members).tree =
      within (Value.memberNesting members) depth result := by
  change (gather put draft (Value.memberTrees members)).bind
    (fun d ↦ (Tree.closing none).bind fun _ ↦ .ok d) = _
  rw [h]
  unfold within
  split <;> rfl

/-- Members after the others that leave the draft as it is change nothing, however deep they
nest. -/
theorem record_append_eq {draft result : σ} {members extras : List (String × Value)}
    (h : Gathers put depth draft members result)
    (he : ∀ m ∈ extras, put result m.1 m.2.tree = .ok result) (keys : List String) :
    record keys put draft (Value.record (members ++ extras)).tree =
      within (Value.memberNesting members) depth result := by
  have hx : gather put result (Value.memberTrees extras) = .ok result := by
    induction extras with
    | nil => rfl
    | cons member rest ih =>
      obtain ⟨key, value⟩ := member
      change (put result key value.tree).bind (fun d ↦ gather put d (Value.memberTrees rest)) = _
      rw [he _ List.mem_cons_self]
      exact ih fun m hm ↦ he m (List.mem_cons_of_mem _ hm)
  rw [← record_eq h keys]
  change (gather put draft (Value.memberTrees (members ++ extras))).bind _ =
    (gather put draft (Value.memberTrees members)).bind _
  rw [Value.memberTrees_append, gather_append, h]
  unfold within
  split
  · exact congrArg (Except.bind · _) hx
  · rfl

/-- A reader that gathers the members of a record and then looks at the draft reads the record back
when the draft that the members make is as it should be. -/
theorem readsAs_record {r : Reader α} {members : List (String × Value)} {a : α}
    {keys : List String} {put : Nat → σ → String → Tree → Except Fault σ} {draft result : σ}
    {finish : σ → Except Fault α}
    (hr : ∀ depth t, r (depth + 1) t = record keys (put depth) draft t >>= finish)
    (hz : ∀ ms, r 0 (.object ms none) = .error .malformed)
    (hm : ∀ depth, Gathers (put depth) depth draft members result)
    (hf : finish result = .ok a) : r.ReadsAs (.record members) a := by
  intro depth
  cases depth with
  | zero => exact hz _
  | succ depth =>
    have hb := within_bind (Value.memberNesting members) 0 depth result a finish
      (by rw [hf, within_zero])
    rw [Nat.max_zero] at hb
    rw [hr, record_eq (hm depth), Value.nesting, within_succ]
    exact hb

/-! ### What is taken of any text -/

/-- A list or record that ends well is closed in order. -/
theorem closing_eq_ok {tail : Option Fault} {u : Unit} (h : Tree.closing tail = .ok u) :
    tail = none := by
  cases tail with
  | none => rfl
  | some fault => cases h

/-- A list that is taken is closed in order, and each of its items is taken. -/
theorem items_eq_ok {item : Tree → Except Fault α} {t : Tree} {as : List α}
    (h : items item t = .ok as) : ∃ trees, t = .array trees none ∧ trees.mapM item = .ok as := by
  cases t with
  | array trees tail =>
    obtain ⟨values, hm, h⟩ := bind_eq_ok_iff.mp h
    obtain ⟨_, ht, he⟩ := bind_eq_ok_iff.mp h
    cases he
    obtain rfl := closing_eq_ok ht
    exact ⟨trees, rfl, hm⟩
  | _ => cases h

/-- A record that is taken is closed in order, and its members make the draft. -/
theorem record_eq_ok {keys : List String} {draft result : σ} {t : Tree}
    (h : record keys put draft t = .ok result) :
    ∃ ms, members keys t = .ok (ms, none) ∧ gather put draft ms = .ok result := by
  obtain ⟨⟨ms, tail⟩, hm, h⟩ := bind_eq_ok_iff.mp h
  obtain ⟨found, hf, h⟩ := bind_eq_ok_iff.mp h
  obtain ⟨_, ht, he⟩ := bind_eq_ok_iff.mp h
  cases he
  obtain rfl := closing_eq_ok ht
  exact ⟨ms, hm, hf⟩

/-- What holds of every item that is taken holds of all items of a list. -/
theorem forall_mem_of_items {item : Tree → Except Fault α} {P : α → Prop}
    (h : ∀ t a, item t = .ok a → P a) {t : Tree} {as : List α} (ht : items item t = .ok as) :
    ∀ a ∈ as, P a := by
  obtain ⟨trees, -, hm⟩ := items_eq_ok ht
  exact forall_mem_of_mapM h hm

/-- A field is filled when it was empty and its value is taken. -/
theorem fill_eq_ok_iff {slot : Option α} {read : Tree → Except Fault α} {t : Tree}
    {filled : Option α} :
    fill slot read t = .ok filled ↔ slot = none ∧ ∃ a, read t = .ok a ∧ filled = some a := by
  cases slot with
  | none =>
    rw [fill, map_eq_ok_iff]
    simp only [true_and, eq_comm]
  | some a => simp [fill]

/-- A field that must be given is given. -/
theorem required_eq_ok_iff {slot : Option α} {a : α} : required slot = .ok a ↔ slot = some a := by
  cases slot with
  | none => exact iff_of_false nofun nofun
  | some b => simp [required]

/-- A value that may be missing is `null` or is taken. -/
theorem optional_eq_ok {r : Reader α} {depth : Nat} {t : Tree} {a : α}
    (h : optional r depth t = .ok (some a)) : r depth t = .ok a := by
  unfold optional at h
  split at h
  · cases h
  · obtain ⟨found, hf, he⟩ := map_eq_ok_iff.mp h
    cases he
    exact hf

private theorem gather_induction {P : σ → Prop}
    (hp : ∀ d key t after, P d → put d key t = .ok after → P after) {ms : List (Tree × Tree)}
    {draft result : σ} (h : gather put draft ms = .ok result) (h₀ : P draft) : P result := by
  induction ms generalizing draft with
  | nil =>
    cases h
    exact h₀
  | cons member rest ih =>
    obtain ⟨key, value⟩ := member
    obtain ⟨name, -, h⟩ := bind_eq_ok_iff.mp h
    obtain ⟨after, ha, h⟩ := bind_eq_ok_iff.mp h
    exact ih h (hp draft name value after h₀ ha)

/-- What every member keeps of a draft holds of the draft that a record is read into. -/
theorem record_induction {P : σ → Prop}
    (hp : ∀ d key t after, P d → put d key t = .ok after → P after) {keys : List String}
    {draft result : σ} {t : Tree} (h : record keys put draft t = .ok result) (h₀ : P draft) :
    P result := by
  obtain ⟨ms, -, hg⟩ := record_eq_ok h
  exact gather_induction hp hg h₀

end Reader

end SeriesFilter.Json
