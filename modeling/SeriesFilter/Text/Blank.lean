/-!
# Blank characters and trimming

Blank characters are those with the property White_Space. Trimming works on lists of characters;
the versions on strings go through them.
-/

namespace SeriesFilter.Text

/-- The characters that trimming removes: all of the White_Space property. -/
def isBlank (c : Char) : Bool :=
  let code := c.toNat
  (0x09 ≤ code && code ≤ 0x0D) || code == 0x20 || code == 0x85 || code == 0xA0 ||
    code == 0x1680 || (0x2000 ≤ code && code ≤ 0x200A) || code == 0x2028 || code == 0x2029 ||
    code == 0x202F || code == 0x205F || code == 0x3000

/-- A list without its leading blanks. -/
def trimStart (s : List Char) : List Char :=
  s.dropWhile isBlank

/-- A list without its trailing blanks. -/
def trimEnd (s : List Char) : List Char :=
  (trimStart s.reverse).reverse

/-- A list without its leading and trailing blanks. -/
def trimChars (s : List Char) : List Char :=
  trimEnd (trimStart s)

/-- A string without its leading and trailing blanks. -/
def trim (s : String) : String :=
  String.ofList (trimChars s.toList)

/-- Trimming a string trims its characters. -/
@[simp] theorem toList_trim (s : String) : (trim s).toList = trimChars s.toList := by
  simp [trim]

/-- A list that begins with no blank has no leading blanks. -/
theorem trimStart_eq_self {s : List Char} (h : ∀ c, s.head? = some c → isBlank c = false) :
    trimStart s = s := by
  cases s with
  | nil => rfl
  | cons c rest =>
    rw [trimStart, List.dropWhile_cons_of_neg]
    simp [h c rfl]

/-- A list without its leading blanks begins with no blank. -/
theorem isBlank_of_head?_trimStart {s : List Char} {c : Char}
    (h : (trimStart s).head? = some c) : isBlank c = false := by
  have hd := List.head?_dropWhile_not isBlank s
  rw [trimStart] at h
  rw [h] at hd
  exact hd

/-- Trimming the end takes characters from the end alone. -/
theorem trimEnd_prefix (s : List Char) : trimEnd s <+: s := by
  rw [← List.reverse_suffix, trimEnd, List.reverse_reverse]
  exact List.dropWhile_suffix isBlank

/-- A list without blanks stays as it is. -/
theorem trimChars_eq_self {s : List Char} (h : ∀ c ∈ s, isBlank c = false) : trimChars s = s := by
  have hs : trimStart s = s := trimStart_eq_self fun c hc ↦ h c (List.mem_of_head? hc)
  have he : trimStart s.reverse = s.reverse :=
    trimStart_eq_self fun c hc ↦ h c (List.mem_reverse.mp (List.mem_of_head? hc))
  rw [trimChars, hs, trimEnd, he, List.reverse_reverse]

/-- A trimmed list is trimmed. -/
theorem trimChars_trimChars (s : List Char) : trimChars (trimChars s) = trimChars s := by
  have hs : trimStart (trimEnd (trimStart s)) = trimEnd (trimStart s) := by
    refine trimStart_eq_self fun c hc ↦ ?_
    obtain ⟨blanks, hb⟩ := trimEnd_prefix (trimStart s)
    apply isBlank_of_head?_trimStart (s := s)
    rw [← hb, List.head?_append, hc, Option.some_or]
  have he : trimStart (trimStart (trimStart s).reverse) = trimStart (trimStart s).reverse :=
    trimStart_eq_self fun _ ↦ isBlank_of_head?_trimStart
  rw [trimChars, trimChars, hs, trimEnd, trimEnd, List.reverse_reverse, he]

/-- A trimmed string is trimmed. -/
theorem trim_trim (s : String) : trim (trim s) = trim s := by
  rw [trim, toList_trim, trimChars_trimChars, trim]

/-- Blanks at the beginning are trimmed away. -/
theorem trimStart_append_of_blank {before : List Char} (h : ∀ c ∈ before, isBlank c = true)
    (s : List Char) : trimStart (before ++ s) = trimStart s :=
  List.dropWhile_append_of_pos h

/-- Blanks at the end are trimmed away. -/
theorem trimEnd_append_of_blank {after : List Char} (h : ∀ c ∈ after, isBlank c = true)
    (s : List Char) : trimEnd (s ++ after) = trimEnd s := by
  have hr : ∀ c ∈ after.reverse, isBlank c = true := fun c hc ↦ h c (List.mem_reverse.mp hc)
  rw [trimEnd, trimEnd, List.reverse_append, trimStart_append_of_blank hr]

/-- What is trimmed from the end is blank. -/
theorem exists_trimEnd_append (s : List Char) :
    ∃ blanks, (∀ c ∈ blanks, isBlank c = true) ∧ trimEnd s ++ blanks = s := by
  refine ⟨(s.reverse.takeWhile isBlank).reverse, ?_, ?_⟩
  · intro c hc
    exact List.all_eq_true.mp List.all_takeWhile c (List.mem_reverse.mp hc)
  · rw [trimEnd, trimStart, ← List.reverse_append, List.takeWhile_append_dropWhile,
      List.reverse_reverse]

/-- A list that is trimmed begins with no blank. -/
theorem trimStart_of_trimChars {s : List Char} (h : trimChars s = s) : trimStart s = s := by
  have hs : trimStart s <:+ s := List.dropWhile_suffix isBlank
  have hp : trimChars s <+: trimStart s := trimEnd_prefix (trimStart s)
  have hl := hp.length_le
  rw [h] at hl
  exact hs.eq_of_length (Nat.le_antisymm hs.length_le hl)

/-- A list between blanks is trimmed as it is alone. -/
theorem trimChars_between {before after : List Char} (hb : ∀ c ∈ before, isBlank c = true)
    (ha : ∀ c ∈ after, isBlank c = true) (s : List Char) :
    trimChars (before ++ s ++ after) = trimChars s := by
  have hn : trimStart after = [] := by
    rw [← List.append_nil after, trimStart_append_of_blank ha]
    rfl
  rw [List.append_assoc, trimChars, trimStart_append_of_blank hb, trimStart, List.dropWhile_append]
  split
  · next he =>
    -- nothing but blanks
    rw [← trimStart, hn, trimChars, trimStart, List.isEmpty_iff.mp he]
  · rw [trimEnd_append_of_blank ha]
    rfl

/-- A string between blanks is trimmed as it is alone. -/
theorem trim_between {before after : String} (hb : ∀ c ∈ before.toList, isBlank c = true)
    (ha : ∀ c ∈ after.toList, isBlank c = true) (s : String) :
    trim (before ++ s ++ after) = trim s := by
  rw [trim, String.toList_append, String.toList_append, trimChars_between hb ha, trim]

end SeriesFilter.Text
