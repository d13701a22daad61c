/-!
# Finding and cutting texts

A test for substrings, and the parts of a text between separators. Both work on lists of
characters.
-/

namespace SeriesFilter.Text

/-- Whether `part` stands somewhere in the list. -/
def occursIn (part : List Char) : List Char → Bool
  | [] => part.isEmpty
  | c :: rest => part.isPrefixOf (c :: rest) || occursIn part rest

/-- A part occurs exactly when it is an infix. -/
theorem occursIn_iff {part whole : List Char} : occursIn part whole = true ↔ part <:+: whole := by
  induction whole with
  | nil => simp [occursIn]
  | cons c rest ih => simp [occursIn, ih, List.infix_cons_iff]

/-- The parts between separators: one more than there are separators. -/
def splitAtEach (separator : Char) : List Char → List (List Char)
  | [] => [[]]
  | c :: rest =>
    if c = separator then [] :: splitAtEach separator rest
    else match splitAtEach separator rest with
      | part :: parts => (c :: part) :: parts
      | [] => [[c]]

/-- There is always a first part. -/
theorem splitAtEach_ne_nil (separator : Char) (s : List Char) : splitAtEach separator s ≠ [] := by
  cases s with
  | nil => simp [splitAtEach]
  | cons c rest =>
    simp only [splitAtEach]
    split
    · simp
    · split <;> simp

end SeriesFilter.Text
