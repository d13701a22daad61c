import SeriesFilter.Text.CaseTable
import SeriesFilter.Text.Ranges

/-!
# Lower case of a text

The full lower-case mapping: each character by itself, save that `İ` becomes two characters and
that a capital sigma at the end of a word becomes `ς`.
-/

namespace SeriesFilter.Text

/-- Where the simple mapping sends a code point. -/
def lowerCode (code : Nat) : Nat :=
  match lowerRows.find? fun (first, last, stride, _) ↦
      first ≤ code && code ≤ last && (code - first) % stride == 0 with
  | some (_, _, _, shift) => ((code : Int) + shift).toNat
  | none => code

/-- The lower-case text of one character outside any word. -/
def lowerChar (c : Char) : List Char :=
  if c.toNat < 0x80 then [c.toLower]
  else if c == 'İ' then ['i', '\u0307']
  else [Char.ofNat (lowerCode c.toNat)]

/-- Whether the search for a cased neighbour passes over the character. -/
def isCaseIgnorable (c : Char) : Bool :=
  inRanges caseIgnorableRanges c.toNat

/-- Whether the character has case and the search for a cased neighbour stops at it. -/
def isCased (c : Char) : Bool :=
  inRanges casedRanges c.toNat

/-- Whether the first character that is not passed over has case. -/
def startsCased (s : List Char) : Bool :=
  match s.find? fun c ↦ !isCaseIgnorable c with
  | some c => isCased c
  | none => false

/-- A capital sigma is final when a cased character stands before it and none after it. -/
def isFinalSigma (before after : List Char) : Bool :=
  startsCased before && !startsCased after

/-- Lower case of the characters that follow `before`, which is held in reverse. -/
def lowerAfter (before : List Char) : List Char → List Char
  | [] => []
  | 'Σ' :: rest =>
    (if isFinalSigma before rest then 'ς' else 'σ') :: lowerAfter ('Σ' :: before) rest
  | c :: rest => lowerChar c ++ lowerAfter (c :: before) rest

/-- Lower case of a list of characters. -/
def lowerChars (s : List Char) : List Char :=
  lowerAfter [] s

/-- Lower case of a string. -/
def lower (s : String) : String :=
  String.ofList (lowerChars s.toList)

/-- Lower case of a string is lower case of its characters. -/
@[simp] theorem toList_lower (s : String) : (lower s).toList = lowerChars s.toList := by
  simp [lower]

end SeriesFilter.Text
