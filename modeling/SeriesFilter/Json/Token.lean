import SeriesFilter.Json.Numeral

/-!
# The tokens of a JSON text

A text is cut into tokens up to the first place where no token can be read. What stands there is
told by the ending. Whether an ending counts as a text that stops early or as a malformed one
depends on what was expected in that place.
-/

namespace SeriesFilter.Json

/-- The pieces of a JSON text. -/
inductive Token where
  | openBrace | closeBrace | openBracket | closeBracket | comma | colon
  | null
  | bool (b : Bool)
  | number (n : Numeral)
  /-- A string; without content when its quotes and escapes are in order but it is no text: a
  surrogate stands alone or its bytes are no UTF-8. -/
  | text (content : Option String)
  deriving DecidableEq, Repr

/-- What stands after the last token of a text. -/
inductive Ending where
  /-- Nothing but blanks. -/
  | ended
  /-- A string without its closing quote. -/
  | inText
  /-- The beginning of `null`, `true` or `false`. -/
  | inWord
  /-- The beginning of a number. -/
  | inNumeral
  /-- Something that begins no token. -/
  | malformed
  deriving DecidableEq, Repr

/-- A text as tokens. -/
structure Tokens where
  tokens : List Token
  ending : Ending
  deriving DecidableEq, Repr

end SeriesFilter.Json
