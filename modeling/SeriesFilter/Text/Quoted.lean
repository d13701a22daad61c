import SeriesFilter.Text.EscapeTable
import SeriesFilter.Text.Ranges

/-!
# Texts in double quotes

Messages show a text between double quotes. Quote and backslash are escaped, tab, line feed,
carriage return and the null character have short escapes, and a character without a shape of its
own is written by its number.
-/

namespace SeriesFilter.Text

/-- The hexadecimal digits of a number, small letters, without leading zeros. -/
def hexDigits (n : Nat) : List Char :=
  Nat.toDigits 16 n

/-- Whether a quoted text writes the character by number. -/
def isShapeless (c : Char) : Bool :=
  inRanges shapelessRanges c.toNat

/-- One character of a quoted text. -/
def quotedChar (c : Char) : List Char :=
  if c == '\x00' then ['\\', '0']
  else if c == '\t' then ['\\', 't']
  else if c == '\n' then ['\\', 'n']
  else if c == '\r' then ['\\', 'r']
  else if c == '"' then ['\\', '"']
  else if c == '\\' then ['\\', '\\']
  else if isShapeless c then ['\\', 'u', '\x7b'] ++ hexDigits c.toNat ++ ['\x7d']
  else [c]

/-- A text between double quotes, escaped. -/
def quoted (s : String) : String :=
  String.ofList ('"' :: s.toList.flatMap quotedChar ++ ['"'])

end SeriesFilter.Text
