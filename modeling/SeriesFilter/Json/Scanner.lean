import SeriesFilter.Json.Token

/-!
# Cutting bytes into tokens

The scanner is a fold of one step over the bytes. Between tokens it passes over spaces, tabs and
line ends; inside a string it collects bytes and escaped code units; inside a number it follows
the grammar of numbers byte by byte. Where no token can continue it stays stuck.
-/

namespace SeriesFilter.Json

/-- A piece of a string's content: a byte that stands for itself, or an escaped UTF-16 unit. -/
inductive TextUnit where
  | byte (b : UInt8)
  | code (n : Nat)
  deriving DecidableEq, Repr

/-- Leading surrogates of UTF-16. -/
def isLeading (n : Nat) : Bool := 0xD800 ≤ n && n ≤ 0xDBFF

/-- Trailing surrogates of UTF-16. -/
def isTrailing (n : Nat) : Bool := 0xDC00 ≤ n && n ≤ 0xDFFF

/-- The code point of a surrogate pair. -/
def joinSurrogates (high low : Nat) : Nat :=
  0x10000 + (high - 0xD800) * 0x400 + (low - 0xDC00)

/-- The UTF-8 bytes of a code point. -/
def encodeCode (n : Nat) : List UInt8 :=
  String.utf8EncodeChar (Char.ofNat n)

/-- The bytes of a string's content, after a leading surrogate `high` if there is one. The second
part tells whether a leading surrogate still waits for its partner at the end. There is no answer
when a surrogate stands alone. -/
def joinUnits : Option Nat → List TextUnit → Option (List UInt8 × Bool)
  | high, [] => some ([], high.isSome)
  | none, .byte b :: rest => (joinUnits none rest).map fun (bs, waits) ↦ (b :: bs, waits)
  | none, .code n :: rest =>
    if isLeading n then joinUnits (some n) rest
    else if isTrailing n then none
    else (joinUnits none rest).map fun (bs, waits) ↦ (encodeCode n ++ bs, waits)
  | some _, .byte _ :: _ => none
  | some high, .code n :: rest =>
    if isTrailing n then
      (joinUnits none rest).map fun (bs, waits) ↦ (encodeCode (joinSurrogates high n) ++ bs, waits)
    else none

/-- The text that a closed string writes. -/
def textOf (units : List TextUnit) : Option String :=
  match joinUnits none units with
  | some (bytes, false) => String.fromUTF8? bytes.toByteArray
  | _ => none

/-- Where the scanner stands within an escape. -/
inductive Escape where
  /-- Not in an escape. -/
  | none
  /-- After a backslash. -/
  | mark
  /-- After `\u` and these bytes, latest first. -/
  | hex (digits : List UInt8)
  deriving DecidableEq, Repr

/-- Where the scanner stands within a number, named for what it read last. -/
inductive NumeralPart where
  | sign | zero | whole | point | fraction | mark | markSign | exponent
  deriving DecidableEq, Repr

/-- A number being read: its digits are held latest first. -/
structure NumeralDraft where
  part : NumeralPart
  numeral : Numeral
  deriving DecidableEq, Repr

/-- What the scanner is in the middle of. -/
inductive Mode where
  | between
  | word (left : List UInt8) (token : Token)
  | numeral (draft : NumeralDraft)
  /-- A string, its units latest first. -/
  | text (units : List TextUnit) (escape : Escape)
  | stuck
  deriving DecidableEq, Repr

/-- The scanner: the tokens read, latest first, and what it is in the middle of. -/
structure Scanner where
  tokens : List Token := []
  mode : Mode := .between
  deriving DecidableEq, Repr

/-- Bytes between tokens. -/
def isSpace (b : UInt8) : Bool :=
  b == 0x20 || b == 0x09 || b == 0x0A || b == 0x0D

/-- The value of a hexadecimal digit. -/
def hexValue? (b : UInt8) : Option Nat :=
  let c := Char.ofUInt8 b
  if '0' ≤ c ∧ c ≤ '9' then some (c.toNat - '0'.toNat)
  else if 'a' ≤ c ∧ c ≤ 'f' then some (c.toNat - 'a'.toNat + 10)
  else if 'A' ≤ c ∧ c ≤ 'F' then some (c.toNat - 'A'.toNat + 10)
  else none

/-- The value of hexadecimal digits held latest first. -/
def hexUnit? : List UInt8 → Option Nat
  | [] => some 0
  | b :: rest => (hexValue? b).bind fun d ↦ (hexUnit? rest).map fun n ↦ 16 * n + d

namespace NumeralDraft

/-- Whether a number may end here. -/
def isComplete (d : NumeralDraft) : Bool :=
  match d.part with
  | .zero | .whole | .fraction | .exponent => true
  | .sign | .point | .mark | .markSign => false

/-- The number read, its digits in written order. -/
def finish (d : NumeralDraft) : Numeral :=
  { d.numeral with
    whole := d.numeral.whole.reverse
    fraction := d.numeral.fraction.map List.reverse
    exponent := d.numeral.exponent.map fun (lowers, digits) ↦ (lowers, digits.reverse) }

/-- A digit of the whole part. -/
def pushWhole (d : NumeralDraft) (part : NumeralPart) (c : Char) : NumeralDraft :=
  ⟨part, { d.numeral with whole := c :: d.numeral.whole }⟩

/-- A digit of the fraction. -/
def pushFraction (d : NumeralDraft) (c : Char) : NumeralDraft :=
  ⟨.fraction, { d.numeral with fraction := some (c :: d.numeral.fraction.getD []) }⟩

/-- The sign of the exponent. -/
def signExponent (d : NumeralDraft) (part : NumeralPart) (lowers : Bool) : NumeralDraft :=
  ⟨part, { d.numeral with exponent := some (lowers, []) }⟩

/-- A digit of the exponent. -/
def pushExponent (d : NumeralDraft) (c : Char) : NumeralDraft :=
  let (lowers, digits) := d.numeral.exponent.getD (false, [])
  ⟨.exponent, { d.numeral with exponent := some (lowers, c :: digits) }⟩

/-- The number with one more character; `none` when the number does not go on with it. -/
def push? (d : NumeralDraft) (c : Char) : Option NumeralDraft :=
  match d.part with
  | .sign =>
    if c == '0' then some (d.pushWhole .zero c)
    else if c.isDigit then some (d.pushWhole .whole c)
    else none
  | .zero =>
    if c == '.' then some { d with part := .point }
    else if c == 'e' || c == 'E' then some { d with part := .mark }
    else none
  | .whole =>
    if c.isDigit then some (d.pushWhole .whole c)
    else if c == '.' then some { d with part := .point }
    else if c == 'e' || c == 'E' then some { d with part := .mark }
    else none
  | .point => if c.isDigit then some (d.pushFraction c) else none
  | .fraction =>
    if c.isDigit then some (d.pushFraction c)
    else if c == 'e' || c == 'E' then some { d with part := .mark }
    else none
  | .mark =>
    if c == '+' then some (d.signExponent .markSign false)
    else if c == '-' then some (d.signExponent .markSign true)
    else if c.isDigit then some (d.pushExponent c)
    else none
  | .markSign | .exponent => if c.isDigit then some (d.pushExponent c) else none

end NumeralDraft

namespace Scanner

/-- The scanner after a whole token. -/
def emit (s : Scanner) (token : Token) : Scanner :=
  ⟨token :: s.tokens, .between⟩

/-- The scanner in the middle of something. -/
def become (s : Scanner) (mode : Mode) : Scanner :=
  { s with mode }

/-- A byte between tokens. -/
def begin (s : Scanner) (b : UInt8) : Scanner :=
  if isSpace b then s.become .between
  else match Char.ofUInt8 b with
    | '\x7b' => s.emit .openBrace
    | '\x7d' => s.emit .closeBrace
    | '[' => s.emit .openBracket
    | ']' => s.emit .closeBracket
    | ',' => s.emit .comma
    | ':' => s.emit .colon
    | '"' => s.become (.text [] .none)
    | 'n' => s.become (.word "ull".toUTF8.toList .null)
    | 't' => s.become (.word "rue".toUTF8.toList (.bool true))
    | 'f' => s.become (.word "alse".toUTF8.toList (.bool false))
    | '-' => s.become (.numeral ⟨.sign, { negative := true, whole := [] }⟩)
    | c =>
      match NumeralDraft.push? ⟨.sign, { whole := [] }⟩ c with
      | some draft => s.become (.numeral draft)
      | none => s.become .stuck

/-- A byte of a string. -/
def stepText (s : Scanner) (units : List TextUnit) (escape : Escape) (b : UInt8) : Scanner :=
  match escape with
  | .none =>
    match Char.ofUInt8 b with
    | '"' => s.emit (.text (textOf units.reverse))
    | '\\' => s.become (.text units .mark)
    | _ => if b < 0x20 then s.become .stuck else s.become (.text (.byte b :: units) .none)
  | .mark =>
    match Char.ofUInt8 b with
    | '"' | '\\' | '/' => s.become (.text (.byte b :: units) .none)
    | 'b' => s.become (.text (.byte 0x08 :: units) .none)
    | 'f' => s.become (.text (.byte 0x0C :: units) .none)
    | 'n' => s.become (.text (.byte 0x0A :: units) .none)
    | 'r' => s.become (.text (.byte 0x0D :: units) .none)
    | 't' => s.become (.text (.byte 0x09 :: units) .none)
    | 'u' => s.become (.text units (.hex []))
    | _ => s.become .stuck
  | .hex digits =>
    if digits.length < 3 then s.become (.text units (.hex (b :: digits)))
    else match hexUnit? (b :: digits) with
      | some n => s.become (.text (.code n :: units) .none)
      | none => s.become .stuck

/-- One byte. -/
def step (s : Scanner) (b : UInt8) : Scanner :=
  match s.mode with
  | .stuck => s
  | .between => s.begin b
  | .word left token =>
    match left with
    | [] => s.become .stuck
    | [last] => if b == last then s.emit token else s.become .stuck
    | next :: rest => if b == next then s.become (.word rest token) else s.become .stuck
  | .numeral draft =>
    match draft.push? (Char.ofUInt8 b) with
    | some draft => s.become (.numeral draft)
    | none =>
      if draft.part = .zero ∧ (Char.ofUInt8 b).isDigit then s.become .stuck
      else if draft.isComplete then (s.emit (.number draft.finish)).begin b
      else s.become .stuck
  | .text units escape => s.stepText units escape b

/-- The tokens of a text once its bytes are used up. A string that is cut short after a surrogate
standing alone is given as a token, since whoever needs its text meets the surrogate first. -/
def finish (s : Scanner) : Tokens :=
  match s.mode with
  | .between => ⟨s.tokens.reverse, .ended⟩
  | .word .. => ⟨s.tokens.reverse, .inWord⟩
  | .numeral draft =>
    if draft.isComplete then ⟨(Token.number draft.finish :: s.tokens).reverse, .ended⟩
    else ⟨s.tokens.reverse, .inNumeral⟩
  | .text units _ =>
    match joinUnits none units.reverse with
    | some _ => ⟨s.tokens.reverse, .inText⟩
    | none => ⟨(Token.text none :: s.tokens).reverse, .ended⟩
  | .stuck => ⟨s.tokens.reverse, .malformed⟩

end Scanner

/-- The tokens of a text given by its bytes. -/
def Tokens.ofBytes (bytes : List UInt8) : Tokens :=
  (bytes.foldl Scanner.step {}).finish

end SeriesFilter.Json
