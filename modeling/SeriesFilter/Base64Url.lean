/-!
# Base64 for addresses

Bytes as letters, digits, `-` and `_`, three bytes to four symbols, without padding. Decoding
refuses every text that encoding does not write: other symbols, padding, a single symbol at the
end, and a last symbol with bits that stand for nothing.
-/

namespace SeriesFilter.Base64Url

/-- The symbol of a six-bit number. -/
def symbol (n : Nat) : Char :=
  if n < 26 then Char.ofNat ('A'.toNat + n)
  else if n < 52 then Char.ofNat ('a'.toNat + (n - 26))
  else if n < 62 then Char.ofNat ('0'.toNat + (n - 52))
  else if n = 62 then '-'
  else '_'

/-- The six-bit number of a symbol. -/
def sextet? (b : UInt8) : Option Nat :=
  let c := Char.ofUInt8 b
  if 'A' ≤ c ∧ c ≤ 'Z' then some (c.toNat - 'A'.toNat)
  else if 'a' ≤ c ∧ c ≤ 'z' then some (c.toNat - 'a'.toNat + 26)
  else if '0' ≤ c ∧ c ≤ '9' then some (c.toNat - '0'.toNat + 52)
  else if c = '-' then some 62
  else if c = '_' then some 63
  else none

/-- The symbols of a list of bytes. -/
def encode : List UInt8 → List Char
  | [] => []
  | [a] => [symbol (a.toNat / 4), symbol (a.toNat % 4 * 16)]
  | [a, b] =>
    [symbol (a.toNat / 4), symbol (a.toNat % 4 * 16 + b.toNat / 16), symbol (b.toNat % 16 * 4)]
  | a :: b :: c :: rest =>
    symbol (a.toNat / 4) :: symbol (a.toNat % 4 * 16 + b.toNat / 16) ::
      symbol (b.toNat % 16 * 4 + c.toNat / 64) :: symbol (c.toNat % 64) :: encode rest

/-- Why a text is no encoding. -/
inductive DecodeError where
  | invalidSymbol (offset : Nat) (symbol : UInt8)
  | invalidLength (length : Nat)
  | invalidLastSymbol (offset : Nat) (symbol : UInt8)
  | padding
  deriving DecidableEq, Repr

/-- The message about a text that is no encoding. -/
def DecodeError.message : DecodeError → String
  | .invalidSymbol offset symbol => s!"Invalid symbol {symbol.toNat}, offset {offset}."
  | .invalidLength length => s!"Invalid input length: {length}"
  | .invalidLastSymbol offset symbol => s!"Invalid last symbol {symbol.toNat}, offset {offset}."
  | .padding => "Invalid padding"

/-- The byte that pads other encodings to full groups. -/
def pad : UInt8 := 0x3D

/-- The six-bit number of the symbol at some offset. -/
def sextet (offset : Nat) (b : UInt8) : Except DecodeError Nat :=
  match sextet? b with
  | some n => .ok n
  | none => .error (.invalidSymbol offset b)

/-- The bytes of a full group. -/
def joinFour (a b c d : Nat) : List UInt8 :=
  [(a * 4 + b / 16).toUInt8, (b % 16 * 16 + c / 4).toUInt8, (c % 4 * 64 + d).toUInt8]

/-- The six-bit numbers at the end of a text that starts at `offset`, with whether padding
follows them. Padding may not stand before two symbols nor before another symbol. -/
def lastSextets (offset : Nat) (last : List UInt8) : Except DecodeError (List Nat × Bool) :=
  let rec go (index : Nat) (firstPad : Option Nat) : List UInt8 →
      Except DecodeError (List Nat × Bool)
    | [] => .ok ([], firstPad.isSome)
    | b :: rest =>
      if b = pad then
        if index < 2 then .error (.invalidSymbol (offset + index) b)
        else go (index + 1) (some (firstPad.getD index)) rest
      else match firstPad with
        | some at_ => .error (.invalidSymbol (offset + at_) pad)
        | none => do
          let n ← sextet (offset + index) b
          let (more, padded) ← go (index + 1) none rest
          return (n :: more, padded)
  go 0 none last

/-- The bytes at the end of a text: of its last one to four symbols. -/
def decodeLast (offset : Nat) (last : List UInt8) : Except DecodeError (List UInt8) := do
  let (sextets, padded) ← lastSextets offset last
  let unused (bits index : Nat) (n : Nat) (bytes : List UInt8) : Except DecodeError (List UInt8) :=
    if n % bits = 0 then .ok bytes
    else .error (.invalidLastSymbol (offset + index) (last.getD index 0))
  if sextets.length < 2 then .error (.invalidLength (offset + sextets.length))
  else if padded then .error .padding
  else match sextets with
    | [a, b] => unused 16 1 b [(a * 4 + b / 16).toUInt8]
    | [a, b, c] => unused 4 2 c [(a * 4 + b / 16).toUInt8, (b % 16 * 16 + c / 4).toUInt8]
    | [a, b, c, d] => .ok (joinFour a b c d)
    | _ => .ok []

/-- The bytes of a text from some offset on. A group that is followed by more must be full. -/
def decodeFrom (offset : Nat) : List UInt8 → Except DecodeError (List UInt8)
  | [] => .ok []
  | a :: b :: c :: d :: e :: rest => do
    let a ← sextet offset a
    let b ← sextet (offset + 1) b
    let c ← sextet (offset + 2) c
    let d ← sextet (offset + 3) d
    let more ← decodeFrom (offset + 4) (e :: rest)
    return joinFour a b c d ++ more
  | last => decodeLast offset last

/-- The bytes that a text encodes. A stray byte after full groups is reported before anything
else. -/
def decode (text : List UInt8) : Except DecodeError (List UInt8) :=
  match text.getLast? with
  | some stray =>
    if text.length % 4 = 1 ∧ stray ≠ pad ∧ sextet? stray = none then
      .error (.invalidSymbol (text.length - 1) stray)
    else decodeFrom 0 text
  | none => .ok []

end SeriesFilter.Base64Url
