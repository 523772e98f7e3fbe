import RoadFetch.Decimal.Text

/-!
# UTF-8 validation

Decodes bytes as UTF-8, rejecting overlong forms, surrogates and code points past `10FFFF`.
On failure it reports how many bytes form a valid prefix and how long the bad sequence is:
the number of bytes that were read before the sequence went wrong, or nothing when the input
ended in the middle of a sequence that could still have been valid.
-/

namespace RoadFetch.Utf8

/-- A failed decode: the length of the valid prefix and of the bad sequence after it
(`none` when the input ends inside a sequence). -/
structure Failure where
  validUpTo : Nat
  errorLen : Option Nat
  deriving Repr, DecidableEq

def Failure.message (f : Failure) : String :=
  match f.errorLen with
  | some n => "invalid utf-8 sequence of " ++ Decimal.natText n ++ " bytes from index " ++
      Decimal.natText f.validUpTo
  | none => "incomplete utf-8 byte sequence from index " ++ Decimal.natText f.validUpTo

/-- Whether a byte continues a sequence. -/
def isTail (b : UInt8) : Bool := 0x80 ≤ b && b ≤ 0xBF

/-- The length of a sequence led by `b`; zero for a byte that cannot lead one. -/
def width (b : UInt8) : Nat :=
  if b < 0x80 then 1
  else if 0xC2 ≤ b && b ≤ 0xDF then 2
  else if 0xE0 ≤ b && b ≤ 0xEF then 3
  else if 0xF0 ≤ b && b ≤ 0xF4 then 4
  else 0

/-- Whether the second byte of a sequence is allowed after its lead: this excludes overlong
forms, surrogates and code points past `10FFFF`. -/
def secondFits (lead b : UInt8) : Bool :=
  if lead == 0xE0 then 0xA0 ≤ b && b ≤ 0xBF
  else if lead == 0xED then 0x80 ≤ b && b ≤ 0x9F
  else if lead == 0xF0 then 0x90 ≤ b && b ≤ 0xBF
  else if lead == 0xF4 then 0x80 ≤ b && b ≤ 0x8F
  else isTail b

/-- The low six bits of a continuation byte. -/
def low6 (b : UInt8) : Nat := (b &&& 0x3F).toNat

/-- The code point of a checked sequence. -/
def codePoint : List UInt8 → Nat
  | [a] => a.toNat
  | [a, b] => (a &&& 0x1F).toNat * 64 + low6 b
  | [a, b, c] => ((a &&& 0x0F).toNat * 64 + low6 b) * 64 + low6 c
  | [a, b, c, d] => (((a &&& 0x07).toNat * 64 + low6 b) * 64 + low6 c) * 64 + low6 d
  | _ => 0

/-- Prepends a character to a successful decode. -/
def consOk (c : Char) : Except Failure (List Char) → Except Failure (List Char)
  | .ok cs => .ok (c :: cs)
  | .error e => .error e

/-- Decodes the bytes, which start at `offset` of the whole input, into characters. The
bytes of a sequence are checked in order, and the first bad one decides the error length. -/
def decodeFrom (offset : Nat) : List UInt8 → Except Failure (List Char)
  | [] => .ok []
  | a :: rest =>
    match width a, rest with
    | 1, rest => consOk (Char.ofNat a.toNat) (decodeFrom (offset + 1) rest)
    | 2, b :: rest =>
      if secondFits a b then consOk (Char.ofNat (codePoint [a, b])) (decodeFrom (offset + 2) rest)
      else .error ⟨offset, some 1⟩
    | 3, b :: c :: rest =>
      if !secondFits a b then .error ⟨offset, some 1⟩
      else if !isTail c then .error ⟨offset, some 2⟩
      else consOk (Char.ofNat (codePoint [a, b, c])) (decodeFrom (offset + 3) rest)
    | 3, [b] => if secondFits a b then .error ⟨offset, none⟩ else .error ⟨offset, some 1⟩
    | 4, b :: c :: d :: rest =>
      if !secondFits a b then .error ⟨offset, some 1⟩
      else if !isTail c then .error ⟨offset, some 2⟩
      else if !isTail d then .error ⟨offset, some 3⟩
      else consOk (Char.ofNat (codePoint [a, b, c, d])) (decodeFrom (offset + 4) rest)
    | 4, [b, c] =>
      if !secondFits a b then .error ⟨offset, some 1⟩
      else if !isTail c then .error ⟨offset, some 2⟩
      else .error ⟨offset, none⟩
    | 4, [b] => if secondFits a b then .error ⟨offset, none⟩ else .error ⟨offset, some 1⟩
    | 0, _ => .error ⟨offset, some 1⟩
    | _, _ => .error ⟨offset, none⟩

/-- Decodes UTF-8 bytes into a string. -/
def decode (bs : List UInt8) : Except Failure String := (decodeFrom 0 bs).map String.ofList

end RoadFetch.Utf8
