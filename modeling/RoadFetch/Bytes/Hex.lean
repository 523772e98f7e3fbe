/-!
# Hex text of bytes

Bytes are written as two lowercase hex digits each. Reading accepts either case and refuses
an odd count of digits or a character that is no hex digit.
-/

namespace RoadFetch.Hex

/-- The lowercase hex digit of a value below 16. -/
def digitChar (n : Nat) : Char :=
  if n < 10 then Char.ofNat (48 + n) else Char.ofNat (87 + n)

/-- Two lowercase hex digits per byte. -/
def encode (b : ByteArray) : String :=
  String.ofList (b.toList.flatMap fun x => [digitChar (x.toNat / 16), digitChar (x.toNat % 16)])

/-- The value of a hex digit of either case. -/
def digitValue? (c : Char) : Option Nat :=
  if '0' ≤ c ∧ c ≤ '9' then some (c.toNat - 48)
  else if 'a' ≤ c ∧ c ≤ 'f' then some (c.toNat - 87)
  else if 'A' ≤ c ∧ c ≤ 'F' then some (c.toNat - 55)
  else none

/-- Bytes of pairs of hex digits. -/
def decodeList : List Char → Option (List UInt8)
  | [] => some []
  | [_] => none
  | a :: b :: rest => do
    let hi ← digitValue? a
    let lo ← digitValue? b
    let tail ← decodeList rest
    pure ((hi * 16 + lo).toUInt8 :: tail)

/-- The bytes of a hex text, if it is one. -/
def decode? (s : String) : Option ByteArray :=
  (decodeList s.toList).map fun l => ByteArray.mk l.toArray

end RoadFetch.Hex
