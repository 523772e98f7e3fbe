/-!
# Little-endian words

Fixed-width unsigned words as bytes, least significant byte first, and back.
-/

namespace RoadFetch.Bytes

/-- The `width` bytes of `n`, least significant first (higher bytes are cut). -/
def le (width : Nat) (n : Nat) : List UInt8 :=
  (List.range width).map fun i => (n / Nat.pow 2 (8 * i) % 256).toUInt8

/-- The number of little-endian bytes. -/
def ofLe (bs : List UInt8) : Nat :=
  bs.foldr (fun b acc => b.toNat + 256 * acc) 0

/-- The eight bytes of a 64-bit word. -/
def le64 (w : UInt64) : List UInt8 := le 8 w.toNat

end RoadFetch.Bytes
