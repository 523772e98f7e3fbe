/-!
# Binary64 words as exact numbers

A double is read off its 64-bit word: sign, biased exponent and fraction. A finite word
denotes `significand * 2 ^ exponent` exactly, and every exact number `m * 2 ^ e` has one
nearest double, with a tie going to the even significand. Both directions use `Nat`
arithmetic only, so the text printers and the number reader built on them never depend on
how the runtime formats or parses a `Float`.
-/

namespace RoadFetch.Decimal

/-- The three fields of a binary64 word. -/
structure Binary64 where
  negative : Bool
  biased : Nat
  fraction : Nat
  deriving Repr, DecidableEq

namespace Binary64

def fractionBits : Nat := 52

/-- The hidden bit of a normal significand. -/
def hidden : Nat := Nat.pow 2 52

/-- Exponent bias plus the fraction width: a normal word with biased exponent `b` scales by `2 ^ (b - 1075)`. -/
def shift : Int := 1075

/-- Splits a word into its fields. -/
def ofBits (w : UInt64) : Binary64 :=
  let n := w.toNat
  ⟨decide (Nat.pow 2 63 ≤ n), (n / hidden) % 2048, n % hidden⟩

def ofFloat (x : Float) : Binary64 := ofBits x.toBits

/-- Infinities and NaNs have the all-ones exponent. -/
def isFinite (b : Binary64) : Bool := b.biased != 2047

/-- Zero of either sign. -/
def isZero (b : Binary64) : Bool := b.biased == 0 && b.fraction == 0

/-- The integer significand of a finite word (with the hidden bit for normal words). -/
def significand (b : Binary64) : Nat :=
  if b.biased = 0 then b.fraction else hidden + b.fraction

/-- The power of two that scales the significand of a finite word. -/
def exponent (b : Binary64) : Int :=
  if b.biased = 0 then 1 - shift else (b.biased : Int) - shift

/-- The word of the fields (fields out of range are cut to their widths). -/
def toBits (b : Binary64) : UInt64 :=
  ((if b.negative then Nat.pow 2 63 else 0) + (b.biased % 2048) * hidden + b.fraction % hidden).toUInt64

end Binary64

/-! ### Rounding an exact number to a double -/

/-- The quotient `m / 2 ^ s` rounded to the nearest integer, a tie going to the even one. -/
def shiftRoundEven (m s : Nat) : Nat :=
  let q := m / Nat.pow 2 s
  let r := m % Nat.pow 2 s
  if s = 0 then m
  else if 2 * r > Nat.pow 2 s then q + 1
  else if 2 * r = Nat.pow 2 s then (if q % 2 = 1 then q + 1 else q)
  else q

/-- Number of binary digits of `m` (zero has none). -/
def bitLength (m : Nat) : Nat := if m = 0 then 0 else Nat.log2 m + 1

/-- The word of the double nearest to `(-1) ^ negative * m * 2 ^ e`, a tie going to the even
significand; magnitudes from `2 ^ 1024` (after rounding) on become infinite. -/
def roundBits (negative : Bool) (m : Nat) (e : Int) : UInt64 :=
  if m = 0 then Binary64.toBits ⟨negative, 0, 0⟩ else
  -- keep 53 significant bits, but never scale below the subnormal step 2 ^ -1074
  let drop : Int := max ((bitLength m : Int) - 53) (-1074 - e)
  let (q, e') :=
    if drop ≤ 0 then (m * Nat.pow 2 drop.natAbs, e + drop) else (shiftRoundEven m drop.natAbs, e + drop)
  -- rounding up may carry into a 54th bit
  let (q, e') := if q = Nat.pow 2 53 then (Nat.pow 2 52, e' + 1) else (q, e')
  if q < Binary64.hidden then
    Binary64.toBits ⟨negative, 0, q⟩
  else
    let biased := e' + Binary64.shift
    if biased ≥ 2047 then Binary64.toBits ⟨negative, 2047, 0⟩
    else Binary64.toBits ⟨negative, biased.toNat, q - Binary64.hidden⟩

/-- The double nearest to `(-1) ^ negative * m * 2 ^ e`. -/
def roundBinary (negative : Bool) (m : Nat) (e : Int) : Float := Float.ofBits (roundBits negative m e)

/-- The word of the double nearest to `m * 10 ^ e`, or to `m / 10 ^ e` when `inverse`, a tie
going to the even significand. A quotient is taken to at least 55 bits with one more bit set
when it is inexact, so that rounding it rounds the exact number. -/
def decimalBits (m : Nat) (inverse : Bool) (e : Nat) : UInt64 :=
  if m = 0 then Binary64.toBits ⟨false, 0, 0⟩
  else if !inverse then roundBits false (m * Nat.pow 5 e) e
  else
    let den := Nat.pow 5 e
    let k := 55 + bitLength den
    let n := m * Nat.pow 2 k
    let inexact := if n % den = 0 then 0 else 1
    roundBits false (2 * (n / den) + inexact) (-(e : Int) - k - 1)

/-- The double nearest to a natural number. -/
def ofNatNearest (n : Nat) : Float := roundBinary false n 0

/-- The double nearest to `10 ^ k`. -/
def powTen (k : Nat) : Float := roundBinary false (Nat.pow 5 k) k

end RoadFetch.Decimal
