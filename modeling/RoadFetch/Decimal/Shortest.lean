import RoadFetch.Decimal.Binary

/-!
# Shortest decimals of a double

A finite nonzero double `v = m * 2 ^ e` is the nearest double to every real of its rounding
interval: the reals halfway to its two neighbours, the ends included when `m` is even. The
shortest decimal of `v` is found by trying one, two, ... seventeen significant digits: on the
grid of `n` digits only the two grid points next to `v` can lie in the interval, and the first
grid with such a point wins; of two points the nearer is taken, and an exact tie goes either
to the even one or to the upper one (of larger magnitude), as the caller asks. All comparisons
are exact products of naturals.
-/

namespace RoadFetch.Decimal

/-- A decimal number `digits * 10 ^ exponent`. -/
structure Scaled where
  digits : Nat
  exponent : Int
  deriving Repr, DecidableEq

namespace Scaled

/-- Number of decimal digits of a natural number (at least one). -/
def digitCount (n : Nat) : Nat := (Nat.toDigits 10 n).length

/-- Removes trailing zeros of the digits, raising the exponent (fuel: one step per digit). -/
def normalizeAux : Nat → Nat → Int → Scaled
  | 0, d, x => ⟨d, x⟩
  | fuel + 1, d, x => if d ≠ 0 ∧ d % 10 = 0 then normalizeAux fuel (d / 10) (x + 1) else ⟨d, x⟩

/-- The same number without trailing zeros in its digits. -/
def normalize (d : Scaled) : Scaled := normalizeAux (digitCount d.digits) d.digits d.exponent

/-- The position of the decimal point counted from the left of the digits:
`10 ^ (point - 1) ≤ value < 10 ^ point` for nonzero digits. -/
def point (d : Scaled) : Int := (digitCount d.digits : Int) + d.exponent

end Scaled

/-! ### Exact comparisons -/

/-- Compares `a * 10 ^ x` with `b * 2 ^ y` exactly. -/
def compareScaled (a : Nat) (x : Int) (b : Nat) (y : Int) : Ordering :=
  let lhs := a * Nat.pow 10 x.toNat * Nat.pow 2 (-y).toNat
  let rhs := b * Nat.pow 2 y.toNat * Nat.pow 10 (-x).toNat
  compare lhs rhs

/-- The exponent `k` with `10 ^ k ≤ n * 2 ^ e < 10 ^ (k + 1)`, when `n > 0`.
The search starts from the bit length estimate and corrects it (fuel: a few steps). -/
def floorLog10 (n : Nat) (e : Int) : Int :=
  -- log10 2 is a little above 0.30103
  let est : Int := ((bitLength n : Int) - 1 + e) * 30103 / 100000
  let rec fix : Nat → Int → Int
    | 0, k => k
    | fuel + 1, k =>
      if compareScaled 1 k n e == .gt then fix fuel (k - 1)
      else if compareScaled 1 (k + 1) n e != .gt then fix fuel (k + 1)
      else k
  fix 8 est

/-- The rounding interval of `m * 2 ^ e`, as numerators over `2 ^ (e - 2)`:
`(low, high)` and whether the ends belong to it. `lowerHalf` marks a significand that is
a power of two above the subnormal range, whose lower neighbour is only half as far. -/
def roundingInterval (m : Nat) (lowerHalf : Bool) : Nat × Nat :=
  (if lowerHalf then 4 * m - 1 else 4 * m - 2, 4 * m + 2)

/-- Whether `c * 10 ^ x` lies in the rounding interval `[low, high] * 2 ^ f`. -/
def inInterval (c : Nat) (x : Int) (low high : Nat) (f : Int) (inclusive : Bool) : Bool :=
  let lo := compareScaled c x low f
  let hi := compareScaled c x high f
  (lo == .gt || (inclusive && lo == .eq)) && (hi == .lt || (inclusive && hi == .eq))

/-- The shortest decimal in the rounding interval of `m * 2 ^ e` (`m > 0`), the nearer of two,
an exact tie going to the upper one when `tieUp` holds and to the even one otherwise;
`lowerHalf` as in `roundingInterval`. -/
def shortestOf (m : Nat) (e : Int) (lowerHalf tieUp : Bool) : Scaled :=
  let (low, high) := roundingInterval m lowerHalf
  let f := e - 2
  let inclusive := m % 2 == 0
  let k := floorLog10 m e
  let rec search : Nat → Nat → Scaled
    | 0, _ => ⟨m, e.toNat⟩
    | fuel + 1, n =>
      -- the grid of `n` significant digits has step `10 ^ x`
      let x : Int := k + 1 - n
      -- `c` is the grid point at or below the value
      let c : Nat :=
        if x ≥ 0 then m * Nat.pow 2 e.toNat / (Nat.pow 10 x.toNat * Nat.pow 2 (-e).toNat)
        else m * Nat.pow 2 e.toNat * Nat.pow 10 (-x).toNat / Nat.pow 2 (-e).toNat
      let downOk := inInterval c x low high f inclusive
      let upOk := inInterval (c + 1) x low high f inclusive
      if downOk && upOk then
        -- the lower point is nearer iff the midpoint (2c + 1) * 10^x / 2 lies above the value
        match compareScaled (2 * c + 1) x (8 * m) f with
        | .gt => ⟨c, x⟩
        | .lt => ⟨c + 1, x⟩
        | .eq => if tieUp || c % 2 = 1 then ⟨c + 1, x⟩ else ⟨c, x⟩
      else if downOk then ⟨c, x⟩
      else if upOk then ⟨c + 1, x⟩
      else search fuel (n + 1)
  (search 17 1).normalize

/-- The shortest decimal of the magnitude of a finite nonzero double, ties broken as `tieUp`
says. -/
def shortest (b : Binary64) (tieUp : Bool) : Scaled :=
  shortestOf b.significand b.exponent (b.fraction == 0 && b.biased > 1) tieUp

end RoadFetch.Decimal
