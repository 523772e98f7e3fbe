import RoadFetch.Decimal.Binary

/-!
# Durations

A span of time as whole seconds (a 64-bit word) and nanoseconds below one second. Sums carry
nanoseconds into seconds; conversion from seconds given as a double rounds the exact value to
the nearest nanosecond, a tie going to the even count, and refuses negative values, NaN and
values from `2 ^ 64` seconds on.
-/

namespace RoadFetch

/-- A span of time: seconds and the nanoseconds below one second. -/
structure Duration where
  secs : UInt64
  nanos : UInt32
  deriving Repr, DecidableEq, Inhabited

namespace Duration

def nanosPerSec : Nat := 1000000000

def zero : Duration := ⟨0, 0⟩

/-- The span of a count of nanoseconds (seconds beyond 64 bits are cut). -/
def ofNanos (n : Nat) : Duration := ⟨(n / nanosPerSec).toUInt64, (n % nanosPerSec).toUInt32⟩

def ofMillis (ms : Nat) : Duration := ofNanos (ms * 1000000)

def ofSecs (s : Nat) : Duration := ofNanos (s * nanosPerSec)

/-- The whole span in nanoseconds. -/
def toNanos (d : Duration) : Nat := d.secs.toNat * nanosPerSec + d.nanos.toNat

/-- Whole milliseconds of the span. -/
def toMillis (d : Duration) : Nat := d.toNanos / 1000000

/-- Whole milliseconds, held at the largest 64-bit word when they do not fit. -/
def toMillisWord (d : Duration) : UInt64 :=
  if d.toMillis < Nat.pow 2 64 then d.toMillis.toUInt64 else UInt64.ofNat (Nat.pow 2 64 - 1)

def add (a b : Duration) : Duration := ofNanos (a.toNanos + b.toNanos)

instance : Add Duration := ⟨add⟩

/-- Order by length. -/
def le (a b : Duration) : Bool := a.toNanos ≤ b.toNanos

/-- Seconds as a number: `secs + nanos / 10 ^ 9`, each part made a number by `ofNat` first. -/
def toSecs {α : Type} [Add α] [Div α] [OfScientific α] (ofNat : Nat → α) (d : Duration) : α :=
  ofNat d.secs.toNat + ofNat d.nanos.toNat / 1000000000.0

/-- Seconds as a double, each part rounded to a double first. -/
def toSecsFloat (d : Duration) : Float := d.toSecs Decimal.ofNatNearest

/-- A span of nonnegative seconds given as a double, rounded to the nearest nanosecond
(a tie to the even count); none for negative values, NaN and from `2 ^ 64` seconds on. -/
def ofSecsFloat? (x : Float) : Option Duration :=
  let b := Decimal.Binary64.ofFloat x
  if !b.isFinite then none
  else if b.isZero then some zero
  else if b.negative then none
  else
    let m := b.significand
    let e := b.exponent
    -- 2 ^ 64 seconds and more do not fit
    if m * Nat.pow 2 e.toNat ≥ Nat.pow 2 64 * Nat.pow 2 (-e).toNat then none
    else some (ofNanos (Decimal.shiftRoundEven (m * nanosPerSec * Nat.pow 2 e.toNat) (-e).toNat))

end Duration

end RoadFetch
