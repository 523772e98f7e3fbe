import RoadFetch.Time.Duration
import Mathlib

/-! # Spans in nanoseconds

A span is its count of nanoseconds. Below `2 ^ 64` seconds a span built from a count gives the
count back, so a sum of spans that fits adds their counts. Read in real numbers, the seconds of
a span are its nanoseconds over `10 ^ 9`.
-/

namespace RoadFetch.Duration

theorem toNanos_ofNanos {n : Nat} (h : n < 2 ^ 64 * nanosPerSec) : (ofNanos n).toNanos = n := by
  have hsecs : n / nanosPerSec < 2 ^ 64 := Nat.div_lt_of_lt_mul (by rwa [Nat.mul_comm])
  have hnanos : n % nanosPerSec < 2 ^ 32 := Nat.lt_trans (Nat.mod_lt _ (by decide)) (by decide)
  unfold toNanos ofNanos
  rw [Nat.toUInt64_eq, UInt64.toNat_ofNat', Nat.mod_eq_of_lt hsecs, Nat.toUInt32_eq, UInt32.toNat_ofNat',
    Nat.mod_eq_of_lt hnanos]
  exact Nat.div_add_mod' n _

@[simp] theorem toNanos_zero : zero.toNanos = 0 := rfl

theorem toNanos_add {a b : Duration} (h : a.toNanos + b.toNanos < 2 ^ 64 * nanosPerSec) :
    (a + b).toNanos = a.toNanos + b.toNanos :=
  toNanos_ofNanos h

theorem toSecs_natCast (d : Duration) : d.toSecs (fun n : ℕ => (n : ℝ)) = d.toNanos / 1000000000 := by
  have hlit : (1000000000.0 : ℝ) = 1000000000 := by norm_num
  simp only [toSecs, toNanos, nanosPerSec, hlit]
  push_cast
  ring

end RoadFetch.Duration
