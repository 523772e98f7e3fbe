import RoadFetch.Decimal.Binary

/-!
# The loot generator's random numbers

A xorshift128+ generator on two 64-bit words, seeded by two SplitMix64 outputs. The all-zero
state is the one state the step maps to itself, so seeding and restoring never produce it:
a zero pair is replaced by `[1, 1]` at seeding and by the seed-zero state on restore.
-/

namespace RoadFetch

/-- The generator state: two 64-bit words. -/
structure Rng where
  s0 : UInt64
  s1 : UInt64
  deriving Repr, DecidableEq, Inhabited

namespace Rng

/-- One SplitMix64 step: the advanced counter and the mixed output. -/
def splitMix (s : UInt64) : UInt64 × UInt64 :=
  let s := s + 0x9E3779B97F4A7C15
  let z := s
  let z := (z ^^^ (z >>> 30)) * 0xBF58476D1CE4E5B9
  let z := (z ^^^ (z >>> 27)) * 0x94D049BB133111EB
  (s, z ^^^ (z >>> 31))

/-- The generator of a seed: two SplitMix64 outputs, `[1, 1]` in place of two zeros. -/
def ofSeed (seed : UInt64) : Rng :=
  let (s, a) := splitMix seed
  let (_, b) := splitMix s
  if a = 0 ∧ b = 0 then ⟨1, 1⟩ else ⟨a, b⟩

/-- Rotation of a word to the left. -/
def rotl (w : UInt64) (k : UInt64) : UInt64 := (w <<< k) ||| (w >>> (64 - k))

/-- The xorshift128+ step on the state alone. -/
def step (r : Rng) : Rng :=
  let s1 := r.s1 ^^^ r.s0
  ⟨rotl r.s0 24 ^^^ s1 ^^^ (s1 <<< 16), rotl s1 37⟩

/-- The next output (the wrapping sum of the two words) and the advanced generator. -/
def nextU64 (r : Rng) : UInt64 × Rng := (r.s0 + r.s1, r.step)

/-- An index below `len` (the output modulo `len`); zero without drawing when `len = 0`. -/
def nextIndex (r : Rng) (len : Nat) : Nat × Rng :=
  if len = 0 then (0, r)
  else
    let (n, r) := r.nextU64
    (n.toNat % len, r)

/-- A double in `[0, 1)`: the top 53 bits of the output over `2 ^ 53`. -/
def nextUnit (r : Rng) : Float × Rng :=
  let (n, r) := r.nextU64
  (Decimal.roundBinary false (n >>> 11).toNat (-53), r)

/-- An index into a collection of `len` elements, or none when it is empty. -/
def choose (r : Rng) (len : Nat) : Option Nat × Rng :=
  if len = 0 then (none, r)
  else
    let (i, r) := r.nextIndex len
    (some i, r)

/-- The state as a pair of words. -/
def state (r : Rng) : UInt64 × UInt64 := (r.s0, r.s1)

/-- The generator at a given state; the all-zero state becomes the seed-zero state. -/
def ofState (a b : UInt64) : Rng :=
  if a = 0 ∧ b = 0 then ofSeed 0 else ⟨a, b⟩

end Rng

end RoadFetch
