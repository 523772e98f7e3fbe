import RoadFetch.Time.Duration
import RoadFetch.Geometry.Scalar

/-!
# Loot spawning

Loot appears to make up for a shortage: when there are fewer pieces of loot than dogs, each
missing piece appears with a chance that grows with the time since loot last appeared,
`1 - (1 - p) ^ (elapsed / period)`. The expected count is rounded (halves away from zero);
whenever some loot appears the clock starts again. With a zero period the chance is one.

The chance is written over the numbers it is computed in (`ChanceArith`): floats when the game
runs, and exact numbers when it is read exactly.
-/

namespace RoadFetch

/-- The numbers a chance of loot is computed in: arithmetic and comparison, the number nearest
to a count, powers, rounding with halves away from zero, and the count a number stands for. -/
class ChanceArith (α : Type) extends Add α, Sub α, Mul α, Div α, LT α, OfScientific α where
  [decLt : ∀ a b : α, Decidable (a < b)]
  ofNat : Nat → α
  pow : α → α → α
  round : α → α
  /-- The count a number stands for, held at zero below and at the largest 64-bit word above. -/
  toCount : α → Nat

instance (priority := low) ChanceArith.instDecidableLt {α : Type} [ChanceArith α] (a b : α) :
    Decidable (a < b) :=
  ChanceArith.decLt a b

instance : ChanceArith Float where
  ofNat := Decimal.ofNatNearest
  pow := Float.pow
  round := Float.round
  toCount x := x.toUInt64.toNat

/-- How loot appears: the reference period and the chance per period. -/
structure SpawnConfig where
  period : Duration
  probability : Float
  deriving Repr, Inhabited

/-- Five seconds, even odds. -/
def SpawnConfig.default : SpawnConfig := ⟨Duration.ofSecs 5, 0.5⟩

/-- A spawner: its configuration and the time since loot last appeared. -/
structure Spawner where
  config : SpawnConfig
  since : Duration := Duration.zero
  deriving Repr, Inhabited

namespace Spawner

/-- A spawner with its clock at zero. -/
def new (config : SpawnConfig) : Spawner := ⟨config, Duration.zero⟩

section Chance

variable {α : Type} [ChanceArith α]

/-- The chance that one missing piece appears once `since` has passed, for a chance `p` per
`period`; with a zero period it is one. -/
def chanceOf (p : α) (period since : Duration) : α :=
  if period.toNanos = 0 then 1.0
  else
    let ratio := since.toSecs ChanceArith.ofNat / period.toSecs ChanceArith.ofNat
    let p := Scalar.clamp p 0.0 1.0
    Scalar.clamp (1.0 - ChanceArith.pow (1.0 - p) ratio) 0.0 1.0

/-- How many of `deficit` missing pieces appear: the expected count, rounded. -/
def countOf (p : α) (period since : Duration) (deficit : Nat) : Nat :=
  ChanceArith.toCount (ChanceArith.round (ChanceArith.ofNat deficit * chanceOf p period since))

/-- Advances the clock `since` by `elapsed` and counts the pieces that appear for `deficit`
missing ones; the clock restarts when some appear. -/
def advance (p : α) (period since elapsed : Duration) (deficit : Nat) : Nat × Duration :=
  let since := since + elapsed
  let count := countOf p period since deficit
  if count > 0 then (count, Duration.zero) else (count, since)

end Chance

/-- Advances the clock by `elapsed` and returns how many pieces appear for `loot` pieces on
the map and `dogs` dogs; the clock restarts when some appear. -/
def generate (s : Spawner) (elapsed : Duration) (loot dogs : Nat) : Nat × Spawner :=
  let (count, since) := advance s.config.probability s.config.period s.since elapsed (dogs - loot)
  (count, { s with since })

end Spawner

end RoadFetch
