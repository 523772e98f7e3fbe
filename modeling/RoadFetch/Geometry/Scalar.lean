import RoadFetch.Double

/-!
# Comparing doubles

Minimum and maximum that ignore a NaN operand and order `-0.0` below `+0.0`, clamping that
lets a NaN through, and the total order of doubles by their words (`Double.totalLe`), which
sorts times deterministically even when some are not numbers. Each function returns one of
its operands word for word, so a NaN that passes keeps its sign.

Geometry is written over the numbers it runs in (`Arith`): doubles when the game runs, and
exact numbers when it is read exactly.
-/

namespace RoadFetch

/-- The numbers a geometric computation runs in: arithmetic, comparisons, a maximum that passes
over a NaN, and the order that sorts contact times. -/
class Arith (α : Type) extends Add α, Sub α, Mul α, Div α, LT α, LE α, BEq α, OfScientific α where
  [decLt : ∀ a b : α, Decidable (a < b)]
  [decLe : ∀ a b : α, Decidable (a ≤ b)]
  maxNum : α → α → α
  totalLe : α → α → Bool

instance Arith.instDecidableLt {α : Type} [Arith α] (a b : α) : Decidable (a < b) := Arith.decLt a b

instance Arith.instDecidableLe {α : Type} [Arith α] (a b : α) : Decidable (a ≤ b) := Arith.decLe a b

namespace Scalar

/-- The smaller of two doubles; a NaN operand gives the other one, and of two zeros the
negative one is the smaller. -/
def minNum (a b : Double) : Double :=
  if a.isNaN then b else if b.isNaN then a
  else if b < a then b else if a < b then a
  else if a.signBit then a else b

/-- The larger of two doubles; a NaN operand gives the other one, and of two zeros the
positive one is the larger. -/
def maxNum (a b : Double) : Double :=
  if a.isNaN then b else if b.isNaN then a
  else if a < b then b else if b < a then a
  else if a.signBit then b else a

/-- The value `x` held in `[lo, hi]`; a NaN stays as it is. -/
def clamp {α : Type} [LT α] [∀ a b : α, Decidable (a < b)] (x lo hi : α) : α :=
  let x := if x < lo then lo else x
  if x > hi then hi else x

/-- Total order on doubles: `a` comes no later than `b`. -/
def totalLe (a b : Double) : Bool := Double.totalLe a b

end Scalar

instance : Arith Double where
  maxNum := Scalar.maxNum
  totalLe := Scalar.totalLe

end RoadFetch
