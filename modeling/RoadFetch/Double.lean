import RoadFetch.Decimal.Binary

/-!
# Doubles as machine words

A double is held as its 64-bit word: the sign bit, eleven exponent bits and fifty-two
fraction bits. Every double has exactly one word, so a NaN keeps the sign and payload it was
made with. Lean's `Float` forgets both (all its NaNs read back as one word), yet they decide
where a NaN falls in the total order of words and which bytes a snapshot holds.

Arithmetic on operands that are not NaN is the IEEE 754 arithmetic of `Float`, rounded to
nearest with ties to even, and gives the same word. NaNs follow the processor's rules:

* an operation with a NaN operand gives that NaN made quiet, the first operand's when both are
  NaN;
* an invalid operation on numbers (`inf - inf`, `0 * inf`, `0 / 0`, `inf / inf`, the square
  root of a negative number) gives the default NaN, which is negative and quiet;
* negation flips the sign bit and the absolute value clears it, NaNs included.

Comparisons are those of IEEE 754: a NaN is unordered and unequal to everything, and `-0.0`
equals `+0.0`. Equality and decimal literals are computed on the words themselves, so they
evaluate in proofs as well as at run time.
-/

namespace RoadFetch

/-- A double given by its 64-bit word. -/
structure Double where
  word : UInt64
  deriving Inhabited, Repr

namespace Double

def signMask : UInt64 := 0x8000000000000000

/-- The highest fraction bit, set in a quiet NaN. -/
def quietMask : UInt64 := 0x0008000000000000

def exponentMask : UInt64 := 0x7FF0000000000000

def fractionMask : UInt64 := 0x000FFFFFFFFFFFFF

/-- The NaN that an invalid operation makes: sign set, quiet, no payload. -/
def defaultNaN : Double := ⟨0xFFF8000000000000⟩

/-- The positive quiet NaN with no payload, the constant NaN. -/
def nan : Double := ⟨0x7FF8000000000000⟩

/-- Whether a double is a NaN: all exponent bits set and a fraction that is not zero. -/
def isNaN (d : Double) : Bool :=
  d.word &&& exponentMask == exponentMask && d.word &&& fractionMask != 0

/-- Whether the sign bit is set (negative numbers, `-0.0`, negative NaNs). -/
def signBit (d : Double) : Bool := d.word &&& signMask != 0

/-- The double as a `Float`; every NaN becomes the one NaN of `Float`. -/
def toFloat (d : Double) : Float := Float.ofBits d.word

/-- The double of a `Float` result: its word, or the default NaN for a NaN. -/
def ofFloat (x : Float) : Double := if x.isNaN then defaultNaN else ⟨x.toBits⟩

/-- A NaN made quiet. -/
def quiet (d : Double) : Double := ⟨d.word ||| quietMask⟩

/-- A one-operand operation: a NaN operand comes out quiet, otherwise the `Float` result. -/
def lift (f : Float → Float) (a : Double) : Double :=
  if a.isNaN then a.quiet else ofFloat (f a.toFloat)

/-- A two-operand operation: the first NaN operand comes out quiet, otherwise the `Float`
result. -/
def lift₂ (f : Float → Float → Float) (a b : Double) : Double :=
  if a.isNaN then a.quiet else if b.isNaN then b.quiet else ofFloat (f a.toFloat b.toFloat)

def add (a b : Double) : Double := lift₂ Float.add a b

def sub (a b : Double) : Double := lift₂ Float.sub a b

def mul (a b : Double) : Double := lift₂ Float.mul a b

def div (a b : Double) : Double := lift₂ Float.div a b

/-- The negation: the sign bit flipped. -/
def neg (a : Double) : Double := ⟨a.word ^^^ signMask⟩

/-- The absolute value: the sign bit cleared. -/
def abs (a : Double) : Double := ⟨a.word &&& ~~~signMask⟩

def sqrt (a : Double) : Double := lift Float.sqrt a

/-- The double nearest to an integer. -/
def ofInt (i : Int) : Double := ofFloat (Float.ofInt i)

/-- The double nearest to a natural number. -/
def ofNat (n : Nat) : Double := ofFloat (Float.ofNat n)

/-- IEEE equality: false when either side is a NaN, true for `-0.0` and `+0.0`, and otherwise
true exactly for equal words. -/
def beq (a b : Double) : Bool :=
  !a.isNaN && !b.isNaN && (a.word == b.word || (a.word ||| b.word) &&& ~~~signMask == 0)

def isFinite (a : Double) : Bool := a.word &&& exponentMask != exponentMask

def isInf (a : Double) : Bool := a.word &&& ~~~signMask == exponentMask

instance : Add Double := ⟨add⟩
instance : Sub Double := ⟨sub⟩
instance : Mul Double := ⟨mul⟩
instance : Div Double := ⟨div⟩
instance : Neg Double := ⟨neg⟩
instance : BEq Double := ⟨beq⟩
instance : LT Double := ⟨fun a b => a.toFloat < b.toFloat⟩
instance : LE Double := ⟨fun a b => a.toFloat ≤ b.toFloat⟩

instance decLt (a b : Double) : Decidable (a < b) :=
  inferInstanceAs (Decidable (a.toFloat < b.toFloat))

instance decLe (a b : Double) : Decidable (a ≤ b) :=
  inferInstanceAs (Decidable (a.toFloat ≤ b.toFloat))

/-- A decimal literal is the double nearest to it. -/
instance : OfScientific Double := ⟨fun m s e => ⟨Decimal.decimalBits m s e⟩⟩

instance {n : Nat} : OfNat Double n := ⟨ofNat n⟩

/-- The place of a double in the total order of words, as an integer: negative NaNs first,
then the negative numbers from `-inf` up, `-0.0`, `+0.0`, the positive numbers up to `+inf`,
and positive NaNs last. -/
def totalKey (a : Double) : Int :=
  let w := a.word.toNat
  if w < Nat.pow 2 63 then w else -((w - Nat.pow 2 63 : Nat) : Int) - 1

/-- The total order of words: `a` comes no later than `b`. -/
def totalLe (a b : Double) : Bool := decide (totalKey a ≤ totalKey b)

end Double

end RoadFetch
