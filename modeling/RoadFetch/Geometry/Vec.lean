import RoadFetch.Decimal.Text
import RoadFetch.Double

/-!
# Plane vectors

Points and displacements of the road plane, two doubles each. Every operation works
component by component in double arithmetic, in the order written, so results agree word for
word with the same formulas evaluated elsewhere, NaNs included. The text forms show three places per
component.
-/

namespace RoadFetch

/-- A point or displacement in the plane. -/
structure Vec2 where
  x : Double
  y : Double
  deriving Repr, Inhabited

namespace Vec2

def zero : Vec2 := ⟨0.0, 0.0⟩

/-- The point of integer grid coordinates. -/
def ofGrid (x y : Int) : Vec2 := ⟨Double.ofInt x, Double.ofInt y⟩

def add (a b : Vec2) : Vec2 := ⟨a.x + b.x, a.y + b.y⟩

def sub (a b : Vec2) : Vec2 := ⟨a.x - b.x, a.y - b.y⟩

def neg (a : Vec2) : Vec2 := ⟨-a.x, -a.y⟩

def scale (a : Vec2) (s : Double) : Vec2 := ⟨a.x * s, a.y * s⟩

instance : Add Vec2 := ⟨add⟩
instance : Sub Vec2 := ⟨sub⟩
instance : Neg Vec2 := ⟨neg⟩

/-- The squared length, `x * x + y * y`. -/
def lengthSq (a : Vec2) : Double := a.x * a.x + a.y * a.y

def length (a : Vec2) : Double := a.lengthSq.sqrt

def distanceSq (a b : Vec2) : Double := (a.sub b).lengthSq

def dot (a b : Vec2) : Double := a.x * b.x + a.y * b.y

/-- The unit vector of the same direction; the origin when the length is zero. -/
def normalize (a : Vec2) : Vec2 :=
  let len := a.length
  if len == 0.0 then zero else a.scale (1.0 / len)

/-- The point a fraction `t` of the way from `a` to `b`: `a + (b - a) * t`. -/
def lerp (a b : Vec2) (t : Double) : Vec2 := a.add ((b.sub a).scale t)

/-- Both components compare equal to zero (so `-0.0` counts as zero). -/
def isZero (a : Vec2) : Bool := a.x == 0.0 && a.y == 0.0

/-- Both components are equal as doubles. -/
def beq (a b : Vec2) : Bool := a.x == b.x && a.y == b.y

/-- The text `(x, y)` with three places per component. -/
def display (a : Vec2) : String :=
  "(" ++ Decimal.fixed 3 a.x.toFloat ++ ", " ++ Decimal.fixed 3 a.y.toFloat ++ ")"

/-- The text `Vec2(x, y)` with three places per component. -/
def describe (a : Vec2) : String :=
  "Vec2(" ++ Decimal.fixed 3 a.x.toFloat ++ ", " ++ Decimal.fixed 3 a.y.toFloat ++ ")"

end Vec2

/-- The points `P` of a plane over numbers `α`, with the operations geometry needs. -/
class Plane (P : Type) (α : outParam Type) where
  point : α → α → P
  x : P → α
  y : P → α
  sub : P → P → P
  dot : P → P → α
  /-- The squared length of a displacement. -/
  lengthSq : P → α
  /-- The point a fraction of the way from one point to another. -/
  lerp : P → P → α → P
  /-- Whether two points are the same. -/
  beq : P → P → Bool

/-- The squared distance between two points. -/
def Plane.distanceSq {P α : Type} [Plane P α] (a b : P) : α := Plane.lengthSq (Plane.sub a b)

instance : Plane Vec2 Double := ⟨Vec2.mk, Vec2.x, Vec2.y, Vec2.sub, Vec2.dot, Vec2.lengthSq, Vec2.lerp, Vec2.beq⟩

end RoadFetch
