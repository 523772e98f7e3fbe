import RoadFetch.Map.Basic
import RoadFetch.Geometry.Scalar

/-!
# The road grid and clipped movement

Each road covers a box: the rectangle spanned by its two ends, widened by half a road width
on every side. A point is on the grid when some box holds it, up to a tolerance of
`0.0025`. A dog moving from a point on the grid along a straight line goes as far as the
grid reaches: the line's exits from the boxes are visited in order, and at the first exit
after which the point a step of `0.005` further lies on no box, the dog stops at the exit,
held inside the box it leaves. A move that starts off the grid does not move; a move of
length zero ends at its target.

The computations are written over the numbers they run in (`GridArith`), on boxes given by
their two corners: doubles when the game runs, exact numbers when they are read exactly.
-/

namespace RoadFetch

/-- Distance looked ahead past an exit, and twice the tolerance of the boxes. -/
def RoadBox.lookAhead {α : Type} [Arith α] : α := 0.005

/-- How far outside a box a point may lie and still count as inside. -/
def RoadBox.tolerance {α : Type} [Arith α] : α := RoadBox.lookAhead / 2.0

/-- The numbers the exit of a motion from a box is computed in: those of geometry, with a
minimum that passes over a NaN and the two infinities the bounds of the motion start from. -/
class Bounds (α : Type) extends Arith α where
  minNum : α → α → α
  negInf : α
  posInf : α

instance : Bounds Double where
  minNum := Scalar.minNum
  negInf := -(1.0 / 0.0)
  posInf := 1.0 / 0.0

/-- The numbers a grid is built and a move clipped in: those of exits, with the grid's integer
coordinates and a square root for the length of a move. -/
class GridArith (α : Type) extends Bounds α where
  ofInt : Int → α
  sqrt : α → α

instance : GridArith Double where
  ofInt := Double.ofInt
  sqrt := Double.sqrt

/-- The area a road covers. -/
structure RoadBox where
  lo : Vec2
  hi : Vec2
  deriving Repr, Inhabited

namespace RoadBox

/-- The lower and the upper corner of the box of a road widened by `halfWidth` on every
side. -/
def cornersOf {α : Type} [GridArith α] (r : Road) (halfWidth : α) : (α × α) × (α × α) :=
  let s : α × α := (GridArith.ofInt r.start.x, GridArith.ofInt r.start.y)
  let e : α × α := (GridArith.ofInt r.stop.x, GridArith.ofInt r.stop.y)
  ((Bounds.minNum s.1 e.1 - halfWidth, Bounds.minNum s.2 e.2 - halfWidth),
   (Arith.maxNum s.1 e.1 + halfWidth, Arith.maxNum s.2 e.2 + halfWidth))

/-- The box of a road widened by `halfWidth` on every side. -/
def ofRoad (r : Road) (halfWidth : Double) : RoadBox :=
  let c := cornersOf r halfWidth
  ⟨⟨c.1.1, c.1.2⟩, ⟨c.2.1, c.2.2⟩⟩

/-- The lower and the upper corner of a box. -/
def corners (b : RoadBox) : (Double × Double) × (Double × Double) :=
  ((b.lo.x, b.lo.y), (b.hi.x, b.hi.y))

/-- Whether the box of corners `c` holds the point `p`, up to the tolerance. -/
def holds {α : Type} [Arith α] (c : (α × α) × (α × α)) (p : α × α) : Bool :=
  p.1 >= c.1.1 - tolerance && p.1 <= c.2.1 + tolerance &&
    p.2 >= c.1.2 - tolerance && p.2 <= c.2.2 + tolerance

/-- Whether a point lies in the box, up to the tolerance. -/
def contains (b : RoadBox) (p : Vec2) : Bool := holds b.corners (p.x, p.y)

/-- One axis of the exit computation: the entry and exit parameters so far, updated by the
slab `[lo, hi]` for a motion from `origin` by `step`; none when the motion stays outside. -/
def slab {α : Type} [Bounds α] (enter exit : α) (origin step lo hi : α) : Option (α × α) :=
  if step == 0.0 then
    if origin < lo || origin > hi then none else some (enter, exit)
  else
    let a := (lo - origin) / step
    let b := (hi - origin) / step
    some (Arith.maxNum enter (Bounds.minNum a b), Bounds.minNum exit (Arith.maxNum a b))

/-- The largest parameter `t` at which the motion `origin + t * delta` is still in the box of
corners `lo` and `hi` widened by the tolerance, held at zero from below; none when the motion
for `t` in `[0, 1]` misses it. Points and motions are pairs of coordinates. -/
def exitWithin {α : Type} [Bounds α] (lo hi origin delta : α × α) : Option α := do
  let (enter, exit) ← slab Bounds.negInf Bounds.posInf origin.1 delta.1
    (lo.1 - tolerance) (hi.1 + tolerance)
  let (enter, exit) ← slab enter exit origin.2 delta.2 (lo.2 - tolerance) (hi.2 + tolerance)
  if enter > exit || exit < 0.0 || enter > 1.0 then none
  else some (Arith.maxNum exit 0.0)

/-- The point held inside the box of corners `c` widened by the tolerance, axis by axis. -/
def clampInto {α : Type} [Arith α] (c : (α × α) × (α × α)) (p : α × α) : α × α :=
  (Scalar.clamp p.1 (c.1.1 - tolerance) (c.2.1 + tolerance),
   Scalar.clamp p.2 (c.1.2 - tolerance) (c.2.2 + tolerance))

end RoadBox

/-- The boxes of a map's roads, in road order. -/
structure RoadGrid where
  boxes : List RoadBox
  deriving Repr, Inhabited

namespace RoadGrid

/-- The grid of a list of roads. -/
def ofRoads (roads : List Road) : RoadGrid := ⟨roads.map (RoadBox.ofRoad · Road.halfWidth)⟩

/-- Whether some box of corners in `boxes` holds the point. -/
def covers {α : Type} [Arith α] (boxes : List ((α × α) × (α × α))) (p : α × α) : Bool :=
  boxes.any (RoadBox.holds · p)

/-- Whether some box holds the point. -/
def contains (g : RoadGrid) (p : Vec2) : Bool := covers (g.boxes.map RoadBox.corners) (p.x, p.y)

/-- The point reached from `origin` after the fraction `t` of the motion `delta`. -/
def along {α : Type} [Arith α] (origin delta : α × α) (t : α) : α × α :=
  (origin.1 + delta.1 * t, origin.2 + delta.2 * t)

/-- The exits of a motion from the boxes of corners in `boxes` before its end, ordered by
parameter (boxes with equal parameters keep their order). -/
def exitsWithin {α : Type} [Bounds α] (boxes : List ((α × α) × (α × α))) (origin delta : α × α) :
    List (α × ((α × α) × (α × α))) :=
  let found := boxes.filterMap fun c =>
    match RoadBox.exitWithin c.1 c.2 origin delta with
    | some t => if t < 1.0 then some (t, c) else none
    | none => none
  found.mergeSort fun a b => Arith.totalLe a.1 b.1

/-- Where a move from `src` toward `dst` ends on the boxes of corners in `boxes`. -/
def clipWithin {α : Type} [GridArith α] (boxes : List ((α × α) × (α × α))) (src dst : α × α) :
    α × α :=
  let delta := (dst.1 - src.1, dst.2 - src.2)
  let length := GridArith.sqrt (delta.1 * delta.1 + delta.2 * delta.2)
  if length == 0.0 then dst
  else if !covers boxes src then src
  else
    let step := RoadBox.lookAhead / length
    let stop := (exitsWithin boxes src delta).find? fun e =>
      !covers boxes (along src delta (Bounds.minNum (e.1 + step) 1.0))
    match stop with
    | some (t, c) => RoadBox.clampInto c (along src delta t)
    | none => dst

/-- Where a move from `src` toward `dst` ends on the grid. -/
def clip (g : RoadGrid) (src dst : Vec2) : Vec2 :=
  let p := clipWithin (g.boxes.map RoadBox.corners) (src.x, src.y) (dst.x, dst.y)
  ⟨p.1, p.2⟩

end RoadGrid

def Map.grid (m : Map) : RoadGrid := RoadGrid.ofRoads m.roads

end RoadFetch
