import RoadFetch.Geometry.Vec
import RoadFetch.Geometry.Scalar

/-!
# Swept pickups

During a tick every moving dog sweeps a segment. An item (an office or a piece of loot, a
disc of some radius) is gathered when it comes within reach of the segment: the sum of the
radii. The contact is reported with the parameter of the nearest point of the segment (its
time, in `[0, 1]`) and the squared distance there. When the plain test misses, the four
extreme points of the item's disc are tried against the dog's own radius. Contacts are
ordered by time; equal times keep the order of dogs and then items.

The test is written over any plane and numbers (`Plane`, `Arith`): the dogs' plane of doubles
when the game runs, and exact numbers when it is read exactly.
-/

namespace RoadFetch

/-- A sweep: from `start` to `stop` with a pickup radius. -/
structure Sweep (P α : Type) where
  start : P
  stop : P
  radius : α
  deriving Repr

/-- An item that can be gathered: a disc. -/
structure Disc (P α : Type) where
  position : P
  radius : α
  deriving Repr

/-- A contact: which item, which gatherer, the squared distance and the time. -/
structure Contact (α : Type) where
  item : Nat
  gatherer : Nat
  sqDistance : α
  time : α
  deriving Repr

/-- A dog's sweep over a tick. -/
abbrev Gatherer := Sweep Vec2 Double

/-- An office or a piece of loot. -/
abbrev Item := Disc Vec2 Double

abbrev GatherEvent := Contact Double

namespace Pickup

variable {P α : Type} [Arith α] [Plane P α]

/-- The projection of `p` on the line through `start` along `delta`: the parameter of the
foot point and the squared distance to the line (never below zero). -/
def project (start delta p : P) : α × α :=
  let rel := Plane.sub p start
  let lenSq := Plane.lengthSq delta
  let ratio := Plane.dot rel delta / lenSq
  let sq := Plane.lengthSq rel - Plane.dot rel delta * Plane.dot rel delta / lenSq
  (ratio, Arith.maxNum sq 0.0)

/-- The four extreme points of a disc along the axes. -/
def corners (i : Disc P α) : List P :=
  [Plane.point (Plane.x i.position + i.radius) (Plane.y i.position),
   Plane.point (Plane.x i.position - i.radius) (Plane.y i.position),
   Plane.point (Plane.x i.position) (Plane.y i.position + i.radius),
   Plane.point (Plane.x i.position) (Plane.y i.position - i.radius)]

/-- Whether `t` lies in `[0, 1]`. -/
def inUnit (t : α) : Bool := 0.0 <= t && t <= 1.0

/-- The plain test: the item is reached when its centre is within the sum of the radii of the
foot of the perpendicular on the segment, or of the end nearest the foot when the foot is off
the segment. -/
def direct (g : Sweep P α) (i : Disc P α) : Option (α × α) :=
  let (ratio, sq) := project g.start (Plane.sub g.stop g.start) i.position
  let reach := g.radius + i.radius
  let reachSq := reach * reach
  if inUnit ratio then
    if sq <= reachSq then some (sq, ratio) else none
  else
    let t := Scalar.clamp ratio 0.0 1.0
    let endSq := Plane.distanceSq i.position (Plane.lerp g.start g.stop t)
    if endSq <= reachSq then some (endSq, t) else none

/-- One extreme point of the item tried against the gatherer's own radius: it replaces the best
so far when it is within that radius of the segment and nearer than the best. -/
def cornerStep (g : Sweep P α) (best : Option (α × α)) (c : P) : Option (α × α) :=
  let t := Scalar.clamp (project g.start (Plane.sub g.stop g.start) c).1 0.0 1.0
  let cornerSq := Plane.distanceSq c (Plane.lerp g.start g.stop t)
  if cornerSq > g.radius * g.radius then best
  else match best with
    | some (b, _) => if cornerSq < b then some (cornerSq, t) else best
    | none => some (cornerSq, t)

/-- The retry with the extreme points of the item: the time of the best one, with the squared
distance of the centre at that time. -/
def cornerContact (g : Sweep P α) (i : Disc P α) : Option (α × α) :=
  ((corners i).foldl (cornerStep g) none).map fun (_, t) =>
    (Plane.distanceSq i.position (Plane.lerp g.start g.stop t), t)

/-- The contact of a gatherer with an item, as squared distance and time: the plain test, and
the extreme points of the item when it misses. -/
def contact (g : Sweep P α) (i : Disc P α) : Option (α × α) :=
  match direct g i with
  | some r => some r
  | none => cornerContact g i

end Pickup

/-- All contacts between moving gatherers of nonzero radius and items of nonzero radius,
ordered by time (stable over gatherer, then item order). -/
def gatherEvents {P α : Type} [Arith α] [Plane P α] (gatherers : List (Sweep P α))
    (items : List (Disc P α)) : List (Contact α) :=
  let found := (gatherers.zipIdx).flatMap fun (g, gi) =>
    if Plane.beq g.start g.stop || g.radius == 0.0 then []
    else (items.zipIdx).filterMap fun (i, ii) =>
      if i.radius == 0.0 then none
      else (Pickup.contact g i).map fun (sq, t) => ⟨ii, gi, sq, t⟩
  found.mergeSort fun a b => Arith.totalLe a.time b.time

end RoadFetch
