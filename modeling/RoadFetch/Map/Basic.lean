import RoadFetch.Geometry.Vec
import RoadFetch.Random.Xorshift
import RoadFetch.Json.Value

/-!
# Maps

A map is a named catalog entry: axis-aligned roads between integer grid points, buildings,
offices where dogs deposit their loot, and the kinds of loot that can appear with their
values. A map may override the dog speed and bag capacity of its sessions. Office ids are
unique within a map; roads run either horizontally or vertically.
-/

namespace RoadFetch

/-- A point of the integer grid. -/
structure GridPoint where
  x : Int
  y : Int
  deriving Repr, DecidableEq, Inhabited

/-- The plane point of a grid point. -/
def GridPoint.toVec (p : GridPoint) : Vec2 := Vec2.ofGrid p.x p.y

/-- A road between two grid points. -/
structure Road where
  start : GridPoint
  stop : GridPoint
  deriving Repr, DecidableEq, Inhabited

namespace Road

/-- Half the width of a road: dogs may stray this far from its center line. -/
def halfWidth {α : Type} [OfScientific α] : α := 0.4

/-- The road from `start` along the x axis to `x`. -/
def horizontal (start : GridPoint) (x : Int) : Road := ⟨start, ⟨x, start.y⟩⟩

/-- The road from `start` along the y axis to `y`. -/
def vertical (start : GridPoint) (y : Int) : Road := ⟨start, ⟨start.x, y⟩⟩

/-- Whether the road runs along one axis. -/
def isAxisAligned (r : Road) : Bool := r.start.y == r.stop.y || r.start.x == r.stop.x

end Road

/-- A building: a grid rectangle that only decorates the map. -/
structure Building where
  position : GridPoint
  width : Int
  height : Int
  deriving Repr, DecidableEq

/-- An office: where dogs hand in their bags. -/
structure Office where
  id : String
  position : GridPoint
  offset : Int × Int
  deriving Repr, DecidableEq

/-- A kind of loot: its value in points and free-form descriptive members. -/
structure LootKind where
  value : Nat
  attributes : Json.Value
  deriving Repr

/-- Why a map cannot take a road or an office. -/
inductive MapError where
  | duplicateOffice (id : String)
  | diagonalRoad (r : Road)
  deriving Repr

def MapError.message : MapError → String
  | .duplicateOffice id => "duplicate office id '" ++ id ++ "'"
  | .diagonalRoad r =>
    "road from (" ++ Decimal.intText r.start.x ++ ", " ++ Decimal.intText r.start.y ++ ") to (" ++
      Decimal.intText r.stop.x ++ ", " ++ Decimal.intText r.stop.y ++ ") is not axis-aligned"

/-- A map of the catalog. -/
structure Map where
  id : String
  name : String
  roads : List Road := []
  buildings : List Building := []
  offices : List Office := []
  lootKinds : List LootKind := []
  dogSpeed : Option Double := none
  bagCapacity : Option Nat := none
  deriving Repr

namespace Map

/-- Adds a road; a road that runs along neither axis is refused. -/
def addRoad (m : Map) (r : Road) : Except MapError Map :=
  if r.isAxisAligned then .ok { m with roads := m.roads ++ [r] } else .error (.diagonalRoad r)

/-- Adds an office; an id that the map already has is refused. -/
def addOffice (m : Map) (o : Office) : Except MapError Map :=
  if m.offices.any (·.id == o.id) then .error (.duplicateOffice o.id)
  else .ok { m with offices := m.offices ++ [o] }

/-- The value of a loot kind by index; zero for an unknown kind. -/
def lootValue (m : Map) (kind : Nat) : Nat :=
  match m.lootKinds[kind]? with
  | some k => k.value
  | none => 0

/-- Where dogs appear when spawning is not random: the start of the first road, or the origin. -/
def defaultSpawn (m : Map) : Vec2 :=
  match m.roads with
  | r :: _ => r.start.toVec
  | [] => Vec2.zero

/-- A random point on a random road: a road chosen uniformly, then a uniform fraction of the
way from its start to its end. None when the map has no roads (nothing is drawn then). -/
def randomRoadPoint (m : Map) (rng : Rng) : Option Vec2 × Rng :=
  let (i, rng) := rng.choose m.roads.length
  match i.bind (m.roads[·]?) with
  | none => (none, rng)
  | some r =>
    let (t, rng) := rng.nextUnit
    (some (r.start.toVec.lerp r.stop.toVec (Double.ofFloat t)), rng)

end Map

end RoadFetch
