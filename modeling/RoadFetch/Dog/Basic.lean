import RoadFetch.Geometry.Vec
import RoadFetch.Time.Duration
import RoadFetch.Fault

/-!
# Dogs, their commands and their bags

A dog runs along the roads in one of four directions at its speed, or stands still. Players
steer with one-letter commands (`U`, `D`, `L`, `R`, and the empty command to stop). A dog
carries loot in a bag of fixed capacity, collects points when it empties the bag at an
office, and keeps count of the time it has played and the time it has stood idle.
-/

namespace RoadFetch

/-- The four directions; screen coordinates, so up is toward negative `y`. -/
inductive Direction where
  | up
  | down
  | left
  | right
  deriving Repr, DecidableEq, Inhabited

namespace Direction

/-- The velocity of a run in this direction at `speed`. -/
def velocity (d : Direction) (speed : Double) : Vec2 :=
  match d with
  | .up => ⟨0.0, -speed⟩
  | .down => ⟨0.0, speed⟩
  | .left => ⟨-speed, 0.0⟩
  | .right => ⟨speed, 0.0⟩

def name : Direction → String
  | .up => "Up"
  | .down => "Down"
  | .left => "Left"
  | .right => "Right"

def ofName? : String → Option Direction
  | "Up" => some .up
  | "Down" => some .down
  | "Left" => some .left
  | "Right" => some .right
  | _ => none

/-- The index of a direction in the order up, down, left, right. -/
def index : Direction → Nat
  | .up => 0
  | .down => 1
  | .left => 2
  | .right => 3

/-- The direction of an index. -/
def ofIndex? : Nat → Option Direction
  | 0 => some .up
  | 1 => some .down
  | 2 => some .left
  | 3 => some .right
  | _ => none

end Direction

/-- A player's steering command. -/
inductive Command where
  | go (d : Direction)
  | stop
  deriving Repr, DecidableEq

/-- A command text that is none of the five commands. -/
structure InvalidDirection where
  text : String
  deriving Repr

def InvalidDirection.message (e : InvalidDirection) : String := "invalid direction '" ++ e.text ++ "'"

/-- Reads a command: `U`, `D`, `L`, `R`, or the empty text for stop. -/
def Command.parse (s : String) : Except InvalidDirection Command :=
  match s with
  | "U" => .ok (.go .up)
  | "D" => .ok (.go .down)
  | "L" => .ok (.go .left)
  | "R" => .ok (.go .right)
  | "" => .ok .stop
  | other => .error ⟨other⟩

/-- A piece of loot in a bag: its id and its kind. -/
structure BagItem where
  lootId : UInt64
  kind : UInt64
  deriving Repr, DecidableEq

/-- A bag: its capacity and the items in the order they were picked up. -/
structure Bag where
  capacity : UInt64
  items : List BagItem := []
  deriving Repr, DecidableEq

namespace Bag

def empty (capacity : UInt64) : Bag := ⟨capacity, []⟩

/-- A new empty bag with storage reserved for its whole capacity; a capacity too large to
reserve is a fault. -/
def reserve (capacity : UInt64) : Except Fault Bag := do
  Checked.reserve capacity.toNat
  return empty capacity

/-- A bag of given items, cut to its capacity. -/
def ofItems (capacity : UInt64) (items : List BagItem) : Bag := ⟨capacity, items.take capacity.toNat⟩

/-- Whether the bag holds as many items as it can. -/
def isFull (b : Bag) : Bool := b.items.length ≥ b.capacity.toNat

/-- Adds an item unless the bag is full; tells whether it was added. -/
def push (b : Bag) (item : BagItem) : Bag × Bool :=
  if b.isFull then (b, false) else ({ b with items := b.items ++ [item] }, true)

/-- Empties the bag, returning its items. -/
def take (b : Bag) : List BagItem × Bag := (b.items, { b with items := [] })

end Bag

structure Dog where
  key : UInt64
  id : UInt64
  name : String
  position : Vec2
  prev : Vec2
  velocity : Vec2 := Vec2.zero
  speed : Double
  direction : Direction := .up
  bag : Bag
  score : UInt64 := 0
  idle : Duration := Duration.zero
  playTime : Duration := Duration.zero
  deriving Repr

namespace Dog

/-- A new dog standing at `position`, facing up, with a new empty bag. -/
def new (key id : UInt64) (name : String) (position : Vec2) (speed : Double) (capacity : UInt64) :
    Except Fault Dog := do
  let bag ← Bag.reserve capacity
  return { key, id, name, position, prev := position, speed, bag }

def isStopped (d : Dog) : Bool := d.velocity.isZero

/-- Obeys a command: a run sets direction and velocity, a stop keeps the direction; both
reset the idle time. -/
def command (d : Dog) (c : Command) : Dog :=
  match c with
  | .go dir => { d with direction := dir, velocity := dir.velocity d.speed, idle := Duration.zero }
  | .stop => { d with velocity := Vec2.zero, idle := Duration.zero }

/-- Ends a move at `position`; a move cut short by the road edge stops the dog and resets
its idle time. -/
def finishMove (d : Dog) (position : Vec2) (clipped : Bool) : Dog :=
  let d := { d with prev := d.position, position }
  if clipped then { d with velocity := Vec2.zero, idle := Duration.zero } else d

end Dog

end RoadFetch
