import RoadFetch.Dog.Basic
import RoadFetch.Map.Basic
import RoadFetch.Loot.Spawner
import RoadFetch.Session.Tuning

/-!
# Sessions

A session is one running game on one map: its dogs in the order they joined, the loot lying on
the roads, the counters that number new dogs and new loot, its tuning, its random generator and
its loot spawner. This module builds sessions, fresh or from saved parts, and holds the moves
that happen between ticks: joining, steering and placing loot.
-/

namespace RoadFetch

/-- A piece of loot lying on the map: its id, its kind (an index into the map's kinds) and
where it lies. -/
structure LootItem where
  id : UInt64
  kind : UInt64
  position : Vec2
  deriving Repr

/-- The counters a session saves besides its dogs and loot. -/
structure Counters where
  nextDogId : UInt64
  nextLootId : UInt64
  rngState : UInt64 × UInt64
  deriving Repr, DecidableEq

structure Session where
  key : UInt64
  map : Map
  dogs : List Dog
  loot : List LootItem
  nextDogId : UInt64
  nextLootId : UInt64
  tuning : Tuning
  rng : Rng
  spawner : Spawner

namespace Session

/-! ### Building sessions -/

/-- An empty session with its generator seeded by `seed`. -/
def new (key : UInt64) (map : Map) (tuning : Tuning) (spawn : SpawnConfig) (seed : UInt64) :
    Session :=
  { key, map, dogs := [], loot := [], nextDogId := 0, nextLootId := 0, tuning,
    rng := Rng.ofSeed seed, spawner := Spawner.new spawn }

/-- The largest of `init` and the items of a list. -/
def maxOver (init : UInt64) (xs : List UInt64) : UInt64 := xs.foldl max init

/-- The ids after the given ones; an id that is the largest word is a fault. -/
def nextIds (ids : List UInt64) : Except Fault (List UInt64) := ids.mapM Checked.succ

/-- A session from saved parts. The counters are raised past every id in use, so that new
dogs and new loot never reuse an id of a saved dog, a saved piece of loot or an item in a
saved bag; an id in use that is the largest word is a fault. -/
def ofParts (key : UInt64) (map : Map) (tuning : Tuning) (spawn : SpawnConfig)
    (counters : Counters) (dogs : List Dog) (loot : List LootItem) : Except Fault Session := do
  let dogIds ← nextIds (dogs.map (·.id))
  let lootIds ← nextIds (loot.map (·.id) ++ dogs.flatMap fun d => d.bag.items.map (·.lootId))
  return { key, map, dogs, loot, tuning,
           nextDogId := maxOver counters.nextDogId dogIds,
           nextLootId := maxOver counters.nextLootId lootIds,
           rng := Rng.ofState counters.rngState.1 counters.rngState.2,
           spawner := Spawner.new spawn }

def counters (s : Session) : Counters := ⟨s.nextDogId, s.nextLootId, s.rng.state⟩

def dog? (s : Session) (key : UInt64) : Option Dog := s.dogs.find? (·.key == key)

/-! ### Between ticks -/

/-- Where a new dog appears: a random road point when spawning is random and the map has
roads, else the map's default spawn point. -/
def spawnPoint (s : Session) : Vec2 × Rng :=
  if s.tuning.randomizeSpawn then
    match s.map.randomRoadPoint s.rng with
    | (some p, rng) => (p, rng)
    | (none, rng) => (s.map.defaultSpawn, rng)
  else (s.map.defaultSpawn, s.rng)

/-- Adds a dog with the next dog id; returns the session and the new dog. -/
def join (s : Session) (key : UInt64) (name : String) : Except Fault (Session × Dog) := do
  let (position, rng) := s.spawnPoint
  let nextDogId ← Checked.succ s.nextDogId
  let dog ← Dog.new key s.nextDogId name position s.tuning.dogSpeed s.tuning.bagCapacity
  return ({ s with rng, nextDogId, dogs := s.dogs ++ [dog] }, dog)

/-- Applies `f` to the first item that satisfies `p`; tells whether there was one. -/
def updateFirst {α : Type} (p : α → Bool) (f : α → α) : List α → List α × Bool
  | [] => ([], false)
  | x :: xs =>
    if p x then (f x :: xs, true)
    else
      let (ys, found) := updateFirst p f xs
      (x :: ys, found)

/-- Gives the dog with a key a command; tells whether the session has that dog. -/
def moveDog (s : Session) (key : UInt64) (c : Command) : Session × Bool :=
  let (dogs, found) := updateFirst (·.key == key) (·.command c) s.dogs
  ({ s with dogs }, found)

/-- Puts a piece of loot on the map with the next loot id; returns the session and the id. -/
def placeLoot (s : Session) (kind : UInt64) (position : Vec2) : Except Fault (Session × UInt64) := do
  let id := s.nextLootId
  let nextLootId ← Checked.succ id
  return ({ s with nextLootId, loot := s.loot ++ [⟨id, kind, position⟩] }, id)

end Session

end RoadFetch
