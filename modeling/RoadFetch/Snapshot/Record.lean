import RoadFetch.Session.Basic
import RoadFetch.World.Players

/-!
# Snapshot records

A snapshot is the world as flat records: per session its dogs, its loot and one record of
metadata (key, map, counters, tuning), then the token bindings and the next free key. Records
refer to each other only by keys. A dog keeps its times in whole milliseconds, so capturing a
dog and rebuilding it rounds its idle and play times down to the millisecond.
-/

namespace RoadFetch

/-- The saved state of a dog. -/
structure DogRecord where
  key : UInt64
  id : UInt64
  name : String
  position : Vec2
  bagCapacity : UInt64
  bag : List BagItem
  velocity : Vec2
  speed : Double
  direction : Direction
  score : UInt64
  idleMillis : UInt64
  playMillis : UInt64
  deriving Repr

namespace DogRecord

def capture (d : Dog) : DogRecord :=
  { key := d.key, id := d.id, name := d.name, position := d.position,
    bagCapacity := d.bag.capacity, bag := d.bag.items, velocity := d.velocity, speed := d.speed,
    direction := d.direction, score := d.score, idleMillis := d.idle.toMillisWord,
    playMillis := d.playTime.toMillisWord }

/-- The dog of a record: it stands where it was saved, and items past the bag's capacity are
dropped. The dog is built new first, so a capacity too large to reserve is a fault. -/
def toDog (r : DogRecord) : Except Fault Dog := do
  let d ← Dog.new r.key r.id r.name r.position r.speed r.bagCapacity
  return { d with
    velocity := r.velocity, direction := r.direction, bag := Bag.ofItems r.bagCapacity r.bag,
    score := r.score, idle := Duration.ofMillis r.idleMillis.toNat,
    playTime := Duration.ofMillis r.playMillis.toNat }

end DogRecord

/-- The saved metadata of a session. -/
structure SessionMeta where
  key : UInt64
  mapId : String
  nextDogId : UInt64
  nextLootId : UInt64
  rngState : UInt64 × UInt64
  tuning : Tuning
  deriving Repr

def SessionMeta.counters (m : SessionMeta) : Counters := ⟨m.nextDogId, m.nextLootId, m.rngState⟩

/-- The saved state of a session. -/
structure SessionRecord where
  dogs : List DogRecord
  loot : List LootItem
  header : SessionMeta
  deriving Repr

def SessionRecord.capture (s : Session) : SessionRecord :=
  { dogs := s.dogs.map DogRecord.capture, loot := s.loot,
    header := ⟨s.key, s.map.id, s.nextDogId, s.nextLootId, s.rng.state, s.tuning⟩ }

structure WorldSnapshot where
  sessions : List SessionRecord
  bindings : List Binding
  nextKey : UInt64
  deriving Repr

/-- The number of dogs over all sessions. -/
def WorldSnapshot.dogCount (w : WorldSnapshot) : Nat := w.sessions.foldl (fun n s => n + s.dogs.length) 0

end RoadFetch
