import RoadFetch.Snapshot.Record
import RoadFetch.Wire.Encode
import RoadFetch.Wire.Decode

/-!
# The snapshot payload

The wire layout of a snapshot: every record is its fields in declaration order, keys and
counters as 64-bit words, positions as two doubles, a direction as a 32-bit index in the order
up, down, left, right, and lists behind their lengths. Reading a payload undoes writing it.
-/

namespace RoadFetch.Wire

/-! ### Writing -/

/-- A point: its two coordinates. -/
def vec (v : Vec2) : List UInt8 := f64 v.x ++ f64 v.y

/-- A bag item: loot id, then kind. -/
def bagItem (i : BagItem) : List UInt8 := u64 i.lootId ++ u64 i.kind

def dogRecord (r : DogRecord) : List UInt8 :=
  u64 r.key ++ u64 r.id ++ text r.name ++ vec r.position ++ u64 r.bagCapacity ++
    seq bagItem r.bag ++ vec r.velocity ++ f64 r.speed ++ u32 r.direction.index.toUInt32 ++
    u64 r.score ++ u64 r.idleMillis ++ u64 r.playMillis

/-- A piece of loot: id, kind, position. -/
def lootItem (l : LootItem) : List UInt8 := u64 l.id ++ u64 l.kind ++ vec l.position

def tuning (t : Tuning) : List UInt8 :=
  f64 t.dogSpeed ++ u64 t.bagCapacity ++ duration t.retirementAfter ++ bool t.randomizeSpawn

def sessionMeta (m : SessionMeta) : List UInt8 :=
  u64 m.key ++ text m.mapId ++ u64 m.nextDogId ++ u64 m.nextLootId ++ u64 m.rngState.1 ++
    u64 m.rngState.2 ++ tuning m.tuning

/-- A session record: dogs, loot, metadata. -/
def sessionRecord (r : SessionRecord) : List UInt8 :=
  seq dogRecord r.dogs ++ seq lootItem r.loot ++ sessionMeta r.header

/-- A binding: token, dog, session. -/
def binding (b : Binding) : List UInt8 := text b.token.text ++ u64 b.dog ++ u64 b.session

def snapshot (w : WorldSnapshot) : List UInt8 :=
  seq sessionRecord w.sessions ++ seq binding w.bindings ++ u64 w.nextKey

/-! ### Reading -/

namespace Reader

def vec : Reader Vec2 := do return ⟨← f64, ← f64⟩

def bagItem : Reader BagItem := do return ⟨← u64, ← u64⟩

def direction : Reader Direction := do
  return ((Direction.ofIndex? (← variant 4)).getD .up)

def dogRecord : Reader DogRecord := do
  return { key := ← u64, id := ← u64, name := ← text, position := ← vec,
           bagCapacity := ← u64, bag := ← seq bagItem, velocity := ← vec,
           speed := ← f64, direction := ← direction, score := ← u64,
           idleMillis := ← u64, playMillis := ← u64 }

def lootItem : Reader LootItem := do return ⟨← u64, ← u64, ← vec⟩

def tuning : Reader Tuning := do return ⟨← f64, ← u64, ← duration, ← bool⟩

def sessionMeta : Reader SessionMeta := do
  return ⟨← u64, ← text, ← u64, ← u64, (← u64, ← u64), ← tuning⟩

def sessionRecord : Reader SessionRecord := do
  return ⟨← seq dogRecord, ← seq lootItem, ← sessionMeta⟩

def binding : Reader Binding := do return ⟨⟨← text⟩, ← u64, ← u64⟩

def snapshot : Reader WorldSnapshot := do
  return ⟨← seq sessionRecord, ← seq binding, ← u64⟩

end Reader

end RoadFetch.Wire
