import RoadFetch.Session.Basic
import RoadFetch.Session.Event
import RoadFetch.Road.Grid
import RoadFetch.Road.Pickup

/-!
# Ticks

A tick advances a session by some elapsed time in four phases, always in this order:

1. loot appears on random road points, as many pieces as the spawner grants;
2. every dog runs along its velocity, clipped to the roads, and a dog that hits the road edge
   stops;
3. the sweeps of the dogs are matched against offices and loot in time order: at an office a
   dog hands in its bag for points, a piece of loot goes to the first dog that reaches it and
   has room;
4. dogs that stood still for the whole tick add it to their idle time, and those idle for
   the session's retirement time leave.

Every phase reports its events, and the tick reports them in phase order. A loot id or a
score past the largest word is a fault that stops the tick.
-/

namespace RoadFetch

namespace Session

def dogRadius : Double := 0.3

def officeRadius : Double := 0.25

/-- The radius of a piece of loot. -/
def lootRadius : Double := 0.05

/-! ### Phase one: loot appears -/

/-- Places up to `n` pieces of loot of random kinds on random road points; stops early when the
map has no roads. Events are added to `acc`. -/
def spawnLoop : Nat → Session → List Event → Except Fault (Session × List Event)
  | 0, s, acc => pure (s, acc)
  | n + 1, s, acc =>
    match s.map.randomRoadPoint s.rng with
    | (none, rng) => pure ({ s with rng }, acc)
    | (some position, rng) => do
      let (kind, rng) := rng.nextIndex s.map.lootKinds.length
      let (s, id) ← { s with rng }.placeLoot kind.toUInt64 position
      spawnLoop n s (acc ++ [.lootSpawned id kind.toUInt64 position])

/-- Advances the spawner and places the loot it grants; a map without loot kinds gets none. -/
def spawnPhase (s : Session) (elapsed : Duration) : Except Fault (Session × List Event) :=
  let (count, spawner) := s.spawner.generate elapsed s.loot.length s.dogs.length
  let s := { s with spawner }
  if s.map.lootKinds.isEmpty then pure (s, []) else spawnLoop count s []

/-! ### Phase two: dogs run -/

/-- One dog's run over `seconds` on `grid`: the dog after it, the event of being stopped by the
road edge, and whether that happened. A standing dog stays where it is. -/
def runDog (grid : RoadGrid) (seconds : Double) (elapsed : Duration) (d : Dog) :
    Dog × Option Event × Bool :=
  let src := d.position
  let (d, stop, clipped) :=
    if d.isStopped then (d.finishMove src false, none, false)
    else
      let target := src.add (d.velocity.scale seconds)
      let reached := grid.clip src target
      let clipped := !reached.beq target
      (d.finishMove reached clipped, if clipped then some (Event.dogStopped d.key reached) else none,
        clipped)
  ({ d with playTime := d.playTime + elapsed }, stop, clipped)

/-- Runs every dog; also returns, dog by dog, whether it was stopped in this tick. -/
def movePhase (s : Session) (elapsed : Duration) : Session × List Event × List Bool :=
  let runs := s.dogs.map (runDog s.map.grid (Double.ofFloat elapsed.toSecsFloat) elapsed)
  ({ s with dogs := runs.map (·.1) }, runs.filterMap (·.2.1), runs.map (·.2.2))

/-! ### Phase three: gathering -/

/-- The dogs, which pieces of loot are gone, and the events so far, while contacts are
resolved. -/
structure Gathering where
  dogs : List Dog
  taken : List Bool
  events : List Event

/-- The points a bag's items are worth on a map; a total past the largest word is a fault. -/
def bagPoints (m : Map) (items : List BagItem) : Except Fault UInt64 :=
  Checked.sum (items.map fun i => (m.lootValue i.kind.toNat).toUInt64)

/-- Resolves one contact. The first items are the offices: there a dog with a nonempty bag
hands it in, and a score past the largest word is a fault. The rest are the pieces of loot:
one not yet taken goes into the dog's bag if it has room, and is refused otherwise. -/
def resolve (m : Map) (loot : List LootItem) (g : Gathering) (e : GatherEvent) :
    Except Fault Gathering :=
  match g.dogs[e.gatherer]? with
  | none => pure g
  | some dog =>
    match m.offices[e.item]? with
    | some office => do
      let (delivered, bag) := dog.bag.take
      if delivered.isEmpty then return g
      let points ← bagPoints m delivered
      let score ← Checked.add dog.score points
      let dog := { dog with bag, score }
      return { g with
        dogs := g.dogs.set e.gatherer dog
        events := g.events ++ [.bagDeposited dog.key office.id delivered.length points score] }
    | none =>
      let i := e.item - m.offices.length
      match loot[i]? with
      | none => pure g
      | some l =>
        if g.taken.getD i true then pure g
        else
          match dog.bag.push ⟨l.id, l.kind⟩ with
          | (bag, true) =>
            pure { dogs := g.dogs.set e.gatherer { dog with bag }
                   taken := g.taken.set i true
                   events := g.events ++ [.lootPickedUp dog.key l.id l.kind] }
          | (_, false) => pure { g with events := g.events ++ [.pickupRefused dog.key l.id] }

/-- The sweep of a dog in this tick. -/
def gatherer (d : Dog) : Gatherer := ⟨d.prev, d.position, dogRadius⟩

/-- The offices, then the pieces of loot, as items to gather. -/
def items (s : Session) : List Item :=
  s.map.offices.map (fun o => ⟨o.position.toVec, officeRadius⟩) ++
    s.loot.map fun l => ⟨l.position, lootRadius⟩

/-- Resolves all contacts of the tick in time order and removes the loot that was taken. -/
def gatherPhase (s : Session) : Except Fault (Session × List Event) := do
  let contacts := gatherEvents (s.dogs.map gatherer) s.items
  let g ← contacts.foldlM (resolve s.map s.loot) ⟨s.dogs, s.loot.map fun _ => false, []⟩
  let loot := ((s.loot.zip g.taken).filter fun p => !p.2).map (·.1)
  return ({ s with dogs := g.dogs, loot }, g.events)

/-! ### Phase four: idle dogs retire -/

/-- One dog at the end of the tick: a dog that stood still the whole tick adds it to its idle
time, and retires once that reaches `after`. -/
def idleDog (after elapsed : Duration) (d : Dog) (stoppedNow : Bool) : Option Dog × Option Event :=
  if !d.isStopped || stoppedNow then (some d, none)
  else
    let d := { d with idle := d.idle + elapsed }
    if after.le d.idle then (none, some (.dogRetired ⟨d.key, d.name, d.score, d.playTime⟩))
    else (some d, none)

/-- Adds idle time and removes the retired dogs, keeping the order of the others. -/
def retirePhase (s : Session) (elapsed : Duration) (stoppedNow : List Bool) :
    Session × List Event :=
  let outcomes := (s.dogs.zip stoppedNow).map fun (d, now) => idleDog s.tuning.retirementAfter elapsed d now
  ({ s with dogs := outcomes.filterMap (·.1) }, outcomes.filterMap (·.2))

/-! ### The tick -/

/-- Advances the session by `elapsed`; returns it with the events of the tick. -/
def tick (s : Session) (elapsed : Duration) : Except Fault (Session × List Event) := do
  let (s, spawned) ← s.spawnPhase elapsed
  let (s, stopped, stoppedNow) := s.movePhase elapsed
  let (s, gathered) ← s.gatherPhase
  let (s, retired) := s.retirePhase elapsed stoppedNow
  return (s, spawned ++ stopped ++ gathered ++ retired)

end Session

end RoadFetch
