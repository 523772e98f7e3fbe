import RoadFetch.Catalog.Reader
import RoadFetch.Map.Basic
import RoadFetch.Session.Tuning
import RoadFetch.Loot.Spawner

/-!
# The map catalog

A checked catalog: its maps in file order, the default session tuning and the loot spawning.
A specification becomes a catalog when, checked in this order, the default dog speed is
finite and nonnegative, the retirement time and the spawn period are valid spans of seconds,
the spawn chance lies in `[0, 1]`, and then map by map: its id is new, its dog speed (if
given) is finite and nonnegative, every road has an end, and its office ids are distinct.
The first failed check is the error.
-/

namespace RoadFetch

/-- What is wrong with a catalog. -/
inductive ConfigError where
  | json (text : ByteArray) (e : Json.ReadError)
  | map (id : String) (e : MapError)
  | roadEnd (id : String)
  | duplicateMap (id : String)
  | outOfRange (name : String) (value : Float)
  | invalidEnv (name : String) (value : String)

namespace ConfigError

/-- The kind of a configuration error, by name. -/
def kind : ConfigError → String
  | .json .. => "Json"
  | .map .. => "Map"
  | .roadEnd _ => "RoadEnd"
  | .duplicateMap _ => "DuplicateMap"
  | .outOfRange .. => "OutOfRange"
  | .invalidEnv .. => "InvalidEnv"

def message : ConfigError → String
  | .json text e => "invalid config JSON: " ++ e.message text
  | .map id e => "map '" ++ id ++ "': " ++ e.message
  | .roadEnd id => "map '" ++ id ++ "': road needs x1 or y1"
  | .duplicateMap id => "duplicate map id '" ++ id ++ "'"
  | .outOfRange name value => name ++ " out of range: " ++ Decimal.Layout.plain.format value
  | .invalidEnv name value => "invalid value for " ++ name ++ ": '" ++ value ++ "'"

end ConfigError

/-- A checked catalog. -/
structure Catalog where
  maps : List Map
  defaults : Tuning
  spawn : SpawnConfig
  deriving Repr

namespace Catalog

/-- A finite, nonnegative double. -/
def nonNegative (name : String) (x : Float) : Except ConfigError Float :=
  if (Decimal.Binary64.ofFloat x).isFinite && x >= 0.0 then .ok x else .error (.outOfRange name x)

/-- A span of seconds. -/
def seconds (name : String) (x : Float) : Except ConfigError Duration :=
  match Duration.ofSecsFloat? x with
  | some d => .ok d
  | none => .error (.outOfRange name x)

/-- The road of a specification: `x1` makes it horizontal, otherwise `y1` vertical. -/
def roadOf (id : String) (r : RoadSpec) : Except ConfigError Road :=
  let start : GridPoint := ⟨r.x0, r.y0⟩
  match r.x1, r.y1 with
  | some x1, _ => .ok (Road.horizontal start x1)
  | none, some y1 => .ok (Road.vertical start y1)
  | none, none => .error (.roadEnd id)

def inMap {α : Type} (id : String) : Except MapError α → Except ConfigError α
  | .ok a => .ok a
  | .error e => .error (.map id e)

/-- Adds the road of a specification to the map of the given id. -/
def addRoadSpec (id : String) (m : Map) (r : RoadSpec) : Except ConfigError Map := do
  inMap id (m.addRoad (← roadOf id r))

/-- Adds the office of a specification to the map of the given id. -/
def addOfficeSpec (id : String) (m : Map) (o : OfficeSpec) : Except ConfigError Map :=
  inMap id (m.addOffice ⟨o.id, ⟨o.x, o.y⟩, (o.offsetX, o.offsetY)⟩)

/-- The dog speed a map sets, if it sets one. -/
def dogSpeedOf : Option Float → Except ConfigError (Option Double)
  | some v => (some ∘ Double.ofFloat) <$> nonNegative "dogSpeed" v
  | none => pure none

def mapOf (s : MapSpec) : Except ConfigError Map := do
  let dogSpeed ← dogSpeedOf s.dogSpeed
  let m : Map := { id := s.id, name := s.name, dogSpeed, bagCapacity := s.bagCapacity }
  let m ← s.roads.foldlM (addRoadSpec s.id) m
  let m := { m with buildings := s.buildings.map fun (b : BuildingSpec) => ⟨⟨b.x, b.y⟩, b.w, b.h⟩ }
  let m ← s.offices.foldlM (addOfficeSpec s.id) m
  pure { m with lootKinds := s.lootKinds.map fun (k : LootKindSpec) => ⟨k.value, .obj k.attributes⟩ }

/-- Loot spawning of a specification: the period a span of seconds, the chance in `[0, 1]`. -/
def spawnOf (g : SpawnSpec) : Except ConfigError SpawnConfig := do
  let period ← seconds "lootGeneratorConfig.period" g.period
  if 0.0 <= g.probability && g.probability <= 1.0 then pure ⟨period, g.probability⟩
  else throw (.outOfRange "lootGeneratorConfig.probability" g.probability)

/-- Appends the map of a specification to the maps so far; a second map of one id is refused. -/
def addMapSpec (acc : List Map) (ms : MapSpec) : Except ConfigError (List Map) := do
  if acc.any (·.id == ms.id) then throw (.duplicateMap ms.id)
  pure (acc ++ [← mapOf ms])

/-- The catalog of a specification, or the first thing wrong with it. -/
def ofSpec (s : CatalogSpec) : Except ConfigError Catalog := do
  let dogSpeed ← nonNegative "defaultDogSpeed" s.defaultDogSpeed
  let retirement ← seconds "dogRetirementTime" s.dogRetirementTime
  let spawn ← match s.spawn with
    | some g => spawnOf g
    | none => pure SpawnConfig.default
  let maps ← s.maps.foldlM addMapSpec []
  pure ⟨maps, ⟨Double.ofFloat dogSpeed, s.defaultBagCapacity.toUInt64, retirement, false⟩, spawn⟩

/-- Reads and checks a catalog text. -/
def parse (text : String) : Except ConfigError Catalog :=
  match CatalogSpec.parse text with
  | .ok s => ofSpec s
  | .error e => .error (.json text.toUTF8 e)

def find? (c : Catalog) (id : String) : Option Map := c.maps.find? (·.id == id)

end Catalog

end RoadFetch
