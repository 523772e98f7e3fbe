import RoadFetch.Catalog.Spec
import RoadFetch.Json.Reader

/-!
# Reading a catalog file

The catalog is a JSON record with the members `defaultDogSpeed` (a double, default 1),
`defaultBagCapacity` (a count, default 3), `dogRetirementTime` (seconds, default 60),
`lootGeneratorConfig` (optional: `period` and `probability`) and `maps`. A map has `id`,
`name`, optional `dogSpeed` and `bagCapacity`, `roads`, and optionally `buildings`,
`offices` and `lootTypes`. Coordinates are 32-bit integers, loot values 32-bit unsigned. A
loot type keeps every member other than `value` as free-form attributes, a later duplicate
name winning. Unknown members are skipped elsewhere. Records may also be written as arrays
of their fields in this order, except loot types.
-/

namespace RoadFetch

open Json

namespace CatalogReader

/-- Fields of a road read so far. -/
structure RoadAcc where
  x0 : Option Int := none
  y0 : Option Int := none
  x1 : Option (Option Int) := none
  y1 : Option (Option Int) := none

def road : Record RoadAcc RoadSpec where
  name := "struct RawRoad"
  fields := [
    .required "x0" (fun _ => Scan.int32) (·.x0) fun a v => { a with x0 := some v },
    .required "y0" (fun _ => Scan.int32) (·.y0) fun a v => { a with y0 := some v },
    .optional "x1" (fun _ => Scan.int32) (·.x1) fun a v => { a with x1 := some v },
    .optional "y1" (fun _ => Scan.int32) (·.y1) fun a v => { a with y1 := some v }]
  empty := {}
  finish a := ⟨a.x0.getD 0, a.y0.getD 0, a.x1.getD none, a.y1.getD none⟩
  other := none

/-- Fields of a building read so far. -/
structure BuildingAcc where
  x : Option Int := none
  y : Option Int := none
  w : Option Int := none
  h : Option Int := none

def building : Record BuildingAcc BuildingSpec where
  name := "struct RawBuilding"
  fields := [
    .required "x" (fun _ => Scan.int32) (·.x) fun a v => { a with x := some v },
    .required "y" (fun _ => Scan.int32) (·.y) fun a v => { a with y := some v },
    .required "w" (fun _ => Scan.int32) (·.w) fun a v => { a with w := some v },
    .required "h" (fun _ => Scan.int32) (·.h) fun a v => { a with h := some v }]
  empty := {}
  finish a := ⟨a.x.getD 0, a.y.getD 0, a.w.getD 0, a.h.getD 0⟩
  other := none

/-- Fields of an office read so far. -/
structure OfficeAcc where
  id : Option String := none
  x : Option Int := none
  y : Option Int := none
  offsetX : Option Int := none
  offsetY : Option Int := none

def office : Record OfficeAcc OfficeSpec where
  name := "struct RawOffice"
  fields := [
    .required "id" (fun _ => Scan.text) (·.id) fun a v => { a with id := some v },
    .required "x" (fun _ => Scan.int32) (·.x) fun a v => { a with x := some v },
    .required "y" (fun _ => Scan.int32) (·.y) fun a v => { a with y := some v },
    .withDefault "offsetX" (fun _ => Scan.int32) (·.offsetX) (fun a v => { a with offsetX := some v }) 0,
    .withDefault "offsetY" (fun _ => Scan.int32) (·.offsetY) (fun a v => { a with offsetY := some v }) 0]
  empty := {}
  finish a := ⟨a.id.getD "", a.x.getD 0, a.y.getD 0, a.offsetX.getD 0, a.offsetY.getD 0⟩
  other := none

/-- Fields of a loot type read so far; other members collect in `attributes`. -/
structure LootAcc where
  value : Option Nat := none
  attributes : List (String × Value) := []

/-- Loot types: objects only, other members kept. -/
def lootKind : Record LootAcc LootKindSpec where
  name := "struct RawLootType"
  fields := [.required "value" (fun _ => Scan.word32) (·.value) fun a v => { a with value := some v }]
  empty := {}
  finish a := ⟨a.value.getD 0, a.attributes⟩
  other := some fun k d a => do
    let v ← Scan.value d
    pure { a with attributes := Value.insertMember k v a.attributes }

/-- Fields of a map read so far. -/
structure MapAcc where
  id : Option String := none
  name : Option String := none
  dogSpeed : Option (Option Float) := none
  bagCapacity : Option (Option Nat) := none
  roads : Option (List RoadSpec) := none
  buildings : Option (List BuildingSpec) := none
  offices : Option (List OfficeSpec) := none
  lootKinds : Option (List LootKindSpec) := none

def map : Record MapAcc MapSpec where
  name := "struct RawMap"
  fields := [
    .required "id" (fun _ => Scan.text) (·.id) fun a v => { a with id := some v },
    .required "name" (fun _ => Scan.text) (·.name) fun a v => { a with name := some v },
    .optional "dogSpeed" (fun _ => Scan.float) (·.dogSpeed) fun a v => { a with dogSpeed := some v },
    .optional "bagCapacity" (fun _ => Scan.count) (·.bagCapacity) fun a v => { a with bagCapacity := some v },
    .required "roads" (fun d => Scan.array d road.read) (·.roads) fun a v => { a with roads := some v },
    .withDefault "buildings" (fun d => Scan.array d building.read) (·.buildings)
      (fun a v => { a with buildings := some v }) [],
    .withDefault "offices" (fun d => Scan.array d office.read) (·.offices)
      (fun a v => { a with offices := some v }) [],
    .withDefault "lootTypes" (fun d => Scan.array d lootKind.read) (·.lootKinds)
      (fun a v => { a with lootKinds := some v }) []]
  empty := {}
  finish a := ⟨a.id.getD "", a.name.getD "", a.dogSpeed.getD none, a.bagCapacity.getD none,
    a.roads.getD [], a.buildings.getD [], a.offices.getD [], a.lootKinds.getD []⟩
  other := none

/-- Fields of loot spawning read so far. -/
structure SpawnAcc where
  period : Option Float := none
  probability : Option Float := none

def spawn : Record SpawnAcc SpawnSpec where
  name := "struct RawLootGenerator"
  fields := [
    .required "period" (fun _ => Scan.float) (·.period) fun a v => { a with period := some v },
    .required "probability" (fun _ => Scan.float) (·.probability) fun a v => { a with probability := some v }]
  empty := {}
  finish a := ⟨a.period.getD 0.0, a.probability.getD 0.0⟩
  other := none

/-- Fields of a catalog read so far. -/
structure CatalogAcc where
  defaultDogSpeed : Option Float := none
  defaultBagCapacity : Option Nat := none
  dogRetirementTime : Option Float := none
  spawn : Option (Option SpawnSpec) := none
  maps : Option (List MapSpec) := none

def catalog : Record CatalogAcc CatalogSpec where
  name := "struct RawConfig"
  fields := [
    .withDefault "defaultDogSpeed" (fun _ => Scan.float) (·.defaultDogSpeed)
      (fun a v => { a with defaultDogSpeed := some v }) 1.0,
    .withDefault "defaultBagCapacity" (fun _ => Scan.count) (·.defaultBagCapacity)
      (fun a v => { a with defaultBagCapacity := some v }) 3,
    .withDefault "dogRetirementTime" (fun _ => Scan.float) (·.dogRetirementTime)
      (fun a v => { a with dogRetirementTime := some v }) 60.0,
    .withDefault "lootGeneratorConfig" (fun d => Scan.optional (spawn.read d)) (·.spawn)
      (fun a v => { a with spawn := some v }) none,
    .required "maps" (fun d => Scan.array d map.read) (·.maps) fun a v => { a with maps := some v }]
  empty := {}
  finish a := ⟨a.defaultDogSpeed.getD 1.0, a.defaultBagCapacity.getD 3, a.dogRetirementTime.getD 60.0,
    a.spawn.getD none, a.maps.getD []⟩
  other := none

end CatalogReader

/-- Reads a catalog text into its specification. -/
def CatalogSpec.parse (text : String) : Except ReadError CatalogSpec :=
  parseWith CatalogReader.catalog.read text

end RoadFetch
