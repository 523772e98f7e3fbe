import RoadFetch.Json.Value

/-!
# Catalog specifications

The catalog file as written, before it is checked: numbers as read, optional settings still
optional, roads with whichever ends the file gives. `Catalog.ofSpec` turns a specification into
a catalog or says what is wrong with it.
-/

namespace RoadFetch

/-- A road as written: its start and one or both of its end coordinates. -/
structure RoadSpec where
  x0 : Int
  y0 : Int
  x1 : Option Int
  y1 : Option Int
  deriving Repr

/-- A building as written. -/
structure BuildingSpec where
  x : Int
  y : Int
  w : Int
  h : Int
  deriving Repr

/-- An office as written. -/
structure OfficeSpec where
  id : String
  x : Int
  y : Int
  offsetX : Int
  offsetY : Int
  deriving Repr

/-- A loot kind as written: its value and its other members (sorted by name). -/
structure LootKindSpec where
  value : Nat
  attributes : List (String × Json.Value)
  deriving Repr

/-- A map as written. -/
structure MapSpec where
  id : String
  name : String
  dogSpeed : Option Float
  bagCapacity : Option Nat
  roads : List RoadSpec
  buildings : List BuildingSpec
  offices : List OfficeSpec
  lootKinds : List LootKindSpec
  deriving Repr

/-- Loot spawning as written: period in seconds and chance per period. -/
structure SpawnSpec where
  period : Float
  probability : Float
  deriving Repr

/-- A whole catalog as written. -/
structure CatalogSpec where
  defaultDogSpeed : Float
  defaultBagCapacity : Nat
  dogRetirementTime : Float
  spawn : Option SpawnSpec
  maps : List MapSpec
  deriving Repr

end RoadFetch
