import RoadFetch.Server.Settings
import RoadFetch.World.Basic

/-!
# Setting up the world

The world is built from the catalog and the process settings: the catalog gives the maps,
the session tuning and the loot spawning, the process settings decide whether dogs join at
random road points and give the world seed.
-/

namespace RoadFetch

/-- The world settings of a catalog under process settings; the seed is zero when unset. -/
def GameSettings.of (c : Catalog) (s : ServerSettings) : GameSettings :=
  { defaults := { c.defaults with randomizeSpawn := s.randomizeSpawn },
    loot := c.spawn, seed := s.seed.getD 0 }

/-- The world over the maps of a catalog. -/
def World.ofCatalog (c : Catalog) (s : ServerSettings) : Except GameError World :=
  World.new c.maps (GameSettings.of c s)

end RoadFetch
