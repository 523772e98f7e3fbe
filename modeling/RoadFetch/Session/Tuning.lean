import RoadFetch.Time.Duration
import RoadFetch.Double

/-!
# Session tuning

The settings a session plays by: the speed of its dogs, the capacity of their bags, how long
a dog may stand idle before it retires, and whether dogs join at random road points.
-/

namespace RoadFetch

structure Tuning where
  dogSpeed : Double
  bagCapacity : UInt64
  retirementAfter : Duration
  randomizeSpawn : Bool
  deriving Repr, Inhabited

/-- Speed one, three items per bag, retirement after a minute, fixed spawn point. -/
def Tuning.default : Tuning := ⟨1.0, 3, Duration.ofSecs 60, false⟩

end RoadFetch
