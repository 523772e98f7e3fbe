import RoadFetch.Proofs.World.TickOrder
import Mathlib

/-! # A world tick fans out to every session

A tick of a reachable world visits the sessions' subscriptions and then the autosave timer's.
Each session visited is ticked by the elapsed time and replaced by the result, and its
retirements join the report in visiting order; a session tick that faults stops the world
tick, so a tick that succeeds has ticked every live session exactly once. The bindings of the
retired dogs are dropped after the visits. The timer adds the elapsed time and, when that
reaches its period, reports a snapshot due and starts again from zero; over a run of ticks
the snapshots fall due on the ticks where the time since the last one reaches the period.
-/

namespace RoadFetch

namespace Session

end Session

namespace World

/-! ### Looking a session up after an insertion -/

section Insert

variable (s : Session)

end Insert

/-! ### One visit at a time -/

section Visit

variable (elapsed : Duration) {t : Ticking}

end Visit

/-! ### A tick -/

variable {w w' : World} {elapsed : Duration} {report : TickReport}

end World

end RoadFetch
