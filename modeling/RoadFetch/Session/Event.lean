import RoadFetch.Geometry.Vec
import RoadFetch.Time.Duration

/-!
# Session events

What a tick of a session reports, in the order it happened: loot appearing, dogs picking loot
up or finding their bag full, bags handed in at offices, dogs stopped by the road edge, and
dogs retired for standing idle too long.
-/

namespace RoadFetch

/-- A dog that left its session for idleness: its key, name, score and time played. -/
structure Retirement where
  dog : UInt64
  name : String
  score : UInt64
  playTime : Duration
  deriving Repr

/-- The time played in whole milliseconds, saturated to a word. -/
def Retirement.playMillis (r : Retirement) : UInt64 := r.playTime.toMillisWord

/-- One thing that happened during a tick. -/
inductive Event where
  | lootSpawned (lootId kind : UInt64) (position : Vec2)
  | lootPickedUp (dog lootId kind : UInt64)
  | pickupRefused (dog lootId : UInt64)
  | bagDeposited (dog : UInt64) (office : String) (items : Nat) (points newScore : UInt64)
  | dogStopped (dog : UInt64) (position : Vec2)
  | dogRetired (r : Retirement)
  deriving Repr

namespace Event

/-- The dog an event is about; loot appearing is about no dog. -/
def dog? : Event → Option UInt64
  | .lootSpawned .. => none
  | .lootPickedUp dog .. => some dog
  | .pickupRefused dog _ => some dog
  | .bagDeposited dog .. => some dog
  | .dogStopped dog _ => some dog
  | .dogRetired r => some r.dog

/-- The retirement an event reports, if it is one. -/
def retirement? : Event → Option Retirement
  | .dogRetired r => some r
  | _ => none

end Event

/-- The retirements among a list of events, in order. -/
def retirements (es : List Event) : List Retirement := es.filterMap Event.retirement?

end RoadFetch
