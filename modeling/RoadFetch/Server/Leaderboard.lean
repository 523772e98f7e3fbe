import RoadFetch.Session.Event

/-!
# The leaderboard

Retired players are kept best first: a higher score ranks first, then a shorter play time,
then the name in byte order. A new record goes after every record that ranks equal to it, so
equal records keep their arrival order. Pages are at most a hundred records long.
-/

namespace RoadFetch

/-- The final record of a retired player. -/
structure Standing where
  name : String
  score : UInt64
  playMillis : UInt64
  deriving Repr, DecidableEq

namespace Standing

/-- The record of a retirement. -/
def ofRetirement (r : Retirement) : Standing := ⟨r.name, r.score, r.playMillis⟩

/-- How `a` ranks against `b`: less means better. -/
def rank (a b : Standing) : Ordering :=
  (compare b.score a.score).then ((compare a.playMillis b.playMillis).then (compare a.name b.name))

end Standing

/-- The records of retired players, best first. -/
structure Leaderboard where
  records : List Standing := []
  deriving Repr

namespace Leaderboard

/-- The longest page. -/
def maxPage : Nat := 100

/-- Inserts a record before the first record that ranks after it. -/
def insertRanked (s : Standing) : List Standing → List Standing
  | [] => [s]
  | r :: rs => if r.rank s == .gt then s :: r :: rs else r :: insertRanked s rs

def append (b : Leaderboard) (s : Standing) : Leaderboard := ⟨insertRanked s b.records⟩

def size (b : Leaderboard) : Nat := b.records.length

/-- Up to `limit` records (at most a page) from position `offset`. -/
def list (b : Leaderboard) (offset limit : Nat) : List Standing :=
  (b.records.drop offset).take (min limit maxPage)

end Leaderboard

end RoadFetch
