/-!
# Faults

A fault stops the request that causes it: nothing it did is kept and no error is answered
in its place. Two limits cause faults. Counters, keys and scores are 64-bit words, and a sum
past the largest word is a fault rather than a wrap-around. A bag reserves storage for its
whole capacity up front, sixteen bytes an item, and a reservation past the largest signed
64-bit byte count is a fault.
-/

namespace RoadFetch

/-- Why a request stopped. -/
inductive Fault where
  | capacityOverflow
  | addOverflow
  deriving Repr, DecidableEq

def Fault.message : Fault → String
  | .capacityOverflow => "capacity overflow"
  | .addOverflow => "attempt to add with overflow"

namespace Checked

/-- The number of 64-bit words. -/
def wordLimit : Nat := Nat.pow 2 64

/-- The sum of two words; a fault past the largest word. -/
def add (a b : UInt64) : Except Fault UInt64 :=
  if a.toNat + b.toNat < wordLimit then .ok (a + b) else .error .addOverflow

/-- The word after a word; a fault after the largest word. -/
def succ (a : UInt64) : Except Fault UInt64 := add a 1

/-- The sum of words, added from the left. -/
def sum (ws : List UInt64) : Except Fault UInt64 := ws.foldlM add 0

/-- The most items whose storage, at sixteen bytes an item, stays within the largest signed
64-bit byte count less the alignment slack of eight bytes. -/
def maxReserve : Nat := (Nat.pow 2 63 - 8) / 16

/-- Checks that storage for `n` items can be reserved. -/
def reserve (n : Nat) : Except Fault Unit :=
  if n ≤ maxReserve then .ok () else .error .capacityOverflow

end Checked

end RoadFetch
