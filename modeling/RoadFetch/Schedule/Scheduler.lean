/-!
# The tick scheduler

Subscribers are visited on every tick in order of priority (higher first) and, among equal
priorities, in order of subscription. A tick visits exactly the subscribers present when it
starts; subscriptions made during the tick wait until the next one, and subscribers that
report themselves gone during the tick are dropped after it. Unsubscribing removes a key
from both the active and the waiting subscriptions.
-/

namespace RoadFetch

/-- A subscription: its key, its priority, and its place in subscription order. -/
structure Subscription (κ : Type) where
  key : κ
  priority : Int
  seq : Nat
  deriving Repr

/-- What a visited subscriber reports. -/
inductive Liveness where
  | alive
  | gone
  deriving Repr, DecidableEq

/-- The scheduler: active subscriptions in visiting order, subscriptions made during a tick,
and the next sequence number. -/
structure Scheduler (κ : Type) where
  active : List (Subscription κ) := []
  waiting : List (Subscription κ) := []
  nextSeq : Nat := 0
  deriving Repr

namespace Scheduler

variable {κ σ : Type}

/-- Visiting order: higher priority first, then earlier subscription. -/
def before (a b : Subscription κ) : Bool :=
  a.priority > b.priority || (a.priority == b.priority && a.seq ≤ b.seq)

/-- Sorts subscriptions into visiting order. -/
def sort (l : List (Subscription κ)) : List (Subscription κ) := l.mergeSort before

def subscribe (s : Scheduler κ) (key : κ) (priority : Int) : Scheduler κ :=
  { s with active := sort (s.active ++ [⟨key, priority, s.nextSeq⟩]), nextSeq := s.nextSeq + 1 }

/-- Number of subscriptions, waiting ones included. -/
def size (s : Scheduler κ) : Nat := s.active.length + s.waiting.length

variable [BEq κ]

/-- Removes every subscription of a key; tells whether there was one. -/
def unsubscribe (s : Scheduler κ) (key : κ) : Scheduler κ × Bool :=
  let s' := { s with active := s.active.filter (!·.key == key),
                     waiting := s.waiting.filter (!·.key == key) }
  (s', s'.size != s.size)

/-- Whether a key has a subscription, waiting ones included. -/
def contains (s : Scheduler κ) (key : κ) : Bool :=
  s.active.any (·.key == key) || s.waiting.any (·.key == key)

/-- What a pass has gathered so far: the visitors' state, the subscriptions made during it, the
next sequence number, and the sequence numbers of the subscribers found gone. -/
structure Pass (κ σ : Type) where
  state : σ
  made : List (Subscription κ)
  nextSeq : Nat
  gone : List Nat

/-- The subscriptions a tick visits, in visiting order: the waiting ones join first. -/
def admitted (s : Scheduler κ) : List (Subscription κ) :=
  if s.waiting.isEmpty then s.active else sort (s.active ++ s.waiting)

/-- Visits one subscriber: the visit returns the new state, the subscriptions to make (key and
priority, in order) and whether the subscriber is gone. -/
def visitOne (visit : σ → κ → σ × List (κ × Int) × Liveness) (p : Pass κ σ)
    (sub : Subscription κ) : Pass κ σ :=
  let (st, adds, live) := visit p.state sub.key
  { state := st
    made := p.made ++ adds.zipIdx.map fun ((k, pr), i) => ⟨k, pr, p.nextSeq + i⟩
    nextSeq := p.nextSeq + adds.length
    gone := if live = .gone then p.gone ++ [sub.seq] else p.gone }

/-- One tick. The waiting subscriptions join first; then each subscriber present is visited
with the state `σ`; the subscriptions made wait for the next tick, and the subscribers found
gone are dropped. -/
def tick (s : Scheduler κ) (visit : σ → κ → σ × List (κ × Int) × Liveness) (init : σ) :
    Scheduler κ × σ :=
  let active := s.admitted
  let p := active.foldl (visitOne visit) ⟨init, [], s.nextSeq, []⟩
  ({ active := active.filter (fun sub => !p.gone.contains sub.seq), waiting := p.made,
     nextSeq := p.nextSeq }, p.state)

end Scheduler

end RoadFetch
