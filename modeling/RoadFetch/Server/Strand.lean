import RoadFetch.World.Tick
import RoadFetch.World.Restore
import RoadFetch.Server.Leaderboard

/-!
# The game strand

The strand owns the world and applies requests one at a time, in arrival order. It keeps the
leaderboard, which every retirement reaches, and tells its caller when the world should be
written to the snapshot store: after a tick that made a snapshot due, on request, and when it
shuts down. While a periodic ticker drives the world, ticks cannot be requested. After a
shutdown every request is refused, and so it is after a fault, which stops the strand at once
without a final snapshot. A ticker of period zero cannot be made, so a strand given one is
gone from the start.
-/

namespace RoadFetch

/-- Why the strand refused a request. -/
inductive ServiceError where
  | game (e : GameError)
  | persistence (e : PersistenceError)
  | tickControlDisabled
  | strandGone
  deriving Repr

namespace ServiceError

/-- The kind of an error: that of the inner error for world and store errors. -/
def kind : ServiceError → String
  | .game e => e.kind
  | .persistence e => e.kind
  | .tickControlDisabled => "TickControlDisabled"
  | .strandGone => "StrandGone"

def message : ServiceError → String
  | .game e => e.message
  | .persistence e => e.message
  | .tickControlDisabled => "tick control is disabled while the periodic ticker runs"
  | .strandGone => "game strand is gone"

end ServiceError

/-- A request to the strand. -/
inductive Request where
  | join (map name : String)
  | move (token : Token) (dir : String)
  | tick (elapsed : Duration)
  | players (token : Token)
  | state (token : Token)
  | maps
  | map (id : String)
  | records (offset limit : Nat)
  | save
  | shutdown

/-- The answer to a request. -/
inductive Reply where
  | joined (j : Joined)
  | moved
  | ticked (r : TickReport)
  | players (l : List (UInt64 × String))
  | state (v : SessionView)
  | maps (l : List (String × String))
  | map (m : Map)
  | records (l : List Standing)
  | saved
  | stopped

/-- The strand: the world, the leaderboard, the period of the ticker if one runs, and
whether it still takes requests. -/
structure Strand where
  world : World
  board : Leaderboard
  tickPeriod : Option Duration
  running : Bool

/-- A handled request: the strand after it, the reply, and whether the world should now be
written to the store. -/
structure Handled where
  strand : Strand
  reply : Except ServiceError Reply
  save : Bool

namespace Strand

/-- A strand over a world with an empty leaderboard. It runs unless it is given a periodic
ticker of period zero: such a ticker cannot be made, and the strand stops before it serves
anything. -/
def start (w : World) (tickPeriod : Option Duration) : Strand :=
  ⟨w, {}, tickPeriod, tickPeriod.all (·.toNanos != 0)⟩

/-- Advances the world: retirements go to the leaderboard, and the report says whether a
snapshot is due. -/
def advance (s : Strand) (elapsed : Duration) : Except Fault (Strand × TickReport) := do
  let (world, report) ← s.world.tick elapsed
  let board := report.retirements.foldl (fun b r => b.append (Standing.ofRetirement r)) s.board
  return ({ s with world, board }, report)

/-- Lifts a world result into a reply. -/
def answer {α : Type} (s : Strand) (r : Except GameError α) (f : α → Reply) : Handled :=
  match r with
  | .ok a => ⟨s, .ok (f a), false⟩
  | .error e => ⟨s, .error (.game e), false⟩

/-- The strand after a fault: it stops without saving, and the request that faulted is
refused as if the strand were already gone. -/
def halted (s : Strand) : Handled := ⟨{ s with running := false }, .error .strandGone, false⟩

def handle (s : Strand) (r : Request) : Handled :=
  if !s.running then ⟨s, .error .strandGone, false⟩
  else match r with
  | .join map name =>
    match s.world.joinInPlace map name with
    | .error _ => s.halted
    | .ok (world, .ok j) => ⟨{ s with world }, .ok (.joined j), false⟩
    | .ok (world, .error e) => ⟨{ s with world }, .error (.game e), false⟩
  | .move token dir =>
    match s.world.movePlayerInPlace token dir with
    | (world, .ok ()) => ⟨{ s with world }, .ok .moved, false⟩
    | (world, .error e) => ⟨{ s with world }, .error (.game e), false⟩
  | .tick elapsed =>
    if s.tickPeriod.isSome then ⟨s, .error .tickControlDisabled, false⟩
    else
      match s.advance elapsed with
      | .error _ => s.halted
      | .ok (s, report) => ⟨s, .ok (.ticked report), report.snapshotDue⟩
  | .players token => s.answer (s.world.playersOf token) .players
  | .state token => s.answer (s.world.sessionState token) .state
  | .maps => ⟨s, .ok (.maps (s.world.maps.map fun m => (m.id, m.name))), false⟩
  | .map id =>
    match s.world.map? id with
    | some m => ⟨s, .ok (.map m), false⟩
    | none => ⟨s, .error (.game (.mapNotFound id)), false⟩
  | .records offset limit => ⟨s, .ok (.records (s.board.list offset limit)), false⟩
  | .save => ⟨s, .ok .saved, true⟩
  | .shutdown => ⟨{ s with running := false }, .ok .stopped, true⟩

/-- A tick of the periodic ticker, which runs whatever the requests say; tells whether a
snapshot is due. A fault stops the strand. -/
def timerTick (s : Strand) (elapsed : Duration) : Strand × Bool :=
  if !s.running then (s, false)
  else
    match s.advance elapsed with
    | .error _ => ({ s with running := false }, false)
    | .ok (s, report) => (s, report.snapshotDue)

end Strand

end RoadFetch
