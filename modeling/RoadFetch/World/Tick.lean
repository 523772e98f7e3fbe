import RoadFetch.World.Basic
import RoadFetch.Session.Tick

/-!
# World ticks

A world tick goes through the scheduler: every session is ticked by the elapsed time, in
order of subscription, and then the autosave timer runs. A subscription whose session or
timer no longer exists is dropped. The tick reports the dogs retired in every session, whose
tokens are then unbound, and whether a snapshot is due.
-/

namespace RoadFetch

/-- What a world tick reports. -/
structure TickReport where
  retirements : List Retirement
  snapshotDue : Bool
  deriving Repr

namespace World

/-- The parts of the world a tick changes, with the report so far and the fault that stopped
the tick, if one did. -/
structure Ticking where
  sessions : List Session
  autosave : Option Autosave
  report : TickReport
  fault : Option Fault

/-- Visits one scheduler target with the elapsed time; after a fault nothing more happens. -/
def visit (elapsed : Duration) (t : Ticking) : Target → Ticking × List (Target × Int) × Liveness
  | .session key =>
    if t.fault.isSome then (t, [], .alive)
    else match t.sessions.find? (·.key == key) with
    | none => (t, [], .gone)
    | some s =>
      match s.tick elapsed with
      | .error f => ({ t with fault := some f }, [], .alive)
      | .ok (s, events) =>
        ({ t with sessions := insertSession s t.sessions,
                  report := { t.report with retirements := t.report.retirements ++ retirements events } },
          [], .alive)
  | .persistence =>
    if t.fault.isSome then (t, [], .alive)
    else match t.autosave with
    | none => (t, [], .gone)
    | some timer =>
      let since := timer.since + elapsed
      if timer.period.le since then
        ({ t with autosave := some ⟨timer.period, Duration.zero⟩,
                  report := { t.report with snapshotDue := true } }, [], .alive)
      else ({ t with autosave := some ⟨timer.period, since⟩ }, [], .alive)

/-- Advances the world by `elapsed`; a fault in any session stops the whole tick. -/
def tick (w : World) (elapsed : Duration) : Except Fault (World × TickReport) :=
  let (scheduler, t) := w.scheduler.tick (visit elapsed) ⟨w.sessions, w.autosave, ⟨[], false⟩, none⟩
  match t.fault with
  | some f => .error f
  | none =>
    let players := t.report.retirements.foldl (fun ps r => ps.removeDog r.dog) w.players
    .ok ({ w with scheduler, sessions := t.sessions, autosave := t.autosave, players }, t.report)

end World

end RoadFetch
