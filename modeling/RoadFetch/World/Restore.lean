import RoadFetch.World.Basic
import RoadFetch.Snapshot.Envelope

/-!
# Saving and restoring the world

Capturing the world records its sessions in key order, its bindings in token order and its
next key. Applying a snapshot first checks that every session's map is in the catalog, and
only then replaces the sessions and bindings: a session whose key or map was seen before is
skipped, a binding to a dog that is not in its session is dropped, and so is a binding whose
token or dog is bound already. The next key is raised past every session and dog key
restored, and past the snapshot's own next key. The autosave timer is kept. Loading reads the
snapshot file first: a file that cannot be read is an error, a missing one leaves the world
as it is.
-/

namespace RoadFetch

namespace WorldSnapshot

def capture (w : World) : WorldSnapshot :=
  ⟨w.sessions.map SessionRecord.capture, w.players.list, w.nextKey⟩

end WorldSnapshot

namespace World

/-- The sealed snapshot of the world. -/
def snapshot (w : World) : List UInt8 := (WorldSnapshot.capture w).encode

/-- The map of every session record, in order; the first unknown map is an error. -/
def recordMaps (w : World) (records : List SessionRecord) : Except PersistenceError (List Map) :=
  records.mapM fun r =>
    match w.map? r.header.mapId with
    | some m => .ok m
    | none => .error (.unknownMap r.header.mapId)

/-- The world without sessions and bindings, its sessions unsubscribed from ticks. -/
def clearSessions (w : World) : World :=
  let scheduler := w.sessions.foldl (fun sch s => (sch.unsubscribe (.session s.key)).1) w.scheduler
  { w with scheduler, sessions := [], sessionByMap := [], players := {} }

/-- The largest of a key bound and some keys. -/
def raiseKey (highest : Option UInt64) (key : UInt64) : Option UInt64 :=
  match highest with
  | some k => some (max k key)
  | none => some key

/-- Restores one session record on its map, unless its key or its map is taken; also raises
the highest key seen. Rebuilding its dogs and raising its counters may fault. -/
def restoreSession (acc : World × Option UInt64) (entry : SessionRecord × Map) :
    Except Fault (World × Option UInt64) := do
  let (w, highest) := acc
  let (r, m) := entry
  let key := r.header.key
  if (w.session? key).isSome || (w.sessionKeyOf? r.header.mapId).isSome then return (w, highest)
  let dogs ← r.dogs.mapM DogRecord.toDog
  let highest := dogs.foldl (fun h d => raiseKey h d.key) (raiseKey highest key)
  let s ← Session.ofParts key m r.header.tuning w.settings.loot r.header.counters dogs r.loot
  let w := w.putSession s
  return ({ w with sessionByMap := w.sessionByMap ++ [(r.header.mapId, key)],
                   scheduler := w.scheduler.subscribe (.session key) sessionPriority }, highest)

/-- Restores a binding if its dog is in its session and neither its token nor its dog is
bound yet. -/
def restoreBinding (w : World) (b : Binding) : World :=
  match w.session? b.session with
  | some s => if (s.dog? b.dog).isSome then { w with players := (w.players.insert b).1 } else w
  | none => w

/-- Replaces the sessions and bindings of the world by those of a snapshot: the world after the
request, and the answer. An unknown map is answered before anything changes. The outer layer
is a fault. -/
def applySnapshotInPlace (w : World) (snap : WorldSnapshot) :
    Except Fault (World × Except PersistenceError Unit) := do
  let maps ← match w.recordMaps snap.sessions with
    | .ok maps => pure maps
    | .error e => return (w, .error e)
  let highest := if snap.nextKey == 0 then none else some (snap.nextKey - 1)
  let (w, highest) ← (snap.sessions.zip maps).foldlM restoreSession (w.clearSessions, highest)
  let w := snap.bindings.foldl restoreBinding w
  let floor ← match highest with
    | some k => Checked.succ k
    | none => pure 0
  return ({ w with nextKey := max w.nextKey floor }, .ok ())

/-- Applying a snapshot, answered with the world after it when it succeeds. -/
def applySnapshot (w : World) (snap : WorldSnapshot) : Except Fault (Except PersistenceError World) :=
  (w.applySnapshotInPlace snap).map fun r => (settle r).map (·.1)

/-- Restores the world from sealed bytes: the world after the request, and the answer. -/
def restoreInPlace (w : World) (bytes : List UInt8) : Except Fault (World × Except PersistenceError Unit) :=
  match WorldSnapshot.decode bytes with
  | .ok snap => w.applySnapshotInPlace snap
  | .error e => pure (w, .error e)

/-- Restoring, answered with the world after it when it succeeds. -/
def restore (w : World) (bytes : List UInt8) : Except Fault (Except PersistenceError World) :=
  (w.restoreInPlace bytes).map fun r => (settle r).map (·.1)

/-- Restores the world from what reading the snapshot file gave: its contents, nothing when
there is no file, or why it could not be read. The world after the request, and whether there
was a snapshot to restore. -/
def loadIntoInPlace (w : World) (read : Except PersistenceError (Option (List UInt8))) :
    Except Fault (World × Except PersistenceError Bool) :=
  match read with
  | .error e => pure (w, .error e)
  | .ok none => pure (w, .ok false)
  | .ok (some bytes) => do
    let (w, r) ← w.restoreInPlace bytes
    return (w, r.map fun _ => true)

/-- Loading, answered with the world after it when it succeeds. -/
def loadInto (w : World) (read : Except PersistenceError (Option (List UInt8))) :
    Except Fault (Except PersistenceError (World × Bool)) :=
  (w.loadIntoInPlace read).map settle

/-- A world that goes on drawing tokens where `prev` stopped, with the key of `prev`, so that a
world rebuilt in place of another never hands out a token the other one did. -/
def continuing (w prev : World) : World :=
  { w with nextToken := max w.nextToken prev.nextToken, tokenKey := prev.tokenKey }

end World

end RoadFetch
