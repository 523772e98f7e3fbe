import RoadFetch.Proofs.World.Ticks
import RoadFetch.Proofs.World.Restore
import Mathlib

/-! # The worlds a server can reach

A world starts new over a catalog and then takes requests: joins, steering, ticks, the two
autosave switches, and snapshots applied or restored from bytes. A request that faults leaves
no world behind, and one answered with an error leaves the world as it was, so the worlds a
server holds are those reached by the requests that succeed. Every such world is coherent,
and what that means in terms of the world's own lookups is `WorldInvariant`.
-/

namespace RoadFetch.World

/-- One request that succeeds, with the world before and after it. -/
inductive Step : World → World → Prop
  | join {w w' : World} {mapId name : String} {j : Joined} (h : w.join mapId name = .ok (.ok (w', j))) :
      Step w w'
  | movePlayer {w w' : World} {token : Token} {dir : String} (h : w.movePlayer token dir = .ok w') : Step w w'
  | tick {w w' : World} {elapsed : Duration} {report : TickReport} (h : w.tick elapsed = .ok (w', report)) :
      Step w w'
  | enableAutosave (w : World) (period : Duration) : Step w (w.enableAutosave period)
  | disableAutosave (w : World) : Step w w.disableAutosave
  | applySnapshot {w w' : World} {snap : WorldSnapshot} (h : w.applySnapshot snap = .ok (.ok w')) : Step w w'
  | restore {w w' : World} {bytes : List UInt8} (h : w.restore bytes = .ok (.ok w')) : Step w w'

/-- The worlds reachable from a new world, with any token key, by requests that succeed. -/
inductive Reachable : World → Prop
  | init {maps : List Map} {settings : GameSettings} {w : World} (key : ByteArray)
      (h : World.new maps settings = .ok w) : Reachable (w.withTokenKey key)
  | step {w w' : World} (hw : Reachable w) (h : Step w w') : Reachable w'

theorem Coherent.step {w w' : World} (h : Coherent w) (hs : Step w w') : Coherent w' ∧ w.nextKey ≤ w'.nextKey := by
  cases hs with
  | join hj => exact h.join hj
  | movePlayer hm =>
    obtain ⟨b, s, c, -, rfl⟩ := movePlayer_eq_ok hm
    exact ⟨h.movePlayer hm, UInt64.le_refl _⟩
  | tick ht =>
    obtain ⟨hc, hk⟩ := h.tick ht
    exact ⟨hc, hk ▸ UInt64.le_refl _⟩
  | enableAutosave period => exact ⟨h.enableAutosave period, UInt64.le_refl _⟩
  | disableAutosave => exact ⟨h.disableAutosave, UInt64.le_refl _⟩
  | applySnapshot ha => exact h.applySnapshot ha
  | restore hr =>
    obtain ⟨snap, ha⟩ := restore_eq_ok hr
    exact h.applySnapshot ha

theorem Reachable.coherent {w : World} (h : Reachable w) : Coherent w := by
  induction h with
  | init key hnew => exact (coherent_new hnew).withTokenKey key
  | step _ hs ih => exact (ih.step hs).1

end RoadFetch.World
