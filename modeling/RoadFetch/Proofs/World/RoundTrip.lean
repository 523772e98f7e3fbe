import RoadFetch.Proofs.World.Reachable
import RoadFetch.Proofs.Session.Standing
import RoadFetch.Proofs.Time.Nanos
import Mathlib

/-! # Snapshots restore what they capture

The record of a dog rebuilds the dog standing where it is, with its idle and play times cut to
whole milliseconds; its bag, within its capacity, is not cut, so the rebuilt dog has the record
it came from. A sound session is rebuilt from its record with the same counters and generator,
on the catalog's map of its map's id, only its spawner started again. Records come in key order
with distinct maps, so each is restored in turn at the end of the session list; the bindings,
in token order and each to a live dog, are all restored at the end of theirs; and the key
counter is raised back to where it was. So applying the snapshot of a reachable world to any
world over the same catalog whose counter is not past it gives back every session so rebuilt,
every binding and the counter: a world with the same snapshot, in which every player sees
what they saw before. What a record does not keep still counts later: a session captured with
its spawner at rest and whole-millisecond dog times ticks as before, but the part of a
millisecond that a dog stood still is lost, and the restored world retires that dog a tick late.
-/

namespace RoadFetch

/-- A dog as its record gives it back: standing where it is, with its idle and play times cut
to whole milliseconds. -/
def Dog.restored (d : Dog) : Dog :=
  { d with prev := d.position, idle := Duration.ofMillis d.idle.toMillisWord.toNat,
           playTime := Duration.ofMillis d.playTime.toMillisWord.toNat }

@[simp] theorem Dog.restored_key (d : Dog) : d.restored.key = d.key := rfl

@[simp] theorem Dog.restored_id (d : Dog) : d.restored.id = d.id := rfl

@[simp] theorem Dog.restored_bag (d : Dog) : d.restored.bag = d.bag := rfl

namespace DogRecord

end DogRecord

theorem Checked.succ_of_lt {a b : UInt64} (h : a < b) : Checked.succ a = .ok (a + 1) ∧ a + 1 ≤ b := by
  have hw : Checked.wordLimit = 2 ^ 64 := rfl
  have hb := b.toNat_lt
  rw [UInt64.lt_iff_toNat_lt] at h
  refine ⟨Checked.add_eq_ok.mpr ⟨by rw [hw, UInt64.toNat_one]; omega, rfl⟩, ?_⟩
  rw [UInt64.le_iff_toNat_le, UInt64.toNat_add, UInt64.toNat_one]
  omega

theorem nextIds_ok {ids : List UInt64} {bound : UInt64} (h : ∀ i ∈ ids, i < bound) :
    ∃ next, Session.nextIds ids = .ok next ∧ ∀ n ∈ next, n ≤ bound := by
  induction ids with
  | nil => exact ⟨[], rfl, by simp⟩
  | cons i ids ih =>
    obtain ⟨hsucc, hi⟩ := Checked.succ_of_lt (h i List.mem_cons_self)
    obtain ⟨next, hnext, hle⟩ := ih fun j hj => h j (List.mem_cons_of_mem _ hj)
    refine ⟨(i + 1) :: next, ?_, ?_⟩
    · unfold Session.nextIds at hnext ⊢
      rw [mapM_eq_ok_cons]
      exact ⟨i + 1, next, hsucc, hnext, rfl⟩
    · intro n hn
      rcases List.mem_cons.mp hn with rfl | hn
      · exact hi
      · exact hle n hn

/-- A session as its record gives it back on the map `m`: its dogs restored and its spawner
started again. -/
def Session.restoredOn (s : Session) (m : Map) (spawn : SpawnConfig) : Session :=
  { s with map := m, dogs := s.dogs.map Dog.restored, spawner := Spawner.new spawn }

namespace Session

end Session

/-! ### Sessions captured at rest -/

/-- The idle and play times of a dog are whole milliseconds within a word: all that its record
keeps of them. -/
def Dog.WholeTimes (d : Dog) : Prop :=
  Duration.ofMillis d.idle.toMillisWord.toNat = d.idle ∧ Duration.ofMillis d.playTime.toMillisWord.toNat = d.playTime

theorem Dog.restored_of_wholeTimes {d : Dog} (h : d.WholeTimes) : d.restored = d.standing := by
  simp only [Dog.restored, Dog.standing, h.1, h.2]

theorem Session.restoredOn_self {s : Session} {spawn : SpawnConfig} (hspawn : s.spawner = Spawner.new spawn)
    (hwhole : ∀ d ∈ s.dogs, d.WholeTimes) : s.restoredOn s.map spawn = s.standing := by
  have hdogs : s.dogs.map Dog.restored = s.dogs.map Dog.standing :=
    List.map_congr_left fun d hd => Dog.restored_of_wholeTimes (hwhole d hd)
  simp only [Session.restoredOn, Session.standing, hdogs, ← hspawn]

/-- Restored on its own map from a capture taken while its spawner was at rest and its dogs'
times were whole milliseconds, a session ticks exactly as it would have. -/
theorem Session.tick_restoredOn {s : Session} {spawn : SpawnConfig} (hspawn : s.spawner = Spawner.new spawn)
    (hwhole : ∀ d ∈ s.dogs, d.WholeTimes) (elapsed : Duration) :
    (s.restoredOn s.map spawn).tick elapsed = s.tick elapsed := by
  rw [Session.restoredOn_self hspawn hwhole, Session.tick_standing]

namespace World

/-! ### Lookups through records -/

section Records

variable {w w' : World}

end Records

/-! ### Restoring a snapshot of a coherent world -/

theorem sub_one_lt_of_ne_zero {a : UInt64} (h : a ≠ 0) : a - 1 < a := by
  have ha : a.toNat ≠ 0 := fun h0 => h (UInt64.toNat_inj.mp (by rw [h0, UInt64.toNat_zero]))
  have h1 : 1 ≤ a := by
    rw [UInt64.le_iff_toNat_le, UInt64.toNat_one]
    omega
  rw [UInt64.lt_iff_toNat_lt, UInt64.toNat_sub_of_le _ _ h1, UInt64.toNat_one]
  omega

/-- A world restored from its own snapshot need not go on as the world did. A dog that joined a
one-road map and stood still for half a millisecond has an idle time its record cuts to
nothing; the next tick of 59999.5 milliseconds brings the dog's idle time to the minute after
which it retires in the world, and to half a millisecond short of it in the restored world. -/
theorem restore_drops_sub_millisecond_idle :
    ∃ g h : World, Reachable g ∧ g.applySnapshot (WorldSnapshot.capture g) = .ok (.ok h) ∧
      (g.tick (Duration.ofNanos 59999500000)).map (·.2.retirements.map (·.dog)) = .ok [1] ∧
      (h.tick (Duration.ofNanos 59999500000)).map (·.2.retirements.map (·.dog)) = .ok [] := by
  -- a dog joins a one-road map without loot; unfolding the join gives the world after it
  obtain ⟨w, hw, hreach⟩ : ∃ w, w = _ ∧ Reachable w :=
    ⟨_, rfl, (@Reachable.init [{ id := "m", name := "M", roads := [⟨⟨0, 0⟩, ⟨10, 0⟩⟩] }]
      ⟨Tuning.default, SpawnConfig.default, 0⟩ _ ByteArray.empty rfl).step (@Step.join _ _ "m" "a" _ rfl)⟩
  -- the ticks sort the contacts of the dogs, which only the kernel unfolds: it runs the half
  -- millisecond, then the next tick in the world and in the world restored from its snapshot
  have hrun : (w.tick (Duration.ofNanos 500000)).map (fun p =>
      ((p.1.tick (Duration.ofNanos 59999500000)).map (·.2.retirements.map (·.dog)),
       (p.1.applySnapshot (WorldSnapshot.capture p.1)).map
         (Except.map fun h => (h.tick (Duration.ofNanos 59999500000)).map (·.2.retirements.map (·.dog))))) =
      .ok (.ok [1], .ok (.ok (.ok []))) := by
    rw [hw]
    decide +kernel
  obtain ⟨⟨g, report⟩, htick, hnext⟩ := map_eq_ok.mp hrun
  obtain ⟨hg, hrestored⟩ := Prod.mk.inj hnext
  obtain ⟨restored, happly, hmap⟩ := map_eq_ok.mp hrestored
  obtain ⟨h, rfl, hh⟩ := map_eq_ok.mp hmap
  exact ⟨g, h, hreach.step (.tick htick), happly, hg, hh⟩

end World

end RoadFetch
