import RoadFetch.Proofs.Session.Tick
import Mathlib

/-! # The sessions a game can reach

A session starts new and then takes joins, steering, loot placed by hand and ticks of any
length. Every session so reached is sound, holds no loot id twice, on the map and in the bags
together, and keeps its dogs in the order they joined, which is the order of their ids.
-/

namespace RoadFetch.Session

/-- The sessions reached from a new one by requests that succeed. -/
inductive Reachable : Session → Prop
  | new (key : UInt64) (map : Map) (tuning : Tuning) (spawn : SpawnConfig) (seed : UInt64) :
      Reachable (Session.new key map tuning spawn seed)
  | join {s s' : Session} {key : UInt64} {name : String} {d : Dog} (hs : Reachable s)
      (h : s.join key name = .ok (s', d)) : Reachable s'
  | moveDog {s : Session} (hs : Reachable s) (key : UInt64) (c : Command) : Reachable (s.moveDog key c).1
  | placeLoot {s s' : Session} {kind : UInt64} {p : Vec2} {id : UInt64} (hs : Reachable s)
      (h : s.placeLoot kind p = .ok (s', id)) : Reachable s'
  | tick {s s' : Session} {elapsed : Duration} {events : List Event} (hs : Reachable s)
      (h : s.tick elapsed = .ok (s', events)) : Reachable s'

/-- Sound, no loot id twice, and dog ids increasing along the dogs. -/
structure Kept (s : Session) : Prop where
  sound : s.Sound
  lootIds_nodup : s.lootIds.Nodup
  ids_sorted : (s.dogs.map (·.id)).Pairwise (· < ·)

theorem kept_new (key : UInt64) (map : Map) (tuning : Tuning) (spawn : SpawnConfig) (seed : UInt64) :
    Kept (Session.new key map tuning spawn seed) :=
  ⟨sound_new key map tuning spawn seed, by simp [lootIds, Session.new], by simp [Session.new]⟩

namespace Kept

variable {s s' : Session}

theorem join (h : Kept s) {key : UInt64} {name : String} {d : Dog} (hj : s.join key name = .ok (s', d)) :
    Kept s' := by
  have hsound := h.sound.join hj
  obtain ⟨n, -, hd, rfl⟩ := join_eq_ok hj
  obtain ⟨-, rfl⟩ := Dog.new_eq_ok.mp hd
  refine ⟨hsound, ?_, ?_⟩
  · -- the new dog's bag is empty, so the loot ids are those before
    have hn := h.lootIds_nodup
    simp only [lootIds, List.flatMap_append, List.flatMap_cons, List.flatMap_nil, Bag.empty, List.map_nil,
      List.append_nil] at hn ⊢
    exact hn
  · rw [List.map_append, List.pairwise_append]
    refine ⟨h.ids_sorted, List.pairwise_singleton _ _, ?_⟩
    intro a ha b hb
    obtain ⟨e, he, rfl⟩ := List.mem_map.mp ha
    rw [List.map_singleton, List.mem_singleton] at hb
    exact hb ▸ h.sound.dog_id_lt e he

theorem moveDog (h : Kept s) (key : UInt64) (c : Command) : Kept (s.moveDog key c).1 := by
  have hid : ∀ d : Dog, (d.command c).id = d.id := fun d => by cases c <;> rfl
  have hbag : ∀ d : Dog, (d.command c).bag = d.bag := fun d => by cases c <;> rfl
  have hloot : (s.moveDog key c).1.lootIds.Sublist s.lootIds :=
    lootIds_sublist (by rw [moveDog_dogs_map s key c _ hbag]) rfl
  refine ⟨h.sound.moveDog key c, h.lootIds_nodup.sublist hloot, ?_⟩
  rw [moveDog_dogs_map s key c _ hid]
  exact h.ids_sorted

theorem placeLoot (h : Kept s) {kind : UInt64} {p : Vec2} {i : UInt64}
    (hp : s.placeLoot kind p = .ok (s', i)) : Kept s' := by
  have hplaced : LootPlaced s s' := LootPlaced.placeLoot (fun hr => hr) hp
  exact ⟨h.sound.placeLoot hp, hplaced.lootIds_nodup h.sound h.lootIds_nodup, hplaced.dogs ▸ h.ids_sorted⟩

theorem tick (h : Kept s) {elapsed : Duration} {events : List Event} (ht : s.tick elapsed = .ok (s', events)) :
    Kept s' := by
  have hticked := h.sound.ticked ht
  exact ⟨hticked.sound, hticked.lootIds_nodup h.lootIds_nodup, h.ids_sorted.sublist hticked.ids⟩

end Kept

theorem Reachable.kept {s : Session} (h : Reachable s) : Kept s := by
  induction h with
  | new key map tuning spawn seed => exact kept_new key map tuning spawn seed
  | join _ hj ih => exact ih.join hj
  | moveDog _ key c ih => exact ih.moveDog key c
  | placeLoot _ hp ih => exact ih.placeLoot hp
  | tick _ ht ih => exact ih.tick ht

/-- In every reachable session the loot ids, on the map and in all bags, are distinct and
below the loot counter; the dog ids increase along the dogs, which are in the order they
joined, and are below the dog counter; and no bag holds more than its capacity. -/
theorem reachable_kept {s : Session} (h : Reachable s) :
    s.lootIds.Nodup ∧ (∀ i ∈ s.lootIds, i < s.nextLootId) ∧
      (s.dogs.map (·.id)).Pairwise (· < ·) ∧ (∀ d ∈ s.dogs, d.id < s.nextDogId) ∧
      ∀ d ∈ s.dogs, d.bag.items.length ≤ d.bag.capacity.toNat := by
  have hk := h.kept
  exact ⟨hk.lootIds_nodup, hk.sound.loot_id_lt, hk.ids_sorted, hk.sound.dog_id_lt,
    fun d hd => (hk.sound.bags_fit d hd).1⟩

end RoadFetch.Session
