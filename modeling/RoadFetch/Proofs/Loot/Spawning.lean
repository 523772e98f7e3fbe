import RoadFetch.Proofs.Loot.ExactChance
import RoadFetch.Proofs.Session.Tick
import Mathlib

/-! # Loot appearing in a tick

A tick places its loot first: as many pieces as the spawner grants, on a map with roads and
kinds of loot, and none otherwise. Each piece takes the next loot id, so the ids run on from the
session's counter, and lies on the centre line of a road, at a fraction of its length drawn from
the generator. Running, gathering and retiring report only what dogs do, so no later event of
the tick is loot appearing (`Session.tick_spawned`).

Main statement: `loot_spawning`, the spawner read exactly together with the loot of a tick.
-/

namespace RoadFetch

/-- The piece of loot an event reports appearing, if it is one. -/
def Event.spawned? : Event → Option LootItem
  | .lootSpawned id kind position => some ⟨id, kind, position⟩
  | _ => none

/-- The pieces of loot a list of events reports appearing, in order. -/
def spawnedLoot (es : List Event) : List LootItem := es.filterMap Event.spawned?

/-- The event of a piece of loot appearing. -/
def LootItem.spawnEvent (l : LootItem) : Event := .lootSpawned l.id l.kind l.position

theorem spawnedLoot_append (es es' : List Event) : spawnedLoot (es ++ es') = spawnedLoot es ++ spawnedLoot es' :=
  List.filterMap_append

/-- A point on the centre line of one of the map's roads, at a fraction of the road drawn as a
multiple of `2 ^ -53` below one. -/
def Map.OnCentreLine (m : Map) (p : Vec2) : Prop :=
  ∃ r ∈ m.roads, ∃ k < 2 ^ 53,
    p = r.start.toVec.lerp r.stop.toVec (Double.ofFloat (Decimal.roundBinary false k (-53)))

theorem Rng.nextIndex_lt (r : Rng) {len : ℕ} (hlen : 0 < len) : (r.nextIndex len).1 < len := by
  simp only [Rng.nextIndex, Nat.pos_iff_ne_zero.mp hlen, ↓reduceIte]
  exact Nat.mod_lt _ hlen

namespace Map

variable (m : Map) (rng : Rng)

/-- On a map with roads a point is drawn, on the centre line of the road at the drawn index. -/
theorem randomRoadPoint_of_ne_nil (hroads : m.roads ≠ []) :
    ∃ p, (m.randomRoadPoint rng).1 = some p ∧ m.OnCentreLine p := by
  have hlen : 0 < m.roads.length := List.length_pos_iff.mpr hroads
  have hi := rng.nextIndex_lt hlen
  -- the fraction is the top 53 bits of a word over `2 ^ 53`
  have hk : ((rng.nextIndex m.roads.length).2.nextU64.1 >>> 11).toNat < 2 ^ 53 := by
    have hw := ((rng.nextIndex m.roads.length).2.nextU64.1).toNat_lt
    have h11 : (11 : UInt64).toNat % 64 = 11 := rfl
    rw [UInt64.toNat_shiftRight, h11, Nat.shiftRight_eq_div_pow]
    omega
  refine ⟨_, ?_, _, List.getElem_mem hi, _, hk, rfl⟩
  simp only [randomRoadPoint, Rng.choose, Nat.pos_iff_ne_zero.mp hlen, ↓reduceIte, Option.bind_some,
    List.getElem?_eq_getElem hi]
  rfl

theorem randomRoadPoint_of_nil (hroads : m.roads = []) : (m.randomRoadPoint rng).1 = none := by
  simp [randomRoadPoint, Rng.choose, hroads]

theorem randomRoadPoint_eq_none_iff : (m.randomRoadPoint rng).1 = none ↔ m.roads = [] := by
  refine ⟨fun h => ?_, m.randomRoadPoint_of_nil rng⟩
  by_contra hroads
  obtain ⟨p, hp, -⟩ := m.randomRoadPoint_of_ne_nil rng hroads
  rw [hp] at h
  cases h

theorem onCentreLine_of_randomRoadPoint {p : Vec2} (h : (m.randomRoadPoint rng).1 = some p) :
    m.OnCentreLine p := by
  by_cases hroads : m.roads = []
  · rw [m.randomRoadPoint_of_nil rng hroads] at h
    cases h
  · obtain ⟨q, hq, hon⟩ := m.randomRoadPoint_of_ne_nil rng hroads
    rw [hq, Option.some.injEq] at h
    exact h ▸ hon

end Map

namespace Session

/-- How many pieces of loot a tick places: what the spawner grants, and none on a map without
roads or without kinds of loot. -/
def spawnCount (s : Session) (elapsed : Duration) : ℕ :=
  if s.map.roads = [] ∨ s.map.lootKinds = [] then 0
  else (s.spawner.generate elapsed s.loot.length s.dogs.length).1

/-- What the loop placing `n` pieces of loot reports: a piece with the next id for each of `n`
draws on a map with roads, each of a kind of the map and on a road's centre line. -/
theorem spawnLoop_spawned {n : ℕ} {s s' : Session} {acc acc' : List Event} (hk : s.map.lootKinds ≠ [])
    (h : spawnLoop n s acc = .ok (s', acc')) :
    ∃ placed : List LootItem, acc' = acc ++ placed.map LootItem.spawnEvent ∧
      placed.map (·.id.toNat) = List.range' s.nextLootId.toNat (if s.map.roads = [] then 0 else n) ∧
      ∀ l ∈ placed, l.kind.toNat < s.map.lootKinds.length ∧ s.map.OnCentreLine l.position := by
  induction n generalizing s acc with
  | zero =>
    simp only [spawnLoop, pure_eq_ok, Prod.mk.injEq] at h
    exact ⟨[], by simp [h.2], by simp, by simp⟩
  | succ n ih =>
    simp only [spawnLoop] at h
    have hnone := s.map.randomRoadPoint_eq_none_iff s.rng
    have hon := @Map.onCentreLine_of_randomRoadPoint s.map s.rng
    generalize s.map.randomRoadPoint s.rng = q at h hnone hon
    obtain ⟨o, r⟩ := q
    cases o with
    | none =>
      -- no roads: the loop stops at once
      simp only [pure_eq_ok, Prod.mk.injEq] at h
      exact ⟨[], by simp [h.2], by simp [hnone.mp rfl], by simp⟩
    | some p =>
      have hroads : s.map.roads ≠ [] := fun h' => Option.some_ne_none p (hnone.mpr h')
      simp only [bind_eq_ok] at h
      obtain ⟨⟨s₁, id⟩, hp, hrest⟩ := h
      obtain ⟨rfl, next, hnext, hs₁⟩ := placeLoot_eq_ok hp
      have hmap : s₁.map = s.map := by subst hs₁; rfl
      obtain ⟨placed, hacc, hids, hplaced⟩ := ih (hmap ▸ hk) hrest
      rw [hmap] at hids hplaced
      have hkind : (r.nextIndex s.map.lootKinds.length).1.toUInt64.toNat < s.map.lootKinds.length := by
        have hlt := r.nextIndex_lt (List.length_pos_iff.mpr hk)
        rw [Nat.toUInt64_eq, UInt64.toNat_ofNat']
        exact lt_of_le_of_lt (Nat.mod_le _ _) hlt
      refine ⟨⟨s.nextLootId, (r.nextIndex s.map.lootKinds.length).1.toUInt64, p⟩ :: placed, by simp [hacc, LootItem.spawnEvent], ?_, ?_⟩
      · simp only [hroads, ↓reduceIte] at hids ⊢
        rw [List.map_cons, hids, hs₁, Checked.toNat_of_succ_eq_ok hnext, List.range'_succ]
      · intro l hl
        rcases List.mem_cons.mp hl with rfl | hl
        · exact ⟨hkind, hon rfl⟩
        · exact hplaced l hl

theorem spawnPhase_spawned {s s₁ : Session} {elapsed : Duration} {spawned : List Event}
    (h : s.spawnPhase elapsed = .ok (s₁, spawned)) :
    ∃ placed : List LootItem, spawned = placed.map LootItem.spawnEvent ∧
      placed.map (·.id.toNat) = List.range' s.nextLootId.toNat (s.spawnCount elapsed) ∧
      ∀ l ∈ placed, l.kind.toNat < s.map.lootKinds.length ∧ s.map.OnCentreLine l.position := by
  unfold spawnPhase at h
  unfold spawnCount
  generalize s.spawner.generate elapsed s.loot.length s.dogs.length = cs at h ⊢
  obtain ⟨count, spawner⟩ := cs
  dsimp only at h ⊢
  by_cases hk : s.map.lootKinds = []
  · simp only [hk, List.isEmpty_nil, ↓reduceIte, pure_eq_ok, Prod.mk.injEq, or_true] at h ⊢
    exact ⟨[], by simp [h.2], by simp, by simp⟩
  · simp only [List.isEmpty_iff, hk, ↓reduceIte, or_false] at h ⊢
    obtain ⟨placed, hacc, hids, hplaced⟩ := spawnLoop_spawned (s := { s with spawner }) hk h
    exact ⟨placed, by simpa using hacc, hids, hplaced⟩

/-! ### Later phases report no loot -/

theorem runDog_spawned? (grid : RoadGrid) (seconds : Double) (elapsed : Duration) (d : Dog) :
    ∀ e ∈ (runDog grid seconds elapsed d).2.1, e.spawned? = none := by
  unfold runDog
  split
  · simp
  · dsimp only
    split <;> simp [Event.spawned?]

theorem movePhase_spawned (s : Session) (elapsed : Duration) : spawnedLoot (s.movePhase elapsed).2.1 = [] := by
  simp only [movePhase, spawnedLoot, List.filterMap_eq_nil_iff]
  intro e he
  obtain ⟨run, hrun, hopt⟩ := List.mem_filterMap.mp he
  obtain ⟨d, -, rfl⟩ := List.mem_map.mp hrun
  exact runDog_spawned? s.map.grid _ elapsed d e hopt

theorem resolve_spawned {m : Map} {loot : List LootItem} {g g' : Gathering} {e : GatherEvent}
    (h : resolve m loot g e = .ok g') : spawnedLoot g'.events = spawnedLoot g.events := by
  rcases resolve_eq_ok_cases h with rfl | ⟨-, -, -, -, -, -, -, -, -, rfl⟩ |
      ⟨-, -, -, -, -, -, -, rfl⟩ | ⟨-, -, -, -, -, -, -, rfl⟩
  · rfl
  all_goals simp [spawnedLoot, Event.spawned?, Gathering.pickUp]

theorem gatherPhase_spawned {s s' : Session} {events : List Event} (h : s.gatherPhase = .ok (s', events)) :
    spawnedLoot events = [] := by
  obtain ⟨g, hg, -, rfl⟩ := gatherPhase_eq_ok h
  exact foldlM_inv (fun g : Gathering => spawnedLoot g.events = []) (fun _ _ _ _ ha hstep =>
    (resolve_spawned hstep).trans ha) rfl hg

theorem retirePhase_spawned (s : Session) (elapsed : Duration) (now : List Bool) :
    spawnedLoot (s.retirePhase elapsed now).2 = [] := by
  simp only [retirePhase, spawnedLoot, List.filterMap_eq_nil_iff]
  intro e he
  obtain ⟨o, ho, hsome⟩ := List.mem_filterMap.mp he
  obtain ⟨⟨d, b⟩, -, rfl⟩ := List.mem_map.mp ho
  rcases idleDog_cases s.tuning.retirementAfter elapsed d b with ⟨i, hi⟩ | ⟨r, hr, -⟩
  · simp [hi] at hsome
  · simp only [hr, Option.some.injEq] at hsome
    rw [← hsome]
    rfl

/-- A tick opens with the loot it places, exactly `spawnCount` pieces with ids running on from
the session's counter, each of a kind of the map and on a road's centre line; no later event of
the tick is loot appearing. -/
theorem tick_spawned {s s' : Session} {elapsed : Duration} {events : List Event}
    (h : s.tick elapsed = .ok (s', events)) :
    ∃ (placed : List LootItem) (rest : List Event), events = placed.map LootItem.spawnEvent ++ rest ∧ spawnedLoot rest = [] ∧
      placed.map (·.id.toNat) = List.range' s.nextLootId.toNat (s.spawnCount elapsed) ∧
      ∀ l ∈ placed, l.kind.toNat < s.map.lootKinds.length ∧ s.map.OnCentreLine l.position := by
  obtain ⟨s₁, spawned, s₃, gathered, h1, h3, -, rfl⟩ := tick_eq_ok h
  obtain ⟨placed, rfl, hids, hplaced⟩ := spawnPhase_spawned h1
  refine ⟨placed, (s₁.movePhase elapsed).2.1 ++ gathered ++ (s₃.retirePhase elapsed (s₁.movePhase elapsed).2.2).2,
    by simp only [List.append_assoc], ?_, hids, hplaced⟩
  rw [spawnedLoot_append, spawnedLoot_append, movePhase_spawned, gatherPhase_spawned h3, retirePhase_spawned]
  rfl

end Session


/-- Loot, read exactly and in the running game. A spawner grants at most the pieces missing,
and its clock restarts exactly when it grants some; what it grants grows with the time so far;
over any split of time into ticks, the first loot comes at the first tick whose time so far
reaches the least time that is enough for it. A tick opens with the loot it places, as many
pieces as the spawner grants on a map with roads and kinds of loot, with ids running on from
the session's counter, each on a road's centre line, and reports no other loot. -/
theorem loot_spawning :
    (∀ (p : ℝ) (period since elapsed : Duration) (loot dogs : ℕ),
      (Spawner.advance p period since elapsed (dogs - loot)).1 ≤ dogs - loot ∧
        (Spawner.advance p period since elapsed (dogs - loot)).2 =
          if 0 < (Spawner.advance p period since elapsed (dogs - loot)).1 then Duration.zero
          else since + elapsed) ∧
    (∀ (p : ℝ) (period : Duration) (deficit : ℕ) (since₁ elapsed₁ since₂ elapsed₂ : Duration),
      (since₁ + elapsed₁).toNanos ≤ (since₂ + elapsed₂).toNanos →
        (Spawner.advance p period since₁ elapsed₁ deficit).1 ≤
          (Spawner.advance p period since₂ elapsed₂ deficit).1) ∧
    (∀ (p : ℝ) (period : Duration) (deficit T : ℕ) (since : Duration) (ticks : List Duration),
      p ∈ Set.Icc 0 1 → 0 < period.toNanos →
      IsLeast {t : ℕ | 1 ≤ round ((deficit : ℝ) * (1 - (1 - p) ^ ((t : ℝ) / period.toNanos)))} T →
      since.toNanos + (ticks.map Duration.toNanos).sum < 2 ^ 64 * Duration.nanosPerSec →
        (Spawner.counts p period deficit since ticks).findIdx? (0 < ·) =
          (ticks.scanl (fun t e => t + e.toNanos) since.toNanos).tail.findIdx? (T ≤ ·)) ∧
    (∀ (s s' : Session) (elapsed : Duration) (events : List Event), s.tick elapsed = .ok (s', events) →
      ∃ (placed : List LootItem) (rest : List Event), events = placed.map LootItem.spawnEvent ++ rest ∧
        spawnedLoot rest = [] ∧
        placed.map (·.id.toNat) = List.range' s.nextLootId.toNat (s.spawnCount elapsed) ∧
        ∀ l ∈ placed, l.kind.toNat < s.map.lootKinds.length ∧ s.map.OnCentreLine l.position) := by
  refine ⟨fun p period since elapsed loot dogs => ⟨?_, Spawner.advance_snd p period _ since elapsed⟩,
    fun p period deficit since₁ elapsed₁ since₂ elapsed₂ hle => ?_,
    fun p period deficit T since ticks hp hperiod hT hfit => ?_,
    fun s s' elapsed events h => Session.tick_spawned h⟩
  · rw [Spawner.advance_fst]
    exact Spawner.countOf_le p period _ _
  · rw [Spawner.advance_fst, Spawner.advance_fst]
    exact Spawner.countOf_mono p period deficit hle
  · exact Spawner.findIdx_counts p period deficit
      (Spawner.countOf_pos_iff_le p period deficit hp hperiod.ne' hT) since ticks hfit

/-- At even odds per second, one missing piece is enough after a whole second and not before. -/
theorem Spawner.even_odds_enough (t : ℕ) :
    1 ≤ round (((1 : ℕ) : ℝ) * (1 - (1 - 1 / 2) ^ ((t : ℝ) / (1000000000 : ℕ)))) ↔ 1000000000 ≤ t := by
  have hhalf : (1 : ℝ) - 1 / 2 = 1 / 2 := by norm_num
  simp only [Nat.cast_one, one_mul, hhalf, round_eq, Int.le_floor, Int.cast_one]
  constructor
  · intro h
    by_contra hlt
    -- before a second, more than half the odds of nothing are left
    have hratio : (t : ℝ) / (1000000000 : ℕ) < 1 := by
      rw [div_lt_one (by norm_num)]
      exact_mod_cast Nat.lt_of_not_le hlt
    have hpow : (1 / 2 : ℝ) ^ (1 : ℝ) < (1 / 2) ^ ((t : ℝ) / (1000000000 : ℕ)) :=
      Real.rpow_lt_rpow_of_exponent_gt (by norm_num) (by norm_num) hratio
    rw [Real.rpow_one] at hpow
    linarith
  · intro h
    have hratio : 1 ≤ (t : ℝ) / (1000000000 : ℕ) := by
      rw [one_le_div (by norm_num)]
      exact_mod_cast h
    have hpow : (1 / 2 : ℝ) ^ ((t : ℝ) / (1000000000 : ℕ)) ≤ (1 / 2) ^ (1 : ℝ) :=
      Real.rpow_le_rpow_of_exponent_ge (by norm_num) (by norm_num) hratio
    rw [Real.rpow_one] at hpow
    linarith

/-- With even odds per second and one piece missing, ticks of a tenth of a second bring the
first loot at the tenth tick, as one second would; and a tick of a session on an empty map
reports no loot. -/
theorem loot_spawning_short_ticks :
    (Spawner.counts (1 / 2 : ℝ) (Duration.ofMillis 1000) 1 Duration.zero
      (List.replicate 20 (Duration.ofMillis 100))).findIdx? (0 < ·) = some 9 ∧
    let s : Session := ⟨0, ⟨"m", "M", [], [], [], [], none, none⟩, [], [], 0, 0, Tuning.default,
      Rng.ofSeed 0, Spawner.new SpawnConfig.default⟩
    ∃ s' events, s.tick (Duration.ofMillis 100) = .ok (s', events) ∧ spawnedLoot events = [] := by
  have hperiod : (Duration.ofMillis 1000).toNanos = 1000000000 := rfl
  have hT : IsLeast {t : ℕ | 1 ≤ round (((1 : ℕ) : ℝ) *
      (1 - (1 - 1 / 2) ^ ((t : ℝ) / (Duration.ofMillis 1000).toNanos)))} 1000000000 := by
    rw [hperiod]
    exact ⟨(Spawner.even_odds_enough _).mpr le_rfl, fun t ht => (Spawner.even_odds_enough t).mp ht⟩
  refine ⟨?_, ?_⟩
  · rw [(loot_spawning).2.2.1 (1 / 2) (Duration.ofMillis 1000) 1 1000000000 Duration.zero _
      ⟨by norm_num, by norm_num⟩ (by rw [hperiod]; norm_num) hT (by decide)]
    decide
  · intro s
    obtain ⟨s', events, h⟩ : ∃ s' events, s.tick (Duration.ofMillis 100) = .ok (s', events) := by
      simp [s, Session.tick, Session.spawnPhase, Session.movePhase, Session.gatherPhase, gatherEvents,
        Session.items, Session.retirePhase, bind, Except.bind, pure, Except.pure]
    obtain ⟨placed, rest, rfl, hrest, hids, -⟩ := (loot_spawning).2.2.2 s s' _ events h
    -- the map has no roads, so nothing is placed
    have hnone : placed = [] := by
      have hcount : s.spawnCount (Duration.ofMillis 100) = 0 := by simp [Session.spawnCount, s]
      rw [hcount, List.range'_zero, List.map_eq_nil_iff] at hids
      exact hids
    exact ⟨s', _, h, by rw [hnone, List.map_nil, List.nil_append, hrest]⟩

end RoadFetch
