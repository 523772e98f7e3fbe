import RoadFetch.Proofs.Random.NonZero
import RoadFetch.Session.Basic
import Mathlib

/-! # Counters that fault, and what every session keeps

Counters are words that fault rather than wrap, so a counter that moved has grown by exactly
what was added. From this, every session a world can hold is *sound*: its dog counter is past
every dog id, its loot counter past every loot id on the map or in a bag, its generator off the
zero state, and every bag within its capacity, which can be reserved. Joining, steering and
placing loot keep a session sound, and a session rebuilt from saved parts is sound whatever
the parts were.
-/

namespace RoadFetch

theorem bind_eq_ok {ε α β : Type} {x : Except ε α} {f : α → Except ε β} {b : β} :
    x >>= f = .ok b ↔ ∃ a, x = .ok a ∧ f a = .ok b := by
  cases x <;> simp [bind, Except.bind]

theorem pure_eq_ok {ε α : Type} {a b : α} : (pure a : Except ε α) = .ok b ↔ a = b := by
  simp [pure, Except.pure]

theorem map_eq_ok {ε α β : Type} {x : Except ε α} {f : α → β} {b : β} :
    x.map f = .ok b ↔ ∃ a, x = .ok a ∧ f a = b := by
  cases x <;> simp [Except.map]

theorem throw_ne_ok {ε α : Type} {e : ε} {a : α} : (throw e : Except ε α) ≠ .ok a := nofun

theorem mapM_eq_ok_cons {ε α β : Type} {f : α → Except ε β} {a : α} {l : List α} {r : List β} :
    (a :: l).mapM f = .ok r ↔ ∃ b bs, f a = .ok b ∧ l.mapM f = .ok bs ∧ r = b :: bs := by
  simp only [List.mapM_cons, bind_eq_ok, pure_eq_ok]
  constructor
  · rintro ⟨b, hb, bs, hbs, rfl⟩
    exact ⟨b, bs, hb, hbs, rfl⟩
  · rintro ⟨b, bs, hb, hbs, rfl⟩
    exact ⟨b, hb, bs, hbs, rfl⟩

/-- Each result of a `mapM` that succeeds is the result of its own item. -/
theorem mapM_eq_ok_zip {ε α β : Type} {f : α → Except ε β} {l : List α} {r : List β}
    (h : l.mapM f = .ok r) : r.length = l.length ∧ ∀ p ∈ l.zip r, f p.1 = .ok p.2 := by
  induction l generalizing r with
  | nil =>
    simp only [List.mapM_nil, pure_eq_ok] at h
    subst h
    simp
  | cons a l ih =>
    obtain ⟨b, bs, hb, hbs, rfl⟩ := mapM_eq_ok_cons.mp h
    obtain ⟨hlen, hzip⟩ := ih hbs
    refine ⟨by simp [hlen], ?_⟩
    intro p hp
    rcases List.mem_cons.mp hp with rfl | hp
    · exact hb
    · exact hzip p hp

theorem mapM_eq_ok_mem {ε α β : Type} {f : α → Except ε β} {l : List α} {r : List β}
    (h : l.mapM f = .ok r) {b : β} (hb : b ∈ r) : ∃ a ∈ l, f a = .ok b := by
  obtain ⟨hlen, hzip⟩ := mapM_eq_ok_zip h
  obtain ⟨i, hi, rfl⟩ := List.getElem_of_mem hb
  have hil : i < l.length := hlen ▸ hi
  refine ⟨l[i], List.getElem_mem hil, hzip (l[i], r[i]) ?_⟩
  rw [List.mem_iff_getElem]
  exact ⟨i, by simp [hi, hil], by simp⟩

/-- What every step of a fold keeps holds of its result. -/
theorem foldl_inv {α β : Type} (P : α → Prop) {step : α → β → α} {items : List β} {init : α}
    (preserve : ∀ a x, x ∈ items → P a → P (step a x)) (start : P init) : P (items.foldl step init) := by
  induction items generalizing init with
  | nil => exact start
  | cons x rest ih =>
    exact ih (fun a y hy => preserve a y (List.mem_cons_of_mem _ hy)) (preserve init x List.mem_cons_self start)

/-- What every step of a fold that can fail keeps holds of its result. -/
theorem foldlM_inv {ε α β : Type} (P : α → Prop) {step : α → β → Except ε α} {items : List β}
    {init acc : α} (preserve : ∀ a x a', x ∈ items → P a → step a x = .ok a' → P a')
    (start : P init) (h : items.foldlM step init = .ok acc) : P acc := by
  induction items generalizing init with
  | nil =>
    simp only [List.foldlM_nil, pure_eq_ok] at h
    exact h ▸ start
  | cons x rest ih =>
    simp only [List.foldlM_cons, bind_eq_ok] at h
    obtain ⟨a, hstep, h⟩ := h
    exact ih (fun a y a' hy => preserve a y a' (List.mem_cons_of_mem _ hy))
      (preserve init x a List.mem_cons_self start hstep) h

namespace Checked

theorem add_eq_ok {a b c : UInt64} : add a b = .ok c ↔ a.toNat + b.toNat < wordLimit ∧ a + b = c := by
  unfold add
  split <;> simp_all

theorem toNat_of_add_eq_ok {a b c : UInt64} (h : add a b = .ok c) : c.toNat = a.toNat + b.toNat := by
  obtain ⟨hlt, rfl⟩ := add_eq_ok.mp h
  have hw : wordLimit = 2 ^ 64 := rfl
  rw [UInt64.toNat_add, Nat.mod_eq_of_lt (hw ▸ hlt)]

theorem toNat_of_succ_eq_ok {a b : UInt64} (h : succ a = .ok b) : b.toNat = a.toNat + 1 :=
  toNat_of_add_eq_ok h

theorem lt_of_succ_eq_ok {a b : UInt64} (h : succ a = .ok b) : a < b := by
  rw [UInt64.lt_iff_toNat_lt, toNat_of_succ_eq_ok h]
  omega

theorem reserve_eq_ok {n : Nat} {u : Unit} : reserve n = .ok u ↔ n ≤ maxReserve := by
  unfold reserve
  split <;> simp_all

end Checked

/-! ### Largest words -/

namespace Session

theorem le_maxOver (init : UInt64) (xs : List UInt64) :
    init ≤ maxOver init xs ∧ ∀ x ∈ xs, x ≤ maxOver init xs := by
  induction xs generalizing init with
  | nil => simp [maxOver]
  | cons x xs ih =>
    obtain ⟨h1, h2⟩ := ih (max init x)
    simp only [maxOver, List.foldl_cons, UInt64.le_iff_toNat_le, UInt64.toNat_max] at h1 h2 ⊢
    refine ⟨by omega, ?_⟩
    intro y hy
    rcases List.mem_cons.mp hy with rfl | hy
    · omega
    · exact h2 y hy

/-- The ids after given ones are each one more than an id given, and each id given has its
successor among them. -/
theorem nextIds_eq_ok {ids next : List UInt64} (h : nextIds ids = .ok next) :
    ∀ i ∈ ids, ∃ n ∈ next, i < n := by
  induction ids generalizing next with
  | nil => simp
  | cons i ids ih =>
    simp only [nextIds, List.mapM_cons, bind_eq_ok, pure_eq_ok] at h
    obtain ⟨n, hn, rest, hrest, rfl⟩ := h
    intro j hj
    rcases List.mem_cons.mp hj with rfl | hj
    · exact ⟨n, List.mem_cons_self, Checked.lt_of_succ_eq_ok hn⟩
    · obtain ⟨m, hm, hlt⟩ := ih hrest j hj
      exact ⟨m, List.mem_cons_of_mem _ hm, hlt⟩

end Session

/-! ### Dogs and their bags -/

theorem Bag.reserve_eq_ok {c : UInt64} {b : Bag} :
    Bag.reserve c = .ok b ↔ c.toNat ≤ Checked.maxReserve ∧ Bag.empty c = b := by
  simp only [Bag.reserve, bind_eq_ok, pure_eq_ok, Checked.reserve_eq_ok]
  constructor
  · rintro ⟨_, hc, rfl⟩
    exact ⟨hc, rfl⟩
  · rintro ⟨hc, rfl⟩
    exact ⟨(), hc, rfl⟩

/-- A new dog stands where it appears, with an empty bag whose storage could be reserved. -/
theorem Dog.new_eq_ok {key id : UInt64} {name : String} {p : Vec2} {speed : Double} {c : UInt64}
    {d : Dog} :
    Dog.new key id name p speed c = .ok d ↔
      c.toNat ≤ Checked.maxReserve ∧ d = { key, id, name, position := p, prev := p, speed, bag := Bag.empty c } := by
  simp only [Dog.new, bind_eq_ok, pure_eq_ok, Bag.reserve_eq_ok]
  constructor
  · rintro ⟨_, ⟨hc, rfl⟩, rfl⟩
    exact ⟨hc, rfl⟩
  · rintro ⟨hc, rfl⟩
    exact ⟨_, ⟨hc, rfl⟩, rfl⟩

/-- A bag holds at most its capacity, and storage for the whole capacity can be reserved. -/
def Bag.Fits (b : Bag) : Prop := b.items.length ≤ b.capacity.toNat ∧ b.capacity.toNat ≤ Checked.maxReserve

theorem Bag.fits_empty {c : UInt64} (h : c.toNat ≤ Checked.maxReserve) : (Bag.empty c).Fits :=
  ⟨by simp [Bag.empty], h⟩

namespace Session

/-- The ids of a session's loot: on the map, then in the bags of its dogs in order. -/
def lootIds (s : Session) : List UInt64 :=
  s.loot.map (·.id) ++ s.dogs.flatMap fun d => d.bag.items.map (·.lootId)

/-- What every session of a world keeps. -/
structure Sound (s : Session) : Prop where
  dog_id_lt : ∀ d ∈ s.dogs, d.id < s.nextDogId
  loot_id_lt : ∀ i ∈ s.lootIds, i < s.nextLootId
  rng_ne_zero : s.rng ≠ ⟨0, 0⟩
  bags_fit : ∀ d ∈ s.dogs, d.bag.Fits

theorem sound_new (key : UInt64) (map : Map) (tuning : Tuning) (spawn : SpawnConfig) (seed : UInt64) :
    (Session.new key map tuning spawn seed).Sound where
  dog_id_lt := by simp [Session.new]
  loot_id_lt := by simp [Session.new, lootIds]
  rng_ne_zero := Rng.ofSeed_ne_zero seed
  bags_fit := by simp [Session.new]

/-- Dogs whose bags are among those of a session, in order, with the same loot, hold a
sublist of its loot ids. -/
theorem lootIds_sublist {s s' : Session} (hbag : (s'.dogs.map (·.bag)).Sublist (s.dogs.map (·.bag)))
    (hloot : s'.loot = s.loot) : s'.lootIds.Sublist s.lootIds := by
  have hb := hbag.flatMap fun b => b.items.map (·.lootId)
  simp only [List.flatMap_map] at hb
  unfold lootIds
  rw [hloot]
  exact List.Sublist.append (List.Sublist.refl _) hb

/-- Dogs whose ids and bags are among those of a sound session, in order, with the same loot
and counters, make a sound session. -/
theorem Sound.of_sublist {s s' : Session} (h : s.Sound)
    (hid : (s'.dogs.map (·.id)).Sublist (s.dogs.map (·.id)))
    (hbag : (s'.dogs.map (·.bag)).Sublist (s.dogs.map (·.bag)))
    (hloot : s'.loot = s.loot) (hnd : s'.nextDogId = s.nextDogId) (hnl : s'.nextLootId = s.nextLootId)
    (hr : s'.rng = s.rng) : s'.Sound where
  dog_id_lt := by
    intro d hd
    obtain ⟨e, he, hde⟩ := List.mem_map.mp (hid.subset (List.mem_map_of_mem hd))
    rw [hnd, ← hde]
    exact h.dog_id_lt e he
  loot_id_lt := by
    intro i hi
    rw [hnl]
    exact h.loot_id_lt i ((lootIds_sublist hbag hloot).subset hi)
  rng_ne_zero := hr ▸ h.rng_ne_zero
  bags_fit := by
    intro d hd
    obtain ⟨e, he, hde⟩ := List.mem_map.mp (hbag.subset (List.mem_map_of_mem hd))
    rw [← hde]
    exact h.bags_fit e he

/-! ### Joining -/

theorem spawnPoint_ne_zero {s : Session} (h : s.rng ≠ ⟨0, 0⟩) : s.spawnPoint.2 ≠ ⟨0, 0⟩ := by
  unfold spawnPoint
  split
  · have hr := s.map.randomRoadPoint_ne_zero h
    generalize s.map.randomRoadPoint s.rng = q at hr ⊢
    obtain ⟨o, r⟩ := q
    cases o <;> exact hr
  · exact h

/-- A join appends one new dog, numbered by the dog counter, which moves on by one; only the
generator changes besides. -/
theorem join_eq_ok {s s' : Session} {key : UInt64} {name : String} {d : Dog}
    (h : s.join key name = .ok (s', d)) :
    ∃ n, Checked.succ s.nextDogId = .ok n ∧
      Dog.new key s.nextDogId name s.spawnPoint.1 s.tuning.dogSpeed s.tuning.bagCapacity = .ok d ∧
      s' = { s with rng := s.spawnPoint.2, nextDogId := n, dogs := s.dogs ++ [d] } := by
  unfold join at h
  generalize s.spawnPoint = sp at h ⊢
  obtain ⟨p, r⟩ := sp
  simp only [bind_eq_ok, pure_eq_ok] at h
  obtain ⟨n, hn, d', hd, heq⟩ := h
  simp only [Prod.mk.injEq] at heq
  obtain ⟨rfl, rfl⟩ := heq
  exact ⟨n, hn, hd, rfl⟩

theorem Sound.join {s s' : Session} {key : UInt64} {name : String} {d : Dog} (h : s.Sound)
    (hj : s.join key name = .ok (s', d)) : s'.Sound := by
  obtain ⟨n, hn, hd, rfl⟩ := join_eq_ok hj
  obtain ⟨hcap, rfl⟩ := Dog.new_eq_ok.mp hd
  have hlt := Checked.lt_of_succ_eq_ok hn
  refine ⟨?_, ?_, spawnPoint_ne_zero h.rng_ne_zero, ?_⟩
  · intro e he
    rcases List.mem_append.mp he with he | he
    · exact UInt64.lt_trans (h.dog_id_lt e he) hlt
    · rw [List.mem_singleton.mp he]
      exact hlt
  · intro i hi
    apply h.loot_id_lt i
    simpa [lootIds, Bag.empty] using hi
  · intro e he
    rcases List.mem_append.mp he with he | he
    · exact h.bags_fit e he
    · rw [List.mem_singleton.mp he]
      exact Bag.fits_empty hcap

/-! ### Steering and placing loot -/

theorem updateFirst_map {α β : Type} (p : α → Bool) (f : α → α) (g : α → β) (hg : ∀ x, g (f x) = g x)
    (l : List α) : (updateFirst p f l).1.map g = l.map g := by
  induction l with
  | nil => rfl
  | cons x xs ih =>
    unfold updateFirst
    split
    · simp [hg]
    · simp [ih]

theorem moveDog_dogs_map {β : Type} (s : Session) (key : UInt64) (c : Command) (g : Dog → β)
    (hg : ∀ d, g (d.command c) = g d) : (s.moveDog key c).1.dogs.map g = s.dogs.map g :=
  updateFirst_map _ _ g hg s.dogs

theorem Sound.moveDog {s : Session} (h : s.Sound) (key : UInt64) (c : Command) :
    (s.moveDog key c).1.Sound := by
  have hid : ∀ d : Dog, (d.command c).id = d.id := fun d => by cases c <;> rfl
  have hbag : ∀ d : Dog, (d.command c).bag = d.bag := fun d => by cases c <;> rfl
  exact h.of_sublist (by rw [moveDog_dogs_map s key c _ hid]) (by rw [moveDog_dogs_map s key c _ hbag])
    rfl rfl rfl rfl

theorem placeLoot_eq_ok {s s' : Session} {kind : UInt64} {p : Vec2} {id : UInt64}
    (h : s.placeLoot kind p = .ok (s', id)) :
    id = s.nextLootId ∧ ∃ n, Checked.succ s.nextLootId = .ok n ∧
      s' = { s with nextLootId := n, loot := s.loot ++ [⟨s.nextLootId, kind, p⟩] } := by
  simp only [placeLoot, bind_eq_ok, pure_eq_ok, Prod.mk.injEq] at h
  obtain ⟨n, hn, rfl, rfl⟩ := h
  exact ⟨rfl, n, hn, rfl⟩

theorem Sound.placeLoot {s s' : Session} {kind : UInt64} {p : Vec2} {id : UInt64} (h : s.Sound)
    (hp : s.placeLoot kind p = .ok (s', id)) : s'.Sound := by
  obtain ⟨-, n, hn, rfl⟩ := placeLoot_eq_ok hp
  have hlt := Checked.lt_of_succ_eq_ok hn
  refine ⟨h.dog_id_lt, ?_, h.rng_ne_zero, h.bags_fit⟩
  intro i hi
  simp only [lootIds, List.map_append, List.map_cons, List.map_nil, List.mem_append,
    List.mem_singleton] at hi
  rcases hi with (hi | rfl) | hi
  · exact UInt64.lt_trans (h.loot_id_lt i (List.mem_append_left _ hi)) hlt
  · exact hlt
  · exact UInt64.lt_trans (h.loot_id_lt i (List.mem_append_right _ hi)) hlt

/-! ### Sessions from saved parts -/

/-- A session rebuilt from parts holds exactly those parts, with counters raised past every
id in use and the saved generator state (the zero state replaced). -/
theorem ofParts_eq_ok {key : UInt64} {map : Map} {tuning : Tuning} {spawn : SpawnConfig}
    {counters : Counters} {dogs : List Dog} {loot : List LootItem} {s : Session}
    (h : ofParts key map tuning spawn counters dogs loot = .ok s) :
    ∃ dogIds lootIds, nextIds (dogs.map (·.id)) = .ok dogIds ∧
      nextIds (loot.map (·.id) ++ dogs.flatMap fun d => d.bag.items.map (·.lootId)) = .ok lootIds ∧
      s = { key, map, dogs, loot, tuning, nextDogId := maxOver counters.nextDogId dogIds,
            nextLootId := maxOver counters.nextLootId lootIds,
            rng := Rng.ofState counters.rngState.1 counters.rngState.2, spawner := Spawner.new spawn } := by
  simp only [ofParts, bind_eq_ok, pure_eq_ok] at h
  obtain ⟨dogIds, hd, lootIds, hl, rfl⟩ := h
  exact ⟨dogIds, lootIds, hd, hl, rfl⟩

theorem sound_ofParts {key : UInt64} {map : Map} {tuning : Tuning} {spawn : SpawnConfig}
    {counters : Counters} {dogs : List Dog} {loot : List LootItem} {s : Session}
    (h : ofParts key map tuning spawn counters dogs loot = .ok s) (hfit : ∀ d ∈ dogs, d.bag.Fits) :
    s.Sound := by
  obtain ⟨dogIds, lootIds', hd, hl, rfl⟩ := ofParts_eq_ok h
  refine ⟨?_, ?_, Rng.ofState_ne_zero _ _, hfit⟩
  · intro d hdm
    obtain ⟨n, hn, hlt⟩ := nextIds_eq_ok hd d.id (List.mem_map_of_mem hdm)
    exact UInt64.lt_of_lt_of_le hlt ((le_maxOver _ _).2 n hn)
  · intro i hi
    obtain ⟨n, hn, hlt⟩ := nextIds_eq_ok hl i hi
    exact UInt64.lt_of_lt_of_le hlt ((le_maxOver _ _).2 n hn)

end Session

end RoadFetch
