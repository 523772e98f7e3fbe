import RoadFetch.Proofs.Session.Counters
import RoadFetch.Session.Tick
import Mathlib

/-! # What a tick keeps

A tick runs four phases, and each changes a session in a way of its own. Spawning only adds
loot, with fresh ids in increasing order, and moves the generator on. Running changes only
where the dogs are, how they move and how long they have played. Gathering changes only the
bags and scores of the dogs and takes loot off the map, and every id it moves into a bag was
on the map: the ids held in the session form a sub-multiset of those held before. Retiring
drops dogs, keeping the others in order, and reports every dog it drops. So a tick keeps a
session sound, keeps its key and map, and every dog either stays or is reported retired.
-/

namespace RoadFetch.Session

/-! ### Spawning -/

/-- `s'` is `s` with loot placed: the loot grows by pieces with fresh ids in increasing order,
the loot counter moves past them, and the generator moves on, staying off the zero state;
nothing else changes. -/
structure LootPlaced (s s' : Session) : Prop where
  frame : s' = { s with loot := s'.loot, nextLootId := s'.nextLootId, rng := s'.rng }
  next_le : s.nextLootId ≤ s'.nextLootId
  rng_ne_zero : s.rng ≠ ⟨0, 0⟩ → s'.rng ≠ ⟨0, 0⟩
  fresh : ∃ new, s'.loot = s.loot ++ new ∧ new.Pairwise (fun a b => a.id < b.id) ∧
    ∀ l ∈ new, s.nextLootId ≤ l.id ∧ l.id < s'.nextLootId

namespace LootPlaced

theorem refl (s : Session) : LootPlaced s s :=
  ⟨rfl, UInt64.le_refl _, id, ⟨[], by simp, List.Pairwise.nil, by simp⟩⟩

theorem trans {s₁ s₂ s₃ : Session} (h₁ : LootPlaced s₁ s₂) (h₂ : LootPlaced s₂ s₃) : LootPlaced s₁ s₃ := by
  obtain ⟨new₁, hl₁, hp₁, hb₁⟩ := h₁.fresh
  obtain ⟨new₂, hl₂, hp₂, hb₂⟩ := h₂.fresh
  refine ⟨?_, UInt64.le_trans h₁.next_le h₂.next_le, fun h => h₂.rng_ne_zero (h₁.rng_ne_zero h), ?_⟩
  · rw [h₂.frame, h₁.frame]
  · refine ⟨new₁ ++ new₂, by rw [hl₂, hl₁, List.append_assoc], ?_, ?_⟩
    · refine List.pairwise_append.mpr ⟨hp₁, hp₂, ?_⟩
      intro a ha b hb
      exact UInt64.lt_of_lt_of_le (hb₁ a ha).2 (hb₂ b hb).1
    · intro l hl
      rcases List.mem_append.mp hl with hl | hl
      · exact ⟨(hb₁ l hl).1, UInt64.lt_of_lt_of_le (hb₁ l hl).2 h₂.next_le⟩
      · exact ⟨UInt64.le_trans h₁.next_le (hb₂ l hl).1, (hb₂ l hl).2⟩

variable {s s' : Session}

theorem dogs (h : LootPlaced s s') : s'.dogs = s.dogs := by rw [h.frame]
theorem key (h : LootPlaced s s') : s'.key = s.key := by rw [h.frame]
theorem map (h : LootPlaced s s') : s'.map = s.map := by rw [h.frame]
theorem tuning (h : LootPlaced s s') : s'.tuning = s.tuning := by rw [h.frame]
theorem nextDogId (h : LootPlaced s s') : s'.nextDogId = s.nextDogId := by rw [h.frame]

theorem placeLoot {r : Rng} {kind : UInt64} {p : Vec2} {id : UInt64}
    (hr : s.rng ≠ ⟨0, 0⟩ → r ≠ ⟨0, 0⟩) (h : { s with rng := r }.placeLoot kind p = .ok (s', id)) :
    LootPlaced s s' := by
  obtain ⟨-, n, hn, rfl⟩ := placeLoot_eq_ok h
  have hlt := Checked.lt_of_succ_eq_ok hn
  refine ⟨rfl, UInt64.le_of_lt hlt, hr, ⟨[⟨s.nextLootId, kind, p⟩], rfl, List.pairwise_singleton _ _, ?_⟩⟩
  intro l hl
  rw [List.mem_singleton.mp hl]
  exact ⟨UInt64.le_refl _, hlt⟩

theorem sound (h : LootPlaced s s') (hs : s.Sound) : s'.Sound := by
  obtain ⟨new, hl, -, hb⟩ := h.fresh
  refine ⟨?_, ?_, h.rng_ne_zero hs.rng_ne_zero, ?_⟩
  · rw [h.dogs, h.nextDogId]
    exact hs.dog_id_lt
  · intro i hi
    simp only [lootIds, hl, h.dogs, List.map_append, List.mem_append] at hi
    rcases hi with (hi | hi) | hi
    · exact UInt64.lt_of_lt_of_le (hs.loot_id_lt i (List.mem_append_left _ hi)) h.next_le
    · obtain ⟨l, hlm, rfl⟩ := List.mem_map.mp hi
      exact (hb l hlm).2
    · exact UInt64.lt_of_lt_of_le (hs.loot_id_lt i (List.mem_append_right _ hi)) h.next_le
  · rw [h.dogs]
    exact hs.bags_fit

end LootPlaced

theorem spawnLoop_placed (n : Nat) (s : Session) (acc : List Event) {s' : Session} {acc' : List Event}
    (h : spawnLoop n s acc = .ok (s', acc')) : LootPlaced s s' := by
  induction n generalizing s acc with
  | zero =>
    simp only [spawnLoop, pure_eq_ok, Prod.mk.injEq] at h
    rw [← h.1]
    exact LootPlaced.refl s
  | succ n ih =>
    have hr : s.rng ≠ ⟨0, 0⟩ → (s.map.randomRoadPoint s.rng).2 ≠ ⟨0, 0⟩ := s.map.randomRoadPoint_ne_zero
    simp only [spawnLoop] at h
    generalize s.map.randomRoadPoint s.rng = q at h hr
    obtain ⟨o, r⟩ := q
    cases o with
    | none =>
      simp only [pure_eq_ok, Prod.mk.injEq] at h
      rw [← h.1]
      exact ⟨rfl, UInt64.le_refl _, hr, ⟨[], by simp, List.Pairwise.nil, by simp⟩⟩
    | some p =>
      simp only [bind_eq_ok] at h
      obtain ⟨⟨s₁, id⟩, hp, hrest⟩ := h
      exact (LootPlaced.placeLoot (fun h0 => Rng.nextIndex_ne_zero (hr h0) _) hp).trans (ih s₁ _ hrest)

theorem spawnPhase_placed {s s' : Session} {elapsed : Duration} {events : List Event}
    (h : s.spawnPhase elapsed = .ok (s', events)) :
    LootPlaced { s with spawner := (s.spawner.generate elapsed s.loot.length s.dogs.length).2 } s' := by
  unfold spawnPhase at h
  generalize s.spawner.generate elapsed s.loot.length s.dogs.length = cs at h ⊢
  obtain ⟨count, spawner⟩ := cs
  simp only at h ⊢
  split at h
  · simp only [pure_eq_ok, Prod.mk.injEq] at h
    rw [← h.1]
    exact LootPlaced.refl _
  · exact spawnLoop_placed count _ [] h

/-! ### Running -/

/-- A run changes where a dog is and was, how it moves, and how long it has idled and played;
nothing else. -/
theorem runDog_frame (grid : RoadGrid) (seconds : Double) (elapsed : Duration) (d : Dog) :
    ∃ p q v i t, (runDog grid seconds elapsed d).1 =
      { d with position := p, prev := q, velocity := v, idle := i, playTime := t } := by
  unfold runDog Dog.finishMove
  split
  · exact ⟨_, _, _, _, _, rfl⟩
  · dsimp only
    split
    · exact ⟨_, _, _, _, _, rfl⟩
    · exact ⟨_, _, _, _, _, rfl⟩

/-- The dogs after the running phase, each run once, in order. -/
def ran (s : Session) (elapsed : Duration) : List Dog :=
  s.dogs.map fun d => (runDog s.map.grid (Double.ofFloat elapsed.toSecsFloat) elapsed d).1

theorem movePhase_fst (s : Session) (elapsed : Duration) :
    (s.movePhase elapsed).1 = { s with dogs := s.ran elapsed } := by
  simp [movePhase, ran]

theorem movePhase_stopped_length (s : Session) (elapsed : Duration) :
    (s.movePhase elapsed).2.2.length = s.dogs.length := by
  simp [movePhase]

theorem ran_map {β : Type} (s : Session) (elapsed : Duration) (g : Dog → β)
    (hg : ∀ d p q v i t, g { d with position := p, prev := q, velocity := v, idle := i, playTime := t } = g d) :
    (s.ran elapsed).map g = s.dogs.map g := by
  unfold ran
  rw [List.map_map]
  apply List.map_congr_left
  intro d _
  obtain ⟨p, q, v, i, t, hd⟩ := runDog_frame s.map.grid (Double.ofFloat elapsed.toSecsFloat) elapsed d
  simp only [Function.comp_apply, hd, hg]

theorem Sound.movePhase {s : Session} (h : s.Sound) (elapsed : Duration) :
    (s.movePhase elapsed).1.Sound := by
  rw [movePhase_fst]
  exact h.of_sublist (by rw [ran_map s elapsed _ fun _ _ _ _ _ _ => rfl])
    (by rw [ran_map s elapsed _ fun _ _ _ _ _ _ => rfl]) rfl rfl rfl rfl

/-! ### Gathering -/

end Session

/-- A dog without its load and score: what gathering never changes. -/
def Dog.bare (d : Dog) : Dog := { d with bag := Bag.empty d.bag.capacity, score := 0 }

@[simp] theorem Dog.bare_id (d : Dog) : d.bare.id = d.id := rfl

@[simp] theorem Dog.bare_capacity (d : Dog) : d.bare.bag.capacity = d.bag.capacity := rfl

theorem Bag.push_eq_true {b : Bag} {x : BagItem} (h : (b.push x).2 = true) :
    (b.push x).1 = { b with items := b.items ++ [x] } ∧ b.items.length < b.capacity.toNat := by
  unfold Bag.push Bag.isFull at h ⊢
  by_cases hf : b.items.length ≥ b.capacity.toNat
  · simp [hf] at h
  · simp only [hf, decide_false, Bool.false_eq_true, if_false, true_and]
    exact Nat.lt_of_not_le hf

namespace Session

/-- The gathering after a dog, numbered `k`, takes the piece of loot `l`, numbered `i`. -/
def Gathering.pickUp (g : Gathering) (k : Nat) (dog : Dog) (i : Nat) (l : LootItem) : Gathering :=
  ⟨g.dogs.set k { dog with bag := { dog.bag with items := dog.bag.items ++ [⟨l.id, l.kind⟩] } },
    g.taken.set i true, g.events ++ [.lootPickedUp dog.key l.id l.kind]⟩

/-- What one contact can do, and when: nothing; hand a dog's nonempty bag in at an office for
points that fit a word; put a piece of loot still on the map into the bag of a dog with room; or
refuse it to a dog with a full bag. -/
theorem resolve_eq_ok_cases {m : Map} {loot : List LootItem} {g g' : Gathering} {e : GatherEvent}
    (h : resolve m loot g e = .ok g') :
    g' = g ∨
    (∃ dog office points score, g.dogs[e.gatherer]? = some dog ∧ m.offices[e.item]? = some office ∧
      dog.bag.items ≠ [] ∧ bagPoints m dog.bag.items = .ok points ∧ Checked.add dog.score points = .ok score ∧
      g' = { g with dogs := g.dogs.set e.gatherer { dog with bag := dog.bag.take.2, score },
                    events := g.events ++ [.bagDeposited dog.key office.id dog.bag.items.length points score] }) ∨
    (∃ dog l, g.dogs[e.gatherer]? = some dog ∧ m.offices.length ≤ e.item ∧
      loot[e.item - m.offices.length]? = some l ∧ g.taken.getD (e.item - m.offices.length) true = false ∧
      dog.bag.isFull = false ∧ g' = g.pickUp e.gatherer dog (e.item - m.offices.length) l) ∨
    (∃ dog l, g.dogs[e.gatherer]? = some dog ∧ m.offices.length ≤ e.item ∧
      loot[e.item - m.offices.length]? = some l ∧ g.taken.getD (e.item - m.offices.length) true = false ∧
      dog.bag.isFull = true ∧ g' = { g with events := g.events ++ [.pickupRefused dog.key l.id] }) := by
  unfold resolve at h
  split at h
  · exact .inl (pure_eq_ok.mp h).symm
  · next dog hdog =>
    split at h
    · next office hoff =>
      -- an office: the bag is handed in unless it is empty
      simp only [Bag.take] at h
      by_cases hempty : dog.bag.items.isEmpty = true
      · simp only [hempty, if_true, pure_eq_ok] at h
        exact .inl h.symm
      · simp only [hempty, Bool.false_eq_true, if_false, bind_eq_ok, pure_eq_ok] at h
        obtain ⟨points, hp, score, hs, rfl⟩ := h
        exact .inr (.inl ⟨dog, office, points, score, hdog, hoff, by simpa using hempty, hp, hs, rfl⟩)
    · next hoff =>
      -- a piece of loot: past the offices
      have hpast : m.offices.length ≤ e.item := List.getElem?_eq_none_iff.mp hoff
      dsimp only at h
      split at h
      · exact .inl (pure_eq_ok.mp h).symm
      · next l hl =>
        split at h
        · exact .inl (pure_eq_ok.mp h).symm
        · next hfree =>
          have hfree' : g.taken.getD (e.item - m.offices.length) true = false := by simpa using hfree
          split at h
          · next bag hpush =>
            have hroom : dog.bag.isFull = false := by
              unfold Bag.push at hpush
              split at hpush
              · simp at hpush
              · next hfull => simpa using hfull
            have hbag : bag = { dog.bag with items := dog.bag.items ++ [⟨l.id, l.kind⟩] } := by
              simp only [Bag.push, hroom, Bool.false_eq_true, if_false, Prod.mk.injEq] at hpush
              exact hpush.1.symm
            simp only [pure_eq_ok] at h
            subst hbag
            exact .inr (.inr (.inl ⟨dog, l, hdog, hpast, hl, hfree', hroom, h.symm⟩))
          · next hpush =>
            have hfull : dog.bag.isFull = true := by
              unfold Bag.push at hpush
              split at hpush
              · next hfull => exact hfull
              · simp at hpush
            exact .inr (.inr (.inr ⟨dog, l, hdog, hpast, hl, hfree', hfull, (pure_eq_ok.mp h).symm⟩))

/-- One contact either changes nothing of the dogs and the loot, or a dog hands in its bag at
an office, or a dog with room picks up a piece of loot not yet taken. -/
theorem resolve_cases {m : Map} {loot : List LootItem} {g g' : Gathering} {e : GatherEvent}
    (h : resolve m loot g e = .ok g') :
    (g'.dogs = g.dogs ∧ g'.taken = g.taken) ∨
    (∃ dog score, g.dogs[e.gatherer]? = some dog ∧
      g'.dogs = g.dogs.set e.gatherer { dog with bag := dog.bag.take.2, score } ∧ g'.taken = g.taken) ∨
    (∃ dog l, g.dogs[e.gatherer]? = some dog ∧ loot[e.item - m.offices.length]? = some l ∧
      g.taken.getD (e.item - m.offices.length) true = false ∧ (dog.bag.push ⟨l.id, l.kind⟩).2 = true ∧
      g'.dogs = g.dogs.set e.gatherer { dog with bag := (dog.bag.push ⟨l.id, l.kind⟩).1 } ∧
      g'.taken = g.taken.set (e.item - m.offices.length) true) := by
  rcases resolve_eq_ok_cases h with rfl | ⟨dog, -, -, score, hdog, -, -, -, -, rfl⟩ |
      ⟨dog, l, hdog, -, hl, hfree, hroom, rfl⟩ | ⟨-, -, -, -, -, -, -, rfl⟩
  · exact .inl ⟨rfl, rfl⟩
  · exact .inr (.inl ⟨dog, score, hdog, rfl, rfl⟩)
  · -- the bag had room, so the push went through
    have hpush : dog.bag.push ⟨l.id, l.kind⟩ =
        ({ dog.bag with items := dog.bag.items ++ [⟨l.id, l.kind⟩] }, true) := by
      simp [Bag.push, hroom]
    exact .inr (.inr ⟨dog, l, hdog, hl, hfree, by rw [hpush], by rw [hpush]; rfl, rfl⟩)
  · exact .inl ⟨rfl, rfl⟩

theorem flatMap_set_sublist {α β : Type} (f : α → List β) (l : List α) (k : Nat) {x y : α}
    (hx : l[k]? = some x) (hy : (f y).Sublist (f x)) : ((l.set k y).flatMap f).Sublist (l.flatMap f) := by
  induction l generalizing k with
  | nil => simp at hx
  | cons a l ih =>
    cases k with
    | zero =>
      simp only [List.getElem?_cons_zero, Option.some.injEq] at hx
      subst hx
      simpa using hy.append_right (l.flatMap f)
    | succ k =>
      simpa using (ih k (by simpa using hx)).append_left (f a)

/-- Replacing an item by one that contributes `extra` more grows a `flatMap` by `extra`, up to
order. -/
theorem flatMap_set_perm {α β : Type} (f : α → List β) (l : List α) (k : Nat) {x y : α} (extra : List β)
    (hx : l[k]? = some x) (hy : (f y).Perm (f x ++ extra)) :
    ((l.set k y).flatMap f).Perm (l.flatMap f ++ extra) := by
  induction l generalizing k with
  | nil => simp at hx
  | cons a l ih =>
    cases k with
    | zero =>
      simp only [List.getElem?_cons_zero, Option.some.injEq] at hx
      subst hx
      simp only [List.set_cons_zero, List.flatMap_cons]
      have hswap : ((f a ++ extra) ++ l.flatMap f).Perm (f a ++ l.flatMap f ++ extra) := by
        rw [List.append_assoc, List.append_assoc]
        exact List.perm_append_comm.append_left (f a)
      exact (hy.append_right _).trans hswap
    | succ k =>
      simp only [List.set_cons_succ, List.flatMap_cons, List.append_assoc]
      exact (ih k (by simpa using hx)).append_left (f a)

/-! ### The loot not yet taken -/

/-- The loot not yet taken, as the gathering phase leaves it on the map. -/
def untaken (loot : List LootItem) (taken : List Bool) : List LootItem :=
  ((loot.zip taken).filter fun p => !p.2).map (·.1)

theorem untaken_cons (l : LootItem) (loot : List LootItem) (t : Bool) (taken : List Bool) :
    untaken (l :: loot) (t :: taken) = (if t then [] else [l]) ++ untaken loot taken := by
  cases t <;> simp [untaken]

theorem untaken_none_taken (loot : List LootItem) : untaken loot (loot.map fun _ => false) = loot := by
  induction loot with
  | nil => rfl
  | cons l loot ih =>
    simp only [List.map_cons, untaken_cons, ih, Bool.false_eq_true, ite_false, List.singleton_append]

/-- Taking a piece of loot not yet taken removes exactly that piece. -/
theorem untaken_set_perm (loot : List LootItem) (taken : List Bool) (i : Nat) {l : LootItem}
    (hl : loot[i]? = some l) (ht : taken.getD i true = false) :
    (untaken loot taken).Perm (l :: untaken loot (taken.set i true)) := by
  induction loot generalizing taken i with
  | nil => simp at hl
  | cons a loot ih =>
    cases taken with
    | nil => simp at ht
    | cons t taken =>
      cases i with
      | zero =>
        simp only [List.getElem?_cons_zero, Option.some.injEq] at hl
        simp only [List.getD_cons_zero] at ht
        subst hl
        subst ht
        simp [untaken_cons]
      | succ i =>
        simp only [List.getElem?_cons_succ] at hl
        simp only [List.getD_cons_succ] at ht
        simp only [List.set_cons_succ, untaken_cons]
        cases t
        · simpa using ((ih taken i hl ht).cons a).trans (List.Perm.swap l a _)
        · simpa using ih taken i hl ht

/-! ### Gathering keeps its dogs and its loot -/

theorem bare_set {dogs : List Dog} {k : Nat} {dog dog' : Dog} (hk : dogs[k]? = some dog)
    (hb : dog'.bare = dog.bare) : (dogs.set k dog').map Dog.bare = dogs.map Dog.bare := by
  rw [List.map_set, hb]
  -- the bare dog at `k` is put back in its own place
  have hget : (dogs.map Dog.bare)[k]? = some dog.bare := by simp [hk]
  obtain ⟨hlt, heq⟩ := List.getElem?_eq_some_iff.mp hget
  rw [← heq]
  exact List.set_getElem_self hlt

/-- The ids held while gathering: in the dogs' bags, and of the loot not yet taken. -/
def heldIds (loot : List LootItem) (g : Gathering) : List UInt64 :=
  g.dogs.flatMap (fun d => d.bag.items.map (·.lootId)) ++ (untaken loot g.taken).map (·.id)

/-- What gathering keeps of the dogs and the loot it starts from: the dogs are the same but
for their loads and scores, there is one flag for each piece of loot, bags stay within their
capacity, and no id is held that was not held at the start. -/
structure GatherKeeps (dogs : List Dog) (loot : List LootItem) (g : Gathering) : Prop where
  bare : g.dogs.map Dog.bare = dogs.map Dog.bare
  taken_length : g.taken.length = loot.length
  items_le : ∀ d ∈ g.dogs, d.bag.items.length ≤ d.bag.capacity.toNat
  held : (heldIds loot g).Subperm (heldIds loot ⟨dogs, loot.map fun _ => false, []⟩)

theorem gatherKeeps_init (dogs : List Dog) (loot : List LootItem)
    (h : ∀ d ∈ dogs, d.bag.items.length ≤ d.bag.capacity.toNat) :
    GatherKeeps dogs loot ⟨dogs, loot.map fun _ => false, []⟩ :=
  ⟨rfl, by simp, h, List.Subperm.refl _⟩

theorem GatherKeeps.resolve {dogs : List Dog} {loot : List LootItem} {m : Map} {g g' : Gathering}
    {e : GatherEvent} (hk : GatherKeeps dogs loot g) (h : Session.resolve m loot g e = .ok g') :
    GatherKeeps dogs loot g' := by
  rcases resolve_cases h with ⟨hd, ht⟩ | ⟨dog, score, hdog, hd, ht⟩ | ⟨dog, l, hdog, hl, hfree, hpush, hd, ht⟩
  · -- nothing moved
    have hheld : heldIds loot g' = heldIds loot g := by
      unfold heldIds
      rw [hd, ht]
    exact ⟨hd ▸ hk.bare, ht ▸ hk.taken_length, hd ▸ hk.items_le, hheld ▸ hk.held⟩
  · -- a bag handed in: its ids leave the session
    have hb : (g.dogs.set e.gatherer { dog with bag := dog.bag.take.2, score }).map Dog.bare =
        g.dogs.map Dog.bare := bare_set hdog (by simp [Dog.bare, Bag.take])
    refine ⟨by rw [hd, hb]; exact hk.bare, ht ▸ hk.taken_length, ?_, ?_⟩
    · intro d hdm
      rw [hd] at hdm
      rcases List.mem_or_eq_of_mem_set hdm with hdm | rfl
      · exact hk.items_le d hdm
      · simp [Bag.take]
    · refine List.Subperm.trans ?_ hk.held
      unfold heldIds
      rw [hd, ht]
      refine (List.Sublist.append ?_ (List.Sublist.refl _)).subperm
      exact flatMap_set_sublist _ g.dogs e.gatherer hdog (by simp [Bag.take])
  · -- a piece of loot picked up: its id moves from the map into the bag
    obtain ⟨hbag, hroom⟩ := Bag.push_eq_true hpush
    have hb : (g.dogs.set e.gatherer { dog with bag := (dog.bag.push ⟨l.id, l.kind⟩).1 }).map Dog.bare =
        g.dogs.map Dog.bare := bare_set hdog (by simp [Dog.bare, hbag])
    refine ⟨by rw [hd, hb]; exact hk.bare, by rw [ht, List.length_set]; exact hk.taken_length, ?_, ?_⟩
    · intro d hdm
      rw [hd] at hdm
      rcases List.mem_or_eq_of_mem_set hdm with hdm | rfl
      · exact hk.items_le d hdm
      · simp only [hbag, List.length_append, List.length_singleton]
        omega
    · refine List.Subperm.trans (List.Perm.subperm ?_) hk.held
      unfold heldIds
      rw [hd, ht]
      have hbags : ((g.dogs.set e.gatherer { dog with bag := (dog.bag.push ⟨l.id, l.kind⟩).1 }).flatMap
          fun d => d.bag.items.map (·.lootId)).Perm
          (g.dogs.flatMap (fun d => d.bag.items.map (·.lootId)) ++ [l.id]) :=
        flatMap_set_perm _ g.dogs e.gatherer [l.id] hdog (by simp [hbag])
      have hmap := (untaken_set_perm loot g.taken _ hl hfree).map (·.id)
      rw [List.map_cons] at hmap
      refine (hbags.append_right _).trans ?_
      rw [List.append_assoc, List.singleton_append]
      exact hmap.symm.append_left _

theorem GatherKeeps.foldlM {dogs : List Dog} {loot : List LootItem} {m : Map} (contacts : List GatherEvent)
    {g g' : Gathering} (hk : GatherKeeps dogs loot g)
    (h : contacts.foldlM (Session.resolve m loot) g = .ok g') : GatherKeeps dogs loot g' :=
  foldlM_inv (GatherKeeps dogs loot) (fun _ _ _ _ ha hstep => ha.resolve hstep) hk h

theorem gatherPhase_eq_ok {s s' : Session} {events : List Event} (h : s.gatherPhase = .ok (s', events)) :
    ∃ g, (gatherEvents (s.dogs.map gatherer) s.items).foldlM (resolve s.map s.loot)
        ⟨s.dogs, s.loot.map fun _ => false, []⟩ = .ok g ∧
      s' = { s with dogs := g.dogs, loot := untaken s.loot g.taken } ∧ events = g.events := by
  simp only [gatherPhase, bind_eq_ok, pure_eq_ok, Prod.mk.injEq] at h
  obtain ⟨g, hg, rfl, rfl⟩ := h
  exact ⟨g, hg, rfl, rfl⟩

theorem mem_of_bare {l l' : List Dog} (h : l'.map Dog.bare = l.map Dog.bare) {d : Dog} (hd : d ∈ l') :
    ∃ e ∈ l, e.bare = d.bare :=
  List.mem_map.mp (h ▸ List.mem_map_of_mem hd)

/-- Gathering changes only dogs' loads and scores and the loot on the map; bags stay within
their capacity, and the ids it leaves in the session were all there before. -/
theorem gatherPhase_keeps {s s' : Session} {events : List Event} (h : s.gatherPhase = .ok (s', events))
    (hfit : ∀ d ∈ s.dogs, d.bag.items.length ≤ d.bag.capacity.toNat) :
    s' = { s with dogs := s'.dogs, loot := s'.loot } ∧ s'.dogs.map Dog.bare = s.dogs.map Dog.bare ∧
      (∀ d ∈ s'.dogs, d.bag.items.length ≤ d.bag.capacity.toNat) ∧ s'.lootIds.Subperm s.lootIds := by
  obtain ⟨g, hg, rfl, -⟩ := gatherPhase_eq_ok h
  have hk := (gatherKeeps_init s.dogs s.loot hfit).foldlM _ hg
  refine ⟨rfl, hk.bare, hk.items_le, ?_⟩
  have hstart : heldIds s.loot ⟨s.dogs, s.loot.map fun _ => false, []⟩ =
      s.dogs.flatMap (fun d => d.bag.items.map (·.lootId)) ++ s.loot.map (·.id) := by
    simp only [heldIds, untaken_none_taken]
  have hheld := hk.held
  rw [hstart] at hheld
  exact (List.perm_append_comm.subperm.trans hheld).trans List.perm_append_comm.subperm

theorem Sound.gatherPhase {s s' : Session} {events : List Event} (hs : s.Sound)
    (h : s.gatherPhase = .ok (s', events)) : s'.Sound := by
  obtain ⟨hframe, hbare, hitems, hids⟩ := gatherPhase_keeps h fun d hd => (hs.bags_fit d hd).1
  refine ⟨?_, ?_, ?_, ?_⟩
  · intro d hd
    obtain ⟨e, he, hed⟩ := mem_of_bare hbare hd
    have hid : e.bare.id = d.bare.id := congrArg Dog.id hed
    rw [Dog.bare_id, Dog.bare_id] at hid
    rw [hframe, ← hid]
    exact hs.dog_id_lt e he
  · intro i hi
    rw [hframe]
    exact hs.loot_id_lt i (hids.subset hi)
  · rw [hframe]
    exact hs.rng_ne_zero
  · intro d hd
    obtain ⟨e, he, hed⟩ := mem_of_bare hbare hd
    have hcap : e.bare.bag.capacity = d.bare.bag.capacity := congrArg (fun d => d.bag.capacity) hed
    rw [Dog.bare_capacity, Dog.bare_capacity] at hcap
    exact ⟨hitems d hd, hcap ▸ (hs.bags_fit e he).2⟩

/-! ### Retiring -/

/-- At the end of a tick a dog either stays, with only its idle time changed, or leaves,
reported under its key. -/
theorem idleDog_cases (after elapsed : Duration) (d : Dog) (now : Bool) :
    (∃ i, idleDog after elapsed d now = (some { d with idle := i }, none)) ∨
      ∃ r, idleDog after elapsed d now = (none, some (.dogRetired r)) ∧ r.dog = d.key := by
  unfold idleDog
  split
  · exact .inl ⟨d.idle, rfl⟩
  · dsimp only
    split
    · exact .inr ⟨_, rfl, rfl⟩
    · exact .inl ⟨_, rfl⟩

section Retire

variable (after elapsed : Duration)

/-- The dogs that stay, and the events, of the dogs paired with whether they stopped this tick. -/
theorem retire_map_sublist {β : Type} (g : Dog → β) (hg : ∀ d i, g { d with idle := i } = g d)
    (dogs : List Dog) (now : List Bool) :
    ((((dogs.zip now).map fun (d, now) => idleDog after elapsed d now).filterMap (·.1)).map g).Sublist
      (dogs.map g) := by
  induction dogs generalizing now with
  | nil => simp
  | cons d dogs ih =>
    cases now with
    | nil => simp
    | cons b now =>
      rcases idleDog_cases after elapsed d b with ⟨i, hi⟩ | ⟨r, hr, -⟩
      · simpa [hi, hg] using ih now
      · simpa [hr] using (ih now).cons (g d)

theorem retire_kept_or_retired (dogs : List Dog) (now : List Bool) (hlen : now.length = dogs.length) :
    ∀ d ∈ dogs,
      let outcomes := (dogs.zip now).map fun (d, now) => idleDog after elapsed d now
      d.key ∈ (outcomes.filterMap (·.1)).map (·.key) ∨
        d.key ∈ (retirements (outcomes.filterMap (·.2))).map (·.dog) := by
  induction dogs generalizing now with
  | nil => simp
  | cons d dogs ih =>
    cases now with
    | nil => simp at hlen
    | cons b now =>
      intro e he
      have ih' := ih now (by simpa using hlen)
      rcases idleDog_cases after elapsed d b with ⟨i, hi⟩ | ⟨r, hr, hrd⟩
      · simp only [List.zip_cons_cons, List.map_cons, List.filterMap_cons, hi]
        rcases List.mem_cons.mp he with rfl | he
        · exact .inl List.mem_cons_self
        · rcases ih' e he with h | h
          · exact .inl (List.mem_cons_of_mem _ h)
          · exact .inr h
      · simp only [List.zip_cons_cons, List.map_cons, List.filterMap_cons, hr, retirements,
          Event.retirement?, List.map_cons]
        rcases List.mem_cons.mp he with rfl | he
        · exact .inr (hrd ▸ List.mem_cons_self)
        · rcases ih' e he with h | h
          · exact .inl h
          · exact .inr (List.mem_cons_of_mem _ h)

end Retire

theorem retirePhase_map_sublist {β : Type} (g : Dog → β) (hg : ∀ d i, g { d with idle := i } = g d)
    (s : Session) (elapsed : Duration) (now : List Bool) :
    ((s.retirePhase elapsed now).1.dogs.map g).Sublist (s.dogs.map g) :=
  retire_map_sublist _ elapsed g hg s.dogs now

theorem retirePhase_fst (s : Session) (elapsed : Duration) (now : List Bool) :
    (s.retirePhase elapsed now).1 = { s with dogs := (s.retirePhase elapsed now).1.dogs } := rfl

theorem Sound.retirePhase {s : Session} (h : s.Sound) (elapsed : Duration) (now : List Bool) :
    (s.retirePhase elapsed now).1.Sound :=
  h.of_sublist (retirePhase_map_sublist _ (fun _ _ => rfl) s elapsed now)
    (retirePhase_map_sublist _ (fun _ _ => rfl) s elapsed now) rfl rfl rfl rfl

/-- Every dog a retiring phase drops is reported, when every dog comes with its stop flag. -/
theorem retirePhase_kept_or_retired (s : Session) (elapsed : Duration) (now : List Bool)
    (hlen : now.length = s.dogs.length) : ∀ d ∈ s.dogs,
      d.key ∈ (s.retirePhase elapsed now).1.dogs.map (·.key) ∨
        d.key ∈ (retirements (s.retirePhase elapsed now).2).map (·.dog) :=
  retire_kept_or_retired _ elapsed s.dogs now hlen

/-! ### The whole tick -/

theorem Sound.setSpawner {s : Session} (h : s.Sound) (spawner : Spawner) : { s with spawner }.Sound :=
  ⟨h.dog_id_lt, h.loot_id_lt, h.rng_ne_zero, h.bags_fit⟩

/-- What a tick keeps of a session `s` in the session `s'` it returns with `events`. -/
structure Ticked (s s' : Session) (events : List Event) : Prop where
  key : s'.key = s.key
  map : s'.map = s.map
  sound : s'.Sound
  keys : (s'.dogs.map (·.key)).Sublist (s.dogs.map (·.key))
  ids : (s'.dogs.map (·.id)).Sublist (s.dogs.map (·.id))
  kept_or_retired : ∀ d ∈ s.dogs, d.key ∈ s'.dogs.map (·.key) ∨ d.key ∈ (retirements events).map (·.dog)
  lootIds_nodup : s.lootIds.Nodup → s'.lootIds.Nodup

theorem tick_eq_ok {s s' : Session} {elapsed : Duration} {events : List Event}
    (h : s.tick elapsed = .ok (s', events)) :
    ∃ s₁ spawned s₃ gathered, s.spawnPhase elapsed = .ok (s₁, spawned) ∧
      (s₁.movePhase elapsed).1.gatherPhase = .ok (s₃, gathered) ∧
      s' = (s₃.retirePhase elapsed (s₁.movePhase elapsed).2.2).1 ∧
      events = spawned ++ (s₁.movePhase elapsed).2.1 ++ gathered ++
        (s₃.retirePhase elapsed (s₁.movePhase elapsed).2.2).2 := by
  simp only [tick, bind_eq_ok, pure_eq_ok, Prod.mk.injEq] at h
  obtain ⟨⟨s₁, spawned⟩, h1, ⟨s₃, gathered⟩, h3, rfl, rfl⟩ := h
  exact ⟨s₁, spawned, s₃, gathered, h1, h3, rfl, rfl⟩

theorem map_eq_of_bare {l l' : List Dog} (h : l'.map Dog.bare = l.map Dog.bare) {β : Type} (g : Dog → β)
    (hg : ∀ d, g d.bare = g d) : l'.map g = l.map g := by
  have hl := congrArg (List.map g) h
  simpa [List.map_map, Function.comp_def, hg] using hl

theorem LootPlaced.lootIds_nodup {s s' : Session} (h : LootPlaced s s') (hs : s.Sound)
    (hn : s.lootIds.Nodup) : s'.lootIds.Nodup := by
  obtain ⟨new, hl, hp, hb⟩ := h.fresh
  have hperm : s'.lootIds.Perm (new.map (·.id) ++ s.lootIds) := by
    simp only [lootIds, hl, h.dogs, List.map_append, List.append_assoc]
    exact List.perm_append_comm_assoc _ _ _
  rw [hperm.nodup_iff, List.nodup_append]
  refine ⟨List.pairwise_map.mpr (hp.imp UInt64.ne_of_lt), hn, ?_⟩
  intro a ha b hb' hab
  obtain ⟨l, hlm, rfl⟩ := List.mem_map.mp ha
  have hlt := hs.loot_id_lt b hb'
  rw [← hab] at hlt
  exact absurd (hb l hlm).1 (UInt64.not_le.mpr hlt)

/-- A tick of a sound session keeps its key and map and keeps it sound; its dogs are some of
the dogs before, in order, and every dog it drops is reported retired. -/
theorem Sound.ticked {s s' : Session} {elapsed : Duration} {events : List Event} (hs : s.Sound)
    (h : s.tick elapsed = .ok (s', events)) : Ticked s s' events := by
  obtain ⟨s₁, spawned, s₃, gathered, h1, h3, rfl, rfl⟩ := tick_eq_ok h
  have hp := spawnPhase_placed h1
  have hs₁ : s₁.Sound := hp.sound (hs.setSpawner _)
  have hs₂ := hs₁.movePhase elapsed
  obtain ⟨hframe, hbare, -, hids⟩ := gatherPhase_keeps h3 fun d hd => (hs₂.bags_fit d hd).1
  have hs₃ := hs₂.gatherPhase h3
  -- the views a tick keeps up to the retiring phase: they survive a run and a change of load
  have hview : ∀ {β : Type} (g : Dog → β), (∀ d p q v i t,
      g { d with position := p, prev := q, velocity := v, idle := i, playTime := t } = g d) →
      (∀ d, g d.bare = g d) → s₃.dogs.map g = s.dogs.map g := by
    intro β g hrun hb
    rw [map_eq_of_bare hbare g hb, movePhase_fst, ran_map s₁ elapsed g hrun, hp.dogs]
  have hkeys := hview (·.key) (fun _ _ _ _ _ _ => rfl) fun _ => rfl
  have hlen : (s₁.movePhase elapsed).2.2.length = s₃.dogs.length := by
    have hl := congrArg List.length hkeys
    rw [List.length_map, List.length_map] at hl
    rw [movePhase_stopped_length, hl, hp.dogs]
  refine ⟨?_, ?_, hs₃.retirePhase elapsed _, ?_, ?_, ?_, ?_⟩
  · rw [retirePhase_fst, hframe, movePhase_fst, hp.key]
  · rw [retirePhase_fst, hframe, movePhase_fst, hp.map]
  · exact hkeys ▸ retirePhase_map_sublist _ (fun _ _ => rfl) s₃ elapsed _
  · exact hview (·.id) (fun _ _ _ _ _ _ => rfl) (fun _ => rfl) ▸
      retirePhase_map_sublist _ (fun _ _ => rfl) s₃ elapsed _
  · intro d hd
    have hk : d.key ∈ s.dogs.map (·.key) := List.mem_map_of_mem hd
    rw [← hkeys] at hk
    obtain ⟨e, he, hed⟩ := List.mem_map.mp hk
    rw [← hed]
    rcases retirePhase_kept_or_retired s₃ elapsed _ hlen e he with hk | hr
    · exact .inl hk
    · refine .inr ?_
      simp only [retirements, List.filterMap_append, List.map_append] at hr ⊢
      exact List.mem_append_right _ hr
  · intro hn
    have hn₁ := hp.lootIds_nodup (hs.setSpawner _) hn
    have hn₂ : (s₁.movePhase elapsed).1.lootIds.Nodup :=
      hn₁.sublist (lootIds_sublist (by rw [movePhase_fst, ran_map s₁ elapsed _ fun _ _ _ _ _ _ => rfl])
        (by rw [movePhase_fst]))
    obtain ⟨l, hperm, hsub⟩ := hids
    exact (hperm.nodup_iff.mp (hn₂.sublist hsub)).sublist
      (lootIds_sublist (retirePhase_map_sublist _ (fun _ _ => rfl) s₃ elapsed _) rfl)

end RoadFetch.Session
