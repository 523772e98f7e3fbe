import RoadFetch.Proofs.Session.Tick
import Mathlib

/-! # Who a tick retires

Only the last phase of a tick retires dogs: loot appearing, dogs running and dogs gathering
report other events. At the end of the tick a dog that stood still the whole tick and has idled
long enough leaves its session and is reported once, under its key; every other dog stays.
So the dogs of a session before a tick are, up to order, those after it and those it reports
retired (`tick_keys_perm`).
-/

namespace RoadFetch.Session

theorem retirements_append (es es' : List Event) : retirements (es ++ es') = retirements es ++ retirements es' :=
  List.filterMap_append

theorem spawnLoop_retirements (n : Nat) (s : Session) (acc : List Event) {s' : Session} {acc' : List Event}
    (h : spawnLoop n s acc = .ok (s', acc')) : retirements acc' = retirements acc := by
  induction n generalizing s acc with
  | zero =>
    simp only [spawnLoop, pure_eq_ok, Prod.mk.injEq] at h
    rw [← h.2]
  | succ n ih =>
    simp only [spawnLoop] at h
    generalize s.map.randomRoadPoint s.rng = q at h
    obtain ⟨o, r⟩ := q
    cases o with
    | none =>
      simp only [pure_eq_ok, Prod.mk.injEq] at h
      rw [← h.2]
    | some p =>
      simp only [bind_eq_ok] at h
      obtain ⟨⟨s₁, id⟩, -, hrest⟩ := h
      rw [ih s₁ _ hrest, retirements_append]
      simp [retirements, Event.retirement?]

theorem spawnPhase_retirements {s s' : Session} {elapsed : Duration} {events : List Event}
    (h : s.spawnPhase elapsed = .ok (s', events)) : retirements events = [] := by
  unfold spawnPhase at h
  generalize s.spawner.generate elapsed s.loot.length s.dogs.length = cs at h
  obtain ⟨count, spawner⟩ := cs
  simp only at h
  split at h
  · simp only [pure_eq_ok, Prod.mk.injEq] at h
    rw [← h.2]
    rfl
  · exact spawnLoop_retirements count _ [] h

theorem runDog_retirement? (grid : RoadGrid) (seconds : Double) (elapsed : Duration) (d : Dog) :
    ∀ e ∈ (runDog grid seconds elapsed d).2.1, e.retirement? = none := by
  unfold runDog
  split
  · simp
  · dsimp only
    split <;> simp [Event.retirement?]

theorem movePhase_retirements (s : Session) (elapsed : Duration) : retirements (s.movePhase elapsed).2.1 = [] := by
  simp only [movePhase, retirements, List.filterMap_eq_nil_iff]
  intro e he
  obtain ⟨run, hrun, hopt⟩ := List.mem_filterMap.mp he
  obtain ⟨d, -, rfl⟩ := List.mem_map.mp hrun
  exact runDog_retirement? s.map.grid _ elapsed d e hopt

/-- A contact reports a deposit, a pickup or a refusal, never a retirement. -/
theorem resolve_retirements {m : Map} {loot : List LootItem} {g g' : Gathering} {e : GatherEvent}
    (h : resolve m loot g e = .ok g') : retirements g'.events = retirements g.events := by
  rcases resolve_eq_ok_cases h with rfl | ⟨-, -, -, -, -, -, -, -, -, rfl⟩ |
      ⟨-, -, -, -, -, -, -, rfl⟩ | ⟨-, -, -, -, -, -, -, rfl⟩
  · rfl
  all_goals simp [retirements, Event.retirement?, Gathering.pickUp]

theorem gatherPhase_retirements {s s' : Session} {events : List Event} (h : s.gatherPhase = .ok (s', events)) :
    retirements events = [] := by
  obtain ⟨g, hg, -, rfl⟩ := gatherPhase_eq_ok h
  exact foldlM_inv (fun g : Gathering => retirements g.events = []) (fun _ _ _ _ ha hstep =>
    (resolve_retirements hstep).trans ha) rfl hg

section Retire

variable (after elapsed : Duration)

/-- The dogs at the end of a tick, paired with whether they stopped in it: those that stay
and those reported retired are, up to order, the dogs. -/
theorem retire_keys_perm (dogs : List Dog) (now : List Bool) (hlen : now.length = dogs.length) :
    let outcomes := (dogs.zip now).map fun (d, now) => idleDog after elapsed d now
    ((outcomes.filterMap (·.1)).map (·.key) ++ (retirements (outcomes.filterMap (·.2))).map (·.dog)).Perm
      (dogs.map (·.key)) := by
  induction dogs generalizing now with
  | nil => simp [retirements]
  | cons d dogs ih =>
    cases now with
    | nil => simp at hlen
    | cons b now =>
      have ih' := ih now (by simpa using hlen)
      rcases idleDog_cases after elapsed d b with ⟨i, hi⟩ | ⟨r, hr, hrd⟩
      · -- the dog stays, with its key
        simp only [List.zip_cons_cons, List.map_cons, List.filterMap_cons, hi]
        exact ih'.cons d.key
      · -- the dog leaves, reported under its key
        simp only [List.zip_cons_cons, List.map_cons, List.filterMap_cons, hr, retirements,
          Event.retirement?, List.map_cons, hrd]
        exact List.perm_middle.trans (ih'.cons d.key)

end Retire

/-- Up to its last phase a tick keeps the dogs, each under its key, in order. -/
theorem Sound.keys_before_retiring {s s₁ s₃ : Session} {elapsed : Duration} {spawned gathered : List Event}
    (hs : s.Sound) (h1 : s.spawnPhase elapsed = .ok (s₁, spawned))
    (h3 : (s₁.movePhase elapsed).1.gatherPhase = .ok (s₃, gathered)) :
    s₃.dogs.map (·.key) = s.dogs.map (·.key) := by
  have hp := spawnPhase_placed h1
  have hs₂ := (hp.sound (hs.setSpawner _)).movePhase elapsed
  obtain ⟨-, hbare, -, -⟩ := gatherPhase_keeps h3 fun d hd => (hs₂.bags_fit d hd).1
  rw [map_eq_of_bare hbare _ fun _ => rfl, movePhase_fst, ran_map s₁ elapsed _ fun _ _ _ _ _ _ => rfl, hp.dogs]

/-- The dogs before a tick are, up to order, the dogs after it and the dogs it retires. -/
theorem Sound.tick_keys_perm {s s' : Session} {elapsed : Duration} {events : List Event} (hs : s.Sound)
    (h : s.tick elapsed = .ok (s', events)) :
    (s'.dogs.map (·.key) ++ (retirements events).map (·.dog)).Perm (s.dogs.map (·.key)) := by
  obtain ⟨s₁, spawned, s₃, gathered, h1, h3, rfl, rfl⟩ := tick_eq_ok h
  have hkeys := hs.keys_before_retiring h1 h3
  -- only the retiring phase reports retirements
  have hreported : retirements (spawned ++ (s₁.movePhase elapsed).2.1 ++ gathered ++
      (s₃.retirePhase elapsed (s₁.movePhase elapsed).2.2).2) =
      retirements (s₃.retirePhase elapsed (s₁.movePhase elapsed).2.2).2 := by
    rw [retirements_append, retirements_append, retirements_append, spawnPhase_retirements h1,
      movePhase_retirements, gatherPhase_retirements h3, List.nil_append, List.nil_append, List.nil_append]
  have hlen : (s₁.movePhase elapsed).2.2.length = s₃.dogs.length := by
    have hl := congrArg List.length hkeys
    rw [List.length_map, List.length_map] at hl
    rw [movePhase_stopped_length, hl, (spawnPhase_placed h1).dogs]
  rw [hreported, ← hkeys]
  exact retire_keys_perm _ elapsed s₃.dogs _ hlen

end RoadFetch.Session
