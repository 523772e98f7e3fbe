import RoadFetch.Session.Tick
import Mathlib

/-! # What a tick never reads

A dog keeps the point it last started from, which the gathering phase sweeps from. A tick
moves every dog before it gathers, and moving sets that point anew, so no tick reads the one a
dog had before it. Joining, steering and placing loot do not read it either. So a session
whose dogs all stand at their own last starting point acts, request for request, as the
session it came from, and after its next tick it is that session's result exactly.
-/

namespace RoadFetch

/-- The dog as one that has not moved since it last started. -/
@[simps]
def Dog.standing (d : Dog) : Dog := { d with prev := d.position }

theorem Dog.command_standing (d : Dog) (c : Command) : d.standing.command c = (d.command c).standing := by
  cases c <;> rfl

namespace Session

/-- Every dog of the session as one that has not moved since it last started. -/
@[simps]
def standing (s : Session) : Session := { s with dogs := s.dogs.map Dog.standing }

theorem standing_with_rng (s : Session) (r : Rng) : { s.standing with rng := r } = { s with rng := r }.standing :=
  rfl

theorem standing_with_spawner (s : Session) (sp : Spawner) :
    { s.standing with spawner := sp } = { s with spawner := sp }.standing :=
  rfl

theorem runDog_standing (grid : RoadGrid) (seconds : Double) (elapsed : Duration) (d : Dog) :
    runDog grid seconds elapsed d.standing = runDog grid seconds elapsed d :=
  rfl

/-! ### Each request passes the previous points through -/

theorem placeLoot_standing (s : Session) (kind : UInt64) (p : Vec2) :
    s.standing.placeLoot kind p = (s.placeLoot kind p).map (Prod.map standing id) := by
  simp only [placeLoot, standing]
  cases Checked.succ s.nextLootId <;> rfl

theorem join_standing (s : Session) (key : UInt64) (name : String) :
    s.standing.join key name = (s.join key name).map (Prod.map standing id) := by
  have hpoint : s.standing.spawnPoint = s.spawnPoint := rfl
  simp only [join, Dog.new, hpoint, standing_nextDogId, standing_tuning]
  cases Checked.succ s.nextDogId with
  | error f => rfl
  | ok n =>
    cases Bag.reserve s.tuning.bagCapacity with
    | error f => rfl
    | ok bag =>
      -- the new dog stands where it appears
      simp only [bind, Except.bind, pure, Except.pure, Except.map, Prod.map, id, standing, List.map_append,
        List.map_singleton]
      rfl

theorem updateFirst_map_comm {α : Type} (p : α → Bool) (f g : α → α) (hp : ∀ x, p (g x) = p x)
    (hf : ∀ x, f (g x) = g (f x)) (l : List α) :
    updateFirst p f (l.map g) = ((updateFirst p f l).1.map g, (updateFirst p f l).2) := by
  induction l with
  | nil => rfl
  | cons x xs ih =>
    simp only [List.map_cons, updateFirst, hp]
    split
    · rw [hf]
      rfl
    · rw [ih]
      rfl

theorem moveDog_standing (s : Session) (key : UInt64) (c : Command) :
    s.standing.moveDog key c = ((s.moveDog key c).1.standing, (s.moveDog key c).2) := by
  simp only [moveDog, standing_dogs]
  rw [updateFirst_map_comm _ _ Dog.standing (fun _ => rfl) (fun d => d.command_standing c)]
  rfl

/-! ### A tick -/

theorem spawnLoop_standing (n : Nat) (s : Session) (acc : List Event) :
    spawnLoop n s.standing acc = (spawnLoop n s acc).map (Prod.map standing id) := by
  induction n generalizing s acc with
  | zero => rfl
  | succ n ih =>
    -- the session with its new generator state is rewritten first, before its fields are
    simp only [spawnLoop, standing_with_rng]
    simp only [standing_map, standing_rng]
    rcases s.map.randomRoadPoint s.rng with ⟨_ | p, rng⟩
    · rfl
    · simp only [placeLoot_standing]
      cases placeLoot { s with rng := (rng.nextIndex s.map.lootKinds.length).2 } _ p with
      | error f => rfl
      | ok q => exact ih q.1 _

theorem spawnPhase_standing (s : Session) (elapsed : Duration) :
    s.standing.spawnPhase elapsed = (s.spawnPhase elapsed).map (Prod.map standing id) := by
  have hlen : s.standing.dogs.length = s.dogs.length := List.length_map _
  simp only [spawnPhase, standing_with_spawner]
  simp only [standing_spawner, standing_loot, hlen, standing_map]
  split
  · rfl
  · exact spawnLoop_standing _ _ []

theorem movePhase_standing (s : Session) (elapsed : Duration) : s.standing.movePhase elapsed = s.movePhase elapsed := by
  have hruns : s.standing.dogs.map (runDog s.map.grid (Double.ofFloat elapsed.toSecsFloat) elapsed) =
      s.dogs.map (runDog s.map.grid (Double.ofFloat elapsed.toSecsFloat) elapsed) := by
    rw [standing_dogs, List.map_map]
    exact List.map_congr_left fun d _ => runDog_standing _ _ _ d
  simp only [movePhase, standing_map, hruns]
  rfl

/-- A tick of a session is the tick of the session with every dog standing. -/
theorem tick_standing (s : Session) (elapsed : Duration) : s.standing.tick elapsed = s.tick elapsed := by
  unfold tick
  rw [spawnPhase_standing]
  cases s.spawnPhase elapsed with
  | error f => rfl
  | ok p => simp only [Except.map, Prod.map, id, bind, Except.bind, movePhase_standing]

/-! ### Sessions that differ only in their dogs' previous points -/

section Alike

variable {s₁ s₂ : Session} (h : s₁.standing = s₂.standing)
include h

theorem tick_eq_of_standing (elapsed : Duration) : s₁.tick elapsed = s₂.tick elapsed := by
  rw [← tick_standing s₁, h, tick_standing]

theorem join_eq_of_standing (key : UInt64) (name : String) :
    (s₁.join key name).map (Prod.map standing id) = (s₂.join key name).map (Prod.map standing id) := by
  rw [← join_standing, h, join_standing]

theorem moveDog_eq_of_standing (key : UInt64) (c : Command) :
    (s₁.moveDog key c).1.standing = (s₂.moveDog key c).1.standing ∧ (s₁.moveDog key c).2 = (s₂.moveDog key c).2 := by
  have he := congrArg (fun s => s.moveDog key c) h
  simp only [moveDog_standing, Prod.mk.injEq] at he
  exact he

theorem placeLoot_eq_of_standing (kind : UInt64) (p : Vec2) :
    (s₁.placeLoot kind p).map (Prod.map standing id) = (s₂.placeLoot kind p).map (Prod.map standing id) := by
  rw [← placeLoot_standing, h, placeLoot_standing]

end Alike

end Session

end RoadFetch
