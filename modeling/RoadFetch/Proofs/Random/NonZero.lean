import RoadFetch.Map.Basic
import Mathlib

/-! # The generator stays off the zero state

The xorshift128+ step is a permutation of the states: its second word is a rotation of the
xor of the two words, and once that xor is known the first word is a rotation of the old first
word, masked by it (`unstep`). The all-zero state is one it fixes, where every draw is zero, so
no other state ever steps onto it. Seeding never yields it and restoring a state replaces it:
no generator that a run of seeding, restoring and drawing produces is ever all zero
(`zero_state_unreachable`), every generator a session holds is nonzero, and restoring its saved
state gives it back unchanged.
-/

namespace RoadFetch.Rng

/-- A rotation by `0 < k < 64` is the rotation of the bit vector. -/
theorem rotl_toBitVec (w k : UInt64) (hk : 0 < k.toNat) (hk' : k.toNat < 64) :
    (rotl w k).toBitVec = w.toBitVec.rotateLeft k.toNat := by
  -- `64 - k` wraps in 64 bits, but the shift reads only its residue modulo 64
  have hsub : (18446744073709551616 - k.toNat) % 64 = 64 - k.toNat := by omega
  rw [BitVec.rotateLeft_def, rotl, UInt64.toBitVec_or, UInt64.toBitVec_shiftLeft,
    UInt64.toBitVec_shiftRight]
  simp only [BitVec.shiftLeft_eq', BitVec.ushiftRight_eq']
  simp [BitVec.toNat_umod, hsub, Nat.mod_eq_of_lt hk']

/-- Two rotations that add up to the word length undo each other. -/
theorem rotl_rotl (w a b : UInt64) (ha : 0 < a.toNat) (hb : 0 < b.toNat)
    (hab : a.toNat + b.toNat = 64) : rotl (rotl w a) b = w := by
  apply UInt64.toBitVec_inj.mp
  rw [rotl_toBitVec _ _ hb (by omega), rotl_toBitVec _ _ ha (by omega)]
  ext i hi
  simp only [BitVec.getElem_rotateLeft]
  split <;> split <;> (congr 1; omega)

theorem xor_xor_cancel (a b : UInt64) : a ^^^ b ^^^ b = a := by
  rw [UInt64.xor_assoc, UInt64.xor_self, UInt64.xor_zero]

/-- The step run backwards: rotating the second word back gives the xor of the old words,
which unmasks the rotated first word. -/
def unstep (r : Rng) : Rng :=
  let x := rotl r.s1 27
  let s0 := rotl (r.s0 ^^^ (x ^^^ (x <<< 16))) 40
  ⟨s0, x ^^^ s0⟩

theorem unstep_step (r : Rng) : r.step.unstep = r := by
  obtain ⟨s0, s1⟩ := r
  simp only [step, unstep]
  generalize hsx : s1 ^^^ s0 = x
  have hx : rotl (rotl x 37) 27 = x := rotl_rotl _ _ _ (by decide) (by decide) (by decide)
  have h0 : rotl (rotl s0 24) 40 = s0 := rotl_rotl _ _ _ (by decide) (by decide) (by decide)
  rw [hx, UInt64.xor_assoc (rotl s0 24), xor_xor_cancel, h0, ← hsx, xor_xor_cancel]

theorem step_unstep (r : Rng) : r.unstep.step = r := by
  obtain ⟨s0, s1⟩ := r
  simp only [unstep, step]
  generalize hx : rotl s1 27 = x
  have h1 : rotl x 37 = s1 := hx ▸ rotl_rotl _ _ _ (by decide) (by decide) (by decide)
  have h0 : rotl (rotl (s0 ^^^ (x ^^^ (x <<< 16))) 40) 24 = s0 ^^^ (x ^^^ (x <<< 16)) :=
    rotl_rotl _ _ _ (by decide) (by decide) (by decide)
  rw [xor_xor_cancel, h1, h0, UInt64.xor_assoc (s0 ^^^ _), xor_xor_cancel]

/-- The step permutes the states. -/
theorem step_bijective : Function.Bijective step :=
  Function.bijective_iff_has_inverse.mpr ⟨unstep, unstep_step, step_unstep⟩

theorem step_zero : step ⟨0, 0⟩ = ⟨0, 0⟩ := by decide

/-- A permutation that fixes the zero state moves no other state onto it. -/
theorem step_ne_zero {r : Rng} (h : r ≠ ⟨0, 0⟩) : r.step ≠ ⟨0, 0⟩ := fun hs =>
  h (step_bijective.1 (hs.trans step_zero.symm))

theorem mk_eq_zero_iff {a b : UInt64} : (⟨a, b⟩ : Rng) = ⟨0, 0⟩ ↔ a = 0 ∧ b = 0 :=
  (Rng.mk.injEq a b 0 0).to_iff

theorem ofSeed_ne_zero (seed : UInt64) : ofSeed seed ≠ ⟨0, 0⟩ := by
  simp only [ofSeed]
  split
  · simp
  · next h => exact mt mk_eq_zero_iff.mp h

theorem ofState_ne_zero (a b : UInt64) : ofState a b ≠ ⟨0, 0⟩ := by
  unfold ofState
  split
  · exact ofSeed_ne_zero 0
  · next h => exact mt mk_eq_zero_iff.mp h

theorem nextU64_ne_zero {r : Rng} (h : r ≠ ⟨0, 0⟩) : r.nextU64.2 ≠ ⟨0, 0⟩ := step_ne_zero h

theorem nextIndex_ne_zero {r : Rng} (h : r ≠ ⟨0, 0⟩) (len : Nat) : (r.nextIndex len).2 ≠ ⟨0, 0⟩ := by
  unfold nextIndex
  split
  · exact h
  · exact nextU64_ne_zero h

theorem nextUnit_ne_zero {r : Rng} (h : r ≠ ⟨0, 0⟩) : r.nextUnit.2 ≠ ⟨0, 0⟩ := nextU64_ne_zero h

theorem choose_ne_zero {r : Rng} (h : r ≠ ⟨0, 0⟩) (len : Nat) : (r.choose len).2 ≠ ⟨0, 0⟩ := by
  unfold choose
  split
  · exact h
  · exact nextIndex_ne_zero h len

/-- The generators a program can hold: one seeded, one restored to a given state, and one
advanced by any of the draws. -/
inductive Reachable : Rng → Prop
  | ofSeed (seed : UInt64) : Reachable (ofSeed seed)
  | ofState {r : Rng} (a b : UInt64) : Reachable r → Reachable (ofState a b)
  | nextU64 {r : Rng} : Reachable r → Reachable r.nextU64.2
  | nextIndex {r : Rng} (len : Nat) : Reachable r → Reachable (r.nextIndex len).2
  | nextUnit {r : Rng} : Reachable r → Reachable r.nextUnit.2
  | choose {r : Rng} (len : Nat) : Reachable r → Reachable (r.choose len).2

theorem Reachable.ne_zero {r : Rng} (h : Reachable r) : r ≠ ⟨0, 0⟩ := by
  induction h with
  | ofSeed seed => exact ofSeed_ne_zero seed
  | ofState a b _ _ => exact ofState_ne_zero a b
  | nextU64 _ ih => exact nextU64_ne_zero ih
  | nextIndex len _ ih => exact nextIndex_ne_zero ih len
  | nextUnit _ ih => exact nextUnit_ne_zero ih
  | choose len _ ih => exact choose_ne_zero ih len

/-- The generator never dies. The step permutes the states and fixes the all-zero one, where
each draw is zero and leaves the state as it is; so it steps no other state onto it, and no
generator reachable by seeding, restoring and drawing is ever all zero. -/
theorem zero_state_unreachable :
    Function.Bijective step ∧ (⟨0, 0⟩ : Rng).nextU64 = (0, ⟨0, 0⟩) ∧
      (∀ r : Rng, r ≠ ⟨0, 0⟩ → r.step ≠ ⟨0, 0⟩) ∧ ∀ r : Rng, Reachable r → r ≠ ⟨0, 0⟩ :=
  ⟨step_bijective, by rw [nextU64, step_zero]; rfl, fun _ => step_ne_zero, fun _ => Reachable.ne_zero⟩

/-- A generator restored to the all-zero state and then drawn from is alive. -/
theorem restored_zero_state_alive :
    Reachable (ofState 0 0).nextU64.2 ∧ (ofState 0 0).nextU64.2 ≠ ⟨0, 0⟩ :=
  have h : Reachable (ofState 0 0).nextU64.2 := .nextU64 (.ofState 0 0 (.ofSeed 0))
  ⟨h, zero_state_unreachable.2.2.2 _ h⟩

end RoadFetch.Rng

namespace RoadFetch.Map

theorem randomRoadPoint_ne_zero (m : Map) {r : Rng} (h : r ≠ ⟨0, 0⟩) :
    (m.randomRoadPoint r).2 ≠ ⟨0, 0⟩ := by
  have hc := Rng.choose_ne_zero h m.roads.length
  generalize hch : r.choose m.roads.length = c at hc
  obtain ⟨i, r'⟩ := c
  simp only [randomRoadPoint, hch]
  split
  · exact hc
  · have hu := Rng.nextUnit_ne_zero hc
    generalize r'.nextUnit = u at hu
    obtain ⟨t, r''⟩ := u
    exact hu

end RoadFetch.Map
