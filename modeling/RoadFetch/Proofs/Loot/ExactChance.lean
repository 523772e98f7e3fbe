import RoadFetch.Proofs.Road.ExactPickup
import RoadFetch.Proofs.Time.Nanos
import Mathlib

/-! # The chance of loot, read exactly

Read in real numbers, the chance of loot after a time `t` with a period `T` and a chance `p` per
period is `1 - (1 - p) ^ (t / T)`, with `p` held in `[0, 1]` first: a number in `[0, 1]` that
grows with `t` (`Spawner.chanceOf_mono`). The count for a shortage of `d` pieces is `d` times the
chance, rounded, so it is at most `d` (`Spawner.countOf_le`) and also grows with the time
(`Spawner.countOf_mono`).

A run of ticks restarts the clock only when some loot appears, so up to then the clock holds the
time since the run began, however it was split into ticks: the first loot appears at the first
tick whose time so far is enough for it (`Spawner.findIdx_counts`).
-/

namespace RoadFetch

/-- Exact arithmetic for chances: counts are themselves, powers are real powers, rounding takes
halves away from zero, and a number stands for its floor, held at the largest 64-bit word. -/
noncomputable instance : ChanceArith ℝ where
  ofNat n := n
  pow x y := x ^ y
  round x := if x < 0 then -((round (-x) : ℤ) : ℝ) else ((round x : ℤ) : ℝ)
  toCount x := min ⌊x⌋₊ (2 ^ 64 - 1)

namespace Exact

@[simp] theorem ofNat_eq_cast : (ChanceArith.ofNat : ℕ → ℝ) = fun n : ℕ => (n : ℝ) := rfl

@[simp] theorem pow_eq_rpow (x y : ℝ) : ChanceArith.pow x y = x ^ y := rfl

@[simp] theorem toCount_eq (x : ℝ) : ChanceArith.toCount x = min ⌊x⌋₊ (2 ^ 64 - 1) := rfl

theorem round_mono : Monotone (round : ℝ → ℤ) := by
  intro x y hxy
  rw [round_eq, round_eq]
  exact Int.floor_le_floor (by linarith)

/-- At numbers at least zero, rounding halves away from zero is rounding halves up. -/
theorem round_of_nonneg {x : ℝ} (hx : 0 ≤ x) : ChanceArith.round x = ((round x : ℤ) : ℝ) :=
  if_neg (not_lt.mpr hx)

end Exact

namespace Spawner

/-- The chance of loot after `t` nanoseconds, for a chance `q` per period of `period`
nanoseconds. -/
noncomputable def curve (q : ℝ) (period t : ℕ) : ℝ := 1 - (1 - q) ^ ((t : ℝ) / period)

section Curve

variable {q : ℝ} (hq : q ∈ Set.Icc (0 : ℝ) 1) (period : ℕ)
include hq

theorem curve_mem (t : ℕ) : curve q period t ∈ Set.Icc (0 : ℝ) 1 := by
  have hr : 0 ≤ (t : ℝ) / period := by positivity
  have h₀ : 0 ≤ (1 - q) ^ ((t : ℝ) / period) := Real.rpow_nonneg (by linarith [hq.2]) _
  have h₁ : (1 - q) ^ ((t : ℝ) / period) ≤ 1 := Real.rpow_le_one (by linarith [hq.2]) (by linarith [hq.1]) hr
  exact ⟨by unfold curve; linarith, by unfold curve; linarith⟩

theorem curve_mono : Monotone (curve q period) := by
  intro t t' htt'
  have hr : (t : ℝ) / period ≤ (t' : ℝ) / period := by gcongr
  have hpow : (1 - q) ^ ((t' : ℝ) / period) ≤ (1 - q) ^ ((t : ℝ) / period) :=
    Real.rpow_le_rpow_of_exponent_ge' (by linarith [hq.2]) (by linarith [hq.1]) (by positivity) hr
  unfold curve
  linarith

end Curve

section Chance

variable (p : ℝ) (period : Duration)

theorem chanceOf_eq (hperiod : period.toNanos ≠ 0) (since : Duration) :
    chanceOf p period since = curve (Scalar.clamp p 0 1) period.toNanos since.toNanos := by
  have hcurve := curve_mem (Exact.clamp_nearest p).1 period.toNanos since.toNanos
  have hratio : since.toSecs (fun n : ℕ => (n : ℝ)) / period.toSecs (fun n : ℕ => (n : ℝ)) =
      (since.toNanos : ℝ) / period.toNanos := by
    rw [Duration.toSecs_natCast, Duration.toSecs_natCast, div_div_div_cancel_right₀ (by norm_num)]
  simp only [chanceOf, hperiod, ↓reduceIte, Exact.zero_lit, Exact.one_lit, Exact.ofNat_eq_cast,
    Exact.pow_eq_rpow, hratio]
  exact Exact.clamp_of_mem hcurve

theorem chanceOf_mem (since : Duration) : chanceOf p period since ∈ Set.Icc (0 : ℝ) 1 := by
  by_cases hperiod : period.toNanos = 0
  · simp only [chanceOf, hperiod, ↓reduceIte, Exact.one_lit]
    exact ⟨zero_le_one, le_rfl⟩
  · rw [chanceOf_eq p period hperiod]
    exact curve_mem (Exact.clamp_nearest p).1 _ _

theorem chanceOf_mono {a b : Duration} (hab : a.toNanos ≤ b.toNanos) :
    chanceOf p period a ≤ chanceOf p period b := by
  by_cases hperiod : period.toNanos = 0
  · simp only [chanceOf, hperiod, ↓reduceIte, le_refl]
  · rw [chanceOf_eq p period hperiod, chanceOf_eq p period hperiod]
    exact curve_mono (Exact.clamp_nearest p).1 _ hab

variable (deficit : ℕ)

theorem countOf_eq (since : Duration) :
    countOf p period since deficit = min (round ((deficit : ℝ) * chanceOf p period since)).toNat (2 ^ 64 - 1) := by
  have hx : 0 ≤ (deficit : ℝ) * chanceOf p period since :=
    mul_nonneg (Nat.cast_nonneg _) (chanceOf_mem p period since).1
  simp only [countOf, Exact.ofNat_eq_cast, Exact.round_of_nonneg hx, Exact.toCount_eq]
  rw [← Int.floor_toNat, Int.floor_intCast]

theorem countOf_le (since : Duration) : countOf p period since deficit ≤ deficit := by
  have hc := (chanceOf_mem p period since).2
  have hround : round ((deficit : ℝ) * chanceOf p period since) ≤ deficit := by
    rw [← round_natCast (α := ℝ) deficit]
    exact Exact.round_mono (mul_le_of_le_one_right (Nat.cast_nonneg _) hc)
  rw [countOf_eq]
  omega

theorem countOf_mono {a b : Duration} (hab : a.toNanos ≤ b.toNanos) :
    countOf p period a deficit ≤ countOf p period b deficit := by
  have hround : round ((deficit : ℝ) * chanceOf p period a) ≤ round ((deficit : ℝ) * chanceOf p period b) :=
    Exact.round_mono (by gcongr; exact chanceOf_mono p period hab)
  rw [countOf_eq, countOf_eq]
  omega

theorem countOf_pos_iff (since : Duration) :
    0 < countOf p period since deficit ↔ 1 ≤ round ((deficit : ℝ) * chanceOf p period since) := by
  rw [countOf_eq]
  omega

/-- With the chance per period in `[0, 1]` and a period that is not zero, some loot appears
exactly when the time so far reaches the least time that is enough for it. -/
theorem countOf_pos_iff_le (hp : p ∈ Set.Icc (0 : ℝ) 1) (hperiod : period.toNanos ≠ 0) {T : ℕ}
    (hT : IsLeast {t : ℕ | 1 ≤ round ((deficit : ℝ) * curve p period.toNanos t)} T) (d : Duration) :
    0 < countOf p period d deficit ↔ T ≤ d.toNanos := by
  rw [countOf_pos_iff, chanceOf_eq p period hperiod, Exact.clamp_of_mem hp]
  refine ⟨fun h => hT.2 h, fun h => ?_⟩
  -- the least enough time is enough, and so is any later one
  have hgrow : (deficit : ℝ) * curve p period.toNanos T ≤ (deficit : ℝ) * curve p period.toNanos d.toNanos := by
    gcongr
    exact curve_mono hp _ h
  exact hT.1.trans (Exact.round_mono hgrow)

end Chance

section Run

variable {α : Type} [ChanceArith α] (p : α) (period : Duration) (deficit : ℕ)

theorem advance_fst (since elapsed : Duration) :
    (advance p period since elapsed deficit).1 = countOf p period (since + elapsed) deficit := by
  simp only [advance]
  split <;> rfl

theorem advance_snd (since elapsed : Duration) :
    (advance p period since elapsed deficit).2 =
      if 0 < (advance p period since elapsed deficit).1 then Duration.zero else since + elapsed := by
  simp only [advance]
  by_cases h : 0 < countOf p period (since + elapsed) deficit <;> simp [h]

/-- The counts of a clock started at `since` and advanced by ticks of the given lengths. -/
def counts : Duration → List Duration → List ℕ
  | _, [] => []
  | since, e :: es =>
    (advance p period since e deficit).1 :: counts (advance p period since e deficit).2 es

theorem scanl_eq_cons_tail {β γ : Type} (f : β → γ → β) (b : β) (l : List γ) :
    l.scanl f b = b :: (l.scanl f b).tail := by
  cases l <;> simp only [List.scanl_nil, List.scanl_cons, List.tail_cons]

/-- Where a count is positive exactly when the time so far is `Enough`, a run finds its first
loot at the first tick whose time since the run began is enough: until then the clock was never
restarted, so it held that time. -/
theorem findIdx_counts {Enough : ℕ → Prop} [DecidablePred Enough]
    (henough : ∀ d : Duration, 0 < countOf p period d deficit ↔ Enough d.toNanos)
    (since : Duration) (es : List Duration)
    (hfit : since.toNanos + (es.map Duration.toNanos).sum < 2 ^ 64 * Duration.nanosPerSec) :
    (counts p period deficit since es).findIdx? (0 < ·) =
      (es.scanl (fun t e => t + e.toNanos) since.toNanos).tail.findIdx? (Enough ·) := by
  induction es generalizing since with
  | nil => rfl
  | cons e es ih =>
    simp only [List.map_cons, List.sum_cons] at hfit
    have hsum : (since + e).toNanos = since.toNanos + e.toNanos := Duration.toNanos_add (by omega)
    rw [counts, List.scanl_cons, List.tail_cons, scanl_eq_cons_tail, List.findIdx?_cons,
      List.findIdx?_cons, advance_fst, ← hsum]
    by_cases hpos : 0 < countOf p period (since + e) deficit
    · simp only [hpos, (henough _).mp hpos, decide_true, ↓reduceIte]
    · -- no loot yet: the clock keeps the time so far and the run goes on from there
      have hrest := ih (since + e) (by omega)
      simp only [hpos, (henough _).not.mp hpos, decide_false, Bool.false_eq_true, ↓reduceIte,
        advance_snd, advance_fst, hrest]

end Run

end Spawner

end RoadFetch
