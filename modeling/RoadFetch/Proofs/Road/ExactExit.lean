import RoadFetch.Proofs.Loot.ExactChance
import Mathlib

/-! # The exit of a motion from a box, read exactly

The exit computation runs in doubles, starting its bounds at the two infinities. Read in the
extended reals, with the box, the start and the motion real, it is the slab method: each axis
along which the motion moves confines the parameters to the interval between the two
parameters at which it meets the axis's bounds (`axisHits_of_ne_zero`), an axis along which it
does not move keeps all of them or none (`axisHits_zero`), and the parameters at which the
motion is in the box are where the two meet (`hits_eq_inter`). Each slab step keeps bounds
that stand for the parameters found so far (`slab_narrowing`), and when the motion moves at
all those form an interval with real ends, or there are none (`exitWithin_cases`); the
computation answers with the upper end exactly when the interval meets `[0, 1]`.

Main statement: `RoadBox.exitWithin_exact`. For every box whose widened area is not empty and
every motion that moves, the computation answers exactly when some point of the motion for a
parameter in `[0, 1]` lies in the widened box, and its answer is then the largest parameter at
which the motion is in that box, which is at least zero.

A box has its lower corner `lo` and its upper corner `hi`, as every box of a road has. Corners
given the other way round along an axis where the motion moves are taken in either order by the
slab method (`axisHits_of_ne_zero` needs `l ≤ u`), so an answer can come from an empty box.
-/

namespace RoadFetch

/-- Exact arithmetic with the two infinities: the extended reals, where the bounds of a motion
start at `⊥` and `⊤` and no number is NaN. -/
noncomputable instance : Bounds EReal where
  beq a b := decide (a = b)
  ofScientific m s e := ((OfScientific.ofScientific m s e : ℝ) : EReal)
  maxNum := max
  totalLe a b := decide (a ≤ b)
  minNum := min
  negInf := ⊥
  posInf := ⊤

namespace ExactBounds

/-! ### The operations, read exactly -/

@[simp] theorem beq_eq (a b : EReal) : (a == b) = decide (a = b) := rfl

@[simp] theorem maxNum_eq (a b : EReal) : Arith.maxNum a b = max a b := rfl

@[simp] theorem minNum_eq (a b : EReal) : Bounds.minNum a b = min a b := rfl

@[simp] theorem negInf_eq : (Bounds.negInf : EReal) = ⊥ := rfl

@[simp] theorem posInf_eq : (Bounds.posInf : EReal) = ⊤ := rfl

@[simp] theorem zero_lit : (0.0 : EReal) = 0 := by
  change (((0.0 : ℝ) : EReal)) = 0
  norm_num

theorem one_lit : (1.0 : EReal) = ((1 : ℝ) : EReal) := by
  change (((1.0 : ℝ) : EReal)) = ((1 : ℝ) : EReal)
  norm_num

/-- The tolerance in the extended reals is the real tolerance. -/
@[simp] theorem tolerance_eq : (RoadBox.tolerance : EReal) = ((RoadBox.tolerance : ℝ) : EReal) :=
  rfl

theorem coe_max (a b : ℝ) : ((max a b : ℝ) : EReal) = max (a : EReal) b :=
  EReal.coe_strictMono.monotone.map_max

theorem coe_min (a b : ℝ) : ((min a b : ℝ) : EReal) = min (a : EReal) b :=
  EReal.coe_strictMono.monotone.map_min

end ExactBounds

open ExactBounds

namespace RoadBox

/-! ### One axis -/

/-- The parameters `t` at which the motion `o + t * s` along one axis lies in `[l, u]`. -/
def axisHits (o s l u : ℝ) : Set ℝ := {t | l ≤ o + t * s ∧ o + t * s ≤ u}

/-- An axis along which the motion does not move holds it at every parameter or at none. -/
theorem axisHits_zero (o l u : ℝ) :
    axisHits o 0 l u = if l ≤ o ∧ o ≤ u then Set.univ else ∅ := by
  ext t
  split_ifs with h <;> simp [axisHits, h]

/-- Moving forwards, the motion is in `[l, u]` from the parameter at which it meets `l` to the
one at which it meets `u`. -/
theorem axisHits_of_pos {o s l u : ℝ} (hs : 0 < s) :
    axisHits o s l u = Set.Icc ((l - o) / s) ((u - o) / s) := by
  ext t
  simp only [axisHits, Set.mem_ofPred_eq, Set.mem_Icc, div_le_iff₀ hs, le_div_iff₀ hs]
  constructor <;> rintro ⟨h₁, h₂⟩ <;> constructor <;> linarith

/-- Moving backwards, the motion meets `u` first. -/
theorem axisHits_of_neg {o s l u : ℝ} (hs : s < 0) :
    axisHits o s l u = Set.Icc ((u - o) / s) ((l - o) / s) := by
  ext t
  simp only [axisHits, Set.mem_ofPred_eq, Set.mem_Icc, div_le_iff_of_neg hs, le_div_iff_of_neg hs]
  constructor <;> rintro ⟨h₁, h₂⟩ <;> constructor <;> linarith

/-- Along an axis where it moves, the motion is in `[l, u]` between the parameters at which it
meets the two bounds, in either order. -/
theorem axisHits_of_ne_zero {o s l u : ℝ} (hs : s ≠ 0) (hlu : l ≤ u) :
    axisHits o s l u =
      Set.Icc (min ((l - o) / s) ((u - o) / s)) (max ((l - o) / s) ((u - o) / s)) := by
  rcases hs.lt_or_gt with hneg | hpos
  · have hba : (u - o) / s ≤ (l - o) / s := div_le_div_of_nonpos_of_le hneg.le (by linarith)
    rw [axisHits_of_neg hneg, min_eq_right hba, max_eq_left hba]
  · have hab : (l - o) / s ≤ (u - o) / s := div_le_div_of_nonneg_right (by linarith) hpos.le
    rw [axisHits_of_pos hpos, min_eq_left hab, max_eq_right hab]

/-- One slab step at real numbers: an axis where the motion does not move lets the bounds
through or refuses, and an axis where it moves narrows them to the parameters at which it meets
the axis's bounds. -/
theorem slab_coe (e x : EReal) (o s l u : ℝ) :
    slab e x (o : EReal) s l u =
      if s = 0 then (if l ≤ o ∧ o ≤ u then some (e, x) else none)
      else some (max e ↑(min ((l - o) / s) ((u - o) / s)),
        min x ↑(max ((l - o) / s) ((u - o) / s))) := by
  by_cases hs : s = 0
  · subst hs
    by_cases h : l ≤ o ∧ o ≤ u <;> simp [slab, h]
  · simp [slab, hs, coe_max, coe_min, EReal.coe_div]

/-! ### The widened box -/

/-- The box of corners `lo` and `hi` widened by the tolerance, read exactly. -/
def tolerantBox (lo hi : ℝ × ℝ) : Set (ℝ × ℝ) :=
  Set.Icc (lo.1 - tolerance, lo.2 - tolerance) (hi.1 + tolerance, hi.2 + tolerance)

/-- The parameters at which the motion `origin + t * delta` is in the widened box. -/
def hits (lo hi origin delta : ℝ × ℝ) : Set ℝ := {t | origin + t • delta ∈ tolerantBox lo hi}

/-- The motion is in the box where it is within both of its slabs. -/
theorem hits_eq_inter (lo hi origin delta : ℝ × ℝ) :
    hits lo hi origin delta =
      axisHits origin.1 delta.1 (lo.1 - tolerance) (hi.1 + tolerance) ∩
        axisHits origin.2 delta.2 (lo.2 - tolerance) (hi.2 + tolerance) := by
  ext t
  simp only [hits, tolerantBox, axisHits, Set.mem_ofPred_eq, Set.mem_inter_iff, Set.mem_Icc,
    Prod.le_def, Prod.fst_add, Prod.snd_add, Prod.smul_fst, Prod.smul_snd, smul_eq_mul]
  tauto

/-- A point of the real plane among the extended reals. -/
def toExt (p : ℝ × ℝ) : EReal × EReal := ((p.1 : EReal), (p.2 : EReal))

/-- The last check, on real bounds: the interval `[e, x]` meets `[0, 1]`, and the answer is its
upper end. -/
theorem check_coe (e x : ℝ) :
    (if (e : EReal) > x || (x : EReal) < 0.0 || (e : EReal) > 1.0 then none
      else some (Arith.maxNum (x : EReal) 0.0)) =
      if e ≤ x ∧ 0 ≤ x ∧ e ≤ 1 then some (x : EReal) else none := by
  rw [one_lit]
  simp only [zero_lit, maxNum_eq, gt_iff_lt, EReal.coe_lt_coe_iff, EReal.coe_neg',
    Bool.or_eq_true, decide_eq_true_eq]
  by_cases h : e ≤ x ∧ 0 ≤ x ∧ e ≤ 1
  · have hx : max (x : EReal) 0 = x := max_eq_left (EReal.coe_nonneg.mpr h.2.1)
    rw [if_neg (by simp only [not_or, not_lt]; exact ⟨⟨h.1, h.2.1⟩, h.2.2⟩), if_pos h, hx]
  · rw [if_pos (by simp only [not_and_or, not_le] at h; tauto), if_neg h]

/-! ### The bounds, slab after slab -/

/-- Bounds that stand for a set of parameters: the two infinities the computation starts from
stand for all of them, real ends for the interval between them. -/
inductive Narrowing : EReal × EReal → Set ℝ → Prop
  | unbounded : Narrowing (⊥, ⊤) Set.univ
  | bounded (e x : ℝ) : Narrowing ((e : EReal), (x : EReal)) (Set.Icc e x)

/-- Only the infinities stand for every parameter: bounds of any other set are real. -/
theorem Narrowing.eq_coe {b : EReal × EReal} {S : Set ℝ} (h : Narrowing b S)
    (hS : S ≠ Set.univ) : ∃ e x : ℝ, b = ((e : EReal), (x : EReal)) ∧ S = Set.Icc e x := by
  cases h with
  | unbounded => exact absurd rfl hS
  | bounded e x => exact ⟨e, x, rfl, rfl⟩

/-- One slab step keeps bounds that stand for the parameters at which the motion is within
every axis so far, and refuses only when the new axis holds the motion at no parameter. -/
theorem slab_narrowing {e x : EReal} {S : Set ℝ} (h : Narrowing (e, x) S) (o s l u : ℝ)
    (hlu : l ≤ u) :
    (slab e x (o : EReal) s l u = none ∧ axisHits o s l u = ∅) ∨
      ∃ b, slab e x (o : EReal) s l u = some b ∧ Narrowing b (S ∩ axisHits o s l u) := by
  rw [slab_coe]
  by_cases hs : s = 0
  · subst hs
    rw [axisHits_zero]
    by_cases ho : l ≤ o ∧ o ≤ u
    · exact .inr ⟨(e, x), by simp [ho], by simpa [ho] using h⟩
    · exact .inl (by simp [ho])
  · right
    rw [if_neg hs, axisHits_of_ne_zero hs hlu]
    refine ⟨_, rfl, ?_⟩
    -- the infinities give way to the axis's interval; real bounds meet it
    cases h with
    | unbounded =>
      rw [Set.univ_inter, max_eq_right bot_le, min_eq_right le_top]
      exact .bounded _ _
    | bounded e₀ x₀ =>
      rw [Set.Icc_inter_Icc, ← coe_max, ← coe_min]
      exact .bounded _ _

/-- Along an axis where it moves, the motion leaves the axis's bounds at some parameter. -/
theorem axisHits_ne_univ {o s l u : ℝ} (hs : s ≠ 0) (hlu : l ≤ u) :
    axisHits o s l u ≠ Set.univ := by
  rw [axisHits_of_ne_zero hs hlu]
  exact fun h => not_bddAbove_univ (h ▸ bddAbove_Icc)

/-- A motion that moves leaves the widened box at some parameter. -/
theorem hits_ne_univ (lo hi origin delta : ℝ × ℝ)
    (hlu : lo.1 - tolerance ≤ hi.1 + tolerance ∧ lo.2 - tolerance ≤ hi.2 + tolerance)
    (hd : delta ≠ 0) : hits lo hi origin delta ≠ Set.univ := by
  rw [hits_eq_inter]
  intro h
  by_cases hd₁ : delta.1 = 0
  · have hd₂ : delta.2 ≠ 0 := fun hd₂ => hd (Prod.ext hd₁ hd₂)
    exact axisHits_ne_univ hd₂ hlu.2 (Set.eq_univ_of_subset Set.inter_subset_right h)
  · exact axisHits_ne_univ hd₁ hlu.1 (Set.eq_univ_of_subset Set.inter_subset_left h)

/-- The two slabs run from the infinities: they refuse when the motion is in the widened box at
no parameter, and otherwise leave real bounds of the interval of parameters at which it is. -/
theorem exitWithin_cases (lo hi origin delta : ℝ × ℝ)
    (hlu : lo.1 - tolerance ≤ hi.1 + tolerance ∧ lo.2 - tolerance ≤ hi.2 + tolerance)
    (hd : delta ≠ 0) :
    (exitWithin (toExt lo) (toExt hi) (toExt origin) (toExt delta) = none ∧
        hits lo hi origin delta = ∅) ∨
      ∃ e x : ℝ, hits lo hi origin delta = Set.Icc e x ∧
        exitWithin (toExt lo) (toExt hi) (toExt origin) (toExt delta) =
          if e ≤ x ∧ 0 ≤ x ∧ e ≤ 1 then some (x : EReal) else none := by
  have hmoves := hits_ne_univ lo hi origin delta hlu hd
  rw [hits_eq_inter] at hmoves ⊢
  simp only [exitWithin, toExt, tolerance_eq, ← EReal.coe_sub, ← EReal.coe_add, negInf_eq,
    posInf_eq]
  rcases slab_narrowing .unbounded origin.1 delta.1 _ _ hlu.1 with ⟨h₁, hA₁⟩ | ⟨⟨e₁, x₁⟩, h₁, hb₁⟩
  · simp only [h₁, Option.bind_eq_bind, Option.bind_none]
    simp [hA₁]
  rw [Set.univ_inter] at hb₁
  rcases slab_narrowing hb₁ origin.2 delta.2 _ _ hlu.2 with ⟨h₂, hA₂⟩ | ⟨b₂, h₂, hb₂⟩
  · simp only [h₁, h₂, Option.bind_eq_bind, Option.bind_some, Option.bind_none]
    simp [hA₂]
  -- the motion moves, so the bounds the slabs leave are real
  obtain ⟨e, x, rfl, hS⟩ := hb₂.eq_coe hmoves
  refine .inr ⟨e, x, hS, ?_⟩
  simp only [h₁, h₂, Option.bind_eq_bind, Option.bind_some]
  exact check_coe e x

/-- An interval `[e, x]` meets `[0, 1]` exactly when it is not empty, reaches zero and starts
by one. -/
theorem meets_unit_iff (e x : ℝ) :
    (∃ s ∈ Set.Icc (0 : ℝ) 1, s ∈ Set.Icc e x) ↔ e ≤ x ∧ 0 ≤ x ∧ e ≤ 1 := by
  constructor
  · rintro ⟨s, ⟨h₀, h₁⟩, hes, hsx⟩
    exact ⟨hes.trans hsx, h₀.trans hsx, hes.trans h₁⟩
  · rintro ⟨hex, hx, he⟩
    exact ⟨max e 0, ⟨le_max_right _ _, max_le he zero_le_one⟩, le_max_left _ _, max_le hex hx⟩

/-- The exit parameter, read exactly. For a box whose widened area is not empty and a motion
that moves, there is an answer exactly when the motion is in the widened box at some parameter
in `[0, 1]`; the answer is then the largest parameter at which the motion is in the widened
box, and it is at least zero. -/
theorem exitWithin_exact (lo hi origin delta : ℝ × ℝ) (hbox : (tolerantBox lo hi).Nonempty)
    (hd : delta ≠ 0) :
    ((∃ t, exitWithin (toExt lo) (toExt hi) (toExt origin) (toExt delta) = some t) ↔
        ∃ s ∈ Set.Icc (0 : ℝ) 1, s ∈ hits lo hi origin delta) ∧
      ∀ t, exitWithin (toExt lo) (toExt hi) (toExt origin) (toExt delta) = some t →
        ∃ s : ℝ, t = s ∧ 0 ≤ s ∧ IsGreatest (hits lo hi origin delta) s := by
  have hlu : lo.1 - tolerance ≤ hi.1 + tolerance ∧ lo.2 - tolerance ≤ hi.2 + tolerance := by
    simpa [tolerantBox, Prod.le_def] using Set.nonempty_Icc.mp hbox
  rcases exitWithin_cases lo hi origin delta hlu hd with ⟨hnone, hempty⟩ | ⟨e, x, hint, hexit⟩
  · simp [hnone, hempty]
  · rw [hexit, hint, meets_unit_iff]
    constructor
    · split_ifs with h <;> simp [h]
    · intro t ht
      -- only the answer `x` is left: `none` is no answer
      split_ifs at ht with h
      obtain rfl := Option.some.inj ht
      exact ⟨x, rfl, h.2.1, isGreatest_Icc h.1⟩

theorem tolerance_pos : (0 : ℝ) < tolerance := by
  norm_num [tolerance, lookAhead]

/-- A motion from inside the box of corners `(0, 0)` and `(2, 1)`, by `(4, 0)`. -/
theorem exitWithin_exact_forwards :
    (tolerantBox (0, 0) (2, 1)).Nonempty ∧ ((4 : ℝ), (0 : ℝ)) ≠ 0 ∧
      (((∃ t, exitWithin (toExt (0, 0)) (toExt (2, 1)) (toExt (1, 0)) (toExt (4, 0)) = some t) ↔
          ∃ s ∈ Set.Icc (0 : ℝ) 1, s ∈ hits (0, 0) (2, 1) (1, 0) (4, 0)) ∧
        ∀ t, exitWithin (toExt (0, 0)) (toExt (2, 1)) (toExt (1, 0)) (toExt (4, 0)) = some t →
          ∃ s : ℝ, t = s ∧ 0 ≤ s ∧ IsGreatest (hits (0, 0) (2, 1) (1, 0) (4, 0)) s) := by
  have hbox : (tolerantBox (0, 0) (2, 1)).Nonempty := by
    refine ⟨(0, 0), ?_⟩
    have h := tolerance_pos
    simp only [tolerantBox, Set.mem_Icc, Prod.mk_le_mk]
    refine ⟨⟨?_, ?_⟩, ?_, ?_⟩ <;> linarith
  have hd : ((4 : ℝ), (0 : ℝ)) ≠ 0 := by simp
  exact ⟨hbox, hd, exitWithin_exact _ _ _ _ hbox hd⟩

end RoadBox

end RoadFetch
