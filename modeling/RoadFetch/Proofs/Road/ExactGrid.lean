import RoadFetch.Proofs.Road.ExactExit
import Mathlib

/-! # The road grid, read exactly

The grid's computations run in doubles over boxes given by their corners. Read in the extended
reals, with real corners, start and target, they are the geometry they stand for: a box holds a
point when the point lies in the box widened by the tolerance (`RoadBox.holds_coe`), clamping
lands in that widened box (`RoadBox.clampInto_mem`), and the exits of a motion are the boxes it
leaves before its end, each with the last parameter at which it is in the box, in the order of
those parameters (`RoadGrid.mem_exitsWithin_coe`, `RoadGrid.exitsWithin_sorted`).

Main statement: `RoadGrid.clipWithin_cases`, everything a clipped move can do. A move of length
zero reaches its target; any other move from a point of the area either passes every exit,
the area holding the point one look-ahead step past it, and reaches its target, or stops at an
exit whose look-ahead point is off the area, held inside the box it leaves, every exit at a
smaller parameter having passed. The boxes of roads have integer ends widened by half a road
width (`RoadBox.exactCorners`), and the grid of the roads covers exactly their area
(`RoadGrid.covers_roads`).
-/

namespace RoadFetch

/-- Exact arithmetic for a grid: the extended reals of the exit computation, the integers as
reals, and the real square root. -/
noncomputable instance : GridArith EReal where
  ofInt i := ((i : ℝ) : EReal)
  sqrt x := ((Real.sqrt x.toReal : ℝ) : EReal)

open ExactBounds

namespace ExactGrid

@[simp] theorem ofInt_eq (i : Int) : (GridArith.ofInt i : EReal) = ((i : ℝ) : EReal) := rfl

@[simp] theorem sqrt_coe (x : ℝ) : GridArith.sqrt (x : EReal) = ((Real.sqrt x : ℝ) : EReal) := by
  simp [GridArith.sqrt]

@[simp] theorem lookAhead_eq :
    (RoadBox.lookAhead : EReal) = ((RoadBox.lookAhead : ℝ) : EReal) := rfl

@[simp] theorem halfWidth_eq : (Road.halfWidth : EReal) = ((Road.halfWidth : ℝ) : EReal) := rfl

@[simp] theorem totalLe_eq (a b : EReal) : Arith.totalLe a b = decide (a ≤ b) := rfl

theorem lookAhead_pos : (0 : ℝ) < RoadBox.lookAhead := by
  norm_num [RoadBox.lookAhead]

end ExactGrid

open ExactGrid

namespace RoadBox

/-- The corners of a real box among the extended reals. -/
def toExtCorners (c : (ℝ × ℝ) × (ℝ × ℝ)) : (EReal × EReal) × (EReal × EReal) :=
  (toExt c.1, toExt c.2)

/-- The box of corners `c` widened by the tolerance. -/
def widened (c : (ℝ × ℝ) × (ℝ × ℝ)) : Set (ℝ × ℝ) := tolerantBox c.1 c.2

theorem holds_coe (c : (ℝ × ℝ) × (ℝ × ℝ)) (p : ℝ × ℝ) :
    holds (toExtCorners c) (toExt p) = true ↔ p ∈ widened c := by
  simp only [holds, toExtCorners, toExt, widened, tolerantBox, tolerance_eq, ← EReal.coe_sub,
    ← EReal.coe_add, ge_iff_le, EReal.coe_le_coe_iff, Bool.and_eq_true, decide_eq_true_eq,
    Set.mem_Icc, Prod.le_def]
  tauto

theorem clamp_coe (x lo hi : ℝ) :
    Scalar.clamp (x : EReal) lo hi = ((Scalar.clamp x lo hi : ℝ) : EReal) := by
  simp only [Scalar.clamp, gt_iff_lt]
  split_ifs <;> simp_all

theorem clampInto_coe (c : (ℝ × ℝ) × (ℝ × ℝ)) (p : ℝ × ℝ) :
    clampInto (toExtCorners c) (toExt p) = toExt (clampInto c p) := by
  simp only [clampInto, toExtCorners, toExt, tolerance_eq, ← EReal.coe_sub, ← EReal.coe_add,
    clamp_coe]

theorem clamp_mem {x lo hi : ℝ} (h : lo ≤ hi) : Scalar.clamp x lo hi ∈ Set.Icc lo hi := by
  simp only [Scalar.clamp, gt_iff_lt, Set.mem_Icc]
  split_ifs <;> constructor <;> linarith

theorem clamp_of_mem {x lo hi : ℝ} (h : x ∈ Set.Icc lo hi) : Scalar.clamp x lo hi = x := by
  simp only [Scalar.clamp, gt_iff_lt]
  rw [if_neg (not_lt.mpr h.1), if_neg (not_lt.mpr h.2)]

theorem clampInto_mem {c : (ℝ × ℝ) × (ℝ × ℝ)} (hc : (widened c).Nonempty) (p : ℝ × ℝ) :
    clampInto c p ∈ widened c := by
  obtain ⟨q, hq⟩ := hc
  simp only [widened, tolerantBox, Set.mem_Icc, Prod.le_def] at hq ⊢
  have h₁ := clamp_mem (x := p.1) (le_trans hq.1.1 hq.2.1)
  have h₂ := clamp_mem (x := p.2) (le_trans hq.1.2 hq.2.2)
  exact ⟨⟨h₁.1, h₂.1⟩, h₁.2, h₂.2⟩

theorem clampInto_of_mem {c : (ℝ × ℝ) × (ℝ × ℝ)} {p : ℝ × ℝ} (hp : p ∈ widened c) :
    clampInto c p = p := by
  simp only [widened, tolerantBox, Set.mem_Icc, Prod.le_def] at hp
  simp only [clampInto, clamp_of_mem ⟨hp.1.1, hp.2.1⟩, clamp_of_mem ⟨hp.1.2, hp.2.2⟩]

/-- A widened box holds some point exactly when it starts no later than it ends along each
axis. -/
theorem tolerantBox_nonempty_iff {lo hi : ℝ × ℝ} :
    (tolerantBox lo hi).Nonempty ↔
      lo.1 - tolerance ≤ hi.1 + tolerance ∧ lo.2 - tolerance ≤ hi.2 + tolerance := by
  rw [tolerantBox, Set.nonempty_Icc, Prod.le_def]

/-- The exit computation answers with a real parameter exactly when the motion is in the
widened box at some parameter in `[0, 1]`: the largest parameter at which it is in the box,
which is at least zero. -/
theorem exitWithin_eq_some_iff {lo hi o d : ℝ × ℝ} (hbox : (tolerantBox lo hi).Nonempty)
    (hd : d ≠ 0) {t : EReal} :
    exitWithin (toExt lo) (toExt hi) (toExt o) (toExt d) = some t ↔
      ∃ x : ℝ, t = x ∧ IsGreatest (hits lo hi o d) x ∧ 0 ≤ x ∧
        ∃ s ∈ Set.Icc (0 : ℝ) 1, s ∈ hits lo hi o d := by
  rcases exitWithin_cases lo hi o d (tolerantBox_nonempty_iff.mp hbox) hd with ⟨hnone, hempty⟩ | ⟨e, x, hint, hexit⟩
  · simp [hnone, hempty, IsGreatest]
  · rw [hexit, hint, meets_unit_iff]
    split_ifs with h
    · constructor
      · rintro ⟨⟩
        exact ⟨x, rfl, isGreatest_Icc h.1, h.2.1, h⟩
      · rintro ⟨x', rfl, hx', -⟩
        rw [(isGreatest_Icc h.1).unique hx']
    · simp only [false_iff, not_exists, not_and]
      intro x' _ _ _ hex hx he
      exact h ⟨hex, hx, he⟩

/-- The corners of the box of a road widened by half a road width, read exactly. -/
noncomputable def exactCorners (r : Road) : (ℝ × ℝ) × (ℝ × ℝ) :=
  ((((min r.start.x r.stop.x : ℤ) : ℝ) - Road.halfWidth,
      ((min r.start.y r.stop.y : ℤ) : ℝ) - Road.halfWidth),
    (((max r.start.x r.stop.x : ℤ) : ℝ) + Road.halfWidth,
      ((max r.start.y r.stop.y : ℤ) : ℝ) + Road.halfWidth))

theorem cornersOf_exact (r : Road) :
    cornersOf r (Road.halfWidth : EReal) = toExtCorners (exactCorners r) := by
  simp only [cornersOf, exactCorners, toExtCorners, toExt, ofInt_eq, minNum_eq, maxNum_eq,
    halfWidth_eq, ← coe_min, ← coe_max, ← Int.cast_min, ← Int.cast_max, ← EReal.coe_sub,
    ← EReal.coe_add]

theorem halfWidth_add_tolerance : (Road.halfWidth : ℝ) + tolerance = 0.4025 := by
  norm_num [Road.halfWidth, tolerance, lookAhead]

/-- Along each axis, the widened box of a road starts no later than it ends. -/
theorem exactCorners_le (r : Road) :
    (exactCorners r).1.1 - tolerance ≤ (exactCorners r).2.1 + tolerance ∧
      (exactCorners r).1.2 - tolerance ≤ (exactCorners r).2.2 + tolerance := by
  have hx : ((min r.start.x r.stop.x : ℤ) : ℝ) ≤ (max r.start.x r.stop.x : ℤ) :=
    Int.cast_le.mpr min_le_max
  have hy : ((min r.start.y r.stop.y : ℤ) : ℝ) ≤ (max r.start.y r.stop.y : ℤ) :=
    Int.cast_le.mpr min_le_max
  have hw := halfWidth_add_tolerance
  simp only [exactCorners]
  constructor <;> linarith

theorem exactCorners_nonempty (r : Road) : (widened (exactCorners r)).Nonempty :=
  tolerantBox_nonempty_iff.mpr (exactCorners_le r)

end RoadBox

namespace RoadGrid

open RoadBox

/-- The area the boxes of corners in `bs` cover, read exactly: the union of their widened
boxes. -/
def area (bs : List ((ℝ × ℝ) × (ℝ × ℝ))) : Set (ℝ × ℝ) := {p | ∃ c ∈ bs, p ∈ RoadBox.widened c}

theorem covers_coe (bs : List ((ℝ × ℝ) × (ℝ × ℝ))) (p : ℝ × ℝ) :
    covers (bs.map toExtCorners) (toExt p) = true ↔ p ∈ area bs := by
  simp [covers, holds_coe, area]

theorem isClosed_area (bs : List ((ℝ × ℝ) × (ℝ × ℝ))) : IsClosed (area bs) := by
  have h : area bs = ⋃ c ∈ {c | c ∈ bs}, RoadBox.widened c := by
    ext p
    simp [area]
  rw [h]
  exact (List.finite_toSet bs).isClosed_biUnion fun c _ => isClosed_Icc

theorem along_coe (o d : ℝ × ℝ) (t : ℝ) : along (toExt o) (toExt d) (t : EReal) = toExt (o + t • d) := by
  simp only [along, toExt, ← EReal.coe_mul, ← EReal.coe_add, Prod.fst_add, Prod.snd_add, Prod.smul_fst,
    Prod.smul_snd, smul_eq_mul, mul_comm]

/-- The motion `o + t * d` leaves the widened box of corners `c` at the parameter `t` before
its end: `t` is the last parameter at which the motion is in the box, and it lies in
`[0, 1)`. -/
def LeavesAt (c : (ℝ × ℝ) × (ℝ × ℝ)) (o d : ℝ × ℝ) (t : ℝ) : Prop :=
  IsGreatest (hits c.1 c.2 o d) t ∧ 0 ≤ t ∧ t < 1

variable {bs : List ((ℝ × ℝ) × (ℝ × ℝ))} {o d : ℝ × ℝ}

/-- The exits of a motion that moves, read exactly, are the boxes it leaves before its end,
each with the parameter at which it leaves. -/
theorem mem_exitsWithin_coe (hbs : ∀ c ∈ bs, (RoadBox.widened c).Nonempty) (hd : d ≠ 0)
    {e : EReal × (EReal × EReal) × (EReal × EReal)} :
    e ∈ exitsWithin (bs.map toExtCorners) (toExt o) (toExt d) ↔
      ∃ c ∈ bs, ∃ t : ℝ, LeavesAt c o d t ∧ e = ((t : EReal), toExtCorners c) := by
  simp only [exitsWithin, List.mem_mergeSort, List.mem_filterMap, List.mem_map]
  constructor
  · rintro ⟨_, ⟨c, hc, rfl⟩, hf⟩
    cases hx : exitWithin (toExtCorners c).1 (toExtCorners c).2 (toExt o) (toExt d) with
    | none => simp [hx] at hf
    | some t =>
      obtain ⟨x, rfl, hgreat, hx₀, -⟩ := (exitWithin_eq_some_iff (hbs c hc) hd).mp hx
      rw [hx] at hf
      simp only [one_lit, EReal.coe_lt_coe_iff] at hf
      split_ifs at hf with hx₁
      exact ⟨c, hc, x, ⟨hgreat, hx₀, hx₁⟩, (Option.some.inj hf).symm⟩
  · rintro ⟨c, hc, t, ⟨hgreat, ht₀, ht₁⟩, rfl⟩
    have hx : exitWithin (toExtCorners c).1 (toExtCorners c).2 (toExt o) (toExt d) = some (t : EReal) :=
      (exitWithin_eq_some_iff (hbs c hc) hd).mpr ⟨t, rfl, hgreat, ht₀, t, ⟨ht₀, ht₁.le⟩, hgreat.1⟩
    refine ⟨toExtCorners c, ⟨c, hc, rfl⟩, ?_⟩
    rw [hx]
    simp only [one_lit, EReal.coe_lt_coe_iff, if_pos ht₁]

/-- The exits come in the order of their parameters. -/
theorem exitsWithin_sorted (boxes : List ((EReal × EReal) × (EReal × EReal))) (o d : EReal × EReal) :
    (exitsWithin boxes o d).Pairwise fun a b => a.1 ≤ b.1 := by
  have h : ∀ l : List (EReal × (EReal × EReal) × (EReal × EReal)),
      (l.mergeSort fun a b => Arith.totalLe a.1 b.1).Pairwise fun a b => Arith.totalLe a.1 b.1 :=
    List.pairwise_mergeSort
      (fun a b c hab hbc => by simp only [totalLe_eq, decide_eq_true_eq] at *; exact hab.trans hbc)
      (fun a b => by simpa using le_total a.1 b.1)
  exact (h _).imp fun hab => by simpa using hab

/-- The length of a motion, read exactly. -/
noncomputable def moveLength (d : ℝ × ℝ) : ℝ := Real.sqrt (d.1 * d.1 + d.2 * d.2)

theorem moveLength_pos (hd : d ≠ 0) : 0 < moveLength d := by
  apply Real.sqrt_pos.mpr
  by_cases h₁ : d.1 = 0
  · have h₂ : d.2 ≠ 0 := fun h₂ => hd (Prod.ext h₁ h₂)
    nlinarith [mul_self_pos.mpr h₂, mul_self_nonneg d.1]
  · nlinarith [mul_self_pos.mpr h₁, mul_self_nonneg d.2]

/-- The parameter the stop test looks at after an exit at `t`: one look-ahead step further
along the motion, but not past its end. -/
noncomputable def probe (d : ℝ × ℝ) (t : ℝ) : ℝ := min (t + RoadBox.lookAhead / moveLength d) 1

theorem delta_coe (src dst : ℝ × ℝ) :
    ((toExt dst).1 - (toExt src).1, (toExt dst).2 - (toExt src).2) = toExt (dst - src) := by
  simp [toExt, EReal.coe_sub]

theorem length_coe (src dst : ℝ × ℝ) :
    GridArith.sqrt (((toExt dst).1 - (toExt src).1) * ((toExt dst).1 - (toExt src).1) +
      ((toExt dst).2 - (toExt src).2) * ((toExt dst).2 - (toExt src).2)) =
        ((moveLength (dst - src) : ℝ) : EReal) := by
  simp only [toExt, ← EReal.coe_sub, ← EReal.coe_mul, ← EReal.coe_add, sqrt_coe, moveLength,
    Prod.fst_sub, Prod.snd_sub]

/-- The probe after an exit at `t`, read exactly, is on the area when the grid covers it. -/
theorem probe_coe (src d : ℝ × ℝ) (t : ℝ) :
    covers (bs.map toExtCorners) (along (toExt src) (toExt d)
        (Bounds.minNum ((t : EReal) + RoadBox.lookAhead / (moveLength d : EReal)) 1.0)) = true ↔
      src + probe d t • d ∈ area bs := by
  rw [lookAhead_eq, ← EReal.coe_div, ← EReal.coe_add, one_lit, minNum_eq, ← coe_min, along_coe,
    covers_coe]
  rfl

/-- A move of length zero ends at its target. -/
theorem clipWithin_of_stays {src dst : ℝ × ℝ} (hd : dst - src = 0) :
    clipWithin (bs.map toExtCorners) (toExt src) (toExt dst) = toExt dst := by
  have h0 : ((moveLength (dst - src) : EReal) == 0.0) = true := by
    simp [hd, moveLength, zero_lit]
  simp only [clipWithin, length_coe, h0, ↓reduceIte]

/-- In a list sorted by a key, the first item that passes a test comes after every item of a
smaller key, so those fail the test. -/
theorem find?_eq_false_of_lt {α β : Type} [LinearOrder β] {key : α → β} {p : α → Bool}
    {l : List α} {x y : α} (hsorted : l.Pairwise fun a b => key a ≤ key b)
    (hfind : l.find? p = some x) (hy : y ∈ l) (hlt : key y < key x) : p y = false := by
  obtain ⟨-, pre, post, rfl, hbefore⟩ := List.find?_eq_some_iff_append.mp hfind
  rw [List.pairwise_append, List.pairwise_cons] at hsorted
  rcases List.mem_append.mp hy with hpre | hpost
  · simpa using hbefore y hpre
  · -- an item at or after the one found has a key no smaller
    have hle : key x ≤ key y := by
      rcases List.mem_cons.mp hpost with rfl | hpost
      · exact le_rfl
      · exact hsorted.2.1.1 y hpost
    exact absurd hle (not_le.mpr hlt)

/-- A move from a point of the area that moves, read exactly, ends in one of two ways. No exit
stops it, the area holding the probe of every exit before its end, and it reaches its target;
or it stops at an exit whose probe is off the area, held inside the box it leaves, and the area
holds the probe of every exit at a smaller parameter. -/
theorem clipWithin_cases {src dst : ℝ × ℝ} (hbs : ∀ c ∈ bs, (RoadBox.widened c).Nonempty)
    (hd : dst - src ≠ 0) (hsrc : src ∈ area bs) :
    (clipWithin (bs.map toExtCorners) (toExt src) (toExt dst) = toExt dst ∧
        ∀ c ∈ bs, ∀ t, LeavesAt c src (dst - src) t →
          src + probe (dst - src) t • (dst - src) ∈ area bs) ∨
      ∃ c ∈ bs, ∃ t, LeavesAt c src (dst - src) t ∧
        src + probe (dst - src) t • (dst - src) ∉ area bs ∧
        clipWithin (bs.map toExtCorners) (toExt src) (toExt dst) =
          toExt (clampInto c (src + t • (dst - src))) ∧
        ∀ c' ∈ bs, ∀ t' < t, LeavesAt c' src (dst - src) t' →
          src + probe (dst - src) t' • (dst - src) ∈ area bs := by
  have hmoves : ((moveLength (dst - src) : EReal) == 0.0) = false := by
    simp [zero_lit, (moveLength_pos hd).ne']
  have hcov : covers (bs.map toExtCorners) (toExt src) = true := (covers_coe bs src).mpr hsrc
  have hexits := fun e => mem_exitsWithin_coe (o := src) (e := e) hbs hd
  simp only [clipWithin, length_coe, hmoves, hcov, delta_coe, Bool.false_eq_true, ↓reduceIte,
    Bool.not_true]
  split
  · -- the search stops at an exit; every exit of a smaller parameter passed
    rename_i t c' hfind
    obtain ⟨c, hc, x, hleave, he⟩ := (hexits _).mp (List.mem_of_find?_eq_some hfind)
    obtain ⟨rfl, rfl⟩ := Prod.mk.inj he
    right
    refine ⟨c, hc, x, hleave, ?_, by rw [along_coe, clampInto_coe], fun c₁ hc₁ t₁ ht₁ hleave₁ => ?_⟩
    · simpa only [Bool.not_eq_true', ← Bool.not_eq_true, probe_coe] using List.find?_some hfind
    · have hpassed := find?_eq_false_of_lt (exitsWithin_sorted _ _ _) hfind
        ((hexits _).mpr ⟨c₁, hc₁, t₁, hleave₁, rfl⟩) (EReal.coe_lt_coe_iff.mpr ht₁)
      simpa only [Bool.not_eq_false', probe_coe] using hpassed
  · -- the search passes every exit
    rename_i hfind
    left
    refine ⟨rfl, fun c hc t hleave => ?_⟩
    simpa only [Bool.not_eq_true', Bool.not_eq_false, probe_coe] using List.find?_eq_none.mp hfind _ ((hexits _).mpr ⟨c, hc, t, hleave, rfl⟩)

/-- The area the roads cover, read exactly: the union of their boxes, widened by half a road
width and by the tolerance. -/
def roadArea (roads : List Road) : Set (ℝ × ℝ) := area (roads.map exactCorners)

theorem cornersOf_roads (roads : List Road) :
    roads.map (cornersOf · (Road.halfWidth : EReal)) = (roads.map exactCorners).map toExtCorners := by
  rw [List.map_map]
  exact List.map_congr_left fun r _ => cornersOf_exact r

/-- The grid of the roads, read exactly, covers a point exactly when it lies in their area. -/
theorem covers_roads (roads : List Road) (p : ℝ × ℝ) :
    covers (roads.map (cornersOf · Road.halfWidth)) (toExt p) = true ↔ p ∈ roadArea roads := by
  rw [cornersOf_roads, covers_coe]
  rfl

/-- The grid of a list of roads clips a move as `clipWithin` does on the corners of the roads'
boxes. -/
theorem clip_ofRoads (roads : List Road) (src dst : Vec2) :
    (ofRoads roads).clip src dst =
      ⟨(clipWithin (roads.map (cornersOf · Road.halfWidth)) (src.x, src.y) (dst.x, dst.y)).1,
        (clipWithin (roads.map (cornersOf · Road.halfWidth)) (src.x, src.y) (dst.x, dst.y)).2⟩ := by
  simp only [clip, ofRoads, List.map_map]
  rfl

end RoadGrid

end RoadFetch
