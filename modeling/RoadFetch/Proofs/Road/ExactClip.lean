import RoadFetch.Proofs.Road.ExactGrid
import Mathlib

/-! # Clipped moves, read exactly

A move from a point of the roads' area ends in that area, whatever its direction. When no exit
stops it, it reaches its target, and the target is in the area: otherwise the motion would be
in the area for the last time before its end, some box would be left there for the last time,
and the point one look-ahead step past that exit would be off the area
(`RoadGrid.target_mem_of_passes`). When an exit stops it, it is held inside the box it leaves.

Along an axis the stop is exactly where the motion first leaves the area, the supremum of the
parameters up to which it stays there (`RoadGrid.reach`). That rests on spacing: road ends are
integers, so along an axis the ends of their boxes, widened by `0.4025`, are equal or at least
`0.195` apart, further than the look-ahead of `0.005` (`RoadGrid.endsSpaced_int`). An exit
before the first one from the area then has the area still under its look-ahead point, and the
first one has none (`RoadGrid.probe_mem_of_lt`, `RoadGrid.probe_not_mem`).

Main statement: `RoadGrid.clipWithin_exact`.
-/

namespace RoadFetch

open ExactBounds ExactGrid

namespace RoadGrid

open RoadBox

variable {bs : List ((ℝ × ℝ) × (ℝ × ℝ))} {o d : ℝ × ℝ}

/-! ### Where the motion is in the area -/

/-- The parameters at which the motion `src + t • d` is in the area. -/
def onArea (bs : List ((ℝ × ℝ) × (ℝ × ℝ))) (src d : ℝ × ℝ) : Set ℝ := {t | src + t • d ∈ area bs}

theorem isClosed_onArea (bs : List ((ℝ × ℝ) × (ℝ × ℝ))) (src d : ℝ × ℝ) :
    IsClosed (onArea bs src d) :=
  (isClosed_area bs).preimage (by fun_prop)

theorem hits_subset_onArea {c : (ℝ × ℝ) × (ℝ × ℝ)} (hc : c ∈ bs) (src d : ℝ × ℝ) :
    hits c.1 c.2 src d ⊆ onArea bs src d :=
  fun _ ht => ⟨c, hc, ht⟩

/-- A box the motion meets holds it on an interval of parameters. -/
theorem hits_eq_Icc {c : (ℝ × ℝ) × (ℝ × ℝ)} (hc : (RoadBox.widened c).Nonempty) (hd : d ≠ 0)
    {t : ℝ} (ht : t ∈ hits c.1 c.2 o d) : ∃ e x, hits c.1 c.2 o d = Set.Icc e x := by
  rcases exitWithin_cases c.1 c.2 o d (tolerantBox_nonempty_iff.mp hc) hd with ⟨-, hempty⟩ | ⟨e, x, hint, -⟩
  · rw [hempty] at ht
    exact absurd ht (Set.notMem_empty t)
  · exact ⟨e, x, hint⟩

/-- No stretch of the motion from `τ` to a later parameter up to its end stays in the area. -/
def Stuck (bs : List ((ℝ × ℝ) × (ℝ × ℝ))) (src d : ℝ × ℝ) (τ : ℝ) : Prop :=
  ∀ s ∈ Set.Ioc τ 1, ¬ Set.Icc τ s ⊆ onArea bs src d

/-- A box that holds a motion stuck at `τ` holds it there for the last time. -/
theorem isGreatest_of_stuck {c : (ℝ × ℝ) × (ℝ × ℝ)} (hc : c ∈ bs)
    (hnon : (RoadBox.widened c).Nonempty) (hd : d ≠ 0) {τ : ℝ} (hτ : τ ∈ hits c.1 c.2 o d)
    (hτ₁ : τ < 1) (hstuck : Stuck bs o d τ) : IsGreatest (hits c.1 c.2 o d) τ := by
  refine ⟨hτ, fun t ht => not_lt.mp fun hlt => ?_⟩
  obtain ⟨e, x, hint⟩ := hits_eq_Icc hnon hd hτ
  rw [hint] at hτ ht
  -- the box holds the motion from `τ` on to `t`, or to the end if that comes first
  refine hstuck (min t 1) ⟨lt_min hlt hτ₁, min_le_right _ _⟩ fun s hs => ?_
  refine hits_subset_onArea hc o d ?_
  rw [hint]
  exact ⟨hτ.1.trans hs.1, hs.2.trans ((min_le_left _ _).trans ht.2)⟩

/-- A motion that is in the area at `τ` in `[0, 1)` and stuck there leaves some box at `τ`. -/
theorem leavesAt_of_stuck (hbs : ∀ c ∈ bs, (RoadBox.widened c).Nonempty) (hd : d ≠ 0) {τ : ℝ}
    (hτ : τ ∈ onArea bs o d) (hτ₀ : 0 ≤ τ) (hτ₁ : τ < 1) (hstuck : Stuck bs o d τ) :
    ∃ c ∈ bs, LeavesAt c o d τ := by
  obtain ⟨c, hc, hin⟩ := hτ
  exact ⟨c, hc, isGreatest_of_stuck hc (hbs c hc) hd hin hτ₁ hstuck, hτ₀, hτ₁⟩

/-! ### The probe -/

theorem step_pos (hd : d ≠ 0) : 0 < RoadBox.lookAhead / moveLength d :=
  div_pos lookAhead_pos (moveLength_pos hd)

theorem probe_mem {t : ℝ} (ht : 0 ≤ t) : probe d t ∈ Set.Icc (0 : ℝ) 1 := by
  have : 0 ≤ RoadBox.lookAhead / moveLength d :=
    div_nonneg lookAhead_pos.le (Real.sqrt_nonneg _)
  exact ⟨le_min (by linarith) zero_le_one, min_le_right _ _⟩

theorem lt_probe (hd : d ≠ 0) {t : ℝ} (ht : t < 1) : t < probe d t :=
  lt_min (lt_add_of_pos_right t (step_pos hd)) ht

/-! ### Every move ends in the area -/

/-- A motion from the area that passes every exit before its end ends in the area. Otherwise
it would be in the area for the last time at some `σ < 1`; some box holds it there for the last
time, and the probe of that exit, a parameter in `(σ, 1]`, would be off the area. -/
theorem target_mem_of_passes (hbs : ∀ c ∈ bs, (RoadBox.widened c).Nonempty) {src dst : ℝ × ℝ}
    (hd : dst - src ≠ 0) (hsrc : src ∈ area bs)
    (hpass : ∀ c ∈ bs, ∀ t, LeavesAt c src (dst - src) t →
      src + probe (dst - src) t • (dst - src) ∈ area bs) :
    dst ∈ area bs := by
  by_contra hdst
  set S := Set.Icc (0 : ℝ) 1 ∩ onArea bs src (dst - src)
  have hbdd : BddAbove S := ⟨1, fun s hs => hs.1.2⟩
  have hσ : sSup S ∈ S := (isClosed_Icc.inter (isClosed_onArea bs src _)).csSup_mem
    ⟨0, ⟨le_rfl, zero_le_one⟩, by simpa [onArea] using hsrc⟩ hbdd
  have hσ₁ : sSup S < 1 := by
    refine lt_of_le_of_ne hσ.1.2 fun h => hdst ?_
    simpa [h, onArea] using hσ.2
  have hstuck : Stuck bs src (dst - src) (sSup S) := fun s hs hsub =>
    (not_le.mpr hs.1) (le_csSup hbdd ⟨⟨hσ.1.1.trans hs.1.le, hs.2⟩, hsub ⟨hs.1.le, le_rfl⟩⟩)
  obtain ⟨c, hc, hleave⟩ := leavesAt_of_stuck hbs hd hσ.2 hσ.1.1 hσ₁ hstuck
  exact (not_le.mpr (lt_probe hd hσ₁))
    (le_csSup hbdd ⟨probe_mem hσ.1.1, hpass c hc _ hleave⟩)

/-- Read exactly, a move from a point of the area ends at a point of the area. -/
theorem clipWithin_mem_area (hbs : ∀ c ∈ bs, (RoadBox.widened c).Nonempty) {src : ℝ × ℝ}
    (dst : ℝ × ℝ) (hsrc : src ∈ area bs) :
    ∃ p ∈ area bs, clipWithin (bs.map toExtCorners) (toExt src) (toExt dst) = toExt p := by
  by_cases hd : dst - src = 0
  · refine ⟨dst, ?_, clipWithin_of_stays hd⟩
    rwa [sub_eq_zero.mp hd]
  rcases clipWithin_cases hbs hd hsrc with ⟨hclip, hpass⟩ | ⟨c, hc, t, -, -, hclip, -⟩
  · exact ⟨dst, target_mem_of_passes hbs hd hsrc hpass, hclip⟩
  · exact ⟨_, ⟨c, hc, clampInto_mem (hbs c hc) _⟩, hclip⟩

/-! ### Where a move between spaced boxes stops -/

/-- The supremum of the parameters `s` in `[0, 1]` up to which the motion from `src` toward
`dst` stays in `A`. -/
noncomputable def reach (A : Set (ℝ × ℝ)) (src dst : ℝ × ℝ) : ℝ :=
  sSup {s | s ∈ Set.Icc (0 : ℝ) 1 ∧ ∀ s' ∈ Set.Icc 0 s, src + s' • (dst - src) ∈ A}

/-- From a point of the area, the motion stays in the area up to its reach, which lies in
`[0, 1]`, and is stuck there. -/
theorem reach_spec {src : ℝ × ℝ} (dst : ℝ × ℝ) (hsrc : src ∈ area bs) :
    reach (area bs) src dst ∈ Set.Icc (0 : ℝ) 1 ∧
      Set.Icc 0 (reach (area bs) src dst) ⊆ onArea bs src (dst - src) ∧
      Stuck bs src (dst - src) (reach (area bs) src dst) := by
  set R := {s | s ∈ Set.Icc (0 : ℝ) 1 ∧ ∀ s' ∈ Set.Icc 0 s, src + s' • (dst - src) ∈ area bs}
  have hreach : reach (area bs) src dst = sSup R := rfl
  have hbdd : BddAbove R := ⟨1, fun s hs => hs.1.2⟩
  have h0 : (0 : ℝ) ∈ R := ⟨⟨le_rfl, zero_le_one⟩, fun s' hs' => by
    rw [le_antisymm hs'.2 hs'.1]
    simpa using hsrc⟩
  have hτ₀ : 0 ≤ sSup R := le_csSup hbdd h0
  -- below the supremum every parameter lies under some member of `R`; the area is closed
  have hIco : Set.Ico 0 (sSup R) ⊆ onArea bs src (dst - src) := fun s hs => by
    obtain ⟨a, ha, hsa⟩ := exists_lt_of_lt_csSup ⟨0, h0⟩ hs.2
    exact ha.2 s ⟨hs.1, hsa.le⟩
  have hIcc : Set.Icc 0 (sSup R) ⊆ onArea bs src (dst - src) := by
    rcases hτ₀.eq_or_lt with h | h
    · rw [← h, Set.Icc_self, Set.singleton_subset_iff]
      simpa [onArea] using hsrc
    · rw [← closure_Ico h.ne]
      exact (isClosed_onArea bs src _).closure_subset_iff.mpr hIco
  rw [hreach]
  refine ⟨⟨hτ₀, csSup_le ⟨0, h0⟩ fun s hs => hs.1.2⟩, hIcc, fun s hs hsub => ?_⟩
  refine (not_le.mpr hs.1) (le_csSup hbdd ⟨⟨hτ₀.trans hs.1.le, hs.2⟩, fun s' hs' => ?_⟩)
  rcases le_total s' (sSup R) with h | h
  · exact hIcc ⟨hs'.1, h⟩
  · exact hsub ⟨h, hs'.2⟩

/-- The motion's ends in the boxes lie more than one look-ahead step apart: a box left after
another is left more than a step later, and a box entered after another is left is entered
more than a step later. -/
def Spaced (bs : List ((ℝ × ℝ) × (ℝ × ℝ))) (src d : ℝ × ℝ) : Prop :=
  ∀ b ∈ bs, ∀ c ∈ bs, ∀ x y : ℝ, IsGreatest (hits b.1 b.2 src d) x →
    (IsGreatest (hits c.1 c.2 src d) y → x < y → x + RoadBox.lookAhead / moveLength d < y) ∧
    (IsLeast (hits c.1 c.2 src d) y → x < y → x + RoadBox.lookAhead / moveLength d < y)

/-- Between spaced boxes, the probe of a box left where the motion is stuck is off the area:
a box holding the probe but not the exit is entered after it, hence more than a step later. -/
theorem probe_not_mem (hbs : ∀ c ∈ bs, (RoadBox.widened c).Nonempty) (hd : d ≠ 0)
    (hsp : Spaced bs o d) {b : (ℝ × ℝ) × (ℝ × ℝ)} (hb : b ∈ bs) {τ : ℝ} (hleave : LeavesAt b o d τ)
    (hstuck : Stuck bs o d τ) : o + probe d τ • d ∉ area bs := by
  rintro ⟨c, hc, hq⟩
  obtain ⟨e, x, hint⟩ := hits_eq_Icc (hbs c hc) hd (t := probe d τ) hq
  have hq' : probe d τ ∈ Set.Icc e x := hint ▸ hq
  have hlt := lt_probe hd hleave.2.2
  -- the box does not hold the motion at `τ`, or it would hold it on to the probe
  have he : τ < e := by
    refine not_le.mp fun hle => hstuck (probe d τ) ⟨hlt, (probe_mem hleave.2.1).2⟩ fun s hs => ?_
    refine hits_subset_onArea hc o d ?_
    rw [hint]
    exact ⟨hle.trans hs.1, hs.2.trans hq'.2⟩
  have hleast : IsLeast (hits c.1 c.2 o d) e := hint ▸ isLeast_Icc (hq'.1.trans hq'.2)
  have hgap := (hsp b hb c hc τ e hleave.1).2 hleast he
  have hstep : probe d τ ≤ τ + RoadBox.lookAhead / moveLength d := min_le_left _ _
  linarith [hq'.1]

/-- Between spaced boxes, the probe of an exit before a later one up to which the motion is in
the area lies in the area. -/
theorem probe_mem_of_lt (hsp : Spaced bs o d) {b c : (ℝ × ℝ) × (ℝ × ℝ)} (hb : b ∈ bs)
    (hc : c ∈ bs) {t τ : ℝ} (ht : LeavesAt c o d t) (hτ : LeavesAt b o d τ) (hlt : t < τ)
    (hcov : Set.Icc 0 τ ⊆ onArea bs o d) : o + probe d t • d ∈ area bs :=
  hcov ⟨(probe_mem ht.2.1).1, (min_le_left _ _).trans ((hsp c hc b hb t τ ht.1).1 hτ.1 hlt).le⟩

/-- Read exactly, a move from a point of the area between spaced boxes reaches its target when
the whole motion stays in the area, and otherwise stops where the motion first leaves it. -/
theorem clipWithin_of_spaced (hbs : ∀ c ∈ bs, (RoadBox.widened c).Nonempty) {src dst : ℝ × ℝ}
    (hsrc : src ∈ area bs) (hsp : dst - src ≠ 0 → Spaced bs src (dst - src)) :
    ((∀ s ∈ Set.Icc (0 : ℝ) 1, src + s • (dst - src) ∈ area bs) →
        clipWithin (bs.map toExtCorners) (toExt src) (toExt dst) = toExt dst) ∧
      ((¬ ∀ s ∈ Set.Icc (0 : ℝ) 1, src + s • (dst - src) ∈ area bs) →
        clipWithin (bs.map toExtCorners) (toExt src) (toExt dst) =
          toExt (src + reach (area bs) src dst • (dst - src))) := by
  by_cases hd : dst - src = 0
  · refine ⟨fun _ => clipWithin_of_stays hd, fun hnot => absurd (fun s _ => ?_) hnot⟩
    simpa [hd] using hsrc
  replace hsp := hsp hd
  obtain ⟨⟨hτ₀, hτ₁⟩, hcov, hstuck⟩ := reach_spec dst hsrc
  -- when the motion leaves the area, it first does so before its end, leaving some box
  have hfirst : (¬ ∀ s ∈ Set.Icc (0 : ℝ) 1, src + s • (dst - src) ∈ area bs) →
      ∃ b ∈ bs, LeavesAt b src (dst - src) (reach (area bs) src dst) := by
    intro hnot
    have hlt : reach (area bs) src dst < 1 :=
      lt_of_le_of_ne hτ₁ fun h => hnot fun s hs => hcov (h ▸ hs)
    exact leavesAt_of_stuck hbs hd (hcov ⟨hτ₀, le_rfl⟩) hτ₀ hlt hstuck
  rcases clipWithin_cases hbs hd hsrc with ⟨hclip, hpass⟩ |
    ⟨c, hc, t, hleave, hoff, hclip, hbefore⟩
  · -- no exit stops the move, so the motion never leaves the area
    have hall : ∀ s ∈ Set.Icc (0 : ℝ) 1, src + s • (dst - src) ∈ area bs := by
      by_contra hnot
      obtain ⟨b, hb, hleave⟩ := hfirst hnot
      exact probe_not_mem hbs hd hsp hb hleave hstuck (hpass b hb _ hleave)
    exact ⟨fun _ => hclip, fun hnot => absurd hall hnot⟩
  · have hnot : ¬ ∀ s ∈ Set.Icc (0 : ℝ) 1, src + s • (dst - src) ∈ area bs :=
      fun hall => hoff (hall _ (probe_mem hleave.2.1))
    obtain ⟨b, hb, hleaveb⟩ := hfirst hnot
    -- the exit that stops the move is the first exit from the area
    have ht : t = reach (area bs) src dst := by
      rcases lt_trichotomy t (reach (area bs) src dst) with h | h | h
      · exact absurd (probe_mem_of_lt hsp hb hc hleave hleaveb h hcov) hoff
      · exact h
      · exact absurd (hbefore b hb _ h hleaveb) (probe_not_mem hbs hd hsp hb hleaveb hstuck)
    refine ⟨fun hall => absurd hall hnot, fun _ => ?_⟩
    rw [hclip, ← ht, clampInto_of_mem hleave.1.1]

/-! ### Spacing along an axis -/

/-- Ends along one axis, `l` and `u` of one interval and `l'` and `u'` of another: upper ends
that differ, lower ends that differ, and an upper end before a lower one lie more than the
look-ahead apart. -/
def EndsSpaced (l u l' u' : ℝ) : Prop :=
  (u < u' → u + RoadBox.lookAhead < u') ∧ (l < l' → l + RoadBox.lookAhead < l') ∧
    (u < l' → u + RoadBox.lookAhead < l')

/-- The parameters at which a motion along an axis meets two coordinates lie more than a
look-ahead step apart when the coordinates, in the order the motion meets them, do. -/
theorem param_step_lt {o s a b : ℝ}
    (h : 0 < s ∧ a + RoadBox.lookAhead < b ∨ s < 0 ∧ b + RoadBox.lookAhead < a) :
    (a - o) / s + RoadBox.lookAhead / |s| < (b - o) / s := by
  rcases h with ⟨hs, hab⟩ | ⟨hs, hba⟩
  · rw [abs_of_pos hs, ← add_div, div_lt_div_iff_of_pos_right hs]
    linarith
  · rw [abs_of_neg hs, div_neg, ← sub_eq_add_neg, div_sub_div_same, div_lt_div_right_of_neg hs]
    linarith

/-- Along an axis, a motion leaves an interval at its far end and enters one at its near end,
so spaced ends give spaced parameters, a step being the look-ahead over the speed `|s|`. -/
theorem axisHits_spaced {o s l u l' u' : ℝ} (hs : s ≠ 0) (hlu : l ≤ u) (hlu' : l' ≤ u')
    (h : EndsSpaced l u l' u') (h' : EndsSpaced l' u' l u) {x y : ℝ}
    (hx : IsGreatest (axisHits o s l u) x) :
    (IsGreatest (axisHits o s l' u') y → x < y → x + RoadBox.lookAhead / |s| < y) ∧
      (IsLeast (axisHits o s l' u') y → x < y → x + RoadBox.lookAhead / |s| < y) := by
  rcases hs.lt_or_gt with hneg | hpos
  · -- moving backwards: left at the lower end, entered at the upper end
    have hle : ∀ {a b : ℝ}, a ≤ b → (b - o) / s ≤ (a - o) / s := fun hab =>
      div_le_div_of_nonpos_of_le hneg.le (by linarith)
    rw [axisHits_of_neg hneg] at hx
    obtain rfl := hx.unique (isGreatest_Icc (hle hlu))
    rw [axisHits_of_neg hneg]
    refine ⟨fun hy hxy => ?_, fun hy hxy => ?_⟩
    · obtain rfl := hy.unique (isGreatest_Icc (hle hlu'))
      have hl : l' < l := by linarith [(div_lt_div_right_of_neg hneg).mp hxy]
      exact param_step_lt (.inr ⟨hneg, h'.2.1 hl⟩)
    · obtain rfl := hy.unique (isLeast_Icc (hle hlu'))
      have hl : u' < l := by linarith [(div_lt_div_right_of_neg hneg).mp hxy]
      exact param_step_lt (.inr ⟨hneg, h'.2.2 hl⟩)
  · -- moving forwards: left at the upper end, entered at the lower end
    have hle : ∀ {a b : ℝ}, a ≤ b → (a - o) / s ≤ (b - o) / s := fun hab =>
      div_le_div_of_nonneg_right (by linarith) hpos.le
    rw [axisHits_of_pos hpos] at hx
    obtain rfl := hx.unique (isGreatest_Icc (hle hlu))
    rw [axisHits_of_pos hpos]
    refine ⟨fun hy hxy => ?_, fun hy hxy => ?_⟩
    · obtain rfl := hy.unique (isGreatest_Icc (hle hlu'))
      have hu : u < u' := by linarith [(div_lt_div_iff_of_pos_right hpos).mp hxy]
      exact param_step_lt (.inl ⟨hpos, h.1 hu⟩)
    · obtain rfl := hy.unique (isLeast_Icc (hle hlu'))
      have hu : u < l' := by linarith [(div_lt_div_iff_of_pos_right hpos).mp hxy]
      exact param_step_lt (.inl ⟨hpos, h.2.2 hu⟩)

/-- Boxes that a motion meets exactly where it is within their slabs along one axis, moving
at speed `|s|` along it, and whose ends along that axis are spaced, are spaced. -/
theorem spaced_of_slabs (o₁ : ℝ) {s : ℝ} (hs : s ≠ 0) (hlen : moveLength d = |s|)
    (lo hi : (ℝ × ℝ) × (ℝ × ℝ) → ℝ) (hlu : ∀ c ∈ bs, lo c ≤ hi c)
    (hhits : ∀ c ∈ bs, (hits c.1 c.2 o d).Nonempty → hits c.1 c.2 o d = axisHits o₁ s (lo c) (hi c))
    (hends : ∀ b ∈ bs, ∀ c ∈ bs, EndsSpaced (lo b) (hi b) (lo c) (hi c)) : Spaced bs o d := by
  intro b hb c hc x y hx
  rw [hhits b hb ⟨x, hx.1⟩] at hx
  have h := axisHits_spaced hs (hlu b hb) (hlu c hc) (hends b hb c hc) (hends c hc b hb) (y := y) hx
  rw [hlen]
  exact ⟨fun hy => h.1 (hhits c hc ⟨y, hy.1⟩ ▸ hy), fun hy => h.2 (hhits c hc ⟨y, hy.1⟩ ▸ hy)⟩

/-- A motion along the first axis meets a box, if at all, where it is within the box's first
slab. -/
theorem hits_of_snd_eq_zero {lo hi : ℝ × ℝ} (hd : d.2 = 0) (hne : (hits lo hi o d).Nonempty) :
    hits lo hi o d = axisHits o.1 d.1 (lo.1 - tolerance) (hi.1 + tolerance) := by
  rw [hits_eq_inter, hd, axisHits_zero] at hne ⊢
  split_ifs at hne ⊢
  · exact Set.inter_univ _
  · simp at hne

/-- A motion along the second axis meets a box, if at all, where it is within the box's second
slab. -/
theorem hits_of_fst_eq_zero {lo hi : ℝ × ℝ} (hd : d.1 = 0) (hne : (hits lo hi o d).Nonempty) :
    hits lo hi o d = axisHits o.2 d.2 (lo.2 - tolerance) (hi.2 + tolerance) := by
  rw [hits_eq_inter, hd, axisHits_zero] at hne ⊢
  split_ifs at hne ⊢
  · exact Set.univ_inter _
  · simp at hne

/-- Ends of road boxes along an axis lie on integers widened by `0.4025`: upper ends that differ
lie at least `1` apart, and so do lower ends, and an upper end before a lower one at least
`0.195`, all further apart than the look-ahead. -/
theorem endsSpaced_int (m M m' M' : ℤ) :
    EndsSpaced ((m : ℝ) - Road.halfWidth - tolerance) ((M : ℝ) + Road.halfWidth + tolerance)
      ((m' : ℝ) - Road.halfWidth - tolerance) ((M' : ℝ) + Road.halfWidth + tolerance) := by
  have hw := halfWidth_add_tolerance
  have hla : (lookAhead : ℝ) = 0.005 := by norm_num [lookAhead]
  refine ⟨fun h => ?_, fun h => ?_, fun h => ?_⟩
  · have hlt : M < M' := by exact_mod_cast (by linarith : (M : ℝ) < M')
    have : (M : ℝ) + 1 ≤ M' := by exact_mod_cast hlt
    linarith
  · have hlt : m < m' := by exact_mod_cast (by linarith : (m : ℝ) < m')
    have : (m : ℝ) + 1 ≤ m' := by exact_mod_cast hlt
    linarith
  · have hlt : M < m' := by exact_mod_cast (by linarith : (M : ℝ) < m')
    have : (M : ℝ) + 1 ≤ m' := by exact_mod_cast hlt
    linarith

/-- A motion along an axis among the boxes of roads is spaced. -/
theorem spaced_roads (roads : List Road) (hax : d.1 = 0 ∨ d.2 = 0) (hd : d ≠ 0) :
    Spaced (roads.map exactCorners) o d := by
  rcases hax with h₁ | h₂
  · -- along the second axis
    have hs : d.2 ≠ 0 := fun h₂ => hd (Prod.ext h₁ h₂)
    refine spaced_of_slabs o.2 hs (by simp [moveLength, h₁, Real.sqrt_mul_self_eq_abs])
      (fun c => c.1.2 - tolerance) (fun c => c.2.2 + tolerance) ?_
      (fun c _ hne => hits_of_fst_eq_zero h₁ hne) ?_
    · intro c hc
      obtain ⟨r, -, rfl⟩ := List.mem_map.mp hc
      exact (exactCorners_le r).2
    · intro b hb c hc
      obtain ⟨r, -, rfl⟩ := List.mem_map.mp hb
      obtain ⟨r', -, rfl⟩ := List.mem_map.mp hc
      exact endsSpaced_int _ _ _ _
  · -- along the first axis
    have hs : d.1 ≠ 0 := fun h₁ => hd (Prod.ext h₁ h₂)
    refine spaced_of_slabs o.1 hs (by simp [moveLength, h₂, Real.sqrt_mul_self_eq_abs])
      (fun c => c.1.1 - tolerance) (fun c => c.2.1 + tolerance) ?_
      (fun c _ hne => hits_of_snd_eq_zero h₂ hne) ?_
    · intro c hc
      obtain ⟨r, -, rfl⟩ := List.mem_map.mp hc
      exact (exactCorners_le r).1
    · intro b hb c hc
      obtain ⟨r, -, rfl⟩ := List.mem_map.mp hb
      obtain ⟨r', -, rfl⟩ := List.mem_map.mp hc
      exact endsSpaced_int _ _ _ _

theorem toExt_inj {p q : ℝ × ℝ} : toExt p = toExt q ↔ p = q := by
  simp [toExt, Prod.ext_iff]

/-- Moves on the grid of roads, read exactly. From a point of the area the roads cover, a move
toward any target ends at a point of that area; a move along an axis reaches its target when
the whole way there lies in the area, and otherwise stops at the point where the way first
leaves it. -/
theorem clipWithin_exact (roads : List Road) (src dst : ℝ × ℝ) (hsrc : src ∈ roadArea roads) :
    ∃ p ∈ roadArea roads,
      clipWithin (roads.map (cornersOf · Road.halfWidth)) (toExt src) (toExt dst) = toExt p ∧
      (src.1 = dst.1 ∨ src.2 = dst.2 →
        ((∀ s ∈ Set.Icc (0 : ℝ) 1, src + s • (dst - src) ∈ roadArea roads) → p = dst) ∧
        ((¬ ∀ s ∈ Set.Icc (0 : ℝ) 1, src + s • (dst - src) ∈ roadArea roads) →
          p = src + reach (roadArea roads) src dst • (dst - src))) := by
  have hbs : ∀ c ∈ roads.map exactCorners, (widened c).Nonempty := by
    intro c hc
    obtain ⟨r, -, rfl⟩ := List.mem_map.mp hc
    exact exactCorners_nonempty r
  rw [cornersOf_roads]
  obtain ⟨p, hp, hclip⟩ := clipWithin_mem_area hbs dst hsrc
  refine ⟨p, hp, hclip, fun hax => ?_⟩
  have hax' : (dst - src).1 = 0 ∨ (dst - src).2 = 0 := by
    rcases hax with h | h
    · exact .inl (by simp [h])
    · exact .inr (by simp [h])
  obtain ⟨hall, hleft⟩ := clipWithin_of_spaced hbs hsrc fun hd => spaced_roads roads hax' hd
  exact ⟨fun h => toExt_inj.mp (hclip.symm.trans (hall h)),
    fun h => toExt_inj.mp (hclip.symm.trans (hleft h))⟩

/-- A move from the start of a road of length ten along it to twice its length. -/
theorem clipWithin_exact_along_road :
    let roads : List Road := [⟨⟨0, 0⟩, ⟨10, 0⟩⟩]
    let src : ℝ × ℝ := (0, 0)
    let dst : ℝ × ℝ := (20, 0)
    src ∈ roadArea roads ∧
      ∃ p ∈ roadArea roads,
        clipWithin (roads.map (cornersOf · Road.halfWidth)) (toExt src) (toExt dst) = toExt p ∧
        (src.1 = dst.1 ∨ src.2 = dst.2 →
          ((∀ s ∈ Set.Icc (0 : ℝ) 1, src + s • (dst - src) ∈ roadArea roads) → p = dst) ∧
          ((¬ ∀ s ∈ Set.Icc (0 : ℝ) 1, src + s • (dst - src) ∈ roadArea roads) →
            p = src + reach (roadArea roads) src dst • (dst - src))) := by
  intro roads src dst
  have hsrc : src ∈ roadArea roads := by
    refine ⟨exactCorners ⟨⟨0, 0⟩, ⟨10, 0⟩⟩, List.mem_singleton_self _, ?_⟩
    norm_num [widened, tolerantBox, exactCorners, Road.halfWidth, tolerance, lookAhead,
      Prod.le_def, src]
  exact ⟨hsrc, clipWithin_exact roads src dst hsrc⟩

end RoadGrid

end RoadFetch
