import RoadFetch.Proofs.Session.Gathering
import Mathlib

/-!
# Swept pickups, read exactly

Read in real numbers, over the plane `ℝ × ℝ`, the contact test is the geometry it stands for.
The squared distance from a centre to the point of a sweep at time `t` is a parabola in `t`,
least at the foot of the perpendicular (`Sweep.sqDistanceAt_eq`), so the foot held in `[0, 1]`
is the nearest time (`Sweep.nearest_clamp`), and the projection branch and the clamped-end
branch of the plain test both take the squared distance there (`Sweep.direct_eq`). The retry
with the extreme points of a disc never fires: an extreme point within the gatherer's radius of
the sweep would put the centre within the sum of the radii, by the triangle inequality
(`Sweep.corner_far`).

Main statement: `gatherEvents_exact`. For gatherers and discs of radii at least zero, every
contact is of a moving gatherer and a disc it reaches, at the nearest time and with the squared
distance there; each such pair has exactly one contact; and contacts go by time, simultaneous
ones by gatherer and then by disc.
-/

namespace RoadFetch

/-- Exact arithmetic: no NaN for the maximum to pass over, and times sorted by their order. -/
noncomputable instance : Arith ℝ where
  beq a b := decide (a = b)
  maxNum := max
  totalLe a b := decide (a ≤ b)

/-- The real plane, with the operations of the plane of doubles written the same way. -/
noncomputable instance : Plane (ℝ × ℝ) ℝ where
  point x y := (x, y)
  x p := p.1
  y p := p.2
  sub a b := (a.1 - b.1, a.2 - b.2)
  dot a b := a.1 * b.1 + a.2 * b.2
  lengthSq a := a.1 * a.1 + a.2 * a.2
  lerp a b t := (a.1 + (b.1 - a.1) * t, a.2 + (b.2 - a.2) * t)
  beq a b := decide (a = b)

namespace Exact

/-! ### The operations, read exactly -/

@[simp] theorem zero_lit : (0.0 : ℝ) = 0 := by norm_num

@[simp] theorem one_lit : (1.0 : ℝ) = 1 := by norm_num

@[simp] theorem beq_eq (a b : ℝ) : (a == b) = decide (a = b) := rfl

@[simp] theorem maxNum_eq (a b : ℝ) : Arith.maxNum a b = max a b := rfl

@[simp] theorem totalLe_eq (a b : ℝ) : Arith.totalLe a b = decide (a ≤ b) := rfl

@[simp] theorem sub_eq (a b : ℝ × ℝ) : Plane.sub a b = (a.1 - b.1, a.2 - b.2) := rfl

@[simp] theorem dot_eq (a b : ℝ × ℝ) : Plane.dot a b = a.1 * b.1 + a.2 * b.2 := rfl

@[simp] theorem lengthSq_eq (a : ℝ × ℝ) : Plane.lengthSq a = a.1 * a.1 + a.2 * a.2 := rfl

@[simp] theorem lerp_eq (a b : ℝ × ℝ) (t : ℝ) :
    Plane.lerp a b t = (a.1 + (b.1 - a.1) * t, a.2 + (b.2 - a.2) * t) := rfl

@[simp] theorem planeBeq_eq (a b : ℝ × ℝ) : Plane.beq a b = decide (a = b) := rfl

@[simp] theorem point_eq (x y : ℝ) : (Plane.point x y : ℝ × ℝ) = (x, y) := rfl

@[simp] theorem x_eq (a : ℝ × ℝ) : Plane.x a = a.1 := rfl

@[simp] theorem y_eq (a : ℝ × ℝ) : Plane.y a = a.2 := rfl

/-! ### Facts of the plane -/

/-- The triangle inequality, squared: a point within `a` of a point within `b` of a third is
within `a + b` of it. -/
theorem distanceSq_triangle {p c q : ℝ × ℝ} {a b : ℝ} (ha : 0 ≤ a) (hb : 0 ≤ b)
    (hpc : Plane.distanceSq p c ≤ a ^ 2) (hcq : Plane.distanceSq c q ≤ b ^ 2) :
    Plane.distanceSq p q ≤ (a + b) ^ 2 := by
  simp only [Plane.distanceSq, lengthSq_eq, sub_eq] at hpc hcq ⊢
  -- Cauchy–Schwarz for the two displacements, by Lagrange's identity
  have hcs : ((p.1 - c.1) * (c.1 - q.1) + (p.2 - c.2) * (c.2 - q.2)) ^ 2 ≤ (a * b) ^ 2 := by
    nlinarith [sq_nonneg ((p.1 - c.1) * (c.2 - q.2) - (p.2 - c.2) * (c.1 - q.1)),
      mul_le_mul hpc hcq (add_nonneg (mul_self_nonneg _) (mul_self_nonneg _)) (sq_nonneg a)]
  have hdot := (abs_le_of_sq_le_sq' hcs (by positivity)).2
  nlinarith

/-- A fold whose every step leaves its value alone at the elements of the list leaves it
alone. -/
theorem foldl_eq_of_forall_mem {α β : Type} {f : α → β → α} {a : α} :
    ∀ {l : List β}, (∀ b ∈ l, f a b = a) → l.foldl f a = a
  | [], _ => rfl
  | b :: l, h => by
    rw [List.foldl_cons, h b List.mem_cons_self,
      foldl_eq_of_forall_mem fun b hb => h b (List.mem_cons_of_mem _ hb)]

/-- Completing the square: the squared distance from `u` to `t • d` is the squared distance
to the line along `d`, and the squared length of `d` times the square of how far `t` is from the
foot of the perpendicular. -/
theorem parabola (u₁ u₂ d₁ d₂ t : ℝ) (hd : d₁ * d₁ + d₂ * d₂ ≠ 0) :
    (u₁ - d₁ * t) * (u₁ - d₁ * t) + (u₂ - d₂ * t) * (u₂ - d₂ * t) =
      u₁ * u₁ + u₂ * u₂ - (u₁ * d₁ + u₂ * d₂) * (u₁ * d₁ + u₂ * d₂) / (d₁ * d₁ + d₂ * d₂) +
        (d₁ * d₁ + d₂ * d₂) * (t - (u₁ * d₁ + u₂ * d₂) / (d₁ * d₁ + d₂ * d₂)) ^ 2 := by
  have hd' : d₁ ^ 2 + d₂ ^ 2 ≠ 0 := by rwa [sq, sq]
  field_simp
  ring

/-- Clamping to the unit interval gives a time in it, no farther from `r` than any other. -/
theorem clamp_nearest (r : ℝ) :
    Scalar.clamp r 0 1 ∈ Set.Icc (0 : ℝ) 1 ∧
      ∀ s ∈ Set.Icc (0 : ℝ) 1, (Scalar.clamp r 0 1 - r) ^ 2 ≤ (s - r) ^ 2 := by
  simp only [Scalar.clamp, Set.mem_Icc]
  split_ifs with h₀ h₁ h₁ <;>
    refine ⟨⟨by linarith, by linarith⟩, fun s ⟨hs₀, hs₁⟩ => ?_⟩ <;> nlinarith

theorem clamp_of_mem {r : ℝ} (h : r ∈ Set.Icc (0 : ℝ) 1) : Scalar.clamp r 0 1 = r := by
  simp only [Scalar.clamp]
  split_ifs <;> linarith [h.1, h.2]

end Exact

namespace Sweep

/-! ### The nearest point of a sweep -/

variable (g : Sweep (ℝ × ℝ) ℝ) (p : ℝ × ℝ)

/-- The squared distance from `p` to the point of the sweep at time `t`. -/
noncomputable def sqDistanceAt (t : ℝ) : ℝ := Plane.distanceSq p (Plane.lerp g.start g.stop t)

/-- `t` is the time of the point of the sweep nearest to `p`. -/
def Nearest (t : ℝ) : Prop :=
  t ∈ Set.Icc (0 : ℝ) 1 ∧ ∀ s ∈ Set.Icc (0 : ℝ) 1, g.sqDistanceAt p t ≤ g.sqDistanceAt p s

/-- The centre of the disc comes within the sum of the radii of some point of the sweep. -/
def Within (i : Disc (ℝ × ℝ) ℝ) : Prop :=
  ∃ t ∈ Set.Icc (0 : ℝ) 1, g.sqDistanceAt i.position t ≤ (g.radius + i.radius) ^ 2

/-- A moving sweep of some radius reaches a disc of some radius that comes within its reach. -/
def Reaches (i : Disc (ℝ × ℝ) ℝ) : Prop :=
  g.start ≠ g.stop ∧ g.radius ≠ 0 ∧ i.radius ≠ 0 ∧ g.Within i

/-- The squared length of the sweep. -/
noncomputable def lengthSq : ℝ := Plane.lengthSq (Plane.sub g.stop g.start)

/-- The time of the foot of the perpendicular from `p` on the sweep's line. -/
noncomputable def foot : ℝ := Plane.dot (Plane.sub p g.start) (Plane.sub g.stop g.start) / g.lengthSq

/-- The squared distance from `p` to the sweep's line. -/
noncomputable def lineSq : ℝ :=
  Plane.lengthSq (Plane.sub p g.start) -
    Plane.dot (Plane.sub p g.start) (Plane.sub g.stop g.start) *
      Plane.dot (Plane.sub p g.start) (Plane.sub g.stop g.start) / g.lengthSq

variable {g}

theorem lengthSq_pos (h : g.start ≠ g.stop) : 0 < g.lengthSq := by
  simp only [lengthSq, Exact.lengthSq_eq, Exact.sub_eq]
  by_contra hle
  have h₁ : g.stop.1 - g.start.1 = 0 := by
    nlinarith [mul_self_nonneg (g.stop.1 - g.start.1), mul_self_nonneg (g.stop.2 - g.start.2)]
  have h₂ : g.stop.2 - g.start.2 = 0 := by
    nlinarith [mul_self_nonneg (g.stop.1 - g.start.1), mul_self_nonneg (g.stop.2 - g.start.2)]
  exact h (Prod.ext (by linarith) (by linarith))

/-- Along the sweep the squared distance is a parabola in the time, least at the foot. -/
theorem sqDistanceAt_eq (h : g.start ≠ g.stop) (t : ℝ) :
    g.sqDistanceAt p t = g.lineSq p + g.lengthSq * (t - g.foot p) ^ 2 := by
  have hL := (lengthSq_pos h).ne'
  unfold sqDistanceAt lineSq foot Plane.distanceSq
  unfold lengthSq at hL ⊢
  simp only [Exact.lengthSq_eq, Exact.sub_eq, Exact.dot_eq, Exact.lerp_eq] at hL ⊢
  linear_combination Exact.parabola (p.1 - g.start.1) (p.2 - g.start.2) (g.stop.1 - g.start.1)
    (g.stop.2 - g.start.2) t hL

theorem sqDistanceAt_nonneg (t : ℝ) : 0 ≤ g.sqDistanceAt p t := by
  simp only [sqDistanceAt, Plane.distanceSq, Exact.lengthSq_eq, Exact.sub_eq, Exact.lerp_eq]
  exact add_nonneg (mul_self_nonneg _) (mul_self_nonneg _)

theorem lineSq_eq (h : g.start ≠ g.stop) : g.lineSq p = g.sqDistanceAt p (g.foot p) := by
  rw [sqDistanceAt_eq p h]
  ring

/-- The time the test settles on, the foot of the perpendicular held in the sweep, is the time
of the nearest point. -/
theorem nearest_clamp (h : g.start ≠ g.stop) : g.Nearest p (Scalar.clamp (g.foot p) 0 1) := by
  obtain ⟨hmem, hle⟩ := Exact.clamp_nearest (g.foot p)
  refine ⟨hmem, fun s hs => ?_⟩
  rw [sqDistanceAt_eq p h, sqDistanceAt_eq p h]
  have := mul_le_mul_of_nonneg_left (hle s hs) (lengthSq_pos h).le
  linarith

/-! ### The contact test -/

/-- The projection the test computes is the foot of the perpendicular, with the squared distance
to the line. -/
theorem project_eq (h : g.start ≠ g.stop) :
    Pickup.project g.start (Plane.sub g.stop g.start) p = (g.foot p, g.lineSq p) := by
  have hline : 0 ≤ g.lineSq p := lineSq_eq p h ▸ sqDistanceAt_nonneg p _
  change (g.foot p, Arith.maxNum (g.lineSq p) 0.0) = _
  rw [Exact.maxNum_eq, Exact.zero_lit, max_eq_left hline]

theorem within_iff (h : g.start ≠ g.stop) (i : Disc (ℝ × ℝ) ℝ) :
    g.Within i ↔ g.sqDistanceAt i.position (Scalar.clamp (g.foot i.position) 0 1) ≤ (g.radius + i.radius) ^ 2 := by
  have hnear := nearest_clamp i.position h
  constructor
  · rintro ⟨t, ht, hle⟩
    exact (hnear.2 t ht).trans hle
  · intro hle
    exact ⟨_, hnear.1, hle⟩

/-- The plain test accepts exactly the discs within reach, at the nearest time. -/
theorem direct_eq (h : g.start ≠ g.stop) (i : Disc (ℝ × ℝ) ℝ) :
    Pickup.direct g i =
      if g.sqDistanceAt i.position (Scalar.clamp (g.foot i.position) 0 1) ≤ (g.radius + i.radius) ^ 2 then
        some (g.sqDistanceAt i.position (Scalar.clamp (g.foot i.position) 0 1),
          Scalar.clamp (g.foot i.position) 0 1)
      else none := by
  simp only [Pickup.direct, project_eq _ h, Exact.zero_lit, Exact.one_lit]
  by_cases hu : g.foot i.position ∈ Set.Icc (0 : ℝ) 1
  · -- the foot is on the segment: its distance is the distance to the line
    have hin : Pickup.inUnit (g.foot i.position) = true := by
      simp [Pickup.inUnit, hu.1, hu.2]
    rw [if_pos hin, Exact.clamp_of_mem hu, ← lineSq_eq _ h, sq]
  · have hin : Pickup.inUnit (g.foot i.position) = false := by
      simpa [Pickup.inUnit] using hu
    rw [if_neg (by simp [hin]), sq]
    rfl

/-- Each extreme point of a disc is its radius away from the centre. -/
theorem distanceSq_corner (i : Disc (ℝ × ℝ) ℝ) {c : ℝ × ℝ} (hc : c ∈ Pickup.corners i) :
    Plane.distanceSq i.position c = i.radius ^ 2 := by
  simp only [Pickup.corners, List.mem_cons, List.not_mem_nil, or_false] at hc
  rcases hc with rfl | rfl | rfl | rfl <;> simp [Plane.distanceSq] <;> ring

variable {i : Disc (ℝ × ℝ) ℝ}

/-- When the centre of a disc is farther than the sum of the radii from a point of the sweep, no
extreme point of the disc is within the sweep's own radius of that point. -/
theorem corner_far (hg : 0 ≤ g.radius) (hi : 0 ≤ i.radius) {t : ℝ}
    (hfar : (g.radius + i.radius) ^ 2 < g.sqDistanceAt i.position t) {c : ℝ × ℝ}
    (hc : c ∈ Pickup.corners i) : g.radius * g.radius < Plane.distanceSq c (Plane.lerp g.start g.stop t) := by
  by_contra hnear
  have hcq : Plane.distanceSq c (Plane.lerp g.start g.stop t) ≤ g.radius ^ 2 := by
    rw [sq]
    exact le_of_not_gt hnear
  have hreach := Exact.distanceSq_triangle hi hg (distanceSq_corner i hc).le hcq
  rw [add_comm i.radius] at hreach
  exact absurd hreach (not_le.mpr hfar)

/-- An extreme point that is beyond the sweep's radius at every time changes nothing. -/
theorem cornerStep_far {c : ℝ × ℝ}
    (hfar : ∀ t ∈ Set.Icc (0 : ℝ) 1, g.radius * g.radius < Plane.distanceSq c (Plane.lerp g.start g.stop t))
    (best : Option (ℝ × ℝ)) : Pickup.cornerStep g best c = best := by
  have ht := (Exact.clamp_nearest (Pickup.project g.start (Plane.sub g.stop g.start) c).1).1
  simp only [Pickup.cornerStep, Exact.zero_lit, Exact.one_lit]
  rw [if_pos (hfar _ ht)]

/-- The retry with the extreme points finds nothing for a disc out of reach. -/
theorem cornerContact_eq_none (hg : 0 ≤ g.radius) (hi : 0 ≤ i.radius)
    (hfar : ∀ t ∈ Set.Icc (0 : ℝ) 1, (g.radius + i.radius) ^ 2 < g.sqDistanceAt i.position t) :
    Pickup.cornerContact g i = none := by
  have hfold : (Pickup.corners i).foldl (Pickup.cornerStep g) none = none :=
    Exact.foldl_eq_of_forall_mem fun c hc =>
      cornerStep_far (fun t ht => corner_far hg hi (hfar t ht) hc) none
  simp [Pickup.cornerContact, hfold]

theorem contact_of_within (h : g.start ≠ g.stop) (hw : g.Within i) :
    Pickup.contact g i = some (g.sqDistanceAt i.position (Scalar.clamp (g.foot i.position) 0 1),
      Scalar.clamp (g.foot i.position) 0 1) := by
  simp only [Pickup.contact, direct_eq h, if_pos ((within_iff h i).mp hw)]

/-- A disc out of reach is not gathered: the plain test misses it, and so do its extreme
points. -/
theorem contact_of_not_within (h : g.start ≠ g.stop) (hg : 0 ≤ g.radius) (hi : 0 ≤ i.radius)
    (hw : ¬g.Within i) : Pickup.contact g i = none := by
  have hfar : ∀ t ∈ Set.Icc (0 : ℝ) 1, (g.radius + i.radius) ^ 2 < g.sqDistanceAt i.position t :=
    fun t ht => lt_of_not_ge fun hle => hw ⟨t, ht, hle⟩
  simp only [Pickup.contact, direct_eq h, if_neg fun hle => hw ((within_iff h i).mpr hle)]
  exact cornerContact_eq_none hg hi hfar

end Sweep

/-! ### The contacts of a tick -/

section Events

variable {gs : List (Sweep (ℝ × ℝ) ℝ)} {items : List (Disc (ℝ × ℝ) ℝ)} {e : Contact ℝ}

/-- The contacts of one gatherer, read exactly: one for each disc it reaches, at the nearest
time. -/
theorem mem_contactsOf_iff {g : Sweep (ℝ × ℝ) ℝ} {gi : Nat} (hg : 0 ≤ g.radius)
    (hitems : ∀ i ∈ items, 0 ≤ i.radius) :
    e ∈ contactsOf items (g, gi) ↔ e.gatherer = gi ∧ ∃ i, items[e.item]? = some i ∧ g.Reaches i ∧
      e.time = Scalar.clamp (g.foot i.position) 0 1 ∧ e.sqDistance = g.sqDistanceAt i.position e.time := by
  simp only [contactsOf]
  by_cases hmove : g.start = g.stop ∨ g.radius = 0
  · -- a sweep that stands still or has no reach finds nothing, and reaches nothing
    have hskip : (Plane.beq g.start g.stop || g.radius == 0.0) = true := by simpa using hmove
    simp only [hskip, ↓reduceIte, List.not_mem_nil, false_iff]
    rintro ⟨-, i, -, ⟨hne, hr, -⟩, -⟩
    exact hmove.elim hne hr
  · have hkeep : (Plane.beq g.start g.stop || g.radius == 0.0) = false := by simpa using hmove
    obtain ⟨hne, hr⟩ := not_or.mp hmove
    simp only [hkeep, Bool.false_eq_true, ↓reduceIte, List.mem_filterMap]
    constructor
    · rintro ⟨⟨i, ii⟩, hmem, hopt⟩
      have hget := List.mem_zipIdx_iff_getElem?.mp hmem
      split at hopt
      · cases hopt
      rename_i hri
      obtain ⟨⟨sq, t⟩, hc, rfl⟩ := Option.map_eq_some_iff.mp hopt
      by_cases hw : g.Within i
      · rw [Sweep.contact_of_within hne hw] at hc
        cases hc
        exact ⟨rfl, i, hget, ⟨hne, hr, by simpa using hri, hw⟩, rfl, rfl⟩
      · rw [Sweep.contact_of_not_within hne hg (hitems i (List.mem_of_getElem? hget)) hw] at hc
        cases hc
    · rintro ⟨hgi, i, hget, ⟨-, -, hri, hw⟩, ht, hsq⟩
      refine ⟨(i, e.item), List.mem_zipIdx_iff_getElem?.mpr hget, ?_⟩
      rw [if_neg (by simpa using hri), Sweep.contact_of_within hne hw]
      obtain ⟨item, gatherer, sqDistance, time⟩ := e
      dsimp only at hgi ht hsq ⊢
      subst hgi ht hsq
      rfl

/-- The contacts of all gatherers, read exactly: one for each gatherer and disc it reaches, at
the nearest time. -/
theorem mem_found_iff (hgs : ∀ g ∈ gs, 0 ≤ g.radius) (hitems : ∀ i ∈ items, 0 ≤ i.radius) :
    e ∈ found gs items ↔ ∃ g i, gs[e.gatherer]? = some g ∧ items[e.item]? = some i ∧ g.Reaches i ∧
      e.time = Scalar.clamp (g.foot i.position) 0 1 ∧ e.sqDistance = g.sqDistanceAt i.position e.time := by
  simp only [found, List.mem_flatMap]
  constructor
  · rintro ⟨⟨g, gi⟩, hmem, he⟩
    have hget := List.mem_zipIdx_iff_getElem?.mp hmem
    obtain ⟨rfl, i, hi, hrest⟩ := (mem_contactsOf_iff (hgs g (List.mem_of_getElem? hget)) hitems).mp he
    exact ⟨g, i, hget, hi, hrest⟩
  · rintro ⟨g, i, hget, hi, hrest⟩
    refine ⟨(g, e.gatherer), List.mem_zipIdx_iff_getElem?.mpr hget, ?_⟩
    exact (mem_contactsOf_iff (hgs g (List.mem_of_getElem? hget)) hitems).mpr ⟨rfl, i, hi, hrest⟩

/-- No two contacts found are of the same gatherer and disc. -/
theorem found_pairs_nodup (gs : List (Sweep (ℝ × ℝ) ℝ)) (items : List (Disc (ℝ × ℝ) ℝ)) :
    ((found gs items).map fun e => (e.gatherer, e.item)).Nodup := by
  refine List.pairwise_map.mpr ((found_pairwise gs items).imp fun {a b} hab => ?_)
  simp only [Contact.FoundBefore] at hab
  simp only [ne_eq, Prod.mk.injEq]
  omega

theorem gatherEvents_exact (gs : List (Sweep (ℝ × ℝ) ℝ)) (items : List (Disc (ℝ × ℝ) ℝ))
    (hgs : ∀ g ∈ gs, 0 ≤ g.radius) (hitems : ∀ i ∈ items, 0 ≤ i.radius) :
    (∀ e ∈ gatherEvents gs items, ∃ g i, gs[e.gatherer]? = some g ∧ items[e.item]? = some i ∧
      g.Reaches i ∧ g.Nearest i.position e.time ∧ e.sqDistance = g.sqDistanceAt i.position e.time) ∧
    (∀ gi ii g i, gs[gi]? = some g → items[ii]? = some i → g.Reaches i →
      ((gatherEvents gs items).map fun e => (e.gatherer, e.item)).count (gi, ii) = 1) ∧
    (gatherEvents gs items).Pairwise fun a b =>
      a.time ≤ b.time ∧ (a.time = b.time → a.FoundBefore b) := by
  have hperm := (List.mergeSort_perm (found gs items) fun a b => Arith.totalLe a.time b.time).map
    fun e => (e.gatherer, e.item)
  refine ⟨fun e he => ?_, fun gi ii g i hg hi hreach => ?_, ?_⟩
  · -- every contact is of a gatherer and a disc it reaches, at the nearest time
    rw [gatherEvents_eq, List.mem_mergeSort] at he
    obtain ⟨g, i, hg, hi, hreach, ht, hsq⟩ := (mem_found_iff hgs hitems).mp he
    exact ⟨g, i, hg, hi, hreach, ht ▸ Sweep.nearest_clamp i.position hreach.1, hsq⟩
  · -- the pair has a contact, and no two contacts share a pair
    have hmem : (gi, ii) ∈ (gatherEvents gs items).map fun e => (e.gatherer, e.item) := by
      refine List.mem_map.mpr ⟨⟨ii, gi, g.sqDistanceAt i.position (Scalar.clamp (g.foot i.position) 0 1),
        Scalar.clamp (g.foot i.position) 0 1⟩, ?_, rfl⟩
      rw [gatherEvents_eq, List.mem_mergeSort]
      exact (mem_found_iff hgs hitems).mpr ⟨g, i, hg, hi, hreach, rfl, rfl⟩
    have hnodup := (hperm.nodup_iff.mpr (found_pairs_nodup gs items))
    rw [← gatherEvents_eq] at hnodup
    exact le_antisymm (List.nodup_iff_count_le_one.mp hnodup _) (List.count_pos_iff.mpr hmem)
  · -- sorted by time, and stably: simultaneous contacts in the order they were found
    rw [gatherEvents_eq]
    refine (pairwise_mergeSort_stable (fun a b c hab hbc => ?_) (fun a b => ?_)
      (found_pairwise gs items)).imp fun {a b} ⟨hab, hba⟩ => ?_
    · simp only [Exact.totalLe_eq, decide_eq_true_eq] at hab hbc ⊢
      exact hab.trans hbc
    · simpa using le_total a.time b.time
    · simp only [Exact.totalLe_eq, decide_eq_true_eq] at hab hba
      exact ⟨hab, fun heq => hba heq.ge⟩

end Events

/-- A dog sweeping one unit along the axis past a piece of loot a fifth of a unit off it. -/
theorem gatherEvents_exact_passing :
    let gs : List (Sweep (ℝ × ℝ) ℝ) := [⟨(0, 0), (1, 0), 3 / 10⟩]
    let items : List (Disc (ℝ × ℝ) ℝ) := [⟨(1 / 2, 1 / 5), 1 / 20⟩]
    (∀ g ∈ gs, 0 ≤ g.radius) ∧ (∀ i ∈ items, 0 ≤ i.radius) ∧
      (∀ e ∈ gatherEvents gs items, ∃ g i, gs[e.gatherer]? = some g ∧ items[e.item]? = some i ∧
        g.Reaches i ∧ g.Nearest i.position e.time ∧ e.sqDistance = g.sqDistanceAt i.position e.time) ∧
      (∀ gi ii g i, gs[gi]? = some g → items[ii]? = some i → g.Reaches i →
        ((gatherEvents gs items).map fun e => (e.gatherer, e.item)).count (gi, ii) = 1) ∧
      (gatherEvents gs items).Pairwise fun a b =>
        a.time ≤ b.time ∧ (a.time = b.time → a.FoundBefore b) :=
  have hgs : ∀ g ∈ ([⟨(0, 0), (1, 0), 3 / 10⟩] : List (Sweep (ℝ × ℝ) ℝ)), 0 ≤ g.radius := by
    simp only [List.mem_singleton, forall_eq]
    norm_num
  have hitems : ∀ i ∈ ([⟨(1 / 2, 1 / 5), 1 / 20⟩] : List (Disc (ℝ × ℝ) ℝ)), 0 ≤ i.radius := by
    simp only [List.mem_singleton, forall_eq]
    norm_num
  ⟨hgs, hitems, gatherEvents_exact _ _ hgs hitems⟩

end RoadFetch
