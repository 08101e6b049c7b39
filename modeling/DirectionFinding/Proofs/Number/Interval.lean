import DirectionFinding.Proofs.Number.Arithmetic

/-!
Intervals of binary32 numbers with finite ends. Rounding keeps the order, so a rounded result lies
between the results at the ends. Where the ends are fixed numbers, what is asked of them is computed.
-/
namespace DirectionFinding

/-- Between two finite numbers, and so finite itself. -/
structure Within (low high x : Float32) : Prop where
  low_finite : low.isFinite = true
  high_finite : high.isFinite = true
  lower : low ≤ x
  upper : x ≤ high

instance (low high x : Float32) : Decidable (Within low high x) :=
  decidable_of_iff (low.isFinite = true ∧ high.isFinite = true ∧ low ≤ x ∧ x ≤ high)
    ⟨fun ⟨lowFinite, highFinite, lower, upper⟩ => ⟨lowFinite, highFinite, lower, upper⟩,
      fun within => ⟨within.low_finite, within.high_finite, within.lower, within.upper⟩⟩

namespace Within

open Binary32

variable {low high lower upper x y : Float32}

theorem finite (within : Within low high x) : x.isFinite = true :=
  isFinite_of_between within.lower within.upper within.low_finite within.high_finite

theorem number (within : Within low high x) : x.isNaN = false :=
  isNumber within.finite

theorem heights (within : Within low high x) : height low ≤ height x ∧ height x ≤ height high :=
  ⟨(le_iff.mp within.lower).2.2, (le_iff.mp within.upper).2.2⟩

theorem ofHeights (lowFinite : low.isFinite = true) (highFinite : high.isFinite = true)
    (number : x.isNaN = false) (above : height low ≤ height x) (below : height x ≤ height high) :
    Within low high x :=
  ⟨lowFinite, highFinite, le_iff.mpr ⟨isNumber lowFinite, number, above⟩,
    le_iff.mpr ⟨number, isNumber highFinite, below⟩⟩

theorem widen (within : Within low high x) (below : lower ≤ low := by decide)
    (above : high ≤ upper := by decide)
    (lowerFinite : lower.isFinite = true := by decide)
    (upperFinite : upper.isFinite = true := by decide) : Within lower upper x :=
  ⟨lowerFinite, upperFinite, le_trans below within.lower, le_trans within.upper above⟩

theorem lt {limit : Float32} (within : Within low high x)
    (beyond : high < limit := by decide) : x < limit :=
  lt_of_le_of_lt within.upper beyond

theorem add {low' high' : Float32} (within : Within low high x) (within' : Within low' high' y)
    (lowFinite : (low + low').isFinite = true := by decide)
    (highFinite : (high + high').isFinite = true := by decide) :
    Within (low + low') (high + high') (x + y) := by
  refine ofHeights lowFinite highFinite (isNaN_add within.finite within'.finite) ?_ ?_
  · rw [height_add within.low_finite within'.low_finite, height_add within.finite within'.finite]
    exact settle_units_mono (Int.add_le_add within.heights.1 within'.heights.1)
  · rw [height_add within.high_finite within'.high_finite, height_add within.finite within'.finite]
    exact settle_units_mono (Int.add_le_add within.heights.2 within'.heights.2)

theorem sub {low' high' : Float32} (within : Within low high x) (within' : Within low' high' y)
    (lowFinite : (low - high').isFinite = true := by decide)
    (highFinite : (high - low').isFinite = true := by decide) :
    Within (low - high') (high - low') (x - y) := by
  refine ofHeights lowFinite highFinite (isNaN_sub within.finite within'.finite) ?_ ?_
  · rw [height_sub within.low_finite within'.high_finite, height_sub within.finite within'.finite]
    exact settle_units_mono (Int.sub_le_sub within.heights.1 within'.heights.2)
  · rw [height_sub within.high_finite within'.low_finite, height_sub within.finite within'.finite]
    exact settle_units_mono (Int.sub_le_sub within.heights.2 within'.heights.1)

theorem scale {k : Float32} (within : Within low high x)
    (finite : k.isFinite = true := by decide) (nonneg : 0 ≤ k := by decide)
    (lowFinite : (low * k).isFinite = true := by decide)
    (highFinite : (high * k).isFinite = true := by decide) :
    Within (low * k) (high * k) (x * k) := by
  have weight : 0 ≤ height k := (le_iff.mp nonneg).2.2
  refine ofHeights lowFinite highFinite (isNaN_mul within.finite finite) ?_ ?_
  · rw [height_mul within.low_finite finite, height_mul within.finite finite]
    exact settle_mono (Int.mul_le_mul_of_nonneg_right within.heights.1 weight)
  · rw [height_mul within.high_finite finite, height_mul within.finite finite]
    exact settle_mono (Int.mul_le_mul_of_nonneg_right within.heights.2 weight)

theorem mul {limit limit' : Float32} (within : Within (-limit) limit x)
    (within' : Within (-limit') limit' y)
    (lowFinite : (-(limit * limit')).isFinite = true := by decide)
    (highFinite : (limit * limit').isFinite = true := by decide) :
    Within (-(limit * limit')) (limit * limit') (x * y) := by
  have product := height_mul within.high_finite within'.high_finite
  have bounds := within.heights
  have bounds' := within'.heights
  rw [height_neg] at bounds bounds'
  have bounded : |height x * height y| ≤ height limit * height limit' := by
    rw [abs_mul]
    exact mul_le_mul (abs_le.mpr bounds) (abs_le.mpr bounds') (abs_nonneg _)
      ((abs_nonneg _).trans (abs_le.mpr bounds))
  obtain ⟨above, below⟩ := abs_le.mp bounded
  refine ofHeights lowFinite highFinite (isNaN_mul within.finite within'.finite) ?_ ?_
  · rw [height_neg, product, ← settle_neg, height_mul within.finite within'.finite]
    exact settle_mono above
  · rw [product, height_mul within.finite within'.finite]
    exact settle_mono below

theorem share {k : Float32} (unit : Within 0 1 k) (finite : x.isFinite = true) :
    (0 ≤ x → Within 0 x (k * x)) ∧ (x ≤ 0 → Within x 0 (k * x)) := by
  have number := isNaN_mul unit.finite finite
  have product := height_mul unit.finite finite
  have whole : settle (one * height x) = height x := by rw [Int.mul_comm, settle_height]
  have nothing : settle (0 * height x) = 0 := by rw [Int.zero_mul, settle_zero]
  obtain ⟨nonneg, most⟩ := unit.heights
  rw [height_zero] at nonneg
  rw [height_one] at most
  constructor
  · intro above
    have above : 0 ≤ height x := (le_iff.mp above).2.2
    have least := settle_mono (Int.mul_le_mul_of_nonneg_right nonneg above)
    have greatest := settle_mono (Int.mul_le_mul_of_nonneg_right most above)
    rw [nothing, ← product] at least
    rw [whole, ← product] at greatest
    exact ofHeights rfl finite number least greatest
  · intro below
    have below : height x ≤ 0 := (le_iff.mp below).2.2
    have least := settle_mono (Int.mul_le_mul_of_nonpos_right most below)
    have greatest := settle_mono (Int.mul_le_mul_of_nonpos_right nonneg below)
    rw [whole, ← product] at least
    rw [nothing, ← product] at greatest
    exact ofHeights finite rfl number least greatest

theorem share_finite {k : Float32} (unit : Within 0 1 k) (finite : x.isFinite = true) :
    (k * x).isFinite = true := by
  by_cases above : 0 ≤ x
  · exact ((unit.share finite).1 above).finite
  · have below := le_of_lt (lt_of_not_le rfl (isNumber finite) above)
    exact ((unit.share finite).2 below).finite

theorem sub_share (within : Within 0 x y) : Within 0 x (x - y) := by
  have difference := height_sub within.high_finite within.finite
  obtain ⟨nonneg, most⟩ := within.heights
  rw [height_zero] at nonneg
  have least := settle_units_mono (Int.sub_nonneg.mpr most)
  have greatest := settle_units_mono (Int.sub_le_self (height x) nonneg)
  rw [Int.zero_mul, settle_zero, ← difference] at least
  rw [settle_height, ← difference] at greatest
  exact ofHeights rfl within.high_finite (isNaN_sub within.high_finite within.finite) least greatest

theorem sub_nonneg (finite : x.isFinite = true) (finite' : y.isFinite = true) (above : y ≤ x) :
    0 ≤ x - y := by
  have least := settle_units_mono (Int.sub_nonneg_of_le (le_iff.mp above).2.2)
  rw [Int.zero_mul, settle_zero, ← height_sub finite finite'] at least
  exact le_iff.mpr ⟨rfl, isNaN_sub finite finite', least⟩

theorem sub_nonpos (finite : x.isFinite = true) (finite' : y.isFinite = true) (below : x ≤ y) :
    x - y ≤ 0 := by
  have most := settle_units_mono (Int.sub_nonpos_of_le (le_iff.mp below).2.2)
  rw [Int.zero_mul, settle_zero, ← height_sub finite finite'] at most
  exact le_iff.mpr ⟨isNaN_sub finite finite', rfl, most⟩

theorem weighted {k : Float32} (within : Within (-1) 1 x) (unit : Within 0 1 k) :
    Within (-1) 1 (x * k) := by
  have centred : Within (-1) 1 k := unit.widen
  exact (within.mul centred).widen

end Within

end DirectionFinding
