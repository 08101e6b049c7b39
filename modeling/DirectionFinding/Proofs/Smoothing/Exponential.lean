import DirectionFinding.Proofs.Smoothing.Circle

/-!
The exponential filter at the end of the circle. The difference to the input, its share and the new
state are rounded one after the other. Between 256 and 512 numbers are 2¹³⁴ units of height apart, and
360 is 11796480 of these spacings. A difference that is rounded up by half a spacing, of which nothing
is left out, ends half a spacing above the input; above the last number below 360 that is rounded to a
full circle. A filter that leaves out anything ends lower.
-/
namespace DirectionFinding

open Binary32

def lastAngle : Float32 :=
  Float32.ofBits 0x43b3ffff

private theorem height_lastAngle : height lastAngle = 11796479 * 2 ^ 134 := by
  decide +kernel

private theorem height_circle : height 360 = 11796480 * 2 ^ 134 := by
  decide +kernel

private theorem height_le_lastAngle {degrees : Float32} (finite : degrees.isFinite = true)
    (below : degrees < 360) : height degrees ≤ 11796479 * 2 ^ 134 := by
  have lower := (lt_iff.mp below).2.2
  rw [height_circle] at lower
  have last := height_le_sub (k := 134) finite (by decide +kernel) (by decide +kernel) lower
  omega

private theorem height_le_of_lt_one {alpha : Float32} (finite : alpha.isFinite = true)
    (part : alpha < 1) :
    height alpha ≤ one - 2 ^ 125 := by
  have lower := (lt_iff.mp part).2.2
  rw [height_one] at lower
  have last := height_le_sub (k := 125) finite (by decide +kernel) (by decide +kernel) lower
  omega

/-- A difference is rounded up by half a spacing only where it is half a spacing above an odd number
of them. -/
theorem settle_difference {z : Nat} (short : z < 2 ^ 158) :
    settle (z * one) ≤ z + 2 ^ 133 ∧
      (settle (z * one) = z + 2 ^ 133 ↔ 2 ^ 157 ≤ z ∧ z % 2 ^ 135 = 3 * 2 ^ 133) := by
  by_cases long : 2 ^ 157 ≤ z
  · rw [settle_binade (k := 134) long short (by decide)]
    simp only [nearestEven]
    split_ifs <;> omega
  · have error := two_mul_settle_le (k := 133) (z := z) (by omega)
    omega

/-- A factor below one takes more than half a spacing from a number, except from 256, below which the
spacing is half as large. -/
theorem settle_part_lt {share : Int} {q : Nat} (part : share ≤ one - 2 ^ 125) (low : 2 ^ 23 ≤ q)
    (high : q ≤ 2 ^ 24) : settle (share * (q * 2 ^ 134 : Nat)) < (q * 2 ^ 134 : Nat) := by
  have smaller : share * (q * 2 ^ 134 : Nat) ≤ (one - 2 ^ 125) * (q * 2 ^ 134 : Nat) :=
    Int.mul_le_mul_of_nonneg_right part (Int.natCast_nonneg _)
  rcases Nat.lt_or_eq_of_le low with above | rfl
  · have lower : (one - 2 ^ 125) * (q * 2 ^ 134 : Nat) ≤
        ((q * 2 ^ 134 - 2 ^ 133 - 2 ^ 110 : Nat) : Int) * one := by
      rw [one_eq]
      omega
    refine Int.lt_of_le_of_lt (settle_mono (Int.le_trans smaller lower)) ?_
    rw [settle_binade (k := 134) (by omega) (by omega) (by decide)]
    simp only [nearestEven]
    split_ifs <;> omega
  · refine Int.lt_of_le_of_lt (settle_mono smaller) ?_
    decide +kernel

namespace ExponentialFilter

/-- An update that is rounded up to a full circle: all of the difference to the last angle is added to
a state that lies half a spacing above an odd number of spacings, far enough below the angle. -/
structure Overshoots (alpha state degrees : Float32) : Prop where
  whole : 1 ≤ alpha
  last : lastAngle ≤ degrees ∧ degrees < 360
  halfway : ∃ i : Nat, height state = (4 * i + 3) * 2 ^ 133 ∧ 4 * i + 4 < 104 * 2 ^ 16

section
variable {alpha state degrees : Float32}

private theorem height_whole (unit : Within 0 1 alpha) (whole : 1 ≤ alpha) :
    height alpha = one := by
  have least := (le_iff.mp whole).2.2
  have most := unit.heights.2
  rw [height_one] at least most
  exact Int.le_antisymm most least

theorem height_next (unit : Within 0 1 alpha) (held : Within 0 360 state)
    (given : Within 0 360 degrees) :
    height (state - alpha * (state - degrees)) =
      settle ((height state + height (alpha * (degrees - state))) * one) := by
  have apart : (state - degrees).isFinite = true := (held.sub given).finite
  have missing : (degrees - state).isFinite = true := (given.sub held).finite
  have opposite : height (state - degrees) = -height (degrees - state) := by
    rw [height_sub held.finite given.finite, height_sub given.finite held.finite, ← settle_neg,
      ← Int.neg_mul, Int.neg_sub]
  rw [height_sub held.finite (unit.share_finite apart), height_mul unit.finite apart,
    height_mul unit.finite missing, opposite, Int.mul_neg, settle_neg, Int.sub_neg]

/-- On its way up the state reaches at most half a spacing above the last angle, before it is
rounded, and that only if the update overshoots. -/
theorem climb (unit : Within 0 1 alpha) (held : Within 0 360 state) (given : Within 0 360 degrees)
    (below : degrees < 360) (climbs : state ≤ degrees) :
    let reached := height state + height (alpha * (degrees - state))
    0 ≤ reached ∧ reached ≤ 11796479 * 2 ^ 134 + 2 ^ 133 ∧
      (reached = 11796479 * 2 ^ 134 + 2 ^ 133 ↔ Overshoots alpha state degrees) := by
  intro reached
  have finite : (degrees - state).isFinite = true := (given.sub held).finite
  have missing := Within.sub_nonneg given.finite held.finite climbs
  obtain ⟨nonneg, most⟩ := ((unit.share finite).1 missing).heights
  have product := height_mul unit.finite finite
  have top := height_le_lastAngle given.finite below
  have start := held.heights.1
  rw [height_zero] at nonneg start
  obtain ⟨z, distance⟩ := Int.eq_ofNat_of_zero_le (Int.sub_nonneg.mpr (le_iff.mp climbs).2.2)
  have difference : height (degrees - state) = settle (z * one) := by
    rw [height_sub given.finite held.finite, distance]
  obtain ⟨error, tie⟩ := settle_difference (z := z) (by omega)
  rw [← difference] at error tie
  refine ⟨by omega, by omega, ?_, ?_⟩
  · -- All three bounds are met: the share is whole, the difference rounded up, the angle the last.
    intro highest
    obtain ⟨long, odd⟩ := tie.mp (by omega)
    refine ⟨?_, ⟨?_, below⟩, (height state / 2 ^ 135).toNat, by omega, by omega⟩
    · by_contra part
      have part := height_le_of_lt_one unit.finite (lt_of_not_le rfl unit.number part)
      have rounded := settle_binade (k := 134) (z := z) long (by omega) (by decide)
      have floor := le_nearestEven 134 z
      have ceil := nearestEven_le 134 z
      have less := settle_part_lt part (q := nearestEven 134 z) (by omega) (by omega)
      rw [← rounded, ← difference, ← product] at less
      omega
    · refine le_iff.mpr ⟨rfl, given.number, ?_⟩
      rw [height_lastAngle]
      omega
  · rintro ⟨whole, ⟨last, -⟩, i, half, low⟩
    have last := (le_iff.mp last).2.2
    rw [height_lastAngle] at last
    rw [height_whole unit whole, Int.mul_comm, settle_height] at product
    have up := tie.mpr ⟨by omega, by omega⟩
    omega

theorem next_climbing (unit : Within 0 1 alpha) (held : Within 0 360 state)
    (given : Within 0 360 degrees) (below : degrees < 360) (climbs : state ≤ degrees) :
    let next := state - alpha * (state - degrees)
    (0 ≤ height next ∧ height next ≤ height 360) ∧
      (height 360 ≤ height next ↔ Overshoots alpha state degrees) := by
  intro next
  obtain ⟨low, high, overshoots⟩ := climb unit held given below climbs
  have rounded : height next = _ := height_next unit held given
  have roundedUp : settle ((11796479 * 2 ^ 134 + 2 ^ 133) * one) = height 360 := by decide +kernel
  have roundedDown : settle ((11796479 * 2 ^ 134 + 2 ^ 133 - 1) * one) < height 360 := by
    decide +kernel
  have least := settle_units_mono low
  have most := settle_units_mono high
  rw [Int.zero_mul, settle_zero, ← rounded] at least
  rw [roundedUp, ← rounded] at most
  refine ⟨⟨least, most⟩, ?_⟩
  rw [← overshoots]
  constructor
  · intro full
    by_contra short
    have lower := settle_units_mono (show height state + height (alpha * (degrees - state)) ≤
      11796479 * 2 ^ 134 + 2 ^ 133 - 1 by omega)
    rw [← rounded] at lower
    omega
  · intro highest
    rw [rounded, highest, roundedUp]

theorem next_falling (unit : Within 0 1 alpha) (held : Within 0 360 state)
    (full : 360 ≤ state → 1 ≤ alpha) (given : Within 0 360 degrees) (below : degrees < 360)
    (falls : degrees ≤ state) : height (state - alpha * (state - degrees)) < height 360 := by
  have stays := (fall_within unit held.finite given.lower falls).heights.2
  by_cases top : 360 ≤ state
  · have finite : (degrees - state).isFinite = true := (given.sub held).finite
    have product := height_mul unit.finite finite
    rw [height_whole unit (full top), Int.mul_comm, settle_height,
      height_sub given.finite held.finite] at product
    have start := Int.le_antisymm held.heights.2 (le_iff.mp top).2.2
    have last := height_le_lastAngle given.finite below
    have spacing := settle_units_mono (show height degrees - height state ≤ -2 ^ 134 by
      rw [start, height_circle]
      omega)
    have exact : settle (-2 ^ 134 * one) = -2 ^ 134 := by decide +kernel
    have lower := settle_units_mono (show
        height state + height (alpha * (degrees - state)) ≤ height lastAngle by
      rw [start, height_circle, height_lastAngle]
      omega)
    rw [settle_height, ← height_next unit held given, height_lastAngle] at lower
    rw [height_circle]
    omega
  · have low := (lt_iff.mp (lt_of_not_le rfl held.number top)).2.2
    exact Int.lt_of_le_of_lt stays low

theorem next_within (unit : Within 0 1 alpha) (held : Within 0 360 state)
    (full : 360 ≤ state → 1 ≤ alpha) (given : Within 0 360 degrees) (below : degrees < 360) :
    let next := state - alpha * (state - degrees)
    Within 0 360 next ∧ (360 ≤ next ↔ Overshoots alpha state degrees) := by
  intro next
  have apart : (state - degrees).isFinite = true := (held.sub given).finite
  have number : next.isNaN = false := isNaN_sub held.finite (unit.share_finite apart)
  have fullHeight : 360 ≤ next ↔ height 360 ≤ height next :=
    le_iff.trans ⟨fun both => both.2.2, fun above => ⟨rfl, number, above⟩⟩
  rw [fullHeight]
  by_cases climbs : state ≤ degrees
  · obtain ⟨⟨low, high⟩, overshoots⟩ := next_climbing unit held given below climbs
    exact ⟨Within.ofHeights rfl rfl number low high, overshoots⟩
  · have falls := le_of_lt (lt_of_not_le held.number given.number climbs)
    have stays := fall_within unit held.finite given.lower falls
    have lower := next_falling unit held full given below falls
    refine ⟨stays.widen (by decide +kernel) held.upper, iff_of_false (Int.not_le.mpr lower) ?_⟩
    rintro ⟨-, ⟨last, -⟩, i, half, low⟩
    have last := (le_iff.mp (le_trans last falls)).2.2
    rw [height_lastAngle] at last
    omega

end

/-- Half a spacing above an odd number of them, that is 3/65536°. -/
def halfwayAngle : Float32 :=
  Float32.ofBits 0x38400000

def smoother : Smoother ExponentialFilter where
  update := update
  restart := reset

structure Closed (alpha : Float32) (f : ExponentialFilter) : Prop where
  unchanged : f.alpha = alpha
  state : Within 0 360 f.state
  full : 360 ≤ f.state → 1 ≤ alpha

section
variable {alpha : Float32} {f : ExponentialFilter}

private theorem ofAlpha_eq_ok (made : ofAlpha alpha = .ok f) :
    Within 0 1 alpha ∧ f = ⟨alpha, 0⟩ := by
  rw [ofAlpha] at made
  split_ifs at made with inside
  cases made
  exact ⟨⟨rfl, rfl, inside.1, inside.2⟩, rfl⟩

private theorem closed_rest (alpha : Float32) : Closed alpha ⟨alpha, 0⟩ := by
  have rest : Within 0 360 0 := by decide +kernel
  have nothing : ¬ (360 : Float32) ≤ 0 := by decide +kernel
  exact ⟨rfl, rest, fun full => absurd full nothing⟩

theorem Closed.next (unit : Within 0 1 alpha) (closed : Closed alpha f) {degrees : Float32}
    (gate : requireOnCircle degrees = .ok ()) :
    ∃ smoothed next, f.update degrees = (.ok smoothed, next) ∧ Within 0 360 smoothed ∧
      (360 ≤ smoothed ↔ Overshoots alpha f.state degrees) ∧ Closed alpha next := by
  have given := within_of_requireOnCircle gate
  have below := (between_of_requireOnCircle gate).2
  obtain ⟨inside, overshoots⟩ := next_within unit closed.state closed.full given below
  rw [← closed.unchanged] at inside overshoots
  have next : Closed alpha { f with state := f.state - f.alpha * (f.state - degrees) } :=
    ⟨closed.unchanged, inside, fun full => closed.unchanged ▸ (overshoots.mp full).whole⟩
  refine ⟨_, _, ?_, inside, ?_, next⟩
  · simp only [update, gate]
  · rw [← closed.unchanged]
    exact overshoots

private theorem keepsClosed (unit : Within 0 1 alpha) :
    smoother.KeepsRange (Within 0 360) (Closed alpha) where
  refused f _ off := by
    simp only [smoother, update, requireOnCircle_off off]
  accepted closed _ gate := by
    obtain ⟨smoothed, next, moved, inside, -, kept⟩ := closed.next unit gate
    exact ⟨smoothed, next, moved, inside, kept⟩
  restart closed := ⟨closed.unchanged, (closed_rest alpha).state, (closed_rest alpha).full⟩

private theorem Closed.answered_iff (unit : Within 0 1 alpha) (closed : Closed alpha f)
    (degrees : Float32) :
    Answered OnCircle degrees (f.update degrees).1 ↔ ¬ Overshoots alpha f.state degrees := by
  by_cases off : OffCircle degrees
  · refine iff_of_true ?_ ?_
    · simp only [update, requireOnCircle_off off]
      exact .refused off
    · rintro ⟨-, ⟨last, below⟩, -⟩
      have low : (0 : Float32) ≤ lastAngle := by decide +kernel
      exact (requireOnCircle_iff degrees).mp (if_pos ⟨le_trans low last, below⟩) off
  · obtain ⟨smoothed, next, moved, inside, overshoots, -⟩ :=
      closed.next unit ((requireOnCircle_iff degrees).mpr off)
    rw [moved, ← overshoots]
    constructor
    · intro answered full
      cases answered with
      | smoothed on circle =>
        exact Int.not_le.mpr (lt_iff.mp circle.upper).2.2 (le_iff.mp full).2.2
    · intro short
      exact .smoothed off ⟨inside.number, inside.lower, lt_of_not_le rfl inside.number short⟩

theorem overshoots_halfway (unit : Within 0 1 alpha) (whole : 1 ≤ alpha) :
    Overshoots alpha (smoother.run ⟨alpha, 0⟩ [.update halfwayAngle]).2.state lastAngle := by
  have gate : requireOnCircle halfwayAngle = .ok () := by decide +kernel
  have half : height halfwayAngle = 3 * 2 ^ 133 := by decide +kernel
  have last : lastAngle ≤ lastAngle ∧ lastAngle < 360 := by decide +kernel
  have start := (closed_rest alpha).state
  have given := within_of_requireOnCircle gate
  have finite : (halfwayAngle - 0).isFinite = true := by decide +kernel
  have difference : height (halfwayAngle - 0) = height halfwayAngle := by
    rw [height_sub given.finite start.finite, height_zero, Int.sub_zero, settle_height]
  have share : height (alpha * (halfwayAngle - 0)) = height halfwayAngle := by
    rw [height_mul unit.finite finite, height_whole unit whole, difference, Int.mul_comm,
      settle_height]
  have reached : height (0 - alpha * (0 - halfwayAngle)) = 3 * 2 ^ 133 := by
    rw [height_next unit start given, share, height_zero, Int.zero_add, settle_height, half]
  refine ⟨whole, last, 0, ?_, by decide⟩
  simp only [Smoother.run, smoother, update, gate]
  exact reached

/-- A filter never answers with more than a full circle, and with a full circle only where an update
overshoots. Those that keep something back, however little, stay on the circle under all calls. -/
theorem answers_onCircle_iff (made : ofAlpha alpha = .ok f) :
    (∀ calls : List FilterCall,
      let angles := FilterCall.updates calls
      let answers := (smoother.run f calls).1
      List.Forall₂ (Answered (Within 0 360)) angles answers ∧
        (List.Forall₂ (Answered OnCircle) angles answers ↔
          ∀ before degrees, before ++ [.update degrees] <+: calls →
            ¬ Overshoots alpha (smoother.run f before).2.state degrees)) ∧
      ((∀ calls : List FilterCall,
        List.Forall₂ (Answered OnCircle) (FilterCall.updates calls) (smoother.run f calls).1) ↔
          alpha < 1) := by
  obtain ⟨unit, rfl⟩ := ofAlpha_eq_ok made
  have closed := closed_rest alpha
  have each (calls : List FilterCall) :
      List.Forall₂ (Answered OnCircle) (FilterCall.updates calls)
          (smoother.run ⟨alpha, 0⟩ calls).1 ↔
        ∀ before degrees, before ++ [.update degrees] <+: calls →
          ¬ Overshoots alpha (smoother.run ⟨alpha, 0⟩ before).2.state degrees := by
    refine (smoother.run_answers_iff _ _ calls).trans ?_
    refine forall_congr' fun before => forall_congr' fun degrees => imp_congr_right fun _ => ?_
    exact ((keepsClosed unit).reached closed before).answered_iff unit degrees
  refine ⟨fun calls => ⟨(keepsClosed unit).answers closed calls, each calls⟩, ?_, ?_⟩
  · intro always
    by_contra whole
    have whole := le_of_not_lt unit.number rfl whole
    exact (each _).mp (always _) [.update halfwayAngle] lastAngle List.prefix_rfl
      (overshoots_halfway unit whole)
  · intro part calls
    refine (each calls).mpr fun before degrees _ overshoots => ?_
    exact Int.not_le.mpr (lt_iff.mp part).2.2 (le_iff.mp overshoots.whole).2.2

/-- Half of the way to the last angle, twice. -/
theorem answers_onCircle_iff_half :
    let f : ExponentialFilter := ⟨0.5, 0⟩
    let calls : List FilterCall := [.update lastAngle, .update 400, .update lastAngle]
    ofAlpha 0.5 = .ok f ∧ (0.5 : Float32) < 1 ∧
      List.Forall₂ (Answered OnCircle) [lastAngle, 400, lastAngle] (smoother.run f calls).1 := by
  intro f calls
  have made : ofAlpha 0.5 = .ok f := by rfl
  have part : (0.5 : Float32) < 1 := by decide +kernel
  exact ⟨made, part, (answers_onCircle_iff made).2.mpr part calls⟩

/-- A filter that follows its input answers the last angle with a full circle, which is not accepted,
where the angle before it was 3/65536°. -/
theorem not_onCircle_following :
    let f : ExponentialFilter := ⟨1, 0⟩
    let calls : List FilterCall := [.update halfwayAngle, .update lastAngle]
    ofAlpha 1 = .ok f ∧ (∀ degrees ∈ FilterCall.updates calls, requireOnCircle degrees = .ok ()) ∧
      (smoother.run f calls).1 = [.ok halfwayAngle, .ok 360] ∧
      requireOnCircle 360 ≠ .ok () := by
  decide +kernel

end

end ExponentialFilter

end DirectionFinding
