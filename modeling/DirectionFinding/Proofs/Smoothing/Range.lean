import DirectionFinding.Proofs.Number.Interval
import DirectionFinding.Proofs.Number.Product
import DirectionFinding.Proofs.Smoothing.Ring
import DirectionFinding.Proofs.Smoothing.Track

/-!
Smoothed angles stay on the circle. Vectors of a window have parts of at most one, so their sums are
bounded: from 2²⁵ on adding one rounds back. The exponential filter moves toward an angle of at most
180° and overshoots it by no more than half of that.
-/
namespace DirectionFinding

/-- Ranges of a mathematics library. What is no number has no angle. -/
structure Trigonometry.Ranges [Trigonometry] : Prop where
  sin : ∀ x : Float32, x.isFinite = true → -1 ≤ Trigonometry.sin x ∧ Trigonometry.sin x ≤ 1
  cos : ∀ x : Float32, x.isFinite = true → -1 ≤ Trigonometry.cos x ∧ Trigonometry.cos x ≤ 1
  acos : ∀ x : Float32, -1 ≤ x → x ≤ 1 → 0 ≤ Trigonometry.acos x ∧ Trigonometry.acos x ≤ pi
  atan2 : ∀ y x : Float32, y.isNaN = false → x.isNaN = false →
    -pi ≤ Trigonometry.atan2 y x ∧ Trigonometry.atan2 y x ≤ pi
  atan2_nan : ∀ y x : Float32, y.isNaN = true ∨ x.isNaN = true →
    (Trigonometry.atan2 y x).isNaN = true

structure Trigonometry.PolarRanges [Trigonometry] : Prop where
  sin : ∀ x : Float32, x.isFinite = true → -1 ≤ Trigonometry.sin x ∧ Trigonometry.sin x ≤ 1
  cos : ∀ x : Float32, x.isFinite = true → -1 ≤ Trigonometry.cos x ∧ Trigonometry.cos x ≤ 1
  atan2 : ∀ y x : Float32, y.isNaN = false → x.isNaN = false →
    -pi ≤ Trigonometry.atan2 y x ∧ Trigonometry.atan2 y x ≤ pi

private theorem Trigonometry.Ranges.polar [Trigonometry] (ranges : Trigonometry.Ranges) :
    Trigonometry.PolarRanges :=
  ⟨ranges.sin, ranges.cos, ranges.atan2⟩

def Single.Bounded (limit : Float32) (s : Single) : Prop :=
  ∃ x, s = .number x ∧ Within (-limit) limit x

structure Phasor.Bounded (limit : Float32) (z : Phasor) : Prop where
  re : z.re.Bounded limit
  im : z.im.Bounded limit

/-- Bound on sums: adding one to it rounds back to it. -/
def sumLimit : Float32 := 33554432

namespace Single

variable {s t : Single} {x y : Float32}

private theorem add_number (number : (x + y).isNaN = false) :
    (.number x + .number y : Single) = .number (x + y) :=
  if_neg (by rw [number]; exact Bool.false_ne_true)

private theorem sub_number (number : (x - y).isNaN = false) :
    (.number x - .number y : Single) = .number (x - y) :=
  if_neg (by rw [number]; exact Bool.false_ne_true)

private theorem mul_number (number : (x * y).isNaN = false) :
    (.number x * .number y : Single) = .number (x * y) :=
  if_neg (by rw [number]; exact Bool.false_ne_true)

theorem Bounded.add (sum : s.Bounded sumLimit) (term : t.Bounded 1) : (s + t).Bounded sumLimit := by
  obtain ⟨x, rfl, inside⟩ := sum
  obtain ⟨y, rfl, inside'⟩ := term
  have result : Within (-sumLimit) sumLimit (x + y) := (inside.add inside').widen
  exact ⟨x + y, add_number result.number, result⟩

theorem Bounded.sub (sum : s.Bounded sumLimit) (term : t.Bounded 1) : (s - t).Bounded sumLimit := by
  obtain ⟨x, rfl, inside⟩ := sum
  obtain ⟨y, rfl, inside'⟩ := term
  have result : Within (-sumLimit) sumLimit (x - y) := (inside.sub inside').widen
  exact ⟨x - y, sub_number result.number, result⟩

theorem Bounded.weighted (term : s.Bounded 1) {k : Float32} (unit : Within 0 1 k) :
    (s * .number k).Bounded 1 := by
  obtain ⟨x, rfl, inside⟩ := term
  have result := inside.weighted unit
  exact ⟨x * k, mul_number result.number, result⟩

end Single

namespace Phasor

variable {v w : Phasor}

theorem Bounded.add (sum : v.Bounded sumLimit) (term : w.Bounded 1) : (v + w).Bounded sumLimit :=
  ⟨sum.re.add term.re, sum.im.add term.im⟩

theorem Bounded.sub (sum : v.Bounded sumLimit) (term : w.Bounded 1) : (v - w).Bounded sumLimit :=
  ⟨sum.re.sub term.re, sum.im.sub term.im⟩

theorem Bounded.weighted (term : v.Bounded 1) {k : Float32} (unit : Within 0 1 k) :
    (v * k).Bounded 1 :=
  ⟨term.re.weighted unit, term.im.weighted unit⟩

private theorem zero_bounded {limit : Float32} (inside : Within (-limit) limit 0) :
    Bounded limit 0 :=
  ⟨⟨0, rfl, inside⟩, ⟨0, rfl, inside⟩⟩

section
variable [Trigonometry]

private theorem arg_within (ranges : Trigonometry.PolarRanges) {limit : Float32}
    (bounded : v.Bounded limit) :
    Within (-pi) pi v.arg := by
  obtain ⟨x, re, inside⟩ := bounded.re
  obtain ⟨y, im, inside'⟩ := bounded.im
  obtain ⟨lower, upper⟩ := ranges.atan2 y x inside'.number inside.number
  rw [arg, re, im]
  exact ⟨by decide, by decide, lower, upper⟩

theorem heading_onCircle (ranges : Trigonometry.PolarRanges) {limit : Float32}
    (bounded : v.Bounded limit) : 0 ≤ v.heading ∧ v.heading < 360 := by
  have degrees : Within (-180) 180 (toDegrees v.arg) := (arg_within ranges bounded).scale.widen
  have turned : Within 0 360
      (if toDegrees v.arg < 0 then toDegrees v.arg + 360 else toDegrees v.arg) := by
    split_ifs with left
    · have negative : Within (-180) 0 (toDegrees v.arg) :=
        ⟨degrees.low_finite, rfl, degrees.lower, Binary32.le_of_lt left⟩
      have circle : Within 360 360 360 := by decide
      exact (negative.add circle).widen
    · have nonneg := Binary32.le_of_not_lt degrees.number (show Float32.isNaN 0 = false from rfl) left
      exact Within.widen ⟨rfl, degrees.high_finite, nonneg, degrees.upper⟩
  simp only [heading]
  generalize (if toDegrees v.arg < 0 then toDegrees v.arg + 360 else toDegrees v.arg) = d at turned ⊢
  split_ifs with full
  · exact ⟨by decide, by decide⟩
  · exact ⟨turned.lower, Binary32.lt_of_not_le rfl turned.number full⟩

private theorem unit_bounded (ranges : Trigonometry.PolarRanges) {angle : Float32}
    (finite : angle.isFinite = true) : (unit angle).Bounded 1 := by
  obtain ⟨lower, upper⟩ := ranges.cos angle finite
  obtain ⟨lower', upper'⟩ := ranges.sin angle finite
  exact ⟨⟨_, rfl, rfl, rfl, lower, upper⟩, ⟨_, rfl, rfl, rfl, lower', upper'⟩⟩

private theorem ofDegrees_bounded (ranges : Trigonometry.PolarRanges) {degrees : Float32}
    (inside : Within 0 360 degrees) : (Compass.ofDegrees degrees : Phasor).Bounded 1 :=
  unit_bounded ranges (inside.scale (k := pi / 180)).finite

end

end Phasor

theorem between_of_requireOnCircle {degrees : Float32} (gate : requireOnCircle degrees = .ok ()) :
    0 ≤ degrees ∧ degrees < 360 := by
  by_contra outside
  rw [requireOnCircle, if_neg outside] at gate
  cases gate

theorem within_of_requireOnCircle {degrees : Float32} (gate : requireOnCircle degrees = .ok ()) :
    Within 0 360 degrees := by
  obtain ⟨lower, upper⟩ := between_of_requireOnCircle gate
  exact ⟨rfl, by decide, lower, Binary32.le_of_lt upper⟩

theorem requireOnCircle_measured {degrees : Float32} (measured : Within 0 180 degrees) :
    requireOnCircle degrees = .ok () :=
  if_pos ⟨measured.lower, measured.lt⟩

/-- Weight of the oldest value, of which the other weights are multiples. -/
def oldestWeight (n : Nat) : Float32 :=
  if n = 0 then Float32.ofNat 0
  else Float32.ofNat 2 / (Float32.ofNat n * (Float32.ofNat n + Float32.ofNat 1))

private theorem filterWeights_eq (n : Nat) :
    filterWeights n = (List.range n).map fun k => Float32.ofNat (k + 1) * oldestWeight n :=
  rfl

theorem oldestWeight_multiples : ∀ n < windowCells, Within 0 1 (oldestWeight n) ∧
    Within 0 1 (0 * oldestWeight n) ∧ Within 0 1 (Float32.ofNat n * oldestWeight n) := by
  decide +kernel

private theorem filterWeights_unit {n : Nat} (few : n < windowCells) :
    ∀ k ∈ filterWeights n, Within 0 1 k := by
  obtain ⟨oldest, least, greatest⟩ := oldestWeight_multiples n few
  have short : n < 2 ^ 23 := Nat.lt_trans few (by decide)
  rw [filterWeights_eq]
  intro k member
  obtain ⟨i, inside, rfl⟩ := List.mem_map.mp member
  have place : Within 0 (Float32.ofNat n) (Float32.ofNat (i + 1)) :=
    ⟨rfl, Binary32.isFinite_ofNat short, Binary32.le_of_lt (Binary32.ofNat_pos i.succ_pos),
      Binary32.ofNat_le_ofNat (List.mem_range.mp inside) short⟩
  have weight := place.scale oldest.finite oldest.lower least.finite greatest.finite
  exact weight.widen least.lower greatest.upper rfl rfl

private theorem weightedSum_bounded {vectors : List Phasor} {weights : List Float32}
    (bounded : ∀ v ∈ vectors, v.Bounded 1) (unit : ∀ k ∈ weights, Within 0 1 k) :
    (weightedSum vectors weights).Bounded sumLimit := by
  have terms : ∀ term ∈ List.zipWith (fun (v : Phasor) (k : Float32) => v * k) vectors weights,
      term.Bounded 1 := by
    rw [← List.map_uncurry_zip_eq_zipWith]
    intro term member
    obtain ⟨⟨v, k⟩, paired, rfl⟩ := List.mem_map.mp member
    exact (bounded v (List.of_mem_zip paired).1).weighted (unit k (List.of_mem_zip paired).2)
  have start : (0 : Phasor).Bounded sumLimit := Phasor.zero_bounded (by decide)
  simp only [weightedSum]
  generalize List.zipWith (fun (v : Phasor) (k : Float32) => v * k) vectors weights = sum at terms
  generalize (0 : Phasor) = partialSum at start ⊢
  induction sum generalizing partialSum with
  | nil => exact start
  | cons term rest ih =>
    exact ih (fun later member => terms later (List.mem_cons_of_mem _ member)) _
      (start.add (terms term List.mem_cons_self))

namespace ExponentialFilter

variable {alpha state degrees : Float32}

theorem fall_within (unit : Within 0 1 alpha) (finite : state.isFinite = true)
    (nonneg : 0 ≤ degrees) (falls : degrees ≤ state) :
    Within 0 state (state - alpha * (state - degrees)) := by
  have difference : Within 0 state (state - degrees) :=
    Within.sub_share ⟨rfl, finite, nonneg, falls⟩
  have part : Within 0 state (alpha * (state - degrees)) :=
    ((unit.share difference.finite).1 difference.lower).widen (by decide) difference.upper rfl
      finite
  exact part.sub_share

theorem state_within (unit : Within 0 1 alpha) (held : Within 0 270 state)
    (measured : Within 0 180 degrees) : Within 0 270 (state - alpha * (state - degrees)) := by
  by_cases falls : degrees ≤ state
  · exact (fall_within unit held.finite measured.lower falls).widen (by decide) held.upper
  · have apart : (state - degrees).isFinite = true := (held.sub measured).finite
    have below : state ≤ degrees :=
      Binary32.le_of_lt (Binary32.lt_of_not_le measured.number held.number falls)
    have part := (unit.share apart).2 (Within.sub_nonpos held.finite measured.finite below)
    -- The state lies on one side of the right angle and adds what is left of the straight one.
    by_cases low : state ≤ 90
    · have held : Within 0 90 state := ⟨rfl, by decide, held.lower, low⟩
      have difference : Within (-180) 90 (state - degrees) := (held.sub measured).widen
      have taken : Within (-180) 0 (alpha * (state - degrees)) := part.widen difference.lower
      exact (held.sub taken).widen
    · have right : Float32.isNaN 90 = false := rfl
      have held : Within 90 180 state := ⟨by decide, by decide,
        Binary32.le_of_lt (Binary32.lt_of_not_le held.number right low),
        Binary32.le_trans below measured.upper⟩
      have difference : Within (-90) 180 (state - degrees) := (held.sub measured).widen
      have taken : Within (-90) 0 (alpha * (state - degrees)) := part.widen difference.lower
      exact (held.sub taken).widen

end ExponentialFilter

namespace WindowMean

structure Bounded (m : WindowMean Phasor) : Prop where
  window : m.window.All (Phasor.Bounded 1)
  sum : m.sum.Bounded sumLimit

theorem Bounded.enter {m : WindowMean Phasor} (bounded : m.Bounded) {v : Phasor}
    (new : v.Bounded 1) : (m.enter v).Bounded := by
  obtain ⟨dropped, window⟩ := bounded.window.push new
  refine ⟨window, ?_⟩
  simp only [WindowMean.enter]
  cases oldest : (m.window.push v).1 with
  | none => exact bounded.sum.add new
  | some old => exact (bounded.sum.sub (dropped old oldest)).add new

theorem bounded_empty : (empty : WindowMean Phasor).Bounded :=
  ⟨Ring.All.fresh (Phasor.zero_bounded (by decide)) (by decide),
    Phasor.zero_bounded (by decide)⟩

theorem Bounded.update [Trigonometry] (ranges : Trigonometry.PolarRanges) {m : WindowMean Phasor}
    (bounded : m.Bounded) {degrees : Float32} (gate : requireOnCircle degrees = .ok ()) :
    ∃ smoothed next, m.update degrees = (.ok smoothed, next) ∧
      (0 ≤ smoothed ∧ smoothed < 360) ∧ next.Bounded := by
  have vector := Phasor.ofDegrees_bounded ranges (within_of_requireOnCircle gate)
  have next := bounded.enter vector
  simp only [WindowMean.update, gate]
  exact ⟨_, _, rfl, Phasor.heading_onCircle ranges next.sum, next⟩

end WindowMean

namespace WeightedMean

def Bounded (m : WeightedMean Phasor) : Prop :=
  m.window.All (Phasor.Bounded 1)

theorem bounded_empty : (empty : WeightedMean Phasor).Bounded :=
  Ring.All.fresh (Phasor.zero_bounded (by decide)) (by decide)

theorem Bounded.update [Trigonometry] (ranges : Trigonometry.PolarRanges) {m : WeightedMean Phasor}
    (bounded : m.Bounded) {degrees : Float32} (gate : requireOnCircle degrees = .ok ()) :
    ∃ smoothed next, m.update degrees = (.ok smoothed, next) ∧
      (0 ≤ smoothed ∧ smoothed < 360) ∧ next.Bounded := by
  have vector := Phasor.ofDegrees_bounded ranges (within_of_requireOnCircle gate)
  have window := (Ring.All.push bounded vector).2
  have few : (m.window.push (Compass.ofDegrees degrees)).2.toList.length < windowCells :=
    Ring.length_toList _ ▸ Ring.length_lt _
  have sum := weightedSum_bounded window.toList (filterWeights_unit few)
  simp only [WeightedMean.update, gate]
  exact ⟨_, _, rfl, Phasor.heading_onCircle ranges sum, window⟩

end WeightedMean

namespace AngleFilter

def Bounded : AngleFilter Phasor → Prop
  | .none => True
  | .mean f => f.Bounded
  | .exponential f => Within 0 1 f.alpha ∧ Within 0 270 f.state
  | .weighted f => f.Bounded

theorem bounded_ofMode {mode : Smoothing} {fresh : AngleFilter Phasor}
    (made : ofMode mode = .ok fresh) : fresh.Bounded := by
  cases mode with
  | none =>
    cases made
    trivial
  | mean =>
    cases made
    exact WindowMean.bounded_empty
  | exponential alpha =>
    simp only [ofMode, ExponentialFilter.ofAlpha] at made
    split_ifs at made with inside <;> cases made
    have rest : Within 0 270 0 := by decide
    exact ⟨⟨rfl, rfl, inside.1, inside.2⟩, rest⟩
  | weighted =>
    cases made
    exact WeightedMean.bounded_empty

variable [Trigonometry]

theorem Bounded.update (ranges : Trigonometry.Ranges) {f : AngleFilter Phasor}
    (bounded : f.Bounded) {degrees : Float32} (measured : Within 0 180 degrees) :
    ∃ smoothed next, f.update degrees = (.ok smoothed, next) ∧
      (0 ≤ smoothed ∧ smoothed < 360) ∧ next.Bounded := by
  have gate := requireOnCircle_measured measured
  cases f with
  | none => exact ⟨degrees, .none, rfl, ⟨measured.lower, measured.lt⟩, trivial⟩
  | mean f =>
    obtain ⟨smoothed, next, moved, inside, kept⟩ :=
      WindowMean.Bounded.update ranges.polar bounded gate
    simp only [AngleFilter.update, moved]
    exact ⟨smoothed, .mean next, rfl, inside, kept⟩
  | exponential f =>
    have next := ExponentialFilter.state_within bounded.1 bounded.2 measured
    simp only [AngleFilter.update, ExponentialFilter.update, gate]
    exact ⟨_, _, rfl, ⟨next.lower, next.lt⟩, bounded.1, next⟩
  | weighted f =>
    obtain ⟨smoothed, next, moved, inside, kept⟩ :=
      WeightedMean.Bounded.update ranges.polar bounded gate
    simp only [AngleFilter.update, moved]
    exact ⟨smoothed, .weighted next, rfl, inside, kept⟩

end AngleFilter

end DirectionFinding
