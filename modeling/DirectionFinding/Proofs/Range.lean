import DirectionFinding.Proofs.AngleEstimate
import DirectionFinding.Proofs.ArcCosine
import DirectionFinding.Proofs.Measurement
import DirectionFinding.Proofs.Usable

/-!
Ranges of the numbers in a report. Samples may hold anything; what is no number, or too large to be
measured, is stopped before it becomes an angle, so that a burst that is measured always passes the
gate of its track.
-/
namespace DirectionFinding

def Angles.all (a : Angles) : List Float32 :=
  a.azimuth :: a.elevation.toList

theorem carrier_large {megahertz : UInt32}
    (positive : isPositive (Float32.ofNat megahertz.toNat * 1000000) = true) :
    1 ≤ Float32.ofNat megahertz.toNat * 1000000 := by
  have million : (0 : Float32) < 1000000 := by decide +kernel
  have nonzero : megahertz.toNat ≠ 0 := by
    intro zero
    rw [zero] at positive
    revert positive
    decide +kernel
  exact Binary32.le_trans (by decide +kernel)
    (Binary32.le_mul_of_one_le (Binary32.one_le_ofNat (Nat.pos_of_ne_zero nonzero)) million)

namespace Track

def Bounded (t : Track Phasor) : Prop :=
  t.azimuth.Bounded ∧ t.elevation.Bounded

theorem bounded_ofMode {mode : Smoothing} {t : Track Phasor} (started : ofMode mode = .ok t) :
    t.Bounded := by
  obtain ⟨azimuth, first, started⟩ := Located.bind_success _ _ _ started
  obtain ⟨elevation, second, started⟩ := Located.bind_success _ _ _ started
  cases started
  exact ⟨AngleFilter.bounded_ofMode first, AngleFilter.bounded_ofMode second⟩

end Track

section
variable [Trigonometry]

private theorem Trigonometry.Ranges.angleRange
    (ranges : Trigonometry.Ranges) : Trigonometry.AngleRange where
  known y x number number' :=
    ⟨by decide +kernel, by decide +kernel, (ranges.atan2 y x number number').1,
      (ranges.atan2 y x number number').2⟩
  unknown := ranges.atan2_nan

private theorem Phasor.arg_of_finite (ranges : Trigonometry.Ranges) {z : Phasor}
    (finite : z.arg.isFinite = true) : Within (-pi) pi z.arg := by
  have range := ranges.angleRange
  obtain ⟨re, im⟩ := (Phasor.isFinite_arg_iff range.finiteAngles).mp finite
  exact range.known _ _ im re

private theorem phaseToAngle_ok {phase distance hertz angle : Float32}
    (measured : phaseToAngle phase distance hertz = .ok angle) :
    phase.isFinite = true ∧ isPositive distance = true ∧ isPositive hertz = true := by
  rcases phaseToAngle_cases phase distance hertz with ⟨fault, refused⟩ | accepted
  · cases refused.symm.trans measured
  · exact accepted

/-- The carrier and the distance keep the divisor above zero, however small the distance is; where
the divisor is infinite, the quotient is zero. -/
theorem phaseToAngle_within (ranges : Trigonometry.Ranges) {phase distance hertz angle : Float32}
    (turned : Within (-pi) pi phase) (carrier : 1 ≤ hertz)
    (measured : phaseToAngle phase distance hertz = .ok angle) : Within 0 180 angle := by
  obtain ⟨finite, close, slow⟩ := phaseToAngle_ok measured
  have apart := pos_of_isPositive close
  have turns : 1 ≤ 2 * pi * hertz := Binary32.le_trans carrier
    (Binary32.le_mul_of_one_le (by decide +kernel) (pos_of_isPositive slow))
  have divisor : 0 < axialPhase distance hertz :=
    Binary32.lt_of_lt_of_le apart (Binary32.le_mul_of_one_le turns apart)
  have dividend : (phase * waveSpeed).isFinite = true := turned.scale.finite
  cases measured.symm.trans (phaseToAngle_eq finite close slow)
  exact toDegrees_acos_within ranges.acos (Binary32.isNaN_div dividend divisor)

private theorem phaseDifference_arg {burst : SlottedBurst Phasor} {a b : Antenna} {phase : Float32}
    {count : Nat} (measured : phaseDifference burst a b = .ok (phase, count)) :
    ∃ z : Phasor, phase = z.arg := by
  obtain ⟨-, -, -, -, rfl⟩ := phaseDifference_ok measured
  exact ⟨_, rfl⟩

private theorem pairAngle_within (ranges : Trigonometry.Ranges) {burst : SlottedBurst Phasor}
    {pair : AntennaPair} {phase angle : Float32} {count : Nat}
    (measured : pairAngle burst pair = .ok (phase, count, angle)) :
    phase.isFinite = true ∧ Within 0 180 angle := by
  obtain ⟨⟨phase, count⟩, difference, measured⟩ := Located.bind_success _ _ _ measured
  dsimp only at measured
  obtain ⟨angle, turned, measured⟩ := Located.bind_success _ _ _ measured
  cases measured
  obtain ⟨finite, -, positive⟩ := phaseToAngle_ok turned
  obtain ⟨z, rfl⟩ := phaseDifference_arg difference
  exact ⟨finite, phaseToAngle_within ranges (Phasor.arg_of_finite ranges finite)
    (carrier_large positive) turned⟩

private theorem estimateAngles_within (ranges : Trigonometry.Ranges) {burst : SlottedBurst Phasor}
    {pairs : AnglePairs} {estimate : AngleEstimate}
    (estimated : estimateAngles burst pairs = .ok estimate) :
    estimate.phase.isFinite = true ∧ ∀ degrees ∈ estimate.angles.all, Within 0 180 degrees := by
  obtain ⟨⟨phase, count, azimuth⟩, first, estimated⟩ := Located.bind_success _ _ _ estimated
  obtain ⟨finite, inside⟩ := pairAngle_within ranges first
  dsimp only at estimated
  split at estimated
  · cases estimated
    exact ⟨finite, by simpa [Angles.all] using inside⟩
  · obtain ⟨⟨_, _, elevation⟩, second, estimated⟩ := Located.bind_success _ _ _ estimated
    cases estimated
    exact ⟨finite, by simpa [Angles.all] using ⟨inside, (pairAngle_within ranges second).2⟩⟩

theorem Track.Bounded.step (ranges : Trigonometry.Ranges) {t : Track Phasor} (bounded : t.Bounded)
    {raw : Angles} (measured : ∀ degrees ∈ raw.all, Within 0 180 degrees) :
    ∃ smoothed next, t.step raw = (.ok smoothed, next) ∧
      (∀ degrees ∈ smoothed.all, 0 ≤ degrees ∧ degrees < 360) ∧ next.Bounded := by
  have first := measured raw.azimuth List.mem_cons_self
  obtain ⟨smoothed, azimuth, moved, inside, kept⟩ := bounded.1.update ranges first
  cases present : raw.elevation with
  | none =>
    have gate : Track.requireAngles raw = .ok () := by
      simp only [Track.requireAngles, requireOnCircle_measured first, Located.ok_bind, present]
    refine ⟨⟨smoothed, none⟩, { t with azimuth := azimuth, steps := t.steps + 1 }, ?_, ?_,
      kept, bounded.2⟩
    · simp only [Track.step, gate, moved, present]
    · simpa [Angles.all] using inside
  | some degrees =>
    have second := measured degrees (by simp [Angles.all, present])
    have gate : Track.requireAngles raw = .ok () := by
      simp only [Track.requireAngles, requireOnCircle_measured first, Located.ok_bind, present,
        requireOnCircle_measured second]
    obtain ⟨smoothedElevation, elevation, movedElevation, inside', kept'⟩ :=
      bounded.2.update ranges second
    refine ⟨⟨smoothed, some smoothedElevation⟩,
      { t with azimuth := azimuth, elevation := elevation, steps := t.steps + 1 }, ?_, ?_,
      kept, kept'⟩
    · simp only [Track.step, gate, moved, present, movedElevation]
    · simpa [Angles.all] using ⟨inside, inside'⟩

structure Fix.InRange (fix : Fix) : Prop where
  phase : fix.phase.isFinite = true
  raw : ∀ degrees ∈ fix.raw.all, 0 ≤ degrees ∧ degrees ≤ 180
  smoothed : ∀ degrees ∈ fix.smoothed.all, 0 ≤ degrees ∧ degrees < 360

namespace Locator

private theorem locate_bounded (ranges : Trigonometry.Ranges) (l : Locator) (raw : RawBurst Phasor)
    {track : Track Phasor} (bounded : track.Bounded) :
    (l.locate raw track).2.Bounded ∧
      (∀ report, (l.locate raw track).1 = .ok report → report.fix.InRange) ∧
      ∀ burst estimate, l.measure raw = .ok (burst, estimate) →
        ∃ smoothed next, track.step estimate.angles = (.ok smoothed, next) := by
  unfold locate
  cases measured : l.measure raw with
  | error cause =>
    refine ⟨bounded, fun report located => ?_, fun burst estimate nothing => ?_⟩
    · cases located
    · cases nothing
  | ok both =>
    obtain ⟨burst, estimate⟩ := both
    obtain ⟨_, _, rest⟩ := Located.bind_success _ _ _ measured
    obtain ⟨_, estimated, rest⟩ := Located.bind_success _ _ _ rest
    cases rest
    obtain ⟨finite, inside⟩ := estimateAngles_within ranges estimated
    obtain ⟨smoothed, next, stepped, onCircle, kept⟩ := bounded.step ranges inside
    simp only [stepped]
    refine ⟨kept, fun report located => ?_, fun _ _ same => ?_⟩
    · cases located
      have raw : ∀ degrees ∈ estimate.angles.all, 0 ≤ degrees ∧ degrees ≤ 180 :=
        fun degrees member => ⟨(inside degrees member).lower, (inside degrees member).upper⟩
      exact ⟨finite, raw, onCircle⟩
    · cases same
      exact ⟨_, _, stepped⟩

private theorem locateAll_bounded (ranges : Trigonometry.Ranges) (l : Locator)
    {track : Track Phasor} (bounded : track.Bounded) (bursts : List (RawBurst Phasor)) :
    (l.locateAll track bursts).2.Bounded := by
  induction bursts generalizing track with
  | nil => exact bounded
  | cons raw rest ih => exact ih (l.locate_bounded ranges raw bounded).1

/-- Whatever the samples hold and whatever came before, every number of a report is in its range, and
a burst whose angles were measured is not refused by the track. -/
theorem locate_inRange (ranges : Trigonometry.Ranges) (l : Locator) {mode : Smoothing}
    {track : Track Phasor} (started : Track.ofMode mode = .ok track)
    (earlier : List (RawBurst Phasor)) (raw : RawBurst Phasor) :
    let reached := (l.locateAll track earlier).2
    (∀ report, (l.locate raw reached).1 = .ok report → report.fix.InRange) ∧
      ∀ burst estimate, l.measure raw = .ok (burst, estimate) →
        ∃ smoothed next, reached.step estimate.angles = (.ok smoothed, next) :=
  (l.locate_bounded ranges raw
    (l.locateAll_bounded ranges (Track.bounded_ofMode started) earlier)).2

end Locator

end

/-- Ten equal samples are a wave from broadside, 90°: nothing turns, and the mean sees a right
angle. -/
theorem Locator.locate_inRange_level :
    let level : Trigonometry :=
      ⟨fun x => if x == 0 then 0 else 1, fun x => if x == 0 then 1 else Float32.ofBits 0xb33bbd2e,
        fun _ => pi / 2,
        fun y x => if y.isNaN || x.isNaN then Binary32.notANumber else if y == 0 then 0 else pi / 2,
        fun x _ => x⟩
    let l : Locator :=
      ⟨{ cteUnits := 2 }, {}, ⟨.regular, 4000, 2000, 2000, 1000, 8, 2, 1, 1, 2000⟩, {}⟩
    let track : Track Phasor := ⟨.mean, .mean .empty, .mean .empty, 0⟩
    let raw : RawBurst Phasor := .ofSamples 2440 (List.replicate 10 (.ofParts 1 0))
    level.Ranges ∧ Track.ofMode .mean = .ok track ∧
      (∀ report, (l.locate raw track).1 = .ok report → report.fix.InRange) ∧
      ∃ burst estimate smoothed next, l.measure raw = .ok (burst, estimate) ∧
        track.step estimate.angles = (.ok smoothed, next) := by
  intro level l track raw
  have succeeds : (l.measure raw).isOk = true := by decide +kernel +revert
  have sine (x : Float32) : Trigonometry.sin x = if x == 0 then 0 else 1 := rfl
  have cosine (x : Float32) :
      Trigonometry.cos x = if x == 0 then 1 else Float32.ofBits 0xb33bbd2e := rfl
  have angle (y x : Float32) : Trigonometry.atan2 y x =
      if y.isNaN || x.isNaN then Binary32.notANumber else if y == 0 then 0 else pi / 2 := rfl
  have quarter : 0 ≤ pi / 2 ∧ pi / 2 ≤ pi := by decide +kernel
  have ranges : level.Ranges := {
    sin := fun x _ => by
      rw [sine]
      split <;> decide +kernel
    cos := fun x _ => by
      rw [cosine]
      split <;> decide +kernel
    acos := fun _ _ _ => quarter
    atan2 := fun y x number number' => by
      rw [angle, number, number', Bool.or_false, if_neg Bool.false_ne_true]
      split <;> decide +kernel
    atan2_nan := fun y x strange => by
      have either : (y.isNaN || x.isNaN) = true := by simpa using strange
      rw [angle, either, if_pos rfl]
      rfl }
  have started : Track.ofMode .mean = .ok track := rfl
  obtain ⟨inRange, passes⟩ := locate_inRange ranges l started [] raw
  cases measured : l.measure raw with
  | error cause =>
    rw [measured] at succeeds
    cases succeeds
  | ok both =>
    obtain ⟨smoothed, next, stepped⟩ := passes both.1 both.2 measured
    exact ⟨ranges, started, inRange, both.1, both.2, smoothed, next, rfl, stepped⟩

end DirectionFinding
