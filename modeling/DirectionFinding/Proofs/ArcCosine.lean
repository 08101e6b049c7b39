import DirectionFinding.AngleEstimate
import DirectionFinding.Proofs.Number.Interval
import DirectionFinding.Proofs.Number.Product
import DirectionFinding.Proofs.Number.Undefined

/-!
Angles from a phase, a distance and a carrier. Each of the three is looked at by itself, finite and,
but for the phase, above zero, while the cosine is the quotient of two products. Both can be infinite,
and both can be zero: then there is no cosine, and what is reported as an angle is no number.
-/
namespace DirectionFinding

private theorem clampUnit_within {x : Float32} (number : x.isNaN = false) :
    Within (-1) 1 (clampUnit x) := by
  rw [clampUnit]
  split_ifs with low high
  · decide +kernel
  · decide +kernel
  · exact ⟨rfl, rfl, Binary32.le_of_not_lt number rfl low, Binary32.le_of_not_lt rfl number high⟩

private theorem clampUnit_of_isNaN {x : Float32} (strange : x.isNaN = true) : clampUnit x = x := by
  have apart : ¬ x < -1 := fun low => by cases strange.symm.trans (Binary32.lt_iff.mp low).1
  have apart' : ¬ 1 < x := fun high => by cases strange.symm.trans (Binary32.lt_iff.mp high).2.1
  rw [clampUnit, if_neg apart, if_neg apart']

private theorem isNaN_toDegrees {radians : Float32} (strange : radians.isNaN = true) :
    (toDegrees radians).isNaN = true :=
  Binary32.strict_mul.left _ _ strange

theorem pos_of_isPositive {x : Float32} (positive : isPositive x = true) : 0 < x :=
  of_decide_eq_true (Bool.and_eq_true_iff.mp positive).2

/-- The phase that a wave along the axis of a pair would have, times its speed. -/
def axialPhase (distance hertz : Float32) : Float32 :=
  2 * pi * hertz * distance

structure HasCosine (phase distance hertz : Float32) : Prop where
  nonzero : (phase == 0) = true → 0 < axialPhase distance hertz
  bounded : (phase * waveSpeed).isFinite = true ∨ (axialPhase distance hertz).isFinite = true

section
variable {phase distance hertz : Float32}

/-- The carrier alone is never lost, only its product with the distance can come down to zero. -/
theorem axialPhase_nonneg (apart : 0 < distance) (swings : 0 < hertz) :
    0 ≤ axialPhase distance hertz := by
  have turns : hertz ≤ 2 * pi * hertz := Binary32.le_mul_of_one_le (by decide +kernel) swings
  exact Binary32.mul_nonneg_of_pos (Binary32.lt_of_lt_of_le swings turns) apart

private theorem isNaN_cosine_iff (finite : phase.isFinite = true) (apart : 0 < distance)
    (swings : 0 < hertz) :
    (phase * waveSpeed / axialPhase distance hertz).isNaN = false ↔
      HasCosine phase distance hertz := by
  have dividend : (phase * waveSpeed).isNaN = false := Binary32.isNaN_mul finite (by decide +kernel)
  have kept : (phase * waveSpeed == 0) = (phase == 0) :=
    Binary32.mul_beq_zero finite (by decide +kernel) (by decide +kernel)
  obtain ⟨-, divisor, least⟩ := Binary32.le_iff.mp (axialPhase_nonneg apart swings)
  rcases least.lt_or_eq with above | level
  · have positive : 0 < axialPhase distance hertz := Binary32.lt_iff.mpr ⟨rfl, divisor, above⟩
    rw [Binary32.isNaN_div_iff positive]
    exact ⟨fun both => ⟨fun _ => positive, both.2⟩, fun has => ⟨dividend, has.bounded⟩⟩
  · have zero : (axialPhase distance hertz).isFinite = true :=
      Binary32.isFinite_iff.mpr ⟨divisor, by rw [← level]; decide⟩
    have still : (phase == 0) = true ↔ Binary32.height (phase * waveSpeed) = 0 := by
      rw [← kept, Binary32.beq_iff]
      exact ⟨fun both => both.2.2, fun same => ⟨dividend, rfl, same⟩⟩
    rw [Binary32.isNaN_div_zero_iff dividend divisor level.symm]
    constructor
    · intro raised
      exact ⟨fun nothing => absurd (still.mp nothing) raised, .inr zero⟩
    · intro has nothing
      exact absurd level (Binary32.lt_iff.mp (has.nonzero (still.mpr nothing))).2.2.ne

end

section
variable [Trigonometry] {phase distance hertz : Float32}

/-- An inverse cosine has angles of at most half a circle, and none for what is no number. -/
structure Trigonometry.ArcRange : Prop where
  known : ∀ x : Float32, -1 ≤ x → x ≤ 1 → 0 ≤ Trigonometry.acos x ∧ Trigonometry.acos x ≤ pi
  unknown : ∀ x : Float32, x.isNaN = true → (Trigonometry.acos x).isNaN = true

/-- A refused argument, or an angle of at most half a circle. -/
def MeasuresAngle (phase distance hertz : Float32) : Prop :=
  (∃ fault, phaseToAngle phase distance hertz = .error (.invalidArgument fault)) ∨
    ∃ angle, phaseToAngle phase distance hertz = .ok angle ∧ Within 0 180 angle

theorem toDegrees_acos_within
    (arcs : ∀ x : Float32, -1 ≤ x → x ≤ 1 → 0 ≤ Trigonometry.acos x ∧ Trigonometry.acos x ≤ pi)
    {cosine : Float32} (number : cosine.isNaN = false) :
    Within 0 180 (toDegrees (Trigonometry.acos (clampUnit cosine))) := by
  have inside := clampUnit_within number
  obtain ⟨lower, upper⟩ := arcs _ inside.lower inside.upper
  have radians : Within 0 pi (Trigonometry.acos (clampUnit cosine)) :=
    ⟨rfl, by decide +kernel, lower, upper⟩
  exact radians.scale.widen

theorem phaseToAngle_eq (finite : phase.isFinite = true) (apart : isPositive distance = true)
    (swings : isPositive hertz = true) :
    phaseToAngle phase distance hertz =
      .ok (toDegrees (Trigonometry.acos
        (clampUnit (phase * waveSpeed / axialPhase distance hertz)))) := by
  simp only [phaseToAngle, finite, apart, swings, Bool.not_true, Bool.false_eq_true, if_false]
  rfl

theorem phaseToAngle_cases (phase distance hertz : Float32) :
    (∃ fault, phaseToAngle phase distance hertz = .error (.invalidArgument fault)) ∨
      phase.isFinite = true ∧ isPositive distance = true ∧ isPositive hertz = true := by
  unfold phaseToAngle
  split_ifs with strange close slow
  · exact .inl ⟨_, rfl⟩
  · exact .inl ⟨_, rfl⟩
  · exact .inl ⟨_, rfl⟩
  · simp only [Bool.not_eq_true', Bool.not_eq_false] at strange close slow
    exact .inr ⟨strange, close, slow⟩

/-- An accepted phase is converted to an angle exactly if it has a cosine. -/
theorem measuresAngle_iff (arcs : Trigonometry.ArcRange) (phase distance hertz : Float32) :
    MeasuresAngle phase distance hertz ↔
      (phase.isFinite = true → isPositive distance = true → isPositive hertz = true →
        HasCosine phase distance hertz) := by
  constructor
  · intro measures finite apart swings
    have answer := phaseToAngle_eq finite apart swings
    rw [← isNaN_cosine_iff finite (pos_of_isPositive apart) (pos_of_isPositive swings)]
    rcases measures with ⟨fault, refused⟩ | ⟨angle, measured, inside⟩
    · cases refused.symm.trans answer
    · cases measured.symm.trans answer
      by_contra strange
      rw [Bool.not_eq_false] at strange
      have lost := isNaN_toDegrees (arcs.unknown _ strange)
      rw [← clampUnit_of_isNaN strange] at lost
      cases inside.number.symm.trans lost
  · intro has
    rcases phaseToAngle_cases phase distance hertz with refused | ⟨finite, apart, swings⟩
    · exact .inl refused
    · have number := (isNaN_cosine_iff finite (pos_of_isPositive apart)
        (pos_of_isPositive swings)).mpr (has finite apart swings)
      exact .inr ⟨_, phaseToAngle_eq finite apart swings, toDegrees_acos_within arcs.known number⟩

end

/-- A library that knows three inverse cosines: of zero and of the two ends. -/
@[reducible]
def Trigonometry.ends : Trigonometry :=
  ⟨id, id,
    fun x => if x.isNaN then Binary32.notANumber else if x < 0 then pi else if x == 0 then pi / 2 else 0,
    fun y _ => y, fun x _ => x⟩

private theorem Trigonometry.arcRange_ends : @Trigonometry.ArcRange .ends := by
  refine @ArcRange.mk .ends (fun x lower upper => ?_) fun x strange => ?_
  · have number := (Binary32.le_iff.mp lower).2.1
    change 0 ≤ (if x.isNaN then Binary32.notANumber else if x < 0 then pi
        else if x == 0 then pi / 2 else 0) ∧
      (if x.isNaN then Binary32.notANumber else if x < 0 then pi
        else if x == 0 then pi / 2 else 0) ≤ pi
    rw [number, if_neg Bool.false_ne_true]
    split_ifs <;> decide +kernel
  · exact (congrArg Float32.isNaN (if_pos strange)).trans Binary32.isNaN_notANumber

/-- Phases far beyond both ends of the axis. -/
theorem measuresAngle_iff_endfire :
    let _ : Trigonometry := .ends
    Trigonometry.ArcRange ∧ phaseToAngle 100 0.05 2440000000 = .ok 0 ∧
      phaseToAngle (-100) 0.05 2440000000 = .ok 180 ∧
      HasCosine 100 0.05 2440000000 ∧ MeasuresAngle 100 0.05 2440000000 ∧
      HasCosine (-100) 0.05 2440000000 ∧ MeasuresAngle (-100) 0.05 2440000000 := by
  intro _
  have first : HasCosine 100 0.05 2440000000 := ⟨by decide +kernel, by decide +kernel⟩
  have second : HasCosine (-100) 0.05 2440000000 := ⟨by decide +kernel, by decide +kernel⟩
  refine ⟨Trigonometry.arcRange_ends, by decide +kernel, by decide +kernel, first, ?_, second, ?_⟩
  · exact (measuresAngle_iff Trigonometry.arcRange_ends 100 0.05 2440000000).mpr
      fun _ _ _ => first
  · exact (measuresAngle_iff Trigonometry.arcRange_ends (-100) 0.05 2440000000).mpr
      fun _ _ _ => second

/-- No phase at all, but the product of distance and carrier comes down to zero: zero has no quotient
by zero, and broadside is not found. -/
theorem not_measuresAngle_close :
    let _ : Trigonometry := .ends
    Trigonometry.ArcRange ∧ phaseToAngle 0 1e-30 1e-30 = .ok Binary32.notANumber ∧
      ¬ MeasuresAngle 0 1e-30 1e-30 := by
  intro _
  have measured : phaseToAngle 0 1e-30 1e-30 = .ok Binary32.notANumber := by decide +kernel
  refine ⟨Trigonometry.arcRange_ends, measured, ?_⟩
  rintro (⟨fault, refused⟩ | ⟨angle, answered, inside⟩)
  · cases refused.symm.trans measured
  · cases answered.symm.trans measured
    cases inside.number

end DirectionFinding
