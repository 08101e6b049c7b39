import DirectionFinding.Proofs.Number.Product
import DirectionFinding.Proofs.Number.Sign
import DirectionFinding.Proofs.Number.Undefined
import DirectionFinding.Proofs.Smoothing.Range

/-!
Usable phasors and the quotients by them. A usable divisor has a squared magnitude above zero, though
it may be infinite, so a quotient loses a part in two ways only: its dividend has no such part, or an
infinite part is divided by an infinite squared magnitude.
-/
namespace DirectionFinding

namespace Phasor

def IsKnown (z : Phasor) : Prop :=
  z.re.value.isNaN = false ∧ z.im.value.isNaN = false

structure Proper (z : Phasor) : Prop where
  finite : z.isFinite = true
  nonzero : (z.re.value == 0 && z.im.value == 0) = false

instance (z : Phasor) : Decidable z.Proper :=
  decidable_of_iff (z.isFinite = true ∧ (z.re.value == 0 && z.im.value == 0) = false)
    ⟨fun ⟨finite, nonzero⟩ => ⟨finite, nonzero⟩, fun proper => ⟨proper.finite, proper.nonzero⟩⟩

variable {a b z : Phasor}

theorem isFinite_iff :
    z.isFinite = true ↔ z.re.value.isFinite = true ∧ z.im.value.isFinite = true :=
  Bool.and_eq_true_iff

private theorem isKnown_of_finite (finite : z.isFinite = true) : z.IsKnown :=
  have parts := isFinite_iff.mp finite
  ⟨Binary32.isNumber parts.1, Binary32.isNumber parts.2⟩

private theorem isUsable_iff :
    z.isUsable = true ↔ z.isFinite = true ∧ (z.normSq.value == 0) = false := by
  rw [isUsable, Bool.and_eq_true_iff, Bool.not_eq_true']

private theorem value_normSq (z : Phasor) :
    z.normSq.value = z.re.value * z.re.value + z.im.value * z.im.value := by
  rw [normSq, Single.value_add, Single.value_mul, Single.value_mul]

private theorem normSq_nonneg (known : z.IsKnown) : 0 ≤ z.normSq.value := by
  rw [value_normSq]
  exact Binary32.add_nonneg (Binary32.square_nonneg known.1) (Binary32.square_nonneg known.2)

private theorem normSq_pos (usable : z.isUsable = true) : 0 < z.normSq.value := by
  obtain ⟨finite, nonzero⟩ := isUsable_iff.mp usable
  have nonneg := Binary32.le_iff.mp (normSq_nonneg (isKnown_of_finite finite))
  rw [← Bool.not_eq_true, Binary32.beq_iff] at nonzero
  have apart : Binary32.height z.normSq.value ≠ Binary32.height 0 := fun level =>
    nonzero ⟨nonneg.2.1, rfl, level⟩
  exact Binary32.lt_iff.mpr ⟨rfl, nonneg.2.1, lt_of_le_of_ne nonneg.2.2 apart.symm⟩

theorem proper_of_usable (usable : z.isUsable = true) : z.Proper := by
  obtain ⟨finite, nonzero⟩ := isUsable_iff.mp usable
  refine ⟨finite, ?_⟩
  by_contra zero
  rw [Bool.not_eq_false, Bool.and_eq_true_iff, Binary32.beq_iff, Binary32.beq_iff] at zero
  obtain ⟨⟨-, -, level⟩, -, -, level'⟩ := zero
  obtain ⟨finite, finite'⟩ := isFinite_iff.mp finite
  have first := Binary32.square_level finite level
  have second := Binary32.square_level finite' level'
  have sum := Binary32.height_add first.1 second.1
  rw [first.2, second.2, Int.add_zero, Int.zero_mul, Binary32.settle_zero, ← value_normSq] at sum
  have positive := (Binary32.lt_iff.mp (normSq_pos usable)).2.2
  rw [sum] at positive
  exact absurd positive (Int.lt_irrefl 0)

def dividend (a b : Phasor) : Phasor :=
  ⟨a.re * b.re + a.im * b.im, a.im * b.re - a.re * b.im⟩

private theorem div_eq (a b : Phasor) :
    a / b = ⟨(dividend a b).re / b.normSq, (dividend a b).im / b.normSq⟩ :=
  rfl

/-- The dividend has both parts, and no infinite part meets an infinite divisor. -/
structure Comparable (a b : Phasor) : Prop where
  known : (dividend a b).IsKnown
  bounded : (dividend a b).isFinite = true ∨ b.normSq.value.isFinite = true

theorem isKnown_div_iff (usable : b.isUsable = true) : (a / b).IsKnown ↔ Comparable a b := by
  have positive := normSq_pos usable
  rw [div_eq, IsKnown, Single.value_div, Single.value_div, Binary32.isNaN_div_iff positive,
    Binary32.isNaN_div_iff positive]
  constructor
  · rintro ⟨⟨known, bounded⟩, known', bounded'⟩
    refine ⟨⟨known, known'⟩, ?_⟩
    rcases bounded with finite | divisor
    · rcases bounded' with finite' | divisor
      · exact .inl (isFinite_iff.mpr ⟨finite, finite'⟩)
      · exact .inr divisor
    · exact .inr divisor
  · rintro ⟨⟨known, known'⟩, finite | divisor⟩
    · obtain ⟨finite, finite'⟩ := isFinite_iff.mp finite
      exact ⟨⟨known, .inl finite⟩, known', .inl finite'⟩
    · exact ⟨⟨known, .inr divisor⟩, known', .inr divisor⟩

/-- What is no number in a phasor reaches both parts of its products. -/
theorem Comparable.left (comparable : Comparable a b) : a.IsKnown := by
  have known := comparable.known.1
  rw [dividend, Single.value_add, Single.value_mul, Single.value_mul] at known
  by_contra strange
  rw [IsKnown, not_and_or, Bool.not_eq_false, Bool.not_eq_false] at strange
  have lost : (a.re.value * b.re.value + a.im.value * b.im.value).isNaN = true := by
    rcases strange with strange | strange
    · exact Binary32.strict_add.left _ _ (Binary32.strict_mul.left _ _ strange)
    · exact Binary32.strict_add.right _ _ (Binary32.strict_mul.left _ _ strange)
  cases known.symm.trans lost

end Phasor

section
variable [Trigonometry]

/-- Two parts that are numbers have a finite angle, any others have none. -/
structure Trigonometry.FiniteAngles : Prop where
  known : ∀ y x : Float32, y.isNaN = false → x.isNaN = false →
    (Trigonometry.atan2 y x).isFinite = true
  unknown : ∀ y x : Float32, y.isNaN = true ∨ x.isNaN = true →
    (Trigonometry.atan2 y x).isNaN = true

structure Trigonometry.AngleRange : Prop where
  known : ∀ y x : Float32, y.isNaN = false → x.isNaN = false →
    Within (-pi) pi (Trigonometry.atan2 y x)
  unknown : ∀ y x : Float32, y.isNaN = true ∨ x.isNaN = true →
    (Trigonometry.atan2 y x).isNaN = true

theorem Trigonometry.AngleRange.finiteAngles (range : Trigonometry.AngleRange) :
    Trigonometry.FiniteAngles :=
  ⟨fun y x number number' => (range.known y x number number').finite, range.unknown⟩

namespace Phasor

variable {z : Phasor}

theorem isNaN_arg (angles : Trigonometry.FiniteAngles) (strange : ¬ z.IsKnown) :
    z.arg.isNaN = true := by
  rw [IsKnown, not_and_or, Bool.not_eq_false, Bool.not_eq_false] at strange
  exact angles.unknown z.im.value z.re.value strange.symm

theorem isFinite_arg_iff (angles : Trigonometry.FiniteAngles) :
    z.arg.isFinite = true ↔ z.IsKnown := by
  constructor
  · intro finite
    by_contra strange
    cases (Binary32.isNumber finite).symm.trans (isNaN_arg angles strange)
  · intro known
    exact angles.known z.im.value z.re.value known.2 known.1

end Phasor

end

/-- A library that knows two angles: zero on the real axis, and a right one elsewhere. -/
@[reducible]
def Trigonometry.axis : Trigonometry :=
  ⟨id, id, id,
    fun y x => if y.isNaN || x.isNaN then Binary32.notANumber else if y == 0 then 0 else pi / 2,
    fun x _ => x⟩

theorem Trigonometry.angleRange_axis : @Trigonometry.AngleRange .axis := by
  refine @AngleRange.mk .axis (fun y x number number' => ?_) fun y x strange => ?_
  · change Within (-pi) pi (if y.isNaN || x.isNaN then Binary32.notANumber
      else if y == 0 then 0 else pi / 2)
    rw [number, number', Bool.or_false, if_neg Bool.false_ne_true]
    split <;> decide +kernel
  · have either : (y.isNaN || x.isNaN) = true := by simpa using strange
    exact (congrArg Float32.isNaN (if_pos either)).trans Binary32.isNaN_notANumber

end DirectionFinding
