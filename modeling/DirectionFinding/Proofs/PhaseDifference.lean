import DirectionFinding.Proofs.AngleEstimate
import DirectionFinding.Proofs.Usable

/-!
Phases between antennas as numbers. Each sum is looked at by itself, finite and not zero, but the
products of two such sums can be infinite: then the quotient may lose a part, and a phase is reported
that is no number.
-/
namespace DirectionFinding

section
variable [Trigonometry] {burst : SlottedBurst Phasor} {a b : Antenna}

/-- A reported phase is finite, and a burst that is there without a finite phase is degenerate. -/
structure ReportsFinite (burst : SlottedBurst Phasor) (a b : Antenna) : Prop where
  reported : ∀ phase count, phaseDifference burst a b = .ok (phase, count) →
    phase.isFinite = true
  refused : a ≠ b → burst.length ≤ burst.capacity →
    (¬ ∃ phase count, phaseDifference burst a b = .ok (phase, count) ∧ phase.isFinite = true) →
    ∃ fault, phaseDifference burst a b = .error (.degenerateSignal fault)

private theorem phaseDifference_refused (distinct : a ≠ b) (inside : burst.length ≤ burst.capacity)
    (unmeasured : ¬ ∃ phase count, phaseDifference burst a b = .ok (phase, count)) :
    ∃ fault, phaseDifference burst a b = .error (.degenerateSignal fault) := by
  rw [phaseDifference_eq distinct inside] at *
  split_ifs at *
  · exact absurd ⟨_, _, rfl⟩ unmeasured
  · exact ⟨_, rfl⟩
  · exact ⟨_, rfl⟩

private theorem phaseDifference_finite_iff (angles : Trigonometry.FiniteAngles) {phase : Float32}
    {count : Nat} (measured : phaseDifference burst a b = .ok (phase, count)) :
    phase.isFinite = true ↔
      Phasor.Comparable (antennaSum burst.slots a) (antennaSum burst.slots b) := by
  obtain ⟨-, -, -, usable, rfl⟩ := phaseDifference_ok measured
  rw [Phasor.isFinite_arg_iff angles, Phasor.isKnown_div_iff usable]

private theorem reportsFinite_of_comparable (angles : Trigonometry.FiniteAngles)
    (comparable : a ≠ b → burst.length ≤ burst.capacity →
      (antennaSum burst.slots a).isUsable = true → (antennaSum burst.slots b).isUsable = true →
      Phasor.Comparable (antennaSum burst.slots a) (antennaSum burst.slots b)) :
    ReportsFinite burst a b := by
  have finite (phase : Float32) (count : Nat)
      (measured : phaseDifference burst a b = .ok (phase, count)) : phase.isFinite = true := by
    obtain ⟨distinct, inside, first, second, -⟩ := phaseDifference_ok measured
    exact (phaseDifference_finite_iff angles measured).mpr (comparable distinct inside first second)
  refine ⟨finite, fun distinct inside unmeasured => phaseDifference_refused distinct inside ?_⟩
  rintro ⟨phase, count, measured⟩
  exact unmeasured ⟨phase, count, measured, finite phase count measured⟩

/-- The phase of two usable sums is a number exactly if no part of their quotient is lost. -/
theorem reportsFinite_iff (angles : Trigonometry.FiniteAngles) (burst : SlottedBurst Phasor)
    (a b : Antenna) :
    ReportsFinite burst a b ↔
      (a ≠ b → burst.length ≤ burst.capacity → (antennaSum burst.slots a).isUsable = true →
        (antennaSum burst.slots b).isUsable = true →
        Phasor.Comparable (antennaSum burst.slots a) (antennaSum burst.slots b)) := by
  refine ⟨fun reports distinct inside first second => ?_, reportsFinite_of_comparable angles⟩
  have measured := phaseDifference_eq distinct inside
  rw [if_pos first, if_pos second] at measured
  exact (phaseDifference_finite_iff angles measured).mp (reports.reported _ _ measured)

end

/-- One slot of one sample each, a quarter turn apart. -/
theorem reportsFinite_iff_quarter :
    let _ : Trigonometry := .axis
    let burst : SlottedBurst Phasor := ⟨2, 2440, ⟨11⟩, [],
      [⟨⟨1⟩, 1, [.ofParts 0 1]⟩, ⟨⟨2⟩, 1, [.ofParts 1 0]⟩], 1⟩
    Trigonometry.FiniteAngles ∧ phaseDifference burst ⟨1⟩ ⟨2⟩ = .ok (pi / 2, 2) ∧
      ReportsFinite burst ⟨1⟩ ⟨2⟩ := by
  intro _ burst
  have angles : Trigonometry.FiniteAngles := Trigonometry.angleRange_axis.finiteAngles
  have measured : phaseDifference burst ⟨1⟩ ⟨2⟩ = .ok (pi / 2, 2) := by decide +kernel
  have finite : (pi / 2).isFinite = true := by decide +kernel
  refine ⟨angles, measured, (reportsFinite_iff angles burst ⟨1⟩ ⟨2⟩).mpr fun _ _ _ _ => ?_⟩
  exact (phaseDifference_finite_iff angles measured).mp finite

/-- The products of two sums of 10³⁰ are infinite, and so is the squared magnitude of the second. -/
theorem not_reportsFinite_large :
    let _ : Trigonometry := .axis
    let burst : SlottedBurst Phasor := ⟨2, 2440, ⟨11⟩, [],
      [⟨⟨1⟩, 1, [.ofParts 1e30 0]⟩, ⟨⟨2⟩, 1, [.ofParts 1e30 0]⟩], 1⟩
    Trigonometry.FiniteAngles ∧
      phaseDifference burst ⟨1⟩ ⟨2⟩ = .ok (Binary32.notANumber, 2) ∧
      ¬ ReportsFinite burst ⟨1⟩ ⟨2⟩ := by
  intro _ burst
  have measured : phaseDifference burst ⟨1⟩ ⟨2⟩ = .ok (Binary32.notANumber, 2) := by
    decide +kernel
  refine ⟨Trigonometry.angleRange_axis.finiteAngles, measured, fun reports => ?_⟩
  have finite := reports.reported _ _ measured
  cases finite

end DirectionFinding
