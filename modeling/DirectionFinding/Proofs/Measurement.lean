import DirectionFinding.Proofs.Drift.Turn
import DirectionFinding.Proofs.Locator

/-!
One burst on its way to a report: what an accepted locator is made of, when a burst can be
corrected and to what, and what a report owes to the measurement behind it.
-/
namespace DirectionFinding

namespace Locator

theorem ofSettings_ok {sampling : SamplingSettings} {array : AntennaArray} {pairs : AnglePairs}
    {l : Locator} (accepted : ofSettings sampling array pairs = .ok l) :
    ∃ plan, l = { sampling := sampling, array := array, plan := plan, pairs := pairs } ∧
      SamplingPlan.ofSettings sampling = .ok plan ∧ array.validate = .ok () ∧
      pairs.validate = .ok () := by
  obtain ⟨_, valid, accepted⟩ := Located.bind_success _ _ _ accepted
  obtain ⟨_, distinct, accepted⟩ := Located.bind_success _ _ _ accepted
  obtain ⟨plan, planned, accepted⟩ := Located.bind_success _ _ _ accepted
  cases accepted
  exact ⟨plan, rfl, planned, valid, distinct⟩

variable [Trigonometry] {l : Locator} {raw : RawBurst Phasor} {s : SamplingSettings}

theorem correct_eq_ok (follows : l.plan.Follows s) (accepted : l.array.Accepted)
    (enough : l.plan.requiredSamples ≤ raw.valid.length) {drift : Float32}
    (measured : estimateDrift (raw.valid.take l.plan.referenceSamples) = .ok drift) :
    ∃ burst, l.correct raw = .ok burst ∧ raw.TurnedAs l.plan l.array (turn drift) burst ∧
      burst.frequency = raw.frequency := by
  obtain ⟨assigned, sampled, made, removed, sampledAs⟩ :=
    RawBurst.assign_removeSwitchSlots follows accepted enough
  refine ⟨_, ?_, sampledAs.turnBack enough (turn drift), sampledAs.frequency⟩
  simp only [correct, made, removed, Located.ok_bind, sampledAs.reference, measured,
    sampledAs.correctDrift follows enough]

theorem correct_turned (follows : l.plan.Follows s) (accepted : l.array.Accepted)
    {burst : SlottedBurst Phasor} (corrected : l.correct raw = .ok burst) :
    ∃ drift, raw.TurnedAs l.plan l.array (turn drift) burst := by
  obtain ⟨assigned, made, rest⟩ := Located.bind_success _ _ _ corrected
  obtain ⟨⟨dropped, sampled⟩, removed, rest⟩ := Located.bind_success _ _ _ rest
  dsimp only at rest
  obtain ⟨drift, measured, _⟩ := Located.bind_success _ _ _ rest
  have enough : l.plan.requiredSamples ≤ raw.valid.length := by
    apply Nat.le_of_not_lt
    intro few
    cases made.symm.trans (RawBurst.assign_truncated follows accepted.nonempty few)
  have sampledAs := RawBurst.SampledAs.of_removed follows accepted enough made removed
  rw [sampledAs.reference] at measured
  obtain ⟨_, same, turned, -⟩ := correct_eq_ok follows accepted enough measured
  cases corrected.symm.trans same
  exact ⟨drift, turned⟩

theorem locate_estimated {track : Track Phasor} {report : Report}
    (located : (l.locate raw track).1 = .ok report) :
    ∃ estimate, l.correct raw = .ok report.burst ∧
      estimateAngles report.burst l.pairs = .ok estimate ∧ report.plan = l.plan := by
  unfold locate at located
  split at located
  · cases located
  · rename_i burst estimate measured
    obtain ⟨_, corrected, measured⟩ := Located.bind_success _ _ _ measured
    obtain ⟨_, estimated, measured⟩ := Located.bind_success _ _ _ measured
    cases measured
    split at located
    · cases located
    · cases located
      exact ⟨estimate, corrected, estimated, rfl⟩

theorem locate_measured (track : Track Phasor) {burst : SlottedBurst Phasor}
    {estimate : AngleEstimate} (corrected : l.correct raw = .ok burst)
    (estimated : estimateAngles burst l.pairs = .ok estimate)
    (inside : Track.requireAngles estimate.angles = .ok ()) :
    ∃ report next, l.locate raw track = (.ok report, next) := by
  have measured : l.measure raw = .ok (burst, estimate) := by
    simp only [measure, corrected, estimated, Located.ok_bind]
    rfl
  obtain ⟨smoothed, next, stepped⟩ := track.step_onCircle inside
  simp only [locate, measured, stepped]
  exact ⟨_, _, rfl⟩

end Locator

end DirectionFinding
