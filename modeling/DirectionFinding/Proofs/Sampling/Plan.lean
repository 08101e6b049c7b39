import DirectionFinding.Sampling.Plan

/-!
Plans of accepted settings. An accepted plan repeats what the settings say and fits the buffers;
each regime ties the spacings to the length of a slot and to the step through the switch sequence.
-/
namespace DirectionFinding

theorem wholeRatio_eq_ok (divisor : Divisor) (num : Nat) {den : Nat} (positive : 0 < den) :
    wholeRatio divisor num den = .ok (num / den) :=
  if_neg (Nat.ne_of_gt positive)

private theorem SwitchSpacing.le_nanoseconds (spacing : SwitchSpacing) :
    1000 ≤ spacing.nanoseconds := by
  cases spacing <;> decide

theorem SwitchSpacing.nanoseconds_pos (spacing : SwitchSpacing) : 0 < spacing.nanoseconds :=
  Nat.lt_of_lt_of_le (by decide) spacing.le_nanoseconds

theorem SwitchSpacing.nanoseconds_le (spacing : SwitchSpacing) : spacing.nanoseconds ≤ 8000 := by
  cases spacing <;> decide

theorem SampleSpacing.nanoseconds_pos (spacing : SampleSpacing) : 0 < spacing.nanoseconds := by
  cases spacing <;> decide

theorem SampleSpacing.nanoseconds_le (spacing : SampleSpacing) : spacing.nanoseconds ≤ 4000 := by
  cases spacing <;> decide

namespace SamplingSettings

variable {s : SamplingSettings}

private theorem cteUnits_le (valid : s.validate = .ok ()) : s.cteUnits.toNat ≤ 20 := by
  unfold validate at valid
  dsimp only at valid
  split at valid
  · contradiction
  · omega

private theorem switchingDuration_le (valid : s.validate = .ok ()) {duration : Nat}
    (left : s.switchingDuration = .ok duration) : duration ≤ 160000 := by
  have units := cteUnits_le valid
  unfold switchingDuration at left
  dsimp only at left
  split at left
  · contradiction
  · rw [Except.ok.injEq] at left
    omega

end SamplingSettings

namespace SamplingPlan

/-- What an accepted plan owes to its settings and to the buffers. -/
structure Follows (p : SamplingPlan) (s : SamplingSettings) : Prop where
  regime : p.regime = s.regime
  switchSpacing : p.switchSpacing = s.switchSpacing.nanoseconds
  sampleSpacing : p.sampleSpacing = s.sampleSpacing.nanoseconds
  referenceSpacing : p.referenceSpacing = s.referenceSpacing.nanoseconds
  firstSampleDelay : p.firstSampleDelay = s.firstSampleDelay
  switchingDuration : s.switchingDuration = .ok p.switchingDuration
  referenceSamples : s.referenceSamples = .ok p.referenceSamples
  effectiveSlots : s.effectiveSlots = .ok p.effectiveSlots
  samplesPerSlot : s.samplesPerSlot = .ok p.samplesPerSlot
  antennaStep : s.antennaStep = .ok p.antennaStep
  effectiveSlots_le : p.effectiveSlots ≤ Limits.slots
  samplesPerSlot_le : p.samplesPerSlot ≤ Limits.samplesPerSlot
  referenceSamples_le : p.referenceSamples ≤ Limits.referenceSamples
  two_le_referenceSamples : 2 ≤ p.referenceSamples

variable {s : SamplingSettings} {p : SamplingPlan}

theorem referenceSamples_le_requiredSamples (p : SamplingPlan) :
    p.referenceSamples ≤ p.requiredSamples :=
  Nat.le_add_right _ _

theorem switching_le_length {σ : Type} {samples : List σ}
    (enough : p.requiredSamples ≤ samples.length) :
    p.effectiveSlots * p.samplesPerSlot ≤ (samples.drop p.referenceSamples).length := by
  rw [requiredSamples] at enough
  rw [List.length_drop]
  omega

theorem derive_of_ofSettings (accepted : ofSettings s = .ok p) : derive s = .ok p := by
  obtain ⟨plan, derived, accepted⟩ := Located.bind_success _ _ _ accepted
  split at accepted
  · contradiction
  · split at accepted
    · contradiction
    · cases accepted
      exact derived

private theorem validate_of_ofSettings (accepted : ofSettings s = .ok p) : s.validate = .ok () := by
  obtain ⟨_, valid, _⟩ := Located.bind_success _ _ _ (derive_of_ofSettings accepted)
  exact valid

theorem ofSettings_follows (accepted : ofSettings s = .ok p) : p.Follows s := by
  obtain ⟨plan, derived, accepted⟩ := Located.bind_success _ _ _ accepted
  split at accepted
  · contradiction
  · rename_i fits
    split at accepted
    · contradiction
    · rename_i enough
      cases accepted
      obtain ⟨_, _, derived⟩ := Located.bind_success _ _ _ derived
      obtain ⟨duration, hduration, derived⟩ := Located.bind_success _ _ _ derived
      obtain ⟨reference, hreference, derived⟩ := Located.bind_success _ _ _ derived
      obtain ⟨slots, hslots, derived⟩ := Located.bind_success _ _ _ derived
      obtain ⟨samples, hsamples, derived⟩ := Located.bind_success _ _ _ derived
      obtain ⟨step, hstep, derived⟩ := Located.bind_success _ _ _ derived
      cases derived
      simp only [fitsLimits, Bool.not_eq_true', Bool.not_eq_false, Bool.and_eq_true,
        decide_eq_true_eq] at fits
      exact ⟨rfl, rfl, rfl, rfl, rfl, hduration, hreference, hslots, hsamples, hstep,
        fits.1.1, fits.1.2, fits.2, Nat.le_of_not_lt enough⟩

namespace Follows

theorem firstSampleDelay_eq (follows : p.Follows s) :
    p.firstSampleDelay = p.switchSpacing / 2 + p.referenceSpacing := by
  rw [follows.firstSampleDelay, follows.switchSpacing, follows.referenceSpacing]
  rfl

theorem overSampling_spacing (follows : p.Follows s) (overSampled : p.regime = .overSampling) :
    p.switchSpacing = 2 * (p.samplesPerSlot * p.sampleSpacing) ∧ 0 < p.samplesPerSlot := by
  have regime := follows.regime.symm.trans overSampled
  have samples := follows.samplesPerSlot
  rw [follows.switchSpacing, follows.sampleSpacing]
  revert regime samples
  unfold SamplingSettings.regime SamplingSettings.samplesPerSlot
  generalize s.switchSpacing = switch
  generalize s.sampleSpacing = sample
  cases switch <;> cases sample <;>
    simp [SwitchSpacing.nanoseconds, SampleSpacing.nanoseconds, wholeRatio, bind, Except.bind] <;>
    omega

theorem overSampling_slots (follows : p.Follows s) (overSampled : p.regime = .overSampling) :
    p.effectiveSlots = 2 * (p.effectiveSlots / 2) := by
  have regime := follows.regime.symm.trans overSampled
  have slots := follows.effectiveSlots
  obtain ⟨duration, _, slots⟩ := Located.bind_success _ _ _ slots
  obtain ⟨ratio, _, slots⟩ := Located.bind_success _ _ _ slots
  simp only [regime, Except.ok.injEq] at slots
  omega

theorem overSampling_step (follows : p.Follows s) (overSampled : p.regime = .overSampling) :
    p.antennaStep = 1 := by
  have step := follows.antennaStep
  simp only [SamplingSettings.antennaStep, follows.regime.symm.trans overSampled,
    Except.ok.injEq] at step
  exact step.symm

theorem regular_spacing (follows : p.Follows s) (regular : p.regime = .regular) :
    p.switchSpacing = p.sampleSpacing ∧ p.samplesPerSlot = 1 := by
  have regime := follows.regime.symm.trans regular
  have samples := follows.samplesPerSlot
  rw [follows.switchSpacing, follows.sampleSpacing]
  simp only [SamplingSettings.regime] at regime
  split at regime
  · rename_i same
    simp only [SamplingSettings.samplesPerSlot, same, Nat.lt_irrefl, if_false,
      Except.ok.injEq] at samples
    exact ⟨same, samples.symm⟩
  · split at regime <;> contradiction

theorem regular_step (follows : p.Follows s) (regular : p.regime = .regular) :
    p.antennaStep = 1 := by
  have step := follows.antennaStep
  simp only [SamplingSettings.antennaStep, follows.regime.symm.trans regular,
    Except.ok.injEq] at step
  exact step.symm

theorem underSampling_samplesPerSlot (follows : p.Follows s) (under : p.regime = .underSampling) :
    p.samplesPerSlot = 1 := by
  have regime := follows.regime.symm.trans under
  have samples := follows.samplesPerSlot
  simp only [SamplingSettings.regime] at regime
  split at regime
  · contradiction
  · split at regime
    · contradiction
    · rename_i longer
      simp only [SamplingSettings.samplesPerSlot, longer, if_false, Except.ok.injEq] at samples
      exact samples.symm

theorem regular_slots (follows : p.Follows s) (regular : p.regime = .regular) :
    p.effectiveSlots = p.switchingDuration / p.switchSpacing := by
  have slots := follows.effectiveSlots
  simp only [SamplingSettings.effectiveSlots, follows.switchingDuration,
    wholeRatio_eq_ok _ _ s.switchSpacing.nanoseconds_pos, Located.ok_bind,
    follows.regime.symm.trans regular, Except.ok.injEq] at slots
  rw [follows.switchSpacing, slots]

theorem underSampling_step (follows : p.Follows s) (under : p.regime = .underSampling) :
    p.antennaStep = p.sampleSpacing / p.switchSpacing ∧ 0 < p.antennaStep := by
  have step := follows.antennaStep
  simp only [SamplingSettings.antennaStep, follows.regime.symm.trans under,
    wholeRatio_eq_ok _ _ s.switchSpacing.nanoseconds_pos, Located.ok_bind] at step
  rw [follows.switchSpacing, follows.sampleSpacing]
  split at step
  · contradiction
  · rename_i positive
    rw [Except.ok.injEq] at step
    exact ⟨step.symm, step ▸ Nat.pos_of_ne_zero positive⟩

theorem underSampling_slots (follows : p.Follows s) (under : p.regime = .underSampling) :
    p.effectiveSlots = p.switchingDuration / p.switchSpacing / p.antennaStep := by
  obtain ⟨step, positive⟩ := follows.underSampling_step under
  rw [step, follows.switchSpacing, follows.sampleSpacing] at positive
  have slots := follows.effectiveSlots
  simp only [SamplingSettings.effectiveSlots, follows.switchingDuration,
    wholeRatio_eq_ok _ _ s.switchSpacing.nanoseconds_pos, Located.ok_bind,
    follows.regime.symm.trans under, wholeRatio_eq_ok _ _ positive, Except.ok.injEq] at slots
  rw [step, follows.switchSpacing, follows.sampleSpacing, slots]

theorem samplesPerSlot_pos (follows : p.Follows s) : 0 < p.samplesPerSlot := by
  cases regime : p.regime with
  | regular => rw [(follows.regular_spacing regime).2]; exact Nat.one_pos
  | overSampling => exact (follows.overSampling_spacing regime).2
  | underSampling => rw [follows.underSampling_samplesPerSlot regime]; exact Nat.one_pos

theorem underSampling_spacing (follows : p.Follows s) (under : p.regime = .underSampling) :
    p.switchSpacing = 1000 ∧ p.sampleSpacing = 2000 ∨
      p.switchSpacing = 1000 ∧ p.sampleSpacing = 4000 ∨
      p.switchSpacing = 2000 ∧ p.sampleSpacing = 4000 := by
  have regime := follows.regime.symm.trans under
  rw [follows.switchSpacing, follows.sampleSpacing]
  revert regime
  unfold SamplingSettings.regime
  generalize s.switchSpacing = switch
  generalize s.sampleSpacing = sample
  cases switch <;> cases sample <;> simp [SwitchSpacing.nanoseconds, SampleSpacing.nanoseconds]

theorem switchSpacing_even (follows : p.Follows s) :
    p.switchSpacing = 2 * (p.switchSpacing / 2) := by
  rw [follows.switchSpacing]
  cases s.switchSpacing <;> rfl

theorem requiredSamples_le (follows : p.Follows s) : p.requiredSamples ≤ Limits.recordSamples :=
  Nat.add_le_add follows.referenceSamples_le
    (Nat.mul_le_mul follows.effectiveSlots_le follows.samplesPerSlot_le)

theorem requiredSamples_lt (follows : p.Follows s) : p.requiredSamples < Limits.counts :=
  Nat.lt_of_le_of_lt follows.requiredSamples_le (by decide)

end Follows

/-- A schedule that is sampled at every n-th switch spacing can be sampled at every one. -/
theorem exists_regular (accepted : ofSettings s = .ok p) (under : p.regime = .underSampling) :
    ∃ each regular, ofSettings each = .ok regular ∧ regular.regime = .regular ∧
      regular.switchingDuration = p.switchingDuration ∧ regular.switchSpacing = p.switchSpacing := by
  have follows := ofSettings_follows accepted
  have valid := validate_of_ofSettings accepted
  obtain ⟨spacing, same⟩ : ∃ spacing : SampleSpacing,
      spacing.nanoseconds = s.switchSpacing.nanoseconds := by
    rw [← follows.switchSpacing]
    obtain ⟨switch, -⟩ | ⟨switch, -⟩ | ⟨switch, -⟩ := follows.underSampling_spacing under
    · exact ⟨.us1, switch.symm⟩
    · exact ⟨.us1, switch.symm⟩
    · exact ⟨.us2, switch.symm⟩
  let each := { s with sampleSpacing := spacing }
  let regular := { p with
    regime := .regular
    sampleSpacing := p.switchSpacing
    effectiveSlots := p.switchingDuration / p.switchSpacing
    samplesPerSlot := 1
    antennaStep := 1 }
  have checked : each.validate = .ok () := valid
  have left : each.switchingDuration = .ok p.switchingDuration := follows.switchingDuration
  have reference : each.referenceSamples = .ok p.referenceSamples := follows.referenceSamples
  have regime : each.regime = .regular := if_pos same.symm
  have slots : each.effectiveSlots = .ok (p.switchingDuration / p.switchSpacing) := by
    simp only [SamplingSettings.effectiveSlots, left, Located.ok_bind, regime,
      wholeRatio_eq_ok _ _ each.switchSpacing.nanoseconds_pos, follows.switchSpacing]
    rfl
  have samples : each.samplesPerSlot = .ok 1 := if_neg (Nat.not_lt.mpr (Nat.le_of_eq same.symm))
  have step : each.antennaStep = .ok 1 := by rw [SamplingSettings.antennaStep, regime]
  have derived : derive each = .ok regular := by
    simp only [derive, checked, left, reference, slots, samples, step, Located.ok_bind, regime,
      follows.switchSpacing, follows.referenceSpacing, follows.firstSampleDelay, each, regular, same]
    rfl
  have rows : p.switchingDuration / p.switchSpacing ≤ Limits.slots := by
    have short := SamplingSettings.switchingDuration_le valid follows.switchingDuration
    have least := s.switchSpacing.le_nanoseconds
    rw [← follows.switchSpacing] at least
    calc p.switchingDuration / p.switchSpacing ≤ 160000 / 1000 :=
          Nat.div_le_div short least (by decide)
      _ ≤ Limits.slots := by decide
  refine ⟨each, regular, ?_, rfl, rfl, rfl⟩
  simp only [ofSettings, derived, Located.ok_bind, fitsLimits, regular, rows,
    follows.referenceSamples_le, decide_true, Bool.and_true,
    Nat.not_lt.mpr follows.two_le_referenceSamples, if_false]
  rfl

end SamplingPlan

end DirectionFinding
