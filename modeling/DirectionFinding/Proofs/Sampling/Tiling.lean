import DirectionFinding.Proofs.Sampling.Plan

/-!
Slots against the switching period. In each regime the slots take the whole multiples of the longer
spacing, so they never reach behind the period, and what they leave of it is shorter than that spacing.
Derived once more with a check on every sum and product, a plan comes out the same: no value on the
way outgrows a word of 32 bits.
-/
namespace DirectionFinding

def fit (count : Nat) : Located Nat :=
  if count < UInt32.size then .ok count else .error (.countOverflow count)

theorem fit_eq_ok {count : Nat} (small : count < 4294967296) : fit count = .ok count :=
  if_pos small

namespace SamplingSettings

variable {s : SamplingSettings}

section words

/-! The derivation of a plan, step by step, with every sum and product held in a word. Quotients and
the difference of the two durations cannot outgrow their operands. -/

def validateInWords (s : SamplingSettings) : Located Unit := do
  let units := s.cteUnits.toNat
  if units < 2 ∨ 20 < units then
    .error (.invalidConfiguration (.cteLength units))
  else
    let cte ← fit (units * 8)
    let preamble ← fit (s.guardPeriod.toNat + s.referencePeriod.toNat)
    if cte ≤ preamble then .error (.invalidConfiguration (.noSwitchingPeriod cte preamble))
    else .ok ()

def switchingDurationInWords (s : SamplingSettings) : Located Nat := do
  let cte ← fit (s.cteUnits.toNat * 8000)
  let periods ← fit (s.guardPeriod.toNat + s.referencePeriod.toNat)
  let preamble ← fit (periods * 1000)
  if cte < preamble then .error (.invalidConfiguration (.cteShorterThanPreamble cte preamble))
  else .ok (cte - preamble)

def effectiveSlotsInWords (s : SamplingSettings) : Located Nat := do
  let switch := s.switchSpacing.nanoseconds
  let slots ← wholeRatio .switchSpacing (← s.switchingDurationInWords) switch
  match s.regime with
  | .regular => .ok slots
  | .overSampling => fit (slots * 2)
  | .underSampling =>
    let ratio ← wholeRatio .switchSpacing s.sampleSpacing.nanoseconds switch
    wholeRatio .spacingRatio slots ratio

def samplesPerSlotInWords (s : SamplingSettings) : Located Nat := do
  let switch := s.switchSpacing.nanoseconds
  let sample := s.sampleSpacing.nanoseconds
  if sample < switch then
    let double ← fit (sample * 2)
    let samples ← wholeRatio .sampleSpacing switch double
    if samples = 0 then .error (.invalidConfiguration .emptySlot) else .ok samples
  else .ok 1

def referenceSamplesInWords (s : SamplingSettings) : Located Nat := do
  let period ← fit (s.referencePeriod.toNat * 1000)
  wholeRatio .referenceSpacing period s.referenceSpacing.nanoseconds

def firstSampleDelayInWords (s : SamplingSettings) : Located Nat :=
  fit (s.switchSpacing.nanoseconds / 2 + s.referenceSpacing.nanoseconds)

end words

private theorem preamble_lt (s : SamplingSettings) :
    s.cteUnits.toNat < 256 ∧ s.guardPeriod.toNat + s.referencePeriod.toNat < 512 ∧
      s.referencePeriod.toNat < 256 := by
  have units := s.cteUnits.toNat_lt
  have guard := s.guardPeriod.toNat_lt
  have reference := s.referencePeriod.toNat_lt
  omega

private theorem validateInWords_eq (s : SamplingSettings) : s.validateInWords = s.validate := by
  obtain ⟨units, periods, -⟩ := s.preamble_lt
  have cte : fit (s.cteUnits.toNat * 8) = .ok (s.cteUnits.toNat * 8) := fit_eq_ok (by omega)
  have preamble : fit (s.guardPeriod.toNat + s.referencePeriod.toNat) =
      .ok (s.guardPeriod.toNat + s.referencePeriod.toNat) := fit_eq_ok (by omega)
  simp only [validateInWords, cte, preamble, Located.ok_bind]
  rfl

private theorem switchingDurationInWords_eq (s : SamplingSettings) :
    s.switchingDurationInWords = s.switchingDuration := by
  obtain ⟨units, periods, -⟩ := s.preamble_lt
  have cte : fit (s.cteUnits.toNat * 8000) = .ok (s.cteUnits.toNat * 8000) := fit_eq_ok (by omega)
  have sum : fit (s.guardPeriod.toNat + s.referencePeriod.toNat) =
      .ok (s.guardPeriod.toNat + s.referencePeriod.toNat) := fit_eq_ok (by omega)
  have preamble : fit ((s.guardPeriod.toNat + s.referencePeriod.toNat) * 1000) =
      .ok ((s.guardPeriod.toNat + s.referencePeriod.toNat) * 1000) := fit_eq_ok (by omega)
  simp only [switchingDurationInWords, cte, sum, preamble, Located.ok_bind]
  rfl

private theorem switchingDuration_lt {duration : Nat} (left : s.switchingDuration = .ok duration) :
    duration < 2048000 := by
  obtain ⟨units, -, -⟩ := s.preamble_lt
  simp only [switchingDuration] at left
  split at left
  · cases left
  · cases left
    omega

private theorem effectiveSlotsInWords_eq (s : SamplingSettings) :
    s.effectiveSlotsInWords = s.effectiveSlots := by
  simp only [effectiveSlotsInWords, effectiveSlots, switchingDurationInWords_eq]
  cases left : s.switchingDuration with
  | error cause => rfl
  | ok duration =>
    cases s.regime with
    | regular | underSampling => rfl
    | overSampling =>
      have short := switchingDuration_lt left
      have fewer := Nat.div_le_self duration s.switchSpacing.nanoseconds
      have double : fit (duration / s.switchSpacing.nanoseconds * 2) =
          .ok (duration / s.switchSpacing.nanoseconds * 2) := fit_eq_ok (by omega)
      simp only [Located.ok_bind, wholeRatio_eq_ok _ _ s.switchSpacing.nanoseconds_pos, double]

private theorem samplesPerSlotInWords_eq (s : SamplingSettings) :
    s.samplesPerSlotInWords = s.samplesPerSlot := by
  have most := s.sampleSpacing.nanoseconds_le
  have double : fit (s.sampleSpacing.nanoseconds * 2) = .ok (s.sampleSpacing.nanoseconds * 2) :=
    fit_eq_ok (by omega)
  simp only [samplesPerSlotInWords, samplesPerSlot, double, Located.ok_bind]

private theorem referenceSamplesInWords_eq (s : SamplingSettings) :
    s.referenceSamplesInWords = s.referenceSamples := by
  obtain ⟨-, -, reference⟩ := s.preamble_lt
  have period : fit (s.referencePeriod.toNat * 1000) = .ok (s.referencePeriod.toNat * 1000) :=
    fit_eq_ok (by omega)
  simp only [referenceSamplesInWords, period, Located.ok_bind]
  rfl

private theorem firstSampleDelayInWords_eq (s : SamplingSettings) :
    s.firstSampleDelayInWords = .ok s.firstSampleDelay := by
  have switch := s.switchSpacing.nanoseconds_le
  have reference := s.referenceSpacing.nanoseconds_le
  exact fit_eq_ok (by omega)

/-- The longer spacing: what the slots that fit leave of the period is shorter. -/
def stride (s : SamplingSettings) : Nat :=
  max s.switchSpacing.nanoseconds s.sampleSpacing.nanoseconds

/-- Slots of `samples` samples each cover the whole strides of a duration. -/
structure Covers (s : SamplingSettings) (duration slots samples : Nat) : Prop where
  effectiveSlots : s.effectiveSlots = .ok slots
  samplesPerSlot : s.samplesPerSlot = .ok samples
  positive : 0 < samples
  whole : slots * samples * s.sampleSpacing.nanoseconds = duration / s.stride * s.stride

private theorem two_mul_sample_dvd {switch : SwitchSpacing} {sample : SampleSpacing}
    (shorter : sample.nanoseconds < switch.nanoseconds) :
    2 * sample.nanoseconds ∣ switch.nanoseconds := by
  revert shorter
  cases switch <;> cases sample <;> decide

private theorem switch_dvd_sample {switch : SwitchSpacing} {sample : SampleSpacing}
    (longer : switch.nanoseconds < sample.nanoseconds) :
    switch.nanoseconds ∣ sample.nanoseconds := by
  revert longer
  cases switch <;> cases sample <;> decide

variable {duration : Nat}

private theorem covers_regular (left : s.switchingDuration = .ok duration)
    (same : s.switchSpacing.nanoseconds = s.sampleSpacing.nanoseconds) :
    s.Covers duration (duration / s.switchSpacing.nanoseconds) 1 where
  effectiveSlots := by
    have regime : s.regime = .regular := if_pos same
    simp only [effectiveSlots, left, Located.ok_bind, regime,
      wholeRatio_eq_ok _ _ s.switchSpacing.nanoseconds_pos]
  samplesPerSlot := if_neg (Nat.not_lt.mpr (Nat.le_of_eq same))
  positive := Nat.one_pos
  whole := by rw [stride, same, Nat.max_self, Nat.mul_one]

theorem covers_overSampling (left : s.switchingDuration = .ok duration)
    (shorter : s.sampleSpacing.nanoseconds < s.switchSpacing.nanoseconds) :
    s.Covers duration (duration / s.switchSpacing.nanoseconds * 2)
      (s.switchSpacing.nanoseconds / (s.sampleSpacing.nanoseconds * 2)) := by
  obtain ⟨samples, switch⟩ := two_mul_sample_dvd shorter
  have sample := s.sampleSpacing.nanoseconds_pos
  have double : 0 < s.sampleSpacing.nanoseconds * 2 := by omega
  have half : s.switchSpacing.nanoseconds / (s.sampleSpacing.nanoseconds * 2) = samples := by
    rw [switch, Nat.mul_comm s.sampleSpacing.nanoseconds 2]
    exact Nat.mul_div_cancel_left samples (by omega)
  have positive : 0 < samples := by
    apply Nat.pos_of_ne_zero
    rintro rfl
    omega
  rw [half]
  refine ⟨?_, ?_, positive, ?_⟩
  · have regime : s.regime = .overSampling := by
      rw [regime, if_neg (Nat.ne_of_gt shorter), if_pos shorter]
    simp only [effectiveSlots, left, Located.ok_bind, regime,
      wholeRatio_eq_ok _ _ s.switchSpacing.nanoseconds_pos]
  · simp only [samplesPerSlot, if_pos shorter, wholeRatio_eq_ok _ _ double, Located.ok_bind, half,
      if_neg (Nat.ne_of_gt positive)]
  · rw [stride, Nat.max_eq_left (Nat.le_of_lt shorter)]
    calc duration / s.switchSpacing.nanoseconds * 2 * samples * s.sampleSpacing.nanoseconds
        = duration / s.switchSpacing.nanoseconds * (2 * s.sampleSpacing.nanoseconds * samples) := by
          rw [Nat.mul_assoc, Nat.mul_assoc, Nat.mul_comm samples, Nat.mul_assoc]
      _ = duration / s.switchSpacing.nanoseconds * s.switchSpacing.nanoseconds := by rw [← switch]

/-- A division by the switch spacing and one by the ratio of the spacings are one by the sample
spacing. -/
theorem covers_underSampling (left : s.switchingDuration = .ok duration)
    (longer : s.switchSpacing.nanoseconds < s.sampleSpacing.nanoseconds) :
    s.Covers duration (duration / s.sampleSpacing.nanoseconds) 1 := by
  have whole := Nat.mul_div_cancel' (switch_dvd_sample longer)
  have ratio : 0 < s.sampleSpacing.nanoseconds / s.switchSpacing.nanoseconds :=
    Nat.div_pos (Nat.le_of_lt longer) s.switchSpacing.nanoseconds_pos
  refine ⟨?_, if_neg (Nat.not_lt.mpr (Nat.le_of_lt longer)), Nat.one_pos, ?_⟩
  · have regime : s.regime = .underSampling := by
      rw [regime, if_neg (Nat.ne_of_lt longer), if_neg (Nat.not_lt.mpr (Nat.le_of_lt longer))]
    simp only [effectiveSlots, left, Located.ok_bind, regime,
      wholeRatio_eq_ok _ _ s.switchSpacing.nanoseconds_pos, wholeRatio_eq_ok _ _ ratio,
      Nat.div_div_eq_div_mul, whole]
  · rw [stride, Nat.max_eq_right (Nat.le_of_lt longer), Nat.mul_one]

private theorem exists_covers (left : s.switchingDuration = .ok duration) :
    ∃ slots samples, s.Covers duration slots samples := by
  rcases Nat.lt_trichotomy s.switchSpacing.nanoseconds s.sampleSpacing.nanoseconds with
    longer | same | shorter
  · exact ⟨_, _, covers_underSampling left longer⟩
  · exact ⟨_, _, covers_regular left same⟩
  · exact ⟨_, _, covers_overSampling left shorter⟩

private theorem Covers.le_duration {slots samples : Nat}
    (covers : s.Covers duration slots samples) :
    slots * samples * s.sampleSpacing.nanoseconds ≤ duration := by
  rw [covers.whole]
  exact Nat.div_mul_le_self _ _

private theorem Covers.duration_lt {slots samples : Nat}
    (covers : s.Covers duration slots samples) :
    duration < slots * samples * s.sampleSpacing.nanoseconds + s.stride := by
  have stride : 0 < s.stride :=
    Nat.lt_of_lt_of_le s.switchSpacing.nanoseconds_pos (Nat.le_max_left _ _)
  rw [covers.whole]
  exact Nat.lt_div_mul_add stride

private theorem exists_antennaStep (s : SamplingSettings) :
    ∃ step, s.antennaStep = .ok step ∧ 0 < step := by
  unfold antennaStep
  cases regime : s.regime with
  | regular | overSampling => exact ⟨1, rfl, Nat.one_pos⟩
  | underSampling =>
    have longer : s.switchSpacing.nanoseconds ≤ s.sampleSpacing.nanoseconds := by
      apply Nat.le_of_not_lt
      intro shorter
      rw [SamplingSettings.regime, if_neg (Nat.ne_of_gt shorter), if_pos shorter] at regime
      cases regime
    have ratio := Nat.div_pos longer s.switchSpacing.nanoseconds_pos
    simp only [wholeRatio_eq_ok _ _ s.switchSpacing.nanoseconds_pos, Located.ok_bind,
      if_neg (Nat.ne_of_gt ratio)]
    exact ⟨_, rfl, ratio⟩

private theorem exists_switchingDuration (valid : s.validate = .ok ()) :
    ∃ duration, s.switchingDuration = .ok duration ∧ 0 < duration := by
  unfold validate at valid
  dsimp only at valid
  split at valid
  · cases valid
  · split at valid
    · cases valid
    · refine ⟨_, if_neg (by omega), by omega⟩

end SamplingSettings

namespace SamplingPlan

def deriveInWords (s : SamplingSettings) : Located SamplingPlan := do
  s.validateInWords
  let switchingDuration ← s.switchingDurationInWords
  let referenceSamples ← s.referenceSamplesInWords
  let effectiveSlots ← s.effectiveSlotsInWords
  let samplesPerSlot ← s.samplesPerSlotInWords
  let antennaStep ← s.antennaStep
  let firstSampleDelay ← s.firstSampleDelayInWords
  return {
    regime := s.regime
    switchingDuration := switchingDuration
    switchSpacing := s.switchSpacing.nanoseconds
    sampleSpacing := s.sampleSpacing.nanoseconds
    referenceSpacing := s.referenceSpacing.nanoseconds
    referenceSamples := referenceSamples
    effectiveSlots := effectiveSlots
    samplesPerSlot := samplesPerSlot
    antennaStep := antennaStep
    firstSampleDelay := firstSampleDelay }

private theorem deriveInWords_eq (s : SamplingSettings) : deriveInWords s = derive s := by
  simp only [deriveInWords, derive, SamplingSettings.validateInWords_eq,
    SamplingSettings.switchingDurationInWords_eq, SamplingSettings.referenceSamplesInWords_eq,
    SamplingSettings.effectiveSlotsInWords_eq, SamplingSettings.samplesPerSlotInWords_eq,
    SamplingSettings.firstSampleDelayInWords_eq, Located.ok_bind]

/-- Every step of a derivation answers, and no word of it overflows. -/
structure Derives (s : SamplingSettings) (plan : SamplingPlan) : Prop where
  derive : derive s = .ok plan
  inWords : deriveInWords s = .ok plan
  switchingDuration : s.switchingDuration = .ok plan.switchingDuration
  referenceSamples : s.referenceSamples = .ok plan.referenceSamples
  effectiveSlots : s.effectiveSlots = .ok plan.effectiveSlots
  samplesPerSlot : s.samplesPerSlot = .ok plan.samplesPerSlot
  antennaStep : s.antennaStep = .ok plan.antennaStep

variable {s : SamplingSettings}

private theorem exists_derives (valid : s.validate = .ok ()) :
    ∃ plan, Derives s plan ∧
      s.Covers plan.switchingDuration plan.effectiveSlots plan.samplesPerSlot ∧
      0 < plan.switchingDuration ∧ 0 < plan.antennaStep := by
  obtain ⟨duration, left, period⟩ := SamplingSettings.exists_switchingDuration valid
  obtain ⟨slots, samples, covers⟩ := SamplingSettings.exists_covers left
  obtain ⟨step, stepped, steps⟩ := s.exists_antennaStep
  have reference : s.referenceSamples = .ok _ :=
    wholeRatio_eq_ok _ _ s.referenceSpacing.nanoseconds_pos
  let plan : SamplingPlan := {
    regime := s.regime
    switchingDuration := duration
    switchSpacing := s.switchSpacing.nanoseconds
    sampleSpacing := s.sampleSpacing.nanoseconds
    referenceSpacing := s.referenceSpacing.nanoseconds
    referenceSamples := s.referencePeriod.toNat * 1000 / s.referenceSpacing.nanoseconds
    effectiveSlots := slots
    samplesPerSlot := samples
    antennaStep := step
    firstSampleDelay := s.firstSampleDelay }
  have derived : derive s = .ok plan := by
    simp only [derive, valid, left, reference, covers.effectiveSlots, covers.samplesPerSlot, stepped,
      Located.ok_bind]
    rfl
  exact ⟨plan, ⟨derived, (deriveInWords_eq s).trans derived, left, reference, covers.effectiveSlots,
    covers.samplesPerSlot, stepped⟩, covers, period, steps⟩

/-- Accepted settings have a plan, reached without a word that overflows. Its slots end within the
switching period and leave less of it than the longer spacing; where the plan is accepted as well, it
fits the buffers and has two reference samples. -/
theorem slots_tile (valid : s.validate = .ok ()) :
    ∃ plan, Derives s plan ∧ 0 < plan.switchingDuration ∧ 0 < plan.samplesPerSlot ∧
      0 < plan.antennaStep ∧
      plan.effectiveSlots * plan.samplesPerSlot * s.sampleSpacing.nanoseconds ≤
        plan.switchingDuration ∧
      plan.switchingDuration <
        plan.effectiveSlots * plan.samplesPerSlot * s.sampleSpacing.nanoseconds +
          max s.switchSpacing.nanoseconds s.sampleSpacing.nanoseconds ∧
      ∀ accepted, ofSettings s = .ok accepted → accepted = plan ∧
        plan.effectiveSlots ≤ Limits.slots ∧ plan.samplesPerSlot ≤ Limits.samplesPerSlot ∧
        plan.referenceSamples ≤ Limits.referenceSamples ∧ 2 ≤ plan.referenceSamples := by
  obtain ⟨plan, derives, covers, period, step⟩ := exists_derives valid
  refine ⟨plan, derives, period, covers.positive, step, covers.le_duration, covers.duration_lt, ?_⟩
  intro accepted made
  have follows := ofSettings_follows made
  cases (derive_of_ofSettings made).symm.trans derives.derive
  exact ⟨rfl, follows.effectiveSlots_le, follows.samplesPerSlot_le, follows.referenceSamples_le,
    follows.two_le_referenceSamples⟩

/-- A period of 10 µs sampled every 4 µs at a switch spacing of 1 µs: two slots, and 2 µs are left. -/
theorem slots_tile_left :
    let s : SamplingSettings := {
      cteUnits := 3
      guardPeriod := 5
      referencePeriod := 9
      switchSpacing := .us1
      sampleSpacing := .us4 }
    s.validate = .ok () ∧ ∃ plan, Derives s plan ∧ plan.switchingDuration = 10000 ∧
      plan.effectiveSlots = 2 ∧ plan.samplesPerSlot = 1 ∧
      plan.effectiveSlots * plan.samplesPerSlot * 4000 ≤ plan.switchingDuration ∧
      plan.switchingDuration < plan.effectiveSlots * plan.samplesPerSlot * 4000 + 4000 := by
  intro s
  have valid : s.validate = .ok () := by cbv
  have duration : s.switchingDuration = .ok 10000 := by cbv
  have two : s.effectiveSlots = .ok 2 := by cbv
  have one : s.samplesPerSlot = .ok 1 := by cbv
  obtain ⟨plan, derives, -, -, -, inside, rest, -⟩ := slots_tile valid
  exact ⟨valid, plan, derives, Except.ok.inj (derives.switchingDuration.symm.trans duration),
    Except.ok.inj (derives.effectiveSlots.symm.trans two),
    Except.ok.inj (derives.samplesPerSlot.symm.trans one), inside, rest⟩

end SamplingPlan

end DirectionFinding
