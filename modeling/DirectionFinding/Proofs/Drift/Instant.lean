import DirectionFinding.Proofs.Drift.Turn
import Mathlib.Analysis.SpecialFunctions.Trigonometric.Angle

/-!
Delays of the drift correction against the instants at which samples were taken. The correction
counts in reference samples and takes the switch slots for as long as the sampling slots; the plan
knows the time of every sample. The two agree under a condition on the spacings, which no check of
the settings asks for, and a tone is brought to one phase under the same condition.
-/
namespace DirectionFinding

namespace SamplingPlan

variable {s : SamplingSettings} {p : SamplingPlan}

/-- Time of a switching sample in nanoseconds, from the first reference sample on. -/
def instant (p : SamplingPlan) (place : Nat) : Nat :=
  (p.referenceSamples - 1) * p.referenceSpacing + p.firstSampleDelay + place * p.sampleSpacing

/-- Time of a raw sample, on the same clock. -/
def rawInstant (p : SamplingPlan) (k : Nat) : Nat :=
  if k < p.referenceSamples then k * p.referenceSpacing else p.instant (k - p.referenceSamples)

/-- Whether a slot lies where the drift correction takes it to be. -/
def KeepsTime (p : SamplingPlan) (slot : Nat) : Prop :=
  match p.regime with
  | .overSampling => p.referenceSpacing = p.sampleSpacing
  | .regular => 2 * p.referenceSpacing = p.switchSpacing
  | .underSampling => slot = 0 ∧ 2 * p.referenceSpacing = p.switchSpacing

namespace Follows

private theorem instant_eq (follows : p.Follows s) (place : Nat) :
    p.instant place =
      p.referenceSamples * p.referenceSpacing +
        (p.switchSpacing / 2 + place * p.sampleSpacing) := by
  have two := follows.two_le_referenceSamples
  have whole : p.referenceSamples * p.referenceSpacing =
      (p.referenceSamples - 1) * p.referenceSpacing + p.referenceSpacing := by
    rw [← Nat.succ_mul, Nat.succ_eq_add_one, Nat.sub_add_cancel (by omega)]
  rw [instant, follows.firstSampleDelay_eq, whole]
  omega

private theorem delay_eq_instant_iff_steps (follows : p.Follows s) (slot i : Nat) :
    SlottedBurst.delayOf p.referenceSamples p.samplesPerSlot slot i * p.referenceSpacing =
        p.instant (p.place slot i) ↔
      (p.samplesPerSlot + i + slot * (p.samplesPerSlot * 2)) * p.referenceSpacing =
        p.switchSpacing / 2 + p.place slot i * p.sampleSpacing := by
  have delay : SlottedBurst.delayOf p.referenceSamples p.samplesPerSlot slot i =
      p.referenceSamples + (p.samplesPerSlot + i + slot * (p.samplesPerSlot * 2)) := by
    simp only [SlottedBurst.delayOf, Nat.add_assoc]
  rw [delay, Nat.add_mul, follows.instant_eq]
  exact Nat.add_left_cancel_iff

private theorem overSampling_delay_iff (follows : p.Follows s)
    (overSampled : p.regime = .overSampling) (slot i : Nat) :
    SlottedBurst.delayOf p.referenceSamples p.samplesPerSlot slot i * p.referenceSpacing =
        p.instant (p.place slot i) ↔ p.referenceSpacing = p.sampleSpacing := by
  obtain ⟨spacing, filled⟩ := follows.overSampling_spacing overSampled
  have half : p.switchSpacing / 2 = p.samplesPerSlot * p.sampleSpacing := by omega
  have steps : p.switchSpacing / 2 + p.place slot i * p.sampleSpacing =
      (p.samplesPerSlot + i + slot * (p.samplesPerSlot * 2)) * p.sampleSpacing := by
    rw [half, place, keptSlot, if_pos overSampled]
    ring
  rw [follows.delay_eq_instant_iff_steps, steps]
  exact Nat.mul_right_inj (by omega)

private theorem regular_delay_iff (follows : p.Follows s) (regular : p.regime = .regular)
    (slot : Nat) :
    SlottedBurst.delayOf p.referenceSamples p.samplesPerSlot slot 0 * p.referenceSpacing =
        p.instant (p.place slot 0) ↔ 2 * p.referenceSpacing = p.switchSpacing := by
  obtain ⟨same, single⟩ := follows.regular_spacing regular
  have even := follows.switchSpacing_even
  have steps : p.switchSpacing / 2 + p.place slot 0 * p.sampleSpacing =
      (1 + 0 + slot * (1 * 2)) * (p.switchSpacing / 2) := by
    rw [place, keptSlot, if_neg (by simp [regular]), single, ← same]
    generalize p.switchSpacing / 2 = half at even
    rw [even]
    ring
  rw [follows.delay_eq_instant_iff_steps, steps, single, Nat.mul_right_inj (by omega)]
  omega

/-- A sample spacing longer than the switch spacing leaves the first slot at most in time. -/
theorem underSampling_delay_iff (follows : p.Follows s) (under : p.regime = .underSampling)
    (slot : Nat) :
    SlottedBurst.delayOf p.referenceSamples p.samplesPerSlot slot 0 * p.referenceSpacing =
        p.instant (p.place slot 0) ↔ slot = 0 ∧ 2 * p.referenceSpacing = p.switchSpacing := by
  have single := follows.underSampling_samplesPerSlot under
  have place : p.place slot 0 = slot := by
    rw [SamplingPlan.place, keptSlot, if_neg (by simp [under]), single, Nat.mul_one, Nat.add_zero]
  rw [follows.delay_eq_instant_iff_steps, place, single, follows.referenceSpacing]
  -- Both spacings are powers of two apart, while both numbers of half steps are odd.
  obtain ⟨switch, sample⟩ | ⟨switch, sample⟩ | ⟨switch, sample⟩ :=
    follows.underSampling_spacing under
  all_goals
    rw [switch, sample]
    cases s.referenceSpacing <;> dsimp only [SampleSpacing.nanoseconds] <;> omega

private theorem delay_eq_instant_iff (follows : p.Follows s) (slot : Nat) {i : Nat}
    (inside : i < p.samplesPerSlot) :
    SlottedBurst.delayOf p.referenceSamples p.samplesPerSlot slot i * p.referenceSpacing =
        p.instant (p.place slot i) ↔ p.KeepsTime slot := by
  unfold KeepsTime
  cases regime : p.regime with
  | overSampling => exact follows.overSampling_delay_iff regime slot i
  | regular =>
    rw [(follows.regular_spacing regime).2, Nat.lt_one_iff] at inside
    subst inside
    exact follows.regular_delay_iff regime slot
  | underSampling =>
    rw [follows.underSampling_samplesPerSlot regime, Nat.lt_one_iff] at inside
    subst inside
    exact follows.underSampling_delay_iff regime slot

end Follows

end SamplingPlan

noncomputable def exactDrift : List Real.Angle → Real.Angle
  | first :: second :: _ => first - second
  | _ => 0

noncomputable def SlottedBurst.alignPhases (b : SlottedBurst Real.Angle) (samplesPerSlot : Nat) :
    SlottedBurst Real.Angle :=
  b.turnBack (fun delay z => z + delay • exactDrift b.reference) samplesPerSlot

namespace RawBurst

variable {s : SamplingSettings} {plan : SamplingPlan} {array : AntennaArray}

/-- Phases of a tone that turns by `rate` in a nanosecond. -/
noncomputable def tone (plan : SamplingPlan) (phase : Real.Angle) (rate : ℝ) :
    RawBurst Real.Angle :=
  ofSamples 0 ((List.range plan.requiredSamples).map fun k =>
    phase + ((rate * plan.rawInstant k : ℝ) : Real.Angle))

private theorem tone_get (phase : Real.Angle) (rate : ℝ) {k : Nat}
    (inside : k < plan.requiredSamples) :
    (tone plan phase rate).samples[k]? =
      some (phase + ((rate * plan.rawInstant k : ℝ) : Real.Angle)) := by
  simp [tone, ofSamples, inside]

private theorem tone_complete (follows : plan.Follows s) (phase : Real.Angle) (rate : ℝ) :
    plan.requiredSamples ≤ (tone plan phase rate).valid.length := by
  have counted : plan.requiredSamples < 2 ^ 32 :=
    Nat.lt_of_le_of_lt follows.requiredSamples_le (by decide)
  simp [valid_length, tone, ofSamples]
  omega

private theorem exactDrift_eq {first second : Real.Angle} {reference : List Real.Angle}
    (here : reference[0]? = some first) (next : reference[1]? = some second) :
    exactDrift reference = first - second := by
  match reference, here, next with
  | _ :: _ :: _, rfl, rfl => rfl

private theorem tone_drift (follows : plan.Follows s) {phase : Real.Angle} {rate : ℝ}
    {b : SlottedBurst Real.Angle} (sampled : (tone plan phase rate).SampledAs plan array b) :
    exactDrift b.reference = ((-(rate * plan.referenceSpacing) : ℝ) : Real.Angle) := by
  have two := follows.two_le_referenceSamples
  have enough := tone_complete follows phase rate
  have required := plan.referenceSamples_le_requiredSamples
  obtain ⟨first, raw, here⟩ :=
    sampled.reference_get enough (show 0 < plan.referenceSamples by omega)
  obtain ⟨second, rawNext, next⟩ :=
    sampled.reference_get enough (show 1 < plan.referenceSamples by omega)
  rw [tone_get phase rate (by omega)] at raw rawNext
  cases raw
  cases rawNext
  rw [exactDrift_eq here next, SamplingPlan.rawInstant, SamplingPlan.rawInstant, if_pos (by omega),
    if_pos (by omega)]
  simp

private theorem tone_turned (phase : Real.Angle) (rate : ℝ) (delay instant spacing : Nat) :
    phase + ((rate * instant : ℝ) : Real.Angle) +
        delay • ((-(rate * spacing) : ℝ) : Real.Angle) =
      phase + ((rate * ((instant : ℝ) - (delay * spacing : Nat)) : ℝ) : Real.Angle) := by
  rw [← Real.Angle.coe_nsmul, add_assoc, ← Real.Angle.coe_add, nsmul_eq_mul]
  congr 2
  push_cast
  ring

private theorem tone_turnedAs (follows : plan.Follows s) {phase : Real.Angle} {rate : ℝ}
    {b : SlottedBurst Real.Angle} (sampled : (tone plan phase rate).SampledAs plan array b) :
    (tone plan phase rate).TurnedAs plan array
      (fun delay z => z + delay • ((-(rate * plan.referenceSpacing) : ℝ) : Real.Angle))
      (b.alignPhases plan.samplesPerSlot) := by
  rw [SlottedBurst.alignPhases, tone_drift follows sampled]
  exact sampled.turnBack (tone_complete follows phase rate) _

/-- A sample of a tone keeps what the tone turns between its delay and its instant. -/
theorem tone_slot_get (follows : plan.Follows s) {phase : Real.Angle} {rate : ℝ}
    {b : SlottedBurst Real.Angle} (sampled : (tone plan phase rate).SampledAs plan array b)
    {slot : Nat} {left : Slot Real.Angle} (kept : slot < plan.keptSlots)
    (found : (b.alignPhases plan.samplesPerSlot).slots[slot]? = some left) :
    left.samples.length = plan.samplesPerSlot ∧
      ∀ i < plan.samplesPerSlot, left.samples[i]? = some (phase +
        ((rate * ((plan.instant (plan.place slot i) : ℝ) -
          (SlottedBurst.delayOf plan.referenceSamples plan.samplesPerSlot slot i *
            plan.referenceSpacing : Nat)) : ℝ) : Real.Angle)) := by
  obtain ⟨same, there, _, length, places⟩ := (tone_turnedAs follows sampled).slots slot kept
  cases found.symm.trans there
  refine ⟨length, fun i inside => ?_⟩
  obtain ⟨z, raw, sample⟩ := places i inside
  have place := SamplingPlan.place_lt kept inside
  rw [tone_get phase rate (by rw [SamplingPlan.requiredSamples]; omega)] at raw
  cases raw
  rw [sample, SamplingPlan.rawInstant, if_neg (by omega), Nat.add_sub_cancel_left, tone_turned]

private theorem keepsTime_of_aligned (follows : plan.Follows s) (accepted : array.Accepted)
    (aligned : ∀ phase rate, ∃ assigned dropped sampled,
      (tone plan phase rate).assign plan array = .ok assigned ∧
      assigned.removeSwitchSlots = .ok (dropped, sampled) ∧
      ∀ slot ∈ (sampled.alignPhases plan.samplesPerSlot).slots, ∀ z ∈ slot.samples, z = phase)
    {slot : Nat} (kept : slot < plan.keptSlots) : plan.KeepsTime slot := by
  have filled := follows.samplesPerSlot_pos
  apply (follows.delay_eq_instant_iff slot filled).mp
  by_contra apart
  have gap : (plan.instant (plan.place slot 0) : ℝ) -
      (SlottedBurst.delayOf plan.referenceSamples plan.samplesPerSlot slot 0 *
        plan.referenceSpacing : Nat) ≠ 0 :=
    sub_ne_zero.mpr fun same => apart (Nat.cast_injective same).symm
  -- A tone that turns by half a circle in the gap comes out opposite to its own phase.
  obtain ⟨assigned, _, sampled, made, removed, same⟩ := aligned 0 (Real.pi / _)
  have sampledAs := SampledAs.of_removed follows accepted (tone_complete follows _ _) made removed
  obtain ⟨left, found, _⟩ := (tone_turnedAs follows sampledAs).slots slot kept
  have sample := (tone_slot_get follows sampledAs kept found).2 0 filled
  have zero := same left (List.mem_of_getElem? found) _ (List.mem_of_getElem? sample)
  rw [div_mul_cancel₀ _ gap, zero_add] at zero
  exact Real.Angle.pi_ne_zero zero

private theorem aligned_of_keepsTime (follows : plan.Follows s) {phase : Real.Angle} {rate : ℝ}
    {b : SlottedBurst Real.Angle} (sampled : (tone plan phase rate).SampledAs plan array b)
    (keeps : ∀ slot < plan.keptSlots, plan.KeepsTime slot) :
    ∀ slot ∈ (b.alignPhases plan.samplesPerSlot).slots, ∀ z ∈ slot.samples, z = phase := by
  intro left member z present
  obtain ⟨slot, kept, found⟩ := (tone_turnedAs follows sampled).slot_of_mem member
  obtain ⟨length, phases⟩ := tone_slot_get follows sampled kept found
  obtain ⟨i, here⟩ := List.mem_iff_getElem?.mp present
  obtain ⟨inside, _⟩ := List.getElem?_eq_some_iff.mp here
  rw [length] at inside
  have instant := (follows.delay_eq_instant_iff slot inside).mpr (keeps slot kept)
  rw [phases i inside, instant, sub_self, mul_zero, Real.Angle.coe_zero, add_zero] at here
  exact (Option.some.inj here).symm

/-- The delays of the correction are the true instants exactly in the slots that keep time: every
sample that is left is turned by a delay that is known in advance, this delay is the time of its
sample if and only if its slot keeps time, and tones come out with the same phase on every sample if
and only if all slots do. -/
theorem correctDrift_instant_iff [Trigonometry] {s : SamplingSettings} {plan : SamplingPlan}
    {array : AntennaArray} (accepted : SamplingPlan.ofSettings s = .ok plan)
    (valid : array.validate = .ok ()) :
    (∀ (raw : RawBurst Phasor) (drift : Float32), plan.requiredSamples ≤ raw.valid.length →
      ∃ assigned sampled corrected, raw.assign plan array = .ok assigned ∧
        assigned.removeSwitchSlots = .ok (plan.effectiveSlots - plan.keptSlots, sampled) ∧
        sampled.correctDrift plan.samplesPerSlot drift = .ok corrected ∧
        raw.TurnedAs plan array (turn drift) corrected) ∧
    (∀ slot < plan.keptSlots, ∀ i < plan.samplesPerSlot,
      SlottedBurst.delayOf plan.referenceSamples plan.samplesPerSlot slot i *
          plan.referenceSpacing = plan.instant (plan.place slot i) ↔ plan.KeepsTime slot) ∧
    ((∀ phase rate, ∃ assigned dropped sampled,
        (tone plan phase rate).assign plan array = .ok assigned ∧
        assigned.removeSwitchSlots = .ok (dropped, sampled) ∧
        ∀ slot ∈ (sampled.alignPhases plan.samplesPerSlot).slots, ∀ z ∈ slot.samples, z = phase) ↔
      ∀ slot < plan.keptSlots, plan.KeepsTime slot) := by
  have follows := SamplingPlan.ofSettings_follows accepted
  have sound := AntennaArray.validate_accepted valid
  refine ⟨fun raw drift enough => assign_correctDrift follows sound enough drift,
    fun slot _ i inside => follows.delay_eq_instant_iff slot inside,
    fun aligned slot kept => keepsTime_of_aligned follows sound aligned kept, ?_⟩
  intro keeps phase rate
  obtain ⟨assigned, sampled, made, removed, sampledAs⟩ :=
    assign_removeSwitchSlots follows sound (tone_complete follows phase rate)
  exact ⟨assigned, _, sampled, made, removed, aligned_of_keepsTime follows sampledAs keeps⟩

/-- Two switch spacings of 2 µs, each sampled once, with a reference sample every microsecond. -/
theorem correctDrift_instant_default : ∃ plan,
    SamplingPlan.ofSettings { cteUnits := 2 } = .ok plan ∧ ({} : AntennaArray).validate = .ok () ∧
    ∀ phase rate, ∃ assigned dropped sampled,
      (tone plan phase rate).assign plan {} = .ok assigned ∧
      assigned.removeSwitchSlots = .ok (dropped, sampled) ∧
      ∀ slot ∈ (sampled.alignPhases plan.samplesPerSlot).slots, ∀ z ∈ slot.samples, z = phase := by
  have accepted : SamplingPlan.ofSettings { cteUnits := 2 } =
      .ok ⟨.regular, 4000, 2000, 2000, 1000, 8, 2, 1, 1, 2000⟩ := by cbv
  have valid : ({} : AntennaArray).validate = .ok () := by cbv
  obtain ⟨_, _, tones⟩ := @correctDrift_instant_iff .platform _ _ {} accepted valid
  exact ⟨_, accepted, valid, tones.mpr fun _ _ => rfl⟩

/-- With a reference sample every half microsecond the first switching sample is turned by the
rotation of 8.5 µs, and was taken after 9 µs. -/
theorem correctDrift_instant_fine_reference : ∃ plan,
    SamplingPlan.ofSettings { cteUnits := 2, referenceSpacing := .ns500 } = .ok plan ∧
    0 < plan.keptSlots ∧ 0 < plan.samplesPerSlot ∧
    SlottedBurst.delayOf plan.referenceSamples plan.samplesPerSlot 0 0 * plan.referenceSpacing =
      8500 ∧ plan.instant (plan.place 0 0) = 9000 := by
  have accepted : SamplingPlan.ofSettings { cteUnits := 2, referenceSpacing := .ns500 } =
      .ok ⟨.regular, 4000, 2000, 2000, 500, 16, 2, 1, 1, 1500⟩ := by cbv
  exact ⟨_, accepted, by decide, by decide, by decide, by decide⟩

end RawBurst

end DirectionFinding
