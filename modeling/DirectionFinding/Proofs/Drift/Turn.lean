import DirectionFinding.Drift
import DirectionFinding.Proofs.Burst.Sampled

/-!
Drift taken back from every sample. Assignment counts raw samples, dropping switch slots counts
slots, and the correction counts the slots that are left; composed, every sample is turned once,
and by a delay that is known in advance.
-/
namespace DirectionFinding

namespace SlottedBurst

variable {σ : Type} {b : SlottedBurst σ}

def turnedSlot (turn : Nat → σ → σ) (referenceSamples samplesPerSlot slot : Nat) (s : Slot σ) :
    Slot σ :=
  ⟨s.antenna, s.samples.mapIdx fun i => turn (delayOf referenceSamples samplesPerSlot slot i)⟩

private theorem delayOf_eq (referenceSamples samplesPerSlot slot i : Nat) :
    delayOf referenceSamples samplesPerSlot slot i =
      referenceSamples + 2 * slot * samplesPerSlot + i + samplesPerSlot := by
  have stride : slot * (samplesPerSlot * 2) = 2 * slot * samplesPerSlot := by
    rw [Nat.mul_comm samplesPerSlot 2, ← Nat.mul_assoc, Nat.mul_comm slot 2]
  rw [delayOf, stride]
  omega

theorem slots_turnBack (turn : Nat → σ → σ) (samplesPerSlot : Nat) (b : SlottedBurst σ) :
    (b.turnBack turn samplesPerSlot).slots =
      b.slots.mapIdx (turnedSlot turn b.reference.length samplesPerSlot) := by
  apply List.ext_getElem?
  intro slot
  by_cases used : slot < b.length
  · simp only [slots, turnBack, List.getElem?_map, List.getElem?_take, List.getElem?_mapIdx, used,
      if_true, Option.map_map]
    congr 1
    funext r
    exact Row.slot_mapSamples _ r
  · simp only [slots, turnBack, List.getElem?_map, List.getElem?_take, List.getElem?_mapIdx, used,
      if_false, Option.map_none]

@[simp]
theorem capacity_turnBack (turn : Nat → σ → σ) (samplesPerSlot : Nat) (b : SlottedBurst σ) :
    (b.turnBack turn samplesPerSlot).capacity = b.capacity := by
  simp [capacity, turnBack]

theorem Stored.turnBack (stored : b.Stored) (turn : Nat → σ → σ) (samplesPerSlot : Nat) :
    (b.turnBack turn samplesPerSlot).Stored := by
  refine ⟨by rw [capacity_turnBack]; exact stored.length_le, fun r member => ?_⟩
  obtain ⟨slot, inside, rfl⟩ := List.mem_mapIdx.mp member
  have fits := stored.fits _ (List.getElem_mem inside)
  split
  · exact Row.fits_mapSamples fits _
  · exact fits

private theorem finalDelays_le {samplesPerSlot : Nat} (stored : b.Stored) :
    ∀ delay ∈ b.finalDelays samplesPerSlot,
      delay ≤ delayOf b.reference.length samplesPerSlot b.capacity b.columns := by
  intro delay member
  obtain ⟨delays, present, inside⟩ := List.mem_flatten.mp member
  obtain ⟨slot, used, rfl⟩ := List.mem_mapIdx.mp present
  split at inside
  · contradiction
  · rw [List.mem_singleton] at inside
    rw [List.length_take] at used
    have row := List.getElem_mem (l := b.rows.take b.length) (by rw [List.length_take]; exact used)
    have count := (stored.fits _ (List.mem_of_mem_take row)).2
    have stride : slot * (samplesPerSlot * 2) ≤ b.capacity * (samplesPerSlot * 2) :=
      Nat.mul_le_mul_right _ (by simp only [capacity]; omega)
    rw [inside]
    simp only [delayOf]
    omega

theorem Stored.correctDrift_eq_ok [Trigonometry] {b : SlottedBurst Phasor} (stored : b.Stored)
    {samplesPerSlot : Nat} (drift : Float32)
    (reference : b.reference.length ≤ Limits.referenceSamples)
    (samples : samplesPerSlot ≤ Limits.samplesPerSlot) (capacity : b.capacity ≤ Limits.slots)
    (columns : b.columns ≤ Limits.samplesPerSlot) :
    b.correctDrift samplesPerSlot drift = .ok (b.turnBack (turn drift) samplesPerSlot) := by
  have stride := Nat.mul_le_mul capacity (Nat.mul_le_mul_right 2 samples)
  have countable :
      delayOf b.reference.length samplesPerSlot b.capacity b.columns < Limits.counts := by
    simp only [delayOf, Limits.referenceSamples, Limits.samplesPerSlot, Limits.slots,
      Limits.counts] at *
    omega
  have delays : (b.finalDelays samplesPerSlot).forM requireCount = .ok () :=
    forM_eq_ok fun delay member =>
      if_pos (Nat.lt_of_le_of_lt (finalDelays_le stored delay member) countable)
  have first : requireCount (b.reference.length + samplesPerSlot) = .ok () := by
    apply if_pos
    simp only [delayOf] at countable
    omega
  have double : requireCount (samplesPerSlot * 2) = .ok () := by
    apply if_pos
    simp only [Limits.samplesPerSlot, Limits.counts] at *
    omega
  simp only [correctDrift, first, double, stored.requireStored, delays, Located.ok_bind]
  rfl

end SlottedBurst

namespace RawBurst

variable {σ : Type} {raw : RawBurst σ} {s : SamplingSettings} {plan : SamplingPlan}
  {array : AntennaArray} {b : SlottedBurst σ}

/-- What a burst is once every sample that is left was turned by its delay, and only once. -/
structure TurnedAs (raw : RawBurst σ) (plan : SamplingPlan) (array : AntennaArray)
    (turn : Nat → σ → σ) (b : SlottedBurst σ) : Prop where
  stored : b.Stored
  reference_length : b.reference.length = plan.referenceSamples
  reference : ∀ k < plan.referenceSamples, ∃ z,
    raw.samples[k]? = some z ∧ b.reference[k]? = some (turn k z)
  slots_length : b.slots.length = plan.keptSlots
  slots : ∀ slot < plan.keptSlots, ∃ kept, b.slots[slot]? = some kept ∧
    kept.antenna = Assignment.slotAntenna plan array.sequence (plan.keptSlot slot) ∧
    kept.samples.length = plan.samplesPerSlot ∧
    ∀ i < plan.samplesPerSlot, ∃ z,
      raw.samples[plan.referenceSamples + plan.place slot i]? = some z ∧
      kept.samples[i]? =
        some (turn (SlottedBurst.delayOf plan.referenceSamples plan.samplesPerSlot slot i) z)

theorem TurnedAs.slot_of_mem {turn : Nat → σ → σ} (turned : raw.TurnedAs plan array turn b)
    {left : Slot σ} (member : left ∈ b.slots) :
    ∃ slot < plan.keptSlots, b.slots[slot]? = some left := by
  obtain ⟨slot, found⟩ := List.mem_iff_getElem?.mp member
  obtain ⟨inside, _⟩ := List.getElem?_eq_some_iff.mp found
  exact ⟨slot, by rw [← turned.slots_length]; exact inside, found⟩

theorem SampledAs.turnBack (sampled : raw.SampledAs plan array b)
    (enough : plan.requiredSamples ≤ raw.valid.length) (turn : Nat → σ → σ) :
    raw.TurnedAs plan array turn (b.turnBack turn plan.samplesPerSlot) := by
  have referenceLength := sampled.reference_length enough
  refine ⟨sampled.stored.turnBack turn _, List.length_mapIdx.trans referenceLength, ?_, ?_, ?_⟩
  · intro k inside
    obtain ⟨z, there, found⟩ := sampled.reference_get enough inside
    refine ⟨z, there, ?_⟩
    simp [SlottedBurst.turnBack, found]
  · rw [SlottedBurst.slots_turnBack, List.length_mapIdx, sampled.slots_length]
  · intro slot kept
    obtain ⟨samples, found, length, places⟩ := sampled.slot_get enough kept
    refine ⟨SlottedBurst.turnedSlot turn plan.referenceSamples plan.samplesPerSlot slot
      ⟨_, samples⟩, ?_, rfl, List.length_mapIdx.trans length, ?_⟩
    · rw [SlottedBurst.slots_turnBack, List.getElem?_mapIdx, found, referenceLength]
      rfl
    · intro i inside
      obtain ⟨z, there, here⟩ := places i inside
      exact ⟨z, there, by simp [SlottedBurst.turnedSlot, here]⟩

theorem SampledAs.correctDrift [Trigonometry] {raw : RawBurst Phasor} {b : SlottedBurst Phasor}
    (sampled : raw.SampledAs plan array b) (follows : plan.Follows s)
    (enough : plan.requiredSamples ≤ raw.valid.length) (drift : Float32) :
    b.correctDrift plan.samplesPerSlot drift =
      .ok (b.turnBack (turn drift) plan.samplesPerSlot) := by
  apply sampled.stored.correctDrift_eq_ok drift _ follows.samplesPerSlot_le
  · rw [sampled.capacity]
    exact follows.effectiveSlots_le
  · rw [sampled.columns]
    exact follows.samplesPerSlot_le
  · rw [sampled.reference_length enough]
    exact follows.referenceSamples_le

theorem assign_correctDrift [Trigonometry] {raw : RawBurst Phasor} (follows : plan.Follows s)
    (accepted : array.Accepted) (enough : plan.requiredSamples ≤ raw.valid.length)
    (drift : Float32) :
    ∃ assigned sampled corrected, raw.assign plan array = .ok assigned ∧
      assigned.removeSwitchSlots = .ok (plan.effectiveSlots - plan.keptSlots, sampled) ∧
      sampled.correctDrift plan.samplesPerSlot drift = .ok corrected ∧
      raw.TurnedAs plan array (turn drift) corrected := by
  obtain ⟨assigned, sampled, made, removed, sampledAs⟩ :=
    assign_removeSwitchSlots follows accepted enough
  exact ⟨assigned, sampled, _, made, removed, sampledAs.correctDrift follows enough drift,
    sampledAs.turnBack enough (turn drift)⟩

/-- With over-sampling half of the slots are left. Each of them carries its antenna of the sequence,
and each of its samples is the raw sample of its own place, turned once by that place and the length
of a slot. -/
theorem overSampling_turned_once [Trigonometry] (raw : RawBurst Phasor) (drift : Float32)
    {s : SamplingSettings} {plan : SamplingPlan} {array : AntennaArray}
    (accepted : SamplingPlan.ofSettings s = .ok plan) (overSampled : plan.regime = .overSampling)
    (valid : array.validate = .ok ()) (enough : plan.requiredSamples ≤ raw.valid.length) :
    ∃ assigned sampled corrected, raw.assign plan array = .ok assigned ∧
      assigned.removeSwitchSlots = .ok (plan.effectiveSlots / 2, sampled) ∧
      sampled.correctDrift plan.samplesPerSlot drift = .ok corrected ∧
      corrected.slots.length = plan.effectiveSlots / 2 ∧
      corrected.reference.length = plan.referenceSamples ∧
      (∀ k < plan.referenceSamples, ∃ z,
        raw.samples[k]? = some z ∧
        corrected.reference[k]? = some (z * Phasor.unit (drift * Float32.ofNat k))) ∧
      ∀ j < plan.effectiveSlots / 2, ∃ slot, corrected.slots[j]? = some slot ∧
        array.sequence[j % array.sequence.length]? = some slot.antenna ∧
        slot.samples.length = plan.samplesPerSlot ∧
        ∀ i < plan.samplesPerSlot, ∃ z,
          raw.samples[plan.referenceSamples + 2 * j * plan.samplesPerSlot + i]? = some z ∧
          slot.samples[i]? = some (z * Phasor.unit (drift * Float32.ofNat
            (plan.referenceSamples + 2 * j * plan.samplesPerSlot + i + plan.samplesPerSlot))) := by
  have follows := SamplingPlan.ofSettings_follows accepted
  have sound := AntennaArray.validate_accepted valid
  have half : plan.keptSlots = plan.effectiveSlots / 2 := if_pos overSampled
  obtain ⟨assigned, sampled, corrected, made, removed, turnedBack, turned⟩ :=
    assign_correctDrift follows sound enough drift
  have dropped : plan.effectiveSlots - plan.keptSlots = plan.effectiveSlots / 2 := by
    have even := follows.overSampling_slots overSampled
    omega
  refine ⟨assigned, sampled, corrected, made, by rw [← dropped]; exact removed, turnedBack,
    turned.slots_length.trans half, turned.reference_length, turned.reference, ?_⟩
  intro j inside
  obtain ⟨slot, found, antenna, length, places⟩ := turned.slots j (by rw [half]; exact inside)
  have double : plan.keptSlot j = 2 * j := if_pos overSampled
  refine ⟨slot, found, ?_, length, ?_⟩
  · rw [antenna, double]
    exact Assignment.slotAntenna_double (List.length_pos_iff.mpr sound.nonempty) overSampled
      (follows.overSampling_step overSampled) j
  · intro i here
    obtain ⟨z, there, sample⟩ := places i here
    rw [SamplingPlan.place, double, ← Nat.add_assoc] at there
    rw [SlottedBurst.delayOf_eq] at sample
    exact ⟨z, there, sample⟩

/-- Two slots of one sample are left of four. The raw samples are all different, and so are the turns
that they take. -/
theorem overSampling_turned_once_ramp :
    let _ : Trigonometry := .platform
    let ramp (k : Nat) : Phasor := .ofParts (Float32.ofNat k) 1
    let raw := ofSamples 2440 ((List.range 12).map ramp)
    ∃ plan assigned sampled corrected,
      SamplingPlan.ofSettings { cteUnits := 2, sampleSpacing := .us1 } = .ok plan ∧
      plan.regime = .overSampling ∧ ({} : AntennaArray).validate = .ok () ∧
      plan.requiredSamples ≤ raw.valid.length ∧
      raw.assign plan {} = .ok assigned ∧ assigned.removeSwitchSlots = .ok (2, sampled) ∧
      sampled.correctDrift 1 0.5 = .ok corrected ∧
      corrected.reference[3]? = some (ramp 3 * Phasor.unit (0.5 * 3)) ∧
      corrected.slots = [⟨⟨12⟩, [ramp 8 * Phasor.unit (0.5 * 9)]⟩,
        ⟨⟨1⟩, [ramp 10 * Phasor.unit (0.5 * 11)]⟩] := by
  intro _ ramp raw
  have accepted : SamplingPlan.ofSettings { cteUnits := 2, sampleSpacing := .us1 } =
      .ok ⟨.overSampling, 4000, 2000, 1000, 1000, 8, 4, 1, 1, 2000⟩ := by cbv
  have valid : ({} : AntennaArray).validate = .ok () := by cbv
  have enough : 12 ≤ raw.valid.length := by decide
  obtain ⟨assigned, sampled, corrected, made, removed, turned, count, -, reference, slots⟩ :=
    overSampling_turned_once raw 0.5 accepted rfl valid enough
  refine ⟨_, assigned, sampled, corrected, accepted, rfl, valid, enough, made, removed, turned,
    ?_, ?_⟩
  · obtain ⟨z, there, here⟩ := reference 3 (by decide)
    cases there
    exact here
  · have single (j : Nat) (kept : j < 2) : ∃ slot, corrected.slots[j]? = some slot ∧
        ({} : AntennaArray).sequence[j % 11]? = some slot.antenna ∧
        slot.samples = [ramp (8 + 2 * j) * Phasor.unit (0.5 * Float32.ofNat (8 + 2 * j + 1))] := by
      obtain ⟨slot, found, named, length, samples⟩ := slots j kept
      obtain ⟨x, only⟩ := List.length_eq_one_iff.mp length
      obtain ⟨z, there, here⟩ := samples 0 (by decide)
      have place : raw.samples[8 + 2 * j * 1 + 0]? = some (ramp (8 + 2 * j)) := by
        rcases (by omega : j = 0 ∨ j = 1) with rfl | rfl <;> rfl
      rw [place] at there
      cases there
      rw [only] at here
      refine ⟨slot, found, named, only.trans ?_⟩
      rw [Option.some.inj here, Nat.mul_one, Nat.add_zero]
    obtain ⟨⟨_, _⟩, first, named, rfl⟩ := single 0 (by decide)
    obtain ⟨⟨_, _⟩, second, named', rfl⟩ := single 1 (by decide)
    cases named
    cases named'
    have two : corrected.slots.length = 1 + 1 := count
    obtain ⟨a, rest, split⟩ := List.exists_cons_of_length_eq_add_one two
    rw [split] at two first second ⊢
    obtain ⟨b, rfl⟩ := List.length_eq_one_iff.mp (Nat.succ.inj two)
    cases first
    cases second
    rfl

end RawBurst

end DirectionFinding
