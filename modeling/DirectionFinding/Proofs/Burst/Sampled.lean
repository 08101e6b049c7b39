import DirectionFinding.Proofs.AntennaArray
import DirectionFinding.Proofs.Burst.Assignment
import DirectionFinding.Proofs.Burst.Compaction

/-!
Bursts after assignment and without their switch slots. With over-sampling every second slot stays,
otherwise all of them do; a slot that stays keeps its antenna and its samples, and with them its
place among the samples of the switching period.
-/
namespace DirectionFinding

namespace SamplingPlan

def keptSlots (p : SamplingPlan) : Nat :=
  if p.regime = .overSampling then p.effectiveSlots / 2 else p.effectiveSlots

/-- Number that a slot had before the switch slots went. -/
def keptSlot (p : SamplingPlan) (slot : Nat) : Nat :=
  if p.regime = .overSampling then 2 * slot else slot

/-- Place of a sample that is left among the samples of the switching period. -/
def place (p : SamplingPlan) (slot i : Nat) : Nat :=
  p.keptSlot slot * p.samplesPerSlot + i

variable {s : SamplingSettings} {p : SamplingPlan}

theorem keptSlots_le (p : SamplingPlan) : p.keptSlots ≤ p.effectiveSlots := by
  unfold keptSlots
  split <;> omega

theorem keptSlot_lt {slot : Nat} (kept : slot < p.keptSlots) :
    p.keptSlot slot < p.effectiveSlots := by
  by_cases overSampled : p.regime = .overSampling
  · rw [keptSlots, if_pos overSampled] at kept
    rw [keptSlot, if_pos overSampled]
    omega
  · rw [keptSlots, if_neg overSampled] at kept
    rwa [keptSlot, if_neg overSampled]

theorem place_lt {slot i : Nat} (kept : slot < p.keptSlots) (inside : i < p.samplesPerSlot) :
    p.place slot i < p.effectiveSlots * p.samplesPerSlot := by
  have next : (p.keptSlot slot + 1) * p.samplesPerSlot ≤ p.effectiveSlots * p.samplesPerSlot :=
    Nat.mul_le_mul_right _ (keptSlot_lt kept)
  rw [Nat.succ_mul] at next
  unfold place
  omega

end SamplingPlan

private theorem filter_range_even {α : Type} (f : Nat → α) (keep : α → Bool) (count : Nat)
    (even : ∀ j < count, keep (f (2 * j)) = true)
    (odd : ∀ j < count, keep (f (2 * j + 1)) = false) :
    ((List.range (2 * count)).map f).filter keep = (List.range count).map fun j => f (2 * j) := by
  induction count with
  | zero => rfl
  | succ count ih =>
    have earlier := ih (fun j inside => even j (by omega)) (fun j inside => odd j (by omega))
    rw [show 2 * (count + 1) = 2 * count + 1 + 1 by omega]
    simp [List.range_succ, earlier, even count, odd count]

namespace RawBurst

variable {σ : Type} {raw : RawBurst σ} {s : SamplingSettings} {plan : SamplingPlan}
  {array : AntennaArray} {b : SlottedBurst σ}

structure SampledAs (raw : RawBurst σ) (plan : SamplingPlan) (array : AntennaArray)
    (b : SlottedBurst σ) : Prop where
  stored : b.Stored
  capacity : b.capacity = plan.effectiveSlots
  columns : b.columns = plan.samplesPerSlot
  frequency : b.frequency = raw.frequency
  referenceAntenna : b.referenceAntenna = array.reference
  reference : b.reference = raw.valid.take plan.referenceSamples
  slots : b.slots = (List.range plan.keptSlots).map fun slot =>
    Assignment.assignedSlot plan array.sequence (raw.valid.drop plan.referenceSamples)
      (plan.keptSlot slot)

/-- Only switch slots have no antenna, because every antenna of an accepted array is a real one. -/
theorem slotAntenna_isValid (accepted : array.Accepted) (slot : Nat) :
    (Assignment.slotAntenna plan array.sequence slot).isValid =
      !Assignment.isSwitchSlot plan.regime slot := by
  cases switching : Assignment.isSwitchSlot plan.regime slot with
  | true =>
    simp only [Assignment.slotAntenna, switching, if_true]
    rfl
  | false =>
    have named := List.length_pos_iff.mpr accepted.nonempty
    have found := Assignment.slotAntenna_sampling named switching
    exact accepted.sequence_isValid (List.mem_of_getElem? found)

private theorem AssignedTo.sampledSlots (assigned : raw.AssignedTo plan array b)
    (follows : plan.Follows s) (accepted : array.Accepted) :
    b.slots.filter (fun slot => slot.antenna.isValid) = (List.range plan.keptSlots).map fun slot =>
      Assignment.assignedSlot plan array.sequence (raw.valid.drop plan.referenceSamples)
        (plan.keptSlot slot) := by
  have valid (slot : Nat) : (Assignment.slotAntenna plan array.sequence slot).isValid =
      !Assignment.isSwitchSlot plan.regime slot := slotAntenna_isValid accepted slot
  rw [assigned.slots]
  -- The filter takes every second slot or all of them.
  by_cases overSampled : plan.regime = .overSampling
  · rw [follows.overSampling_slots overSampled, SamplingPlan.keptSlots, if_pos overSampled]
    simp only [SamplingPlan.keptSlot, if_pos overSampled]
    apply filter_range_even
    · intro j _
      simp only [Assignment.assignedSlot, valid]
      simp [Assignment.isSwitchSlot]
    · intro j _
      simp only [Assignment.assignedSlot, valid]
      simp [Assignment.isSwitchSlot, overSampled]
  · simp only [SamplingPlan.keptSlots, SamplingPlan.keptSlot, if_neg overSampled]
    apply List.filter_eq_self.mpr
    intro slot member
    obtain ⟨i, _, rfl⟩ := List.mem_map.mp member
    simp only [Assignment.assignedSlot, valid]
    simp [Assignment.isSwitchSlot, overSampled]

theorem AssignedTo.compacted (assigned : raw.AssignedTo plan array b) (follows : plan.Follows s)
    (accepted : array.Accepted) : raw.SampledAs plan array b.compacted where
  stored := assigned.stored.compacted
  capacity := b.capacity_compacted.trans assigned.capacity
  columns := assigned.columns
  frequency := assigned.frequency
  referenceAntenna := assigned.referenceAntenna
  reference := assigned.reference
  slots := b.slots_compacted.trans (assigned.sampledSlots follows accepted)

private theorem valid_get {i : Nat} (inside : i < raw.valid.length) :
    raw.samples[i]? = some raw.valid[i] := by
  have same : raw.valid[i]? = raw.samples[i]? := by
    rw [valid_length] at inside
    rw [valid, List.getElem?_take, if_pos (by omega)]
  rw [← same, List.getElem?_eq_getElem inside]

theorem SampledAs.slots_length (sampled : raw.SampledAs plan array b) :
    b.slots.length = plan.keptSlots := by
  rw [sampled.slots, List.length_map, List.length_range]

theorem SampledAs.reference_length (sampled : raw.SampledAs plan array b)
    (enough : plan.requiredSamples ≤ raw.valid.length) :
    b.reference.length = plan.referenceSamples := by
  have reached := Nat.le_trans plan.referenceSamples_le_requiredSamples enough
  rw [sampled.reference, List.length_take, Nat.min_eq_left reached]

theorem SampledAs.reference_get (sampled : raw.SampledAs plan array b)
    (enough : plan.requiredSamples ≤ raw.valid.length) {k : Nat}
    (inside : k < plan.referenceSamples) :
    ∃ z, raw.samples[k]? = some z ∧ b.reference[k]? = some z := by
  have reached := Nat.le_trans plan.referenceSamples_le_requiredSamples enough
  have there : k < raw.valid.length := by omega
  refine ⟨raw.valid[k], valid_get there, ?_⟩
  rw [sampled.reference, List.getElem?_take, if_pos inside, List.getElem?_eq_getElem there]

theorem slotSamples_get (enough : plan.requiredSamples ≤ raw.valid.length) {slot : Nat}
    (used : slot < plan.effectiveSlots) :
    let samples := Assignment.slotSamples plan (raw.valid.drop plan.referenceSamples) slot
    samples.length = plan.samplesPerSlot ∧ ∀ i < plan.samplesPerSlot, ∃ z,
      raw.samples[plan.referenceSamples + (slot * plan.samplesPerSlot + i)]? = some z ∧
        samples[i]? = some z := by
  have switching := SamplingPlan.switching_le_length enough
  have inside : (slot + 1) * plan.samplesPerSlot ≤ plan.effectiveSlots * plan.samplesPerSlot :=
    Nat.mul_le_mul_right _ used
  refine ⟨Assignment.slotSamples_length (Nat.le_trans inside switching), ?_⟩
  intro i here
  have there : plan.referenceSamples + (slot * plan.samplesPerSlot + i) < raw.valid.length := by
    rw [SamplingPlan.requiredSamples] at enough
    rw [Nat.succ_mul] at inside
    omega
  refine ⟨_, valid_get there, ?_⟩
  rw [Assignment.slotSamples, List.getElem?_take, if_pos here, List.getElem?_drop,
    List.getElem?_drop, List.getElem?_eq_getElem]

theorem SampledAs.slot_get (sampled : raw.SampledAs plan array b)
    (enough : plan.requiredSamples ≤ raw.valid.length) {slot : Nat} (kept : slot < plan.keptSlots) :
    ∃ samples, b.slots[slot]? =
        some ⟨Assignment.slotAntenna plan array.sequence (plan.keptSlot slot), samples⟩ ∧
      samples.length = plan.samplesPerSlot ∧
      ∀ i < plan.samplesPerSlot, ∃ z,
        raw.samples[plan.referenceSamples + plan.place slot i]? = some z ∧ samples[i]? = some z := by
  refine ⟨_, ?_, slotSamples_get enough (SamplingPlan.keptSlot_lt kept)⟩
  rw [sampled.slots, List.getElem?_map, List.getElem?_range kept]
  rfl

theorem assign_removeSwitchSlots [Inhabited σ] (follows : plan.Follows s)
    (accepted : array.Accepted) (enough : plan.requiredSamples ≤ raw.valid.length) :
    ∃ b sampled, raw.assign plan array = .ok b ∧
      b.removeSwitchSlots = .ok (plan.effectiveSlots - plan.keptSlots, sampled) ∧
      raw.SampledAs plan array sampled := by
  obtain ⟨b, made, assigned⟩ := assign_assignedTo follows accepted.nonempty enough
  have sampled := assigned.compacted follows accepted
  have used : b.length = plan.effectiveSlots := by
    rw [← assigned.stored.slots_length, assigned.slots, List.length_map, List.length_range]
  have left : b.compacted.length = plan.keptSlots :=
    sampled.stored.slots_length.symm.trans sampled.slots_length
  refine ⟨b, b.compacted, made, ?_, sampled⟩
  rw [SlottedBurst.removeSwitchSlots_eq_ok assigned.stored.length_le, used, left]

theorem SampledAs.of_removed [Inhabited σ] (follows : plan.Follows s) (accepted : array.Accepted)
    (enough : plan.requiredSamples ≤ raw.valid.length) (made : raw.assign plan array = .ok b)
    {dropped : Nat} {sampled : SlottedBurst σ}
    (removed : b.removeSwitchSlots = .ok (dropped, sampled)) :
    raw.SampledAs plan array sampled := by
  obtain ⟨_, _, madeSame, removedSame, sampledAs⟩ :=
    assign_removeSwitchSlots follows accepted enough
  cases made.symm.trans madeSame
  cases removed.symm.trans removedSame
  exact sampledAs

end RawBurst

end DirectionFinding
