import DirectionFinding.Proofs.Burst.Sampled

/-!
Antennas that the slots of a burst reach. The slots go through the switch sequence with the step of
the plan, and what one pass leaves out no later pass meets, because each starts at the same place.
-/
namespace DirectionFinding

namespace SamplingPlan

/-- Whether an antenna has a slot among those that are left. The sequence starts over behind its
end, and a later pass meets no other places than the first. -/
def Visits (p : SamplingPlan) (sequence : List Antenna) (antenna : Antenna) : Prop :=
  ∃ slot < p.keptSlots, sequence[slot * p.antennaStep]? = some antenna

instance (p : SamplingPlan) (sequence : List Antenna) (antenna : Antenna) :
    Decidable (p.Visits sequence antenna) :=
  inferInstanceAs (Decidable (∃ slot, slot < _ ∧ _))

end SamplingPlan

namespace Assignment

variable {plan : SamplingPlan} {sequence : List Antenna}

private theorem cursorAfter_first {length step steps : Nat} (inside : steps * step < length) :
    cursorAfter length step steps = steps * step := by
  have nonempty : 0 < length := Nat.zero_lt_of_lt inside
  rw [cursorAfter_eq nonempty]
  by_cases forward : 0 < step
  · rw [Nat.mod_eq_of_lt ((lt_passLength_iff nonempty forward steps).mpr inside)]
  · obtain rfl := Nat.eq_zero_of_not_pos forward
    rw [Nat.mul_zero, Nat.mul_zero]

theorem keptSlot_sampling (plan : SamplingPlan) (slot : Nat) :
    isSwitchSlot plan.regime (plan.keptSlot slot) = false := by
  unfold isSwitchSlot SamplingPlan.keptSlot
  split
  · simp
  · rename_i sampled
    simp [sampled]

theorem exists_keptSlot {place : Nat} (sampling : isSwitchSlot plan.regime place = false) :
    ∃ slot, plan.keptSlot slot = place := by
  unfold isSwitchSlot at sampling
  unfold SamplingPlan.keptSlot
  split
  · rename_i overSampled
    simp only [overSampled, beq_self_eq_true, Bool.true_and, beq_eq_false_iff_ne] at sampling
    exact ⟨place / 2, by omega⟩
  · exact ⟨place, rfl⟩

theorem keptSlot_lt_iff {slot other : Nat} :
    plan.keptSlot slot < plan.keptSlot other ↔ slot < other := by
  unfold SamplingPlan.keptSlot
  split <;> omega

theorem slotAntenna_kept (named : 0 < sequence.length) (slot : Nat) :
    sequence[cursorAfter sequence.length plan.antennaStep slot]? =
      some (slotAntenna plan sequence (plan.keptSlot slot)) := by
  have before : samplingSlotsBefore plan.regime (plan.keptSlot slot) = slot := by
    unfold samplingSlotsBefore SamplingPlan.keptSlot
    split <;> omega
  rw [← slotAntenna_sampling named (keptSlot_sampling plan slot), cursorAt, before]

theorem visits_iff (named : 0 < sequence.length) {antenna : Antenna} :
    plan.Visits sequence antenna ↔
      ∃ slot < plan.keptSlots, slotAntenna plan sequence (plan.keptSlot slot) = antenna := by
  constructor
  · rintro ⟨slot, kept, found⟩
    obtain ⟨inside, -⟩ := List.getElem?_eq_some_iff.mp found
    have same : _ = some (slotAntenna plan sequence (plan.keptSlot slot)) :=
      slotAntenna_kept named slot
    rw [cursorAfter_first inside, found] at same
    exact ⟨slot, kept, (Option.some.inj same).symm⟩
  · rintro ⟨slot, kept, rfl⟩
    have before := Nat.mod_le slot (passLength sequence.length plan.antennaStep)
    refine ⟨slot % passLength sequence.length plan.antennaStep, by omega, ?_⟩
    rw [← cursorAfter_eq named]
    exact slotAntenna_kept named slot

end Assignment

end DirectionFinding
