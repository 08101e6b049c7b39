import DirectionFinding.Proofs.Burst.Visits
import Mathlib.Tactic.Ring

/-!
Antennas of a burst that is sampled at every n-th switch spacing, against those of a burst that is
sampled at every one. The switch goes round the whole sequence; the assignment starts over with each
pass of its own, and a pass that overshoots the end of the sequence leaves the two apart.
-/
namespace DirectionFinding

namespace Assignment

/-- After some passes, what they overshot has to be whole rounds of the switch. -/
theorem restart_eq_iff {length step : Nat} (nonempty : 0 < length) (forward : 0 < step)
    (slot : Nat) :
    slot % passLength length step * step = slot * step % length ↔
      length ∣ slot / passLength length step * (passLength length step * step) := by
  have inside : slot % passLength length step * step < length :=
    (lt_passLength_iff nonempty forward _).mp (Nat.mod_lt slot (passLength_pos nonempty forward))
  have passes : slot * step = slot / passLength length step * (passLength length step * step) +
      slot % passLength length step * step := by
    conv_lhs => rw [← Nat.div_add_mod' slot (passLength length step)]
    ring
  constructor
  · intro same
    have whole : length ∣ slot * step - slot % passLength length step * step := by
      rw [same]
      exact Nat.dvd_sub_mod _
    rwa [passes, Nat.add_sub_cancel] at whole
  · rintro ⟨rounds, whole⟩
    rw [passes, whole, Nat.mul_add_mod, Nat.mod_eq_of_lt inside]

end Assignment

namespace SamplingPlan

open Assignment (passLength)

variable {s : SamplingSettings} {p : SamplingPlan} {sequence : List Antenna}

/-- Whether each slot shows the antenna on which the switch dwells at that time. -/
def KeepsDwells (p : SamplingPlan) (sequence : List Antenna) : Prop :=
  ∀ slot < p.effectiveSlots,
    sequence[slot % passLength sequence.length p.antennaStep * p.antennaStep]? =
      sequence[slot * p.antennaStep % sequence.length]?

instance (p : SamplingPlan) (sequence : List Antenna) : Decidable (p.KeepsDwells sequence) :=
  inferInstanceAs (Decidable (∀ slot, slot < _ → _))

theorem keepsDwells_iff (named : 0 < sequence.length) (forward : 0 < p.antennaStep)
    (distinct : sequence.Nodup) :
    p.KeepsDwells sequence ↔
      p.effectiveSlots ≤ passLength sequence.length p.antennaStep ∨
        sequence.length ∣ passLength sequence.length p.antennaStep * p.antennaStep := by
  have first := Assignment.passLength_pos named forward
  constructor
  · intro keeps
    by_cases single : p.effectiveSlots ≤ passLength sequence.length p.antennaStep
    · exact .inl single
    · right
      have again := keeps (passLength sequence.length p.antennaStep) (by omega)
      rw [List.getElem?_inj (by rw [Nat.mod_self, Nat.zero_mul]; exact named) distinct,
        Assignment.restart_eq_iff named forward, Nat.div_self first, Nat.one_mul] at again
      exact again
  · intro ends slot used
    have same := (Assignment.restart_eq_iff named forward slot).mpr (by
      rcases ends with single | whole
      · rw [Nat.div_eq_of_lt (by omega), Nat.zero_mul]
        exact Nat.dvd_zero _
      · exact Nat.dvd_mul_left_of_dvd whole _)
    rw [same]

private theorem dwell_lt {regular : SamplingPlan} {each : SamplingSettings} (follows : p.Follows s)
    (under : p.regime = .underSampling) (dwells : regular.Follows each)
    (every : regular.regime = .regular) (duration : regular.switchingDuration = p.switchingDuration)
    (spacing : regular.switchSpacing = p.switchSpacing) {slot : Nat}
    (used : slot < p.effectiveSlots) : slot * p.antennaStep < regular.effectiveSlots := by
  obtain ⟨-, forward⟩ := follows.underSampling_step under
  rw [dwells.regular_slots every, duration, spacing]
  rw [follows.underSampling_slots under, Nat.lt_div_iff_mul_lt forward] at used
  omega

end SamplingPlan

namespace RawBurst

variable {σ : Type} {raw : RawBurst σ} {s : SamplingSettings} {plan : SamplingPlan}
  {array : AntennaArray} {b : SlottedBurst σ}

private theorem AssignedTo.antennas_get (assigned : raw.AssignedTo plan array b) {slot : Nat}
    (used : slot < plan.effectiveSlots) :
    b.antennas[slot]? = some (Assignment.slotAntenna plan array.sequence slot) := by
  rw [b.antennas_eq, assigned.slots, List.map_map, List.getElem?_map, List.getElem?_range used]
  rfl

private theorem AssignedTo.regular_dwell (assigned : raw.AssignedTo plan array b)
    (follows : plan.Follows s)
    (named : 0 < array.sequence.length) (regular : plan.regime = .regular) {slot : Nat}
    (used : slot < plan.effectiveSlots) :
    b.antennas[slot]? = array.sequence[slot % array.sequence.length]? := by
  rw [assigned.antennas_get used,
    Assignment.slotAntenna_regular named regular (follows.regular_step regular)]

private theorem AssignedTo.underSampling_dwell (assigned : raw.AssignedTo plan array b)
    (named : 0 < array.sequence.length) (under : plan.regime = .underSampling) {slot : Nat}
    (used : slot < plan.effectiveSlots) :
    b.antennas[slot]? = array.sequence[slot %
      Assignment.passLength array.sequence.length plan.antennaStep * plan.antennaStep]? := by
  have kept : plan.keptSlot slot = slot := if_neg (by simp [under])
  have shown : array.sequence[_]? = some (Assignment.slotAntenna plan array.sequence _) :=
    Assignment.slotAntenna_kept named slot
  rw [kept, Assignment.cursorAfter_eq named] at shown
  rw [assigned.antennas_get used, shown]

/-- A burst sampled at every n-th switch spacing shows the antennas that a burst sampled at every
switch spacing shows in every n-th slot, exactly if the passes of the assignment keep to the dwells of
the switch. Its antennas are known in any case: each pass takes every n-th antenna and the next one
starts over. With no antenna named twice, dwells are kept exactly if there is but one pass or the
passes end where rounds of the switch do. Every schedule with n above one has a schedule to be
compared with. -/
theorem underSampling_dwells_iff {σ : Type} [Inhabited σ] {s : SamplingSettings}
    {plan : SamplingPlan} {array : AntennaArray} (accepted : SamplingPlan.ofSettings s = .ok plan)
    (under : plan.regime = .underSampling) (valid : array.validate = .ok ()) :
    let n := plan.sampleSpacing / plan.switchSpacing
    let pass := Assignment.passLength array.sequence.length n
    (∃ each regular, SamplingPlan.ofSettings each = .ok regular ∧ regular.regime = .regular ∧
      regular.switchingDuration = plan.switchingDuration ∧
      regular.switchSpacing = plan.switchSpacing) ∧
    (∀ each regular, SamplingPlan.ofSettings each = .ok regular → regular.regime = .regular →
      regular.switchingDuration = plan.switchingDuration →
      regular.switchSpacing = plan.switchSpacing →
      ∀ sparse dense : RawBurst σ, plan.requiredSamples ≤ sparse.valid.length →
        regular.requiredSamples ≤ dense.valid.length →
        ∃ b full, sparse.assign plan array = .ok b ∧ dense.assign regular array = .ok full ∧
          (∀ slot < plan.effectiveSlots, slot * n < regular.effectiveSlots ∧
            b.antennas[slot]? = array.sequence[slot % pass * n]? ∧
            full.antennas[slot * n]? = array.sequence[slot * n % array.sequence.length]?) ∧
          ((∀ slot < plan.effectiveSlots, b.antennas[slot]? = full.antennas[slot * n]?) ↔
            plan.KeepsDwells array.sequence)) ∧
    (array.sequence.Nodup → (plan.KeepsDwells array.sequence ↔
      plan.effectiveSlots ≤ pass ∨ array.sequence.length ∣ pass * n)) := by
  intro n pass
  have follows := SamplingPlan.ofSettings_follows accepted
  have sound := AntennaArray.validate_accepted valid
  have named := List.length_pos_iff.mpr sound.nonempty
  obtain ⟨step, forward⟩ := follows.underSampling_step under
  have ratio : plan.antennaStep = n := step
  refine ⟨SamplingPlan.exists_regular accepted under, ?_, fun distinct => ?_⟩
  · intro each regular acceptedEach every duration spacing sparse dense enough enoughDense
    have dwells := SamplingPlan.ofSettings_follows acceptedEach
    obtain ⟨b, made, assigned⟩ := assign_assignedTo follows sound.nonempty enough
    obtain ⟨full, madeFull, assignedFull⟩ := assign_assignedTo dwells sound.nonempty enoughDense
    have places : ∀ slot < plan.effectiveSlots, slot * n < regular.effectiveSlots ∧
        b.antennas[slot]? = array.sequence[slot % pass * n]? ∧
        full.antennas[slot * n]? = array.sequence[slot * n % array.sequence.length]? := by
      intro slot used
      have inside : slot * plan.antennaStep < regular.effectiveSlots :=
        SamplingPlan.dwell_lt follows under dwells every duration spacing used
      have here := assigned.underSampling_dwell named under used
      rw [ratio] at inside here
      exact ⟨inside, here, assignedFull.regular_dwell dwells named every inside⟩
    refine ⟨b, full, made, madeFull, places, ?_⟩
    unfold SamplingPlan.KeepsDwells
    rw [ratio]
    refine forall₂_congr fun slot used => ?_
    rw [(places slot used).2.1, (places slot used).2.2]
  · rw [SamplingPlan.keepsDwells_iff named forward distinct, ratio]

/-- Four antennas, of which every second one is sampled in three passes. -/
theorem underSampling_dwells_even : ∃ plan regular b full,
    SamplingPlan.ofSettings { cteUnits := 3, switchSpacing := .us1, sampleSpacing := .us2 } =
      .ok plan ∧ plan.regime = .underSampling ∧
    ({ sequence := [⟨1⟩, ⟨2⟩, ⟨3⟩, ⟨4⟩] } : AntennaArray).validate = .ok () ∧
    SamplingPlan.ofSettings { cteUnits := 3, switchSpacing := .us1, sampleSpacing := .us1 } =
      .ok regular ∧
    (ofSamples 2440 (List.range 14)).assign plan { sequence := [⟨1⟩, ⟨2⟩, ⟨3⟩, ⟨4⟩] } = .ok b ∧
    (ofSamples 2440 (List.range 20)).assign regular { sequence := [⟨1⟩, ⟨2⟩, ⟨3⟩, ⟨4⟩] } = .ok full ∧
    ∀ slot < plan.effectiveSlots, b.antennas[slot]? = full.antennas[slot * 2]? := by
  have accepted : SamplingPlan.ofSettings
      { cteUnits := 3, switchSpacing := .us1, sampleSpacing := .us2 } =
      .ok ⟨.underSampling, 12000, 1000, 2000, 1000, 8, 6, 1, 2, 1500⟩ := by cbv
  have every : SamplingPlan.ofSettings
      { cteUnits := 3, switchSpacing := .us1, sampleSpacing := .us1 } =
      .ok ⟨.regular, 12000, 1000, 1000, 1000, 8, 12, 1, 1, 1500⟩ := by cbv
  have valid : ({ sequence := [⟨1⟩, ⟨2⟩, ⟨3⟩, ⟨4⟩] } : AntennaArray).validate = .ok () := by cbv
  obtain ⟨-, compared, distinct⟩ := underSampling_dwells_iff (σ := Nat) accepted rfl valid
  obtain ⟨b, full, made, madeFull, -, same⟩ := compared _ _ every rfl rfl rfl
    (ofSamples 2440 (List.range 14)) (ofSamples 2440 (List.range 20)) (by decide) (by decide)
  exact ⟨_, _, b, full, accepted, rfl, valid, every, made, madeFull,
    same.mpr ((distinct (by decide)).mpr (.inr (by decide)))⟩

/-- Of three antennas every second one is sampled: the second pass starts over with the first antenna
while the switch has gone on to the second one. -/
theorem underSampling_dwells_odd : ∃ plan regular b full,
    SamplingPlan.ofSettings { cteUnits := 3, switchSpacing := .us1, sampleSpacing := .us2 } =
      .ok plan ∧ plan.regime = .underSampling ∧
    ({ sequence := [⟨1⟩, ⟨2⟩, ⟨3⟩] } : AntennaArray).validate = .ok () ∧
    SamplingPlan.ofSettings { cteUnits := 3, switchSpacing := .us1, sampleSpacing := .us1 } =
      .ok regular ∧ regular.regime = .regular ∧
    (ofSamples 2440 (List.range 14)).assign plan { sequence := [⟨1⟩, ⟨2⟩, ⟨3⟩] } = .ok b ∧
    (ofSamples 2440 (List.range 20)).assign regular { sequence := [⟨1⟩, ⟨2⟩, ⟨3⟩] } = .ok full ∧
    b.antennas[2]? = some ⟨1⟩ ∧ full.antennas[2 * 2]? = some ⟨2⟩ := by
  refine ⟨⟨.underSampling, 12000, 1000, 2000, 1000, 8, 6, 1, 2, 1500⟩,
    ⟨.regular, 12000, 1000, 1000, 1000, 8, 12, 1, 1, 1500⟩, _, _, ?_, rfl, ?_, ?_, rfl, rfl, rfl,
    ?_, ?_⟩
  · cbv
  · cbv
  · cbv
  · rfl
  · rfl

end RawBurst

end DirectionFinding
