import DirectionFinding.Proofs.Drift.Instant
import DirectionFinding.Proofs.Report.Timeline

/-!
Times of the timeline against the instants at which samples were taken. The timeline counts the slots
of the burst it is given. With every slot in place its times are the instants; once the switch slots
are gone, a slot behind the first one stands for half the time that has passed.
-/
namespace DirectionFinding

private theorem getElem?_flatten_uniform {α : Type} {xss : List (List α)} {n : Nat}
    (uniform : ∀ xs ∈ xss, xs.length = n) {j i : Nat} {xs : List α} (found : xss[j]? = some xs)
    (inside : i < n) : xss.flatten[n * j + i]? = xs[i]? := by
  induction xss generalizing j with
  | nil => cases found
  | cons first rest ih =>
    have length := uniform first List.mem_cons_self
    cases j with
    | zero =>
      cases found
      rw [List.flatten_cons, Nat.mul_zero, Nat.zero_add, List.getElem?_append_left (by omega)]
    | succ j =>
      have behind : n * (j + 1) + i - first.length = n * j + i := by
        rw [Nat.mul_succ]
        omega
      rw [List.flatten_cons, List.getElem?_append_right (by rw [Nat.mul_succ]; omega), behind]
      exact ih (fun xs member => uniform xs (List.mem_cons_of_mem _ member)) found

namespace Timeline

variable {s : SamplingSettings} {plan : SamplingPlan}

/-- Counted in whole time units, nothing of an instant is lost. -/
theorem switchingTime_eq_instant (follows : plan.Follows s) (place : Nat) :
    switchingTime plan plan.referenceSamples place * timeUnit = plan.instant place := by
  obtain ⟨⟨reference, -, -⟩, ⟨sample, -, -⟩, ⟨delay, -, -⟩⟩ := follows.wholeUnits
  have steps : plan.referenceSpacing / timeUnit * (plan.referenceSamples - 1) * timeUnit =
      (plan.referenceSamples - 1) * plan.referenceSpacing := by
    rw [Nat.mul_right_comm, Nat.div_mul_cancel reference, Nat.mul_comm]
  rw [switchingTime, referenceTime, SamplingPlan.instant, Nat.add_mul, Nat.add_mul, steps,
    Nat.div_mul_cancel delay, Nat.mul_assoc, Nat.div_mul_cancel sample,
    Nat.add_comm plan.firstSampleDelay]

private theorem switchingTime_inj (follows : plan.Follows s) {place other : Nat} :
    switchingTime plan plan.referenceSamples place =
      switchingTime plan plan.referenceSamples other ↔ place = other := by
  obtain ⟨-, ⟨-, step, -⟩, -⟩ := follows.wholeUnits
  rw [switchingTime, switchingTime, Nat.add_left_cancel_iff, Nat.mul_left_inj step.ne']

end Timeline

private theorem timeline_reference_get {σ : Type} (plan : SamplingPlan) {burst : SlottedBurst σ}
    {k : Nat} {z : σ} (found : burst.reference[k]? = some z) :
    (timeline plan burst)[k]? =
      some ⟨k, Timeline.referenceTime plan k, burst.referenceAntenna, z⟩ := by
  obtain ⟨inside, -⟩ := List.getElem?_eq_some_iff.mp found
  have points : (Timeline.referencePoints plan burst).length = burst.reference.length :=
    List.length_mapIdx
  rw [timeline, List.getElem?_append_left (by omega), Timeline.referencePoints,
    List.getElem?_mapIdx, found]
  rfl

theorem timeline_slot_get {σ : Type} (plan : SamplingPlan) {burst : SlottedBurst σ} {n : Nat}
    (uniform : ∀ slot ∈ burst.slots, slot.samples.length = n) {j i : Nat} {slot : Slot σ} {z : σ}
    (found : burst.slots[j]? = some slot) (sample : slot.samples[i]? = some z) :
    (timeline plan burst)[burst.reference.length + (n * j + i)]? =
      some ⟨burst.reference.length + (n * j + i),
        Timeline.switchingTime plan burst.reference.length (n * j + i), slot.antenna, z⟩ := by
  have length := uniform slot (List.mem_of_getElem? found)
  obtain ⟨inside, -⟩ := List.getElem?_eq_some_iff.mp sample
  rw [length] at inside
  have points : (Timeline.referencePoints plan burst).length = burst.reference.length :=
    List.length_mapIdx
  have rows : ∀ xs ∈ burst.slots.mapIdx (Timeline.slotPoints plan burst.reference.length),
      xs.length = n := by
    intro xs member
    obtain ⟨place, used, rfl⟩ := List.mem_mapIdx.mp member
    rw [Timeline.slotPoints, List.length_mapIdx]
    exact uniform _ (List.getElem_mem used)
  have row : (burst.slots.mapIdx (Timeline.slotPoints plan burst.reference.length))[j]? =
      some (Timeline.slotPoints plan burst.reference.length j slot) := by
    rw [List.getElem?_mapIdx, found]
    rfl
  rw [timeline, List.getElem?_append_right (by omega), points, Nat.add_sub_cancel_left,
    getElem?_flatten_uniform rows row inside, Timeline.slotPoints, List.getElem?_mapIdx, sample,
    length]
  rfl

namespace RawBurst

variable {σ : Type} {raw : RawBurst σ} {s : SamplingSettings} {plan : SamplingPlan}
  {array : AntennaArray} {b : SlottedBurst σ}

theorem timeline_assigned_get (enough : plan.requiredSamples ≤ raw.valid.length)
    (reference : b.reference = raw.valid.take plan.referenceSamples) {count : Nat}
    (number : Nat → Nat) (slots : b.slots = (List.range count).map fun slot =>
      Assignment.assignedSlot plan array.sequence (raw.valid.drop plan.referenceSamples)
        (number slot))
    (numbered : ∀ slot < count, number slot < plan.effectiveSlots) {slot i : Nat}
    (used : slot < count) (inside : i < plan.samplesPerSlot) :
    ∃ z, raw.samples[plan.referenceSamples + (number slot * plan.samplesPerSlot + i)]? = some z ∧
      (timeline plan b)[plan.referenceSamples + (slot * plan.samplesPerSlot + i)]? =
        some ⟨plan.referenceSamples + (slot * plan.samplesPerSlot + i),
          Timeline.switchingTime plan plan.referenceSamples (slot * plan.samplesPerSlot + i),
          Assignment.slotAntenna plan array.sequence (number slot), z⟩ := by
  have reached := Nat.le_trans plan.referenceSamples_le_requiredSamples enough
  have length : b.reference.length = plan.referenceSamples := by
    rw [reference, List.length_take, Nat.min_eq_left reached]
  have uniform : ∀ slot ∈ b.slots, slot.samples.length = plan.samplesPerSlot := by
    intro slot member
    rw [slots] at member
    obtain ⟨place, here, rfl⟩ := List.mem_map.mp member
    exact (slotSamples_get enough (numbered place (List.mem_range.mp here))).1
  have found : b.slots[slot]? = some (Assignment.assignedSlot plan array.sequence
      (raw.valid.drop plan.referenceSamples) (number slot)) := by
    rw [slots, List.getElem?_map, List.getElem?_range used]
    rfl
  obtain ⟨z, taken, sample⟩ := (slotSamples_get enough (numbered slot used)).2 i inside
  have point := timeline_slot_get plan uniform found sample
  rw [length, Nat.mul_comm plan.samplesPerSlot] at point
  exact ⟨z, taken, point⟩

theorem number_eq_place_iff (follows : plan.Follows s) (slot i : Nat) :
    slot * plan.samplesPerSlot + i = plan.place slot i ↔
      plan.regime ≠ .overSampling ∨ slot = 0 := by
  rw [SamplingPlan.place, Nat.add_right_cancel_iff, Nat.mul_left_inj follows.samplesPerSlot_pos.ne']
  unfold SamplingPlan.keptSlot
  split
  · rename_i overSampled
    simp only [overSampled, ne_eq, not_true_eq_false, false_or]
    omega
  · rename_i present
    simp [present]

variable {assigned sampled : SlottedBurst σ}

private theorem timeline_reference_kept (follows : plan.Follows s)
    (enough : plan.requiredSamples ≤ raw.valid.length)
    (assignedTo : raw.AssignedTo plan array assigned) (sampledAs : raw.SampledAs plan array sampled)
    {k : Nat} (inside : k < plan.referenceSamples) :
    ∃ z point, raw.samples[k]? = some z ∧ point.sample = z ∧
      point.time * timeUnit = k * plan.referenceSpacing ∧
      (timeline plan assigned)[k]? = some point ∧ (timeline plan sampled)[k]? = some point := by
  obtain ⟨z, taken, after⟩ := sampledAs.reference_get enough inside
  have before : assigned.reference[k]? = some z := by
    rw [assignedTo.reference, ← sampledAs.reference]
    exact after
  have antenna : sampled.referenceAntenna = assigned.referenceAntenna :=
    sampledAs.referenceAntenna.trans assignedTo.referenceAntenna.symm
  have there := timeline_reference_get plan after
  rw [antenna] at there
  refine ⟨z, ⟨k, Timeline.referenceTime plan k, assigned.referenceAntenna, z⟩, taken, rfl, ?_,
    timeline_reference_get plan before, there⟩
  rw [Timeline.referenceTime, Nat.mul_right_comm, Nat.div_mul_cancel follows.wholeUnits.1.whole,
    Nat.mul_comm]

private theorem timeline_slot_kept (follows : plan.Follows s)
    (enough : plan.requiredSamples ≤ raw.valid.length)
    (assignedTo : raw.AssignedTo plan array assigned) (sampledAs : raw.SampledAs plan array sampled)
    {slot i : Nat} (kept : slot < plan.keptSlots) (inside : i < plan.samplesPerSlot) :
    ∃ z before after, raw.samples[plan.referenceSamples + plan.place slot i]? = some z ∧
      (timeline plan assigned)[plan.referenceSamples + plan.place slot i]? = some before ∧
      (timeline plan sampled)[plan.referenceSamples + (slot * plan.samplesPerSlot + i)]? =
        some after ∧
      before.sample = z ∧ after.sample = z ∧ after.antenna = before.antenna ∧
      before.time * timeUnit = plan.instant (plan.place slot i) ∧
      (after.time = before.time ↔ plan.regime ≠ .overSampling ∨ slot = 0) := by
  obtain ⟨z, taken, before⟩ := timeline_assigned_get enough assignedTo.reference id
    assignedTo.slots (fun _ used => used) (SamplingPlan.keptSlot_lt kept) inside
  obtain ⟨_, same, after⟩ := timeline_assigned_get enough sampledAs.reference _ sampledAs.slots
    (fun _ used => SamplingPlan.keptSlot_lt used) kept inside
  cases taken.symm.trans same
  exact ⟨z, _, _, taken, before, after, rfl, rfl, rfl, Timeline.switchingTime_eq_instant follows _,
    (Timeline.switchingTime_inj follows).trans (number_eq_place_iff follows slot i)⟩

/-- The timeline gives every sample of an assigned burst its instant, but keeps it, when the switch
slots are gone, only for samples in front of the first gap. Without over-sampling there is no gap, and
with it all samples keep their instants exactly if there is no second sampling slot. -/
theorem timeline_keepsInstants_iff {σ : Type} [Inhabited σ] {s : SamplingSettings}
    {plan : SamplingPlan} {array : AntennaArray} (accepted : SamplingPlan.ofSettings s = .ok plan)
    (valid : array.validate = .ok ()) (raw : RawBurst σ)
    (enough : plan.requiredSamples ≤ raw.valid.length) :
    ∃ assigned sampled, raw.assign plan array = .ok assigned ∧
      assigned.removeSwitchSlots = .ok (plan.effectiveSlots - plan.keptSlots, sampled) ∧
      (∀ k < plan.referenceSamples, ∃ z point, raw.samples[k]? = some z ∧ point.sample = z ∧
        point.time * timeUnit = k * plan.referenceSpacing ∧
        (timeline plan assigned)[k]? = some point ∧ (timeline plan sampled)[k]? = some point) ∧
      (∀ slot < plan.keptSlots, ∀ i < plan.samplesPerSlot, ∃ z before after,
        raw.samples[plan.referenceSamples + plan.place slot i]? = some z ∧
        (timeline plan assigned)[plan.referenceSamples + plan.place slot i]? = some before ∧
        (timeline plan sampled)[plan.referenceSamples + (slot * plan.samplesPerSlot + i)]? =
          some after ∧
        before.sample = z ∧ after.sample = z ∧ after.antenna = before.antenna ∧
        before.time * timeUnit = plan.instant (plan.place slot i) ∧
        (after.time = before.time ↔ plan.regime ≠ .overSampling ∨ slot = 0)) ∧
      ((∀ slot < plan.keptSlots, ∀ i < plan.samplesPerSlot,
          (timeline plan sampled)[plan.referenceSamples + (slot * plan.samplesPerSlot + i)]?.map
              TimelinePoint.time =
            (timeline plan assigned)[plan.referenceSamples + plan.place slot i]?.map
              TimelinePoint.time) ↔
        plan.regime ≠ .overSampling ∨ plan.keptSlots ≤ 1) := by
  have follows := SamplingPlan.ofSettings_follows accepted
  have sound := AntennaArray.validate_accepted valid
  obtain ⟨assigned, made, assignedTo⟩ := assign_assignedTo follows sound.nonempty enough
  obtain ⟨_, sampled, again, removed, sampledAs⟩ := assign_removeSwitchSlots follows sound enough
  cases made.symm.trans again
  refine ⟨assigned, sampled, made, removed,
    fun k inside => timeline_reference_kept follows enough assignedTo sampledAs inside,
    fun slot kept i inside => timeline_slot_kept follows enough assignedTo sampledAs kept inside, ?_⟩
  have each (slot : Nat) (kept : slot < plan.keptSlots) (i : Nat) (inside : i < plan.samplesPerSlot) :
      (timeline plan sampled)[plan.referenceSamples + (slot * plan.samplesPerSlot + i)]?.map
          TimelinePoint.time =
        (timeline plan assigned)[plan.referenceSamples + plan.place slot i]?.map
          TimelinePoint.time ↔ plan.regime ≠ .overSampling ∨ slot = 0 := by
    obtain ⟨_, _, _, -, before, after, -, -, -, -, same⟩ :=
      timeline_slot_kept follows enough assignedTo sampledAs kept inside
    rw [before, after, Option.map_some, Option.map_some, Option.some_inj]
    exact same
  constructor
  · intro keeps
    by_cases single : plan.keptSlots ≤ 1
    · exact .inr single
    · have second := (each 1 (by omega) 0 follows.samplesPerSlot_pos).mp
        (keeps 1 (by omega) 0 follows.samplesPerSlot_pos)
      exact second.imp_right fun zero => absurd zero Nat.one_ne_zero
  · intro ends slot kept i inside
    refine (each slot kept i inside).mpr (ends.imp_right fun single => ?_)
    omega

/-- Two switch spacings of 2 µs, each sampled once: no slot goes, and no sample moves. -/
theorem timeline_keepsInstants_default : ∃ plan assigned sampled,
    SamplingPlan.ofSettings { cteUnits := 2 } = .ok plan ∧ ({} : AntennaArray).validate = .ok () ∧
    plan.requiredSamples ≤ (ofSamples 2440 (List.range 10)).valid.length ∧
    (ofSamples 2440 (List.range 10)).assign plan {} = .ok assigned ∧
    assigned.removeSwitchSlots = .ok (0, sampled) ∧
    ∀ slot < plan.keptSlots, ∀ i < plan.samplesPerSlot,
      (timeline plan sampled)[plan.referenceSamples + (slot * plan.samplesPerSlot + i)]?.map
          TimelinePoint.time =
        (timeline plan assigned)[plan.referenceSamples + plan.place slot i]?.map
          TimelinePoint.time := by
  have accepted : SamplingPlan.ofSettings { cteUnits := 2 } =
      .ok ⟨.regular, 4000, 2000, 2000, 1000, 8, 2, 1, 1, 2000⟩ := by cbv
  have valid : ({} : AntennaArray).validate = .ok () := by cbv
  have enough : SamplingPlan.requiredSamples ⟨.regular, 4000, 2000, 2000, 1000, 8, 2, 1, 1, 2000⟩ ≤
      (ofSamples 2440 (List.range 10)).valid.length := by decide
  obtain ⟨assigned, sampled, made, removed, -, -, keeps⟩ :=
    timeline_keepsInstants_iff accepted valid (ofSamples 2440 (List.range 10)) enough
  exact ⟨_, assigned, sampled, accepted, valid, enough, made, removed, keeps.mpr (.inl (by decide))⟩

/-- With a sample every microsecond, the first sample of the second sampling slot was taken 11 µs
after the first reference sample, and is placed at 10 µs once the switch slot in front of it went. -/
theorem timeline_keepsInstants_gap : ∃ plan assigned sampled before after,
    SamplingPlan.ofSettings { cteUnits := 2, sampleSpacing := .us1 } = .ok plan ∧
    ({} : AntennaArray).validate = .ok () ∧
    (ofSamples 2440 (List.range 12)).assign plan {} = .ok assigned ∧
    assigned.removeSwitchSlots = .ok (2, sampled) ∧
    before ∈ timeline plan assigned ∧ after ∈ timeline plan sampled ∧
    before.sample = 10 ∧ after.sample = 10 ∧
    before.time * timeUnit = 11000 ∧ after.time * timeUnit = 10000 := by
  have accepted : SamplingPlan.ofSettings { cteUnits := 2, sampleSpacing := .us1 } =
      .ok ⟨.overSampling, 4000, 2000, 1000, 1000, 8, 4, 1, 1, 2000⟩ := by cbv
  have valid : ({} : AntennaArray).validate = .ok () := by cbv
  exact ⟨_, _, _, ⟨10, 88, ⟨1⟩, 10⟩, ⟨9, 80, ⟨1⟩, 10⟩, accepted, valid, rfl, rfl, by decide,
    by decide, rfl, rfl, rfl, rfl⟩

end RawBurst

end DirectionFinding
