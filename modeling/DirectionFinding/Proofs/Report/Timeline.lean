import DirectionFinding.Proofs.Measurement
import DirectionFinding.Report.Timeline

/-!
The timeline of a burst whose slots are of one length: its samples in the order in which they were
taken, each with its place and the time of that place. A burst is as long as its plan says, and plans
are bounded by the buffers and the longest spacings, so every instant of a report fits the clock of a
report file.
-/
namespace DirectionFinding

theorem flatten_mapIdx_uniform {α β : Type} {xss : List (List α)} {n : Nat}
    (uniform : ∀ xs ∈ xss, xs.length = n) (f : Nat → α → β) :
    (xss.mapIdx fun j xs => xs.mapIdx fun i => f (n * j + i)).flatten = xss.flatten.mapIdx f := by
  induction xss generalizing f with
  | nil => rfl
  | cons first rest ih =>
    have later := ih (fun xs member => uniform xs (List.mem_cons_of_mem _ member)) fun i => f (i + n)
    have shift (j i : Nat) : n * j + i + n = n * (j + 1) + i := by
      rw [Nat.mul_succ]
      omega
    simp only [shift] at later
    rw [List.mapIdx_cons, List.flatten_cons, List.flatten_cons, List.mapIdx_append, later,
      uniform first List.mem_cons_self]
    simp only [Nat.mul_zero, Nat.zero_add]

/-- A whole number of time units, at least one and at most `most`. -/
structure WholeUnits (nanoseconds most : Nat) : Prop where
  whole : timeUnit ∣ nanoseconds
  positive : 0 < nanoseconds / timeUnit
  le_most : nanoseconds / timeUnit ≤ most

theorem SampleSpacing.wholeUnits (spacing : SampleSpacing) : WholeUnits spacing.nanoseconds 32 := by
  cases spacing <;> exact ⟨by decide, by decide, by decide⟩

private theorem SamplingSettings.wholeUnits_firstSampleDelay (s : SamplingSettings) :
    WholeUnits s.firstSampleDelay 64 := by
  rw [firstSampleDelay]
  cases s.switchSpacing <;> cases s.referenceSpacing <;> exact ⟨by decide, by decide, by decide⟩

namespace SamplingPlan.Follows

variable {s : SamplingSettings} {p : SamplingPlan}

theorem wholeUnits (follows : p.Follows s) :
    WholeUnits p.referenceSpacing 32 ∧ WholeUnits p.sampleSpacing 32 ∧
      WholeUnits p.firstSampleDelay 64 := by
  rw [follows.referenceSpacing, follows.sampleSpacing, follows.firstSampleDelay]
  exact ⟨s.referenceSpacing.wholeUnits, s.sampleSpacing.wholeUnits, s.wholeUnits_firstSampleDelay⟩

end SamplingPlan.Follows

namespace SlottedBurst

variable {σ : Type}

def captured (b : SlottedBurst σ) : List (Antenna × σ) :=
  b.reference.map (b.referenceAntenna, ·) ++
    b.slots.flatMap fun slot => slot.samples.map (slot.antenna, ·)

structure Fills (b : SlottedBurst σ) (plan : SamplingPlan) : Prop where
  stored : b.Stored
  reference : b.reference.length = plan.referenceSamples
  slots : b.slots.length ≤ plan.effectiveSlots
  samples : ∀ slot ∈ b.slots, slot.samples.length = plan.samplesPerSlot

variable {b : SlottedBurst σ} {s : SamplingSettings} {plan : SamplingPlan}

theorem Fills.length_captured (fills : b.Fills plan) :
    b.captured.length = plan.referenceSamples + b.slots.length * plan.samplesPerSlot := by
  have each : b.slots.map (fun slot => (slot.samples.map (slot.antenna, ·)).length) =
      List.replicate b.slots.length plan.samplesPerSlot := by
    rw [List.eq_replicate_iff, List.length_map]
    refine ⟨rfl, fun count member => ?_⟩
    obtain ⟨slot, present, rfl⟩ := List.mem_map.mp member
    rw [List.length_map, fills.samples slot present]
  rw [captured, List.length_append, List.length_map, fills.reference, List.length_flatMap, each,
    List.sum_replicate_nat]

theorem Fills.length_captured_le (fills : b.Fills plan) (follows : plan.Follows s) :
    b.captured.length ≤ Limits.recordSamples := by
  rw [fills.length_captured]
  exact Nat.le_trans (Nat.add_le_add_left (Nat.mul_le_mul_right _ fills.slots) _)
    follows.requiredSamples_le

end SlottedBurst

namespace Timeline

variable {σ : Type} {s : SamplingSettings} {plan : SamplingPlan}

def timeAt (plan : SamplingPlan) (referenceSamples place : Nat) : Nat :=
  if place < referenceSamples then referenceTime plan place
  else switchingTime plan referenceSamples (place - referenceSamples)

def pointAt (plan : SamplingPlan) (referenceSamples place : Nat) (sample : Antenna × σ) :
    TimelinePoint σ :=
  ⟨place, timeAt plan referenceSamples place, sample.1, sample.2⟩

private theorem referencePoints_eq (plan : SamplingPlan) (b : SlottedBurst σ) :
    referencePoints plan b =
      (b.reference.map (b.referenceAntenna, ·)).mapIdx (pointAt plan b.reference.length) := by
  apply List.ext_getElem
  · simp [referencePoints]
  · intro i inside _
    rw [referencePoints, List.length_mapIdx] at inside
    simp [referencePoints, pointAt, timeAt, inside]

private theorem slotPoints_eq (plan : SamplingPlan) (referenceSamples place : Nat) (slot : Slot σ) :
    slotPoints plan referenceSamples place slot =
      (slot.samples.map (slot.antenna, ·)).mapIdx fun i =>
        pointAt plan referenceSamples (slot.samples.length * place + i + referenceSamples) := by
  apply List.ext_getElem
  · simp [slotPoints]
  · intro i _ _
    have behind (offset : Nat) : ¬ offset + referenceSamples < referenceSamples :=
      Nat.not_lt.mpr (Nat.le_add_left _ _)
    simp only [slotPoints, List.getElem_mapIdx, List.getElem_map, pointAt, timeAt, if_neg (behind _),
      Nat.add_sub_cancel, Nat.add_comm referenceSamples]

theorem referenceTime_le (follows : plan.Follows s) (i : Nat) : referenceTime plan i ≤ 32 * i :=
  Nat.mul_le_mul_right i follows.wholeUnits.1.le_most

theorem switchingTime_le (follows : plan.Follows s) (referenceSamples offset : Nat) :
    switchingTime plan referenceSamples offset ≤ 64 + 32 * referenceSamples + 32 * offset := by
  obtain ⟨-, sample, delay⟩ := follows.wholeUnits
  have first := delay.le_most
  have reference := referenceTime_le follows (referenceSamples - 1)
  have steps := Nat.mul_le_mul_left offset sample.le_most
  rw [switchingTime]
  omega

private theorem timeAt_le (follows : plan.Follows s) (referenceSamples place : Nat) :
    timeAt plan referenceSamples place ≤ 64 + 32 * place := by
  unfold timeAt
  split
  · have reference := referenceTime_le follows place
    omega
  · have switching := switchingTime_le follows referenceSamples (place - referenceSamples)
    omega

end Timeline

theorem timeline_eq_mapIdx {σ : Type} (plan : SamplingPlan) {b : SlottedBurst σ} {n : Nat}
    (uniform : ∀ slot ∈ b.slots, slot.samples.length = n) :
    timeline plan b = b.captured.mapIdx (Timeline.pointAt plan b.reference.length) := by
  have tagged : b.slots.mapIdx (Timeline.slotPoints plan b.reference.length) =
      (b.slots.map fun slot => slot.samples.map (slot.antenna, ·)).mapIdx fun place xs =>
        xs.mapIdx fun i => Timeline.pointAt plan b.reference.length
          (n * place + i + b.reference.length) := by
    apply List.ext_getElem
    · simp
    · intro place inside _
      rw [List.length_mapIdx] at inside
      simp [Timeline.slotPoints_eq, uniform _ (List.getElem_mem inside)]
  have lengths : ∀ xs ∈ b.slots.map fun slot => slot.samples.map (slot.antenna, ·),
      xs.length = n := by
    intro xs member
    obtain ⟨slot, present, rfl⟩ := List.mem_map.mp member
    rw [List.length_map, uniform slot present]
  rw [timeline, Timeline.referencePoints_eq, tagged, flatten_mapIdx_uniform lengths fun i =>
      Timeline.pointAt plan b.reference.length (i + b.reference.length),
    SlottedBurst.captured, List.mapIdx_append, List.length_map, List.flatMap_def]

theorem SlottedBurst.Fills.time_lt {σ : Type} {b : SlottedBurst σ} {s : SamplingSettings}
    {plan : SamplingPlan} (fills : b.Fills plan) (follows : plan.Follows s) {point : TimelinePoint σ}
    (member : point ∈ timeline plan b) : point.time < Limits.clock := by
  rw [timeline_eq_mapIdx plan fills.samples] at member
  obtain ⟨place, inside, rfl⟩ := List.mem_mapIdx.mp member
  have short := fills.length_captured_le follows
  calc Timeline.timeAt plan b.reference.length place ≤ 64 + 32 * place :=
        Timeline.timeAt_le follows _ _
    _ ≤ 64 + 32 * Limits.recordSamples := by omega
    _ < Limits.clock := by decide

namespace Locator

variable [Trigonometry] {l : Locator} {sampling : SamplingSettings} {array : AntennaArray}
  {pairs : AnglePairs}

theorem locate_fills (accepted : ofSettings sampling array pairs = .ok l) {raw : RawBurst Phasor}
    {track : Track Phasor} {report : Report} (located : (l.locate raw track).1 = .ok report) :
    report.plan.Follows sampling ∧ report.burst.Fills report.plan := by
  obtain ⟨plan, rfl, planned, valid, -⟩ := ofSettings_ok accepted
  have follows := SamplingPlan.ofSettings_follows planned
  obtain ⟨_, corrected, -, same⟩ := locate_estimated located
  obtain ⟨drift, turned⟩ := correct_turned follows (AntennaArray.validate_accepted valid) corrected
  rw [same]
  refine ⟨follows, turned.stored, turned.reference_length, ?_, fun slot member => ?_⟩
  · rw [turned.slots_length]
    exact plan.keptSlots_le
  · obtain ⟨place, kept, found⟩ := turned.slot_of_mem member
    obtain ⟨_, there, -, length, -⟩ := turned.slots place kept
    cases found.symm.trans there
    exact length

theorem locate_requireClock (accepted : ofSettings sampling array pairs = .ok l)
    {raw : RawBurst Phasor} {track : Track Phasor} {report : Report}
    (located : (l.locate raw track).1 = .ok report) : report.requireClock = .ok () := by
  obtain ⟨follows, fills⟩ := locate_fills accepted located
  exact forM_eq_ok fun point member => if_pos (fills.time_lt follows member)

theorem locateAll_requireClock (accepted : ofSettings sampling array pairs = .ok l)
    (track : Track Phasor) (bursts : List (RawBurst Phasor)) {report : Report}
    (member : .ok report ∈ (l.locateAll track bursts).1) : report.requireClock = .ok () := by
  induction bursts generalizing track with
  | nil => cases member
  | cons raw rest ih =>
    rcases List.mem_cons.mp member with located | later
    · exact locate_requireClock accepted located.symm
    · exact ih _ later

end Locator

end DirectionFinding
