import DirectionFinding.Proofs.Burst.SlotList
import DirectionFinding.Proofs.Report.Timeline
import DirectionFinding.Proofs.Sampling.Tiling

/-!
Order on the timeline. Every sample of a located burst has its line, lines are numbered as they stand,
and each is later than all before it, also where the switching period follows the reference period.
Worked out once more with a check on every count and every instant, the lines come out the same:
nothing on the way outgrows a word of 32 bits.
-/
namespace DirectionFinding

theorem fit_instant {time : Nat} (short : time ≤ 64 + 32 * Limits.recordSamples) :
    fit time = .ok time :=
  fit_eq_ok (Nat.lt_of_le_of_lt short (by decide))

namespace Timeline

variable {σ : Type} {s : SamplingSettings} {plan : SamplingPlan}

private theorem timeAt_succ (follows : plan.Follows s) (referenceSamples place : Nat) :
    timeAt plan referenceSamples place < timeAt plan referenceSamples (place + 1) := by
  obtain ⟨⟨-, reference, -⟩, ⟨-, sample, -⟩, ⟨-, delay, -⟩⟩ := follows.wholeUnits
  unfold timeAt
  by_cases later : place + 1 < referenceSamples
  · rw [if_pos (Nat.lt_of_succ_lt later), if_pos later, referenceTime, referenceTime, Nat.mul_succ]
    omega
  · rw [if_neg later]
    by_cases here : place < referenceSamples
    · -- The border: the last reference sample, and the first sample of the switching period.
      have last : place = referenceSamples - 1 := by omega
      rw [if_pos here, switchingTime, last]
      omega
    · have next : place + 1 - referenceSamples = place - referenceSamples + 1 := by omega
      rw [if_neg here, next, switchingTime, switchingTime, Nat.succ_mul]
      omega

private theorem timeAt_lt (follows : plan.Follows s) (referenceSamples : Nat) {earlier later : Nat}
    (before : earlier < later) :
    timeAt plan referenceSamples earlier < timeAt plan referenceSamples later := by
  induction before with
  | refl => exact timeAt_succ follows referenceSamples earlier
  | step _ ih => exact Nat.lt_trans ih (timeAt_succ follows referenceSamples _)

section words

/-! The lines of a report once more, with every count and every instant held in a word. -/

def referencePointInWords (plan : SamplingPlan) (antenna : Antenna) (i : Nat) (sample : σ) :
    Located (TimelinePoint σ) := do
  let place ← fit i
  let time ← fit (plan.referenceSpacing / timeUnit * place)
  return ⟨i, time, antenna, sample⟩

def delayInWords (plan : SamplingPlan) (referenceSamples : Nat) : Located Nat := do
  let last ← fit (referenceSamples - 1)
  let time ← fit (plan.referenceSpacing / timeUnit * last)
  fit (plan.firstSampleDelay / timeUnit + time)

def switchingPointInWords (plan : SamplingPlan) (referenceSamples delay length place : Nat)
    (antenna : Antenna) (i : Nat) (sample : σ) : Located (TimelinePoint σ) := do
  let before ← fit (length * place)
  let offset ← fit (before + i)
  let index ← fit (referenceSamples + offset)
  let ahead ← fit (offset * (plan.sampleSpacing / timeUnit))
  let time ← fit (delay + ahead)
  return ⟨index, time, antenna, sample⟩

def slotPointsInWords (plan : SamplingPlan) (referenceSamples delay place : Nat) (slot : Slot σ) :
    Located (List (TimelinePoint σ)) :=
  slot.samples.zipIdx.mapM fun (sample, i) =>
    switchingPointInWords plan referenceSamples delay slot.samples.length place slot.antenna i sample

end words

private theorem referencePointInWords_eq (follows : plan.Follows s) (antenna : Antenna) {i : Nat}
    (short : i < Limits.recordSamples) (sample : σ) :
    referencePointInWords plan antenna i sample = .ok ⟨i, referenceTime plan i, antenna, sample⟩ := by
  have most := referenceTime_le follows i
  have place : fit i = .ok i := fit_instant (by omega)
  have time : fit (plan.referenceSpacing / timeUnit * i) = .ok (referenceTime plan i) :=
    fit_instant (Nat.le_trans most (by omega))
  simp only [referencePointInWords, place, time, Located.ok_bind]
  rfl

private theorem delayInWords_eq (follows : plan.Follows s) {referenceSamples : Nat}
    (short : referenceSamples ≤ Limits.recordSamples) :
    delayInWords plan referenceSamples = .ok (switchingTime plan referenceSamples 0) := by
  obtain ⟨-, -, ⟨-, -, first⟩⟩ := follows.wholeUnits
  have most := referenceTime_le follows (referenceSamples - 1)
  have last : fit (referenceSamples - 1) = .ok (referenceSamples - 1) := fit_instant (by omega)
  have time : fit (plan.referenceSpacing / timeUnit * (referenceSamples - 1)) =
      .ok (referenceTime plan (referenceSamples - 1)) :=
    fit_instant (Nat.le_trans most (by omega))
  have delay : fit
      (plan.firstSampleDelay / timeUnit + referenceTime plan (referenceSamples - 1)) =
      .ok (plan.firstSampleDelay / timeUnit + referenceTime plan (referenceSamples - 1)) :=
    fit_instant (by omega)
  simp only [delayInWords, last, time, delay, Located.ok_bind, switchingTime, Nat.zero_mul,
    Nat.add_zero]

private theorem switchingPointInWords_eq (follows : plan.Follows s)
    {referenceSamples length place i : Nat}
    (short : referenceSamples + (length * place + i) < Limits.recordSamples) (antenna : Antenna)
    (sample : σ) :
    switchingPointInWords plan referenceSamples (switchingTime plan referenceSamples 0) length place
        antenna i sample =
      .ok ⟨referenceSamples + (length * place + i),
        switchingTime plan referenceSamples (length * place + i), antenna, sample⟩ := by
  have most := switchingTime_le follows referenceSamples (length * place + i)
  have sum : switchingTime plan referenceSamples 0 +
      (length * place + i) * (plan.sampleSpacing / timeUnit) =
      switchingTime plan referenceSamples (length * place + i) := by
    rw [switchingTime, switchingTime, Nat.zero_mul, Nat.add_zero]
  have before : fit (length * place) = .ok (length * place) := fit_instant (by omega)
  have offset : fit (length * place + i) = .ok (length * place + i) := fit_instant (by omega)
  have index : fit (referenceSamples + (length * place + i)) =
      .ok (referenceSamples + (length * place + i)) := fit_instant (by omega)
  have ahead : fit ((length * place + i) * (plan.sampleSpacing / timeUnit)) =
      .ok ((length * place + i) * (plan.sampleSpacing / timeUnit)) := fit_instant (by omega)
  have time : fit (switchingTime plan referenceSamples (length * place + i)) =
      .ok (switchingTime plan referenceSamples (length * place + i)) := fit_instant (by omega)
  simp only [switchingPointInWords, before, offset, index, ahead, sum, time, Located.ok_bind]
  rfl

end Timeline

/-- The timeline in words; the room for the lines is counted first. -/
def timelineInWords {σ : Type} (plan : SamplingPlan) (b : SlottedBurst σ) :
    Located (List (TimelinePoint σ)) := do
  let switching ← fit b.switchingSamples
  let _ ← fit (b.reference.length + switching)
  let reference ← b.reference.zipIdx.mapM fun (sample, i) =>
    Timeline.referencePointInWords plan b.referenceAntenna i sample
  let delay ← Timeline.delayInWords plan b.reference.length
  let slots ← b.slots.zipIdx.mapM fun (slot, place) =>
    Timeline.slotPointsInWords plan b.reference.length delay place slot
  return reference ++ slots.flatten

private theorem zipIdx_mapM_eq_ok {α β : Type} {f : α × Nat → Located β} {g : Nat → α → β}
    {xs : List α} (answers : ∀ i x, xs[i]? = some x → f (x, i) = .ok (g i x)) :
    xs.zipIdx.mapM f = .ok (xs.mapIdx g) := by
  rw [List.mapIdx_eq_zipIdx_map]
  apply mapM_eq_ok
  rintro ⟨x, i⟩ member
  exact answers i x (List.mk_mem_zipIdx_iff_getElem?.mp member)

namespace SlottedBurst.Fills

variable {σ : Type} {b : SlottedBurst σ} {s : SamplingSettings} {plan : SamplingPlan}

theorem place_lt (fills : b.Fills plan) (follows : plan.Follows s) {place i : Nat} {slot : Slot σ}
    (used : place < b.slots.length) (length : slot.samples.length = plan.samplesPerSlot)
    (inside : i < slot.samples.length) :
    b.reference.length + (slot.samples.length * place + i) < Limits.recordSamples := by
  have short := fills.length_captured_le follows
  rw [fills.length_captured, ← fills.reference] at short
  rw [length] at inside ⊢
  have rows : plan.samplesPerSlot * (place + 1) ≤ b.slots.length * plan.samplesPerSlot := by
    rw [Nat.mul_comm plan.samplesPerSlot]
    exact Nat.mul_le_mul_right _ used
  rw [Nat.mul_succ] at rows
  omega

private theorem switchingSamples_le (fills : b.Fills plan) (follows : plan.Follows s) :
    b.reference.length + b.switchingSamples ≤ Limits.recordSamples := by
  have short := fills.length_captured_le follows
  have counted : b.switchingSamples = (b.slots.flatMap fun slot =>
      slot.samples.map (slot.antenna, ·)).length := by
    simp only [fills.stored.switchingSamples_eq, length_flatMap_total, List.length_map]
  rwa [captured, List.length_append, List.length_map, ← counted] at short

private theorem timelineInWords_eq (fills : b.Fills plan) (follows : plan.Follows s) :
    timelineInWords plan b = .ok (timeline plan b) := by
  have short := fills.switchingSamples_le follows
  have switching : fit b.switchingSamples = .ok b.switchingSamples := fit_instant (by omega)
  have room : fit (b.reference.length + b.switchingSamples) =
      .ok (b.reference.length + b.switchingSamples) :=
    fit_instant (by omega)
  have reached : b.reference.length ≤ Limits.recordSamples := by omega
  have reference : (b.reference.zipIdx.mapM fun (sample, i) =>
      Timeline.referencePointInWords plan b.referenceAntenna i sample) =
      .ok (Timeline.referencePoints plan b) := by
    apply zipIdx_mapM_eq_ok
    intro i sample found
    obtain ⟨inside, -⟩ := List.getElem?_eq_some_iff.mp found
    exact Timeline.referencePointInWords_eq follows _ (Nat.lt_of_lt_of_le inside reached) sample
  have slots : (b.slots.zipIdx.mapM fun (slot, place) =>
      Timeline.slotPointsInWords plan b.reference.length
        (Timeline.switchingTime plan b.reference.length 0) place slot) =
      .ok (b.slots.mapIdx (Timeline.slotPoints plan b.reference.length)) := by
    apply zipIdx_mapM_eq_ok
    intro place slot present
    obtain ⟨used, -⟩ := List.getElem?_eq_some_iff.mp present
    apply zipIdx_mapM_eq_ok
    intro i sample found
    obtain ⟨inside, -⟩ := List.getElem?_eq_some_iff.mp found
    exact Timeline.switchingPointInWords_eq follows
      (fills.place_lt follows used (fills.samples slot (List.mem_of_getElem? present)) inside) _ _
  simp only [timelineInWords, switching, room, reference, Timeline.delayInWords_eq follows reached,
    slots, Located.ok_bind]
  rfl

private theorem timeline_pairwise (fills : b.Fills plan) (follows : plan.Follows s) :
    (timeline plan b).Pairwise fun earlier later => earlier.time < later.time := by
  rw [timeline_eq_mapIdx plan fills.samples, List.pairwise_iff_getElem]
  intro i j _ _ before
  rw [List.getElem_mapIdx, List.getElem_mapIdx]
  exact Timeline.timeAt_lt follows b.reference.length before

end SlottedBurst.Fills

namespace Locator

/-- The timeline of a located burst holds every sample once, in the order in which they were taken:
line after line the number grows by one, and the time grows. Nothing on the way to it overflows. -/
theorem locate_timeline [Trigonometry] {l : Locator} {sampling : SamplingSettings}
    {array : AntennaArray} {pairs : AnglePairs} (accepted : ofSettings sampling array pairs = .ok l)
    {raw : RawBurst Phasor} {track : Track Phasor} {report : Report}
    (located : (l.locate raw track).1 = .ok report) :
    let points := timeline report.plan report.burst
    points.length = report.plan.referenceSamples +
        report.burst.length * report.plan.samplesPerSlot ∧
      (∀ (i : Nat) (point : TimelinePoint Phasor), points[i]? = some point → point.index = i) ∧
      points.map (fun point => (point.antenna, point.sample)) =
        report.burst.reference.map (report.burst.referenceAntenna, ·) ++
          report.burst.slots.flatMap (fun slot => slot.samples.map (slot.antenna, ·)) ∧
      points.Pairwise (fun earlier later => earlier.time < later.time) ∧
      timelineInWords report.plan report.burst = .ok points := by
  obtain ⟨follows, fills⟩ := locate_fills accepted located
  have lines := timeline_eq_mapIdx report.plan fills.samples
  refine ⟨?_, ?_, ?_, fills.timeline_pairwise follows, fills.timelineInWords_eq follows⟩
  · rw [lines, List.length_mapIdx, fills.length_captured, fills.stored.slots_length]
  · intro i point found
    rw [lines, List.getElem?_mapIdx] at found
    obtain ⟨sample, -, rfl⟩ := Option.map_eq_some_iff.mp found
    rfl
  · rw [lines]
    apply List.ext_getElem?
    intro i
    rw [List.getElem?_map, List.getElem?_mapIdx, Option.map_map]
    exact Option.map_id_apply

/-- A switching period of 4 µs over-sampled at 500 ns: two slots of two samples are left behind eight
reference samples. -/
theorem locate_timeline_overSampling :
    let _ : Trigonometry := ⟨fun _ => 0, fun _ => 1, fun _ => pi / 2, fun _ _ => 0, fun _ _ => 1⟩
    let l : Locator := ⟨{ cteUnits := 2, sampleSpacing := .ns500 }, {},
      ⟨.overSampling, 4000, 2000, 500, 1000, 8, 4, 2, 1, 2000⟩, {}⟩
    let located := (l.locate (.ofSamples 2440 (List.replicate 16 (.ofParts 1 0)))
      ⟨.none, .none, .none, 0⟩).1
    ofSettings { cteUnits := 2, sampleSpacing := .ns500 } {} {} = .ok l ∧ located.isOk = true ∧
      ∀ report, located = .ok report →
        (timeline report.plan report.burst).length =
          report.plan.referenceSamples + report.burst.length * report.plan.samplesPerSlot ∧
        (timeline report.plan report.burst).Pairwise fun earlier later => earlier.time < later.time := by
  intro level l located
  have succeeds : located.isOk = true := by decide +kernel +revert
  have accepted : ofSettings { cteUnits := 2, sampleSpacing := .ns500 } {} {} = .ok l := rfl
  refine ⟨accepted, succeeds, fun report answer => ?_⟩
  obtain ⟨length, -, -, ordered, -⟩ := locate_timeline accepted answer
  exact ⟨length, ordered⟩

end Locator

end DirectionFinding
