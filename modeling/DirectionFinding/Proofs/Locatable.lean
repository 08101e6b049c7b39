import DirectionFinding.Proofs.AngleEstimate
import DirectionFinding.Proofs.Burst.Visits
import DirectionFinding.Proofs.Measurement

/-!
Settings under which a burst can be located. Every part of the settings is checked by itself, and
whether the slots that are left reach the antennas of the pairs is not; if they do not, every burst
fails. If they do, a pilot that shows each antenna once is located.
-/
namespace DirectionFinding

section
variable [Trigonometry]

private theorem estimateDrift_replicate (exact : Trigonometry.ExactAtZero) {count : Nat}
    (two : 2 ≤ count)
    (small : count ≤ Limits.referenceSamples) : estimateDrift (List.replicate count 1) = .ok 0 := by
  have usable : (1 : Phasor).isUsable = true := rfl
  have level : (1 / 1 : Phasor).arg = 0 := exact.atan2
  have sums (n : Nat) : sumTurns 0 (List.replicate n (1, 1)) = .ok 0 := by
    induction n with
    | zero => rfl
    | succ n ih =>
      have still : (0 : Float32) + 0 = 0 := rfl
      rw [List.replicate_succ, sumTurns, if_pos usable, level, still]
      exact ih
  have pairs : neighbours (List.replicate count (1 : Phasor)) =
      List.replicate (count - 1) (1, 1) := by
    rw [neighbours, List.tail_replicate, List.zip_replicate, Nat.min_eq_right (by omega)]
  have whole : 0 < Float32.ofNat (count - 1) := by
    simp only [Limits.referenceSamples] at small
    exact Binary32.ofNat_pos (by omega)
  have finite : Float32.isFinite 0 = true := rfl
  simp only [estimateDrift, List.length_replicate, if_neg (Nat.not_lt.mpr two), pairs, sums,
    Located.ok_bind, Binary32.zero_div whole, finite]
  rfl

private theorem turn_zero (exact : Trigonometry.ExactAtZero) {delay : Nat} (small : delay < 2 ^ 23)
    {z : Phasor} (whole : z = 0 ∨ z = 1) : turn 0 delay z = z := by
  have still : Phasor.unit (0 * Float32.ofNat delay) = 1 := by
    rw [Binary32.zero_mul_ofNat small, Phasor.unit, exact.cos, exact.sin]
    rfl
  rw [turn, still]
  rcases whole with rfl | rfl <;> rfl

end

namespace SamplingPlan

open Assignment (slotAntenna)

variable {p : SamplingPlan} {s : SamplingSettings} {array : AntennaArray}

def pilotSample (p : SamplingPlan) (sequence : List Antenna) (place : Nat) : Phasor :=
  let slot := place / p.samplesPerSlot
  if place % p.samplesPerSlot = 0 ∧
      ∀ earlier < slot, slotAntenna p sequence earlier ≠ slotAntenna p sequence slot then 1
  else 0

/-- A burst without drift that shows each antenna once. -/
def pilot (p : SamplingPlan) (sequence : List Antenna) : RawBurst Phasor :=
  .ofSamples 2440 (List.replicate p.referenceSamples 1 ++
    (List.range (p.effectiveSlots * p.samplesPerSlot)).map (p.pilotSample sequence))

private theorem pilotSample_whole (p : SamplingPlan) (sequence : List Antenna) (place : Nat) :
    p.pilotSample sequence place = 0 ∨ p.pilotSample sequence place = 1 := by
  unfold pilotSample
  dsimp only
  split
  · exact .inr rfl
  · exact .inl rfl

private theorem pilotSample_later {slot i : Nat} (inside : i < p.samplesPerSlot) (later : i ≠ 0) :
    p.pilotSample array.sequence (p.place slot i) = 0 := by
  have offset : p.place slot i % p.samplesPerSlot = i := Nat.mul_add_mod_of_lt inside
  unfold pilotSample
  rw [offset]
  exact if_neg fun first => later first.1

theorem pilotSample_first (samples : 0 < p.samplesPerSlot) (accepted : array.Accepted)
    (slot : Nat) :
    p.pilotSample array.sequence (p.place slot 0) =
      if ∃ earlier < slot, slotAntenna p array.sequence (p.keptSlot earlier) =
        slotAntenna p array.sequence (p.keptSlot slot) then 0 else 1 := by
  have offset : p.place slot 0 % p.samplesPerSlot = 0 := Nat.mul_add_mod_of_lt samples
  have number : p.place slot 0 / p.samplesPerSlot = p.keptSlot slot := by
    rw [place, Nat.add_zero, Nat.mul_div_cancel _ samples]
  simp only [pilotSample, offset, number, true_and]
  split
  · rename_i first
    rw [if_neg]
    rintro ⟨earlier, before, same⟩
    exact first _ (Assignment.keptSlot_lt_iff.mpr before) same
  · rename_i again
    rw [if_pos]
    push Not at again
    obtain ⟨earlier, before, same⟩ := again
    -- A slot with a real antenna is no switch slot, so it is one of those that are left.
    have real : (slotAntenna p array.sequence earlier).isValid = !_ :=
      RawBurst.slotAntenna_isValid accepted earlier
    rw [same, RawBurst.slotAntenna_isValid accepted, Assignment.keptSlot_sampling] at real
    obtain ⟨kept, rfl⟩ := Assignment.exists_keptSlot (Bool.not_inj real.symm)
    exact ⟨kept, Assignment.keptSlot_lt_iff.mp before, same⟩

private theorem pilot_valid (follows : p.Follows s) (sequence : List Antenna) :
    (p.pilot sequence).valid = List.replicate p.referenceSamples 1 ++
      (List.range (p.effectiveSlots * p.samplesPerSlot)).map (p.pilotSample sequence) := by
  apply RawBurst.valid_ofSamples
  have countable : p.requiredSamples < UInt32.size :=
    Nat.lt_of_le_of_lt follows.requiredSamples_le (by decide)
  simpa [requiredSamples] using countable

private theorem pilot_get {place : Nat} (inside : place < p.effectiveSlots * p.samplesPerSlot)
    (sequence : List Antenna) :
    (p.pilot sequence).samples[p.referenceSamples + place]? =
      some (p.pilotSample sequence place) := by
  rw [pilot, RawBurst.ofSamples, List.getElem?_append_right (by simp)]
  simp [inside]

private theorem delayOf_lt (follows : p.Follows s) {slot i : Nat} (kept : slot < p.keptSlots)
    (inside : i < p.samplesPerSlot) :
    SlottedBurst.delayOf p.referenceSamples p.samplesPerSlot slot i < 2 ^ 23 := by
  have reference := follows.referenceSamples_le
  have samples := follows.samplesPerSlot_le
  have rows := Nat.le_trans p.keptSlots_le follows.effectiveSlots_le
  have stride : slot * (p.samplesPerSlot * 2) ≤ Limits.slots * (Limits.samplesPerSlot * 2) :=
    Nat.mul_le_mul (by omega) (Nat.mul_le_mul_right 2 samples)
  simp only [SlottedBurst.delayOf, Limits.referenceSamples, Limits.samplesPerSlot,
    Limits.slots] at *
  omega

private theorem laneSum_pilot {z : Phasor} (whole : z = 0 ∨ z = 1) (count : Nat) :
    laneSum (z :: List.replicate count 0) = z := by
  rcases whole with rfl | rfl
  · exact laneSum_first rfl rfl rfl count
  · exact laneSum_first rfl rfl rfl count

section
variable [Trigonometry] {burst : SlottedBurst Phasor}

private theorem pilot_slot (exact : Trigonometry.ExactAtZero) (follows : p.Follows s)
    (turned : (p.pilot array.sequence).TurnedAs p array (turn 0) burst) {slot : Nat}
    (kept : slot < p.keptSlots) :
    burst.slots[slot]? = some ⟨slotAntenna p array.sequence (p.keptSlot slot),
      p.pilotSample array.sequence (p.place slot 0) :: List.replicate (p.samplesPerSlot - 1) 0⟩ := by
  obtain ⟨⟨antenna, samples⟩, found, rfl, length, places⟩ := turned.slots slot kept
  have filled := follows.samplesPerSlot_pos
  dsimp only at length
  rw [found]
  congr 2
  apply List.ext_getElem?
  intro i
  by_cases inside : i < p.samplesPerSlot
  · obtain ⟨z, sent, received⟩ := places i inside
    rw [pilot_get (place_lt kept inside)] at sent
    cases sent
    rw [received, turn_zero exact (delayOf_lt follows kept inside) (pilotSample_whole _ _ _)]
    cases i with
    | zero => rfl
    | succ i =>
      rw [pilotSample_later inside (by omega), List.getElem?_cons_succ,
        List.getElem?_replicate_of_lt (by omega)]
  · rw [List.getElem?_eq_none (by omega), List.getElem?_eq_none]
    rw [List.length_cons, List.length_replicate]
    omega

/-- The slots of the pilot sum to one on each antenna that they reach, and to zero on all others. -/
theorem pilot_sum (exact : Trigonometry.ExactAtZero) (follows : p.Follows s)
    (accepted : array.Accepted)
    (turned : (p.pilot array.sequence).TurnedAs p array (turn 0) burst) (antenna : Antenna)
    {count : Nat} (inside : count ≤ p.keptSlots) :
    antennaSum (burst.slots.take count) antenna =
      if ∃ slot < count, slotAntenna p array.sequence (p.keptSlot slot) = antenna then 1 else 0 := by
  induction count with
  | zero => simp [antennaSum]
  | succ count ih =>
    have earlier := ih (by omega)
    have first := pilotSample_first follows.samplesPerSlot_pos accepted count
    rw [List.take_add_one, pilot_slot exact follows turned (by omega), Option.toList_some,
      antennaSum_concat, earlier, laneSum_pilot (pilotSample_whole _ _ _), first]
    by_cases here : slotAntenna p array.sequence (p.keptSlot count) = antenna
    · have visited : ∃ slot < count + 1, slotAntenna p array.sequence (p.keptSlot slot) = antenna :=
        ⟨count, by omega, here⟩
      rw [if_pos here, here, if_pos visited]
      split <;> rfl
    · rw [if_neg here]
      congr 1
      apply propext
      constructor
      · rintro ⟨slot, before, same⟩
        exact ⟨slot, by omega, same⟩
      · rintro ⟨slot, before, same⟩
        have other : slot ≠ count := fun last => here (last ▸ same)
        exact ⟨slot, by omega, same⟩

end

end SamplingPlan

namespace Locator

section
variable [Trigonometry] {l : Locator} {sampling : SamplingSettings} {array : AntennaArray}
  {pairs : AnglePairs}

private theorem visits_of_located (accepted : ofSettings sampling array pairs = .ok l)
    {raw : RawBurst Phasor} {track : Track Phasor} {report : Report}
    (located : (l.locate raw track).1 = .ok report) :
    ∀ pair ∈ pairs.all,
      l.plan.Visits array.sequence pair.a ∧ l.plan.Visits array.sequence pair.b := by
  obtain ⟨plan, rfl, planned, valid, -⟩ := ofSettings_ok accepted
  have follows := SamplingPlan.ofSettings_follows planned
  have sound := AntennaArray.validate_accepted valid
  obtain ⟨_, corrected, estimated, -⟩ := locate_estimated located
  obtain ⟨drift, turned⟩ := correct_turned follows sound corrected
  have visited {antenna : Antenna} (heard : ∃ slot ∈ report.burst.slots, slot.antenna = antenna) :
      plan.Visits array.sequence antenna := by
    obtain ⟨left, member, rfl⟩ := heard
    obtain ⟨slot, kept, found⟩ := turned.slot_of_mem member
    obtain ⟨_, there, same, -⟩ := turned.slots slot kept
    cases found.symm.trans there
    rw [Assignment.visits_iff (List.length_pos_iff.mpr sound.nonempty)]
    exact ⟨slot, kept, same.symm⟩
  intro pair member
  obtain ⟨first, second⟩ := estimateAngles_hears estimated pair member
  exact ⟨visited first, visited second⟩

private theorem locate_pilot (exact : Trigonometry.ExactAtZero)
    (accepted : ofSettings sampling array pairs = .ok l)
    (visited : ∀ pair ∈ pairs.all,
      l.plan.Visits array.sequence pair.a ∧ l.plan.Visits array.sequence pair.b)
    (track : Track Phasor) :
    ∃ report next, l.locate (l.plan.pilot array.sequence) track = (.ok report, next) := by
  obtain ⟨plan, rfl, planned, valid, distinct⟩ := ofSettings_ok accepted
  have follows := SamplingPlan.ofSettings_follows planned
  have sound := AntennaArray.validate_accepted valid
  have sent := SamplingPlan.pilot_valid follows array.sequence
  have enough : plan.requiredSamples ≤ (plan.pilot array.sequence).valid.length := by
    rw [sent, SamplingPlan.requiredSamples]
    simp
  have reference : estimateDrift ((plan.pilot array.sequence).valid.take plan.referenceSamples) =
      .ok 0 := by
    rw [sent, List.take_left' List.length_replicate]
    exact estimateDrift_replicate exact follows.two_le_referenceSamples follows.referenceSamples_le
  obtain ⟨burst, corrected, turned, carrier⟩ :=
    correct_eq_ok (l := ⟨sampling, array, plan, pairs⟩) follows sound enough reference
  have sum {antenna : Antenna} (visits : plan.Visits array.sequence antenna) :
      antennaSum burst.slots antenna = 1 := by
    rw [Assignment.visits_iff (List.length_pos_iff.mpr sound.nonempty)] at visits
    have all := SamplingPlan.pilot_sum exact follows sound turned antenna (Nat.le_refl _)
    rwa [← turned.slots_length, List.take_length, turned.slots_length, if_pos visits] at all
  obtain ⟨estimate, estimated, inside⟩ := estimateAngles_one exact turned.stored carrier distinct
    fun pair member => ⟨sum (visited pair member).1, sum (visited pair member).2⟩
  exact locate_measured track corrected estimated inside

/-- Accepted settings can locate a burst exactly if the slots that are left reach both antennas of
every pair; otherwise they drop every burst, whatever the history. -/
theorem locatable_iff (exact : Trigonometry.ExactAtZero)
    (accepted : ofSettings sampling array pairs = .ok l) (track : Track Phasor) :
    (∃ raw report next, l.locate raw track = (.ok report, next)) ↔
      ∀ pair ∈ pairs.all,
        l.plan.Visits array.sequence pair.a ∧ l.plan.Visits array.sequence pair.b := by
  constructor
  · rintro ⟨raw, report, next, located⟩
    exact visits_of_located accepted (congrArg Prod.fst located)
  · intro visited
    exact ⟨_, locate_pilot exact accepted visited track⟩

end

/-- Two slots reach the two antennas of the pair. -/
theorem locatable_iff_two :
    let level : Trigonometry :=
      ⟨fun _ => 0, fun _ => 1, fun _ => pi / 2, fun _ _ => 0, fun _ _ => 1⟩
    let l : Locator :=
      ⟨{ cteUnits := 2 }, {}, ⟨.regular, 4000, 2000, 2000, 1000, 8, 2, 1, 1, 2000⟩, {}⟩
    level.ExactAtZero ∧ ofSettings { cteUnits := 2 } {} {} = .ok l ∧
      ∃ raw report next, l.locate raw ⟨.none, .none, .none, 0⟩ = (.ok report, next) := by
  intro level l
  have exact : level.ExactAtZero := ⟨rfl, rfl, rfl, rfl⟩
  have accepted : ofSettings { cteUnits := 2 } {} {} = .ok l := rfl
  have visited : ∀ pair ∈ ({} : AnglePairs).all,
      l.plan.Visits ({} : AntennaArray).sequence pair.a ∧
        l.plan.Visits ({} : AntennaArray).sequence pair.b := by
    decide
  exact ⟨exact, accepted, (locatable_iff exact accepted _).mpr visited⟩

/-- A switching period of 4 µs is shorter than one switch spacing of 8 µs and has no slots, and its
settings are accepted. -/
theorem not_locatable_without_slots :
    ∃ l, ofSettings { cteUnits := 2, switchSpacing := .us8, sampleSpacing := .us4 } {} {} = .ok l ∧
      ∀ (_ : Trigonometry) raw track report next, l.locate raw track ≠ (.ok report, next) := by
  have accepted :
      ofSettings { cteUnits := 2, switchSpacing := .us8, sampleSpacing := .us4 } {} {} =
        .ok ⟨{ cteUnits := 2, switchSpacing := .us8, sampleSpacing := .us4 }, {},
          ⟨.overSampling, 4000, 8000, 4000, 1000, 8, 0, 1, 1, 5000⟩, {}⟩ := rfl
  refine ⟨_, accepted, fun _ raw track report next located => ?_⟩
  have visited := visits_of_located accepted (congrArg Prod.fst located) _ List.mem_cons_self
  revert visited
  decide

end Locator

end DirectionFinding
