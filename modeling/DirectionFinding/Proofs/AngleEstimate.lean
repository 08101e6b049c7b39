import DirectionFinding.AngleEstimate
import DirectionFinding.Proofs.Burst.Storage
import DirectionFinding.Proofs.Number.Product

/-!
Angles from the sums of two antennas. An antenna without a slot sums to zero, and a pair with such
an antenna is refused; a pair of which each antenna sums to one has no phase between them, which is
broadside at any distance.
-/
namespace DirectionFinding

/-- What a mathematics library answers at zero, where all but the last are exact. -/
structure Trigonometry.ExactAtZero [Trigonometry] : Prop where
  sin : Trigonometry.sin 0 = 0
  cos : Trigonometry.cos 0 = 1
  atan2 : Trigonometry.atan2 0 1 = 0
  acos : Trigonometry.acos 0 = pi / 2

instance : One Phasor := ⟨.ofParts 1 0⟩

section
variable {V : Type} [Add V] [Zero V] {first : V}

private theorem Lanes.sumFrom_first (zero : (0 : V) + 0 = 0) (left : 0 + first = first)
    (right : first + 0 = first) :
    ∀ n, Lanes.sumFrom ⟨first, 0, 0, 0, 0, 0, 0, 0⟩ (List.replicate n 0) = first
  | n + 8 => by
    simp only [List.replicate_succ, sumFrom, zero, right]
    exact sumFrom_first zero left right n
  | 0 | 1 | 2 | 3 | 4 | 5 | 6 | 7 => by
    simp [List.replicate_succ, sumFrom, joined, zero, left, right]

theorem laneSum_first (zero : (0 : V) + 0 = 0) (left : 0 + first = first)
    (right : first + 0 = first) : ∀ n, laneSum (first :: List.replicate n 0) = first
  | n + 7 => by
    simp only [laneSum, List.replicate_succ, Lanes.sumFrom, Lanes.zero, zero, left]
    exact Lanes.sumFrom_first zero left right n
  | 0 | 1 | 2 | 3 | 4 | 5 | 6 => by
    simp [laneSum, List.replicate_succ, Lanes.sumFrom, Lanes.joined, Lanes.zero, zero, left, right]

end

theorem antennaSum_concat (slots : List (Slot Phasor)) (slot : Slot Phasor) (antenna : Antenna) :
    antennaSum (slots ++ [slot]) antenna =
      if slot.antenna = antenna then antennaSum slots antenna + laneSum slot.samples
      else antennaSum slots antenna := by
  simp [antennaSum]

private theorem antennaSum_absent {slots : List (Slot Phasor)} {antenna : Antenna}
    (absent : ∀ slot ∈ slots, slot.antenna ≠ antenna) : antennaSum slots antenna = 0 := by
  induction slots using List.reverseRecOn with
  | nil => rfl
  | append_singleton slots slot ih =>
    rw [antennaSum_concat, if_neg (absent slot (by simp))]
    exact ih fun other member => absent other (by simp [member])

def AnglePairs.all (p : AnglePairs) : List AntennaPair :=
  p.azimuth :: p.elevation.toList

theorem AntennaPair.validate_ok {p : AntennaPair} (valid : p.validate = .ok ()) :
    isPositive p.distance = true ∧ p.a ≠ p.b ∧ p.a.isValid = true ∧ p.b.isValid = true := by
  unfold validate at valid
  split at valid
  · cases valid
  · split at valid
    · cases valid
    · rename_i positive distinct
      simp only [not_or, Bool.not_eq_true', Bool.not_eq_false] at positive distinct
      exact ⟨positive, distinct⟩

theorem AnglePairs.validate_ok {p : AnglePairs} (valid : p.validate = .ok ()) :
    ∀ pair ∈ p.all, pair.validate = .ok () := by
  obtain ⟨_, azimuth, rest⟩ := Located.bind_success _ _ _ valid
  intro pair member
  rcases List.mem_cons.mp member with rfl | member
  · exact azimuth
  · rw [Option.mem_toList] at member
    rw [member] at rest
    exact rest

/-- Both antennas of a pair have a slot. -/
def SlottedBurst.Hears {σ : Type} (b : SlottedBurst σ) (pair : AntennaPair) : Prop :=
  (∃ slot ∈ b.slots, slot.antenna = pair.a) ∧ ∃ slot ∈ b.slots, slot.antenna = pair.b

private theorem exists_slot_of_usable {slots : List (Slot Phasor)} {antenna : Antenna}
    (usable : (antennaSum slots antenna).isUsable = true) :
    ∃ slot ∈ slots, slot.antenna = antenna := by
  by_contra absent
  have silent := antennaSum_absent fun slot member same => absent ⟨slot, member, same⟩
  rw [silent] at usable
  cases usable

section
variable [Trigonometry] {burst : SlottedBurst Phasor}

theorem phaseDifference_eq {a b : Antenna} (distinct : a ≠ b)
    (inside : burst.length ≤ burst.capacity) :
    phaseDifference burst a b =
      if (antennaSum burst.slots a).isUsable = true then
        if (antennaSum burst.slots b).isUsable = true then
          .ok ((antennaSum burst.slots a / antennaSum burst.slots b).arg,
            pairSampleCount burst.slots a b)
        else .error (.degenerateSignal .silentSecondAntenna)
      else .error (.degenerateSignal .silentFirstAntenna) := by
  simp only [phaseDifference, if_neg distinct, SlottedBurst.requireStored_eq_ok inside]
  cases (antennaSum burst.slots a).isUsable <;> cases (antennaSum burst.slots b).isUsable <;> rfl

theorem phaseDifference_ok {a b : Antenna} {phase : Float32} {count : Nat}
    (measured : phaseDifference burst a b = .ok (phase, count)) :
    a ≠ b ∧ burst.length ≤ burst.capacity ∧ (antennaSum burst.slots a).isUsable = true ∧
      (antennaSum burst.slots b).isUsable = true ∧
      phase = (antennaSum burst.slots a / antennaSum burst.slots b).arg := by
  have distinct : a ≠ b := by
    rintro rfl
    simp only [phaseDifference, if_true] at measured
    cases measured
  have inside : burst.length ≤ burst.capacity := by
    by_contra outside
    simp only [phaseDifference, if_neg distinct, SlottedBurst.requireStored,
      if_pos (Nat.not_le.mp outside)] at measured
    cases measured
  rw [phaseDifference_eq distinct inside] at measured
  split_ifs at measured with first second
  cases measured
  exact ⟨distinct, inside, first, second, rfl⟩

private theorem phaseDifference_hears {pair : AntennaPair} {answer : Float32 × Nat}
    (measured : phaseDifference burst pair.a pair.b = .ok answer) : burst.Hears pair := by
  obtain ⟨-, -, first, second, -⟩ := phaseDifference_ok measured
  exact ⟨exists_slot_of_usable first, exists_slot_of_usable second⟩

private theorem pairAngle_hears {pair : AntennaPair} {answer : Float32 × Nat × Float32}
    (measured : pairAngle burst pair = .ok answer) : burst.Hears pair := by
  obtain ⟨_, difference, _⟩ := Located.bind_success _ _ _ measured
  exact phaseDifference_hears difference

theorem estimateAngles_hears {pairs : AnglePairs} {estimate : AngleEstimate}
    (estimated : estimateAngles burst pairs = .ok estimate) :
    ∀ pair ∈ pairs.all, burst.Hears pair := by
  obtain ⟨_, azimuth, rest⟩ := Located.bind_success _ _ _ estimated
  intro pair member
  rcases List.mem_cons.mp member with rfl | member
  · exact pairAngle_hears azimuth
  · rw [Option.mem_toList] at member
    rw [member] at rest
    obtain ⟨_, elevation, _⟩ := Located.bind_success _ _ _ rest
    exact pairAngle_hears elevation

private theorem phaseDifference_one (exact : Trigonometry.ExactAtZero) (stored : burst.Stored)
    {a b : Antenna} (distinct : a ≠ b) (first : antennaSum burst.slots a = 1)
    (second : antennaSum burst.slots b = 1) :
    phaseDifference burst a b = .ok (0, pairSampleCount burst.slots a b) := by
  have usable : (1 : Phasor).isUsable = true := rfl
  have level : (1 / 1 : Phasor).arg = 0 := exact.atan2
  rw [phaseDifference_eq distinct stored.length_le, first, second, if_pos usable, if_pos usable,
    level]

theorem phaseToAngle_zero (exact : Trigonometry.ExactAtZero) {distance : Float32}
    (positive : isPositive distance = true) :
    phaseToAngle 0 distance (Float32.ofNat (2440 : UInt32).toNat * 1000000) = .ok 90 := by
  have phase : Float32.isFinite 0 = true := rfl
  have carrier : isPositive (Float32.ofNat (2440 : UInt32).toNat * 1000000) = true := rfl
  have apart : 0 < distance := of_decide_eq_true (Bool.and_eq_true_iff.mp positive).2
  have wave : 1 ≤ 2 * pi * (Float32.ofNat (2440 : UInt32).toNat * 1000000) := by decide +kernel
  have spread := Binary32.lt_of_lt_of_le apart (Binary32.le_mul_of_one_le wave apart)
  have still : 0 * waveSpeed = 0 := rfl
  have inside : clampUnit 0 = 0 := rfl
  have right : toDegrees (pi / 2) = 90 := by decide +kernel
  simp only [phaseToAngle, phase, positive, carrier, Bool.not_true, Bool.false_eq_true, if_false,
    still, Binary32.zero_div spread, inside, exact.acos, right]

private theorem pairAngle_one (exact : Trigonometry.ExactAtZero) (stored : burst.Stored)
    (carrier : burst.frequency = 2440) {pair : AntennaPair} (valid : pair.validate = .ok ())
    (first : antennaSum burst.slots pair.a = 1) (second : antennaSum burst.slots pair.b = 1) :
    ∃ count, pairAngle burst pair = .ok (0, count, 90) := by
  obtain ⟨positive, distinct, -⟩ := AntennaPair.validate_ok valid
  refine ⟨pairSampleCount burst.slots pair.a pair.b, ?_⟩
  simp only [pairAngle, carrier, phaseDifference_one exact stored distinct first second,
    Located.ok_bind, phaseToAngle_zero exact positive]
  rfl

theorem estimateAngles_one (exact : Trigonometry.ExactAtZero) (stored : burst.Stored)
    (carrier : burst.frequency = 2440) {pairs : AnglePairs} (valid : pairs.validate = .ok ())
    (ones : ∀ pair ∈ pairs.all,
      antennaSum burst.slots pair.a = 1 ∧ antennaSum burst.slots pair.b = 1) :
    ∃ estimate, estimateAngles burst pairs = .ok estimate ∧
      Track.requireAngles estimate.angles = .ok () := by
  have each : ∀ pair ∈ pairs.all, ∃ count, pairAngle burst pair = .ok (0, count, 90) :=
    fun pair member => pairAngle_one exact stored carrier (AnglePairs.validate_ok valid pair member)
      (ones pair member).1 (ones pair member).2
  have inside : requireOnCircle 90 = .ok () := rfl
  obtain ⟨count, azimuth⟩ := each pairs.azimuth (by simp [AnglePairs.all])
  cases measured : pairs.elevation with
  | none =>
    refine ⟨⟨0, ⟨90, none⟩, count⟩, ?_, ?_⟩
    · simp only [estimateAngles, azimuth, measured, Located.ok_bind]
      rfl
    · simp only [Track.requireAngles, inside, Located.ok_bind]
  | some pair =>
    obtain ⟨_, elevation⟩ := each pair (by simp [AnglePairs.all, measured])
    refine ⟨⟨0, ⟨90, some 90⟩, count⟩, ?_, ?_⟩
    · simp only [estimateAngles, azimuth, measured, elevation, Located.ok_bind]
      rfl
    · simp only [Track.requireAngles, inside, Located.ok_bind]

end

end DirectionFinding
