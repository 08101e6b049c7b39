import DirectionFinding.Proofs.AngleEstimate
import DirectionFinding.Proofs.Burst.Compaction
import DirectionFinding.Proofs.Burst.SlotList
import DirectionFinding.Proofs.Usable

/-!
What the phase of a pair depends on. Each antenna has a sum of its own, and a slot of any third antenna
leaves both sums and the count as they are, whatever its samples hold. So two bursts with the same
slots of the pair have the same answer, and switch slots may be dropped before or not.
-/
namespace DirectionFinding

private theorem filter_filter_of_imp {α : Type} {p q : α → Bool}
    (keeps : ∀ x, p x = true → q x = true)
    (xs : List α) : (xs.filter q).filter p = xs.filter p := by
  rw [List.filter_filter]
  apply List.filter_congr
  intro x _
  cases own : p x with
  | true => rw [keeps x own, Bool.and_self]
  | false => rw [Bool.false_and]

def pairSlots {σ : Type} (a b : Antenna) (slots : List (Slot σ)) : List (Slot σ) :=
  slots.filter fun slot => slot.antenna = a ∨ slot.antenna = b

private theorem antennaSum_eq_foldl (slots : List (Slot Phasor)) (antenna : Antenna) :
    antennaSum slots antenna =
      (slots.filter fun slot => slot.antenna = antenna).foldl
        (fun sum slot => sum + laneSum slot.samples) 0 := by
  simp only [antennaSum, List.foldl_filter, decide_eq_true_eq]

private theorem antennaSum_pairSlots {a b antenna : Antenna} (own : antenna = a ∨ antenna = b)
    (slots : List (Slot Phasor)) :
    antennaSum (pairSlots a b slots) antenna = antennaSum slots antenna := by
  rw [antennaSum_eq_foldl, antennaSum_eq_foldl, pairSlots, filter_filter_of_imp]
  intro slot here
  rw [decide_eq_true_eq] at here ⊢
  rw [here]
  exact own

private theorem pairSampleCount_eq (slots : List (Slot Phasor)) (a b : Antenna) :
    pairSampleCount slots a b = total ((pairSlots a b slots).map fun slot => slot.samples.length) := by
  induction slots with
  | nil => rfl
  | cons slot rest ih =>
    simp only [pairSampleCount, pairSlots, List.map_cons, List.filter_cons, total] at ih ⊢
    by_cases own : slot.antenna = a ∨ slot.antenna = b
    · simp [own, ih, total]
    · simp [own, ih]

theorem pairSlots_filter {σ : Type} {a b : Antenna} {kept : Slot σ → Bool}
    (keeps : ∀ slot, slot.antenna = a ∨ slot.antenna = b → kept slot = true)
    (slots : List (Slot σ)) : pairSlots a b (slots.filter kept) = pairSlots a b slots :=
  filter_filter_of_imp (fun slot own => keeps slot (of_decide_eq_true own)) slots

section
variable [Trigonometry] {burst other : SlottedBurst Phasor} {a b : Antenna}

private theorem phaseDifference_of_pairSlots (distinct : a ≠ b)
    (inside : burst.length ≤ burst.capacity) (inside' : other.length ≤ other.capacity)
    (same : pairSlots a b burst.slots = pairSlots a b other.slots) :
    phaseDifference burst a b = phaseDifference other a b := by
  have sums {antenna : Antenna} (own : antenna = a ∨ antenna = b) :
      antennaSum burst.slots antenna = antennaSum other.slots antenna := by
    rw [← antennaSum_pairSlots own burst.slots, same, antennaSum_pairSlots own]
  have count : pairSampleCount burst.slots a b = pairSampleCount other.slots a b := by
    rw [pairSampleCount_eq, pairSampleCount_eq, same]
  rw [phaseDifference_eq distinct inside, phaseDifference_eq distinct inside',
    sums (.inl rfl), sums (.inr rfl), count]

private theorem phaseDifference_count {phase : Float32} {count : Nat}
    (measured : phaseDifference burst a b = .ok (phase, count)) :
    count = total ((pairSlots a b burst.slots).map fun slot => slot.samples.length) := by
  obtain ⟨distinct, inside, first, second, -⟩ := phaseDifference_ok measured
  rw [phaseDifference_eq distinct inside, if_pos first, if_pos second] at measured
  cases measured
  exact pairSampleCount_eq burst.slots a b

private theorem phaseDifference_compacted (distinct : a ≠ b)
    (inside : burst.length ≤ burst.capacity)
    (valid : a.isValid = true) (valid' : b.isValid = true) :
    phaseDifference burst.compacted a b = phaseDifference burst a b := by
  apply phaseDifference_of_pairSlots distinct burst.length_compacted_le inside
  rw [burst.slots_compacted]
  apply pairSlots_filter
  rintro slot (rfl | rfl)
  · exact valid
  · exact valid'

/-- Bursts with the same slots of two antennas have the same phase between them, or the same fault. The
count is that of the samples of these slots, and dropping the switch slots first changes nothing. -/
theorem phaseDifference_separated (distinct : a ≠ b) {slots others : List (Slot Phasor)}
    (read : burst.readSlots = .ok slots) (read' : other.readSlots = .ok others)
    (same : pairSlots a b slots = pairSlots a b others) :
    phaseDifference burst a b = phaseDifference other a b ∧
      (∀ phase count, phaseDifference burst a b = .ok (phase, count) →
        count = total ((pairSlots a b slots).map fun slot => slot.samples.length)) ∧
      (a.isValid = true → b.isValid = true → ∃ removed after,
        burst.removeSwitchSlots = .ok (removed, after) ∧
          phaseDifference after a b = phaseDifference burst a b) := by
  obtain ⟨inside, rfl⟩ := SlottedBurst.readSlots_success read
  obtain ⟨inside', rfl⟩ := SlottedBurst.readSlots_success read'
  refine ⟨phaseDifference_of_pairSlots distinct inside inside' same,
    fun _ _ measured => phaseDifference_count measured, fun valid valid' => ?_⟩
  exact ⟨_, burst.compacted, SlottedBurst.removeSwitchSlots_eq_ok inside,
    phaseDifference_compacted distinct inside valid valid'⟩

end

/-- A quarter turn between two antennas, once by themselves and once among a switch slot and a slot of
a third antenna, neither of which holds a number. -/
theorem phaseDifference_separated_quarter :
    let _ : Trigonometry := .axis
    let alone : SlottedBurst Phasor := ⟨2, 2440, ⟨11⟩, [],
      [⟨⟨1⟩, 1, [.ofParts 0 1]⟩, ⟨⟨2⟩, 1, [.ofParts 1 0]⟩], 1⟩
    let among : SlottedBurst Phasor := ⟨4, 2440, ⟨11⟩, [],
      [⟨.switching, 1, [⟨.nan 0x7fc00000, .number 0⟩]⟩, ⟨⟨1⟩, 1, [.ofParts 0 1]⟩,
        ⟨⟨3⟩, 1, [⟨.number (Float32.ofBits 0x7f800000), .nan 0xffc00001⟩]⟩,
        ⟨⟨2⟩, 1, [.ofParts 1 0]⟩], 1⟩
    alone.readSlots = .ok alone.slots ∧ among.readSlots = .ok among.slots ∧
      pairSlots ⟨1⟩ ⟨2⟩ among.slots = pairSlots ⟨1⟩ ⟨2⟩ alone.slots ∧
      phaseDifference alone ⟨1⟩ ⟨2⟩ = .ok (pi / 2, 2) ∧
      phaseDifference among ⟨1⟩ ⟨2⟩ = .ok (pi / 2, 2) ∧
      ∃ removed after, among.removeSwitchSlots = .ok (removed, after) ∧
        phaseDifference after ⟨1⟩ ⟨2⟩ = .ok (pi / 2, 2) := by
  intro _ alone among
  have read : alone.readSlots = .ok alone.slots := rfl
  have read' : among.readSlots = .ok among.slots := rfl
  have same : pairSlots ⟨1⟩ ⟨2⟩ among.slots = pairSlots ⟨1⟩ ⟨2⟩ alone.slots := rfl
  have measured : phaseDifference alone ⟨1⟩ ⟨2⟩ = .ok (pi / 2, 2) := by decide +kernel
  obtain ⟨answer, -, dropped⟩ := phaseDifference_separated (by decide) read' read same
  obtain ⟨removed, after, made, kept⟩ := dropped rfl rfl
  exact ⟨read, read', same, measured, answer.trans measured, removed, after, made,
    kept.trans (answer.trans measured)⟩

end DirectionFinding
