import DirectionFinding.Burst.Slotted

/-!
Storage of a slotted burst and its view. A burst is stored if it uses no more rows than it has and
no more cells of a row than there are; each operation keeps it so and changes the slots in use as
its name says.
-/
namespace DirectionFinding

namespace Row

variable {σ : Type} {columns : Nat} {r : Row σ}

def Fits (columns : Nat) (r : Row σ) : Prop :=
  r.cells.length = columns ∧ r.count ≤ columns

@[simp]
theorem slot_store (r : Row σ) (antenna : Antenna) (samples : List σ) :
    (r.store antenna samples).slot = ⟨antenna, samples⟩ := by
  simp [slot, store]

private theorem fits_store (fits : r.Fits columns) (antenna : Antenna) {samples : List σ}
    (room : samples.length ≤ columns) : (r.store antenna samples).Fits columns := by
  obtain ⟨cells, _⟩ := fits
  refine ⟨?_, room⟩
  simp only [store, List.length_append, List.length_drop]
  omega

@[simp]
theorem slot_mapSamples (f : Nat → σ → σ) (r : Row σ) :
    (r.mapSamples f).slot = ⟨r.antenna, r.slot.samples.mapIdx f⟩ := by
  simp only [slot, mapSamples, Slot.mk.injEq, true_and]
  apply List.ext_getElem?
  intro i
  by_cases inside : i < r.count
  · simp [inside]
  · simp only [List.getElem?_mapIdx, List.getElem?_take, inside, if_false, Option.map_none]

theorem fits_mapSamples (fits : r.Fits columns) (f : Nat → σ → σ) :
    (r.mapSamples f).Fits columns := by
  simpa [Fits, mapSamples] using fits

end Row

namespace SlottedBurst

variable {σ : Type} {b : SlottedBurst σ}

/-- Everything the burst claims to use is there. -/
structure Stored (b : SlottedBurst σ) : Prop where
  length_le : b.length ≤ b.capacity
  fits : ∀ r ∈ b.rows, r.Fits b.columns

theorem slots_length (inside : b.length ≤ b.capacity) : b.slots.length = b.length := by
  simp only [slots, List.length_map, List.length_take]
  exact Nat.min_eq_left inside

theorem requireStored_eq_ok (inside : b.length ≤ b.capacity) : b.requireStored = .ok () :=
  if_neg (Nat.not_lt.mpr inside)

theorem Stored.slots_length (stored : b.Stored) : b.slots.length = b.length :=
  SlottedBurst.slots_length stored.length_le

theorem Stored.requireStored (stored : b.Stored) : b.requireStored = .ok () :=
  requireStored_eq_ok stored.length_le

theorem antennas_eq (b : SlottedBurst σ) : b.antennas = b.slots.map Slot.antenna := by
  simp only [antennas, slots, List.map_map]
  rfl

theorem withCapacity_empty [Inhabited σ] {slots columns : Nat} (slotsFit : slots ≤ Limits.slots)
    (columnsFit : columns ≤ Limits.samplesPerSlot) :
    ∃ b : SlottedBurst σ, withCapacity slots columns = .ok b ∧ b.Stored ∧ b.slots = [] ∧
      b.length = 0 ∧ b.capacity = slots ∧ b.columns = columns := by
  have allowed : ¬(Limits.slots < slots ∨ Limits.samplesPerSlot < columns) := by omega
  refine ⟨_, if_neg allowed, ⟨Nat.zero_le _, ?_⟩, rfl, rfl, ?_, rfl⟩
  · intro r member
    obtain ⟨_, rfl⟩ := List.mem_replicate.mp member
    simp [Row.Fits]
  · simp [capacity]

def withReference (b : SlottedBurst σ) (antenna : Antenna) (samples : List σ) : SlottedBurst σ :=
  { b with referenceAntenna := antenna, reference := samples }

theorem setReference_eq_ok (antenna : Antenna) {samples : List σ}
    (room : samples.length ≤ Limits.referenceSamples) :
    b.setReference antenna samples = (.ok (), b.withReference antenna samples) :=
  if_neg (Nat.not_lt.mpr room)

theorem Stored.withReference (stored : b.Stored) (antenna : Antenna) (samples : List σ) :
    (b.withReference antenna samples).Stored :=
  ⟨stored.length_le, stored.fits⟩

def pushed (b : SlottedBurst σ) (antenna : Antenna) (samples : List σ) : SlottedBurst σ :=
  { b with
    rows := b.rows.modify b.length fun r => r.store antenna samples
    length := b.length + 1 }

theorem pushSlot_eq_ok (antenna : Antenna) {samples : List σ} (free : b.length < b.capacity)
    (room : samples.length ≤ b.columns) :
    b.pushSlot antenna samples = (.ok (), b.pushed antenna samples) := by
  unfold pushSlot
  rw [if_neg (Nat.not_le.mpr free), if_neg (Nat.not_lt.mpr room)]
  rfl

@[simp]
theorem capacity_pushed (antenna : Antenna) (samples : List σ) :
    (b.pushed antenna samples).capacity = b.capacity := by
  simp [capacity, pushed]

theorem slots_pushed (antenna : Antenna) (samples : List σ) (free : b.length < b.capacity) :
    (b.pushed antenna samples).slots = b.slots ++ [⟨antenna, samples⟩] := by
  simp only [capacity] at free
  have earlier : (b.rows.modify b.length fun r => r.store antenna samples).take b.length =
      b.rows.take b.length := by
    apply List.ext_getElem?
    intro i
    by_cases used : i < b.length
    · simp [used, Nat.ne_of_gt used]
    · simp only [List.getElem?_take, used, if_false]
  simp [slots, pushed, List.take_add_one, earlier, free]

theorem Stored.pushed (stored : b.Stored) (antenna : Antenna) {samples : List σ}
    (free : b.length < b.capacity) (room : samples.length ≤ b.columns) :
    (b.pushed antenna samples).Stored := by
  refine ⟨?_, ?_⟩
  · rw [capacity_pushed]
    exact free
  intro r member
  obtain ⟨i, found⟩ := List.mem_iff_getElem?.mp member
  simp only [SlottedBurst.pushed, List.getElem?_modify, Option.map_eq_map,
    Option.map_eq_some_iff] at found
  obtain ⟨old, present, rfl⟩ := found
  have fits := stored.fits old (List.mem_of_getElem? present)
  split
  · exact Row.fits_store fits antenna room
  · exact fits

end SlottedBurst

end DirectionFinding
