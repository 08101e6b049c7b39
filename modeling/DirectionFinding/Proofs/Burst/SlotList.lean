import DirectionFinding.Proofs.Drift.Turn

/-!
A slotted burst as a bounded list. Whatever is done to a burst but writing its length, it reads as the
list that the same calls make of an empty list: rows behind the end, and cells behind the samples of a
row, keep what was stored there before, and no reader ever sees them.
-/
namespace DirectionFinding

/-- A change in place that leaves the length of the burst to the burst. -/
inductive BurstCall where
  | push (antenna : Antenna) (samples : List Phasor)
  | setReference (antenna : Antenna) (samples : List Phasor)
  | write (slot : Nat) (f : Nat → Phasor → Phasor)
  | removeSwitchSlots
  | correctDrift (samplesPerSlot : Nat) (drift : Float32)

/-- Reference period and slots, with nothing behind them. -/
structure SlotList where
  referenceAntenna : Antenna := .switching
  reference : List Phasor := []
  slots : List (Slot Phasor) := []
  deriving DecidableEq

private theorem requireCount_cases (count : Nat) :
    requireCount count = .ok () ∨
      Limits.counts ≤ count ∧ requireCount count = .error (.countOverflow count) := by
  by_cases small : count < Limits.counts
  · exact .inl (if_pos small)
  · exact .inr ⟨Nat.not_lt.mp small, if_neg small⟩

private theorem forM_requireCount (counts : List Nat) :
    counts.forM requireCount = .ok () ∨
      ∃ count, Limits.counts ≤ count ∧
        counts.forM requireCount = .error (.countOverflow count) := by
  induction counts with
  | nil => exact .inl rfl
  | cons count rest ih =>
    rw [List.forM_eq_forM, List.forM_cons]
    rcases requireCount_cases count with small | ⟨large, refused⟩
    · rw [small]
      exact ih
    · rw [refused]
      exact .inr ⟨count, large, rfl⟩

namespace SlottedBurst

section
variable {σ : Type} {b : SlottedBurst σ}

private theorem Stored.slot?_eq (stored : b.Stored) (i : Nat) : b.slot? i = .ok b.slots[i]? := by
  have inside := stored.length_le
  unfold slot?
  by_cases unused : b.length ≤ i
  · rw [if_pos unused, List.getElem?_eq_none (by rw [stored.slots_length]; exact unused)]
  · have used : i < b.rows.length := Nat.lt_of_lt_of_le (Nat.not_le.mp unused) inside
    obtain ⟨cells, count⟩ := stored.fits _ (List.getElem_mem used)
    have enough : ¬ b.rows[i].cells.length < b.rows[i].count := by omega
    have seen : b.slots[i]? = some b.rows[i].slot := by
      rw [slots, List.getElem?_map, List.getElem?_take, if_pos (Nat.not_le.mp unused),
        List.getElem?_eq_getElem used, Option.map_some]
    simp only [if_neg unused, List.getElem?_eq_getElem used, if_neg enough, seen]

theorem readSlots_eq (inside : b.length ≤ b.capacity)
    (each : ∀ i < b.length, b.slot? i = .ok b.slots[i]?) : b.readSlots = .ok b.slots := by
  have read : (List.range b.length).mapM b.slot? =
      .ok ((List.range b.length).map fun i => b.slots[i]?) :=
    mapM_eq_ok fun i member => each i (List.mem_range.mp member)
  have places : (List.range b.length).map (fun i => b.slots[i]?) = b.slots.map some := by
    apply List.ext_getElem?
    intro i
    rw [← slots_length inside]
    by_cases used : i < b.slots.length
    · simp [used]
    · simp [used]
  rw [readSlots, read, places, Located.ok_bind, List.filterMap_map, Function.id_comp,
    List.filterMap_some]
  rfl

theorem Stored.readSlots_eq (stored : b.Stored) : b.readSlots = .ok b.slots :=
  SlottedBurst.readSlots_eq stored.length_le fun i _ => stored.slot?_eq i

private theorem slot?_success {i : Nat} {found : Option (Slot σ)} (read : b.slot? i = .ok found)
    (used : i < b.length) : i < b.capacity ∧ found = b.slots[i]? := by
  simp only [slot?, if_neg (Nat.not_le.mpr used)] at read
  split at read
  · rename_i row present
    obtain ⟨there, -⟩ := List.getElem?_eq_some_iff.mp present
    split at read
    · cases read
    · cases read
      refine ⟨there, ?_⟩
      rw [slots, List.getElem?_map, List.getElem?_take, if_pos used, present, Option.map_some]
  · cases read

theorem readSlots_success {read : List (Slot σ)} (ok : b.readSlots = .ok read) :
    b.length ≤ b.capacity ∧ read = b.slots := by
  obtain ⟨_, each, _⟩ := Located.bind_success _ _ _ ok
  have present (i : Nat) (used : i < b.length) :
      i < b.capacity ∧ b.slot? i = .ok b.slots[i]? := by
    obtain ⟨found, here⟩ := Located.mapM_success each i (List.mem_range.mpr used)
    obtain ⟨there, rfl⟩ := slot?_success here used
    exact ⟨there, here⟩
  have inside : b.length ≤ b.capacity := Nat.le_of_not_lt fun outside =>
    Nat.lt_irrefl _ (present b.capacity outside).1
  cases ok.symm.trans (readSlots_eq inside fun i used => (present i used).2)
  exact ⟨inside, rfl⟩

private theorem Stored.readAntennas_eq (stored : b.Stored) :
    b.readAntennas = .ok (b.slots.map Slot.antenna) := by
  rw [readAntennas, stored.requireStored, b.antennas_eq]
  rfl

theorem Stored.switchingSamples_eq (stored : b.Stored) :
    b.switchingSamples = total (b.slots.map fun slot => slot.samples.length) := by
  rw [switchingSamples, slots, List.map_map]
  congr 1
  apply List.map_congr_left
  intro r member
  obtain ⟨cells, count⟩ := stored.fits r (List.mem_of_mem_take member)
  simp only [Function.comp_apply, Row.slot, List.length_take]
  omega

def written (b : SlottedBurst σ) (i : Nat) (f : Nat → σ → σ) : SlottedBurst σ :=
  if i < b.length then { b with rows := b.rows.modify i (Row.mapSamples f) } else b

private theorem Stored.modifySlot_eq (stored : b.Stored) (i : Nat) (f : Nat → σ → σ) :
    b.modifySlot i f = .ok (b.slots[i]?.map fun slot => slot.samples.length, b.written i f) := by
  rw [modifySlot, stored.slot?_eq, written, ← stored.slots_length]
  by_cases used : i < b.slots.length
  · rw [if_pos used, List.getElem?_eq_getElem used]
    rfl
  · rw [if_neg used, List.getElem?_eq_none (Nat.not_lt.mp used)]
    rfl

private theorem Stored.slots_written (stored : b.Stored) (i : Nat) (f : Nat → σ → σ) :
    (b.written i f).slots =
      b.slots.modify i fun slot => ⟨slot.antenna, slot.samples.mapIdx f⟩ := by
  unfold SlottedBurst.written
  split
  · apply List.ext_getElem?
    intro j
    simp only [slots, List.take_modify, List.getElem?_map, List.getElem?_modify, Option.map_eq_map,
      Option.map_map]
    congr 1
    funext r
    simp only [Function.comp_apply]
    split
    · exact Row.slot_mapSamples f r
    · rfl
  · rename_i unused
    rw [List.modify_eq_self (by rw [stored.slots_length]; exact Nat.not_lt.mp unused)]

@[simp]
theorem capacity_written (b : SlottedBurst σ) (i : Nat) (f : Nat → σ → σ) :
    (b.written i f).capacity = b.capacity := by
  unfold written
  split
  · exact List.length_modify ..
  · rfl

private theorem written_frame (b : SlottedBurst σ) (i : Nat) (f : Nat → σ → σ) :
    (b.written i f).length = b.length ∧ (b.written i f).columns = b.columns ∧
      (b.written i f).referenceAntenna = b.referenceAntenna ∧
      (b.written i f).reference = b.reference := by
  unfold written
  split <;> exact ⟨rfl, rfl, rfl, rfl⟩

theorem Stored.written (stored : b.Stored) (i : Nat) (f : Nat → σ → σ) : (b.written i f).Stored := by
  refine ⟨by rw [capacity_written, (b.written_frame i f).1]; exact stored.length_le, ?_⟩
  unfold SlottedBurst.written
  split
  · intro r member
    obtain ⟨j, found⟩ := List.mem_iff_getElem?.mp member
    simp only [List.getElem?_modify, Option.map_eq_map, Option.map_eq_some_iff] at found
    obtain ⟨old, present, rfl⟩ := found
    have fits := stored.fits old (List.mem_of_getElem? present)
    split
    · exact Row.fits_mapSamples fits f
    · exact fits
  · exact stored.fits

private theorem pushSlot_cases (b : SlottedBurst σ) (antenna : Antenna) (samples : List σ) :
    (b.length < b.capacity ∧ samples.length ≤ b.columns ∧
      b.pushSlot antenna samples = (.ok (), b.pushed antenna samples)) ∨
    ¬ (b.length < b.capacity ∧ samples.length ≤ b.columns) ∧
      ∃ cause, b.pushSlot antenna samples = (.error cause, b) := by
  by_cases free : b.length < b.capacity
  · by_cases room : samples.length ≤ b.columns
    · exact .inl ⟨free, room, pushSlot_eq_ok antenna free room⟩
    · refine .inr ⟨fun both => room both.2, .invalidArgument (.slotTooLong samples.length b.columns), ?_⟩
      rw [pushSlot, if_neg (Nat.not_le.mpr free), if_pos (Nat.not_le.mp room)]
  · refine .inr ⟨fun both => free both.1, .invalidArgument (.slotsExhausted b.capacity), ?_⟩
    rw [pushSlot, if_pos (Nat.not_lt.mp free)]

private theorem setReference_cases (b : SlottedBurst σ) (antenna : Antenna) (samples : List σ) :
    (samples.length ≤ Limits.referenceSamples ∧
      b.setReference antenna samples = (.ok (), b.withReference antenna samples)) ∨
    ¬ samples.length ≤ Limits.referenceSamples ∧
      ∃ cause, b.setReference antenna samples = (.error cause, b) := by
  by_cases room : samples.length ≤ Limits.referenceSamples
  · exact .inl ⟨room, setReference_eq_ok antenna room⟩
  · exact .inr ⟨room, _, if_pos (Nat.not_le.mp room)⟩

end

section
variable [Trigonometry] {b : SlottedBurst Phasor}

/-- Counting is all that can stop the correction. -/
theorem Stored.correctDrift_cases (stored : b.Stored) (samplesPerSlot : Nat) (drift : Float32) :
    b.correctDrift samplesPerSlot drift = .ok (b.turnBack (turn drift) samplesPerSlot) ∨
      ∃ count, Limits.counts ≤ count ∧
        b.correctDrift samplesPerSlot drift = .error (.countOverflow count) := by
  unfold correctDrift
  rcases requireCount_cases (b.reference.length + samplesPerSlot) with first | ⟨large, first⟩
  · rcases requireCount_cases (samplesPerSlot * 2) with double | ⟨large, double⟩
    · rcases forM_requireCount (b.finalDelays samplesPerSlot) with delays | ⟨count, large, delays⟩
      · simp only [first, double, stored.requireStored, delays, Located.ok_bind]
        exact .inl rfl
      · simp only [first, double, stored.requireStored, delays, Located.ok_bind]
        exact .inr ⟨count, large, rfl⟩
    · simp only [first, double, Located.ok_bind]
      exact .inr ⟨_, large, rfl⟩
  · simp only [first]
    exact .inr ⟨_, large, rfl⟩

/-- The burst after a call. A refused slot or reference period is passed over; reaching outside of
the storage, or counting too far, ends all calls. -/
def call (b : SlottedBurst Phasor) : BurstCall → Located (SlottedBurst Phasor)
  | .push antenna samples => .ok (b.pushSlot antenna samples).2
  | .setReference antenna samples => .ok (b.setReference antenna samples).2
  | .write slot f => (b.modifySlot slot f).map Prod.snd
  | .removeSwitchSlots => b.removeSwitchSlots.map Prod.snd
  | .correctDrift samplesPerSlot drift => b.correctDrift samplesPerSlot drift

def run (b : SlottedBurst Phasor) (calls : List BurstCall) : Located (SlottedBurst Phasor) :=
  calls.foldlM call b

end

def visible (b : SlottedBurst Phasor) : SlotList :=
  ⟨b.referenceAntenna, b.reference, b.slots⟩

end SlottedBurst

namespace SlotList

variable [Trigonometry]

def call (room columns : Nat) (l : SlotList) : BurstCall → SlotList
  | .push antenna samples =>
    if l.slots.length < room ∧ samples.length ≤ columns then
      { l with slots := l.slots ++ [⟨antenna, samples⟩] }
    else l
  | .setReference antenna samples =>
    if samples.length ≤ Limits.referenceSamples then
      { l with referenceAntenna := antenna, reference := samples }
    else l
  | .write place f =>
    { l with slots := l.slots.modify place fun slot => ⟨slot.antenna, slot.samples.mapIdx f⟩ }
  | .removeSwitchSlots => { l with slots := l.slots.filter fun slot => slot.antenna.isValid }
  | .correctDrift samplesPerSlot drift =>
    { l with
      reference := l.reference.mapIdx (turn drift)
      slots := l.slots.mapIdx
        (SlottedBurst.turnedSlot (turn drift) l.reference.length samplesPerSlot) }

def run (room columns : Nat) (calls : List BurstCall) : SlotList :=
  calls.foldl (call room columns) {}

end SlotList

namespace SlottedBurst

variable {room columns : Nat} {b : SlottedBurst Phasor}

structure Sized (b : SlottedBurst Phasor) : Prop where
  stored : b.Stored
  capacity_le : b.capacity ≤ Limits.slots
  columns_le : b.columns ≤ Limits.samplesPerSlot
  reference_le : b.reference.length ≤ Limits.referenceSamples

private theorem sized_withCapacity {fresh : SlottedBurst Phasor}
    (made : withCapacity room columns = .ok fresh) :
    fresh.Sized ∧ fresh.capacity = room ∧ fresh.columns = columns ∧ fresh.visible = {} := by
  have fits : ¬ (Limits.slots < room ∨ Limits.samplesPerSlot < columns) := by
    intro large
    rw [withCapacity, if_pos large] at made
    cases made
  rw [not_or, Nat.not_lt, Nat.not_lt] at fits
  obtain ⟨empty, same, stored, -, -, capacity, width⟩ :=
    withCapacity_empty (σ := Phasor) fits.1 fits.2
  cases made.symm.trans same
  rw [withCapacity, if_neg (by omega)] at made
  cases made
  exact ⟨⟨stored, by rw [capacity]; exact fits.1, fits.2, Nat.zero_le _⟩, capacity, rfl, rfl⟩

/-- What the readers of a burst answer, each of which fails if it leaves the storage. -/
structure ReadsAs (b : SlottedBurst Phasor) (l : SlotList) : Prop where
  referenceAntenna : b.referenceAntenna = l.referenceAntenna
  reference : b.reference = l.reference
  slots : b.readSlots = .ok l.slots
  antennas : b.readAntennas = .ok (l.slots.map Slot.antenna)
  samples : b.countSwitchingSamples = .ok (total (l.slots.map fun slot => slot.samples.length))
  slot : ∀ i, b.slot? i = .ok l.slots[i]?
  length : b.length = l.slots.length

private theorem Stored.readsAs (stored : b.Stored) : b.ReadsAs b.visible where
  referenceAntenna := rfl
  reference := rfl
  slots := stored.readSlots_eq
  antennas := stored.readAntennas_eq
  samples := by
    rw [countSwitchingSamples, stored.requireStored, stored.switchingSamples_eq]
    rfl
  slot := stored.slot?_eq
  length := stored.slots_length.symm

section
variable [Trigonometry]

/-- One call either does to the burst what it does to the list, or corrects with a slot length that
no plan has. -/
theorem Sized.call (sized : b.Sized) (c : BurstCall) :
    (∃ next, b.call c = .ok next ∧ next.Sized ∧ next.capacity = b.capacity ∧
      next.columns = b.columns ∧ next.visible = b.visible.call b.capacity b.columns c) ∨
    ∃ samplesPerSlot drift count, c = .correctDrift samplesPerSlot drift ∧
      Limits.samplesPerSlot < samplesPerSlot ∧ Limits.counts ≤ count ∧
      b.call c = .error (.countOverflow count) := by
  obtain ⟨stored, capacityFits, columnsFit, referenceFits⟩ := sized
  cases c with
  | push antenna samples =>
    refine .inl ⟨_, rfl, ?_⟩
    simp only [SlotList.call, visible, stored.slots_length]
    rcases b.pushSlot_cases antenna samples with ⟨free, fits, made⟩ | ⟨refused, cause, made⟩
    · have same := b.capacity_pushed antenna samples
      rw [made, if_pos ⟨free, fits⟩, slots_pushed antenna samples free]
      exact ⟨⟨stored.pushed antenna free fits, by rw [same]; exact capacityFits, columnsFit,
        referenceFits⟩, same, rfl, rfl⟩
    · rw [made, if_neg refused]
      exact ⟨⟨stored, capacityFits, columnsFit, referenceFits⟩, rfl, rfl, rfl⟩
  | setReference antenna samples =>
    refine .inl ⟨_, rfl, ?_⟩
    simp only [SlotList.call, visible]
    rcases b.setReference_cases antenna samples with ⟨fits, made⟩ | ⟨refused, cause, made⟩
    · rw [made, if_pos fits]
      exact ⟨⟨stored.withReference antenna samples, capacityFits, columnsFit, fits⟩, rfl, rfl, rfl⟩
    · rw [made, if_neg refused]
      exact ⟨⟨stored, capacityFits, columnsFit, referenceFits⟩, rfl, rfl, rfl⟩
  | write place f =>
    obtain ⟨-, width, antenna, reference⟩ := b.written_frame place f
    refine .inl ⟨b.written place f, ?_, ⟨stored.written place f, ?_, ?_, ?_⟩, ?_, width, ?_⟩
    · rw [SlottedBurst.call, stored.modifySlot_eq]
      rfl
    · rw [capacity_written]
      exact capacityFits
    · rw [width]
      exact columnsFit
    · rw [reference]
      exact referenceFits
    · exact capacity_written b place f
    · simp only [SlotList.call, visible, antenna, reference, stored.slots_written]
  | removeSwitchSlots =>
    have same := b.capacity_compacted
    refine .inl ⟨b.compacted, ?_, ⟨stored.compacted, by rw [same]; exact capacityFits, columnsFit,
      referenceFits⟩, same, rfl, ?_⟩
    · rw [SlottedBurst.call, removeSwitchSlots_eq_ok stored.length_le]
      rfl
    · simp only [SlotList.call, visible, slots_compacted]
      rfl
  | correctDrift samplesPerSlot drift =>
    have same := b.capacity_turnBack (turn drift) samplesPerSlot
    have kept : (b.turnBack (turn drift) samplesPerSlot).Sized := by
      refine ⟨stored.turnBack _ _, by rw [same]; exact capacityFits, columnsFit, ?_⟩
      rw [turnBack, List.length_mapIdx]
      exact referenceFits
    have view : (b.turnBack (turn drift) samplesPerSlot).visible =
        b.visible.call b.capacity b.columns (.correctDrift samplesPerSlot drift) := by
      simp only [SlotList.call, visible, slots_turnBack]
      rfl
    rcases stored.correctDrift_cases samplesPerSlot drift with done | ⟨count, large, stopped⟩
    · exact .inl ⟨_, done, kept, same, rfl, view⟩
    · refine .inr ⟨samplesPerSlot, drift, count, rfl, ?_, large, stopped⟩
      apply Nat.not_le.mp
      intro short
      have done := stored.correctDrift_eq_ok drift referenceFits short capacityFits columnsFit
      cases done.symm.trans stopped

theorem Sized.run (sized : b.Sized) (calls : List BurstCall) :
    (∃ next, b.run calls = .ok next ∧ next.Sized ∧ next.capacity = b.capacity ∧
      next.columns = b.columns ∧
      next.visible = calls.foldl (SlotList.call b.capacity b.columns) b.visible) ∨
    ∃ before behind samplesPerSlot drift count stopped,
      calls = before ++ .correctDrift samplesPerSlot drift :: behind ∧
      b.run before = .ok stopped ∧ stopped.Sized ∧
      stopped.visible = before.foldl (SlotList.call b.capacity b.columns) b.visible ∧
      Limits.samplesPerSlot < samplesPerSlot ∧ Limits.counts ≤ count ∧
      stopped.correctDrift samplesPerSlot drift = .error (.countOverflow count) ∧
      b.run calls = .error (.countOverflow count) := by
  induction calls generalizing b with
  | nil => exact .inl ⟨b, rfl, sized, rfl, rfl, rfl⟩
  | cons c rest ih =>
    rcases sized.call c with ⟨middle, first, kept, capacity, width, view⟩ |
      ⟨samplesPerSlot, drift, count, rfl, long, large, stopped⟩
    · have onwards (calls : List BurstCall) : b.run (c :: calls) = middle.run calls := by
        rw [SlottedBurst.run, List.foldlM_cons, first]
        rfl
      have later := ih kept
      rw [capacity, width, view] at later
      rw [onwards]
      rcases later with reached | ⟨before, behind, samplesPerSlot, drift, count, stopped, split,
        ran, stored, seen, overflow⟩
      · exact .inl reached
      · exact .inr ⟨c :: before, behind, samplesPerSlot, drift, count, stopped,
          congrArg (c :: ·) split, (onwards before).trans ran, stored, seen, overflow⟩
    · refine .inr ⟨[], rest, samplesPerSlot, drift, count, b, rfl, rfl, sized, rfl, long, large,
        stopped, ?_⟩
      rw [SlottedBurst.run, List.foldlM_cons, stopped]
      rfl

/-- An empty burst after any calls: no count exceeds its storage, so no reader leaves it, and all of
them read what the calls make of an empty list. The next slot is taken exactly if there is room for
it, and then stands behind the others with its own samples only; what is refused changes nothing.
Calls come to an end before their last one only by a correction with a slot length that cannot be
counted, and up to it the burst reads in the same way. -/
theorem run_slotList {fresh : SlottedBurst Phasor}
    (made : withCapacity room columns = .ok fresh) (calls : List BurstCall) :
    (∃ b, fresh.run calls = .ok b ∧
      (b.length ≤ b.capacity ∧ ∀ row ∈ b.rows, row.count ≤ b.columns) ∧
      b.capacity = room ∧ b.columns = columns ∧
      b.ReadsAs (SlotList.run room columns calls) ∧
      (∀ i, (∃ slot, b.slot? i = .ok (some slot)) ↔ i < b.length) ∧
      (∀ antenna samples, (b.pushSlot antenna samples).1 = .ok () ↔
        b.length < room ∧ samples.length ≤ columns) ∧
      (∀ antenna samples next, b.pushSlot antenna samples = (.ok (), next) →
        next.ReadsAs { b.visible with slots := b.slots ++ [⟨antenna, samples⟩] }) ∧
      (∀ antenna samples cause next, b.pushSlot antenna samples = (.error cause, next) →
        next = b) ∧
      ∀ antenna samples cause next, b.setReference antenna samples = (.error cause, next) →
        next = b) ∨
    ∃ before behind samplesPerSlot drift count stopped,
      calls = before ++ .correctDrift samplesPerSlot drift :: behind ∧
      fresh.run before = .ok stopped ∧ stopped.ReadsAs (SlotList.run room columns before) ∧
      Limits.samplesPerSlot < samplesPerSlot ∧ Limits.counts ≤ count ∧
      stopped.correctDrift samplesPerSlot drift = .error (.countOverflow count) ∧
      fresh.run calls = .error (.countOverflow count) := by
  obtain ⟨sized, rfl, rfl, empty⟩ := sized_withCapacity made
  rcases sized.run calls with ⟨b, reached, kept, capacity, width, view⟩ |
    ⟨before, behind, samplesPerSlot, drift, count, stopped, split, ran, kept, view, overflow⟩
  · have stored := kept.stored
    have reads := stored.readsAs
    rw [view, empty] at reads
    refine .inl ⟨b, reached, ⟨stored.length_le, fun row member => (stored.fits row member).2⟩,
      capacity, width, reads, ?_, ?_, ?_, ?_, ?_⟩
    · intro i
      rw [stored.slot?_eq, ← stored.slots_length]
      simp only [Except.ok.injEq, ← Option.isSome_iff_exists]
      simp
    · intro antenna samples
      rw [← capacity, ← width]
      rcases b.pushSlot_cases antenna samples with ⟨free, fits, taken⟩ | ⟨refused, cause, left⟩
      · rw [taken]
        exact iff_of_true rfl ⟨free, fits⟩
      · rw [left]
        exact iff_of_false (fun same => by cases same) refused
    · intro antenna samples next taken
      rcases b.pushSlot_cases antenna samples with ⟨free, fits, same⟩ | ⟨-, cause, left⟩
      · cases taken.symm.trans same
        have appended := (stored.pushed antenna free fits).readsAs
        rw [visible, slots_pushed antenna samples free] at appended
        exact appended
      · cases taken.symm.trans left
    · intro antenna samples cause next refused
      rcases b.pushSlot_cases antenna samples with ⟨-, -, taken⟩ | ⟨-, _, left⟩
      · cases refused.symm.trans taken
      · cases refused.symm.trans left
        rfl
    · intro antenna samples cause next refused
      rcases b.setReference_cases antenna samples with ⟨-, taken⟩ | ⟨-, _, left⟩
      · cases refused.symm.trans taken
      · cases refused.symm.trans left
        rfl
  · have reads := kept.stored.readsAs
    rw [view, empty] at reads
    exact .inr ⟨before, behind, samplesPerSlot, drift, count, stopped, split, ran, reads, overflow⟩

end

/-- A long slot and a switch slot are pushed, the switch slot goes, one slot more is refused for its
length, and a short slot is pushed where the switch slot was. -/
theorem run_slotList_stale :
    let _ : Trigonometry := .platform
    let calls : List BurstCall :=
      [.push ⟨3⟩ [0, 0], .push .switching [0, 0], .write 1 fun _ _ => .ofParts 1 0,
        .removeSwitchSlots, .push ⟨5⟩ [0, 0, 0], .push ⟨4⟩ [0], .setReference ⟨11⟩ [0]]
    ∃ fresh b : SlottedBurst Phasor, withCapacity 2 2 = .ok fresh ∧ fresh.run calls = .ok b ∧
      b.readSlots = .ok [⟨⟨3⟩, [0, 0]⟩, ⟨⟨4⟩, [0]⟩] ∧
      b.rows[1]? = some ⟨⟨4⟩, 1, [0, .ofParts 1 0]⟩ ∧
      (b.pushSlot ⟨6⟩ []).1 ≠ .ok () := by
  intro _ calls
  have made : ∃ fresh : SlottedBurst Phasor, withCapacity 2 2 = .ok fresh := ⟨_, rfl⟩
  obtain ⟨fresh, made⟩ := made
  rcases run_slotList made calls with ⟨b, reached, -, -, -, reads, -, taken, -⟩ |
    ⟨before, behind, samplesPerSlot, drift, count, stopped, split, -⟩
  · refine ⟨fresh, b, made, reached, reads.slots, ?_, ?_⟩
    · cases made
      cases reached
      rfl
    · rw [Ne, taken, reads.length]
      decide
  · have member : .correctDrift samplesPerSlot drift ∈ calls := by
      rw [split]
      exact List.mem_append_right before List.mem_cons_self
    simp [calls] at member

end SlottedBurst

end DirectionFinding
