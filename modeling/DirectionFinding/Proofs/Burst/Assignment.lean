import DirectionFinding.Burst.Assignment
import DirectionFinding.Proofs.Burst.Storage
import DirectionFinding.Proofs.Sampling.Plan

/-!
Assignment of raw samples in closed form. Slot number, place in the switch sequence and samples left
move on at different rates; here each of them is a function of the slot number alone. With enough
samples the assignment succeeds, loses nothing and keeps the order; with too few it says how many
are missing, and nothing else can go wrong.
-/
namespace DirectionFinding

namespace Assignment

variable {σ : Type}

def cursorAfter (length step : Nat) : Nat → Nat
  | 0 => 0
  | steps + 1 => advance length step (cursorAfter length step steps)

private theorem advance_lt {length : Nat} (nonempty : 0 < length) (step cursor : Nat) :
    advance length step cursor < length := by
  unfold advance
  split <;> omega

private theorem cursorAfter_lt {length : Nat} (nonempty : 0 < length) (step steps : Nat) :
    cursorAfter length step steps < length := by
  cases steps with
  | zero => exact nonempty
  | succ steps => exact advance_lt nonempty step _

/-- Sampling slots of one pass through the sequence. -/
def passLength (length step : Nat) : Nat :=
  (length + step - 1) / step

theorem lt_passLength_iff {length step : Nat} (nonempty : 0 < length) (forward : 0 < step)
    (slot : Nat) : slot < passLength length step ↔ slot * step < length := by
  rw [passLength, ← Nat.succ_le_iff, Nat.le_div_iff_mul_le forward, Nat.succ_mul]
  omega

theorem passLength_pos {length step : Nat} (nonempty : 0 < length) (forward : 0 < step) :
    0 < passLength length step :=
  (lt_passLength_iff nonempty forward 0).mpr (by omega)

/-- Every pass starts over at the first place, wherever the last step of the pass before it landed. -/
theorem cursorAfter_eq {length : Nat} (nonempty : 0 < length) (step steps : Nat) :
    cursorAfter length step steps = steps % passLength length step * step := by
  induction steps with
  | zero => simp [cursorAfter]
  | succ steps ih =>
    rw [cursorAfter, ih, advance]
    by_cases forward : 0 < step
    · have inside := Nat.mod_lt steps (passLength_pos nonempty forward)
      rw [← Nat.mod_add_mod steps _ 1, ← Nat.succ_mul]
      split
      · rename_i leaves
        have last : ¬ steps % passLength length step + 1 < passLength length step := by
          rw [lt_passLength_iff nonempty forward]
          exact Nat.not_lt.mpr leaves
        have whole : steps % passLength length step + 1 = passLength length step := by omega
        rw [whole, Nat.mod_self, Nat.zero_mul]
      · rename_i stays
        have next : steps % passLength length step + 1 < passLength length step :=
          (lt_passLength_iff nonempty forward _).mpr (Nat.not_le.mp stays)
        rw [Nat.mod_eq_of_lt next]
    · obtain rfl := Nat.eq_zero_of_not_pos forward
      simp only [Nat.mul_zero, if_neg (Nat.not_le.mpr nonempty)]

private theorem cursorAfter_one {length : Nat} (nonempty : 0 < length) (steps : Nat) :
    cursorAfter length 1 steps = steps % length := by
  rw [cursorAfter_eq nonempty, passLength, Nat.add_sub_cancel, Nat.div_one, Nat.mul_one]

def samplingSlotsBefore (regime : SamplingRegime) (slot : Nat) : Nat :=
  if regime = .overSampling then (slot + 1) / 2 else slot

def cursorAt (plan : SamplingPlan) (sequence : List Antenna) (slot : Nat) : Nat :=
  cursorAfter sequence.length plan.antennaStep (samplingSlotsBefore plan.regime slot)

private theorem cursorAt_lt {sequence : List Antenna} (named : 0 < sequence.length)
    (plan : SamplingPlan) (slot : Nat) : cursorAt plan sequence slot < sequence.length :=
  cursorAfter_lt named _ _

private theorem cursorAt_succ (plan : SamplingPlan) (sequence : List Antenna) (slot : Nat) :
    cursorAt plan sequence (slot + 1) =
      if isSwitchSlot plan.regime slot then cursorAt plan sequence slot
      else advance sequence.length plan.antennaStep (cursorAt plan sequence slot) := by
  unfold cursorAt samplingSlotsBefore
  by_cases overSampled : plan.regime = .overSampling
  · simp only [overSampled, if_true, isSwitchSlot, beq_self_eq_true, Bool.true_and, beq_iff_eq]
    split
    · rename_i odd
      rw [show (slot + 1 + 1) / 2 = (slot + 1) / 2 by omega]
    · rename_i even
      rw [show (slot + 1 + 1) / 2 = (slot + 1) / 2 + 1 by omega]
      rfl
  · simp only [overSampled, if_false, isSwitchSlot, beq_eq_false_iff_ne.mpr overSampled,
      Bool.false_and, Bool.false_eq_true]
    rfl

def slotAntenna (plan : SamplingPlan) (sequence : List Antenna) (slot : Nat) : Antenna :=
  if isSwitchSlot plan.regime slot then .switching
  else sequence.getD (cursorAt plan sequence slot) .switching

def slotSamples (plan : SamplingPlan) (samples : List σ) (slot : Nat) : List σ :=
  (samples.drop (slot * plan.samplesPerSlot)).take plan.samplesPerSlot

def assignedSlot (plan : SamplingPlan) (sequence : List Antenna) (samples : List σ) (slot : Nat) :
    Slot σ :=
  ⟨slotAntenna plan sequence slot, slotSamples plan samples slot⟩

variable {plan : SamplingPlan} {sequence : List Antenna} {samples : List σ} {slot : Nat}

private theorem antennaAt_eq_ok {cursor : Nat} (inside : cursor < sequence.length) :
    antennaAt sequence cursor = .ok (sequence.getD cursor .switching) := by
  simp [antennaAt, inside]

private theorem splitSamples_eq_ok {count : Nat} (enough : count ≤ samples.length) :
    splitSamples count samples = .ok (samples.take count, samples.drop count) :=
  if_neg (Nat.not_lt.mpr enough)

theorem slotSamples_length (enough : (slot + 1) * plan.samplesPerSlot ≤ samples.length) :
    (slotSamples plan samples slot).length = plan.samplesPerSlot := by
  rw [Nat.succ_mul] at enough
  simp only [slotSamples, List.length_take, List.length_drop]
  omega

private theorem slotSamples_flatMap (plan : SamplingPlan) (samples : List σ) (slots : Nat) :
    (List.range slots).flatMap (slotSamples plan samples) =
      samples.take (slots * plan.samplesPerSlot) := by
  induction slots with
  | zero => simp
  | succ slots ih =>
    rw [List.range_succ, List.flatMap_append, ih, Nat.succ_mul, List.take_add]
    simp [slotSamples]

theorem slotAntenna_sampling (named : 0 < sequence.length)
    (sampling : isSwitchSlot plan.regime slot = false) :
    sequence[cursorAt plan sequence slot]? = some (slotAntenna plan sequence slot) := by
  simp [slotAntenna, sampling, cursorAt_lt named plan slot]

theorem slotAntenna_regular (named : 0 < sequence.length) (regular : plan.regime = .regular)
    (step : plan.antennaStep = 1) :
    sequence[slot % sequence.length]? = some (slotAntenna plan sequence slot) := by
  have cursor : cursorAt plan sequence slot = slot % sequence.length := by
    simp [cursorAt, samplingSlotsBefore, regular, step, cursorAfter_one named]
  rw [← cursor]
  exact slotAntenna_sampling named (by simp [isSwitchSlot, regular])

private theorem slotAntenna_overSampling (named : 0 < sequence.length)
    (overSampled : plan.regime = .overSampling) (step : plan.antennaStep = 1) :
    if slot % 2 = 1 then slotAntenna plan sequence slot = .switching
    else sequence[slot / 2 % sequence.length]? = some (slotAntenna plan sequence slot) := by
  split
  · rename_i odd
    simp [slotAntenna, isSwitchSlot, overSampled, odd]
  · rename_i even
    have cursor : cursorAt plan sequence slot = slot / 2 % sequence.length := by
      simp only [cursorAt, samplingSlotsBefore, overSampled, if_true, step, cursorAfter_one named]
      rw [show (slot + 1) / 2 = slot / 2 by omega]
    rw [← cursor]
    exact slotAntenna_sampling named (by simpa [isSwitchSlot, overSampled] using even)

theorem slotAntenna_double (named : 0 < sequence.length)
    (overSampled : plan.regime = .overSampling) (step : plan.antennaStep = 1) (j : Nat) :
    sequence[j % sequence.length]? = some (slotAntenna plan sequence (2 * j)) := by
  have even : if 2 * j % 2 = 1 then _ else _ := slotAntenna_overSampling named overSampled step
  rwa [if_neg (by omega), Nat.mul_div_cancel_left j Nat.two_pos] at even

private theorem splitSamples_slot (enough : (slot + 1) * plan.samplesPerSlot ≤ samples.length) :
    splitSamples plan.samplesPerSlot (samples.drop (slot * plan.samplesPerSlot)) =
      .ok (slotSamples plan samples slot, samples.drop ((slot + 1) * plan.samplesPerSlot)) := by
  rw [Nat.succ_mul] at enough ⊢
  rw [splitSamples_eq_ok (by rw [List.length_drop]; omega), List.drop_drop]
  rfl

/-- One slot of the layout: whichever way the slot goes, all three rates agree with their closed
forms again afterwards. -/
theorem layOut_succ (b : SlottedBurst σ) (left : Nat) (named : 0 < sequence.length)
    (enough : (slot + 1) * plan.samplesPerSlot ≤ samples.length) :
    layOut plan sequence slot (cursorAt plan sequence slot)
        (samples.drop (slot * plan.samplesPerSlot)) b (left + 1) =
      (Located.after (b.pushSlot (slotAntenna plan sequence slot) (slotSamples plan samples slot)) >>=
        fun next => layOut plan sequence (slot + 1) (cursorAt plan sequence (slot + 1))
          (samples.drop ((slot + 1) * plan.samplesPerSlot)) next left) := by
  have cursor := cursorAt_succ plan sequence slot
  simp only [layOut, splitSamples_slot enough, slotAntenna]
  split
  · rename_i switching
    rw [if_pos switching] at cursor
    rw [cursor]
    rfl
  · rename_i sampling
    rw [if_neg sampling] at cursor
    rw [antennaAt_eq_ok (cursorAt_lt named plan slot), cursor]
    rfl

structure Extends (b next : SlottedBurst σ) (added : List (Slot σ)) : Prop where
  stored : next.Stored
  slots : next.slots = b.slots ++ added
  capacity : next.capacity = b.capacity
  columns : next.columns = b.columns
  reference : next.reference = b.reference
  referenceAntenna : next.referenceAntenna = b.referenceAntenna

theorem layOut_extends (left slot : Nat) (b : SlottedBurst σ) (stored : b.Stored)
    (free : b.length + left ≤ b.capacity) (room : plan.samplesPerSlot ≤ b.columns)
    (named : 0 < sequence.length) (enough : (slot + left) * plan.samplesPerSlot ≤ samples.length) :
    ∃ next, layOut plan sequence slot (cursorAt plan sequence slot)
        (samples.drop (slot * plan.samplesPerSlot)) b left = .ok next ∧
      Extends b next ((List.range' slot left).map (assignedSlot plan sequence samples)) := by
  -- Cursor and samples are functions of the slot, so nothing but slot and burst has to vary.
  induction left generalizing slot b with
  | zero => exact ⟨b, rfl, stored, by simp, rfl, rfl, rfl, rfl⟩
  | succ left ih =>
    have here : (slot + 1) * plan.samplesPerSlot ≤ samples.length :=
      Nat.le_trans (Nat.mul_le_mul_right _ (by omega)) enough
    have fits : (slotSamples plan samples slot).length ≤ b.columns := by
      rw [slotSamples_length here]
      exact room
    have pushed := SlottedBurst.pushSlot_eq_ok (slotAntenna plan sequence slot)
      (by omega : b.length < b.capacity) fits
    obtain ⟨next, laidOut, extended⟩ := ih (slot + 1) _
      (stored.pushed (slotAntenna plan sequence slot) (by omega) fits)
      (by rw [SlottedBurst.capacity_pushed]; simp only [SlottedBurst.pushed]; omega) room
      (by rw [Nat.add_right_comm]; exact enough)
    refine ⟨next, ?_, extended.stored, ?_, ?_, extended.columns, extended.reference,
      extended.referenceAntenna⟩
    · rw [layOut_succ b left named here, pushed]
      exact laidOut
    · rw [extended.slots, SlottedBurst.slots_pushed _ _ (by omega), List.range'_succ,
        List.map_cons, List.append_assoc]
      rfl
    · rw [extended.capacity, SlottedBurst.capacity_pushed]

private theorem slotSamples_take {bound : Nat} (inside : (slot + 1) * plan.samplesPerSlot ≤ bound) :
    slotSamples plan (samples.take bound) slot = slotSamples plan samples slot := by
  rw [Nat.succ_mul] at inside
  simp only [slotSamples, List.drop_take, List.take_take]
  rw [Nat.min_eq_left (by omega)]

private theorem layOut_take (left slot bound : Nat) (b : SlottedBurst σ)
    (named : 0 < sequence.length)
    (inside : (slot + left) * plan.samplesPerSlot ≤ bound) (enough : bound ≤ samples.length) :
    layOut plan sequence slot (cursorAt plan sequence slot)
        ((samples.take bound).drop (slot * plan.samplesPerSlot)) b left =
      layOut plan sequence slot (cursorAt plan sequence slot)
        (samples.drop (slot * plan.samplesPerSlot)) b left := by
  induction left generalizing slot b with
  | zero => rfl
  | succ left ih =>
    have here : (slot + 1) * plan.samplesPerSlot ≤ bound :=
      Nat.le_trans (Nat.mul_le_mul_right _ (by omega)) inside
    have cut : (samples.take bound).length = bound := by
      rw [List.length_take]
      omega
    rw [layOut_succ b left named (by rw [cut]; exact here),
      layOut_succ b left named (Nat.le_trans here enough), slotSamples_take here]
    congr 1
    funext next
    exact ih (slot + 1) next (by rw [Nat.add_right_comm]; exact inside)

end Assignment

namespace RawBurst

variable {σ : Type} {raw : RawBurst σ} {s : SamplingSettings} {plan : SamplingPlan}
  {array : AntennaArray}

theorem valid_length (raw : RawBurst σ) :
    raw.valid.length = min raw.announced.toNat raw.samples.length := by
  simp [valid]

theorem valid_ofSamples (frequency : UInt32) {samples : List σ}
    (countable : samples.length < UInt32.size) : (ofSamples frequency samples).valid = samples := by
  rw [ofSamples, valid, UInt32.toNat_ofNat', Nat.mod_eq_of_lt countable, List.take_length]

structure AssignedTo (raw : RawBurst σ) (plan : SamplingPlan) (array : AntennaArray)
    (b : SlottedBurst σ) : Prop where
  stored : b.Stored
  capacity : b.capacity = plan.effectiveSlots
  columns : b.columns = plan.samplesPerSlot
  frequency : b.frequency = raw.frequency
  referenceAntenna : b.referenceAntenna = array.reference
  reference : b.reference = raw.valid.take plan.referenceSamples
  slots : b.slots = (List.range plan.effectiveSlots).map
    (Assignment.assignedSlot plan array.sequence (raw.valid.drop plan.referenceSamples))

variable [Inhabited σ]

private theorem assign_eq_layOut (follows : plan.Follows s) (named : array.sequence ≠ [])
    (enough : plan.requiredSamples ≤ raw.valid.length) {empty : SlottedBurst σ}
    (made : SlottedBurst.withCapacity plan.effectiveSlots plan.samplesPerSlot = .ok empty) :
    raw.assign plan array =
      (Assignment.layOut plan array.sequence 0 (Assignment.cursorAt plan array.sequence 0)
        ((raw.valid.drop plan.referenceSamples).drop (0 * plan.samplesPerSlot))
        (empty.withReference array.reference (raw.valid.take plan.referenceSamples))
        plan.effectiveSlots >>= fun b => return { b with frequency := raw.frequency }) := by
  have countable : requireCount plan.requiredSamples = .ok () := if_pos follows.requiredSamples_lt
  have present : array.sequence.isEmpty = false := by simpa using named
  have complete : ¬raw.valid.length < plan.requiredSamples := Nat.not_lt.mpr enough
  have reached : plan.referenceSamples ≤ raw.valid.length :=
    Nat.le_trans plan.referenceSamples_le_requiredSamples enough
  have referenceFits : (raw.valid.take plan.referenceSamples).length ≤ Limits.referenceSamples := by
    rw [List.length_take]
    exact Nat.le_trans (Nat.min_le_left _ _) follows.referenceSamples_le
  have start : Assignment.cursorAt plan array.sequence 0 = 0 := by
    simp [Assignment.cursorAt, Assignment.samplingSlotsBefore, Assignment.cursorAfter]
  simp only [assign, present, countable, complete, made, Assignment.splitSamples_eq_ok reached,
    SlottedBurst.setReference_eq_ok _ referenceFits, Located.after_ok, Located.ok_bind, start,
    Nat.zero_mul, List.drop_zero, Bool.false_eq_true, if_false]

theorem assign_assignedTo (follows : plan.Follows s) (named : array.sequence ≠ [])
    (enough : plan.requiredSamples ≤ raw.valid.length) :
    ∃ b, raw.assign plan array = .ok b ∧ raw.AssignedTo plan array b := by
  obtain ⟨empty, made, stored, noSlots, unused, capacity, columns⟩ :=
    SlottedBurst.withCapacity_empty (σ := σ) follows.effectiveSlots_le follows.samplesPerSlot_le
  have switching := SamplingPlan.switching_le_length enough
  obtain ⟨next, laidOut, extended⟩ := Assignment.layOut_extends plan.effectiveSlots 0
    (empty.withReference array.reference (raw.valid.take plan.referenceSamples))
    (stored.withReference _ _) (by change empty.length + _ ≤ empty.capacity; omega)
    (Nat.le_of_eq columns.symm) (List.length_pos_iff.mpr named)
    (by rw [Nat.zero_add]; exact switching)
  refine ⟨{ next with frequency := raw.frequency }, ?_, ⟨extended.stored.1, extended.stored.2⟩,
    extended.capacity.trans capacity, extended.columns.trans columns, rfl,
    extended.referenceAntenna, extended.reference, ?_⟩
  · rw [assign_eq_layOut follows named enough made, laidOut]
    rfl
  · have appended := extended.slots
    change next.slots = empty.slots ++ _ at appended
    rw [noSlots, List.nil_append, ← List.range_eq_range'] at appended
    exact appended

theorem assign_truncated (follows : plan.Follows s) (named : array.sequence ≠ [])
    (few : raw.valid.length < plan.requiredSamples) :
    raw.assign plan array = .error (.truncated plan.requiredSamples raw.valid.length) := by
  have countable : requireCount plan.requiredSamples = .ok () := if_pos follows.requiredSamples_lt
  have present : array.sequence.isEmpty = false := by simpa using named
  simp only [assign, present, countable, few, Located.ok_bind, Bool.false_eq_true, if_false,
    if_true]
  rfl

private theorem assign_surplus (follows : plan.Follows s) (named : array.sequence ≠ [])
    (enough : plan.requiredSamples ≤ raw.valid.length) :
    assign { raw with samples := raw.samples.take plan.requiredSamples } plan array =
      raw.assign plan array := by
  have cut : valid { raw with samples := raw.samples.take plan.requiredSamples } =
      raw.valid.take plan.requiredSamples := by
    simp [valid, List.take_take, Nat.min_comm]
  have cutEnough : plan.requiredSamples ≤
      (valid { raw with samples := raw.samples.take plan.requiredSamples }).length := by
    rw [cut, List.length_take]
    omega
  obtain ⟨empty, made, _⟩ := SlottedBurst.withCapacity_empty (σ := σ) follows.effectiveSlots_le
    follows.samplesPerSlot_le
  have reference : (raw.valid.take plan.requiredSamples).take plan.referenceSamples =
      raw.valid.take plan.referenceSamples := by
    rw [List.take_take, Nat.min_eq_left plan.referenceSamples_le_requiredSamples]
  have switching : (raw.valid.take plan.requiredSamples).drop plan.referenceSamples =
      (raw.valid.drop plan.referenceSamples).take (plan.effectiveSlots * plan.samplesPerSlot) := by
    rw [List.drop_take, SamplingPlan.requiredSamples, Nat.add_sub_cancel_left]
  rw [assign_eq_layOut follows named enough made, assign_eq_layOut follows named cutEnough made,
    cut, reference, switching]
  rw [Assignment.layOut_take plan.effectiveSlots 0 _ _ (List.length_pos_iff.mpr named)
    (Nat.le_of_eq (by rw [Nat.zero_add])) (SamplingPlan.switching_le_length enough)]

end RawBurst

namespace RawBurst.AssignedTo

variable {σ : Type} {raw : RawBurst σ} {s : SamplingSettings} {plan : SamplingPlan}
  {array : AntennaArray} {b : SlottedBurst σ}

private theorem slot_eq (assigned : raw.AssignedTo plan array b) {i : Nat} {slot : Slot σ}
    (found : b.slots[i]? = some slot) :
    i < plan.effectiveSlots ∧ slot = Assignment.assignedSlot plan array.sequence
      (raw.valid.drop plan.referenceSamples) i := by
  rw [assigned.slots, List.getElem?_map, Option.map_eq_some_iff] at found
  obtain ⟨place, present, rfl⟩ := found
  obtain ⟨inside, same⟩ := List.getElem?_eq_some_iff.mp present
  rw [List.length_range] at inside
  rw [List.getElem_range] at same
  exact ⟨inside, by rw [same]⟩

private theorem samples_eq (assigned : raw.AssignedTo plan array b) :
    b.reference ++ b.slots.flatMap Slot.samples = raw.valid.take plan.requiredSamples := by
  have slots : b.slots.flatMap Slot.samples =
      (raw.valid.drop plan.referenceSamples).take (plan.effectiveSlots * plan.samplesPerSlot) := by
    rw [assigned.slots, List.flatMap_map]
    exact Assignment.slotSamples_flatMap plan _ plan.effectiveSlots
  rw [assigned.reference, slots, SamplingPlan.requiredSamples, List.take_add]

private theorem slot_length (assigned : raw.AssignedTo plan array b)
    (enough : plan.requiredSamples ≤ raw.valid.length) {slot : Slot σ} (member : slot ∈ b.slots) :
    slot.samples.length = plan.samplesPerSlot := by
  obtain ⟨i, found⟩ := List.mem_iff_getElem?.mp member
  obtain ⟨inside, rfl⟩ := assigned.slot_eq found
  exact Assignment.slotSamples_length (Nat.le_trans (Nat.mul_le_mul_right _ inside)
    (SamplingPlan.switching_le_length enough))

private theorem regular_antenna (assigned : raw.AssignedTo plan array b) (follows : plan.Follows s)
    (named : array.sequence ≠ []) (regular : plan.regime = .regular) {i : Nat} {slot : Slot σ}
    (found : b.slots[i]? = some slot) :
    array.sequence[i % array.sequence.length]? = some slot.antenna := by
  obtain ⟨_, rfl⟩ := assigned.slot_eq found
  exact Assignment.slotAntenna_regular (List.length_pos_iff.mpr named) regular
    (follows.regular_step regular)

private theorem overSampling_antenna (assigned : raw.AssignedTo plan array b)
    (follows : plan.Follows s)
    (named : array.sequence ≠ []) (overSampled : plan.regime = .overSampling) {i : Nat}
    {slot : Slot σ} (found : b.slots[i]? = some slot) :
    if i % 2 = 1 then slot.antenna = .switching
    else array.sequence[i / 2 % array.sequence.length]? = some slot.antenna := by
  obtain ⟨_, rfl⟩ := assigned.slot_eq found
  exact Assignment.slotAntenna_overSampling (List.length_pos_iff.mpr named) overSampled
    (follows.overSampling_step overSampled)

end RawBurst.AssignedTo

namespace RawBurst

/-- Assignment succeeds exactly if enough samples are announced and present, and otherwise tells
both numbers. A success loses, repeats and reorders nothing: reference samples and slots are the
samples the plan asks for, cut into slots of the planned length, and samples beyond them could as
well be missing. -/
theorem assign_partitions {σ : Type} [Inhabited σ] (raw : RawBurst σ) {s : SamplingSettings}
    {plan : SamplingPlan} {array : AntennaArray} (accepted : SamplingPlan.ofSettings s = .ok plan)
    (named : array.sequence ≠ []) :
    let available := min raw.announced.toNat raw.samples.length
    ((∃ b, raw.assign plan array = .ok b) ↔ plan.requiredSamples ≤ available) ∧
    (available < plan.requiredSamples →
      raw.assign plan array = .error (.truncated plan.requiredSamples available)) ∧
    ∀ b, raw.assign plan array = .ok b →
      b.reference ++ b.slots.flatMap Slot.samples = raw.samples.take plan.requiredSamples ∧
      assign { raw with samples := raw.samples.take plan.requiredSamples } plan array = .ok b ∧
      b.reference.length = plan.referenceSamples ∧
      b.slots.length = plan.effectiveSlots ∧
      (∀ slot ∈ b.slots, slot.samples.length = plan.samplesPerSlot) ∧
      b.frequency = raw.frequency ∧
      b.referenceAntenna = array.reference ∧
      (plan.regime = .regular → ∀ i slot, b.slots[i]? = some slot →
        array.sequence[i % array.sequence.length]? = some slot.antenna) ∧
      (plan.regime = .overSampling → ∀ i slot, b.slots[i]? = some slot →
        if i % 2 = 1 then slot.antenna = .switching
        else array.sequence[i / 2 % array.sequence.length]? = some slot.antenna) := by
  intro available
  have counted : raw.valid.length = available := raw.valid_length
  have follows := SamplingPlan.ofSettings_follows accepted
  have short (few : available < plan.requiredSamples) :
      raw.assign plan array = .error (.truncated plan.requiredSamples available) := by
    have refused := assign_truncated follows named (by rw [counted]; exact few)
    rwa [counted] at refused
  have complete (b : SlottedBurst σ) (made : raw.assign plan array = .ok b) :
      plan.requiredSamples ≤ available := by
    apply Nat.le_of_not_lt
    intro few
    rw [short few] at made
    contradiction
  refine ⟨⟨fun ⟨b, made⟩ => complete b made, fun enough => ?_⟩, short, ?_⟩
  · obtain ⟨b, made, _⟩ := assign_assignedTo follows named (by rw [counted]; exact enough)
    exact ⟨b, made⟩
  · intro b made
    have enough : plan.requiredSamples ≤ raw.valid.length := by
      rw [counted]
      exact complete b made
    obtain ⟨same, assignedSame, assigned⟩ := assign_assignedTo follows named enough
    cases made.symm.trans assignedSame
    have whole : raw.valid.take plan.requiredSamples = raw.samples.take plan.requiredSamples := by
      have announced : plan.requiredSamples ≤ raw.announced.toNat :=
        Nat.le_trans (complete b made) (Nat.min_le_left _ _)
      rw [valid, List.take_take, Nat.min_eq_left announced]
    refine ⟨assigned.samples_eq.trans whole, (assign_surplus follows named enough).trans made,
      ?_, ?_, fun slot member => assigned.slot_length enough member, assigned.frequency,
      assigned.referenceAntenna, fun regular i slot found => ?_, fun overSampled i slot found => ?_⟩
    · have reached := Nat.le_trans plan.referenceSamples_le_requiredSamples enough
      rw [assigned.reference, List.length_take, Nat.min_eq_left reached]
    · rw [assigned.slots, List.length_map, List.length_range]
    · exact assigned.regular_antenna follows named regular found
    · exact assigned.overSampling_antenna follows named overSampled found

/-- Four slots of one sample, two of them switch slots, behind eight reference samples. -/
theorem assign_partitions_range : ∃ plan,
    SamplingPlan.ofSettings { cteUnits := 2, sampleSpacing := .us1 } = .ok plan ∧
    ({} : AntennaArray).sequence ≠ [] ∧
    ∃ b, (ofSamples 2440 (List.range 14)).assign plan {} = .ok b ∧
      b.reference ++ b.slots.flatMap Slot.samples = List.range 12 := by
  have accepted : SamplingPlan.ofSettings { cteUnits := 2, sampleSpacing := .us1 } =
      .ok ⟨.overSampling, 4000, 2000, 1000, 1000, 8, 4, 1, 1, 2000⟩ := by cbv
  have named : ({} : AntennaArray).sequence ≠ [] := by decide
  obtain ⟨enough, _, parts⟩ := assign_partitions (ofSamples 2440 (List.range 14)) accepted named
  obtain ⟨b, made⟩ := enough.mpr (by decide)
  exact ⟨_, accepted, named, b, made, (parts b made).1⟩

end RawBurst

end DirectionFinding
