import DirectionFinding.Proofs.Burst.Storage

/-!
Dropping switch slots in place. The pass that moves rows to the front is filtering: the rows it
keeps stand in front in their order, and every row behind them is left as it was.
-/
namespace DirectionFinding

namespace SlottedBurst

variable {σ : Type}

def sampledRows (rows : List (Row σ)) : List (Row σ) :=
  rows.filter fun r => r.antenna.isValid

private theorem length_sampledRows_le (rows : List (Row σ)) :
    (sampledRows rows).length ≤ rows.length :=
  List.length_filter_le _ _

private theorem moveRow_eq_set (rows : List (Row σ)) (source target : Nat)
    (inside : source < rows.length) :
    moveRow rows source target = rows.set target rows[source] := by
  simp only [moveRow, List.getElem?_eq_getElem inside]
  split
  · rename_i same
    subst same
    exact (List.set_getElem_self inside).symm
  · rfl

/-- The pass over `left` rows from `read` on, with `write` rows kept so far: no row is overwritten
before it was read, because `write` never overtakes `read`. -/
theorem compactFrom_eq (left : Nat) (rows : List (Row σ)) (read write : Nat)
    (ordered : write ≤ read) (inside : read + left ≤ rows.length) :
    let kept := sampledRows ((rows.drop read).take left)
    compactFrom rows read write left =
      (rows.take write ++ kept ++ rows.drop (write + kept.length), write + kept.length) := by
  induction left generalizing rows read write with
  | zero => simp [compactFrom, sampledRows]
  | succ left ih =>
    have here : read < rows.length := by omega
    have first : (rows.drop read).take (left + 1) =
        rows[read] :: (rows.drop (read + 1)).take left := by
      rw [List.drop_eq_getElem_cons here, List.take_succ_cons]
    simp only [compactFrom, List.getElem?_eq_getElem here, first]
    cases valid : rows[read].antenna.isValid with
    | false =>
      have rest := ih rows (read + 1) write (by omega) (by omega)
      simpa [sampledRows, valid] using rest
    | true =>
      have moved := moveRow_eq_set rows read write here
      have rest := ih (rows.set write rows[read]) (read + 1) (write + 1) (by omega)
        (by rw [List.length_set]; omega)
      have unread : (rows.set write rows[read]).drop (read + 1) = rows.drop (read + 1) :=
        List.drop_set_of_lt (by omega)
      have taken : (rows.set write rows[read]).take (write + 1) =
          rows.take write ++ [rows[read]] := by
        rw [List.take_add_one, List.take_set_of_le (Nat.le_refl write)]
        simp [Nat.lt_of_le_of_lt ordered here]
      have behind (n : Nat) : (rows.set write rows[read]).drop (write + 1 + n) =
          rows.drop (write + 1 + n) :=
        List.drop_set_of_lt (by omega)
      simp only [unread, taken, behind] at rest
      simp only [if_true, moved, rest, sampledRows, List.filter_cons, valid, List.length_cons,
        List.append_assoc, List.cons_append, List.nil_append]
      simp only [Nat.add_assoc, Nat.add_comm 1]

theorem compactFrom_add (first left : Nat) (rows : List (Row σ)) (read write : Nat) :
    compactFrom rows read write (first + left) =
      compactFrom (compactFrom rows read write first).1 (read + first)
        (compactFrom rows read write first).2 left := by
  induction first generalizing rows read write with
  | zero => rw [Nat.zero_add, Nat.add_zero, compactFrom]
  | succ first ih =>
    have later : read + (first + 1) = read + 1 + first := by omega
    rw [Nat.succ_add, later]
    simp only [compactFrom]
    split
    · split
      · exact ih _ _ _
      · exact ih _ _ _
    · exact ih _ _ _

/-- When the pass comes to a row, nothing at or behind the place it writes to has changed. -/
theorem compactFrom_unread (rows : List (Row σ)) {read : Nat} (inside : read ≤ rows.length) :
    let reached := compactFrom rows 0 0 read
    reached.2 ≤ read ∧ reached.1.drop reached.2 = rows.drop reached.2 := by
  have pass := compactFrom_eq read rows 0 0 (Nat.le_refl 0) (by omega)
  simp only [List.drop_zero, List.take_zero, List.nil_append, Nat.zero_add] at pass
  simp only [pass]
  constructor
  · have fewer := length_sampledRows_le (rows.take read)
    rw [List.length_take] at fewer
    omega
  · rw [List.drop_left]

def compacted (b : SlottedBurst σ) : SlottedBurst σ :=
  let kept := sampledRows (b.rows.take b.length)
  { b with
    rows := kept ++ b.rows.drop kept.length
    length := kept.length }

variable {b : SlottedBurst σ}

theorem removeSwitchSlots_eq_ok (inside : b.length ≤ b.capacity) :
    b.removeSwitchSlots = .ok (b.length - b.compacted.length, b.compacted) := by
  have pass := compactFrom_eq b.length b.rows 0 0 (Nat.le_refl 0)
    (by simpa [capacity] using inside)
  simp only [List.drop_zero, List.take_zero, List.nil_append, Nat.zero_add] at pass
  simp only [removeSwitchSlots, requireStored_eq_ok inside, pass]
  rfl

theorem slots_compacted (b : SlottedBurst σ) :
    b.compacted.slots = b.slots.filter fun slot => slot.antenna.isValid := by
  simp only [slots, compacted, sampledRows, List.take_left, List.filter_map]
  rfl

theorem length_compacted_le (b : SlottedBurst σ) : b.compacted.length ≤ b.compacted.capacity := by
  simp [compacted, capacity]

theorem Stored.compacted (stored : b.Stored) : b.compacted.Stored := by
  refine ⟨b.length_compacted_le, ?_⟩
  intro r member
  rcases List.mem_append.mp member with kept | behind
  · exact stored.fits r (List.mem_of_mem_take (List.mem_filter.mp kept).1)
  · exact stored.fits r (List.mem_of_mem_drop behind)

theorem capacity_compacted (b : SlottedBurst σ) : b.compacted.capacity = b.capacity := by
  have fewer := length_sampledRows_le (b.rows.take b.length)
  simp only [List.length_take] at fewer
  simp only [capacity, compacted, List.length_append, List.length_drop]
  omega

private theorem compacted_compacted (b : SlottedBurst σ) : b.compacted.compacted = b.compacted := by
  have kept : sampledRows (b.compacted.rows.take b.compacted.length) =
      b.compacted.rows.take b.compacted.length := by
    simp only [compacted, sampledRows, List.take_left, List.filter_filter, Bool.and_self]
  have count : (b.compacted.rows.take b.compacted.length).length = b.compacted.length := by
    rw [List.length_take]
    exact Nat.min_eq_left b.length_compacted_le
  have rows : b.compacted.compacted.rows = b.compacted.rows := by
    rw [compacted, kept, count, List.take_append_drop]
  have length : b.compacted.compacted.length = b.compacted.length := by
    rw [compacted, kept, count]
  calc b.compacted.compacted
      = { b.compacted with
          rows := b.compacted.compacted.rows, length := b.compacted.compacted.length } := rfl
    _ = b.compacted := by rw [rows, length]

/-- Dropping the switch slots in place is filtering, whatever the antennas and the counts of the rows
are: the slots that hold an antenna are left in their order, all that is not a row in front of the
new end is as it was, every row is read before anything is written over it, and there is nothing to
drop a second time. -/
theorem removeSwitchSlots_filters (b : SlottedBurst σ) (inside : b.length ≤ b.capacity) :
    ∃ removed after, b.removeSwitchSlots = .ok (removed, after) ∧
      after.slots = b.slots.filter (fun slot => slot.antenna.isValid) ∧
      after.length = after.slots.length ∧
      removed = (b.slots.filter fun slot => !slot.antenna.isValid).length ∧
      after.referenceAntenna = b.referenceAntenna ∧ after.reference = b.reference ∧
      after.frequency = b.frequency ∧ after.capacity = b.capacity ∧ after.columns = b.columns ∧
      after.rows.drop after.length = b.rows.drop after.length ∧
      (∀ read ≤ b.length,
        let reached := compactFrom b.rows 0 0 read
        reached.2 ≤ read ∧ reached.1.drop reached.2 = b.rows.drop reached.2 ∧
          compactFrom reached.1 read reached.2 (b.length - read) = (after.rows, after.length)) ∧
      after.removeSwitchSlots = .ok (0, after) := by
  have made := removeSwitchSlots_eq_ok inside
  have again := removeSwitchSlots_eq_ok b.length_compacted_le
  have visible : b.compacted.slots.length = b.compacted.length := slots_length b.length_compacted_le
  refine ⟨_, b.compacted, made, b.slots_compacted, visible.symm, ?_, rfl, rfl, rfl,
    b.capacity_compacted, rfl, ?_, ?_, ?_⟩
  · have parted := List.length_eq_countP_add_countP (fun slot => slot.antenna.isValid) (l := b.slots)
    rw [b.slots_compacted, ← List.countP_eq_length_filter] at visible
    rw [slots_length inside] at parted
    rw [← visible, ← List.countP_eq_length_filter]
    simp only [Bool.not_eq_true, Bool.decide_eq_false] at parted
    omega
  · simp only [compacted, List.drop_left]
  · intro read earlier
    obtain ⟨behind, unread⟩ := compactFrom_unread b.rows (Nat.le_trans earlier inside)
    refine ⟨behind, unread, ?_⟩
    have cut := compactFrom_add read (b.length - read) b.rows 0 0
    have pass := compactFrom_eq b.length b.rows 0 0 (Nat.le_refl 0)
      (by rw [Nat.zero_add]; exact inside)
    rw [Nat.add_sub_cancel' earlier, Nat.zero_add] at cut
    rw [← cut, pass]
    simp only [compacted, List.drop_zero, List.take_zero, List.nil_append, Nat.zero_add]
  · rw [again, compacted_compacted, Nat.sub_self]

/-- Slots of two, one and no samples between switch slots, and one row that is not in use. -/
theorem removeSwitchSlots_filters_ragged :
    let b : SlottedBurst Nat :=
      { length := 5, frequency := 2440, referenceAntenna := ⟨11⟩, reference := [8, 9], columns := 2
        rows := [⟨.switching, 1, [7, 0]⟩, ⟨⟨3⟩, 2, [1, 2]⟩, ⟨⟨4⟩, 0, [5, 5]⟩,
          ⟨.switching, 2, [6, 6]⟩, ⟨⟨3⟩, 1, [4, 0]⟩, ⟨⟨9⟩, 2, [3, 3]⟩] }
    b.length ≤ b.capacity ∧ ∃ after, b.removeSwitchSlots = .ok (2, after) ∧
      after.slots = [⟨⟨3⟩, [1, 2]⟩, ⟨⟨4⟩, []⟩, ⟨⟨3⟩, [4]⟩] ∧
      after.rows.drop after.length = b.rows.drop 3 ∧
      after.removeSwitchSlots = .ok (0, after) := by
  intro b
  have inside : b.length ≤ b.capacity := by decide
  obtain ⟨removed, after, made, slots, length, count, -, -, -, -, -, behind, -, again⟩ :=
    removeSwitchSlots_filters b inside
  have two : removed = 2 := count.trans (by decide)
  have left : after.slots = [⟨⟨3⟩, [1, 2]⟩, ⟨⟨4⟩, []⟩, ⟨⟨3⟩, [4]⟩] := slots.trans (by decide)
  have three : after.length = 3 := by
    rw [length, left]
    rfl
  refine ⟨inside, after, two ▸ made, left, ?_, again⟩
  rw [behind, three]

end SlottedBurst

end DirectionFinding
