import DirectionFinding.Capture.Sink

/-!
Sinks that accept. A sink that is written at its end and accepts some bytes holds them behind what it
held; behind a buffer the same is true of what arrived together with what still waits.
-/
namespace DirectionFinding

namespace ByteSink

def AtEnd (s : ByteSink) : Prop :=
  s.position = s.held.length

variable {s t : ByteSink} {bytes : Bytes}

theorem AtEnd.take (atEnd : s.AtEnd) (bytes : Bytes) :
    s.take bytes =
      { s with
        held := s.held ++ bytes
        position := (s.held ++ bytes).length } := by
  have overlaid : Bytes.overlay s.held s.position bytes = s.held ++ bytes := by
    rw [AtEnd] at atEnd
    cases bytes with
    | nil => simp [Bytes.overlay]
    | cons b bs => simp [Bytes.overlay, atEnd]
  rw [AtEnd] at atEnd
  simp only [ByteSink.take, overlaid]
  rw [atEnd, List.length_append]

theorem AtEnd.write (atEnd : s.AtEnd) (accepted : s.write bytes = (.ok (), t)) :
    t.AtEnd ∧ t.held = s.held ++ bytes := by
  have taken : t = s.take bytes := by
    unfold ByteSink.write at accepted
    split at accepted
    · exact (congrArg Prod.snd accepted).symm
    · rename_i room _
      obtain ⟨answer, result⟩ := Prod.mk.inj accepted
      split at answer
      · cases answer
      · rename_i enough
        rw [← result, List.take_of_length_le (Nat.not_lt.mp enough)]
  rw [taken, atEnd.take]
  exact ⟨rfl, rfl⟩

end ByteSink

namespace BufferedSink

/-- Bytes that a sink has accepted: those that arrived and those that wait. -/
def accepted (s : BufferedSink) : Bytes :=
  s.target.held ++ s.pending

variable {s t : BufferedSink} {bytes : Bytes}

private theorem settle_ok (atEnd : s.target.AtEnd) (settled : s.settle = (.ok (), t)) :
    t.target.AtEnd ∧ t.target.held = s.accepted ∧ t.pending = [] := by
  rw [settle] at settled
  generalize passed : s.target.write s.pending = answer at settled
  obtain ⟨answer, target⟩ := answer
  cases settled
  obtain ⟨still, held⟩ := atEnd.write passed
  refine ⟨still, held, ?_⟩
  rw [ByteSink.AtEnd] at atEnd still
  rw [List.drop_eq_nil_iff, still, atEnd, held, List.length_append]
  omega

/-- A write that succeeds first passes on what waits, unless there is room for all, and then either
passes by the buffer or fills into it. -/
theorem write_cases (written : s.write bytes = (.ok (), t)) :
    ∃ u, (s.settle = (.ok (), u) ∨ (u = s ∧ s.pending.length + bytes.length ≤ s.capacity)) ∧
      ((∃ target, u.capacity ≤ bytes.length ∧ u.target.write bytes = (.ok (), target) ∧
          t = { u with target := target }) ∨
        t = { u with pending := u.pending ++ bytes }) := by
  have direct (u : BufferedSink)
      (rest : (if u.capacity ≤ bytes.length then
          ((u.target.write bytes).1, { u with target := (u.target.write bytes).2 })
        else (.ok (), { u with pending := u.pending ++ bytes })) = (.ok (), t)) :
      (∃ target, u.capacity ≤ bytes.length ∧ u.target.write bytes = (.ok (), target) ∧
          t = { u with target := target }) ∨
        t = { u with pending := u.pending ++ bytes } := by
    split at rest
    · rename_i large
      obtain ⟨answer, result⟩ := Prod.mk.inj rest
      exact .inl ⟨_, large, Prod.ext answer rfl, result.symm⟩
    · exact .inr (Prod.mk.inj rest).2.symm
  simp only [write] at written
  by_cases full : s.capacity < s.pending.length + bytes.length
  · rw [if_pos full] at written
    match settled : s.settle with
    | (.error cause, u) =>
      rw [settled] at written
      cases written
    | (.ok (), u) =>
      rw [settled] at written
      exact ⟨u, .inl rfl, direct u written⟩
  · rw [if_neg full] at written
    exact ⟨s, .inr ⟨rfl, Nat.not_lt.mp full⟩, direct s written⟩

theorem write_ok (atEnd : s.target.AtEnd) (written : s.write bytes = (.ok (), t)) :
    t.target.AtEnd ∧ t.accepted = s.accepted ++ bytes := by
  obtain ⟨u, room, rest⟩ := write_cases written
  have kept : u.target.AtEnd ∧ u.accepted = s.accepted ∧
      (u.pending = [] ∨ u.pending.length + bytes.length ≤ u.capacity) := by
    rcases room with settled | ⟨rfl, fits⟩
    · obtain ⟨still, held, empty⟩ := settle_ok atEnd settled
      exact ⟨still, by rw [accepted, held, empty, List.append_nil], .inl empty⟩
    · exact ⟨atEnd, rfl, .inr fits⟩
  obtain ⟨still, same, waiting⟩ := kept
  rcases rest with ⟨target, large, passed, rfl⟩ | rfl
  · -- The bytes pass by the buffer, so nothing waits in it.
    have empty : u.pending = [] := by
      rcases waiting with empty | fits
      · exact empty
      · exact List.length_eq_zero_iff.mp (by omega)
    obtain ⟨atEndNow, held⟩ := still.write passed
    refine ⟨atEndNow, ?_⟩
    rw [← same, accepted, accepted, held, empty, List.append_nil, List.append_nil]
  · exact ⟨still, by rw [← same, accepted, accepted, List.append_assoc]⟩

theorem flush_ok (atEnd : s.target.AtEnd) (flushed : s.flush = (.ok (), t)) :
    t.target.held = s.accepted := by
  simp only [flush] at flushed
  match settled : s.settle with
  | (.error cause, u) =>
    rw [settled] at flushed
    cases flushed
  | (.ok (), u) =>
    rw [settled] at flushed
    rw [← (Prod.mk.inj flushed).2]
    exact (settle_ok atEnd settled).2.1

private theorem settle_unlimited (unlimited : s.target.room = none) :
    ∃ t, s.settle = (.ok (), t) ∧ t.target.room = none := by
  simp only [settle, ByteSink.write, unlimited]
  exact ⟨_, rfl, unlimited⟩

theorem write_unlimited (unlimited : s.target.room = none) (bytes : Bytes) :
    ∃ t, s.write bytes = (.ok (), t) ∧ t.target.room = none := by
  obtain ⟨u, first, still⟩ : ∃ u,
      (if s.capacity < s.pending.length + bytes.length then s.settle else (.ok (), s)) =
        (.ok (), u) ∧ u.target.room = none := by
    split
    · exact settle_unlimited unlimited
    · exact ⟨s, rfl, unlimited⟩
  simp only [write, first, ByteSink.write, still]
  split
  · exact ⟨_, rfl, still⟩
  · exact ⟨_, rfl, still⟩

theorem flush_unlimited (unlimited : s.target.room = none) (atEnd : s.target.AtEnd) :
    ∃ t, s.flush = (.ok (), t) ∧ t.target.room = none ∧ t.target.AtEnd ∧
      t.target.held = s.accepted ∧ t.pending = [] := by
  obtain ⟨t, settled, still⟩ := settle_unlimited unlimited
  obtain ⟨atEndNow, held, empty⟩ := settle_ok atEnd settled
  have passed : t.target.flush = .ok () := by
    simp only [ByteSink.flush, still]
    split <;> simp
  refine ⟨t, ?_, still, atEndNow, held, empty⟩
  simp only [flush, settled, passed]

end BufferedSink

end DirectionFinding
