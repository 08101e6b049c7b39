import DirectionFinding.Capture.Feed

/-!
What a feed delivers, however it is cut. Filling a buffer joins the pieces and passes over the
interruptions, so what it answers depends only on the bytes that are left and on how the input ends.
-/
namespace DirectionFinding

def Delivery.bytes : Delivery → Bytes
  | piece bytes => bytes
  | interruption => []

namespace Feed

/-- A feed that hands out `bytes` and then ends with `ending`. No piece of it is empty: a read
without bytes is the end of the input. -/
structure Delivers (f : Feed) (bytes : Bytes) (ending : FeedEnd) : Prop where
  nonempty : .piece [] ∉ f.pending
  contents : f.pending.flatMap Delivery.bytes = bytes
  ending : f.ending = ending

theorem delivers_ofBytes (bytes : Bytes) : (ofBytes bytes).Delivers bytes .endOfInput := by
  cases bytes with
  | nil => exact ⟨by simp [ofBytes], rfl, rfl⟩
  | cons b bs => exact ⟨by simp [ofBytes], by simp [ofBytes, Delivery.bytes], rfl⟩

variable {f g : Feed} {bytes : Bytes} {ending : FeedEnd}

theorem Delivers.read_cases (delivers : f.Delivers bytes ending) {room : Nat}
    (nonzero : room ≠ 0) :
    (bytes = [] ∧ ending = .endOfInput ∧ f.read room = (.bytes [], f)) ∨
    (∃ cause, bytes = [] ∧ ending = .fault cause ∧ f.read room = (.fault cause, f)) ∨
    (∃ g, f.read room = (.interrupted, g) ∧ g.Delivers bytes ending) ∨
    ∃ b bs rest g, bytes = b :: bs ++ rest ∧ bs.length + 1 ≤ room ∧
      f.read room = (.bytes (b :: bs), g) ∧ g.Delivers rest ending := by
  obtain ⟨pending, last⟩ := f
  obtain ⟨nonempty, rfl, rfl⟩ := delivers
  match pending with
  | [] =>
    cases last with
    | endOfInput => exact .inl ⟨rfl, rfl, rfl⟩
    | fault cause => exact .inr (.inl ⟨cause, rfl, rfl, rfl⟩)
  | .interruption :: rest =>
    have later : .piece [] ∉ rest := fun member => nonempty (List.mem_cons_of_mem _ member)
    exact .inr (.inr (.inl ⟨⟨rest, last⟩, rfl, later, rfl, rfl⟩))
  | .piece [] :: rest => exact absurd List.mem_cons_self nonempty
  | .piece (b :: bs) :: rest =>
    have later : .piece [] ∉ rest := fun member => nonempty (List.mem_cons_of_mem _ member)
    right; right; right
    by_cases short : room < (b :: bs).length
    · -- The piece is cut; what stays of it is not empty.
      obtain ⟨space, rfl⟩ := Nat.exists_eq_succ_of_ne_zero nonzero
      refine ⟨b, bs.take space, bs.drop space ++ rest.flatMap Delivery.bytes,
        ⟨.piece (bs.drop space) :: rest, last⟩, ?_, ?_, ?_, ?_, rfl, rfl⟩
      · simp [Delivery.bytes, ← List.append_assoc]
      · simp only [List.length_take]
        omega
      · simp only [read, if_pos short, List.take_succ_cons, List.drop_succ_cons]
      · simp only [List.length_cons] at short
        simp only [List.mem_cons, Delivery.piece.injEq, List.nil_eq, List.drop_eq_nil_iff, not_or]
        exact ⟨by omega, later⟩
    · refine ⟨b, bs, rest.flatMap Delivery.bytes, ⟨rest, last⟩, rfl, ?_, ?_, later, rfl, rfl⟩
      · simpa using short
      · simp only [read, if_neg short]

/-- Answer to filling a buffer when some bytes are left: as many as it takes, or all of them and
then the end. -/
def filled (room : Nat) (bytes : Bytes) : FeedEnd → Except IoFault Bytes
  | .endOfInput => .ok (bytes.take room)
  | .fault cause => if room ≤ bytes.length then .ok (bytes.take room) else .error cause

private theorem filled_append (room : Nat) (piece rest : Bytes) (ending : FeedEnd)
    (fits : piece.length ≤ room) :
    (filled (room - piece.length) rest ending).map (piece ++ ·) =
      filled room (piece ++ rest) ending := by
  have joined : (piece ++ rest).take room = piece ++ rest.take (room - piece.length) := by
    rw [List.take_append, List.take_of_length_le fits]
  cases ending with
  | endOfInput => simp only [filled, Except.map, joined]
  | fault cause =>
    have enough : room - piece.length ≤ rest.length ↔ room ≤ (piece ++ rest).length := by
      rw [List.length_append]
      omega
    simp only [filled, enough, joined]
    split <;> rfl

theorem Delivers.fill (delivers : f.Delivers bytes ending) (room : Nat) :
    ∃ g, f.fill room = (filled room bytes ending, g) ∧ g.Delivers (bytes.drop room) ending := by
  fun_induction Feed.fill f room generalizing bytes with
  | case1 f =>
    refine ⟨f, ?_, delivers⟩
    cases ending <;> simp [filled]
  | case2 f room nonzero g read =>
    obtain ⟨rfl, rfl, same⟩ | ⟨_, _, _, other⟩ | ⟨_, other, _⟩ | ⟨_, _, _, _, _, _, other, _⟩ :=
      delivers.read_cases nonzero
    · cases read.symm.trans same
      exact ⟨f, by simp [filled], by simpa using delivers⟩
    all_goals cases read.symm.trans other
  | case3 f room nonzero b bs g read answer final eq ih =>
    obtain ⟨_, _, other⟩ | ⟨_, _, _, other⟩ | ⟨_, other, _⟩ | ⟨c, cs, rest, k, rfl, fits, same, later⟩ :=
      delivers.read_cases nonzero
    case inr.inr.inr =>
      cases read.symm.trans same
      obtain ⟨last, filling, left⟩ := ih later
      cases eq.symm.trans filling
      refine ⟨final, ?_, ?_⟩
      · rw [← filled_append room (b :: bs) rest ending fits]
        rfl
      · rw [List.drop_append, List.drop_of_length_le fits, List.nil_append]
        exact left
    all_goals cases read.symm.trans other
  | case4 f room nonzero g read ih =>
    obtain ⟨_, _, other⟩ | ⟨_, _, _, other⟩ | ⟨_, same, later⟩ | ⟨_, _, _, _, _, _, other, _⟩ :=
      delivers.read_cases nonzero
    case inr.inr.inl =>
      cases read.symm.trans same
      exact ih later
    all_goals cases read.symm.trans other
  | case5 f room nonzero cause g read =>
    obtain ⟨_, _, other⟩ | ⟨_, rfl, rfl, same⟩ | ⟨_, other, _⟩ | ⟨_, _, _, _, _, _, other, _⟩ :=
      delivers.read_cases nonzero
    case inr.inl =>
      cases read.symm.trans same
      refine ⟨f, ?_, by simpa using delivers⟩
      have nothing : ¬ room ≤ ([] : Bytes).length := by simpa using nonzero
      simp only [filled, if_neg nothing]
    all_goals cases read.symm.trans other

end Feed

end DirectionFinding
