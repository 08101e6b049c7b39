import DirectionFinding.Capture.Sink
import DirectionFinding.Proofs.Capture.Delivery
import Mathlib.Logic.Relation

/-!
A buffer that is filled from a source of bytes. Whatever the source does between its bytes, the loop
comes to an end: a read that does not end it takes bytes or uses up an interruption. The buffer then
begins with the bytes that were next, as many as it takes or as there are, and is untouched behind
them. Feeds without empty pieces are such a source, and `Feed.fill` is the loop over it.
-/
namespace DirectionFinding

/-- What a source has in store: bytes in their order, what comes behind them, and how often it may
be interrupted before. -/
structure Prospect where
  bytes : Bytes
  ending : FeedEnd
  interruptions : Nat

/-- Answers to a read of at most `room` bytes that go with what is in store before and after it. Of
a source behind a fault nothing is said. -/
def Prospect.Allows (before : Prospect) (room : Nat) (after : Prospect) : ReadAnswer → Prop
  | .bytes [] =>
    before.bytes = [] ∧ before.ending = .endOfInput ∧ after.bytes = [] ∧ after.ending = .endOfInput
  | .bytes (b :: bs) =>
    bs.length + 1 ≤ room ∧ before.bytes = b :: bs ++ after.bytes ∧ after.ending = before.ending ∧
      after.interruptions ≤ before.interruptions
  | .interrupted =>
    after.bytes = before.bytes ∧ after.ending = before.ending ∧
      after.interruptions < before.interruptions
  | .fault cause => before.bytes = [] ∧ before.ending = .fault cause

structure ByteSource (σ : Type) where
  read : σ → Nat → ReadAnswer × σ
  prospect : σ → Prospect
  lawful : ∀ s room, room ≠ 0 →
    (prospect s).Allows room (prospect (read s room).2) (read s room).1

/-- How many bytes of a buffer were filled, or why not, with the buffer and the source after it. -/
structure Filling (σ : Type) where
  answer : Except IoFault Nat
  buffer : Bytes
  source : σ

namespace ByteSource

variable {σ : Type} {S : ByteSource σ} {s t : σ} {done rest piece : Bytes} {result : Filling σ}

private theorem allows (S : ByteSource σ) {room : Nat} {answer : ReadAnswer} (nonzero : room ≠ 0)
    (read : S.read s room = (answer, t)) : (S.prospect s).Allows room (S.prospect t) answer := by
  have lawful := S.lawful s room nonzero
  rwa [read] at lawful

def fillBehind (S : ByteSource σ) (s : σ) (buffer : Bytes) (filled : Nat) : Filling σ :=
  if _inside : filled < buffer.length then
    match _h : S.read s (buffer.length - filled) with
    | (.bytes [], t) => ⟨.ok filled, buffer, t⟩
    | (.bytes (b :: bs), t) =>
      S.fillBehind t (Bytes.overlay buffer filled (b :: bs)) (filled + (b :: bs).length)
    | (.interrupted, t) => S.fillBehind t buffer filled
    | (.fault cause, t) => ⟨.error cause, buffer, t⟩
  else ⟨.ok filled, buffer, s⟩
termination_by (S.prospect s).bytes.length + (S.prospect s).interruptions
decreasing_by
  · obtain ⟨-, taken, -, fewer⟩ := S.allows (Nat.sub_ne_zero_of_lt _inside) _h
    rw [taken, List.length_append, List.length_cons]
    omega
  · obtain ⟨same, -, fewer⟩ := S.allows (Nat.sub_ne_zero_of_lt _inside) _h
    rw [same]
    omega

def fill (S : ByteSource σ) (s : σ) (buffer : Bytes) : Filling σ :=
  S.fillBehind s buffer 0

def GoesOn (S : ByteSource σ) (s t : σ) : Prop :=
  ∃ room, S.read s room = (.interrupted, t) ∨ ∃ b bs, S.read s room = (.bytes (b :: bs), t)

/-- What filling `rest` behind `done` comes to. The bytes in store are moved in order as far as there
is room, and what lies behind them is untouched. A fault that comes before the buffer is full
answers the last read that is made. -/
structure Fills (S : ByteSource σ) (s : σ) (done rest : Bytes) (result : Filling σ) : Prop where
  stored :
    result.buffer = done ++ (S.prospect s).bytes.take rest.length ++
      rest.drop (S.prospect s).bytes.length
  counted : rest.length ≤ (S.prospect s).bytes.length ∨ (S.prospect s).ending = .endOfInput →
    result.answer = .ok (done.length + min rest.length (S.prospect s).bytes.length) ∧
    (S.prospect result.source).bytes = (S.prospect s).bytes.drop rest.length ∧
    (S.prospect result.source).ending = (S.prospect s).ending
  refused : ∀ cause, (S.prospect s).bytes.length < rest.length →
    (S.prospect s).ending = .fault cause →
    result.answer = .error cause ∧ ∃ last, Relation.ReflTransGen S.GoesOn s last ∧
      S.read last (rest.length - (S.prospect s).bytes.length) = (.fault cause, result.source)

theorem Fills.of_goesOn (piece : Bytes)
    (later : S.Fills t (done ++ piece) (rest.drop piece.length) result)
    (goesOn : S.GoesOn s t) (fits : piece.length ≤ rest.length)
    (taken : (S.prospect s).bytes = piece ++ (S.prospect t).bytes)
    (ending : (S.prospect t).ending = (S.prospect s).ending) : S.Fills s done rest result := by
  obtain ⟨stored, counted, refused⟩ := later
  rw [List.length_drop] at stored counted refused
  rw [ending] at counted refused
  have length : (S.prospect s).bytes.length = piece.length + (S.prospect t).bytes.length := by
    rw [taken, List.length_append]
  constructor
  · have first : (S.prospect s).bytes.take rest.length =
        piece ++ (S.prospect t).bytes.take (rest.length - piece.length) := by
      rw [taken, List.take_append, List.take_of_length_le fits]
    rw [stored, first, length, List.drop_drop, List.append_assoc done]
  · intro enough
    obtain ⟨answer, left, stays⟩ := counted (enough.imp_left fun _ => by omega)
    refine ⟨?_, ?_, stays⟩
    · rw [answer, List.length_append]
      congr 1
      omega
    · rw [left, taken, List.drop_append, List.drop_of_length_le fits, List.nil_append]
  · intro cause short faulty
    obtain ⟨answer, last, reached, read⟩ := refused cause (by omega) faulty
    refine ⟨answer, last, reached.head goesOn, ?_⟩
    rw [← read, length, Nat.sub_sub]

private theorem overlay_behind (done rest : Bytes) :
    Bytes.overlay (done ++ rest) done.length piece = done ++ piece ++ rest.drop piece.length := by
  cases piece <;> simp [Bytes.overlay]

private theorem length_overlay {buffer : Bytes} {filled : Nat}
    (inside : filled + piece.length ≤ buffer.length) :
    (Bytes.overlay buffer filled piece).length = buffer.length := by
  unfold Bytes.overlay
  split
  · rfl
  · simp only [List.length_append, List.length_take, List.length_replicate, List.length_drop]
    omega

private theorem fillBehind_fills (S : ByteSource σ) (s : σ) (done rest : Bytes) :
    S.Fills s done rest (S.fillBehind s (done ++ rest) done.length) := by
  -- Every turn of the loop moves a piece of the store from the front of `rest` to the end of `done`.
  generalize whole : done ++ rest = buffer, count : done.length = filled
  fun_induction fillBehind S s buffer filled generalizing done rest with
  | case1 s buffer filled short t read =>
    obtain ⟨nothing, ending, nothingLater, endingLater⟩ :=
      S.allows (Nat.sub_ne_zero_of_lt short) read
    subst whole count
    constructor
    · simp [nothing]
    · simp [nothing, nothingLater, ending, endingLater]
    · simp [ending]
  | case2 s buffer filled short b bs t read ih =>
    obtain ⟨fits, taken, ending, -⟩ := S.allows (Nat.sub_ne_zero_of_lt short) read
    subst whole count
    have room : (b :: bs).length ≤ rest.length := by simpa using fits
    apply Fills.of_goesOn (b :: bs) _ ⟨_, .inr ⟨b, bs, read⟩⟩ room taken ending
    exact ih _ _ (overlay_behind done rest).symm List.length_append
  | case3 s buffer filled short t read ih =>
    obtain ⟨same, ending, -⟩ := S.allows (Nat.sub_ne_zero_of_lt short) read
    apply Fills.of_goesOn [] _ ⟨_, .inl read⟩ (Nat.zero_le _) same.symm ending
    exact ih _ _ (by simpa using whole) (by simpa using count)
  | case4 s buffer filled short cause t read =>
    obtain ⟨nothing, ending⟩ := S.allows (Nat.sub_ne_zero_of_lt short) read
    subst whole count
    constructor
    · simp [nothing]
    · rw [nothing, ending]
      rintro (full | clean)
      · simp only [List.length_append, List.length_nil] at short full
        omega
      · cases clean
    · intro other _ faulty
      cases ending.symm.trans faulty
      refine ⟨rfl, s, .refl, ?_⟩
      simpa [nothing] using read
  | case5 s buffer filled full =>
    subst whole count
    have empty : rest = [] := by simpa using full
    subst empty
    constructor <;> simp

theorem Fills.filled (fills : S.Fills s [] rest result) :
    (result.answer.map fun count => result.buffer.take count) =
      Feed.filled rest.length (S.prospect s).bytes (S.prospect s).ending := by
  obtain ⟨stored, counted, refused⟩ := fills
  generalize (S.prospect s).bytes = left at *
  have complete (enough : rest.length ≤ left.length ∨ (S.prospect s).ending = .endOfInput) :
      (result.answer.map fun count => result.buffer.take count) = .ok (left.take rest.length) := by
    have length : (left.take rest.length).length = min rest.length left.length := List.length_take
    rw [(counted enough).1, stored, List.nil_append, List.length_nil, Nat.zero_add, ← length,
      Except.map, List.take_left]
  cases ending : (S.prospect s).ending with
  | endOfInput => exact complete (.inr ending)
  | fault cause =>
    by_cases enough : rest.length ≤ left.length
    · rw [complete (.inl enough), Feed.filled, if_pos enough]
    · rw [(refused cause (Nat.lt_of_not_le enough) ending).1, Feed.filled, if_neg enough]
      rfl

end ByteSource

/-- Feeds without empty pieces: a read without bytes is the end of the input. -/
abbrev WholeFeed : Type :=
  {f : Feed // .piece [] ∉ f.pending}

namespace Feed

private theorem read_whole {f : Feed} (whole : .piece [] ∉ f.pending) (room : Nat) :
    .piece [] ∉ (f.read room).2.pending := by
  obtain ⟨pending, ending⟩ := f
  match pending with
  | [] => cases ending <;> exact whole
  | .interruption :: rest => exact fun member => whole (List.mem_cons_of_mem _ member)
  | .piece bytes :: rest =>
    have later : .piece [] ∉ rest := fun member => whole (List.mem_cons_of_mem _ member)
    simp only [read]
    split
    · rename_i short
      simp only [List.mem_cons, Delivery.piece.injEq, List.nil_eq, List.drop_eq_nil_iff, not_or]
      exact ⟨by omega, later⟩
    · exact later

def source : ByteSource WholeFeed where
  read f room := ((f.val.read room).1, ⟨(f.val.read room).2, read_whole f.property room⟩)
  prospect f := ⟨f.val.pending.flatMap Delivery.bytes, f.val.ending, f.val.weight⟩
  lawful := by
    intro ⟨f, whole⟩ room nonzero
    have delivers : f.Delivers _ _ := ⟨whole, rfl, rfl⟩
    obtain ⟨nothing, ending, read⟩ | ⟨cause, nothing, ending, read⟩ | ⟨g, read, later⟩ |
      ⟨b, bs, rest, g, split, fits, read, later⟩ := delivers.read_cases nonzero
    · simp [read, Prospect.Allows, nothing, ending]
    · simp [read, Prospect.Allows, nothing, ending]
    · simp [read, Prospect.Allows, later.contents, later.ending, read_interrupted read]
    · have lighter := read_weight_le f room
      rw [read] at lighter
      simp [read, Prospect.Allows, split, fits, later.contents, later.ending, lighter]

private theorem source_read {f g : WholeFeed} {room : Nat} {answer : ReadAnswer}
    (read : source.read f room = (answer, g)) : f.val.read room = (answer, g.val) := by
  obtain ⟨same, later⟩ := Prod.mk.inj read
  exact Prod.ext same (congrArg Subtype.val later)

private theorem fill_left {f : Feed} {room : Nat} (nonzero : room ≠ 0) :
    (f.fill room).2 =
      match f.read room with
      | (.bytes [], g) => g
      | (.bytes (b :: bs), g) => (g.fill (room - (b :: bs).length)).2
      | (.interrupted, g) => (g.fill room).2
      | (.fault _, g) => g := by
  rw [fill, if_neg nonzero]
  split <;> rename_i read <;> rw [read]
  rfl

private theorem source_fillBehind (f : WholeFeed) {buffer : Bytes}
    {filled : Nat} (inside : filled ≤ buffer.length) :
    (source.fillBehind f buffer filled).source.val = (f.val.fill (buffer.length - filled)).2 := by
  fun_induction ByteSource.fillBehind source f buffer filled with
  | case1 f buffer filled short g read =>
    rw [fill_left (Nat.sub_ne_zero_of_lt short), source_read read]
  | case2 f buffer filled short b bs g read ih =>
    obtain ⟨fits, -, -, -⟩ := source.allows (Nat.sub_ne_zero_of_lt short) read
    have room : filled + (b :: bs).length ≤ buffer.length := by
      rw [List.length_cons]
      omega
    rw [ByteSource.length_overlay room] at ih
    rw [fill_left (Nat.sub_ne_zero_of_lt short), source_read read, ih room, ← Nat.sub_sub]
  | case3 f buffer filled short g read ih =>
    rw [fill_left (Nat.sub_ne_zero_of_lt short), source_read read, ih inside]
  | case4 f buffer filled short cause g read =>
    rw [fill_left (Nat.sub_ne_zero_of_lt short), source_read read]
  | case5 f buffer filled full =>
    rw [fill, if_pos (Nat.sub_eq_zero_of_le (Nat.le_of_not_lt full))]

private theorem fill_eq_fill (f : WholeFeed) (buffer : Bytes) :
    f.val.fill buffer.length =
      ((source.fill f buffer).answer.map fun count => (source.fill f buffer).buffer.take count,
        (source.fill f buffer).source.val) := by
  have delivers : f.val.Delivers _ _ := ⟨f.property, rfl, rfl⟩
  obtain ⟨g, filling, -⟩ := delivers.fill buffer.length
  have fills : source.Fills f [] buffer (source.fill f buffer) :=
    source.fillBehind_fills f [] buffer
  have last : (source.fill f buffer).source.val = (f.val.fill buffer.length).2 :=
    source_fillBehind f (Nat.zero_le _)
  rw [fills.filled, last, filling]
  rfl

end Feed

/-- Any source fills any buffer from its beginning as far as its bytes go, and filling from a feed
is this loop without the buffer. -/
theorem ByteSource.fill_stores :
    (∀ {σ : Type} (S : ByteSource σ) (s : σ) (buffer : Bytes),
      S.Fills s [] buffer (S.fill s buffer)) ∧
    ∀ (f : WholeFeed) (buffer : Bytes),
      f.val.fill buffer.length =
        ((Feed.source.fill f buffer).answer.map fun count =>
            (Feed.source.fill f buffer).buffer.take count,
          (Feed.source.fill f buffer).source.val) :=
  ⟨fun S s buffer => S.fillBehind_fills s [] buffer, Feed.fill_eq_fill⟩

example :
    let f : Feed := ⟨[.interruption, .piece [1, 2], .interruption, .piece [3]], .endOfInput⟩
    (Feed.source.fill ⟨f, by decide⟩ [9, 9, 9, 9, 9]).buffer = [1, 2, 3, 9, 9] := by
  cbv

end DirectionFinding
