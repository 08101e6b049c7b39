import DirectionFinding.Capture.Reader
import DirectionFinding.Proofs.Capture.Delivery

/-!
Reading from a feed against extracting from a buffer. However a feed delivers its bytes, a reader
answers the records that repeated extraction finds in them, and then the failure of the extraction
that stopped, unless the input ended there cleanly or with a fault of its own.
-/
namespace DirectionFinding

namespace Record

theorem parseHeader_short {bytes : Bytes} (short : bytes.length < headerLength) :
    parseHeader bytes = .error (.truncated headerLength bytes.length) := by
  match bytes, short with
  | [], _ | [_], _ | [_, _], _ | [_, _, _], _ | [_, _, _, _], _ | [_, _, _, _, _], _
  | [_, _, _, _, _, _], _ | [_, _, _, _, _, _, _], _ => rfl
  | _ :: _ :: _ :: _ :: _ :: _ :: _ :: _ :: _, short =>
    simp only [List.length_cons, headerLength] at short
    omega

theorem exists_header {bytes : Bytes} (enough : headerLength ≤ bytes.length) :
    ∃ b0 b1 b2 b3 b4 b5 b6 b7 rest,
      bytes = b0 :: b1 :: b2 :: b3 :: b4 :: b5 :: b6 :: b7 :: rest := by
  match bytes, enough with
  | b0 :: b1 :: b2 :: b3 :: b4 :: b5 :: b6 :: b7 :: rest, _ =>
    exact ⟨b0, b1, b2, b3, b4, b5, b6, b7, rest, rfl⟩
  | [], enough | [_], enough | [_, _], enough | [_, _, _], enough | [_, _, _, _], enough
  | [_, _, _, _, _], enough | [_, _, _, _, _, _], enough | [_, _, _, _, _, _, _], enough =>
    simp [headerLength] at enough

private theorem parseHeader_take {bytes : Bytes} (enough : headerLength ≤ bytes.length) :
    parseHeader (bytes.take headerLength) = parseHeader bytes := by
  obtain ⟨_, _, _, _, _, _, _, _, _, rfl⟩ := exists_header enough
  rfl

theorem parseHeader_error {bytes : Bytes} {failure : LocateError}
    (enough : headerLength ≤ bytes.length) (failed : parseHeader bytes = .error failure) :
    ∃ announced, failure = .invalidArgument (.recordTooLong announced) := by
  obtain ⟨_, _, _, _, _, _, _, _, _, rfl⟩ := exists_header enough
  simp only [parseHeader] at failed
  split at failed
  · cases failed
    exact ⟨_, rfl⟩
  · cases failed

theorem extract_eq {bytes : Bytes} {header : Header} (parsed : parseHeader bytes = .ok header) :
    extract bytes =
      if bytes.length < headerLength + header.payloadLength then
        .error (.truncated (headerLength + header.payloadLength) bytes.length)
      else .ok (header.burst ((bytes.drop headerLength).take header.payloadLength),
        headerLength + header.payloadLength) := by
  simp only [extract, parsed, Located.ok_bind]
  split <;> rfl

theorem extract_of_parse_error {bytes : Bytes} {failure : LocateError}
    (failed : parseHeader bytes = .error failure) : extract bytes = .error failure := by
  simp only [extract, failed]
  rfl

theorem extract_nil : extract [] = .error (.truncated headerLength 0) :=
  rfl

theorem extract_ok {bytes : Bytes} {burst : RawBurst Phasor} {length : Nat}
    (found : extract bytes = .ok (burst, length)) :
    ∃ header, parseHeader bytes = .ok header ∧ length = headerLength + header.payloadLength ∧
      length ≤ bytes.length ∧
      burst = header.burst ((bytes.drop headerLength).take header.payloadLength) := by
  obtain ⟨header, parsed, _⟩ := Located.bind_success _ _ _ found
  rw [extract_eq parsed] at found
  split at found
  · cases found
  · rename_i enough
    cases found
    exact ⟨header, parsed, rfl, by omega, rfl⟩

/-- Bursts that repeated extraction finds, and the bytes from which no more can be extracted. -/
def extractAll (bytes : Bytes) : List (RawBurst Phasor) × Bytes :=
  match _found : extract bytes with
  | .error _ => ([], bytes)
  | .ok (burst, length) =>
    let (later, rest) := extractAll (bytes.drop length)
    (burst :: later, rest)
termination_by bytes.length
decreasing_by
  obtain ⟨header, _, taken, inside, _⟩ := extract_ok _found
  simp only [List.length_drop, taken, headerLength] at inside ⊢
  omega

theorem extractAll_error {bytes : Bytes} {failure : LocateError}
    (failed : extract bytes = .error failure) : extractAll bytes = ([], bytes) := by
  rw [extractAll]
  split
  · rfl
  · rename_i found
    cases found.symm.trans failed

theorem extractAll_ok {bytes : Bytes} {burst : RawBurst Phasor} {length : Nat}
    (found : extract bytes = .ok (burst, length)) :
    extractAll bytes =
      (burst :: (extractAll (bytes.drop length)).1, (extractAll (bytes.drop length)).2) := by
  rw [extractAll]
  split
  · rename_i failed
    cases found.symm.trans failed
  · rename_i same
    cases found.symm.trans same
    rfl

theorem extract_rest (bytes : Bytes) :
    ∃ failure, extract (extractAll bytes).2 = .error failure := by
  fun_induction extractAll bytes with
  | case1 bytes failure failed => exact ⟨failure, failed⟩
  | case2 bytes burst length found later rest eq ih =>
    rw [eq] at ih
    exact ih

end Record

/-- What a reader makes of bytes in which no record is found: nothing if the input ends cleanly
with them, the fault of the input if more bytes would have been needed, else why there is none. -/
def FeedEnd.verdict (rest : Bytes) (failure : LocateError) : FeedEnd → Option LocateError
  | endOfInput => if rest.isEmpty then none else some failure
  | fault cause =>
    match failure with
    | .truncated _ _ => some (.io cause)
    | other => some other

def closing : Option LocateError → Located (Option (RawBurst Phasor))
  | none => .ok none
  | some failure => .error failure

namespace Feed

open Record (headerLength)

variable {f g : Feed} {bytes : Bytes} {ending : FeedEnd}

private theorem filled_enough {room : Nat} (enough : room ≤ bytes.length) :
    filled room bytes ending = .ok (bytes.take room) := by
  cases ending with
  | endOfInput => rfl
  | fault cause => exact if_pos enough

private theorem filled_short {room : Nat} (short : bytes.length < room) :
    filled room bytes ending =
      match ending with
      | .endOfInput => .ok bytes
      | .fault cause => .error cause := by
  cases ending with
  | endOfInput => simp only [filled, List.take_of_length_le (Nat.le_of_lt short)]
  | fault cause => exact if_neg (Nat.not_le.mpr short)

theorem Delivers.nextRecord_header (delivers : f.Delivers bytes ending)
    (enough : headerLength ≤ bytes.length) :
    ∃ g, g.Delivers (bytes.drop headerLength) ending ∧
      f.nextRecord =
        match Record.parseHeader bytes with
        | .error cause => (.error cause, g)
        | .ok header =>
          match g.fill header.payloadLength with
          | (.error cause, k) => (.error (.io cause), k)
          | (.ok payload, k) =>
            if payload.length < header.payloadLength then
              (.error (.truncated (headerLength + header.payloadLength)
                (headerLength + payload.length)), k)
            else (.ok (some (header.burst payload)), k) := by
  obtain ⟨g, filling, later⟩ := delivers.fill headerLength
  refine ⟨g, later, ?_⟩
  rw [filled_enough enough] at filling
  rw [← Record.parseHeader_take enough]
  obtain ⟨_, _, _, _, _, _, _, _, _, rfl⟩ := Record.exists_header enough
  simp only [nextRecord, filling]
  rfl

theorem Delivers.nextRecord_ok (delivers : f.Delivers bytes ending) {burst : RawBurst Phasor}
    {length : Nat} (found : Record.extract bytes = .ok (burst, length)) :
    ∃ g, f.nextRecord = (.ok (some burst), g) ∧ g.Delivers (bytes.drop length) ending := by
  obtain ⟨header, parsed, rfl, inside, rfl⟩ := Record.extract_ok found
  obtain ⟨g, later, reading⟩ := delivers.nextRecord_header (by omega)
  obtain ⟨k, filling, left⟩ := later.fill header.payloadLength
  have payload : header.payloadLength ≤ (bytes.drop headerLength).length := by
    rw [List.length_drop]
    omega
  rw [filled_enough payload] at filling
  rw [List.drop_drop] at left
  refine ⟨k, ?_, left⟩
  have whole : ¬ ((bytes.drop headerLength).take header.payloadLength).length <
      header.payloadLength := by
    rw [List.length_take, Nat.min_eq_left payload]
    exact Nat.lt_irrefl _
  simp only [reading, parsed, filling, if_neg whole]

theorem Delivers.nextRecord_error (delivers : f.Delivers bytes ending) {failure : LocateError}
    (failed : Record.extract bytes = .error failure) :
    ∃ g, f.nextRecord = (closing (ending.verdict bytes failure), g) := by
  rcases Nat.lt_or_ge bytes.length headerLength with short | enough
  · -- The header is cut, if the input does not end right here.
    have parsed := Record.parseHeader_short short
    cases failed.symm.trans (Record.extract_of_parse_error parsed)
    obtain ⟨g, filling, -⟩ := delivers.fill headerLength
    rw [filled_short short] at filling
    refine ⟨g, ?_⟩
    cases ending with
    | fault cause => simp only [nextRecord, filling, FeedEnd.verdict, closing]
    | endOfInput =>
      cases bytes with
      | nil => simp only [nextRecord, filling, FeedEnd.verdict, closing, List.isEmpty_nil, if_true]
      | cons b bs =>
        simp only [nextRecord, filling, parsed]
        rfl
  · have nonempty : bytes.isEmpty = false := by
      obtain ⟨_, _, _, _, _, _, _, _, _, rfl⟩ := Record.exists_header enough
      rfl
    obtain ⟨g, later, reading⟩ := delivers.nextRecord_header enough
    cases parsed : Record.parseHeader bytes with
    | error cause =>
      -- A refused header is refused whatever comes behind it.
      cases failed.symm.trans (Record.extract_of_parse_error parsed)
      obtain ⟨announced, rfl⟩ := Record.parseHeader_error enough parsed
      refine ⟨g, ?_⟩
      simp only [reading, parsed]
      cases ending with
      | endOfInput => simp [FeedEnd.verdict, closing, nonempty]
      | fault cause => rfl
    | ok header =>
      rw [Record.extract_eq parsed] at failed
      split at failed
      · rename_i cut
        cases failed
        have short : (bytes.drop headerLength).length < header.payloadLength := by
          rw [List.length_drop]
          omega
        obtain ⟨k, filling, -⟩ := later.fill header.payloadLength
        rw [filled_short short] at filling
        refine ⟨k, ?_⟩
        cases ending with
        | fault cause => simp only [reading, parsed, filling, FeedEnd.verdict, closing]
        | endOfInput =>
          have counted : headerLength + (bytes.drop headerLength).length = bytes.length := by
            rw [List.length_drop]
            omega
          simp only [reading, parsed, filling, if_pos short, counted, FeedEnd.verdict, nonempty,
            closing]
          rfl
      · cases failed

theorem records_of_ok {burst : RawBurst Phasor} (reading : f.nextRecord = (.ok (some burst), g)) :
    f.records = (burst :: g.records.1, g.records.2) := by
  rw [Feed.records]
  split <;> rename_i same <;> cases reading.symm.trans same
  rfl

theorem records_of_closing {failure : Option LocateError}
    (reading : f.nextRecord = (closing failure, g)) : f.records = ([], failure) := by
  rw [Feed.records]
  cases failure <;> split <;> rename_i same <;> cases reading.symm.trans same <;> rfl

theorem Delivers.records (delivers : f.Delivers bytes ending) {failure : LocateError}
    (failed : Record.extract (Record.extractAll bytes).2 = .error failure) :
    f.records = ((Record.extractAll bytes).1,
      ending.verdict (Record.extractAll bytes).2 failure) := by
  fun_induction Record.extractAll bytes generalizing f with
  | case1 bytes cause stopped =>
    cases failed.symm.trans stopped
    obtain ⟨g, reading⟩ := delivers.nextRecord_error stopped
    exact records_of_closing reading
  | case2 bytes burst length found later rest eq ih =>
    obtain ⟨g, reading, left⟩ := delivers.nextRecord_ok found
    rw [eq] at ih
    rw [records_of_ok reading, ih left failed]

end Feed

end DirectionFinding
