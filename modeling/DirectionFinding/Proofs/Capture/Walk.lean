import DirectionFinding.Proofs.Capture.Extraction

/-!
Walking through a capture. The next record can be asked for as an item of the walk or by itself;
whichever is used each time, the answers up to the first that is no record are the same, and the
walk never starts again once it has ended.
-/
namespace DirectionFinding

inductive ReadCall where
  | item
  | record

def itemOf : Located (Option (RawBurst Phasor)) → Option (Located (RawBurst Phasor))
  | .ok none => none
  | .ok (some burst) => some (.ok burst)
  | .error failure => some (.error failure)

/-- Items of a walk over some records that then ends, with a failure if there is one. -/
def itemsOf (bursts : List (RawBurst Phasor)) (failure : Option LocateError) :
    List (Option (Located (RawBurst Phasor))) :=
  bursts.map (fun burst => some (.ok burst)) ++ [failure.map .error]

private theorem itemOf_closing (failure : Option LocateError) :
    itemOf (closing failure) = failure.map .error := by
  cases failure <;> rfl

namespace RecordReader

def call (r : RecordReader) : ReadCall → Option (Located (RawBurst Phasor)) × RecordReader
  | .item => r.next
  | .record => (itemOf r.readRecord.1, r.readRecord.2)

def answers (r : RecordReader) :
    List ReadCall → List (Option (Located (RawBurst Phasor))) × RecordReader
  | [] => ([], r)
  | way :: calls =>
    let (answer, later) := r.call way
    let (rest, final) := later.answers calls
    (answer :: rest, final)

theorem length_answers (r : RecordReader) (calls : List ReadCall) :
    (r.answers calls).1.length = calls.length := by
  induction calls generalizing r with
  | nil => rfl
  | cons way calls ih =>
    simp only [answers, List.length_cons]
    rw [ih]

variable {f g : Feed}

theorem call_ok {burst : RawBurst Phasor} (reading : f.nextRecord = (.ok (some burst), g))
    (way : ReadCall) : (⟨f, false⟩ : RecordReader).call way = (some (.ok burst), ⟨g, false⟩) := by
  cases way with
  | item => simp [call, next, reading]
  | record => simp [call, readRecord, reading, itemOf]

private theorem call_closing {failure : Option LocateError}
    (reading : f.nextRecord = (closing failure, g))
    (way : ReadCall) : ((⟨f, false⟩ : RecordReader).call way).1 = failure.map .error := by
  cases way with
  | record => simp only [call, readRecord, reading, itemOf_closing]
  | item => cases failure <;> simp [call, next, reading, closing]

private theorem answers_take {bytes rest : Bytes} {bursts : List (RawBurst Phasor)}
    {ending : FeedEnd} {failure : LocateError} (delivers : f.Delivers bytes ending)
    (extracted : Record.extractAll bytes = (bursts, rest))
    (failed : Record.extract rest = .error failure) (calls : List ReadCall) :
    ((⟨f, false⟩ : RecordReader).answers calls).1.take (bursts.length + 1) =
      (itemsOf bursts (ending.verdict rest failure)).take calls.length := by
  fun_induction Record.extractAll bytes generalizing f bursts rest calls with
  | case1 bytes cause stopped =>
    cases extracted
    cases failed.symm.trans stopped
    obtain ⟨g, reading⟩ := delivers.nextRecord_error stopped
    cases calls with
    | nil => rfl
    | cons way calls => simp [answers, itemsOf, call_closing reading way]
  | case2 bytes burst length found later left eq ih =>
    cases extracted
    obtain ⟨g, reading, remaining⟩ := delivers.nextRecord_ok found
    cases calls with
    | nil => rfl
    | cons way calls =>
      have following := ih remaining eq failed calls
      simpa [answers, itemsOf, call_ok reading way] using following

theorem next_of_finished {r : RecordReader} (done : r.finished = true) : r.next = (none, r) := by
  simp only [next, done, if_true]

theorem call_finished {r : RecordReader} (done : r.finished = true) (way : ReadCall) :
    (r.call way).2.finished = true := by
  cases way with
  | item => simpa only [call, next_of_finished done] using done
  | record => exact done

private theorem answers_finished {r : RecordReader} (done : r.finished = true)
    (calls : List ReadCall) :
    (r.answers calls).2.finished = true := by
  induction calls generalizing r with
  | nil => exact done
  | cons way calls ih => exact ih (call_finished done way)

theorem next_finishes (r : RecordReader) (ended : ∀ burst, r.next.1 ≠ some (.ok burst)) :
    r.next.2.finished = true := by
  cases done : r.finished with
  | true => simpa only [next_of_finished done] using done
  | false =>
    match reading : r.feed.nextRecord with
    | (.ok (some burst), g) => exact absurd (by simp [next, done, reading]) (ended burst)
    | (.ok none, g) => simp [next, done, reading]
    | (.error failure, g) => simp [next, done, reading]

/-- However the bytes of a capture are delivered and however its records are asked for, the answers
are the records that repeated extraction finds, one by one, and then what the bytes that are left
and the end of the input come to. A walk that has ended stays at its end. -/
theorem answers_eq_extractAll {bytes : Bytes} {ending : FeedEnd}
    (delivers : f.Delivers bytes ending) :
    (∃ failure, Record.extract (Record.extractAll bytes).2 = .error failure ∧
      ∀ calls, ((⟨f, false⟩ : RecordReader).answers calls).1.take
          ((Record.extractAll bytes).1.length + 1) =
        (itemsOf (Record.extractAll bytes).1
          (ending.verdict (Record.extractAll bytes).2 failure)).take calls.length) ∧
    ∀ (r : RecordReader) (calls : List ReadCall),
      (∀ burst, r.next.1 ≠ some (.ok burst)) → (r.next.2.answers calls).2.next.1 = none := by
  refine ⟨?_, ?_⟩
  · obtain ⟨failure, failed⟩ := Record.extract_rest bytes
    exact ⟨failure, failed, answers_take delivers rfl failed⟩
  · intro r calls ended
    rw [next_of_finished (answers_finished (r.next_finishes ended) calls)]

/-- An empty record in two pieces with interruptions before them, then a header of which only one
byte is delivered before the feed fails. -/
theorem answers_eq_extractAll_pieces :
    let f : Feed := ⟨[.interruption, .piece [0, 0, 0], .interruption, .piece [0, 98, 9, 0, 0, 1]],
      .fault (.device "radio gone")⟩
    f.Delivers [0, 0, 0, 0, 98, 9, 0, 0, 1] (.fault (.device "radio gone")) ∧
    ((⟨f, false⟩ : RecordReader).answers [.record, .item]).1 =
      [some (.ok ⟨0, 2402, []⟩), some (.error (.io (.device "radio gone")))] := by
  intro f
  have delivers : f.Delivers [0, 0, 0, 0, 98, 9, 0, 0, 1] (.fault (.device "radio gone")) :=
    ⟨by decide, rfl, rfl⟩
  have extracted : Record.extractAll [0, 0, 0, 0, 98, 9, 0, 0, 1] = ([⟨0, 2402, []⟩], [1]) := by
    have one : Record.extract [0, 0, 0, 0, 98, 9, 0, 0, 1] = .ok (⟨0, 2402, []⟩, 8) := rfl
    have cut : Record.extract [1] = .error (.truncated 8 1) := rfl
    rw [Record.extractAll_ok one]
    exact congrArg (fun left => (_ :: left.1, left.2)) (Record.extractAll_error cut)
  refine ⟨delivers, ?_⟩
  obtain ⟨⟨failure, failed, walk⟩, -⟩ := answers_eq_extractAll delivers
  rw [extracted] at failed walk
  cases failed
  simpa [List.take_of_length_le, length_answers, itemsOf, FeedEnd.verdict] using walk [.record, .item]

end RecordReader

end DirectionFinding
