import DirectionFinding.Proofs.Capture.Codec
import DirectionFinding.Proofs.Capture.Walk

/-!
Reading on after a failure. The failure of an item silences every later item, whatever the source
delivers by then. A record that is read by itself neither ends the walk nor asks whether it has
ended, and behind a header that was refused it takes the next bytes for a header.
-/
namespace DirectionFinding

/-- A feed with nothing left goes on as another one does, as a source that delivers again after its
end or after a fault. -/
def Feed.resumed (f : Feed) (more : Option Feed) : Feed :=
  if f.pending = [] then more.getD f else f

namespace RecordReader

def resumed (r : RecordReader) (more : Option Feed) : RecordReader :=
  { r with feed := r.feed.resumed more }

/-- Answers to calls on a source that may go on before each of them. -/
def answersOver (r : RecordReader) (supply : Nat → Option Feed) :
    List ReadCall → List (Option (Located (RawBurst Phasor)))
  | [] => []
  | way :: calls =>
    let (answer, later) := (r.resumed (supply 0)).call way
    answer :: later.answersOver (fun k => supply (k + 1)) calls

section
variable (r : RecordReader) (supply : Nat → Option Feed)

private theorem answersOver_none (calls : List ReadCall) :
    r.answersOver (fun _ => none) calls = (r.answers calls).1 := by
  induction calls generalizing r with
  | nil => rfl
  | cons way calls ih =>
    have same : r.resumed none = r := by
      rw [resumed, Feed.resumed, Option.getD_none, ite_self]
    simp only [answersOver, answers, same, ih]

private theorem answersOver_zero (way : ReadCall) (calls : List ReadCall) :
    (r.answersOver supply (way :: calls))[0]? = some ((r.resumed (supply 0)).call way).1 :=
  rfl

private theorem answersOver_succ (way : ReadCall) (calls : List ReadCall) (j : Nat) :
    (r.answersOver supply (way :: calls))[j + 1]? =
      (((r.resumed (supply 0)).call way).2.answersOver (fun k => supply (k + 1)) calls)[j]? :=
  rfl

end

/-- No record answers a call if a failure answers an earlier one. -/
def Silenced (answers : List (Option (Located (RawBurst Phasor)))) (i j : Nat) : Prop :=
  ∀ failure burst, answers[i]? = some (some (.error failure)) →
    answers[j]? ≠ some (some (.ok burst))

private theorem item_of_finished {r : RecordReader} (done : r.finished = true)
    (supply : Nat → Option Feed) {calls : List ReadCall} {j : Nat}
    (item : calls[j]? = some .item) : (r.answersOver supply calls)[j]? = some none := by
  induction calls generalizing r supply j with
  | nil => cases item
  | cons way calls ih =>
    have still : (r.resumed (supply 0)).finished = true := done
    cases j with
    | zero =>
      cases item
      rw [answersOver_zero, call, next_of_finished still]
    | succ j =>
      rw [answersOver_succ]
      exact ih (call_finished still way) _ item

theorem silenced_of_items (r : RecordReader) (supply : Nat → Option Feed) {calls : List ReadCall}
    {i j : Nat} (before : i < j) (item : calls[i]? = some .item) (item' : calls[j]? = some .item) :
    Silenced (r.answersOver supply calls) i j := by
  induction calls generalizing r supply i j with
  | nil => cases item
  | cons way calls ih =>
    obtain ⟨j, rfl⟩ := Nat.exists_eq_succ_of_ne_zero (Nat.ne_zero_of_lt before)
    intro failure burst failed
    rw [answersOver_succ]
    cases i with
    | zero =>
      cases item
      rw [answersOver_zero, Option.some_inj] at failed
      have done := next_finishes (r.resumed (supply 0)) fun other found => by
        cases failed.symm.trans found
      rw [List.getElem?_cons_succ] at item'
      intro found
      cases (item_of_finished done _ item').symm.trans found
    | succ i => exact ih _ _ (Nat.lt_of_succ_lt_succ before) item item' failure burst failed

end RecordReader

def emptyRecord : Bytes := [0, 0, 0, 0, 0x62, 9, 0, 0]

/-- A header that announces one sample more than a record may have. -/
def refusedHeader : Bytes := [0x41, 0x25, 0, 0, 0x88, 9, 0, 0]

def emptyRecords (n : Nat) : Bytes :=
  (List.replicate n emptyRecord).flatten

namespace Feed

variable {f : Feed} {rest : Bytes} {ending : FeedEnd}

theorem Delivers.nextRecord_empty (delivers : f.Delivers (emptyRecord ++ rest) ending) :
    ∃ g, f.nextRecord = (.ok (some ⟨0, 2402, []⟩), g) ∧ g.Delivers rest ending := by
  have fits : (⟨0, 2402, []⟩ : RawBurst Phasor).valid.length ≤ Limits.recordSamples := by decide
  exact delivers.nextRecord_ok (Record.extract_encode fits rest)

theorem Delivers.nextRecord_refused (delivers : f.Delivers (refusedHeader ++ rest) ending) :
    ∃ g, f.nextRecord = (.error (.invalidArgument (.recordTooLong 9537)), g) ∧
      g.Delivers rest ending := by
  have enough : Record.headerLength ≤ (refusedHeader ++ rest).length := by
    rw [List.length_append]
    exact Nat.le_add_right ..
  obtain ⟨g, later, reading⟩ := delivers.nextRecord_header enough
  exact ⟨g, reading, later⟩

end Feed

namespace RecordReader

variable {f : Feed} {calls : List ReadCall} {way way' : ReadCall}

private theorem call_empty {n : Nat} (delivers : f.Delivers (emptyRecords (n + 1)) .endOfInput)
    (finished : Bool) (way : ReadCall) :
    ∃ g m, n ≤ m ∧ g.Delivers (emptyRecords m) .endOfInput ∧
      ((⟨f, finished⟩ : RecordReader).call way).2 = ⟨g, finished⟩ ∧
      (finished = false ∨ way = .record →
        ((⟨f, finished⟩ : RecordReader).call way).1 = some (.ok ⟨0, 2402, []⟩)) := by
  obtain ⟨g, reading, later⟩ := Feed.Delivers.nextRecord_empty delivers
  cases finished with
  | false =>
    rw [call_ok reading way]
    exact ⟨g, n, Nat.le_refl n, later, rfl, fun _ => rfl⟩
  | true =>
    cases way with
    | item =>
      refine ⟨f, n + 1, Nat.le_succ n, delivers, ?_, fun reads => ?_⟩
      · rw [call, next_of_finished rfl]
      · rcases reads with reads | reads <;> cases reads
    | record =>
      refine ⟨g, n, Nat.le_refl n, later, ?_, fun _ => ?_⟩ <;>
        simp only [call, readRecord, reading, itemOf]

theorem answers_empty {n k : Nat} (delivers : f.Delivers (emptyRecords n) .endOfInput)
    (finished : Bool) (asked : calls[k]? = some way) (enough : k < n)
    (reads : finished = false ∨ way = .record) :
    ((⟨f, finished⟩ : RecordReader).answers calls).1[k]? = some (some (.ok ⟨0, 2402, []⟩)) := by
  induction calls generalizing f n k with
  | nil => cases asked
  | cons first calls ih =>
    obtain ⟨n, rfl⟩ := Nat.exists_eq_succ_of_ne_zero (Nat.ne_zero_of_lt enough)
    obtain ⟨g, m, left, later, moved, answered⟩ := call_empty delivers finished first
    cases k with
    | zero =>
      cases asked
      simp only [answers, List.getElem?_cons_zero, answered reads]
    | succ k =>
      simp only [answers, moved, List.getElem?_cons_succ]
      exact ih later asked (by omega)

private theorem call_refused {rest : Bytes}
    (delivers : f.Delivers (refusedHeader ++ rest) .endOfInput) (way : ReadCall) :
    ∃ g finished, g.Delivers rest .endOfInput ∧ (way = .record → finished = false) ∧
      (⟨f, false⟩ : RecordReader).call way =
        (some (.error (.invalidArgument (.recordTooLong 9537))), ⟨g, finished⟩) := by
  obtain ⟨g, reading, later⟩ := delivers.nextRecord_refused
  cases way with
  | item => exact ⟨g, true, later, nofun, by simp [call, next, reading]⟩
  | record => exact ⟨g, false, later, fun _ => rfl, by simp [call, readRecord, reading, itemOf]⟩

theorem answers_refused {i j n : Nat}
    (delivers : f.Delivers (emptyRecords i ++ (refusedHeader ++ emptyRecords n)) .endOfInput)
    (asked : calls[i]? = some way) (asked' : calls[j]? = some way') (before : i < j)
    (enough : j ≤ i + n) (reads : way = .record ∨ way' = .record) :
    ((⟨f, false⟩ : RecordReader).answers calls).1[i]? =
        some (some (.error (.invalidArgument (.recordTooLong 9537)))) ∧
      ((⟨f, false⟩ : RecordReader).answers calls).1[j]? = some (some (.ok ⟨0, 2402, []⟩)) := by
  obtain ⟨j, rfl⟩ := Nat.exists_eq_succ_of_ne_zero (Nat.ne_zero_of_lt before)
  induction i generalizing f calls j with
  | zero =>
    -- If it is the item that fails the walk has ended, but the later call reads all the same.
    obtain ⟨g, finished, later, unended, failed⟩ := call_refused delivers way
    cases calls with
    | nil => cases asked
    | cons first calls =>
      cases asked
      simp only [answers, failed, List.getElem?_cons_zero, List.getElem?_cons_succ, true_and]
      exact answers_empty later finished asked' (by omega) (reads.imp_left unended)
  | succ i ih =>
    have first : f.Delivers
        (emptyRecord ++ (emptyRecords i ++ (refusedHeader ++ emptyRecords n))) .endOfInput := by
      rwa [emptyRecords, List.replicate_succ, List.flatten_cons, List.append_assoc] at delivers
    obtain ⟨g, reading, later⟩ := first.nextRecord_empty
    obtain ⟨j, rfl⟩ := Nat.exists_eq_succ_of_ne_zero (show j ≠ 0 by omega)
    cases calls with
    | nil => cases asked
    | cons first calls =>
      simp only [answers, call_ok reading, List.getElem?_cons_succ]
      exact ih later asked j asked' (by omega) (by omega)

/-- A failure silences the later calls on every source exactly if both calls ask for an item: a record
that is read by itself neither leaves a sign of its failure nor looks for one. -/
theorem silenced_iff {calls : List ReadCall} {i j : Nat} (before : i < j)
    (inside : j < calls.length) :
    (∀ (f : Feed) (supply : Nat → Option Feed),
        Silenced ((⟨f, false⟩ : RecordReader).answersOver supply calls) i j) ↔
      calls[i]? = some .item ∧ calls[j]? = some .item := by
  constructor
  · intro silenced
    obtain ⟨way, asked⟩ : ∃ way, calls[i]? = some way :=
      ⟨_, List.getElem?_eq_getElem (before.trans inside)⟩
    obtain ⟨way', asked'⟩ : ∃ way', calls[j]? = some way' := ⟨_, List.getElem?_eq_getElem inside⟩
    by_contra mixed
    have reads : way = .record ∨ way' = .record := by
      cases way with
      | record => exact .inl rfl
      | item =>
        cases way' with
        | record => exact .inr rfl
        | item => exact absurd ⟨asked, asked'⟩ mixed
    obtain ⟨failed, answered⟩ := answers_refused (Feed.delivers_ofBytes _) asked asked' before
      (Nat.le_add_left j i) reads
    rw [← answersOver_none] at failed answered
    exact silenced _ _ _ _ failed answered
  · rintro ⟨item, item'⟩ f supply
    exact silenced_of_items _ supply before item item'

/-- Whatever a record that is read between two items brings, the second one stays silent. -/
theorem silenced_iff_between :
    let calls : List ReadCall := [.item, .record, .item]
    0 < 2 ∧ 2 < calls.length ∧ ∀ (f : Feed) (supply : Nat → Option Feed),
      Silenced ((⟨f, false⟩ : RecordReader).answersOver supply calls) 0 2 :=
  ⟨by decide, by decide, (silenced_iff (by decide) (by decide)).mpr ⟨rfl, rfl⟩⟩

/-- The walk goes on behind a record that was refused when it was read by itself. -/
theorem not_silenced_record :
    ((⟨.ofBytes (refusedHeader ++ emptyRecord), false⟩ : RecordReader).answers
        [.record, .item]).1 =
      [some (.error (.invalidArgument (.recordTooLong 9537))), some (.ok ⟨0, 2402, []⟩)] ∧
    ¬ ∀ (f : Feed) (supply : Nat → Option Feed),
      Silenced ((⟨f, false⟩ : RecordReader).answersOver supply [.record, .item]) 0 1 := by
  have delivers : (Feed.ofBytes (refusedHeader ++ emptyRecord)).Delivers
      (emptyRecords 0 ++ (refusedHeader ++ emptyRecords 1)) .endOfInput := Feed.delivers_ofBytes _
  have asked : ([.record, .item] : List ReadCall)[0]? = some .record := rfl
  obtain ⟨failed, answered⟩ := answers_refused delivers asked rfl Nat.zero_lt_one (Nat.le_refl 1)
    (.inl rfl)
  constructor
  · have length := length_answers ⟨.ofBytes (refusedHeader ++ emptyRecord), false⟩ [.record, .item]
    obtain ⟨first, second, both⟩ := List.length_eq_two.mp length
    rw [both] at failed answered ⊢
    cases failed
    cases answered
    rfl
  · intro silenced
    rw [← answersOver_none] at failed answered
    exact silenced _ _ _ _ failed answered

end RecordReader

end DirectionFinding
