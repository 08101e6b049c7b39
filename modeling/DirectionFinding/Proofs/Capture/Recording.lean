import DirectionFinding.Capture.Writer
import DirectionFinding.Proofs.Capture.Canonical
import DirectionFinding.Proofs.Capture.Sink
import Mathlib.Data.List.TakeWhile

/-!
Recordings and what they read as. A writer that accepts bursts leaves their records; reading them
gives back each burst as its record keeps it, up to the first one of more samples than a record may
announce, at which reading stops for good.
-/
namespace DirectionFinding

/-- A burst whose record can be read. -/
def RawBurst.Recordable (b : RawBurst Phasor) : Prop :=
  b.valid.length ≤ Limits.recordSamples

instance (b : RawBurst Phasor) : Decidable b.Recordable :=
  inferInstanceAs (Decidable (_ ≤ _))

namespace RecordWriter

def writeAll (w : RecordWriter) : List (RawBurst Phasor) → List (Located Unit) × RecordWriter
  | [] => ([], w)
  | burst :: bursts =>
    let (answer, next) := w.write burst
    let (answers, final) := next.writeAll bursts
    (answer :: answers, final)

structure Fresh (w : RecordWriter) : Prop where
  held : w.sink.target.held = []
  position : w.sink.target.position = 0
  pending : w.sink.pending = []

private theorem fresh_ofDestination (d : Destination) : (ofDestination d).Fresh := by
  cases d <;> exact ⟨rfl, rfl, rfl⟩

variable {w next : RecordWriter}

theorem write_ok (atEnd : w.sink.target.AtEnd) {burst : RawBurst Phasor}
    (written : w.write burst = (.ok (), next)) :
    next.sink.target.AtEnd ∧
      next.sink.accepted = w.sink.accepted ++ Record.encode burst := by
  simp only [write] at written
  match passed : w.sink.write (Record.encode burst) with
  | (.error cause, sink) =>
    rw [passed] at written
    cases written
  | (.ok (), sink) =>
    rw [passed] at written
    cases written
    exact BufferedSink.write_ok atEnd passed

private theorem writeAll_ok (atEnd : w.sink.target.AtEnd) (bursts : List (RawBurst Phasor))
    (accepted : ∀ answer ∈ (w.writeAll bursts).1, answer = .ok ()) :
    (w.writeAll bursts).2.sink.target.AtEnd ∧
      (w.writeAll bursts).2.sink.accepted = w.sink.accepted ++ bursts.flatMap Record.encode := by
  induction bursts generalizing w with
  | nil => exact ⟨atEnd, (List.append_nil _).symm⟩
  | cons burst bursts ih =>
    simp only [writeAll] at accepted ⊢
    have first : (w.write burst).1 = .ok () := accepted _ List.mem_cons_self
    obtain ⟨still, held⟩ := write_ok atEnd (Prod.ext first rfl)
    obtain ⟨atEndNow, all⟩ := ih still fun answer member =>
      accepted answer (List.mem_cons_of_mem _ member)
    refine ⟨atEndNow, ?_⟩
    rw [all, held, List.append_assoc, List.flatMap_cons]

private theorem writeAll_unlimited (unlimited : w.sink.target.room = none)
    (bursts : List (RawBurst Phasor)) : ∀ answer ∈ (w.writeAll bursts).1, answer = .ok () := by
  induction bursts generalizing w with
  | nil => simp [writeAll]
  | cons burst bursts ih =>
    obtain ⟨sink, passed, still⟩ := BufferedSink.write_unlimited unlimited (Record.encode burst)
    intro answer member
    simp only [writeAll, write, passed] at member
    rcases List.mem_cons.mp member with rfl | member
    · rfl
    · exact ih still answer member

/-- A writer to a sink of unlimited room, and the bytes it has accepted. -/
structure Keeps (w : RecordWriter) (bytes : Bytes) : Prop where
  unlimited : w.sink.target.room = none
  atEnd : w.sink.target.AtEnd
  accepted : w.sink.accepted = bytes

theorem keeps_file : (ofDestination .file).Keeps [] :=
  ⟨rfl, rfl, rfl⟩

variable {bytes : Bytes}

theorem Keeps.write (keeps : w.Keeps bytes) (burst : RawBurst Phasor) :
    (w.write burst).2.Keeps (bytes ++ Record.encode burst) := by
  obtain ⟨sink, passed, still⟩ :=
    BufferedSink.write_unlimited keeps.unlimited (Record.encode burst)
  have written : w.write burst = (.ok (), { w with sink := sink, written := w.written + 1 }) := by
    simp only [RecordWriter.write, passed]
  obtain ⟨atEnd, accepted⟩ := write_ok keeps.atEnd written
  rw [written]
  exact ⟨still, atEnd, by rw [accepted, keeps.accepted]⟩

theorem Keeps.writeAll (keeps : w.Keeps bytes) (bursts : List (RawBurst Phasor)) :
    (w.writeAll bursts).2.Keeps (bytes ++ bursts.flatMap Record.encode) := by
  induction bursts generalizing w bytes with
  | nil => simpa [RecordWriter.writeAll] using keeps
  | cons burst bursts ih =>
    rw [List.flatMap_cons, ← List.append_assoc]
    exact ih (keeps.write burst)

theorem Keeps.flush (keeps : w.Keeps bytes) :
    ∃ flushed, w.flush = (.ok (), flushed) ∧ flushed.Keeps bytes ∧ flushed.held = bytes := by
  obtain ⟨sink, passed, still, atEnd, held, empty⟩ :=
    BufferedSink.flush_unlimited keeps.unlimited keeps.atEnd
  have arrived : sink.target.held = bytes := held.trans keeps.accepted
  refine ⟨{ w with sink := sink }, ?_, ⟨still, atEnd, ?_⟩, arrived⟩
  · simp only [RecordWriter.flush, passed]
    rfl
  · simp only [BufferedSink.accepted, arrived, empty, List.append_nil]

end RecordWriter

private theorem Record.encode_ne_nil (b : RawBurst Phasor) : Record.encode b ≠ [] := by
  intro empty
  have length := congrArg List.length empty
  rw [Record.encode_eq, List.length_append, Record.Header.length_encode] at length
  simp [Record.headerLength] at length

namespace Feed

variable {f : Feed}

/-- Records of bursts read as they are kept, up to one that is refused. -/
theorem Delivers.records_encode {bursts : List (RawBurst Phasor)}
    (delivers : f.Delivers (bursts.flatMap Record.encode) .endOfInput) :
    f.records = ((bursts.takeWhile (·.Recordable)).map Record.kept,
      (bursts.find? (¬ ·.Recordable)).map fun burst =>
        .invalidArgument (.recordTooLong burst.valid.length)) := by
  induction bursts generalizing f with
  | nil =>
    obtain ⟨g, reading⟩ := delivers.nextRecord_error Record.extract_nil
    exact records_of_closing reading
  | cons burst bursts ih =>
    rw [List.flatMap_cons] at delivers
    by_cases fits : burst.Recordable
    · obtain ⟨g, reading, left⟩ := delivers.nextRecord_ok (Record.extract_encode fits _)
      rw [List.drop_left] at left
      rw [records_of_ok reading, ih left]
      simp [fits]
    · obtain ⟨g, reading⟩ :=
        delivers.nextRecord_error (Record.extract_encode_long (Nat.not_le.mp fits) _)
      have nonempty : (Record.encode burst ++ bursts.flatMap Record.encode).isEmpty = false := by
        simp [Record.encode_ne_nil]
      rw [FeedEnd.verdict, nonempty] at reading
      rw [records_of_closing reading]
      simp [fits]

private theorem Delivers.records_long {burst : RawBurst Phasor} {bursts : List (RawBurst Phasor)}
    (delivers : f.Delivers ((burst :: bursts).flatMap Record.encode) .endOfInput)
    (long : ¬ burst.Recordable) :
    f.records = ([], some (.invalidArgument (.recordTooLong burst.valid.length))) := by
  rw [delivers.records_encode]
  simp [long]

end Feed

namespace RecordWriter

def summary (b : RawBurst Phasor) : UInt32 × Nat :=
  (b.frequency, b.valid.length)

private theorem summary_kept (b : RawBurst Phasor) : summary (Record.kept b) = summary b := by
  have all : (Record.kept b).valid = b.valid.map Record.keptSample := by
    rw [RawBurst.valid]
    apply List.take_of_length_le
    simp only [Record.kept, Record.toNat_ofNat_valid, List.length_map, Nat.le_refl]
  rw [summary, summary, all, List.length_map]
  rfl

theorem flush_ok {w flushed : RecordWriter} (atEnd : w.sink.target.AtEnd)
    (passed : w.flush = (.ok (), flushed)) : flushed.held = w.sink.accepted := by
  simp only [flush] at passed
  obtain ⟨answer, result⟩ := Prod.mk.inj passed
  have settled : w.sink.flush.1 = .ok () := by
    cases outcome : w.sink.flush.1 with
    | ok => rfl
    | error cause =>
      rw [outcome] at answer
      cases answer
  rw [← result]
  exact BufferedSink.flush_ok atEnd (Prod.ext settled rfl)

variable {w : RecordWriter}

theorem Fresh.accepted (fresh : w.Fresh) (bursts : List (RawBurst Phasor))
    (all : ∀ answer ∈ (w.writeAll bursts).1, answer = .ok ()) :
    (w.writeAll bursts).2.sink.target.AtEnd ∧
      (w.writeAll bursts).2.sink.accepted = bursts.flatMap Record.encode := by
  have atEnd : w.sink.target.AtEnd := by
    rw [ByteSink.AtEnd, fresh.position, fresh.held]
    rfl
  have nothing : w.sink.accepted = [] := by
    rw [BufferedSink.accepted, fresh.held, fresh.pending]
    rfl
  have written := writeAll_ok atEnd bursts all
  rwa [nothing, List.nil_append] at written

/-- What a new writer has accepted, and passes on when it is flushed, reads back burst by burst
exactly if no burst has more samples than a record may announce. Otherwise reading stops at the
first that has, and what was written after it is lost. -/
theorem readable_iff (fresh : w.Fresh) (bursts : List (RawBurst Phasor))
    (all : ∀ answer ∈ (w.writeAll bursts).1, answer = .ok ()) {f : Feed}
    (delivers : f.Delivers (w.writeAll bursts).2.sink.accepted .endOfInput) :
    (∀ flushed, (w.writeAll bursts).2.flush = (.ok (), flushed) →
      flushed.held = (w.writeAll bursts).2.sink.accepted) ∧
    (f.records.1.map summary = bursts.map summary ∧ f.records.2 = none ↔
      ∀ burst ∈ bursts, burst.Recordable) ∧
    f.records.1.map summary = (bursts.takeWhile (·.Recordable)).map summary ∧
    f.records.2 = (bursts.find? (¬ ·.Recordable)).map fun burst =>
      .invalidArgument (.recordTooLong burst.valid.length) := by
  obtain ⟨atEnd, written⟩ := fresh.accepted bursts all
  rw [written] at delivers
  have records := delivers.records_encode
  have found : f.records.1.map summary = (bursts.takeWhile (·.Recordable)).map summary := by
    rw [records, List.map_map]
    exact List.map_congr_left fun burst _ => summary_kept burst
  have failure := congrArg Prod.snd records
  refine ⟨fun flushed passed => flush_ok atEnd passed, ⟨?_, ?_⟩, found, failure⟩
  · rintro ⟨-, complete⟩
    rw [failure, Option.map_eq_none_iff] at complete
    simpa using complete
  · intro fits
    have kept : bursts.takeWhile (·.Recordable) = bursts := by
      simpa [List.takeWhile_eq_self_iff] using fits
    have none : bursts.find? (¬ ·.Recordable) = none := by
      simpa using fits
    rw [found, failure, kept, none]
    exact ⟨rfl, rfl⟩

/-- Three bursts in a new file, one of them without samples and one with parts that its record
rounds. -/
theorem readable_iff_several :
    let w := ofDestination .file
    let bursts : List (RawBurst Phasor) :=
      [.ofSamples 2440 [.ofParts 1 0, .ofParts 2 3], .ofSamples 2402 [],
        .ofSamples 2480 [.ofParts (-4) 0.5, .ofParts 40000 1, .ofParts 0 0]]
    let f := Feed.ofBytes (w.writeAll bursts).2.sink.accepted
    w.Fresh ∧ (∀ answer ∈ (w.writeAll bursts).1, answer = .ok ()) ∧
    f.Delivers (w.writeAll bursts).2.sink.accepted .endOfInput ∧
    f.records.1.map summary = [(2440, 2), (2402, 0), (2480, 3)] ∧ f.records.2 = none := by
  intro w bursts f
  have fresh := fresh_ofDestination .file
  have all : ∀ answer ∈ (w.writeAll bursts).1, answer = .ok () := writeAll_unlimited rfl bursts
  have delivers := Feed.delivers_ofBytes (w.writeAll bursts).2.sink.accepted
  obtain ⟨-, complete, -⟩ := readable_iff fresh bursts all delivers
  exact ⟨fresh, all, delivers, complete.mpr (by decide)⟩

/-- A burst of one sample more than a record may announce is accepted, but neither it nor the burst
behind it can be read. -/
theorem unreadable_oversized :
    let w : RecordWriter := {}
    let bursts : List (RawBurst Phasor) :=
      [.ofSamples 2440 (List.replicate 9537 0), .ofSamples 2402 []]
    w.Fresh ∧ (∀ answer ∈ (w.writeAll bursts).1, answer = .ok ()) ∧
    (Feed.ofBytes (w.writeAll bursts).2.sink.accepted).records =
      ([], some (.invalidArgument (.recordTooLong 9537))) := by
  intro w bursts
  have fresh : w.Fresh := ⟨rfl, rfl, rfl⟩
  have all : ∀ answer ∈ (w.writeAll bursts).1, answer = .ok () := writeAll_unlimited rfl bursts
  have count : (RawBurst.ofSamples 2440 (List.replicate 9537 (0 : Phasor))).valid.length = 9537 := by
    simp only [RawBurst.ofSamples, RawBurst.valid, List.length_take, List.length_replicate]
    decide
  have long : ¬ (RawBurst.ofSamples 2440 (List.replicate 9537 (0 : Phasor))).Recordable := by
    rw [RawBurst.Recordable, count]
    decide
  refine ⟨fresh, all, ?_⟩
  rw [(fresh.accepted bursts all).2, (Feed.delivers_ofBytes _).records_long long, count]

end RecordWriter

end DirectionFinding
