import DirectionFinding.Capture.Feed

/-!
Reading a capture record by record from a feed. A capture ends cleanly only between two records.
Walking through the records stops for good at the end or at the first failure.
-/
namespace DirectionFinding

namespace Feed

def nextRecord (f : Feed) : Located (Option (RawBurst Phasor)) × Feed :=
  match f.fill Record.headerLength with
  | (.error cause, g) => (.error (.io cause), g)
  | (.ok [], g) => (.ok none, g)
  | (.ok (b :: bs), g) =>
    match Record.parseHeader (b :: bs) with
    | .error cause => (.error cause, g)
    | .ok header =>
      match g.fill header.payloadLength with
      | (.error cause, k) => (.error (.io cause), k)
      | (.ok payload, k) =>
        if payload.length < header.payloadLength then
          (.error (.truncated (Record.headerLength + header.payloadLength)
            (Record.headerLength + payload.length)), k)
        else (.ok (some (header.burst payload)), k)

theorem nextRecord_weight {f g : Feed} {burst : RawBurst Phasor}
    (h : f.nextRecord = (.ok (some burst), g)) : g.weight < f.weight := by
  unfold nextRecord at h
  split at h
  · simp at h
  · simp at h
  · rename_i b bs k filled
    have header := fill_weight_lt filled
    split at h
    · simp at h
    · rename_i parsed _
      have payload := fill_weight_le k parsed.payloadLength
      split at h
      · simp at h
      · rename_i eq
        split at h
        · simp at h
        · simp only [Prod.mk.injEq] at h
          rw [eq, h.2] at payload
          simp only at payload
          omega

end Feed

structure RecordReader where
  feed : Feed
  finished : Bool := false
  deriving DecidableEq, Repr

namespace RecordReader

/-- Reads a record whether or not the walk has ended. -/
def readRecord (r : RecordReader) : Located (Option (RawBurst Phasor)) × RecordReader :=
  let (answer, feed) := r.feed.nextRecord
  (answer, { r with feed := feed })

def next (r : RecordReader) : Option (Located (RawBurst Phasor)) × RecordReader :=
  if r.finished then (none, r)
  else
    match r.feed.nextRecord with
    | (.ok (some burst), feed) => (some (.ok burst), { r with feed := feed })
    | (.ok none, feed) => (none, ⟨feed, true⟩)
    | (.error cause, feed) => (some (.error cause), ⟨feed, true⟩)

end RecordReader

namespace Feed

def records (f : Feed) : List (RawBurst Phasor) × Option LocateError :=
  match _h : f.nextRecord with
  | (.ok (some burst), g) =>
    let (later, failure) := g.records
    (burst :: later, failure)
  | (.ok none, _) => ([], none)
  | (.error cause, _) => ([], some cause)
termination_by f.weight
decreasing_by exact nextRecord_weight _h

/-- All bursts of a capture; one failure spoils them all. -/
def readCapture (f : Feed) : Located (List (RawBurst Phasor)) :=
  match f.records with
  | (bursts, none) => .ok bursts
  | (_, some cause) => .error cause

end Feed

end DirectionFinding
