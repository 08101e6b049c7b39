import DirectionFinding.Capture.Record
import DirectionFinding.Capture.Sink

/-!
Writing a capture to a sink. A refused record is not counted, although a part of it may have gone
through. What arrives at a sink that stands for a console is seen there when it arrives.
-/
namespace DirectionFinding

structure RecordWriter where
  destination : Destination := .file
  sink : BufferedSink := {}
  written : Nat := 0
  deriving DecidableEq, Repr

namespace RecordWriter

def ofDestination (d : Destination) : RecordWriter :=
  { destination := d, sink := .ofDestination d }

def write (w : RecordWriter) (burst : RawBurst Phasor) : Located Unit × RecordWriter :=
  match w.sink.write (Record.encode burst) with
  | (.ok (), sink) => (.ok (), { w with sink := sink, written := w.written + 1 })
  | (.error cause, sink) => (.error (.io cause), { w with sink := sink })

def flush (w : RecordWriter) : Located Unit × RecordWriter :=
  let (answer, sink) := w.sink.flush
  (answer.mapError .io, { w with sink := sink })

/-- Changes what the target of the sink holds, as another writer of it would. -/
def mapTarget (w : RecordWriter) (f : ByteSink → ByteSink) : RecordWriter :=
  { w with sink := { w.sink with target := f w.sink.target } }

def held (w : RecordWriter) : Bytes :=
  w.sink.target.held

def arrivedSince (w earlier : RecordWriter) : Bytes :=
  w.held.drop earlier.held.length

end RecordWriter

end DirectionFinding
