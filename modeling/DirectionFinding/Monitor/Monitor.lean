import DirectionFinding.Monitor.Output
import DirectionFinding.Monitor.Watch

/-!
A monitor runs the watch loop once. Sinks for reports and for raw bursts are subscribed before the
start, at most one of each at a time; the start hands them to the loop, and stopping gives up what
is left of them.
-/
namespace DirectionFinding

/-- Where reports go: to a receiver, or to a file that may turn out not to be creatable. -/
inductive ReportSink where
  | queue (receiver : Patience)
  | file (form : ReportForm) (opened : Except IoFault Destination)

/-- The receiver a sink stands for. The writer of a file that cannot be created leaves at once, that
of a text that is refused with the first full batch. -/
def ReportSink.receiver : ReportSink → Patience
  | queue receiver => receiver
  | file _ (.error _) => some 0
  | file .text (.ok (.refusing _)) => some ReportFile.batchSize
  | file _ (.ok _) => none

structure LoopSinks where
  reports : Option ReportSink
  raw : Bool

/-- A monitor: what it still holds, and what it has produced. `loop` is there from the start until
stopping has waited for it, and `writer` is the sink whose file is written meanwhile and waited for
as well. `received` is what came to the latest receiver of a queue and `file` the latest report
file. All raw bursts go to one place; `recorder` is the writer that the loop took over or will take
over, and what that place holds. -/
structure Monitor where
  locator : Locator
  mode : Smoothing
  source : Option BurstSource
  reportSink : Option ReportSink := none
  rawSink : Bool := false
  loop : Option LoopSinks := none
  writer : Option ReportSink := none
  shown : List Output := []
  received : Option (List Report) := none
  file : Option ReportFile := none
  recorder : Option RecordWriter := none

namespace Monitor

def ofSettings [Trigonometry] (source : BurstSource) (sampling : SamplingSettings)
    (array : AntennaArray) (pairs : AnglePairs) (mode : Smoothing) : Located Monitor := do
  let locator ← Locator.ofSettings sampling array pairs
  let _ ← (Track.ofMode mode : Located (Track Phasor))
  return { locator := locator, mode := mode, source := some source }

def display (m : Monitor) (outputs : List Output) : Monitor :=
  { m with shown := m.shown ++ outputs }

def openingLine (path : String) : Output :=
  .info s!"Creating packet source from capture file: {path}"

/-- Gives a sink what it needs to take reports: a file is created and gets a writer, which leaves at
once if there is no file to write. -/
def openSink (m : Monitor) (sink : ReportSink) : Monitor :=
  match sink with
  | .queue receiver => if receiver = some 0 then m else { m with received := some [] }
  | .file form (.ok destination) =>
    { m with
      writer := some sink
      file := some { form := form, destination := destination } }
  | .file _ (.error cause) =>
    { m with writer := some sink }.display
      [.error s!"Couldn't create a file writer: {(ReportError.io cause).message}. Exiting writer."]

def subscribeReports (m : Monitor) (sink : ReportSink) : Located Unit × Monitor :=
  if m.reportSink.isSome then (.error (.invalidArgument .secondReportSink), m)
  else (.ok (), { m.openSink sink with reportSink := some sink })

/-- Creates the file of a recording. A file that is there loses what it holds, but a loop that has
been writing to it goes on where it was. -/
def createRecording (m : Monitor) (destination : Destination) : Monitor :=
  let recorder := (m.recorder.map (·.mapTarget ByteSink.truncate)).getD (.ofDestination destination)
  { m with recorder := some recorder }

def subscribeRecording (m : Monitor) : Located Unit × Monitor :=
  if m.rawSink then (.error (.invalidArgument .secondRawSink), m)
  else (.ok (), { m with rawSink := true })

def subscribeRaw (m : Monitor) (destination : Destination) : Located Unit × Monitor :=
  (m.createRecording destination).subscribeRecording

/-- Closes the report file a sink stands for, with the reports it was sent. -/
def closeSink (m : Monitor) (sink : ReportSink) (reports : List Report) : Monitor :=
  match sink with
  | .queue receiver =>
    if receiver = some 0 ∨ reports = [] then m else { m with received := some reports }
  | .file _ (.error _) => m
  | .file form (.ok destination) =>
    match ReportFile.ofStream form destination reports with
    | .error cause =>
      m.display [.error s!"Error encountered on batch writing: {cause.message}. Exiting writer."]
    | .ok file =>
      match file.finish with
      | .error cause => m.display [.error s!"Couldn't finalize report file: {cause.message}"]
      | .ok file =>
        { m with file := some file }.display
          (file.displayed ++ [Output.info s!"Finished writing reports ({file.size} bytes)"])

def outputOf : WatchEvent → List Output
  | .dropped cause =>
    [.error s!"Failed to locate packet. Skipping. Error: {cause.message}"]
  | .printed report => [.report report]
  | .receiverLost =>
    [.error ("Failed to forward report to sink; Dropping the sink. Error: " ++
      "sending on a disconnected channel")]
  | _ => []

/-- What the loop shows of its events while its recorder takes the bursts that are recorded. -/
def outputsOf (recorder : RecordWriter) : List WatchEvent → List Output × RecordWriter
  | [] => ([], recorder)
  | .recorded burst :: rest =>
    let (answer, next) := recorder.write burst
    let failures := match answer with
      | .ok () => []
      | .error cause => [Output.error s!"Failed to record raw packet: {cause.message}"]
    let (outputs, last) := outputsOf next rest
    (next.displayedSince recorder ++ failures ++ outputs, last)
  | event :: rest =>
    let (outputs, recorder) := outputsOf recorder rest
    (outputOf event ++ outputs, recorder)

def start [Trigonometry] (m : Monitor) (print : Bool) : Located Unit × Monitor :=
  match m.source, (Track.ofMode m.mode : Located (Track Phasor)) with
  | some source, .ok track =>
    let sinks : LoopSinks := ⟨m.reportSink, m.rawSink⟩
    let (bursts, failure) := source.bursts
    let task : WatchTask := { locator := m.locator, record := sinks.raw, print := print }
    let events := task.events none (sinks.reports.map ReportSink.receiver) track bursts
    let ending := match failure with
      | some cause => [Output.error s!"Capture file ended with a broken record: {cause.message}"]
      | none => []
    let located := WatchEvent.locatedCount events
    let dropped := WatchEvent.droppedCount events
    let (outputs, recorder) := outputsOf (m.recorder.getD {}) events
    let finished := m.display (
      [.info "Starting scouting for packets! εწз"] ++ outputs ++ ending ++
      [.info s!"Scouting completed! {located} packets located, {dropped} dropped."])
    let finished := { finished with
      source := none
      reportSink := none
      rawSink := false
      loop := some sinks
      recorder := if sinks.raw then some recorder else m.recorder }
    (.ok (), match sinks.reports with
      | some sink => finished.closeSink sink (WatchEvent.deliveries events)
      | none => finished)
  | _, _ => (.error (.invalidArgument .noSourceLeft), m)

/-- Passes on what a recording still holds back. A recording that is refused is given up. -/
def settle (m : Monitor) : Monitor :=
  match m.recorder with
  | none => m
  | some recorder =>
    match recorder.flush with
    | (.ok (), settled) =>
      { m with recorder := some settled }.display (settled.displayedSince recorder)
    | (.error cause, _) =>
      { m with recorder := none }.display
        [.error s!"Error flushing capture file: {cause.message}"]

/-- Stops the monitor once loop and writer are done: the recording is settled and unused sinks are
closed. -/
def stop (m : Monitor) : Monitor :=
  let stopped := m.display [.info "Stopping scouting; Resetting sinks as well."]
  let settled := { stopped.settle with
    reportSink := none
    rawSink := false
    loop := none
    writer := none }
  match m.reportSink with
  | some sink => settled.closeSink sink []
  | none => settled

def overwriteRecording (m : Monitor) (bytes : Bytes) : Monitor :=
  let write (target : ByteSink) : ByteSink :=
    { target with held := Bytes.overlay target.held 0 bytes }
  { m with recorder := m.recorder.map (·.mapTarget write) }

def recording (m : Monitor) : Option Bytes :=
  m.settle.recorder.map RecordWriter.held

end Monitor

end DirectionFinding
