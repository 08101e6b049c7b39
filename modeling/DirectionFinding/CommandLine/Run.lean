import DirectionFinding.CommandLine.Command
import DirectionFinding.CommandLine.FileTree
import DirectionFinding.CommandLine.PlainText
import DirectionFinding.Monitor.Monitor
import DirectionFinding.ReferenceQuality

/-!
Running a command: what it shows, which files it leaves, and whether it fails. A failure ends the
run with an error in the log; what was shown and written before stays.
-/
namespace DirectionFinding

inductive FileContent where
  | reports (file : ReportFile)
  | recording (bytes : Bytes)
  deriving DecidableEq, Repr

def FileContent.bytes : FileContent → Bytes
  | reports file => file.bytes
  | recording bytes => bytes

structure RunOutcome where
  shown : List Output := []
  files : List (Place × FileContent) := []
  failed : Bool := false
  deriving DecidableEq, Repr

inductive RunFailure where
  | locating (cause : LocateError)
  | reporting (cause : ReportError)
  deriving DecidableEq, Repr

def RunFailure.message : RunFailure → String
  | locating cause => cause.message
  | reporting cause => cause.message

abbrev Run := ExceptT RunFailure (StateM RunOutcome)

namespace Run

def display (outputs : List Output) : Run Unit :=
  modify fun outcome => { outcome with shown := outcome.shown ++ outputs }

/-- Leaves a content behind, unless it went to a device. -/
def leave (opened : OpenedOutput) (content : FileContent) : Run Unit :=
  if opened.destination = .file then
    modify fun outcome => { outcome with files := outcome.files ++ [(opened.place, content)] }
  else pure ()

def locating {α : Type} : Located α → Run α
  | .ok a => pure a
  | .error cause => throw (.locating cause)

def reporting {α : Type} : Except ReportError α → Run α
  | .ok a => pure a
  | .error cause => throw (.reporting cause)

def outcome (run : Run Unit) : RunOutcome :=
  match run.run {} with
  | (.ok (), outcome) => outcome
  | (.error failure, outcome) =>
    { outcome with shown := outcome.shown ++ [.error failure.message], failed := true }

end Run

def bracketed (bytes : List UInt8) : String :=
  "[" ++ String.intercalate ", " (bytes.map fun b => Nat.repr b.toNat) ++ "]"

def labelled (label value : String) : Output :=
  let label := label ++ ":"
  .line (label ++ String.ofList (List.replicate (25 - label.length) ' ') ++ value)

def SamplingPlan.description (p : SamplingPlan) (patterns : List UInt8) : List Output :=
  let nanoseconds (n : Nat) : String := Nat.repr n ++ " ns"
  [labelled "Regime" p.regime.text,
    labelled "Switching period" (nanoseconds p.switchingDuration),
    labelled "Switch spacing" (nanoseconds p.switchSpacing),
    labelled "Sample spacing" (nanoseconds p.sampleSpacing),
    labelled "Reference spacing" (nanoseconds p.referenceSpacing),
    labelled "Reference samples" (Nat.repr p.referenceSamples),
    labelled "Effective slots" (Nat.repr p.effectiveSlots),
    labelled "Samples per slot" (Nat.repr p.samplesPerSlot),
    labelled "Antenna step" (Nat.repr p.antennaStep),
    labelled "Delay before sampling" (nanoseconds p.firstSampleDelay),
    labelled "Raw samples per packet" (Nat.repr p.requiredSamples),
    labelled "Switch patterns" (bracketed patterns)]

def runTiming (settings : RunSettings) : Run Unit := do
  let sampling ← Run.locating settings.checkedSampling
  let array ← Run.locating settings.checkedArray
  let plan ← Run.locating (SamplingPlan.ofSettings sampling)
  Run.display (plan.description (← Run.locating array.switchPatterns))

section
variable [Trigonometry]

def qualityLine (locator : Locator) (index : Nat) (raw : RawBurst Phasor) : Output :=
  let quality := do
    let assigned ← raw.assign locator.plan locator.array
    ReferenceQuality.measure assigned.reference
  let place := Decimal.alignRight 5 (Nat.repr index)
  match quality with
  | .error cause => .line s!"{place} {cause.message}"
  | .ok quality =>
    let frequency := Decimal.alignRight 5 (Nat.repr raw.frequency.toNat)
    let drift := Decimal.alignRight 8 (Decimal.fixed 2 quality.driftDegrees)
    let magnitude := Decimal.alignRight 8 (Decimal.fixed 1 quality.magnitude)
    .line s!"{place} {frequency} MHz drift {drift} deg magnitude {magnitude}"

def batchLines (print : Bool) (index : Nat) : List (Located Report) → List Output
  | [] => []
  | .ok report :: rest =>
    (if print then [.report report] else []) ++ batchLines print (index + 1) rest
  | .error cause :: rest =>
    .warn s!"Skipping packet {index}: {cause.message}" :: batchLines print (index + 1) rest

def writeReports (s : Surroundings) (target : ReportTarget) (reports : List Report) : Run Unit := do
  let opened ← Run.reporting ((s.output [] target.path).mapError .io)
  let file : ReportFile := { form := target.form, destination := opened.destination }
  let file ← Run.reporting (file.add reports)
  let file ← Run.reporting file.finish
  Run.leave opened (.reports file)
  Run.display
    (file.displayed ++ [Output.info s!"Wrote {reports.length} reports ({file.size} bytes)"])

def locateBatch (s : Surroundings) (job : BatchJob) (bursts : List (RawBurst Phasor))
    (locator : Locator) (track : Track Phasor) : Run Unit := do
  if job.stats then
    Run.display (bursts.mapIdx (qualityLine locator))
  let (answers, _) := locator.locateAll track bursts
  let reports := answers.filterMap Except.toOption
  Run.display (batchLines job.print 0 answers)
  Run.display [.info s!"Located {reports.length} of {bursts.length} packets"]
  match job.out with
  | some target => writeReports s target reports
  | none => pure ()

/-- Locates all bursts of a capture. The whole capture is read before any setting is looked at. -/
def runBatch (s : Surroundings) (job : BatchJob) : Run Unit := do
  let input ← Run.locating ((s.input job.input).mapError .io)
  let bursts ← Run.locating input.feed.readCapture
  Run.display [.info s!"Read {bursts.length} packets from {job.input}"]
  let sampling ← Run.locating job.settings.checkedSampling
  let array ← Run.locating job.settings.checkedArray
  let pairs ← Run.locating job.settings.checkedPairs
  let locator ← Run.locating (Locator.ofSettings sampling array pairs)
  let track : Track Phasor ← Run.locating (Track.ofMode job.settings.smoothing)
  locateBatch s job bursts locator track

structure StreamOutputs where
  raw : Option (Except IoFault OpenedOutput)
  reports : Option (ReportForm × Except IoFault OpenedOutput)

/-- Opens the outputs of a stream, the one for raw bursts first. -/
def StreamJob.outputs (s : Surroundings) (job : StreamJob) : StreamOutputs :=
  let raw := job.rawOut.map (s.output [])
  let made := ((raw.bind Except.toOption).map OpenedOutput.made).getD []
  { raw := raw, reports := job.out.map fun target => (target.form, s.output made target.path) }

namespace StreamOutputs

def openedRaw (o : StreamOutputs) : Option OpenedOutput :=
  o.raw.bind Except.toOption

def openedReports (o : StreamOutputs) : Option OpenedOutput :=
  o.reports.bind fun (_, opened) => opened.toOption

/-- Places of the files that the outputs make or empty. -/
def made (o : StreamOutputs) : List Place :=
  (o.openedRaw.map OpenedOutput.made).getD [] ++ (o.openedReports.map OpenedOutput.made).getD []

def subscribe (o : StreamOutputs) (raw : Option OpenedOutput) (monitor : Monitor) : Monitor :=
  let monitor := match raw with
    | none => monitor
    | some opened => (monitor.subscribeRaw opened.destination).2
  match o.reports with
  | none => monitor
  | some (form, opened) =>
    (monitor.subscribeReports (.file form (opened.map OpenedOutput.destination))).2

/-- Stops a monitor that is done. Outputs may share a place: the raw bursts that were held back to
the end then lie over the reports. -/
def stop (o : StreamOutputs) (raw : Option OpenedOutput) (monitor : Monitor) : Monitor :=
  let monitor := match raw, o.openedReports, monitor.file with
    | some recording, some opened, some file =>
      if recording.destination = Destination.file ∧ recording.place = opened.place then
        monitor.overwriteRecording file.bytes
      else monitor
    | _, _, _ => monitor
  (monitor.display [.line "Shutting down gracefully..."]).stop

/-- Leaves the files of a stream, one if its outputs share a place. -/
def leave (o : StreamOutputs) (raw : Option OpenedOutput) (monitor : Monitor) : Run Unit := do
  if let (some opened, some bytes) := (raw, monitor.recording) then
    Run.leave opened (.recording bytes)
  if let (some opened, some file) := (o.openedReports, monitor.file) then
    if raw.map OpenedOutput.place ≠ some opened.place then
      Run.leave opened (.reports file)

def watch (o : StreamOutputs) (print : Bool) (monitor : Monitor) : Run Unit := do
  let raw ← o.raw.mapM fun opened => Run.locating (opened.mapError .io)
  let (started, monitor) := (o.subscribe raw monitor).start print
  Run.locating started
  let monitor := o.stop raw monitor
  Run.display monitor.shown
  o.leave raw monitor

end StreamOutputs

/-- Runs a monitor over a capture. The outputs are opened before the capture is read, which is read
empty if it lies at the place of one of them. -/
def runStream (s : Surroundings) (job : StreamJob) : Run Unit := do
  Run.display [Monitor.openingLine job.input]
  let input ← Run.locating ((s.input job.input).mapError .io)
  let outputs := job.outputs s
  let feed := if input.place ∈ outputs.made then Feed.ofBytes [] else input.feed
  let sampling ← Run.locating job.settings.checkedSampling
  let array ← Run.locating job.settings.checkedArray
  let pairs ← Run.locating job.settings.checkedPairs
  let monitor ← Run.locating
    (Monitor.ofSettings (.capture feed) sampling array pairs job.settings.smoothing)
  outputs.watch job.print monitor

def Command.run (s : Surroundings) : Command → Run Unit
  | batch job => runBatch s job
  | stream job => runStream s job
  | timing settings => runTiming settings

end

def Output.console : Output → Console
  | .log ⟨.error, _⟩ => .error
  | .bytes stream _ => stream
  | _ => .output

def Output.contents (v : Verbosity) : Output → Bytes
  | .line text => (text ++ "\n").toUTF8.toList
  | .report printed => printed.text.toUTF8.toList
  | .log entry =>
    if v.shows entry.level then s!"[{entry.level.text}] {entry.message}\n".toUTF8.toList else []
  | .bytes _ written => written

structure Response where
  out : Bytes := []
  err : Bytes := []
  files : List (Place × FileContent) := []
  exit : Nat := 0
  deriving DecidableEq, Repr

namespace Response

def ofOutcome (v : Verbosity) (outcome : RunOutcome) : Response :=
  let seen (stream : Console) : Bytes :=
    (outcome.shown.filter fun output => output.console = stream).flatMap (Output.contents v)
  { out := seen .output
    err := seen .error
    files := outcome.files
    exit := if outcome.failed then 1 else 0 }

def ofFault : UsageFault → Response
  | .asked inquiry vocabulary => { out := (vocabulary.answer inquiry).toUTF8.toList }
  | fault => { err := (plainText fault.styledText).toUTF8.toList, exit := 2 }

end Response

def respond [Trigonometry] (s : Surroundings) (words : List String) : Response :=
  match Invocation.ofWords words with
  | .error fault => .ofFault fault
  | .ok invocation => .ofOutcome invocation.verbosity (invocation.command.run s).outcome

end DirectionFinding
