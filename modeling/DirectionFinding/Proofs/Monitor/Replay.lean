import DirectionFinding.Proofs.Capture.Recording
import DirectionFinding.Proofs.Monitor.Subscription

/-!
Replaying a capture into a recording. The loop records a burst before it does anything else with it,
so whatever becomes of the bursts and of a receiver of reports, the bursts recorded are those taken;
and encoding what was read gives the bytes again that it was read from. A replay that is not stopped
before its source ends therefore copies the longest beginning of the capture that is made of whole
records.
-/
namespace DirectionFinding

def WatchEvent.recordings (events : List WatchEvent) : List (RawBurst Phasor) :=
  events.filterMap fun
    | .recorded burst => some burst
    | _ => none

private theorem WatchEvent.recordings_append (before after : List WatchEvent) :
    recordings (before ++ after) = recordings before ++ recordings after :=
  List.filterMap_append ..

namespace WatchTask

open WatchEvent (recordings recordings_append)

private theorem recordings_deliver (receiver : Option Patience) (report : Report) :
    recordings (deliver receiver report).1 = [] := by
  cases receiver with
  | none => rfl
  | some patience =>
    simp only [deliver]
    cases patience.spend <;> rfl

variable [Trigonometry] (task : WatchTask)

theorem recordings_examine (recording : task.record = true) (forwarding : Bool)
    (track : Track Phasor) (raw : RawBurst Phasor) :
    recordings (task.examine forwarding track raw).1 = [raw] := by
  simp only [examine, recording, if_true]
  split
  · rfl
  · rcases task.locator.locate raw track with ⟨_ | report, next⟩
    · rfl
    · cases task.print <;> rfl

private theorem recordings_events (recording : task.record = true) (running : Patience)
    (receiver : Option Patience) (track : Track Phasor) (bursts : List (RawBurst Phasor)) :
    recordings (task.events running receiver track bursts) = running.limit bursts := by
  induction bursts generalizing running receiver track with
  | nil => exact (Patience.limit_nil running).symm
  | cons raw rest ih =>
    rw [Patience.limit_cons]
    cases lasting : running.spend with
    | none =>
      simp only [events, lasting]
      rfl
    | some left =>
      rw [events_cons task lasting, recordings_append, recordings_examine task recording]
      rcases task.examine receiver.isSome track raw with ⟨before, _ | report, next⟩
      · exact congrArg (raw :: ·) (ih left receiver next)
      · simp only [recordings_append, recordings_deliver, List.nil_append]
        exact congrArg (raw :: ·) (ih left _ next)

end WatchTask

namespace WatchState

open WatchEvent (recordings recordings_append)

structure Records (s : WatchState) (bursts : List (RawBurst Phasor)) : Prop where
  recorded : recordings s.events = s.taken
  taken : s.taken ++ s.source.pending = bursts

private theorem records_start (source : BurstSource) (track : Track Phasor) (known : Bool) :
    { start source track with forwarding := known }.Records source.bursts.1 :=
  ⟨rfl, LiveSource.pending_ofSource source⟩

theorem Records.recordings_eq {s : WatchState} {bursts : List (RawBurst Phasor)}
    (records : s.Records bursts) (undisturbed : s.Undisturbed) (ended : s.stage = .ended) :
    recordings s.events = bursts := by
  rw [records.recorded, ← records.taken, undisturbed.whole ended, List.append_nil]

variable [Trigonometry] {s t : WatchState} {w : WatchSetup} {action : WatchAction}
  {actions : List WatchAction} {bursts : List (RawBurst Phasor)}

theorem Records.step (records : s.Records bursts) (recording : w.task.record = true)
    (step : WatchStep w s action t) : t.Records bursts := by
  obtain ⟨recorded, taken⟩ := records
  have unrecorded (event : WatchEvent) (other : recordings [event] = []) :
      recordings (s.events ++ [event]) = s.taken := by
    rw [recordings_append, other, List.append_nil, recorded]
  cases step with
  | offer sent =>
    refine ⟨recorded, ?_⟩
    rw [LiveSource.pending_offered, ← sent]
    exact taken
  | close sent =>
    refine ⟨recorded, ?_⟩
    rw [LiveSource.pending_closed, ← sent]
    exact taken
  | stop | proceed | halt | idle | finish | receive | leave => exact ⟨recorded, taken⟩
  | @take burst source _ yields =>
    refine ⟨?_, ?_⟩
    · simp only [WatchState.examined, recordings_append, recorded,
        WatchTask.recordings_examine w.task recording]
    · rw [← taken, yields.pending_eq]
      exact List.append_assoc s.taken [burst] source.pending
  | send | pass => exact ⟨unrecorded _ rfl, taken⟩
  | forget => exact ⟨unrecorded _ rfl, taken⟩

theorem Records.run (records : s.Records bursts) (recording : w.task.record = true)
    (run : WatchRun w s actions t) : t.Records bursts := by
  induction run with
  | nil => exact records
  | cons step _ ih => exact ih (records.step recording step)

end WatchState

/-- The calls for a replay into a new file, with sinks for reports before and after it. -/
def MonitorCall.replay (before behind : List ReportSink) (print : Bool) : List MonitorCall :=
  before.map subscribeReports ++ createRecording .file :: subscribeRecording ::
    (behind.map subscribeReports ++ [start print])

namespace Monitor

open WatchEvent (recordings)

theorem outputsOf_recorder (recorder : RecordWriter) (events : List WatchEvent) :
    (outputsOf recorder events).2 = (recorder.writeAll (recordings events)).2 := by
  induction events generalizing recorder with
  | nil => rfl
  | cons event events ih =>
    cases event with
    | recorded burst => exact ih (recorder.write burst).2
    | dropped | located | printed | delivered | receiverLost => exact ih recorder

private theorem settle_recorder {m : Monitor} {recorder : RecordWriter} {bytes : Bytes}
    (created : m.recorder = some recorder) (keeps : recorder.Keeps bytes) :
    ∃ settled, m.settle.recorder = some settled ∧ settled.Keeps bytes ∧ settled.held = bytes := by
  obtain ⟨settled, flushed, still, held⟩ := keeps.flush
  refine ⟨settled, ?_, still, held⟩
  simp only [settle, created, flushed]
  rfl

private theorem stop_recording {m : Monitor} {recorder : RecordWriter} {bytes : Bytes}
    (created : m.recorder = some recorder) (keeps : recorder.Keeps bytes)
    (given : m.reportSink = none) : m.stop.recording = some bytes := by
  obtain ⟨settled, passed, still, -⟩ :
      ∃ settled, (m.display [.info "Stopping scouting; Resetting sinks as well."]).settle.recorder =
        some settled ∧ settled.Keeps bytes ∧ settled.held = bytes := settle_recorder created keeps
  have stopped : m.stop.recorder = some settled := by
    simp only [stop, given]
    exact passed
  obtain ⟨final, kept, -, held⟩ := settle_recorder stopped still
  rw [recording, kept, Option.map_some, held]

private theorem subscribeRaw_frame {m : Monitor} (free : m.rawSink = false)
    (fresh : m.recorder = none) (destination : Destination) :
    (m.subscribeRaw destination).2 =
      { m with rawSink := true, recorder := some (RecordWriter.ofDestination destination) } := by
  simp only [subscribeRaw, createRecording, subscribeRecording, fresh, free, Bool.false_eq_true,
    if_false]
  rfl

private theorem subscribeReports_frame [Trigonometry] (m : Monitor) (sinks : List ReportSink) :
    let later := m.after (sinks.map .subscribeReports)
    later.source = m.source ∧ later.mode = m.mode ∧ later.rawSink = m.rawSink ∧
      later.recorder = m.recorder := by
  induction sinks generalizing m with
  | nil => exact ⟨rfl, rfl, rfl, rfl⟩
  | cons sink sinks ih =>
    obtain ⟨source, mode, raw, recorder⟩ := ih (m.subscribeReports sink).2
    obtain ⟨shown, received, file, opened⟩ := openSink_frame m sink
    have first : (m.subscribeReports sink).2.source = m.source ∧
        (m.subscribeReports sink).2.mode = m.mode ∧
        (m.subscribeReports sink).2.rawSink = m.rawSink ∧
        (m.subscribeReports sink).2.recorder = m.recorder := by
      simp only [subscribeReports, opened]
      split <;> exact ⟨rfl, rfl, rfl, rfl⟩
    exact ⟨source.trans first.1, mode.trans first.2.1, raw.trans first.2.2.1,
      recorder.trans first.2.2.2⟩

section
variable [Trigonometry] {m : Monitor}

theorem start_recorder {source : BurstSource} {track : Track Phasor} {recorder : RecordWriter}
    (given : m.source = some source)
    (made : (Track.ofMode m.mode : Located (Track Phasor)) = .ok track)
    (recording : m.rawSink = true) (created : m.recorder = some recorder) (print : Bool) :
    (m.start print).2.reportSink = none ∧
      (m.start print).2.recorder = some (recorder.writeAll source.bursts.1).2 := by
  have recorded := WatchTask.recordings_events ⟨m.locator, true, print⟩ rfl none
    (m.reportSink.map ReportSink.receiver) track source.bursts.1
  have written := outputsOf_recorder recorder (WatchTask.events ⟨m.locator, true, print⟩ none
    (m.reportSink.map ReportSink.receiver) track source.bursts.1)
  rw [recorded] at written
  cases subscribed : m.reportSink with
  | none =>
    rw [subscribed] at written
    simp only [start, given, made, recording, created, subscribed, Option.getD_some, if_true]
    exact ⟨trivial, congrArg some written⟩
  | some sink =>
    rw [subscribed] at written
    simp only [start, given, made, recording, created, subscribed, Option.getD_some, if_true]
    obtain ⟨shown, received, file, closed⟩ := closeSink_frame _ sink _
    rw [closed]
    exact ⟨rfl, congrArg some written⟩

theorem replay_recording {source : BurstSource} {track : Track Phasor}
    (given : m.source = some source)
    (made : (Track.ofMode m.mode : Located (Track Phasor)) = .ok track) (free : m.rawSink = false)
    (fresh : m.recorder = none) (before behind : List ReportSink) (print : Bool) :
    (m.after (MonitorCall.replay before behind print)).stop.recording =
      some (source.bursts.1.flatMap Record.encode) := by
  obtain ⟨source, smoothing, raw, recorder⟩ := subscribeReports_frame m before
  let recording := ((m.after (before.map MonitorCall.subscribeReports)).subscribeRaw .file).2
  have subscribed : recording = { m.after (before.map MonitorCall.subscribeReports) with
      rawSink := true
      recorder := some (RecordWriter.ofDestination .file) } :=
    subscribeRaw_frame (raw.trans free) (recorder.trans fresh) .file
  obtain ⟨source', smoothing', raw', recorder'⟩ := subscribeReports_frame recording behind
  rw [subscribed] at source' smoothing' raw' recorder'
  obtain ⟨handed, written⟩ := start_recorder ((source'.trans source).trans given)
    ((smoothing'.trans smoothing) ▸ made) raw' recorder' print
  rw [MonitorCall.replay, after_append, after_cons, after_cons, after_append]
  change ((recording.after (behind.map .subscribeReports)).start print).2.stop.recording = _
  rw [subscribed]
  exact stop_recording written (RecordWriter.keeps_file.writeAll _) handed

/-- A replay of a capture, whatever bytes it holds and however they are delivered, records the
longest beginning of it that is made of whole records, if it is not stopped before the capture ends.
It does so in any order of steps and with whatever receiver of reports, if there is one at all; and
so does a monitor that is stopped when it is done. -/
theorem recording_longest {f : Feed} {bytes : Bytes} {ending : FeedEnd}
    (delivers : f.Delivers bytes ending) {sampling : SamplingSettings} {array : AntennaArray}
    {pairs : AnglePairs} {mode : Smoothing}
    (accepted : ofSettings (.capture f) sampling array pairs mode = .ok m) :
    ∃ track, (Track.ofMode mode : Located (Track Phasor)) = .ok track ∧
    ∃ kept, Record.IsLongestCapture kept bytes ∧
      (∀ (print forwarding : Bool) (intake outlet : Option Nat) actions s,
        WatchRun ⟨⟨m.locator, true, print⟩, intake, outlet⟩
          { WatchState.start (.capture f) track with forwarding := forwarding } actions s →
        .finish ∈ actions ∨ .stop ∉ actions → s.stage = .ended →
        ∀ recorder : RecordWriter, recorder.Fresh →
          (∀ answer ∈ (recorder.writeAll (recordings s.events)).1, answer = .ok ()) →
          ∀ settled, (outputsOf recorder s.events).2.flush = (.ok (), settled) →
          settled.held = kept) ∧
      ∀ (before behind : List ReportSink) (print : Bool),
        (m.after (MonitorCall.replay before behind print)).stop.recording = some kept := by
  obtain ⟨track, made⟩ := ofSettings_track accepted
  obtain ⟨locator, rfl⟩ := ofSettings_new accepted
  obtain ⟨failure, failed⟩ := Record.extract_rest bytes
  have bursts : (BurstSource.capture f).bursts.1 = (Record.extractAll bytes).1 :=
    congrArg Prod.fst (delivers.records failed)
  refine ⟨track, made, _, Record.isLongestCapture_extractAll bytes, ?_, ?_⟩
  · intro print forwarding intake outlet actions s run unstopped ended recorder fresh all settled
      flushed
    have records := (WatchState.records_start (.capture f) track forwarding).run rfl run
    have quiet : WatchState.Undisturbed
        { WatchState.start (.capture f) track with forwarding := forwarding } :=
      ⟨.inr rfl, (WatchState.undisturbed_start (.capture f) track).whole⟩
    have undisturbed := quiet.run run unstopped
    have recorded := records.recordings_eq undisturbed ended
    rw [bursts] at recorded
    rw [recorded] at all
    rw [outputsOf_recorder, recorded] at flushed
    obtain ⟨atEnd, written⟩ := fresh.accepted _ all
    exact (RecordWriter.flush_ok atEnd flushed).trans written
  · intro before behind print
    rw [← bursts]
    exact replay_recording rfl made rfl rfl before behind print

end

/-- Three records before a byte of another one. The second has too few samples to be located, and
the receiver leaves behind the first report. -/
theorem recording_longest_broken :
    let _ : Trigonometry :=
      ⟨fun _ => 0, fun _ => 1, fun _ => Float32.ofBits 0x3fc90fdb, fun _ _ => 0, fun _ _ => 1⟩
    let whole : Bytes := [10, 0, 0, 0, 136, 9, 0, 0] ++ (List.replicate 10 [1, 0, 0, 0]).flatten
    let short : Bytes := [2, 0, 0, 0, 98, 9, 0, 0, 1, 0, 0, 0, 1, 0, 0, 0]
    let f := Feed.ofBytes (whole ++ (short ++ (whole ++ [1])))
    let l : Locator :=
      ⟨{ cteUnits := 2 }, {}, ⟨.regular, 4000, 2000, 2000, 1000, 8, 2, 1, 1, 2000⟩, {}⟩
    let m : Monitor := { locator := l, mode := .none, source := some (.capture f) }
    let events :=
      WatchTask.events ⟨l, true, true⟩ none (some (some 1)) ⟨.none, .none, .none, 0⟩ f.records.1
    f.Delivers (whole ++ (short ++ (whole ++ [1]))) .endOfInput ∧
      ofSettings (.capture f) { cteUnits := 2 } {} {} .none = .ok m ∧
      WatchEvent.locatedCount events = 2 ∧ WatchEvent.droppedCount events = 1 ∧
      (WatchEvent.deliveries events).length = 1 ∧ .receiverLost ∈ events ∧
      (m.after (MonitorCall.replay [.queue (some 1)] [] true)).stop.recording =
        some (whole ++ (short ++ whole)) := by
  intro level whole short f l m events
  have delivers := Feed.delivers_ofBytes (whole ++ (short ++ (whole ++ [1])))
  have accepted : ofSettings (.capture f) { cteUnits := 2 } {} {} .none = .ok m := rfl
  obtain ⟨-, -, kept, longest, -, replayed⟩ := recording_longest delivers accepted
  let sampled : RawBurst Phasor := .ofSamples 2440 (List.replicate 10 (.ofParts 1 0))
  let brief : RawBurst Phasor := .ofSamples 2402 (List.replicate 2 (.ofParts 1 0))
  have first (rest : Bytes) : Record.extractAll (whole ++ rest) =
      (sampled :: (Record.extractAll rest).1, (Record.extractAll rest).2) := by
    have found : Record.extract (whole ++ rest) = .ok (sampled, 48) := rfl
    rw [Record.extractAll_ok found]
    rfl
  have second (rest : Bytes) : Record.extractAll (short ++ rest) =
      (brief :: (Record.extractAll rest).1, (Record.extractAll rest).2) := by
    have found : Record.extract (short ++ rest) = .ok (brief, 16) := rfl
    rw [Record.extractAll_ok found]
    rfl
  have broken : Record.extract [1] = .error (.truncated 8 1) := rfl
  have extracted : Record.extractAll (whole ++ (short ++ (whole ++ [1]))) =
      ([sampled, brief, sampled], [1]) := by
    rw [first, second, first, Record.extractAll_error broken]
  have records : f.records.1 = [sampled, brief, sampled] := by
    rw [delivers.records (by rw [extracted]; exact broken), extracted]
  have ran : events = WatchTask.events ⟨l, true, true⟩ none (some (some 1))
      ⟨.none, .none, .none, 0⟩ [sampled, brief, sampled] := congrArg _ records
  rw [ran]
  refine ⟨delivers, accepted, by decide +kernel, by decide +kernel, by decide +kernel,
    by decide +kernel, (replayed _ _ true).trans (congrArg some ?_)⟩
  rw [longest.unique (Record.isLongestCapture_extractAll _), extracted]
  decide +kernel

end Monitor

end DirectionFinding
