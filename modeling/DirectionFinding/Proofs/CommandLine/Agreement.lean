import DirectionFinding.Proofs.CommandLine.Run
import DirectionFinding.Proofs.Monitor.Replay
import DirectionFinding.Proofs.Report.Decoding
import DirectionFinding.Proofs.Report.Timeline

/-!
Locating a capture at once and as a stream. One run collects all reports and writes them in one
batch, the other hands them through a queue to a writer that batches them; what they leave in the
report file is the same.
-/
namespace DirectionFinding

open WatchEvent (deliveries)

private theorem records_of_readCapture {f : Feed} {bursts : List (RawBurst Phasor)}
    (read : f.readCapture = .ok bursts) :
    (BurstSource.capture f).bursts.1 = bursts := by
  rw [Feed.readCapture] at read
  split at read
  · rename_i records
    cases read
    exact congrArg Prod.fst records
  · cases read

private theorem mem_reportsIn {answers : List (Located Report)} {report : Report} :
    report ∈ reportsIn answers ↔ .ok report ∈ answers := by
  simp only [reportsIn, List.mem_filterMap]
  constructor
  · rintro ⟨answer, member, same⟩
    cases answer with
    | error cause => cases same
    | ok other =>
      cases same
      exact member
  · intro member
    exact ⟨_, member, rfl⟩

namespace Monitor

theorem stop_file {m : Monitor} (handed : m.reportSink = none) : m.stop.file = m.file := by
  simp only [stop, handed, settle]
  split
  · rfl
  · split <;> rfl

theorem start_file [Trigonometry] {m : Monitor} {source : BurstSource} {track : Track Phasor}
    {form : ReportForm} (given : m.source = some source)
    (made : (Track.ofMode m.mode : Located (Track Phasor)) = .ok track)
    (sink : m.reportSink = some (.file form (.ok .file)))
    (timely : ∀ r ∈ reportsIn (m.locator.locateAll track source.bursts.1).1,
      r.requireClock = .ok ()) (print : Bool) :
    (m.start print).1 = .ok () ∧ (m.start print).2.reportSink = none ∧
      ∃ file, (m.start print).2.file = some file ∧
        file.Contains form (reportsIn (m.locator.locateAll track source.bursts.1).1) := by
  obtain ⟨file, streamed, holds⟩ := ReportFile.ofStream_holds form timely
  obtain ⟨done, finished, -, contains⟩ := holds.finish
  have patient : ReportSink.receiver (.file form (.ok .file)) = none := by cases form <;> rfl
  have delivered := WatchTask.deliveries_events ⟨m.locator, m.rawSink, print⟩ none none track
    source.bursts.1
  simp only [Patience.limit] at delivered
  simp only [start, given, made, sink, Option.map_some, patient, delivered, closeSink, streamed,
    finished]
  exact ⟨trivial, rfl, done, rfl, contains⟩

end Monitor

namespace StreamOutputs

variable {o : StreamOutputs} {form : ReportForm} {place : Place}

private theorem subscribe_ready (reports : o.reports = some (form, .ok ⟨place, .file⟩))
    (raw : Option OpenedOutput) (locator : Locator) (mode : Smoothing) (source : BurstSource) :
    let ready := o.subscribe raw { locator := locator, mode := mode, source := some source }
    ready.locator = locator ∧ ready.mode = mode ∧ ready.source = some source ∧
      ready.reportSink = some (.file form (.ok .file)) := by
  simp only [subscribe, reports]
  cases raw <;> exact ⟨rfl, rfl, rfl, rfl⟩

theorem stop_file {raw : Option OpenedOutput} {m : Monitor}
    (reports : o.openedReports = some ⟨place, .file⟩)
    (apart : raw.map OpenedOutput.place ≠ some place) (handed : m.reportSink = none) :
    (o.stop raw m).file = m.file := by
  have same : o.stop raw m = (m.display [.line "Shutting down gracefully..."]).stop := by
    cases raw with
    | none => rfl
    | some recording =>
      have elsewhere : recording.place ≠ place := fun same => apart (congrArg some same)
      simp only [stop, reports]
      cases m.file with
      | none => rfl
      | some file => simp only [elsewhere, and_false, if_false]
  rw [same]
  exact Monitor.stop_file handed

/-- The report file is left last, behind a recording that may lie elsewhere. -/
theorem leave_leaves {raw : Option OpenedOutput} {m : Monitor} {file : ReportFile}
    (reports : o.openedReports = some ⟨place, .file⟩)
    (apart : raw.map OpenedOutput.place ≠ some place) (held : m.file = some file) :
    ∃ others, (o.leave raw m).Leaves (.ok ()) (others ++ [(place, .reports file)]) ∧
      ∀ entry ∈ others, entry.1 ≠ place := by
  have last : (if raw.map OpenedOutput.place ≠ some place then
      Run.leave ⟨place, .file⟩ (.reports file) else pure ()).Leaves (.ok ())
      [(place, .reports file)] := by
    rw [if_pos apart]
    exact Run.leaves_leave rfl _
  simp only [leave, reports, held]
  cases raw with
  | none => exact ⟨[], last, by simp⟩
  | some recording =>
    have elsewhere : recording.place ≠ place := fun same => apart (congrArg some same)
    cases m.recording with
    | none => exact ⟨[], last, by simp⟩
    | some bytes =>
      by_cases kept : recording.destination = .file
      · refine ⟨[(recording.place, .recording bytes)], ?_, by simpa using elsewhere⟩
        exact (Run.leaves_leave kept _).bind last
      · refine ⟨[], ?_, by simp⟩
        have nothing : (Run.leave recording (.recording bytes)).Leaves (.ok ()) [] := by
          rw [Run.leave, if_neg kept]
          exact Run.leaves_pure ()
        exact nothing.bind last

variable [Trigonometry]

private theorem watch_leaves {raw : Option OpenedOutput} (opened : o.raw = raw.map .ok)
    (reports : o.reports = some (form, .ok ⟨place, .file⟩))
    (apart : raw.map OpenedOutput.place ≠ some place) {locator : Locator} {mode : Smoothing}
    {track : Track Phasor} {source : BurstSource}
    (made : (Track.ofMode mode : Located (Track Phasor)) = .ok track)
    (timely : ∀ r ∈ reportsIn (locator.locateAll track source.bursts.1).1, r.requireClock = .ok ())
    (print : Bool) :
    ∃ file others, (o.watch print
        { locator := locator, mode := mode, source := some source }).Leaves (.ok ())
          (others ++ [(place, .reports file)]) ∧
      (∀ entry ∈ others, entry.1 ≠ place) ∧
      file.Contains form (reportsIn (locator.locateAll track source.bursts.1).1) := by
  let ready := o.subscribe raw { locator := locator, mode := mode, source := some source }
  obtain ⟨sameLocator, sameMode, given, sink⟩ := subscribe_ready reports raw locator mode source
  obtain ⟨started, handed, file, held, contains⟩ := Monitor.start_file given
    (sameMode.symm ▸ made) sink (sameLocator.symm ▸ timely) print
  have openedReports : o.openedReports = some ⟨place, .file⟩ := by
    rw [StreamOutputs.openedReports, reports]
    rfl
  have stopped := (stop_file openedReports apart handed).trans held
  obtain ⟨others, left, elsewhere⟩ := leave_leaves openedReports apart stopped
  refine ⟨file, others, ?_, elsewhere, sameLocator ▸ contains⟩
  have created : (o.raw.mapM fun opened => Run.locating (opened.mapError .io)).Leaves
      (.ok raw) [] := by
    rw [opened]
    cases raw with
    | none => exact Run.leaves_pure none
    | some recording => exact (Run.leaves_located recording).bind (Run.leaves_pure _)
  refine created.bind ?_
  change (do
    Run.locating (ready.start print).1
    Run.display (o.stop raw (ready.start print).2).shown
    o.leave raw (o.stop raw (ready.start print).2)).Leaves _ _
  rw [started]
  exact (Run.leaves_located ()).bind ((Run.leaves_display _).bind left)

end StreamOutputs

section
variable {s : Surroundings} {target : ReportTarget} {place : Place} {reports : List Report}

private theorem writeReports_leaves (created : s.output [] target.path = .ok ⟨place, .file⟩)
    (timely : ∀ r ∈ reports, r.requireClock = .ok ()) :
    ∃ file, (writeReports s target reports).Leaves (.ok ()) [(place, .reports file)] ∧
      file.Contains target.form reports := by
  obtain ⟨file, added, holds⟩ := (ReportFile.holds_new target.form).add timely
  obtain ⟨done, finished, -, contains⟩ := holds.finish
  refine ⟨done, ?_, contains⟩
  simp only [writeReports, created]
  refine (Run.leaves_reported _).bind ?_
  dsimp only
  rw [added]
  refine (Run.leaves_reported _).bind ?_
  rw [finished]
  refine (Run.leaves_reported _).bind ?_
  exact (Run.leaves_leave rfl _).bind (Run.leaves_display _)

variable [Trigonometry] {job : BatchJob} {input : OpenedInput} {bursts : List (RawBurst Phasor)}
  {locator : Locator} {track : Track Phasor}

private theorem RunSettings.prepare_timely {settings : RunSettings}
    (prepared : settings.prepare = .ok (locator, track)) (bursts : List (RawBurst Phasor)) :
    ∀ r ∈ reportsIn (locator.locateAll track bursts).1, r.requireClock = .ok () := by
  obtain ⟨⟨sampling, array, pairs, accepted⟩, -⟩ := RunSettings.prepare_ok prepared
  exact fun r member => Locator.locateAll_requireClock accepted track bursts (mem_reportsIn.mp member)

private theorem locateBatch_leaves (wanted : job.out = some target)
    (created : s.output [] target.path = .ok ⟨place, .file⟩)
    (timely : ∀ r ∈ reportsIn (locator.locateAll track bursts).1, r.requireClock = .ok ()) :
    ∃ file, (locateBatch s job bursts locator track).Leaves (.ok ()) [(place, .reports file)] ∧
      file.Contains target.form (reportsIn (locator.locateAll track bursts).1) := by
  obtain ⟨file, leaves, contains⟩ := writeReports_leaves created timely
  refine ⟨file, ?_, contains⟩
  simp only [locateBatch, wanted]
  split
  · refine (Run.leaves_display _).bind ?_
    exact (Run.leaves_display _).bind ((Run.leaves_display _).bind leaves)
  · exact (Run.leaves_display _).bind ((Run.leaves_display _).bind leaves)

theorem runBatch_left (job : BatchJob) (opened : s.input job.input = .ok input)
    (read : input.feed.readCapture = .ok bursts) (wanted : job.out = some target)
    (created : s.output [] target.path = .ok ⟨place, .file⟩) :
    match job.settings.prepare with
    | .error _ => (runBatch s job).outcome.left place = []
    | .ok (locator, track) =>
      ∃ file, (runBatch s job).outcome.left place = [.reports file] ∧
        file.Contains target.form (reportsIn (locator.locateAll track bursts).1) := by
  cases prepared : job.settings.prepare with
  | error cause =>
    have refused : (runBatch s job).Leaves (.error (.locating cause)) [] := by
      rw [runBatch_eq, opened]
      refine (Run.leaves_located _).bind ?_
      rw [read]
      refine (Run.leaves_located _).bind ((Run.leaves_display _).bind ?_)
      rw [prepared]
      exact (Run.leaves_refused _).fails
    exact refused.left place
  | ok pair =>
    obtain ⟨locator, track⟩ := pair
    obtain ⟨file, leaves, contains⟩ :=
      locateBatch_leaves wanted created (RunSettings.prepare_timely prepared bursts)
    have ran : (runBatch s job).Leaves (.ok ()) [(place, .reports file)] := by
      rw [runBatch_eq, opened]
      refine (Run.leaves_located _).bind ?_
      rw [read]
      refine (Run.leaves_located _).bind ((Run.leaves_display _).bind ?_)
      rw [prepared]
      exact (Run.leaves_located _).bind leaves
    refine ⟨file, ?_, contains⟩
    rw [ran.left place]
    simp

/-- Outputs of a stream that all open, the reports in a file of their own. -/
structure StreamOutputs.Separate (o : StreamOutputs) (form : ReportForm) (place : Place) : Prop where
  reports : o.reports = some (form, .ok ⟨place, .file⟩)
  raw : ∃ opened : Option OpenedOutput, o.raw = opened.map .ok ∧
    opened.map OpenedOutput.place ≠ some place

theorem runStream_left (job : StreamJob) (opened : s.input job.input = .ok input)
    (separate : (job.outputs s).Separate target.form place) :
    let feed := if input.place ∈ (job.outputs s).made then Feed.ofBytes [] else input.feed
    match job.settings.prepare with
    | .error _ => (runStream s job).outcome.left place = []
    | .ok (locator, track) =>
      ∃ file, (runStream s job).outcome.left place = [.reports file] ∧
        file.Contains target.form
          (reportsIn (locator.locateAll track (BurstSource.capture feed).bursts.1).1) := by
  intro feed
  cases prepared : job.settings.prepare with
  | error cause =>
    have refused : (runStream s job).Leaves (.error (.locating cause)) [] := by
      rw [runStream_eq, opened]
      refine (Run.leaves_display _).bind ((Run.leaves_located _).bind ?_)
      rw [prepared]
      exact (Run.leaves_refused _).fails
    exact refused.left place
  | ok pair =>
    obtain ⟨locator, track⟩ := pair
    obtain ⟨-, made⟩ := RunSettings.prepare_ok prepared
    obtain ⟨raw, openedRaw, apart⟩ := separate.raw
    obtain ⟨file, others, leaves, elsewhere, contains⟩ :=
      StreamOutputs.watch_leaves openedRaw separate.reports apart made
        (RunSettings.prepare_timely prepared (BurstSource.capture feed).bursts.1) job.print
    have ran : (runStream s job).Leaves (.ok ()) (others ++ [(place, .reports file)]) := by
      rw [runStream_eq, opened]
      refine (Run.leaves_display _).bind ((Run.leaves_located _).bind ?_)
      rw [prepared]
      exact (Run.leaves_located _).bind leaves
    refine ⟨file, ?_, contains⟩
    rw [ran.left place, List.filter_append,
      List.filter_eq_nil_iff.mpr fun entry member => by simpa using elsewhere entry member]
    simp

/-- A capture that can be read, however many bursts it holds, leaves the same reports whether it is
located at once or as a stream, as long as the stream's outputs do not share a file with each other
or with the capture: those of all its bursts located in order, and no file if the settings are
refused. The writer of the stream holds them whatever the order of steps in which it and the loop
get to the end. -/
theorem batch_stream_agree {path : String} (opened : s.input path = .ok input)
    (read : input.feed.readCapture = .ok bursts) (settings : RunSettings) (rawOut : Option String)
    (printBatch stats printStream : Bool) :
    let batch : BatchJob := ⟨path, some target, printBatch, stats, settings⟩
    let stream : StreamJob := ⟨path, some target, rawOut, printStream, settings⟩
    s.output [] target.path = .ok ⟨place, .file⟩ →
    (stream.outputs s).Separate target.form place →
    input.place ∉ (stream.outputs s).made →
    match settings.prepare with
    | .error _ =>
      (runBatch s batch).outcome.left place = [] ∧ (runStream s stream).outcome.left place = []
    | .ok (locator, track) =>
      let reports := reportsIn (locator.locateAll track bursts).1
      (∃ file, (runBatch s batch).outcome.left place = [.reports file] ∧
        file.Contains target.form reports) ∧
      (∃ file, (runStream s stream).outcome.left place = [.reports file] ∧
        file.Contains target.form reports) ∧
      ∀ (record print : Bool) (intake outlet : Option Nat) actions t,
        WatchRun ⟨⟨locator, record, print⟩, intake, outlet⟩
          (.start (.capture input.feed) track) actions t →
        .leave ∉ actions → .finish ∈ actions ∨ .stop ∉ actions →
        t.stage = .ended → t.flying = [] →
        ∃ file done, ReportFile.ofStream target.form .file t.received = .ok file ∧
          file.finish = .ok done ∧ done.Contains target.form reports := by
  intro batch stream created separate apart
  have same := records_of_readCapture read
  have ofBatch := runBatch_left batch opened read rfl created
  have ofStream := runStream_left stream opened separate
  simp only [if_neg apart, same] at ofStream
  cases prepared : settings.prepare with
  | error cause =>
    rw [show batch.settings.prepare = .error cause from prepared] at ofBatch
    rw [show stream.settings.prepare = .error cause from prepared] at ofStream
    exact ⟨ofBatch, ofStream⟩
  | ok pair =>
    obtain ⟨locator, track⟩ := pair
    rw [show batch.settings.prepare = .ok (locator, track) from prepared] at ofBatch
    rw [show stream.settings.prepare = .ok (locator, track) from prepared] at ofStream
    refine ⟨ofBatch, ofStream, ?_⟩
    intro record print intake outlet actions t run staying unstopped ended landed
    have follows := (WatchState.follows_start _ _ _).run run
    have carries := (WatchState.carries_start _ _).run run
    have attended := WatchState.attended_run rfl run staying
    have undisturbed := (WatchState.undisturbed_start _ _).run run unstopped
    have received := undisturbed.received_flying follows carries attended ended
    rw [landed, List.append_nil, same] at received
    rw [received]
    obtain ⟨file, streamed, holds⟩ :=
      ReportFile.ofStream_holds target.form (RunSettings.prepare_timely prepared bursts)
    obtain ⟨done, finished, -, contains⟩ := holds.finish
    exact ⟨file, done, streamed, finished, contains⟩

end

private theorem readCapture_empty : (Feed.ofBytes []).readCapture = .ok [] := by
  rw [(Feed.delivers_ofBytes []).readCapture_iff, Record.extractAll_error Record.extract_nil]

private theorem readCapture_single {record : Bytes} {burst : RawBurst Phasor}
    (whole : Record.extract record = .ok (burst, record.length)) :
    (Feed.ofBytes record).readCapture = .ok [burst] := by
  rw [(Feed.delivers_ofBytes record).readCapture_iff, Record.extractAll_ok whole,
    List.drop_length, Record.extractAll_error Record.extract_nil]

/-- A capture of one burst in a directory without other files, from which the stream also makes a
recording. The reports go to a text, then to a table. -/
theorem batch_stream_agree_single :
    let _ : Trigonometry :=
      ⟨fun _ => 0, fun _ => 1, fun _ => Float32.ofBits 0x3fc90fdb, fun _ _ => 0, fun _ _ => 1⟩
    let record : Bytes := [10, 0, 0, 0, 136, 9, 0, 0] ++ (List.replicate 10 [1, 0, 0, 0]).flatten
    let s : Surroundings :=
      { input := fun name =>
          if name = "in.bin" then .ok ⟨[name], .ofBytes record⟩ else .error .notFound
        output := fun _ name => .ok ⟨[name], .file⟩ }
    let settings : RunSettings := { sampling := { cteUnits := 2 }, smoothing := .none }
    ∃ bursts locator track, (Feed.ofBytes record).readCapture = .ok bursts ∧
      settings.prepare = .ok (locator, track) ∧
      (reportsIn (locator.locateAll track bursts).1).map (·.fix.smoothed.azimuth) = [90] ∧
      ∀ target ∈ [ReportTarget.mk "out.txt" .text, ⟨"out.parquet", .table⟩],
        (∃ file, (runBatch s ⟨"in.bin", some target, true, true, settings⟩).outcome.left
            [target.path] = [.reports file] ∧
          file.Contains target.form (reportsIn (locator.locateAll track bursts).1)) ∧
        ∃ file, (runStream s ⟨"in.bin", some target, some "raw.bin", false,
            settings⟩).outcome.left [target.path] = [.reports file] ∧
          file.Contains target.form (reportsIn (locator.locateAll track bursts).1) := by
  intro level record s settings
  have read : (Feed.ofBytes record).readCapture =
      .ok [.ofSamples 2440 (List.replicate 10 (.ofParts 1 0))] := readCapture_single rfl
  have opened : s.input "in.bin" = .ok ⟨["in.bin"], .ofBytes record⟩ := rfl
  let l : Locator :=
    ⟨{ cteUnits := 2 }, {}, ⟨.regular, 4000, 2000, 2000, 1000, 8, 2, 1, 1, 2000⟩, {}⟩
  have prepared : settings.prepare = .ok (l, ⟨.none, .none, .none, 0⟩) := by
    subst settings
    rfl
  have created (target : ReportTarget) :
      s.output [] target.path = .ok ⟨[target.path], .file⟩ := rfl
  have agree (target : ReportTarget) (named : target.path ≠ "raw.bin" ∧ target.path ≠ "in.bin") :=
    batch_stream_agree opened read settings (some "raw.bin") true true false (created target)
      ⟨rfl, some ⟨["raw.bin"], .file⟩, rfl, by simpa [eq_comm] using named.1⟩
      (by
        change ["in.bin"] ∉ [["raw.bin"], [target.path]]
        simpa [eq_comm] using named.2)
  rw [prepared] at agree
  refine ⟨_, l, _, read, prepared, ?_, ?_⟩
  · subst level l
    rfl
  · intro target listed
    have named : target.path ≠ "raw.bin" ∧ target.path ≠ "in.bin" := by
      revert target
      decide
    exact ⟨(agree target named).1, (agree target named).2.1⟩

/-- The outputs must not take the place of the capture: a stream that records into the file it reads
empties it first and leaves an empty text, where the batch tells one report. -/
theorem batch_stream_differ_overwritten :
    let _ : Trigonometry :=
      ⟨fun _ => 0, fun _ => 1, fun _ => Float32.ofBits 0x3fc90fdb, fun _ _ => 0, fun _ _ => 1⟩
    let record : Bytes := [10, 0, 0, 0, 136, 9, 0, 0] ++ (List.replicate 10 [1, 0, 0, 0]).flatten
    let s : Surroundings :=
      { input := fun name =>
          if name = "in.bin" then .ok ⟨[name], .ofBytes record⟩ else .error .notFound
        output := fun _ name => .ok ⟨[name], .file⟩ }
    let settings : RunSettings := { sampling := { cteUnits := 2 }, smoothing := .none }
    let batch : BatchJob := ⟨"in.bin", some ⟨"out.txt", .text⟩, false, false, settings⟩
    let stream : StreamJob :=
      ⟨"in.bin", some ⟨"out.txt", .text⟩, some "in.bin", false, settings⟩
    (Feed.ofBytes record).readCapture = .ok [.ofSamples 2440 (List.replicate 10 (.ofParts 1 0))] ∧
      ((runStream s stream).outcome.left ["out.txt"]).map FileContent.bytes = [[]] ∧
      ((runBatch s batch).outcome.left ["out.txt"]).map FileContent.bytes ≠ [[]] := by
  intro level record s settings batch stream
  have read : (Feed.ofBytes record).readCapture =
      .ok [.ofSamples 2440 (List.replicate 10 (.ofParts 1 0))] := readCapture_single rfl
  have opened : s.input "in.bin" = .ok ⟨["in.bin"], .ofBytes record⟩ := rfl
  let l : Locator :=
    ⟨{ cteUnits := 2 }, {}, ⟨.regular, 4000, 2000, 2000, 1000, 8, 2, 1, 1, 2000⟩, {}⟩
  have prepared : settings.prepare = .ok (l, ⟨.none, .none, .none, 0⟩) := by
    subst settings
    rfl
  let target : ReportTarget := ⟨"out.txt", .text⟩
  refine ⟨read, ?_, ?_⟩
  · have separate : (stream.outputs s).Separate target.form [target.path] :=
      ⟨rfl, some ⟨["in.bin"], .file⟩, rfl, by decide⟩
    have left := runStream_left stream opened separate
    rw [show stream.settings.prepare = _ from prepared] at left
    obtain ⟨file, left, contains⟩ := left
    have emptied : ["in.bin"] ∈ (stream.outputs s).made := List.mem_cons_self
    rw [left, List.map_singleton, FileContent.bytes, (contains.text rfl).2, if_pos emptied,
      records_of_readCapture readCapture_empty]
    rfl
  · have created : s.output [] target.path = .ok ⟨[target.path], .file⟩ := rfl
    have left := runBatch_left batch opened read rfl created
    rw [show batch.settings.prepare = _ from prepared] at left
    obtain ⟨file, left, contains⟩ := left
    have one : (reportsIn (l.locateAll ⟨.none, .none, .none, 0⟩
        [.ofSamples 2440 (List.replicate 10 (.ofParts 1 0))]).1).length = 1 := by
      subst level l
      rfl
    rw [left, List.map_singleton, FileContent.bytes, (contains.text rfl).2]
    intro empty
    have none := Report.texts_eq_nil (List.cons.inj empty).1
    rw [none] at one
    cases one

end DirectionFinding
