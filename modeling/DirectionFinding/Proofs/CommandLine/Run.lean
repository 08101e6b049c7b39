import DirectionFinding.CommandLine.Run

/-!
Runs of commands, by what they answer and which files they leave. Both compose along the steps of a
run, and a step that fails ends it with the files left so far.
-/
namespace DirectionFinding

def RunOutcome.left (o : RunOutcome) (place : Place) : List FileContent :=
  (o.files.filter (·.1 = place)).map Prod.snd

namespace Run

/-- A run that answers the same in every state and leaves certain files behind; what it shows is
left open. -/
def Leaves {α : Type} (run : Run α) (answer : Except RunFailure α)
    (files : List (Place × FileContent)) : Prop :=
  ∀ before : RunOutcome, ∃ shown, (ExceptT.run run).run before =
    (answer, { before with shown := shown, files := before.files ++ files })

variable {α β : Type} {run : Run α} {answer : Except RunFailure α}
  {files more : List (Place × FileContent)}

theorem leaves_pure (a : α) : (pure a : Run α).Leaves (.ok a) [] := by
  intro before
  exact ⟨before.shown, by rw [List.append_nil]; rfl⟩

theorem leaves_located (a : α) : (locating (.ok a)).Leaves (.ok a) [] :=
  leaves_pure a

theorem leaves_refused (cause : LocateError) :
    (locating (.error cause) : Run α).Leaves (.error (.locating cause)) [] := by
  intro before
  exact ⟨before.shown, by rw [List.append_nil]; rfl⟩

theorem leaves_reported (a : α) : (reporting (.ok a)).Leaves (.ok a) [] :=
  leaves_pure a

theorem leaves_display (outputs : List Output) : (display outputs).Leaves (.ok ()) [] := by
  intro before
  refine ⟨before.shown ++ outputs, ?_⟩
  rw [List.append_nil]
  rfl

theorem leaves_leave {opened : OpenedOutput} (kept : opened.destination = .file)
    (content : FileContent) : (leave opened content).Leaves (.ok ()) [(opened.place, content)] := by
  intro before
  refine ⟨before.shown, ?_⟩
  rw [leave, if_pos kept]
  rfl

theorem Leaves.bind {next : α → Run β} {a : α} {result : Except RunFailure β}
    (first : run.Leaves (.ok a) files) (second : (next a).Leaves result more) :
    (run >>= next).Leaves result (files ++ more) := by
  intro before
  obtain ⟨shown, ran⟩ := first before
  obtain ⟨later, continued⟩ :=
    second { before with shown := shown, files := before.files ++ files }
  refine ⟨later, ?_⟩
  rw [ExceptT.run_bind, StateT.run_bind, ran]
  rw [← List.append_assoc]
  exact continued

theorem Leaves.fails {next : α → Run β} {failure : RunFailure}
    (first : run.Leaves (.error failure) files) : (run >>= next).Leaves (.error failure) files := by
  intro before
  obtain ⟨shown, ran⟩ := first before
  refine ⟨shown, ?_⟩
  rw [ExceptT.run_bind, StateT.run_bind, ran]
  rfl

theorem Leaves.left {run : Run Unit} {answer : Except RunFailure Unit}
    (leaves : run.Leaves answer files) (place : Place) :
    run.outcome.left place = (files.filter (·.1 = place)).map Prod.snd := by
  obtain ⟨shown, ran⟩ := leaves {}
  have same : run.outcome.files = files := by
    rw [outcome, show ExceptT.run run {} = _ from ran]
    cases answer <;> rfl
  rw [RunOutcome.left, same]

private theorem locating_bind (a : Located α) (rest : α → Located β) :
    locating (a >>= rest) = locating a >>= fun x => locating (rest x) := by
  cases a <;> rfl

end Run

def RunSettings.prepare (s : RunSettings) : Located (Locator × Track Phasor) := do
  let sampling ← s.checkedSampling
  let array ← s.checkedArray
  let pairs ← s.checkedPairs
  let locator ← Locator.ofSettings sampling array pairs
  let track ← Track.ofMode s.smoothing
  return (locator, track)

theorem RunSettings.prepare_ok {s : RunSettings} {locator : Locator} {track : Track Phasor}
    (prepared : s.prepare = .ok (locator, track)) :
    (∃ sampling array pairs, Locator.ofSettings sampling array pairs = .ok locator) ∧
      (Track.ofMode s.smoothing : Located (Track Phasor)) = .ok track := by
  obtain ⟨sampling, _, prepared⟩ := Located.bind_success _ _ _ prepared
  obtain ⟨array, _, prepared⟩ := Located.bind_success _ _ _ prepared
  obtain ⟨pairs, _, prepared⟩ := Located.bind_success _ _ _ prepared
  obtain ⟨found, accepted, prepared⟩ := Located.bind_success _ _ _ prepared
  obtain ⟨made, smoothing, prepared⟩ := Located.bind_success _ _ _ prepared
  cases prepared
  exact ⟨⟨sampling, array, pairs, accepted⟩, smoothing⟩

section
variable [Trigonometry]

theorem runBatch_eq (s : Surroundings) (job : BatchJob) :
    runBatch s job = (do
      let input ← Run.locating ((s.input job.input).mapError .io)
      let bursts ← Run.locating input.feed.readCapture
      Run.display [.info s!"Read {bursts.length} packets from {job.input}"]
      let (locator, track) ← Run.locating job.settings.prepare
      locateBatch s job bursts locator track) := by
  simp only [runBatch, RunSettings.prepare, Run.locating_bind, bind_assoc]
  rfl

theorem runStream_eq (s : Surroundings) (job : StreamJob) :
    runStream s job = (do
      Run.display [Monitor.openingLine job.input]
      let input ← Run.locating ((s.input job.input).mapError .io)
      let feed := if input.place ∈ (job.outputs s).made then Feed.ofBytes [] else input.feed
      let (locator, _) ← Run.locating job.settings.prepare
      (job.outputs s).watch job.print
        { locator := locator
          mode := job.settings.smoothing
          source := some (.capture feed) }) := by
  simp only [runStream, Monitor.ofSettings, RunSettings.prepare, Run.locating_bind, bind_assoc]
  rfl

end

end DirectionFinding
