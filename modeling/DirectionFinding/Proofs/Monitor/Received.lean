import DirectionFinding.Monitor.Monitor
import DirectionFinding.Proofs.Monitor.Progress
import DirectionFinding.Proofs.Monitor.Refinement

/-!
What a receiver gets from the watch loop. It is never anything but a beginning of the reports of
all bursts, and it is all of them if neither the receiver nor the loop is gone before the source
ends.
-/
namespace DirectionFinding

open WatchEvent (deliveries deliveries_append)

namespace WatchState

/-- What the loop has delivered is with the receiver or on its way to it, in this order. -/
structure Carries (s : WatchState) : Prop where
  known : s.attended = true → s.forwarding = true
  carried : s.attended = true → s.received ++ s.flying = deliveries s.events
  received : s.received <+: deliveries s.events

theorem carries_start (source : BurstSource) (track : Track Phasor) :
    (start source track).Carries :=
  ⟨fun _ => rfl, fun _ => rfl, List.prefix_rfl⟩

variable [Trigonometry] {s t : WatchState} {w : WatchSetup} {action : WatchAction}
  {actions : List WatchAction}

theorem Carries.step (carries : s.Carries) (step : WatchStep w s action t) : t.Carries := by
  have more (event : WatchEvent) : deliveries (s.events ++ [event]) =
      deliveries s.events ++ deliveries [event] := deliveries_append _ _
  cases step with
  | offer | close | stop | proceed | halt | idle | finish =>
    exact ⟨carries.known, carries.carried, carries.received⟩
  | take =>
    refine ⟨carries.known, fun attended => ?_, ?_⟩
    · rw [deliveries_examined]
      exact carries.carried attended
    · rw [deliveries_examined]
      exact carries.received
  | send _ attended =>
    refine ⟨carries.known, fun _ => ?_, ?_⟩
    · rw [more, ← carries.carried attended]
      exact (List.append_assoc ..).symm
    · rw [more]
      exact carries.received.trans (List.prefix_append _ _)
  | pass _ attended empty =>
    have carried := carries.carried attended
    rw [empty, List.append_nil] at carried
    refine ⟨carries.known, fun _ => ?_, ?_⟩
    · simp only [more, empty, List.append_nil, ← carried]
      rfl
    · rw [more, ← carried]
      exact List.prefix_rfl
  | forget _ gone =>
    refine ⟨fun attended => ?_, fun attended => ?_, ?_⟩
    · cases gone.symm.trans attended
    · cases gone.symm.trans attended
    · rw [more]
      exact carries.received.trans (List.prefix_append _ _)
  | receive attended first =>
    have carried := carries.carried attended
    rw [first] at carried
    refine ⟨carries.known, fun _ => ?_, ?_⟩
    · rw [← carried]
      exact List.append_assoc ..
    · exact ⟨_, (List.append_assoc ..).trans carried⟩
  | leave =>
    refine ⟨fun attended => ?_, fun attended => ?_, carries.received⟩
    · cases attended
    · cases attended

theorem Carries.run (carries : s.Carries) (run : WatchRun w s actions t) : t.Carries := by
  induction run with
  | nil => exact carries
  | cons step _ ih => exact ih (carries.step step)

theorem Undisturbed.received_flying {task : WatchTask} {track : Track Phasor}
    {bursts : List (RawBurst Phasor)} (undisturbed : s.Undisturbed)
    (follows : s.Follows task track bursts) (carries : s.Carries) (attended : s.attended = true)
    (ended : s.stage = .ended) :
    s.received ++ s.flying = reportsIn (task.locator.locateAll track bursts).1 := by
  rw [carries.carried attended]
  exact follows.deliveries_eq (carries.known attended) (by simp [ended]) (undisturbed.whole ended)

end WatchState

namespace Monitor

theorem ofSettings_track [Trigonometry] {source : BurstSource} {sampling : SamplingSettings}
    {array : AntennaArray} {pairs : AnglePairs} {mode : Smoothing} {m : Monitor}
    (accepted : ofSettings source sampling array pairs mode = .ok m) :
    ∃ track, (Track.ofMode mode : Located (Track Phasor)) = .ok track := by
  obtain ⟨_, _, checked⟩ := Located.bind_success _ _ _ accepted
  obtain ⟨track, made, _⟩ := Located.bind_success _ _ _ checked
  exact ⟨track, made⟩

/-- Whatever the order in which producer, owner, loop and receiver move, the receiver gets a
beginning of the reports of all bursts located in order with one fresh history. A run takes so many
actions besides polling and no more. As long as the receiver stays and the loop is not stopped
before its source ends, the reports are with the receiver or on their way to it once the loop is
over, and from anywhere on the way there the receiver can still get each of them. -/
theorem received_located [Trigonometry] {source : BurstSource} {sampling : SamplingSettings}
    {array : AntennaArray} {pairs : AnglePairs} {mode : Smoothing} {m : Monitor}
    (accepted : ofSettings source sampling array pairs mode = .ok m) (record print : Bool)
    (intake outlet : Option Nat) :
    ∃ track, (Track.ofMode mode : Located (Track Phasor)) = .ok track ∧
      let w : WatchSetup := ⟨⟨m.locator, record, print⟩, intake, outlet⟩
      let reports := reportsIn (m.locator.locateAll track source.bursts.1).1
      ∀ actions s, WatchRun w (.start source track) actions s →
        s.received <+: reports ∧
        actions.countP (·.advances) ≤ 4 * source.bursts.1.length + 2 ∧
        (.leave ∉ actions → .finish ∈ actions ∨ .stop ∉ actions →
          (s.stage = .ended → s.received ++ s.flying = reports) ∧
          ∃ more t, WatchRun w s more t ∧ .stop ∉ more ∧ .leave ∉ more ∧
            t.stage = .ended ∧ t.flying = [] ∧ t.received = reports) := by
  obtain ⟨track, made⟩ := ofSettings_track accepted
  refine ⟨track, made, ?_⟩
  intro w reports actions s run
  have follows := (WatchState.follows_start w.task source track).run run
  have carries := (WatchState.carries_start source track).run run
  refine ⟨carries.received.trans follows.deliveries_prefix, ?_, ?_⟩
  · have weight := WatchState.weight_run run
    have most := WatchState.weight_start source track
    omega
  · intro staying allowed
    have attended := WatchState.attended_run rfl run staying
    have undisturbed := (WatchState.undisturbed_start source track).run run allowed
    refine ⟨fun ended => undisturbed.received_flying follows carries attended ended, ?_⟩
    obtain ⟨more, t, later, unstopped, stayed, ended, landed⟩ := undisturbed.settle w attended
    have all := (undisturbed.run later (.inr unstopped)).received_flying (follows.run later)
      (carries.run later) (WatchState.attended_run attended later stayed) ended
    rw [landed, List.append_nil] at all
    exact ⟨more, t, later, unstopped, stayed, ended, landed, all⟩

/-- A burst from broadside before one without samples, each report handed straight from the loop to
the receiver. The functions are right for a wave that meets all antennas at once. -/
theorem received_located_broadside :
    let _ : Trigonometry :=
      ⟨fun _ => 0, fun _ => 1, fun _ => Float32.ofBits 0x3fc90fdb, fun _ _ => 0, fun _ _ => 1⟩
    let source : BurstSource :=
      .queue [.ofSamples 2440 (List.replicate 10 (.ofParts 1 0)), .ofSamples 2402 []]
    let l : Locator :=
      ⟨{ cteUnits := 2 }, {}, ⟨.regular, 4000, 2000, 2000, 1000, 8, 2, 1, 1, 2000⟩, {}⟩
    ofSettings source { cteUnits := 2 } {} {} .none =
      .ok { locator := l, mode := .none, source := some source } ∧
    ∃ track actions s,
      WatchRun ⟨⟨l, true, false⟩, some 1, some 0⟩ (.start source track) actions s ∧
      s.stage = .ended ∧ s.received.map (·.fix.smoothed.azimuth) = [90] := by
  intro level source l
  have accepted : ofSettings source { cteUnits := 2 } {} {} .none =
      .ok { locator := l, mode := .none, source := some source } := rfl
  obtain ⟨track, made, runs⟩ := received_located accepted true false (some 1) (some 0)
  obtain ⟨-, -, complete⟩ := runs [] _ .nil
  obtain ⟨-, actions, s, run, -, -, ended, -, received⟩ := complete (by simp) (.inr (by simp))
  refine ⟨accepted, track, actions, s, run, ended, ?_⟩
  rw [received]
  cases made
  subst level source l
  rfl

end Monitor

end DirectionFinding
