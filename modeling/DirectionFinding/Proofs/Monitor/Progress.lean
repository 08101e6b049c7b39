import DirectionFinding.Proofs.Monitor.Interleaving

/-!
Progress of the watch loop among others. Every action that gets a party on takes from a finite
stock, and as long as the receiver stays and the loop is not stopped, one is left to take until all
is done.
-/
namespace DirectionFinding

namespace WatchState

/-- The loop runs or is over with all bursts of its source taken. -/
structure Undisturbed (s : WatchState) : Prop where
  live : s.stage = .ended ∨ s.running = true
  whole : s.stage = .ended → s.source.pending = []

theorem undisturbed_start (source : BurstSource) (track : Track Phasor) :
    (start source track).Undisturbed where
  live := .inr rfl
  whole := by
    intro ended
    cases ended

variable [Trigonometry] {s t : WatchState} {w : WatchSetup} {action : WatchAction}
  {actions : List WatchAction}

private theorem attended_step (attended : s.attended = true) (step : WatchStep w s action t)
    (staying : action ≠ .leave) : t.attended = true := by
  cases step with
  | leave => exact absurd rfl staying
  | _ => exact attended

theorem attended_run (attended : s.attended = true) (run : WatchRun w s actions t)
    (staying : .leave ∉ actions) : t.attended = true := by
  induction run with
  | nil => exact attended
  | cons step _ ih =>
    rw [List.mem_cons, not_or] at staying
    exact ih (attended_step attended step (Ne.symm staying.1)) staying.2

private theorem ended_step (ended : s.stage = .ended) (step : WatchStep w s action t) :
    t.stage = .ended := by
  cases step with
  | offer | close | stop | receive | leave => exact ended
  | proceed stage | halt stage | idle stage | take stage | finish stage | send stage | pass stage
  | forget stage => cases stage.symm.trans ended

theorem Undisturbed.step (undisturbed : s.Undisturbed) (step : WatchStep w s action t)
    (allowed : action = .stop → s.stage = .ended) : t.Undisturbed := by
  obtain ⟨live, whole⟩ := undisturbed
  have running (going : s.stage ≠ .ended) : s.running = true := live.resolve_left going
  cases step with
  | offer sent =>
    refine ⟨live, fun ended => ?_⟩
    rw [LiveSource.pending_offered, ← sent]
    exact whole ended
  | close sent =>
    refine ⟨live, fun ended => ?_⟩
    rw [LiveSource.pending_closed, ← sent]
    exact whole ended
  | stop => exact ⟨.inl (allowed rfl), whole⟩
  | proceed stage | idle stage | send stage | pass stage | forget stage =>
    refine ⟨.inr (running (by simp [stage])), fun ended => ?_⟩
    cases ended
  | halt stage stopped => cases stopped.symm.trans (running (by simp [stage]))
  | take stage =>
    exact ⟨.inr (running (by simp [stage])), fun ended => absurd ended (examined_live _ _ _ _)⟩
  | finish stage exhausted => exact ⟨.inl rfl, fun _ => exhausted.pending_eq⟩
  | receive | leave => exact ⟨live, whole⟩

private theorem Undisturbed.run_ended (undisturbed : s.Undisturbed) (ended : s.stage = .ended)
    (run : WatchRun w s actions t) : t.Undisturbed := by
  induction run with
  | nil => exact undisturbed
  | cons step _ ih => exact ih (undisturbed.step step fun _ => ended) (ended_step ended step)

private theorem undisturbed_finish (step : WatchStep w s .finish t) :
    t.Undisturbed ∧ t.stage = .ended := by
  cases step with
  | finish _ exhausted => exact ⟨⟨.inl rfl, fun _ => exhausted.pending_eq⟩, rfl⟩

theorem Undisturbed.run (undisturbed : s.Undisturbed) (run : WatchRun w s actions t)
    (allowed : .finish ∈ actions ∨ .stop ∉ actions) : t.Undisturbed := by
  rcases allowed with finished | unstopped
  · clear undisturbed
    induction run with
    | nil => cases finished
    | cons step later ih =>
      rcases List.mem_cons.mp finished with rfl | finished
      · obtain ⟨undisturbed, ended⟩ := undisturbed_finish step
        exact undisturbed.run_ended ended later
      · exact ih finished
  · induction run with
    | nil => exact undisturbed
    | cons step _ ih =>
      rw [List.mem_cons, not_or] at unstopped
      exact ih (undisturbed.step step fun stopped => absurd stopped.symm unstopped.1) unstopped.2

end WatchState

/-- Actions that get a party on: all but those of the owner and of a receiver that leaves, and the
loop's polling. -/
def WatchAction.advances : WatchAction → Bool
  | stop | leave | proceed | idle => false
  | _ => true

/-- Upper bound of the actions that can still get a party on. -/
def LiveSource.weight : LiveSource → Nat
  -- A burst to come is sent, taken, handed on and received; a queue is closed once.
  | queue coming waiting => 4 * coming.length + 3 * waiting.length + 1
  | closed waiting => 3 * waiting.length
  | capture reader => 3 * (capture reader).pending.length

def WatchStage.weight : WatchStage → Nat
  | asking | listening => 1
  | sending _ => 3
  | ended => 0

private theorem LiveSource.exhausted_or_yields (source : LiveSource) :
    source.Exhausted ∨ (∃ burst later, source.Yields burst later) ∨ source = .queue [] [] := by
  match source with
  | queue coming (burst :: waiting) => exact .inr (.inl ⟨_, _, .queued⟩)
  | queue (burst :: coming) [] => exact .inr (.inl ⟨_, _, .direct⟩)
  | queue [] [] => exact .inr (.inr rfl)
  | closed (burst :: waiting) => exact .inr (.inl ⟨_, _, .left⟩)
  | closed [] => exact .inl rfl
  | capture reader =>
    match answer : reader.next with
    | (some (.ok burst), later) => exact .inr (.inl ⟨_, _, .read answer⟩)
    | (some (.error cause), later) => exact .inl (by simp [Exhausted, answer])
    | (none, later) => exact .inl (by simp [Exhausted, answer])

theorem LiveSource.Yields.weight {source later : LiveSource} {burst : RawBurst Phasor}
    (yields : source.Yields burst later) : later.weight + 3 ≤ source.weight := by
  have pending := yields.pending_eq
  cases yields with
  | queued | direct | left =>
    simp only [LiveSource.weight, List.length_cons]
    omega
  | read =>
    simp only [LiveSource.weight, pending, List.length_cons]
    omega

private theorem WatchStage.weight_le (stage : WatchStage) : stage.weight ≤ 3 := by
  cases stage <;> simp [weight]

namespace WatchState

def weight (s : WatchState) : Nat :=
  s.source.weight + s.stage.weight + s.flying.length

theorem weight_start (source : BurstSource) (track : Track Phasor) :
    (start source track).weight ≤ 4 * source.bursts.1.length + 2 := by
  have pending := LiveSource.pending_ofSource source
  cases source with
  | queue bursts => exact Nat.le_refl _
  | capture feed =>
    simp only [weight, start, LiveSource.ofSource, LiveSource.weight, WatchStage.weight] at pending ⊢
    rw [pending, List.length_nil]
    omega

variable [Trigonometry] {s t : WatchState} {w : WatchSetup} {action : WatchAction}
  {actions : List WatchAction}

private theorem weight_step (step : WatchStep w s action t) :
    t.weight + (if action.advances then 1 else 0) ≤ s.weight := by
  cases step with
  | offer sent | close sent =>
    simp only [weight, sent, LiveSource.weight, WatchAction.advances, List.length_append,
      List.length_cons, List.length_nil, if_true]
    omega
  | stop => exact Nat.le_refl _
  | proceed stage | halt stage | idle stage | finish stage | forget stage =>
    simp only [weight, stage, WatchStage.weight, WatchAction.advances, if_true, if_false,
      Bool.false_eq_true]
    omega
  | @take burst source stage yields =>
    have drawn := yields.weight
    have next := (s.examined w.task burst source).stage.weight_le
    change source.weight + (s.examined w.task burst source).stage.weight + s.flying.length + 1 ≤
      s.source.weight + s.stage.weight + s.flying.length
    rw [stage]
    change _ ≤ s.source.weight + 1 + s.flying.length
    omega
  | send stage | pass stage =>
    simp only [weight, stage, WatchStage.weight, WatchAction.advances, if_true,
      List.length_append, List.length_cons, List.length_nil]
    omega
  | receive _ first =>
    simp only [weight, first, WatchAction.advances, if_true, List.length_cons]
    omega
  | leave =>
    simp only [weight, WatchAction.advances, List.length_nil, if_false, Bool.false_eq_true]
    omega

theorem weight_run (run : WatchRun w s actions t) :
    t.weight + actions.countP (·.advances) ≤ s.weight := by
  induction run with
  | nil => exact Nat.le_refl _
  | cons step _ ih =>
    have first := weight_step step
    rw [List.countP_cons]
    omega

def Advances (w : WatchSetup) (s : WatchState) (actions : List WatchAction) (t : WatchState) : Prop :=
  WatchRun w s actions t ∧ .stop ∉ actions ∧ .leave ∉ actions ∧ t.weight < s.weight

private theorem advances_single (step : WatchStep w s action t)
    (advancing : action.advances = true) :
    Advances w s [action] t := by
  have lighter := weight_step step
  rw [if_pos advancing] at lighter
  refine ⟨.cons step .nil, ?_, ?_, lighter⟩
  · intro member
    rw [← List.mem_singleton.mp member] at advancing
    cases advancing
  · intro member
    rw [← List.mem_singleton.mp member] at advancing
    cases advancing

private theorem advance_listening (w : WatchSetup) (listening : s.stage = .listening) :
    ∃ action t, Advances w s [action] t := by
  rcases s.source.exhausted_or_yields with exhausted | ⟨burst, later, yields⟩ | unclosed
  · exact ⟨_, _, advances_single (.finish listening exhausted) rfl⟩
  · exact ⟨_, _, advances_single (.take listening yields) rfl⟩
  · exact ⟨_, _, advances_single (.close unclosed) rfl⟩

theorem Undisturbed.advance (undisturbed : s.Undisturbed) (w : WatchSetup)
    (attended : s.attended = true) (unsettled : ¬ (s.stage = .ended ∧ s.flying = [])) :
    ∃ actions t, Advances w s actions t := by
  cases flying : s.flying with
  | cons report rest => exact ⟨_, _, advances_single (.receive attended flying) rfl⟩
  | nil =>
    cases stage : s.stage with
    | asking =>
      have running : s.running = true := by simpa [stage] using undisturbed.live
      have proceed := WatchStep.proceed (w := w) stage running
      have heavy := weight_step proceed
      obtain ⟨action, t, run, unstopped, staying, lighter⟩ :=
        advance_listening (s := { s with stage := .listening }) w rfl
      refine ⟨_, _, .cons proceed run, ?_, ?_, Nat.lt_of_lt_of_le lighter heavy⟩
      · simpa using unstopped
      · simpa using staying
    | listening =>
      obtain ⟨action, t, advances⟩ := advance_listening w stage
      exact ⟨_, _, advances⟩
    | sending report => exact ⟨_, _, advances_single (.pass stage attended flying) rfl⟩
    | ended => exact absurd ⟨stage, flying⟩ unsettled

/-- With the receiver there, everything in flight and every burst to come can be seen through. -/
theorem Undisturbed.settle (undisturbed : s.Undisturbed) (w : WatchSetup)
    (attended : s.attended = true) :
    ∃ actions t, WatchRun w s actions t ∧ .stop ∉ actions ∧ .leave ∉ actions ∧
      t.stage = .ended ∧ t.flying = [] := by
  generalize bound : s.weight = n
  induction n using Nat.strongRecOn generalizing s with
  | ind n ih =>
    by_cases settled : s.stage = .ended ∧ s.flying = []
    · exact ⟨[], s, .nil, List.not_mem_nil, List.not_mem_nil, settled⟩
    · obtain ⟨actions, t, run, unstopped, staying, lighter⟩ :=
        undisturbed.advance w attended settled
      obtain ⟨more, u, later, unstopped', staying', settled⟩ :=
        ih t.weight (bound ▸ lighter) (undisturbed.run run (.inr unstopped))
          (attended_run attended run staying) rfl
      refine ⟨actions ++ more, u, run.append later, ?_, ?_, settled⟩
      · simp [unstopped, unstopped']
      · simp [staying, staying']

end WatchState

end DirectionFinding
