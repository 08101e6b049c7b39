import DirectionFinding.Proofs.Monitor.Interleaving

/-!
The watch loop among others against the loop by itself. In whatever order the parties move, the
events are those of the bursts one after the other for some moment at which the loop is stopped and
some moment at which the receiver leaves.
-/
namespace DirectionFinding

open WatchEvent (deliveries deliveries_append)

def Patience.more (n : Nat) (p : Patience) : Patience :=
  p.map (n + ·)

private theorem Patience.spend_more (p : Patience) : (p.more 1).spend = some p := by
  cases p with
  | none => rfl
  | some n => rw [more, Option.map_some, Nat.add_comm]; rfl

private theorem Patience.more_add (m n : Nat) (p : Patience) :
    p.more (m + n) = (p.more n).more m := by
  cases p with
  | none => rfl
  | some k => exact congrArg some (Nat.add_assoc m n k)

private theorem WatchTask.deliver_more (later : Patience) (report : Report) :
    deliver (some (later.more 1)) report = ([.delivered report], some later) := by
  simp only [deliver, Patience.spend_more]

namespace WatchState

def sink (s : WatchState) (later : Patience) : Option Patience :=
  if s.forwarding then some later else none

private theorem isSome_sink (s : WatchState) (later : Patience) :
    (s.sink later).isSome = s.forwarding := by
  unfold sink
  cases s.forwarding <;> rfl

def stay (s : WatchState) (later : Patience) : Patience :=
  if s.forwarding then later.more (deliveries s.events).length
  else some (deliveries s.events).length

variable [Trigonometry]

def ahead (s : WatchState) (task : WatchTask) (running later : Patience)
    (rest : List (RawBurst Phasor)) : List WatchEvent :=
  match s.stage with
  | .sending report =>
    (WatchTask.deliver (s.sink later) report).1 ++
      task.events running (WatchTask.deliver (s.sink later) report).2 s.track rest
  | _ => task.events running (s.sink later) s.track rest

/-- A state follows the loop over some bursts: continued in any way, it has the events that the
loop has when it is stopped and left accordingly. -/
structure Follows (s : WatchState) (task : WatchTask) (track : Track Phasor)
    (bursts : List (RawBurst Phasor)) : Prop where
  taken : s.taken ++ s.source.pending = bursts
  forwarding : ∀ report, s.stage = .sending report → s.forwarding = true
  -- What the others do later is not known yet, so this holds for whatever they may do.
  events : ∀ (running later : Patience) (rest : List (RawBurst Phasor)),
    (s.stage = .ended → running = some 0) →
    task.events (running.more s.taken.length) (some (s.stay later)) track (s.taken ++ rest) =
      s.events ++ s.ahead task running later rest

variable {s t : WatchState} {w : WatchSetup} {task : WatchTask} {track : Track Phasor}
  {bursts : List (RawBurst Phasor)}

theorem follows_start (task : WatchTask) (source : BurstSource) (track : Track Phasor) :
    (start source track).Follows task track source.bursts.1 where
  taken := LiveSource.pending_ofSource source
  forwarding := by
    intro report sending
    cases sending
  events := by
    intro running later rest _
    have whole (p : Patience) : p.more 0 = p := by
      cases p <;> simp [Patience.more]
    change task.events (running.more 0) (some (later.more 0)) track rest = _
    rw [whole, whole]
    rfl

private theorem ahead_of_not_sending (quiet : ∀ report, s.stage ≠ .sending report)
    (running later : Patience) (rest : List (RawBurst Phasor)) :
    s.ahead task running later rest = task.events running (s.sink later) s.track rest := by
  unfold ahead
  split
  · rename_i report sending
    exact absurd sending (quiet report)
  · rfl

theorem Follows.turn (follows : s.Follows task track bursts) (live : s.stage ≠ .ended)
    (quiet : ∀ report, s.stage ≠ .sending report) {stage : WatchStage}
    (still : ∀ report, stage ≠ .sending report) :
    { s with stage := stage }.Follows task track bursts where
  taken := follows.taken
  forwarding := fun report sending => absurd sending (still report)
  events := by
    intro running later rest _
    have before := follows.events running later rest fun ended => absurd ended live
    rw [ahead_of_not_sending quiet] at before
    rw [ahead_of_not_sending still]
    exact before

theorem deliveries_examined (s : WatchState) (task : WatchTask) (burst : RawBurst Phasor)
    (source : LiveSource) :
    deliveries (s.examined task burst source).events = deliveries s.events := by
  simp only [examined, deliveries_append, WatchTask.deliveries_examine, List.append_nil]

private theorem stay_examined (s : WatchState) (task : WatchTask) (burst : RawBurst Phasor)
    (source : LiveSource) (later : Patience) :
    (s.examined task burst source).stay later = s.stay later := by
  rw [stay, stay, deliveries_examined]
  rfl

private theorem ahead_examined (s : WatchState) (task : WatchTask) (burst : RawBurst Phasor)
    (source : LiveSource) (running later : Patience) (rest : List (RawBurst Phasor)) :
    (s.examined task burst source).ahead task running later rest =
      match (task.examine s.forwarding s.track burst).2 with
      | (none, next) => task.events running (s.sink later) next rest
      | (some report, next) =>
        (WatchTask.deliver (s.sink later) report).1 ++
          task.events running (WatchTask.deliver (s.sink later) report).2 next rest := by
  simp only [ahead, examined, sink]
  by_cases known : s.forwarding
  · simp only [known, if_true]
    rcases task.examine true s.track burst with ⟨moves, _ | report, next⟩ <;> rfl
  · simp only [known, if_false, Bool.false_eq_true]
    rcases task.examine false s.track burst with ⟨moves, _ | report, next⟩ <;> rfl

theorem Follows.examined (follows : s.Follows task track bursts) (listening : s.stage = .listening)
    {burst : RawBurst Phasor} {source : LiveSource} (yields : s.source.Yields burst source) :
    (s.examined task burst source).Follows task track bursts where
  taken := by
    rw [← follows.taken, yields.pending_eq]
    exact List.append_assoc s.taken [burst] source.pending
  forwarding := by
    intro report sending
    simp only [WatchState.examined] at sending ⊢
    split at sending
    · assumption
    · cases sending
  events := by
    intro running later rest _
    have before := follows.events (running.more 1) later (burst :: rest) (by simp [listening])
    rw [ahead_of_not_sending (by simp [listening]),
      WatchTask.events_cons task running.spend_more, isSome_sink] at before
    rw [stay_examined, ahead_examined]
    calc task.events (running.more (s.taken ++ [burst]).length) (some (s.stay later)) track
          (s.taken ++ [burst] ++ rest)
        = task.events ((running.more 1).more s.taken.length) (some (s.stay later)) track
          (s.taken ++ burst :: rest) := by
          rw [List.length_append, Patience.more_add, List.append_assoc]
          rfl
      _ = _ := before.trans (List.append_assoc ..).symm

theorem Follows.sent (follows : s.Follows task track bursts) {report : Report}
    (sending : s.stage = .sending report) (flying received : List Report) :
    { s with
      stage := .asking
      flying := flying
      received := received
      events := s.events ++ [WatchEvent.delivered report] }.Follows task track bursts where
  taken := follows.taken
  forwarding := by
    intro other sent
    cases sent
  events := by
    intro running later rest _
    have known := follows.forwarding report sending
    have before := follows.events running (later.more 1) rest (by simp [sending])
    simp only [ahead, sending, sink, known, if_true, WatchTask.deliver_more] at before
    simp only [ahead, sink, known, if_true]
    rw [List.append_assoc, ← before]
    simp only [stay, known, if_true, deliveries_append, List.length_append, Patience.more_add]
    rfl

private theorem Follows.forgot (follows : s.Follows task track bursts) {report : Report}
    (sending : s.stage = .sending report) :
    { s with
      stage := .asking
      forwarding := false
      events := s.events ++ [WatchEvent.receiverLost] }.Follows task track bursts where
  taken := follows.taken
  forwarding := by
    intro other sent
    cases sent
  events := by
    intro running later rest _
    have known := follows.forwarding report sending
    -- The receiver turns out to be one that stays for no more reports.
    have before := follows.events running (some 0) rest (by simp [sending])
    simp only [ahead, sending, sink, known, if_true, WatchTask.deliver, Patience.spend] at before
    simp only [ahead, sink, Bool.false_eq_true, if_false]
    rw [List.append_assoc, ← before]
    simp only [stay, known, if_true, Bool.false_eq_true, if_false, deliveries_append,
      List.length_append]
    rfl

theorem Follows.step {action : WatchAction} (follows : s.Follows w.task track bursts)
    (step : WatchStep w s action t) : t.Follows w.task track bursts := by
  cases step with
  | offer sent _ =>
    refine ⟨?_, follows.forwarding, follows.events⟩
    rw [LiveSource.pending_offered, ← sent]
    exact follows.taken
  | close sent =>
    refine ⟨?_, follows.forwarding, follows.events⟩
    rw [LiveSource.pending_closed, ← sent]
    exact follows.taken
  | stop => exact ⟨follows.taken, follows.forwarding, follows.events⟩
  | proceed stage _ => exact follows.turn (by simp [stage]) (by simp [stage]) (by simp)
  | halt stage _ => exact follows.turn (by simp [stage]) (by simp [stage]) (by simp)
  | idle stage _ => exact follows.turn (by simp [stage]) (by simp [stage]) (by simp)
  | take stage yields => exact follows.examined stage yields
  | finish stage _ => exact follows.turn (by simp [stage]) (by simp [stage]) (by simp)
  | send stage _ _ => exact follows.sent stage _ _
  | pass stage _ _ => exact follows.sent stage _ _
  | forget stage _ => exact follows.forgot stage
  | receive _ _ => exact ⟨follows.taken, follows.forwarding, follows.events⟩
  | leave _ => exact ⟨follows.taken, follows.forwarding, follows.events⟩

theorem Follows.run {actions : List WatchAction} (follows : s.Follows w.task track bursts)
    (run : WatchRun w s actions t) : t.Follows w.task track bursts := by
  induction run with
  | nil => exact follows
  | cons step _ ih => exact ih (follows.step step)

theorem Follows.deliveries_prefix (follows : s.Follows task track bursts) :
    deliveries s.events <+: reportsIn (task.locator.locateAll track bursts).1 := by
  have events := follows.events (some 0) none s.source.pending fun _ => rfl
  rw [follows.taken] at events
  have delivered := congrArg deliveries events
  rw [deliveries_append, WatchTask.deliveries_events] at delivered
  have stopped := reportsIn_prefix task.locator track
    (Patience.limit_prefix (Patience.more s.taken.length (some 0)) bursts)
  refine .trans ?_ ((Patience.limit_prefix (s.stay none) _).trans stopped)
  rw [delivered]
  exact List.prefix_append _ _

theorem Follows.deliveries_eq (follows : s.Follows task track bursts) (known : s.forwarding = true)
    (quiet : ∀ report, s.stage ≠ .sending report) (spent : s.source.pending = []) :
    deliveries s.events = reportsIn (task.locator.locateAll track bursts).1 := by
  have events := follows.events (some 0) none [] fun _ => rfl
  have taken := follows.taken
  rw [spent, List.append_nil] at taken
  rw [ahead_of_not_sending quiet, WatchTask.events_halted, List.append_nil, List.append_nil,
    taken] at events
  rw [← events, stay, if_pos known, WatchTask.deliveries_events]
  change reportsIn (task.locator.locateAll track (bursts.take bursts.length)).1 = _
  rw [List.take_length]

end WatchState

end DirectionFinding
