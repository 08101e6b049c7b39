import DirectionFinding.Proofs.Capture.Extraction
import DirectionFinding.Proofs.Monitor.Watch

/-!
The watch loop among others. A producer sends bursts into a queue, the owner of the monitor tells
the loop to stop, and a receiver takes reports from a second queue until it leaves, each at any
moment. Queues keep their order and lose nothing, but may be full.
-/
namespace DirectionFinding

/-- A source while bursts are taken from it: a queue, with the bursts that its producer has yet to
send and those that wait in it; a queue whose producer has gone; a capture. -/
inductive LiveSource where
  | queue (coming waiting : List (RawBurst Phasor))
  | closed (waiting : List (RawBurst Phasor))
  | capture (reader : RecordReader)

namespace LiveSource

def ofSource : BurstSource → LiveSource
  | .queue bursts => .queue bursts []
  | .capture feed => .capture ⟨feed, false⟩

def pending : LiveSource → List (RawBurst Phasor)
  | queue coming waiting => waiting ++ coming
  | closed waiting => waiting
  | capture reader => if reader.finished then [] else reader.feed.records.1

/-- A burst is taken. From an empty queue it is taken as it is sent. -/
inductive Yields : LiveSource → RawBurst Phasor → LiveSource → Prop where
  | queued {burst : RawBurst Phasor} {coming waiting : List (RawBurst Phasor)} :
    Yields (queue coming (burst :: waiting)) burst (queue coming waiting)
  | direct {burst : RawBurst Phasor} {coming : List (RawBurst Phasor)} :
    Yields (queue (burst :: coming) []) burst (queue coming [])
  | left {burst : RawBurst Phasor} {waiting : List (RawBurst Phasor)} :
    Yields (closed (burst :: waiting)) burst (closed waiting)
  | read {burst : RawBurst Phasor} {reader later : RecordReader}
    (answer : reader.next = (some (.ok burst), later)) :
    Yields (capture reader) burst (capture later)

def Exhausted : LiveSource → Prop
  | queue _ _ => False
  | closed waiting => waiting = []
  | capture reader => ∀ burst, reader.next.1 ≠ some (.ok burst)

theorem pending_ofSource (source : BurstSource) : (ofSource source).pending = source.bursts.1 := by
  cases source <;> rfl

theorem pending_offered (burst : RawBurst Phasor) (coming waiting : List (RawBurst Phasor)) :
    (queue coming (waiting ++ [burst])).pending = (queue (burst :: coming) waiting).pending :=
  List.append_assoc ..

theorem pending_closed (waiting : List (RawBurst Phasor)) :
    (closed waiting).pending = (queue [] waiting).pending :=
  (List.append_nil _).symm

theorem Yields.pending_eq {source later : LiveSource} {burst : RawBurst Phasor}
    (yields : source.Yields burst later) : source.pending = burst :: later.pending := by
  cases yields with
  | queued => rfl
  | direct => rfl
  | left => rfl
  | read answer =>
    unfold RecordReader.next at answer
    split at answer
    · cases answer
    · rename_i active
      split at answer
      · rename_i reading
        cases answer
        simp only [pending, active, Bool.false_eq_true, if_false]
        rw [Feed.records_of_ok reading]
      · cases answer
      · cases answer

theorem Exhausted.pending_eq {source : LiveSource} (exhausted : source.Exhausted) :
    source.pending = [] := by
  cases source with
  | queue coming waiting => exact exhausted.elim
  | closed waiting => exact exhausted
  | capture reader =>
    simp only [pending]
    split
    · rfl
    · rename_i active
      match reading : reader.feed.nextRecord with
      | (.ok (some burst), g) =>
        exact absurd (by simp [RecordReader.next, active, reading]) (exhausted burst)
      | (.ok none, g) =>
        have closed : reader.feed.nextRecord = (closing none, g) := reading
        rw [Feed.records_of_closing closed]
      | (.error cause, g) =>
        have broken : reader.feed.nextRecord = (closing (some cause), g) := reading
        rw [Feed.records_of_closing broken]

end LiveSource

inductive WatchStage where
  | asking
  | listening
  | sending (report : Report)
  | ended

structure WatchState where
  source : LiveSource
  running : Bool := true
  stage : WatchStage := .asking
  track : Track Phasor
  forwarding : Bool := true
  attended : Bool := true
  flying : List Report := []
  received : List Report := []
  taken : List (RawBurst Phasor) := []
  events : List WatchEvent := []

inductive WatchAction where
  | offer
  | close
  | stop
  | proceed
  | halt
  | idle
  | take
  | finish
  | send
  | pass
  | forget
  | receive
  | leave
  deriving DecidableEq

structure WatchSetup where
  task : WatchTask
  intake : Option Nat
  outlet : Option Nat

def HasRoom {α : Type} (capacity : Option Nat) (held : List α) : Prop :=
  ∀ limit ∈ capacity, held.length < limit

namespace WatchState

def start (source : BurstSource) (track : Track Phasor) : WatchState :=
  { source := .ofSource source, track := track }

def examined [Trigonometry] (s : WatchState) (task : WatchTask) (burst : RawBurst Phasor)
    (source : LiveSource) : WatchState :=
  let outcome := task.examine s.forwarding s.track burst
  { s with
    source := source
    stage := if s.forwarding then outcome.2.1.elim .asking .sending else .asking
    track := outcome.2.2
    taken := s.taken ++ [burst]
    events := s.events ++ outcome.1 }

theorem examined_live [Trigonometry] (s : WatchState) (task : WatchTask) (burst : RawBurst Phasor)
    (source : LiveSource) : (s.examined task burst source).stage ≠ .ended := by
  simp only [examined]
  split
  · cases (task.examine s.forwarding s.track burst).2.1 <;> simp
  · simp

end WatchState

/-- One step of one party. A report is put into the queue of reports, or passed on to a receiver
that waits at the empty queue. -/
inductive WatchStep [Trigonometry] (w : WatchSetup) :
    WatchState → WatchAction → WatchState → Prop where
  | offer {s : WatchState} {burst : RawBurst Phasor} {coming waiting : List (RawBurst Phasor)}
    (sent : s.source = .queue (burst :: coming) waiting) (room : HasRoom w.intake waiting) :
    WatchStep w s .offer { s with source := .queue coming (waiting ++ [burst]) }
  | close {s : WatchState} {waiting : List (RawBurst Phasor)} (sent : s.source = .queue [] waiting) :
    WatchStep w s .close { s with source := .closed waiting }
  | stop {s : WatchState} : WatchStep w s .stop { s with running := false }
  | proceed {s : WatchState} (stage : s.stage = .asking) (running : s.running = true) :
    WatchStep w s .proceed { s with stage := .listening }
  | halt {s : WatchState} (stage : s.stage = .asking) (stopped : s.running = false) :
    WatchStep w s .halt { s with stage := .ended }
  | idle {s : WatchState} {coming : List (RawBurst Phasor)} (stage : s.stage = .listening)
    (silent : s.source = .queue coming []) :
    WatchStep w s .idle { s with stage := .asking }
  | take {s : WatchState} {burst : RawBurst Phasor} {source : LiveSource}
    (stage : s.stage = .listening) (yields : s.source.Yields burst source) :
    WatchStep w s .take (s.examined w.task burst source)
  | finish {s : WatchState} (stage : s.stage = .listening) (exhausted : s.source.Exhausted) :
    WatchStep w s .finish { s with stage := .ended }
  | send {s : WatchState} {report : Report} (stage : s.stage = .sending report)
    (attended : s.attended = true) (room : HasRoom w.outlet s.flying) :
    WatchStep w s .send { s with
      stage := .asking
      flying := s.flying ++ [report]
      events := s.events ++ [.delivered report] }
  | pass {s : WatchState} {report : Report} (stage : s.stage = .sending report)
    (attended : s.attended = true) (empty : s.flying = []) :
    WatchStep w s .pass { s with
      stage := .asking
      received := s.received ++ [report]
      events := s.events ++ [.delivered report] }
  | forget {s : WatchState} {report : Report} (stage : s.stage = .sending report)
    (gone : s.attended = false) :
    WatchStep w s .forget { s with
      stage := .asking
      forwarding := false
      events := s.events ++ [.receiverLost] }
  | receive {s : WatchState} {report : Report} {flying : List Report} (attended : s.attended = true)
    (first : s.flying = report :: flying) :
    WatchStep w s .receive { s with flying := flying, received := s.received ++ [report] }
  | leave {s : WatchState} (attended : s.attended = true) :
    WatchStep w s .leave { s with attended := false, flying := [] }

inductive WatchRun [Trigonometry] (w : WatchSetup) :
    WatchState → List WatchAction → WatchState → Prop where
  | nil {s : WatchState} : WatchRun w s [] s
  | cons {s t u : WatchState} {action : WatchAction} {actions : List WatchAction}
    (step : WatchStep w s action t) (later : WatchRun w t actions u) :
    WatchRun w s (action :: actions) u

theorem WatchRun.append [Trigonometry] {w : WatchSetup} {s t u : WatchState}
    {actions more : List WatchAction} (run : WatchRun w s actions t) (later : WatchRun w t more u) :
    WatchRun w s (actions ++ more) u := by
  induction run with
  | nil => exact later
  | cons step _ ih => exact .cons step (ih later)

end DirectionFinding
