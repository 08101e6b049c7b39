import DirectionFinding.Capture.Reader
import DirectionFinding.Locator

/-!
The loop that locates bursts as they come. Each burst is recorded first, if recording is wanted,
and located only if somebody looks at the result. A burst that cannot be located is dropped and the
loop goes on. The loop ends with the source or when it is told to stop; a receiver of reports that
has left is forgotten. The events of a run are its meaning: what was recorded, located, dropped and
delivered is read off them.
-/
namespace DirectionFinding

inductive BurstSource where
  | queue (bursts : List (RawBurst Phasor))
  | capture (feed : Feed)
  deriving DecidableEq, Repr

def BurstSource.bursts : BurstSource → List (RawBurst Phasor) × Option LocateError
  | queue bursts => (bursts, none)
  | capture feed => feed.records

/-- How many times something is still done: for ever, or so many times. -/
abbrev Patience := Option Nat

def Patience.spend : Patience → Option Patience
  | none => some none
  | some 0 => none
  | some (n + 1) => some (some n)

inductive WatchEvent where
  | recorded (burst : RawBurst Phasor)
  | dropped (cause : LocateError)
  | located (report : Report)
  | printed (report : Report)
  | delivered (report : Report)
  | receiverLost
  deriving DecidableEq, Repr

structure WatchTask where
  locator : Locator
  record : Bool
  print : Bool

namespace WatchTask

variable [Trigonometry]

/-- What the loop does with one burst: the events of it, the report that is there to be handed on,
and the history after it. `forwarding` tells whether there is somebody to hand reports to. -/
def examine (task : WatchTask) (forwarding : Bool) (track : Track Phasor)
    (raw : RawBurst Phasor) : List WatchEvent × Option Report × Track Phasor :=
  let recorded := if task.record then [.recorded raw] else []
  if !forwarding && !task.print then (recorded, none, track)
  else
    match task.locator.locate raw track with
    | (.error cause, next) => (recorded ++ [.dropped cause], none, next)
    | (.ok report, next) =>
      (recorded ++ .located report :: (if task.print then [.printed report] else []),
        some report, next)

def deliver (receiver : Option Patience) (report : Report) :
    List WatchEvent × Option Patience :=
  match receiver with
  | none => ([], none)
  | some patience =>
    match patience.spend with
    | some left => ([.delivered report], some left)
    | none => ([.receiverLost], none)

/-- Events of the loop over the bursts of a source. `running` is how many bursts are taken before
the loop is told to stop, `receiver` how many reports are taken before their receiver leaves. -/
def events (task : WatchTask) (running : Patience) (receiver : Option Patience)
    (track : Track Phasor) : List (RawBurst Phasor) → List WatchEvent
  | [] => []
  | raw :: rest =>
    match running.spend with
    | none => []
    | some running =>
      match task.examine receiver.isSome track raw with
      | (before, none, next) => before ++ events task running receiver next rest
      | (before, some report, next) =>
        let (delivery, receiver) := deliver receiver report
        before ++ delivery ++ events task running receiver next rest

end WatchTask

namespace WatchEvent

def recording (events : List WatchEvent) : Bytes :=
  events.flatMap fun
    | .recorded burst => Record.encode burst
    | _ => []

def deliveries (events : List WatchEvent) : List Report :=
  events.filterMap fun
    | .delivered report => some report
    | _ => none

def locatedCount (events : List WatchEvent) : Nat :=
  events.countP fun
    | .located _ => true
    | _ => false

def droppedCount (events : List WatchEvent) : Nat :=
  events.countP fun
    | .dropped _ => true
    | _ => false

end WatchEvent

end DirectionFinding
