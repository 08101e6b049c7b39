import DirectionFinding.Locator

/-!
Samples of a report on the timeline of the extension. Reference samples come first and start at
zero; switching samples follow after the delay before the first of them, one sample spacing apart.
Reports are kept with instants of 32 bits; `Report.requireClock` refuses one that lasts longer.
-/
namespace DirectionFinding

/-- Shortest time between two samples, in nanoseconds: the unit of the timeline. -/
def timeUnit : Nat := 125

structure TimelinePoint (σ : Type) where
  index : Nat
  time : Nat
  antenna : Antenna
  sample : σ
  deriving DecidableEq, Repr

namespace Timeline

variable {σ : Type}

def referenceTime (plan : SamplingPlan) (i : Nat) : Nat :=
  plan.referenceSpacing / timeUnit * i

def switchingTime (plan : SamplingPlan) (referenceSamples offset : Nat) : Nat :=
  plan.firstSampleDelay / timeUnit + referenceTime plan (referenceSamples - 1) +
    offset * (plan.sampleSpacing / timeUnit)

def referencePoints (plan : SamplingPlan) (burst : SlottedBurst σ) : List (TimelinePoint σ) :=
  burst.reference.mapIdx fun i sample =>
    ⟨i, referenceTime plan i, burst.referenceAntenna, sample⟩

/-- Points of one slot; the slots before it are taken to be as long as it is. -/
def slotPoints (plan : SamplingPlan) (referenceSamples place : Nat) (slot : Slot σ) :
    List (TimelinePoint σ) :=
  slot.samples.mapIdx fun i sample =>
    let offset := slot.samples.length * place + i
    ⟨referenceSamples + offset, switchingTime plan referenceSamples offset, slot.antenna, sample⟩

end Timeline

def timeline {σ : Type} (plan : SamplingPlan) (burst : SlottedBurst σ) :
    List (TimelinePoint σ) :=
  Timeline.referencePoints plan burst ++
    (burst.slots.mapIdx (Timeline.slotPoints plan burst.reference.length)).flatten

def TimelinePoint.requireClock {σ : Type} (p : TimelinePoint σ) : Except ReportError Unit :=
  if p.time < Limits.clock then .ok () else .error (.clockOverflow p.time)

/-- Refuses a report with a sample that the clock does not reach. -/
def Report.requireClock (r : Report) : Except ReportError Unit :=
  (timeline r.plan r.burst).forM TimelinePoint.requireClock

end DirectionFinding
