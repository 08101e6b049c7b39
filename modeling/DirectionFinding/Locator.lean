import DirectionFinding.AngleEstimate
import DirectionFinding.Burst.Assignment

/-!
From a raw burst to a smoothed angle of arrival: samples are assigned to antennas, switch slots
dropped, drift taken back, angles estimated and smoothed with the history of the transmitter, which
goes on to the next burst whatever became of this one.
-/
namespace DirectionFinding

structure Fix where
  frequency : UInt32
  phase : Float32
  raw : Angles
  smoothed : Angles
  samplesUsed : Nat
  deriving DecidableEq, Repr

structure Report where
  fix : Fix
  plan : SamplingPlan
  burst : SlottedBurst Phasor
  deriving DecidableEq, Repr

structure Locator where
  sampling : SamplingSettings
  array : AntennaArray
  plan : SamplingPlan
  pairs : AnglePairs
  deriving DecidableEq, Repr

namespace Locator

/-- Checks array, pairs and sampling, in this order, and derives the plan. -/
def ofSettings (sampling : SamplingSettings) (array : AntennaArray) (pairs : AnglePairs) :
    Located Locator := do
  array.validate
  pairs.validate
  let plan ← SamplingPlan.ofSettings sampling
  return { sampling := sampling, array := array, plan := plan, pairs := pairs }

variable [Trigonometry]

def correct (l : Locator) (raw : RawBurst Phasor) : Located (SlottedBurst Phasor) := do
  let assigned ← raw.assign l.plan l.array
  let (_, sampled) ← assigned.removeSwitchSlots
  let drift ← estimateDrift sampled.reference
  sampled.correctDrift l.plan.samplesPerSlot drift

def measure (l : Locator) (raw : RawBurst Phasor) :
    Located (SlottedBurst Phasor × AngleEstimate) := do
  let burst ← l.correct raw
  let estimate ← estimateAngles burst l.pairs
  return (burst, estimate)

def locate (l : Locator) (raw : RawBurst Phasor) (track : Track Phasor) :
    Located Report × Track Phasor :=
  match l.measure raw with
  | .error cause => (.error cause, track)
  | .ok (burst, estimate) =>
    match track.step estimate.angles with
    | (.error cause, next) => (.error cause, next)
    | (.ok smoothed, next) =>
      let fix : Fix := {
        frequency := burst.frequency
        phase := estimate.phase
        raw := estimate.angles
        smoothed := smoothed
        samplesUsed := estimate.samplesUsed }
      (.ok { fix := fix, plan := l.plan, burst := burst }, next)

/-- Locates bursts one after the other with one history; failures keep their place. -/
def locateAll (l : Locator) : Track Phasor → List (RawBurst Phasor) →
    List (Located Report) × Track Phasor
  | track, [] => ([], track)
  | track, raw :: rest =>
    let (answer, next) := l.locate raw track
    let (answers, final) := locateAll l next rest
    (answer :: answers, final)

end Locator

end DirectionFinding
