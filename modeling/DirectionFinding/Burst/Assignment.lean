import DirectionFinding.AntennaArray
import DirectionFinding.Burst.Slotted
import DirectionFinding.Sampling.Plan

/-!
Assignment of raw samples to antennas. The radio delivers samples without saying which antenna
took them; plan and switch sequence tell. A sequence that ends before the switching period starts
over with its first antenna.
-/
namespace DirectionFinding

namespace Assignment

variable {σ : Type}

/-- Whether a slot falls into a switch transient: with over-sampling every second one does. -/
def isSwitchSlot (regime : SamplingRegime) (slot : Nat) : Bool :=
  regime == .overSampling && slot % 2 == 1

def advance (length step cursor : Nat) : Nat :=
  if length ≤ cursor + step then 0 else cursor + step

/-- The antenna at a place of the sequence; a place behind its end is refused. -/
def antennaAt (sequence : List Antenna) (cursor : Nat) : Located Antenna :=
  match sequence[cursor]? with
  | some antenna => .ok antenna
  | none => .error (.outsideStorage cursor sequence.length)

def splitSamples (count : Nat) (samples : List σ) : Located (List σ × List σ) :=
  if samples.length < count then .error (.outsideStorage count samples.length)
  else .ok (samples.take count, samples.drop count)

/-- Lays out `left` more slots, the next one being `slot`, from the samples that are left. -/
def layOut (plan : SamplingPlan) (sequence : List Antenna) (slot cursor : Nat) (rest : List σ)
    (b : SlottedBurst σ) : Nat → Located (SlottedBurst σ)
  | 0 => .ok b
  | left + 1 => do
    if isSwitchSlot plan.regime slot then
      let (samples, rest) ← splitSamples plan.samplesPerSlot rest
      let b ← Located.after (b.pushSlot .switching samples)
      layOut plan sequence (slot + 1) cursor rest b left
    else
      let antenna ← antennaAt sequence cursor
      let (samples, rest) ← splitSamples plan.samplesPerSlot rest
      let b ← Located.after (b.pushSlot antenna samples)
      layOut plan sequence (slot + 1) (advance sequence.length plan.antennaStep cursor) rest b left

end Assignment

/-- Assigns the valid samples of a burst to the antennas that took them. Samples beyond the plan
are ignored, and a plan that asks for more samples than can be counted is refused. -/
def RawBurst.assign {σ : Type} [Inhabited σ] (raw : RawBurst σ) (plan : SamplingPlan)
    (array : AntennaArray) : Located (SlottedBurst σ) := do
  if array.sequence.isEmpty then
    throw (.invalidArgument .emptySequence)
  requireCount plan.requiredSamples
  let samples := raw.valid
  if samples.length < plan.requiredSamples then
    throw (.truncated plan.requiredSamples samples.length)
  let b ← SlottedBurst.withCapacity plan.effectiveSlots plan.samplesPerSlot
  let (reference, rest) ← Assignment.splitSamples plan.referenceSamples samples
  let b ← Located.after (b.setReference array.reference reference)
  let b ← Assignment.layOut plan array.sequence 0 0 rest b plan.effectiveSlots
  return { b with frequency := raw.frequency }

end DirectionFinding
