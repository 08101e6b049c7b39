import DirectionFinding.Sampling.Settings

/-!
The plan of a sampling schedule: regime, slot counts and delays derived from the settings.
Durations are whole nanoseconds, and every division drops its remainder.
-/
namespace DirectionFinding

inductive SamplingRegime where
  | regular
  | overSampling
  | underSampling
  deriving DecidableEq, Repr

def SamplingRegime.text : SamplingRegime → String
  | regular => "regular"
  | overSampling => "over-sampling"
  | underSampling => "under-sampling"

def wholeRatio (divisor : Divisor) (num den : Nat) : Located Nat :=
  if den = 0 then .error (.invalidConfiguration (.zeroDivisor divisor)) else .ok (num / den)

namespace SamplingSettings

def switchingDuration (s : SamplingSettings) : Located Nat :=
  let cte := s.cteUnits.toNat * 8000
  let preamble := (s.guardPeriod.toNat + s.referencePeriod.toNat) * 1000
  if cte < preamble then .error (.invalidConfiguration (.cteShorterThanPreamble cte preamble))
  else .ok (cte - preamble)

def regime (s : SamplingSettings) : SamplingRegime :=
  let switch := s.switchSpacing.nanoseconds
  let sample := s.sampleSpacing.nanoseconds
  if switch = sample then .regular
  else if sample < switch then .overSampling
  else .underSampling

/-- Slots of the switching period. Over-sampling adds a switch slot to every sampling slot,
under-sampling keeps one slot for every whole ratio of the spacings. -/
def effectiveSlots (s : SamplingSettings) : Located Nat := do
  let switch := s.switchSpacing.nanoseconds
  let slots ← wholeRatio .switchSpacing (← s.switchingDuration) switch
  match s.regime with
  | .regular => .ok slots
  | .overSampling => .ok (slots * 2)
  | .underSampling =>
    let ratio ← wholeRatio .switchSpacing s.sampleSpacing.nanoseconds switch
    wholeRatio .spacingRatio slots ratio

/-- Samples of one slot. A switch spacing holds a sampling slot and a switch slot, so half of its
samples belong to each. -/
def samplesPerSlot (s : SamplingSettings) : Located Nat := do
  let switch := s.switchSpacing.nanoseconds
  let sample := s.sampleSpacing.nanoseconds
  if sample < switch then
    let samples ← wholeRatio .sampleSpacing switch (sample * 2)
    if samples = 0 then .error (.invalidConfiguration .emptySlot) else .ok samples
  else .ok 1

def referenceSamples (s : SamplingSettings) : Located Nat :=
  wholeRatio .referenceSpacing (s.referencePeriod.toNat * 1000) s.referenceSpacing.nanoseconds

/-- Time from the last reference sample to the first switching sample, which is taken in the middle
of the first switch spacing. -/
def firstSampleDelay (s : SamplingSettings) : Nat :=
  s.switchSpacing.nanoseconds / 2 + s.referenceSpacing.nanoseconds

def antennaStep (s : SamplingSettings) : Located Nat := do
  match s.regime with
  | .regular | .overSampling => .ok 1
  | .underSampling =>
    let step ← wholeRatio .switchSpacing s.sampleSpacing.nanoseconds s.switchSpacing.nanoseconds
    if step = 0 then .error (.invalidConfiguration .zeroAntennaStep) else .ok step

end SamplingSettings

structure SamplingPlan where
  regime : SamplingRegime
  switchingDuration : Nat
  switchSpacing : Nat
  sampleSpacing : Nat
  referenceSpacing : Nat
  referenceSamples : Nat
  effectiveSlots : Nat
  samplesPerSlot : Nat
  antennaStep : Nat
  firstSampleDelay : Nat
  deriving DecidableEq, Repr

namespace SamplingPlan

def fitsLimits (p : SamplingPlan) : Bool :=
  p.effectiveSlots ≤ Limits.slots && p.samplesPerSlot ≤ Limits.samplesPerSlot &&
    p.referenceSamples ≤ Limits.referenceSamples

def derive (s : SamplingSettings) : Located SamplingPlan := do
  s.validate
  let switchingDuration ← s.switchingDuration
  let referenceSamples ← s.referenceSamples
  let effectiveSlots ← s.effectiveSlots
  let samplesPerSlot ← s.samplesPerSlot
  let antennaStep ← s.antennaStep
  return {
    regime := s.regime
    switchingDuration := switchingDuration
    switchSpacing := s.switchSpacing.nanoseconds
    sampleSpacing := s.sampleSpacing.nanoseconds
    referenceSpacing := s.referenceSpacing.nanoseconds
    referenceSamples := referenceSamples
    effectiveSlots := effectiveSlots
    samplesPerSlot := samplesPerSlot
    antennaStep := antennaStep
    firstSampleDelay := s.firstSampleDelay }

def ofSettings (s : SamplingSettings) : Located SamplingPlan := do
  let plan ← derive s
  if !plan.fitsLimits then
    .error (.invalidConfiguration
      (.exceedsCapacity plan.effectiveSlots plan.samplesPerSlot plan.referenceSamples))
  else if plan.referenceSamples < 2 then
    .error (.invalidConfiguration .tooFewReferenceSamples)
  else .ok plan

def requiredSamples (p : SamplingPlan) : Nat :=
  p.referenceSamples + p.effectiveSlots * p.samplesPerSlot

end SamplingPlan

end DirectionFinding
