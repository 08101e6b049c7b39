import DirectionFinding.Sampling.Spacing

/-!
Settings of the sampling schedule within one constant tone extension: a guard period, a reference
period on one antenna, and a switching period for the rest.
-/
namespace DirectionFinding

/-- Settings of one schedule. Lengths of the guard and reference periods are in microseconds, the
length of the extension in units of 8 µs, offsets in cycles of 16 MHz. -/
structure SamplingSettings where
  cteUnits : UInt8 := 20
  guardPeriod : UInt8 := 4
  referencePeriod : UInt8 := 8
  switchSpacing : SwitchSpacing := .us2
  sampleSpacing : SampleSpacing := .us2
  referenceSpacing : SampleSpacing := .us1
  sampleOffset : Int16 := 1
  switchOffset : Int16 := 0
  deriving DecidableEq, Repr

namespace SamplingSettings

def validate (s : SamplingSettings) : Located Unit :=
  let units := s.cteUnits.toNat
  let cte := units * 8
  let preamble := s.guardPeriod.toNat + s.referencePeriod.toNat
  if units < 2 ∨ 20 < units then
    .error (.invalidConfiguration (.cteLength units))
  else if cte ≤ preamble then
    .error (.invalidConfiguration (.noSwitchingPeriod cte preamble))
  else .ok ()

end SamplingSettings

end DirectionFinding
