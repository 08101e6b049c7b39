import DirectionFinding.AngleEstimate
import DirectionFinding.AntennaArray
import DirectionFinding.Sampling.ControlWord

/-!
Settings that every command takes. A control word replaces the sampling options altogether, and the
elevation pair has the distance of the azimuth pair unless it is given one of its own.
-/
namespace DirectionFinding

structure RunSettings where
  sampling : SamplingSettings := {}
  controlWord : Option ControlWord := none
  array : AntennaArray := {}
  pair : Antenna × Antenna := (⟨12⟩, ⟨1⟩)
  distance : Float32 := 0.05
  elevationPair : Option (Antenna × Antenna) := none
  elevationDistance : Option Float32 := none
  smoothing : Smoothing := .mean
  deriving DecidableEq, Repr

namespace RunSettings

def checkedSampling (s : RunSettings) : Located SamplingSettings :=
  match s.controlWord with
  | some word => word.settings
  | none => do
    s.sampling.validate
    return s.sampling

def checkedArray (s : RunSettings) : Located AntennaArray := do
  s.array.validate
  return s.array

def checkedPairs (s : RunSettings) : Located AnglePairs := do
  let azimuth ← AntennaPair.checked s.pair.1 s.pair.2 s.distance
  match s.elevationPair with
  | none => return { azimuth := azimuth, elevation := none }
  | some (a, b) =>
    let elevation ← AntennaPair.checked a b (s.elevationDistance.getD s.distance)
    return { azimuth := azimuth, elevation := some elevation }

end RunSettings

end DirectionFinding
