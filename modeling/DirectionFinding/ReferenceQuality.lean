import DirectionFinding.Drift

/-!
Signal quality of the reference period: mean turn between samples and mean magnitude.
-/
namespace DirectionFinding

/-- Mean turn in degrees and mean magnitude. -/
structure ReferenceQuality where
  driftDegrees : Float32
  magnitude : Float32
  deriving DecidableEq, Repr

def wrapPhase (phase : Float32) : Float32 :=
  Binary32.euclideanRemainder (phase + pi) (2 * pi) - pi

def sumFloats (xs : List Float32) : Float32 :=
  xs.foldl (fun acc x => acc + x) 0

def ReferenceQuality.measure [Trigonometry] (reference : List Phasor) : Located ReferenceQuality :=
  if reference.length < 2 then
    .error (.degenerateSignal .statisticsNeedTwoSamples)
  else
    let turns := (neighbours reference).map fun (earlier, later) =>
      wrapPhase (later.arg - earlier.arg)
    let drift := sumFloats turns / Float32.ofNat (reference.length - 1)
    .ok {
      driftDegrees := toDegrees drift
      magnitude := sumFloats (reference.map Phasor.norm) / Float32.ofNat reference.length }

end DirectionFinding
