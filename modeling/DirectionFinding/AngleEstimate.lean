import DirectionFinding.Drift
import DirectionFinding.LaneSum
import DirectionFinding.Smoothing.Track

/-!
Angle of arrival from the phase between two antennas. The samples of each antenna are summed, the
angle between the sums is the phase, and the phase over the distance in wavelengths is the cosine
of the angle between the wave and the axis of the pair.
-/
namespace DirectionFinding

/-- Two antennas and their distance in meters. -/
structure AntennaPair where
  a : Antenna
  b : Antenna
  distance : Float32
  deriving DecidableEq, Repr

def isPositive (x : Float32) : Bool :=
  x.isFinite && 0 < x

namespace AntennaPair

def validate (p : AntennaPair) : Located Unit :=
  if !isPositive p.distance then
    .error (.invalidArgument (.distanceNotPositive p.distance))
  else if p.a = p.b ∨ !p.a.isValid ∨ !p.b.isValid then
    .error (.invalidArgument (.pairNotDistinct p.a p.b))
  else .ok ()

def checked (a b : Antenna) (distance : Float32) : Located AntennaPair := do
  let pair : AntennaPair := ⟨a, b, distance⟩
  pair.validate
  return pair

end AntennaPair

structure AnglePairs where
  azimuth : AntennaPair := ⟨⟨12⟩, ⟨1⟩, 0.05⟩
  elevation : Option AntennaPair := none
  deriving DecidableEq, Repr

def AnglePairs.validate (p : AnglePairs) : Located Unit := do
  p.azimuth.validate
  match p.elevation with
  | some pair => pair.validate
  | none => .ok ()

/-- Speed of the wave in meters per second. -/
def waveSpeed : Float32 := 299792458

section
variable [Trigonometry]

def antennaSum (slots : List (Slot Phasor)) (antenna : Antenna) : Phasor :=
  slots.foldl (fun sum slot => if slot.antenna = antenna then sum + laneSum slot.samples else sum) 0

def pairSampleCount (slots : List (Slot Phasor)) (a b : Antenna) : Nat :=
  total (slots.map fun slot =>
    if slot.antenna = a ∨ slot.antenna = b then slot.samples.length else 0)

/-- Phase from antenna `b` to antenna `a` in radians, and the number of samples it rests on. -/
def phaseDifference (burst : SlottedBurst Phasor) (a b : Antenna) : Located (Float32 × Nat) := do
  if a = b then
    throw (.invalidArgument (.sameAntennaTwice a))
  burst.requireStored
  let sumA := antennaSum burst.slots a
  let sumB := antennaSum burst.slots b
  if !sumA.isUsable then
    throw (.degenerateSignal .silentFirstAntenna)
  if !sumB.isUsable then
    throw (.degenerateSignal .silentSecondAntenna)
  return ((sumA / sumB).arg, pairSampleCount burst.slots a b)

/-- Restricts a number to the closed range from -1 to 1; what is no number stays so. -/
def clampUnit (x : Float32) : Float32 :=
  if x < -1 then -1 else if 1 < x then 1 else x

/-- Angle between the antenna axis and the wave, in degrees. No phase is broadside, 90°. -/
def phaseToAngle (phase distance hertz : Float32) : Located Float32 :=
  if !phase.isFinite then
    .error (.invalidArgument (.phaseNotFinite phase))
  else if !isPositive distance then
    .error (.invalidArgument (.distanceNotPositive distance))
  else if !isPositive hertz then
    .error (.invalidArgument (.frequencyNotPositive hertz))
  else
    let cosine := (phase * waveSpeed) / (2 * pi * hertz * distance)
    .ok (toDegrees (Trigonometry.acos (clampUnit cosine)))

structure AngleEstimate where
  phase : Float32
  angles : Angles
  samplesUsed : Nat
  deriving DecidableEq, Repr

def pairAngle (burst : SlottedBurst Phasor) (pair : AntennaPair) :
    Located (Float32 × Nat × Float32) := do
  let hertz := Float32.ofNat burst.frequency.toNat * 1000000
  let (phase, count) ← phaseDifference burst pair.a pair.b
  let angle ← phaseToAngle phase pair.distance hertz
  return (phase, count, angle)

def estimateAngles (burst : SlottedBurst Phasor) (pairs : AnglePairs) : Located AngleEstimate := do
  let (phase, count, azimuth) ← pairAngle burst pairs.azimuth
  match pairs.elevation with
  | none => return ⟨phase, ⟨azimuth, none⟩, count⟩
  | some pair =>
    let (_, _, elevation) ← pairAngle burst pair
    return ⟨phase, ⟨azimuth, some elevation⟩, count⟩

end

end DirectionFinding
