import DirectionFinding.Error
import DirectionFinding.Phasor

/-!
Angles on the circle and the vectors that stand for them. Averages are taken of vectors, so that
350° and 10° meet at 0° and not at 180°.
-/
namespace DirectionFinding

/-- Refuses angles outside the half-open circle of 360°, and what is no number. -/
def requireOnCircle (degrees : Float32) : Located Unit :=
  if 0 ≤ degrees ∧ degrees < 360 then .ok ()
  else .error (.invalidArgument (.angleOutsideCircle degrees))

class Compass (V : Type) where
  ofDegrees : Float32 → V
  toDegrees : V → Float32

namespace Phasor

variable [Trigonometry]

/-- Angle of a vector on the circle. A vector just below the real axis would round up to 360°, and
counts as 0°. -/
def heading (v : Phasor) : Float32 :=
  let degrees := toDegrees v.arg
  let degrees := if degrees < 0 then degrees + 360 else degrees
  if 360 ≤ degrees then 0 else degrees

instance : Compass Phasor where
  ofDegrees degrees := unit (toRadians degrees)
  toDegrees := heading

end Phasor

def headingVector [Trigonometry] (degrees : Float32) : Located Phasor := do
  requireOnCircle degrees
  return Compass.ofDegrees degrees

end DirectionFinding
