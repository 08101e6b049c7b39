/-!
The functions of a binary32 mathematics library that the processor does not supply. They are a
parameter of everything that measures or turns a phase: what is proved of a result may rest on
their ranges, never on their last digit.
-/
namespace DirectionFinding

class Trigonometry where
  sin : Float32 → Float32
  cos : Float32 → Float32
  acos : Float32 → Float32
  atan2 : Float32 → Float32 → Float32
  hypot : Float32 → Float32 → Float32

namespace Trigonometry

/-- Distance by one rounding of the double precision root; an infinite side outweighs a side that
is no number. -/
def roundedHypot (x y : Float32) : Float32 :=
  if x.isInf || y.isInf then Float32.ofBits 0x7f800000
  else
    let a := x.toFloat
    let b := y.toFloat
    (a * a + b * b).sqrt.toFloat32

@[reducible] def platform : Trigonometry where
  sin := Float32.sin
  cos := Float32.cos
  acos := Float32.acos
  atan2 := Float32.atan2
  hypot := roundedHypot

end Trigonometry

/-- The number nearest to the circle constant. -/
def pi : Float32 := Float32.ofBits 0x40490fdb

/-- Degrees to radians, by the quotient of the circle constant and 180. -/
def toRadians (degrees : Float32) : Float32 :=
  degrees * (pi / 180)

/-- Radians to degrees, by the number nearest to 180 over the circle constant. -/
def toDegrees (radians : Float32) : Float32 :=
  radians * Float32.ofBits 0x42652ee1

end DirectionFinding
