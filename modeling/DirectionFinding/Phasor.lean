import DirectionFinding.Number.Single
import DirectionFinding.Number.Trigonometry

/-!
Complex numbers in binary32: an IQ sample has its in-phase part as real and its quadrature part as
imaginary part. Each operation is the textbook formula, rounded after every step; the product names
its operands in the order in which a part that is no number is passed on.
-/
namespace DirectionFinding

structure Phasor where
  re : Single
  im : Single
  deriving DecidableEq, Repr

namespace Phasor

instance : Zero Phasor := ⟨⟨0, 0⟩⟩

instance : Inhabited Phasor := ⟨0⟩

instance : Add Phasor := ⟨fun a b => ⟨a.re + b.re, a.im + b.im⟩⟩

instance : Sub Phasor := ⟨fun a b => ⟨a.re - b.re, a.im - b.im⟩⟩

instance : Mul Phasor :=
  ⟨fun a b => ⟨a.re * b.re - a.im * b.im, a.re * b.im + a.im * b.re⟩⟩

def ofParts (re im : Float32) : Phasor :=
  ⟨.number re, .number im⟩

def normSq (z : Phasor) : Single :=
  z.re * z.re + z.im * z.im

instance : Div Phasor :=
  ⟨fun a b =>
    let n := b.normSq
    ⟨(a.re * b.re + a.im * b.im) / n, (a.im * b.re - a.re * b.im) / n⟩⟩

instance : HMul Phasor Float32 Phasor := ⟨fun z k => ⟨z.re * .number k, z.im * .number k⟩⟩

def isFinite (z : Phasor) : Bool :=
  z.re.value.isFinite && z.im.value.isFinite

def isUsable (z : Phasor) : Bool :=
  z.isFinite && !(z.normSq.value == 0)

variable [Trigonometry]

def arg (z : Phasor) : Float32 :=
  Trigonometry.atan2 z.im.value z.re.value

def norm (z : Phasor) : Float32 :=
  Trigonometry.hypot z.re.value z.im.value

def unit (angle : Float32) : Phasor :=
  ofParts (Trigonometry.cos angle) (Trigonometry.sin angle)

end Phasor

end DirectionFinding
