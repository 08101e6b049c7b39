import DirectionFinding.Smoothing.Compass
import DirectionFinding.Smoothing.Ring

/-!
Filters for one stream of angles: the mean of a window, the weighted mean of a window, and the
exponential filter. An update answers with its outcome and with the filter after it, also when the
angle is refused. The windows are kept as vectors; the exponential filter works on degrees, and a
track that crosses 0° is dragged through 180°.
-/
namespace DirectionFinding

/-- Cells of a window; it holds one value less. -/
def windowCells : Nat := 20

abbrev Window (V : Type) := Ring V windowCells

/-- Mean of a window with its running sum: the vector that leaves is subtracted, the one that
enters is added. -/
structure WindowMean (V : Type) where
  window : Window V
  sum : V

namespace WindowMean

variable {V : Type}

def empty [Inhabited V] [Zero V] : WindowMean V where
  window := .empty
  sum := 0

def enter [Add V] [Sub V] (m : WindowMean V) (v : V) : WindowMean V :=
  let (dropped, window) := m.window.push v
  let sum :=
    match dropped with
    | some oldest => m.sum - oldest
    | none => m.sum
  { window := window, sum := sum + v }

def update [Add V] [Sub V] [Compass V] (m : WindowMean V) (degrees : Float32) :
    Located Float32 × WindowMean V :=
  match requireOnCircle degrees with
  | .error cause => (.error cause, m)
  | .ok () =>
    let next := m.enter (Compass.ofDegrees degrees)
    (.ok (Compass.toDegrees next.sum), next)

def reset [Zero V] (m : WindowMean V) : WindowMean V :=
  { window := m.window.reset, sum := 0 }

end WindowMean

/-- Weights for `n` values, oldest first: `a, 2a, …, na` with `a = 2 / (n (n + 1))`. -/
def linearWeights {S : Type} [Add S] [Mul S] [Div S] (ofNat : Nat → S) (n : Nat) : List S :=
  let first := if n = 0 then ofNat 0 else ofNat 2 / (ofNat n * (ofNat n + ofNat 1))
  (List.range n).map fun k => ofNat (k + 1) * first

def filterWeights (n : Nat) : List Float32 :=
  linearWeights Float32.ofNat n

def weightedSum {V S : Type} [Zero V] [Add V] [HMul V S V] (vectors : List V)
    (weights : List S) : V :=
  (List.zipWith (fun (v : V) (w : S) => v * w) vectors weights).foldl (fun acc v => acc + v) 0

structure WeightedMean (V : Type) where
  window : Window V

namespace WeightedMean

variable {V : Type}

def empty [Inhabited V] : WeightedMean V where
  window := .empty

def update [Zero V] [Add V] [HMul V Float32 V] [Compass V] (m : WeightedMean V)
    (degrees : Float32) : Located Float32 × WeightedMean V :=
  match requireOnCircle degrees with
  | .error cause => (.error cause, m)
  | .ok () =>
    let (_, window) := m.window.push (Compass.ofDegrees degrees)
    let held := window.toList
    (.ok (Compass.toDegrees (weightedSum held (filterWeights held.length))), ⟨window⟩)

def reset (m : WeightedMean V) : WeightedMean V :=
  ⟨m.window.reset⟩

end WeightedMean

/-- First-order filter on degrees: `alpha = 1` follows the input, `alpha = 0` stays at rest. -/
structure ExponentialFilter where
  alpha : Float32
  state : Float32
  deriving DecidableEq, Repr

namespace ExponentialFilter

def ofAlpha (alpha : Float32) : Located ExponentialFilter :=
  if 0 ≤ alpha ∧ alpha ≤ 1 then .ok ⟨alpha, 0⟩
  else .error (.invalidArgument (.coefficientOutsideUnit alpha))

def update (f : ExponentialFilter) (degrees : Float32) : Located Float32 × ExponentialFilter :=
  match requireOnCircle degrees with
  | .error cause => (.error cause, f)
  | .ok () =>
    let state := f.state - f.alpha * (f.state - degrees)
    (.ok state, { f with state := state })

def reset (f : ExponentialFilter) : ExponentialFilter :=
  { f with state := 0 }

end ExponentialFilter

end DirectionFinding
