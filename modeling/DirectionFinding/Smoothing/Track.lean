import DirectionFinding.Number.DecimalReader
import DirectionFinding.Smoothing.Filter
import DirectionFinding.Text.LowerCase

/-!
The angle history of one tracked transmitter: two filters of one mode, for azimuth and elevation,
behind a gate that lets a step pass only as a whole.
-/
namespace DirectionFinding

inductive Smoothing where
  | none
  | mean
  | exponential (alpha : Float32)
  | weighted
  deriving DecidableEq, Repr

namespace Smoothing

/-- Reads a mode in any case. A refused coefficient is quoted in lower case, an unknown mode as it
was given. -/
def ofText (s : String) : Except String Smoothing :=
  let lower := lowerCase s
  if lower = "none" then .ok .none
  else if lower = "mean" ∨ lower = "circular-mean" then .ok .mean
  else if lower = "fir" then .ok .weighted
  else
    match lower.toList with
    | 'i' :: 'i' :: 'r' :: ':' :: coefficient =>
      let coefficient := String.ofList coefficient
      match DecimalReader.read coefficient with
      | .ok alpha => .ok (.exponential alpha)
      | .error _ => .error ("Invalid IIR coefficient: " ++ coefficient)
    | _ => .error ("Invalid smoothing mode: " ++ s)

end Smoothing

inductive AngleFilter (V : Type) where
  | none
  | mean (filter : WindowMean V)
  | exponential (filter : ExponentialFilter)
  | weighted (filter : WeightedMean V)

namespace AngleFilter

variable {V : Type} [Inhabited V] [Zero V] [Add V] [Sub V] [HMul V Float32 V] [Compass V]

def ofMode : Smoothing → Located (AngleFilter V)
  | .none => .ok .none
  | .mean => .ok (.mean .empty)
  | .exponential alpha => (ExponentialFilter.ofAlpha alpha).map .exponential
  | .weighted => .ok (.weighted .empty)

def update (filter : AngleFilter V) (degrees : Float32) : Located Float32 × AngleFilter V :=
  match filter with
  | .none => (.ok degrees, .none)
  | .mean f => (f.update degrees).map id .mean
  | .exponential f => (f.update degrees).map id .exponential
  | .weighted f => (f.update degrees).map id .weighted

def reset : AngleFilter V → AngleFilter V
  | .none => .none
  | .mean f => .mean f.reset
  | .exponential f => .exponential f.reset
  | .weighted f => .weighted f.reset

end AngleFilter

/-- Azimuth and, if it was measured, elevation, in degrees. -/
structure Angles where
  azimuth : Float32
  elevation : Option Float32 := none
  deriving DecidableEq, Repr, Inhabited

structure Track (V : Type) where
  mode : Smoothing
  azimuth : AngleFilter V
  elevation : AngleFilter V
  steps : Nat

namespace Track

variable {V : Type} [Inhabited V] [Zero V] [Add V] [Sub V] [HMul V Float32 V] [Compass V]

def ofMode (mode : Smoothing) : Located (Track V) := do
  let azimuth ← AngleFilter.ofMode mode
  let elevation ← AngleFilter.ofMode mode
  return { mode := mode, azimuth := azimuth, elevation := elevation, steps := 0 }

def reset (t : Track V) : Track V :=
  { t with azimuth := t.azimuth.reset, elevation := t.elevation.reset, steps := 0 }

def requireAngles (raw : Angles) : Located Unit := do
  requireOnCircle raw.azimuth
  match raw.elevation with
  | some elevation => requireOnCircle elevation
  | none => .ok ()

/-- Smooths a pair of angles. The filters move one after the other and do not move back; both
angles are examined before either filter moves. -/
def step (t : Track V) (raw : Angles) : Located Angles × Track V :=
  match requireAngles raw with
  | .error cause => (.error cause, t)
  | .ok () =>
    match t.azimuth.update raw.azimuth with
    | (.error cause, azimuth) => (.error cause, { t with azimuth := azimuth })
    | (.ok smoothed, azimuth) =>
      match raw.elevation with
      | none => (.ok ⟨smoothed, none⟩, { t with azimuth := azimuth, steps := t.steps + 1 })
      | some degrees =>
        match t.elevation.update degrees with
        | (.error cause, elevation) =>
          (.error cause, { t with azimuth := azimuth, elevation := elevation })
        | (.ok smoothedElevation, elevation) =>
          (.ok ⟨smoothed, some smoothedElevation⟩,
            { t with azimuth := azimuth, elevation := elevation, steps := t.steps + 1 })

end Track

end DirectionFinding
