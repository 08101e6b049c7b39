import DirectionFinding.Number.Binary32

/-!
Decimal text of binary32 numbers: the shortest decimal that reads back as the same number, and
the correctly rounded decimal with a fixed number of places. Both are chosen in exact integer
arithmetic on units, and both are written positionally, never with an exponent.
-/
namespace DirectionFinding.Decimal
open Binary32

structure Scaled where
  digits : Nat
  exponent : Int
  deriving DecidableEq, Repr

def Scaled.trim : Nat → Scaled → Scaled
  | 0, s => s
  | steps + 1, s =>
    if s.digits ≠ 0 ∧ s.digits % 10 = 0 then trim steps ⟨s.digits / 10, s.exponent + 1⟩ else s

/-- Position of the leading decimal digit of a positive number of units: zero for the units place.
Sixty further places bring the smallest positive number above one. -/
def leadingPlace (units : Nat) : Int :=
  ((Nat.repr (units * Nat.pow 10 60 / one)).length : Int) - 61

/-- The reals that round to one binary32 number, in quarter units. -/
structure Neighbourhood where
  low : Nat
  high : Nat
  closed : Bool

/-- Half a step to each side; below a power of two the steps are half as long. The ends belong to
the number with the even significand. -/
def Neighbourhood.around (units : Nat) : Neighbourhood :=
  let shift := units.log2 - 23
  let step := 1 <<< shift
  let below := if units = 0x800000 * step ∧ 0 < shift then step else 2 * step
  { low := 4 * units - below
    high := 4 * units + 2 * step
    closed := units / step % 2 == 0 }

def Scaled.quarterUnits (s : Scaled) : Nat × Nat :=
  if 0 ≤ s.exponent then (s.digits * Nat.pow 10 s.exponent.toNat * (4 * one), 1)
  else (s.digits * (4 * one), Nat.pow 10 (-s.exponent).toNat)

def Neighbourhood.holds (n : Neighbourhood) (s : Scaled) : Bool :=
  let (num, den) := s.quarterUnits
  if n.closed then n.low * den ≤ num && num ≤ n.high * den
  else n.low * den < num && num < n.high * den

def gridFloor (units : Nat) (exponent : Int) : Nat :=
  if 0 ≤ exponent then units / (one * Nat.pow 10 exponent.toNat)
  else units * Nat.pow 10 (-exponent).toNat / one

def upperNearer (units : Nat) (exponent : Int) (floor : Nat) : Bool :=
  if 0 ≤ exponent then (2 * floor + 1) * (one * Nat.pow 10 exponent.toNat) ≤ 2 * units
  else (2 * floor + 1) * one ≤ 2 * units * Nat.pow 10 (-exponent).toNat

/-- First grid, from coarse to fine, with a point that reads back; of two such points the nearer,
and the upper one of a tie. -/
def searchGrids (units : Nat) (n : Neighbourhood) : Nat → Int → Scaled
  | 0, exponent => ⟨gridFloor units exponent, exponent⟩
  | grids + 1, exponent =>
    let floor := gridFloor units exponent
    let lower : Scaled := ⟨floor, exponent⟩
    let upper : Scaled := ⟨floor + 1, exponent⟩
    if n.holds lower then
      if n.holds upper && upperNearer units exponent floor then upper else lower
    else if n.holds upper then upper
    else searchGrids units n grids (exponent - 1)

/-- The shortest decimal that reads back as a positive number of units. Nine digits always do. -/
def shortest (units : Nat) : Scaled :=
  (searchGrids units (.around units) 9 (leadingPlace units)).trim 60

def Scaled.positional (s : Scaled) : String :=
  let digits := Nat.repr s.digits
  if 0 ≤ s.exponent then
    digits ++ String.ofList (List.replicate s.exponent.toNat '0')
  else
    let places := (-s.exponent).toNat
    let padded := List.replicate (places + 1 - digits.length) '0' ++ digits.toList
    let whole := padded.length - places
    String.ofList (padded.take whole) ++ "." ++ String.ofList (padded.drop whole)

def signText (negative : Bool) : String :=
  if negative then "-" else ""

/-- The shortest text that reads back as the same number: whole numbers carry no point, zero keeps
its sign. -/
def text (x : Float32) : String :=
  match read x with
  | .nan => "NaN"
  | .infinite negative => signText negative ++ "inf"
  | .finite negative units =>
    signText negative ++ (if units = 0 then "0" else (shortest units).positional)

/-- Nearest integer to a quotient, a tie going to the even neighbour. -/
def roundQuotient (num den : Nat) : Nat :=
  let floor := num / den
  let twice := 2 * (num % den)
  if twice < den then floor
  else if den < twice then floor + 1
  else floor + floor % 2

/-- Text with a fixed number of places; the exact value is rounded, a tie to the even digit. -/
def fixed (places : Nat) (x : Float32) : String :=
  match read x with
  | .nan => "NaN"
  | .infinite negative => signText negative ++ "inf"
  | .finite negative units =>
    let scaled : Scaled := ⟨roundQuotient (units * Nat.pow 10 places) one, -(places : Int)⟩
    signText negative ++ scaled.positional

def alignRight (width : Nat) (s : String) : String :=
  String.ofList (List.replicate (width - s.length) ' ') ++ s

end DirectionFinding.Decimal
