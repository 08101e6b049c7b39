/-!
Exact reading of binary32 numbers. A finite number is a sign and a whole number of units of
2⁻¹⁴⁹, the smallest positive binary32 number, so truncation, rounding to integers and remainders
are integer arithmetic on units. What the processor rounds by itself (sums, products, quotients)
stays with `Float32`.
-/
namespace DirectionFinding

inductive Binary32 where
  | nan
  | infinite (negative : Bool)
  | finite (negative : Bool) (units : Nat)
  deriving DecidableEq, Repr

namespace Binary32

def one : Nat := 1 <<< 149

def unitsOf (exponent fraction : Nat) : Nat :=
  if exponent = 0 then fraction else (0x800000 + fraction) <<< (exponent - 1)

def read (x : Float32) : Binary32 :=
  let bits := x.toBits.toNat
  let negative := decide (0x80000000 ≤ bits)
  let exponent := bits / 0x800000 % 0x100
  let fraction := bits % 0x800000
  if exponent = 255 then
    if fraction = 0 then .infinite negative else .nan
  else
    .finite negative (unitsOf exponent fraction)

/-- The number holding `units` units, for a count with at most 24 significant bits. The fields of
the format join without a gap: shifting the exponent in and adding the significand carries its
leading bit into the exponent. -/
def pack (negative : Bool) (units : Nat) : Float32 :=
  let shift := units.log2 - 23
  let magnitude := shift * 0x800000 + units >>> shift
  Float32.ofBits (UInt32.ofNat (if negative then 0x80000000 + magnitude else magnitude))

def signed (negative : Bool) (magnitude : Nat) : Int :=
  if negative then -(magnitude : Int) else magnitude

def saturate (low high n : Int) : Int :=
  max low (min high n)

/-- Integer part, saturated at both bounds; not-a-number counts as zero. -/
def truncateWithin (low high : Int) (x : Float32) : Int :=
  match read x with
  | .nan => 0
  | .infinite negative => if negative then low else high
  | .finite negative units => saturate low high (signed negative (units / one))

/-- Nearest integer with halves away from zero, saturated at both bounds; not-a-number counts as
zero. -/
def roundWithin (low high : Int) (x : Float32) : Int :=
  match read x with
  | .nan => 0
  | .infinite negative => if negative then low else high
  | .finite negative units => saturate low high (signed negative ((2 * units + one) / (2 * one)))

def truncate32 (x : Float32) : Int :=
  truncateWithin (-2147483648) 2147483647 x

def round16 (x : Float32) : Int :=
  roundWithin (-32768) 32767 x

def notANumber : Float32 := Float32.ofBits 0x7fc00000

/-- Exact remainder of the division toward zero, with the sign of the dividend. -/
def remainder (x modulus : Float32) : Float32 :=
  match read x, read modulus with
  | .finite negative units, .finite _ unitsOfModulus =>
    if unitsOfModulus = 0 then notANumber else pack negative (units % unitsOfModulus)
  | .finite _ _, .infinite _ => x
  | _, _ => notANumber

/-- Remainder that is never below zero; the correction of a negative remainder is one rounded
addition. -/
def euclideanRemainder (x modulus : Float32) : Float32 :=
  let r := remainder x modulus
  if r < 0 then r + modulus.abs else r

end Binary32

end DirectionFinding
