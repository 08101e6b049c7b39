import DirectionFinding.Proofs.Number.Rounding

/-!
Bounds on sums, differences, products and quotients in binary32. An operation on finite numbers
rounds the exact height of its result, so it is a number, possibly infinite, and it keeps the order
of its operands.
-/
namespace DirectionFinding

namespace Binary32

open Float.Model Float.Model.UnpackedFloat

section unpacked
variable {u v : UnpackedFloat}

theorem isNaN_roundWithAccuracy (s : Sign) (m : Nat) (e : Int) (accuracy : Accuracy) :
    (roundWithAccuracy Format.binary32 s m e accuracy).isNaN = false := by
  simp only [roundWithAccuracy]
  split <;> rfl

private theorem isNaN_normalize (z e : Int) :
    (UnpackedFloat.normalize Format.binary32 z e .positive).isNaN = false := by
  simp only [UnpackedFloat.normalize]
  split
  · exact isNaN_roundWithAccuracy ..
  · rfl
  · exact isNaN_roundWithAccuracy ..

private theorem decrease_magnitude {m : Nat} {e f : Int} (below : f ≤ e) (lowest : -149 ≤ f) :
    fineUnits (decreaseExponent m e f).1 f = magnitude m e * one := by
  have split : (e + 298).toNat = (e - f).toNat + (f + 298).toNat := by omega
  rw [← fineUnits_eq m (Int.le_trans lowest below), fineUnits, fineUnits, split, Nat.pow_add,
    decreaseExponent, Nat.shiftLeft_eq, Nat.mul_assoc]

private theorem packedHeight_add (canonical : Canonical u) (other : Canonical v)
    (finite : u.isFinite = true) (finite' : v.isFinite = true) :
    packedHeight (UnpackedFloat.add Format.binary32 u v) =
      settle ((heightOf u + heightOf v) * one) := by
  have nothing (s : Sign) : heightOf (.zero s) = 0 := rfl
  cases u with
  | notANumber | infinity s => cases finite
  | zero s =>
    rw [nothing, Int.zero_add]
    cases v with
    | notANumber | infinity t => cases finite'
    | zero t => cases s <;> cases t <;> rfl
    | finite t n f positive =>
      rw [other.settle_height, ← other.packedHeight]
      rfl
  | finite s m e positive =>
    cases v with
    | notANumber | infinity t => cases finite'
    | zero t =>
      rw [nothing, Int.add_zero, canonical.settle_height, ← canonical.packedHeight]
      rfl
    | finite t n f positive' =>
      -- Both significands are brought to the lower exponent, where they are added exactly.
      have lowest := canonical.lowest
      have lowest' := other.lowest
      have first := decrease_magnitude (m := m) (Int.min_le_left e f) (by omega)
      have second := decrease_magnitude (m := n) (Int.min_le_right e f) (by omega)
      have sum := packedHeight_normalize (s.apply (decreaseExponent m e (min e f)).1 +
        t.apply (decreaseExponent n f (min e f)).1) (show -298 ≤ min e f by omega)
      refine Eq.trans sum (congrArg settle ?_)
      rw [heightOf, heightOf, Int.add_mul, Int.add_mul, apply_mul, apply_mul, apply_mul, apply_mul,
        ← first, ← second]
      rfl

private theorem apply_neg (s : Sign) (z : Int) : (-s).apply z = -s.apply z := by
  cases s
  · exact (Int.neg_neg z).symm
  · rfl

private theorem heightOf_neg (u : UnpackedFloat) : heightOf u.neg = -heightOf u := by
  cases u with
  | notANumber | zero s => rfl
  | infinity s | finite s m e positive => exact apply_neg ..

theorem Canonical.neg (canonical : Canonical u) : Canonical u.neg := by
  cases u with
  | notANumber | infinity s | zero s => trivial
  | finite s m e positive => exact canonical

private theorem isFinite_neg (u : UnpackedFloat) : u.neg.isFinite = u.isFinite := by
  cases u <;> rfl

private theorem sub_eq_add_neg (u v : UnpackedFloat) :
    UnpackedFloat.sub Format.binary32 u v = UnpackedFloat.add Format.binary32 u v.neg := by
  cases u with
  | notANumber => rfl
  | infinity s | zero s => cases v <;> rfl
  | finite s m e positive =>
    cases v with
    | notANumber | infinity t | zero t => rfl
    | finite t n f positive' =>
      simp only [UnpackedFloat.sub, UnpackedFloat.add, UnpackedFloat.neg, apply_neg,
        Int.sub_eq_add_neg]

private theorem packedHeight_sub (canonical : Canonical u) (other : Canonical v)
    (finite : u.isFinite = true) (finite' : v.isFinite = true) :
    packedHeight (UnpackedFloat.sub Format.binary32 u v) =
      settle ((heightOf u - heightOf v) * one) := by
  rw [sub_eq_add_neg, packedHeight_add canonical other.neg finite ((isFinite_neg v).trans finite'),
    heightOf_neg, Int.sub_eq_add_neg]

private theorem packedHeight_mul (canonical : Canonical u) (other : Canonical v)
    (finite : u.isFinite = true) (finite' : v.isFinite = true) :
    packedHeight (UnpackedFloat.mul Format.binary32 u v) = settle (heightOf u * heightOf v) := by
  have nothing (s : Sign) : heightOf (.zero s) = 0 := rfl
  cases u with
  | notANumber | infinity s => cases finite
  | zero s =>
    rw [nothing, Int.zero_mul, settle_zero]
    cases v with
    | notANumber | infinity t => cases finite'
    | zero t | finite t n f positive => exact packedHeight_zero (s * t)
  | finite s m e positive =>
    cases v with
    | notANumber | infinity t => cases finite'
    | zero t =>
      rw [nothing, Int.mul_zero, settle_zero]
      exact packedHeight_zero (s * t)
    | finite t n f positive' =>
      have lowest := canonical.lowest
      have lowest' := other.lowest
      have product : heightOf (.finite s m e positive) * heightOf (.finite t n f positive') =
          (s * t).apply (fineUnits (m * n) (e + f)) := by
        have split : (e + f + 298).toNat = (e + 149).toNat + (f + 149).toNat := by omega
        have magnitudes : fineUnits (m * n) (e + f) = magnitude m e * magnitude n f := by
          rw [fineUnits, split, Nat.pow_add, magnitude, magnitude]
          ring
        rw [magnitudes, heightOf, heightOf, Int.natCast_mul]
        cases s <;> cases t
        · exact Int.neg_mul_neg ..
        · exact Int.neg_mul ..
        · exact Int.mul_neg ..
        · rfl
      have length : m.log2 + n.log2 ≤ (m * n).log2 := by
        rw [Nat.le_log2 (Nat.mul_pos positive positive').ne', Nat.pow_add]
        exact Nat.mul_le_mul (Nat.log2_self_le positive.ne') (Nat.log2_self_le positive'.ne')
      have long : 23 ≤ m.log2 ∨ e = -149 := canonical.filled.imp_left (Nat.le_log2 positive.ne').mpr
      have long' : 23 ≤ n.log2 ∨ f = -149 := other.filled.imp_left (Nat.le_log2 positive'.ne').mpr
      rw [product]
      exact packedHeight_roundWithAccuracy (s * t) (Nat.mul_pos positive positive') (by omega)
        (by omega)

private theorem isNaN_unpackedAdd (finite : u.isFinite = true) (finite' : v.isFinite = true) :
    (UnpackedFloat.add Format.binary32 u v).isNaN = false := by
  cases u with
  | notANumber | infinity s => cases finite
  | zero s =>
    cases v with
    | notANumber | infinity t => cases finite'
    | zero t => cases s <;> cases t <;> rfl
    | finite t n f positive => rfl
  | finite s m e positive =>
    cases v with
    | notANumber | infinity t => cases finite'
    | zero t => rfl
    | finite t n f positive' => exact isNaN_normalize ..

private theorem isNaN_unpackedMul (finite : u.isFinite = true) (finite' : v.isFinite = true) :
    (UnpackedFloat.mul Format.binary32 u v).isNaN = false := by
  cases u with
  | notANumber | infinity s => cases finite
  | zero s =>
    cases v with
    | notANumber | infinity t => cases finite'
    | zero t | finite t n f positive => rfl
  | finite s m e positive =>
    cases v with
    | notANumber | infinity t => cases finite'
    | zero t => rfl
    | finite t n f positive' => exact isNaN_roundWithAccuracy ..

end unpacked

section
variable {x y : Float32}

theorem isNaN_add (finite : x.isFinite = true) (finite' : y.isFinite = true) :
    (x + y).isNaN = false :=
  (isNaN_unpack_pack _).trans (isNaN_unpackedAdd finite finite')

theorem height_add (finite : x.isFinite = true) (finite' : y.isFinite = true) :
    height (x + y) = settle ((height x + height y) * one) :=
  packedHeight_add (canonical x) (canonical y) finite finite'

theorem isNaN_sub (finite : x.isFinite = true) (finite' : y.isFinite = true) :
    (x - y).isNaN = false := by
  have opposite := (isFinite_neg y.toModel.unpack).trans finite'
  refine (isNaN_unpack_pack _).trans ?_
  rw [sub_eq_add_neg]
  exact isNaN_unpackedAdd finite opposite

theorem height_sub (finite : x.isFinite = true) (finite' : y.isFinite = true) :
    height (x - y) = settle ((height x - height y) * one) :=
  packedHeight_sub (canonical x) (canonical y) finite finite'

theorem isNaN_mul (finite : x.isFinite = true) (finite' : y.isFinite = true) :
    (x * y).isNaN = false :=
  (isNaN_unpack_pack _).trans (isNaN_unpackedMul finite finite')

theorem height_mul (finite : x.isFinite = true) (finite' : y.isFinite = true) :
    height (x * y) = settle (height x * height y) :=
  packedHeight_mul (canonical x) (canonical y) finite finite'

theorem settle_height (x : Float32) : settle (height x * one) = height x :=
  (canonical x).settle_height

end

theorem height_neg (x : Float32) : height (-x) = -height x :=
  (canonical x).neg.packedHeight.trans (heightOf_neg x.toModel.unpack)

theorem height_zero : height 0 = 0 :=
  rfl

theorem height_one : height 1 = one := by
  decide +kernel

theorem settle_one : settle (one * one : Nat) = one := by
  have whole := settle_height 1
  rwa [height_one] at whole

theorem zero_lt_one : (0 : Float32) < 1 := by
  decide +kernel

end Binary32

end DirectionFinding
