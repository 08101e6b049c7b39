import DirectionFinding.Number.Binary32
import Mathlib

/-!
The order of binary32. A number stands at a height, the count of units of 2⁻¹⁴⁹ from zero, and
comparing numbers is comparing heights; infinity stands where the next exponent would begin. What is
no number compares with nothing, so a comparison that holds says that both sides are numbers.
-/
namespace DirectionFinding

namespace Binary32

open Float.Model Float.Model.UnpackedFloat

/-- A significand and an exponent as rounding leaves them: 24 bits are used, or the exponent is the
lowest one. -/
structure IsRounded (m : Nat) (e : Int) : Prop where
  upper : m < 2 ^ 24
  lowest : -149 ≤ e
  filled : 2 ^ 23 ≤ m ∨ e = -149

structure IsCanonical (m : Nat) (e : Int) : Prop extends IsRounded m e where
  highest : e ≤ 104

def Canonical : UnpackedFloat → Prop
  | .finite _ m e _ => IsCanonical m e
  | _ => True

def magnitude (m : Nat) (e : Int) : Nat :=
  m * 2 ^ (e + 149).toNat

def ceiling : Nat :=
  2 ^ 24 * 2 ^ 253

def heightOf : UnpackedFloat → Int
  | .notANumber | .zero _ => 0
  | .infinity s => s.apply ceiling
  | .finite s m e _ => s.apply (magnitude m e)

def height (x : Float32) : Int :=
  heightOf x.toModel.unpack

private theorem unpack_canonical (b : BitVec Format.binary32.numBits) :
    Canonical (UnpackedFloat.unpack Format.binary32 b) := by
  have bias : Format.binary32.exponentBias = 127 := by decide
  have low : (unpackMantissa b).toNat < 2 ^ 23 := (unpackMantissa b).isLt
  have high : (unpackExponent b).toNat < 2 ^ 8 := (unpackExponent b).isLt
  simp only [UnpackedFloat.unpack, bias]
  split
  · split <;> trivial
  · rename_i notTop
    split
    · split
      · trivial
      · rename_i bottom _
        refine ⟨⟨by omega, ?_, .inr ?_⟩, ?_⟩ <;> rw [bottom] <;> decide
    · rename_i notBottom
      have joined : (1#1 ++ unpackMantissa b).toNat = 2 ^ 23 + (unpackMantissa b).toNat := by
        rw [BitVec.toNat_append, ← Nat.shiftLeft_add_eq_or_of_lt (BitVec.isLt _)]
        rfl
      have raised : (unpackExponent b).toNat ≠ 0 := fun zero =>
        notBottom (BitVec.eq_of_toNat_eq zero)
      have lowered : (unpackExponent b).toNat ≠ 255 := fun top =>
        notTop (BitVec.eq_of_toNat_eq top)
      exact ⟨⟨by omega, by push_cast; omega, .inl (by omega)⟩, by push_cast; omega⟩

theorem canonical (x : Float32) : Canonical x.toModel.unpack :=
  unpack_canonical _

section magnitude
variable {m n : Nat} {e f : Int}

theorem magnitude_pos (positive : 0 < m) (e : Int) : 0 < magnitude m e :=
  Nat.mul_pos positive (Nat.two_pow_pos _)

theorem IsRounded.magnitude_lt_iff (rounded : IsRounded m e) : magnitude m e < ceiling ↔ e ≤ 104 := by
  have lowest := rounded.lowest
  constructor
  · intro below
    by_contra high
    have filled : 2 ^ 23 ≤ m := rounded.filled.resolve_right (by omega)
    have above : ceiling ≤ magnitude m e := by
      calc ceiling = 2 ^ 23 * 2 ^ 254 := by decide
        _ ≤ m * 2 ^ (e + 149).toNat :=
          Nat.mul_le_mul filled (Nat.pow_le_pow_right (by decide) (by omega))
    omega
  · intro highest
    calc magnitude m e < 2 ^ 24 * 2 ^ (e + 149).toNat :=
          Nat.mul_lt_mul_of_pos_right rounded.upper (Nat.two_pow_pos _)
      _ ≤ 2 ^ 24 * 2 ^ 253 := Nat.mul_le_mul_left _ (Nat.pow_le_pow_right (by decide) (by omega))

theorem IsCanonical.magnitude_lt (canonical : IsCanonical m e) : magnitude m e < ceiling :=
  canonical.magnitude_lt_iff.mpr canonical.highest

theorem IsRounded.magnitude_lt_of_lt (rounded : IsRounded m e) (other : IsRounded n f)
    (below : e < f) : magnitude m e < magnitude n f := by
  have lowest := rounded.lowest
  have filled : 2 ^ 23 ≤ n := other.filled.resolve_right (by omega)
  calc magnitude m e < 2 ^ 24 * 2 ^ (e + 149).toNat :=
        Nat.mul_lt_mul_of_pos_right rounded.upper (Nat.two_pow_pos _)
    _ = 2 ^ 23 * 2 ^ ((e + 149).toNat + 1) := by ring
    _ ≤ n * 2 ^ (f + 149).toNat :=
        Nat.mul_le_mul filled (Nat.pow_le_pow_right (by decide) (by omega))

private theorem IsRounded.compare_magnitude (rounded : IsRounded m e) (other : IsRounded n f) :
    (compare e f).then (compare m n) = compare (magnitude m e : Int) (magnitude n f) := by
  rcases Int.lt_trichotomy e f with below | rfl | above
  · rw [Int.compare_eq_lt.mpr below, Int.compare_eq_lt.mpr
      (Int.ofNat_lt.mpr (rounded.magnitude_lt_of_lt other below))]
    rfl
  · have power : 0 < 2 ^ (e + 149).toNat := Nat.two_pow_pos _
    rw [Std.compare_self, magnitude, magnitude]
    rcases Nat.lt_trichotomy m n with less | rfl | greater
    · rw [Nat.compare_eq_lt.mpr less, Int.compare_eq_lt.mpr
        (Int.ofNat_lt.mpr (Nat.mul_lt_mul_of_pos_right less power))]
      rfl
    · rw [Std.compare_self, Std.compare_self]
      rfl
    · rw [Nat.compare_eq_gt.mpr greater, Int.compare_eq_gt.mpr
        (Int.ofNat_lt.mpr (Nat.mul_lt_mul_of_pos_right greater power))]
      rfl
  · rw [Int.compare_eq_gt.mpr above, Int.compare_eq_gt.mpr
      (Int.ofNat_lt.mpr (other.magnitude_lt_of_lt rounded above))]
    rfl

end magnitude

private theorem compare_neg (a b : Int) : compare (-a) (-b) = (compare a b).swap := by
  rcases Int.lt_trichotomy a b with less | rfl | greater
  · rw [Int.compare_eq_lt.mpr less, Int.compare_eq_gt.mpr (by omega)]
    rfl
  · rw [Std.compare_self, Std.compare_self]
    rfl
  · rw [Int.compare_eq_gt.mpr greater, Int.compare_eq_lt.mpr (by omega)]
    rfl

/-- Signs decide first, then exponents, then significands; heights say all of it at once. -/
theorem compare_eq {u v : UnpackedFloat} (canonical : Canonical u) (other : Canonical v) :
    UnpackedFloat.compare u v =
      if u.isNaN ∨ v.isNaN then none else some (compare (heightOf u) (heightOf v)) := by
  have less {a b : Int} (below : a < b) : some Ordering.lt = some (compare a b) :=
    congrArg some (Int.compare_eq_lt.mpr below).symm
  have greater {a b : Int} (above : b < a) : some Ordering.gt = some (compare a b) :=
    congrArg some (Int.compare_eq_gt.mpr above).symm
  have topmost : 0 < ceiling := by decide
  cases u with
  | notANumber => rfl
  | infinity s =>
    cases v with
    | notANumber => cases s <;> rfl
    | infinity t => cases s <;> cases t <;> rfl
    | zero t => cases s <;> rfl
    | finite t n f positive =>
      have bounded := IsCanonical.magnitude_lt other
      cases s <;> cases t <;> first
        | exact less (by simp only [heightOf, Sign.apply]; omega)
        | exact greater (by simp only [heightOf, Sign.apply]; omega)
  | zero s =>
    cases v with
    | notANumber => rfl
    | infinity t => cases t <;> rfl
    | zero t => rfl
    | finite t n f positive =>
      have above := magnitude_pos positive f
      cases t <;> first
        | exact less (by simp only [heightOf, Sign.apply]; omega)
        | exact greater (by simp only [heightOf, Sign.apply]; omega)
  | finite s m e positive =>
    have above := magnitude_pos positive e
    have bounded := IsCanonical.magnitude_lt canonical
    cases v with
    | notANumber => rfl
    | infinity t =>
      cases s <;> cases t <;> first
        | exact less (by simp only [heightOf, Sign.apply]; omega)
        | exact greater (by simp only [heightOf, Sign.apply]; omega)
    | zero t =>
      cases s <;> first
        | exact less (by simp only [heightOf, Sign.apply]; omega)
        | exact greater (by simp only [heightOf, Sign.apply]; omega)
    | finite t n f positive' =>
      have above' := magnitude_pos positive' f
      have compared := canonical.compare_magnitude other.toIsRounded
      cases s <;> cases t
      · refine congrArg some ?_
        rw [compared]
        exact (compare_neg _ _).symm
      · exact less (by simp only [heightOf, Sign.apply]; omega)
      · exact greater (by simp only [heightOf, Sign.apply]; omega)
      · exact congrArg some compared

section
variable {x y z : Float32}

theorem lt_iff : x < y ↔ x.isNaN = false ∧ y.isNaN = false ∧ height x < height y := by
  have compared : x < y ↔
      (UnpackedFloat.compare x.toModel.unpack y.toModel.unpack == some .lt) = true :=
    decide_eq_true_iff
  rw [compared, compare_eq (canonical x) (canonical y)]
  change _ ↔ x.toModel.unpack.isNaN = false ∧ y.toModel.unpack.isNaN = false ∧
    heightOf x.toModel.unpack < heightOf y.toModel.unpack
  split_ifs with strange
  · rcases strange with strange | strange <;> simp [strange]
  · rw [not_or, Bool.not_eq_true, Bool.not_eq_true] at strange
    simp [strange, Int.compare_eq_lt]

theorem le_iff : x ≤ y ↔ x.isNaN = false ∧ y.isNaN = false ∧ height x ≤ height y := by
  have compared : x ≤ y ↔
      ((UnpackedFloat.compare x.toModel.unpack y.toModel.unpack).any (·.isLE)) = true :=
    decide_eq_true_iff
  rw [compared, compare_eq (canonical x) (canonical y)]
  change _ ↔ x.toModel.unpack.isNaN = false ∧ y.toModel.unpack.isNaN = false ∧
    heightOf x.toModel.unpack ≤ heightOf y.toModel.unpack
  split_ifs with strange
  · rcases strange with strange | strange <;> simp [strange]
  · rw [not_or, Bool.not_eq_true, Bool.not_eq_true] at strange
    simp [strange, Int.isLE_compare]

theorem beq_iff : (x == y) = true ↔ x.isNaN = false ∧ y.isNaN = false ∧ height x = height y := by
  have compared : (x == y) = true ↔
      (UnpackedFloat.compare x.toModel.unpack y.toModel.unpack == some .eq) = true := Iff.rfl
  rw [compared, compare_eq (canonical x) (canonical y)]
  change _ ↔ x.toModel.unpack.isNaN = false ∧ y.toModel.unpack.isNaN = false ∧
    heightOf x.toModel.unpack = heightOf y.toModel.unpack
  split_ifs with strange
  · rcases strange with strange | strange <;> simp [strange]
  · rw [not_or, Bool.not_eq_true, Bool.not_eq_true] at strange
    simp [strange]

theorem isFinite_iff :
    x.isFinite = true ↔ x.isNaN = false ∧ -ceiling < height x ∧ height x < ceiling := by
  have canonical := canonical x
  have topmost : 0 < ceiling := by decide
  change x.toModel.unpack.isFinite = true ↔ x.toModel.unpack.isNaN = false ∧
    -ceiling < heightOf x.toModel.unpack ∧ heightOf x.toModel.unpack < ceiling
  generalize x.toModel.unpack = u at *
  cases u with
  | notANumber => decide
  | infinity s => cases s <;> simp [UnpackedFloat.isFinite, heightOf, Sign.apply]
  | zero s => simp [UnpackedFloat.isFinite, UnpackedFloat.isNaN, heightOf, topmost]
  | finite s m e positive =>
    have bounded := IsCanonical.magnitude_lt canonical
    cases s <;>
      simp only [UnpackedFloat.isFinite, UnpackedFloat.isNaN, heightOf, Sign.apply, true_iff,
        true_and] <;>
      omega

theorem height_le (x : Float32) : height x ≤ ceiling := by
  have canonical := canonical x
  rw [height]
  generalize x.toModel.unpack = u at *
  cases u with
  | notANumber | zero s => exact Int.natCast_nonneg ceiling
  | infinity s => cases s <;> simp only [heightOf, Sign.apply] <;> omega
  | finite s m e positive =>
    have bounded := IsCanonical.magnitude_lt canonical
    cases s <;> simp only [heightOf, Sign.apply] <;> omega

theorem dvd_height {k : Nat} {x : Float32} (finite : x.isFinite = true)
    (long : (2 ^ (k + 23) : Nat) ≤ height x) : ((2 ^ k : Nat) : Int) ∣ height x := by
  have canonical := canonical x
  change x.toModel.unpack.isFinite = true at finite
  rw [height] at *
  generalize x.toModel.unpack = u at *
  cases u with
  | notANumber | infinity s => cases finite
  | zero s => exact dvd_zero _
  | finite s m e nonzero =>
    cases s with
    | negative =>
      have power : 0 < 2 ^ (k + 23) := Nat.two_pow_pos _
      have below : heightOf (.finite .negative m e nonzero) ≤ 0 :=
        Int.neg_nonpos_of_nonneg (Int.natCast_nonneg (magnitude m e))
      omega
    | positive =>
      have lowest := canonical.lowest
      have units : heightOf (.finite .positive m e nonzero) = (magnitude m e : Nat) := rfl
      rw [units] at long ⊢
      have above : 2 ^ (k + 23) < 2 ^ (24 + (e + 149).toNat) := by
        calc 2 ^ (k + 23) ≤ magnitude m e := Int.ofNat_le.mp long
          _ < 2 ^ 24 * 2 ^ (e + 149).toNat :=
              Nat.mul_lt_mul_of_pos_right canonical.upper (Nat.two_pow_pos _)
          _ = 2 ^ (24 + (e + 149).toNat) := (Nat.pow_add ..).symm
      have shorter := (Nat.pow_lt_pow_iff_right (by decide)).mp above
      exact Int.natCast_dvd_natCast.mpr (Dvd.dvd.mul_left (Nat.pow_dvd_pow 2 (by omega)) m)

theorem height_le_sub {k : Nat} {x : Float32} {limit : Int} (finite : x.isFinite = true)
    (spaced : ((2 ^ k : Nat) : Int) ∣ limit) (long : (2 ^ (k + 23) : Nat) ≤ limit - (2 ^ k : Nat))
    (below : height x < limit) : height x ≤ limit - (2 ^ k : Nat) := by
  by_cases high : (2 ^ (k + 23) : Nat) ≤ height x
  · have apart := Int.le_of_dvd (Int.sub_pos_of_lt below)
      (Int.dvd_sub spaced (dvd_height finite high))
    omega
  · omega

theorem isNumber (finite : x.isFinite = true) : x.isNaN = false :=
  (isFinite_iff.mp finite).1

theorem le_trans (below : x ≤ y) (above : y ≤ z) : x ≤ z := by
  rw [le_iff] at *
  exact ⟨below.1, above.2.1, Int.le_trans below.2.2 above.2.2⟩

theorem lt_of_lt_of_le (below : x < y) (above : y ≤ z) : x < z := by
  rw [lt_iff, le_iff] at *
  exact ⟨below.1, above.2.1, Int.lt_of_lt_of_le below.2.2 above.2.2⟩

theorem lt_of_le_of_lt (below : x ≤ y) (above : y < z) : x < z := by
  rw [lt_iff] at *
  rw [le_iff] at below
  exact ⟨below.1, above.2.1, Int.lt_of_le_of_lt below.2.2 above.2.2⟩

theorem le_of_not_lt (number : x.isNaN = false) (number' : y.isNaN = false) (above : ¬ x < y) :
    y ≤ x := by
  rw [lt_iff] at above
  rw [le_iff]
  exact ⟨number', number, Int.not_lt.mp fun below => above ⟨number, number', below⟩⟩

theorem lt_of_not_le (number : x.isNaN = false) (number' : y.isNaN = false) (above : ¬ x ≤ y) :
    y < x := by
  rw [le_iff] at above
  rw [lt_iff]
  exact ⟨number', number, Int.not_le.mp fun below => above ⟨number, number', below⟩⟩

theorem le_of_lt (below : x < y) : x ≤ y := by
  rw [lt_iff] at below
  exact le_iff.mpr ⟨below.1, below.2.1, below.2.2.le⟩

theorem isFinite_of_between (lower : x ≤ y) (upper : y ≤ z) (finite : x.isFinite = true)
    (finite' : z.isFinite = true) : y.isFinite = true := by
  rw [isFinite_iff] at *
  rw [le_iff] at *
  exact ⟨lower.2.1, Int.lt_of_lt_of_le finite.2.1 lower.2.2, Int.lt_of_le_of_lt upper.2.2 finite'.2.2⟩

inductive IsAbove : UnpackedFloat → Prop where
  | infinite : IsAbove (.infinity .positive)
  | finite (m : Nat) (e : Int) (positive : 0 < m) : IsAbove (.finite .positive m e positive)

theorem pos_iff : 0 < x ↔ IsAbove x.toModel.unpack := by
  have compared : 0 < x ↔
      (UnpackedFloat.compare (.zero .positive) x.toModel.unpack == some .lt) = true :=
    decide_eq_true_iff
  rw [compared]
  constructor
  · intro less
    cases unpacked : x.toModel.unpack with
    | notANumber =>
      rw [unpacked] at less
      cases less
    | infinity s | zero s | finite s =>
      rw [unpacked] at less
      cases s
      all_goals first | exact .infinite | exact .finite _ _ _ | cases less
  · intro above
    generalize x.toModel.unpack = u at above
    cases above <;> rfl

end

end Binary32

end DirectionFinding
