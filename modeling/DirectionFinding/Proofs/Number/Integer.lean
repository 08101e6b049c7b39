import DirectionFinding.Number.Binary32
import Mathlib

/-!
Whole numbers in binary32. A number of at most 23 significant bits converts without rounding, so
reading it gives its units back and rounding it changes nothing.
-/
namespace DirectionFinding

namespace Binary32

open Float.Model Float.Model.UnpackedFloat

theorem log2_shifted {m : Nat} (positive : 0 < m) (k : Nat) : (m * 2 ^ k).log2 = m.log2 + k := by
  rw [Nat.log2_eq_iff (Nat.mul_ne_zero positive.ne' (Nat.two_pow_pos _).ne'), Nat.pow_add]
  constructor
  · exact Nat.mul_le_mul_right _ (Nat.log2_self_le positive.ne')
  · rw [Nat.add_right_comm, Nat.pow_add]
    exact Nat.mul_lt_mul_of_pos_right Nat.lt_log2_self (Nat.two_pow_pos _)

theorem targetExponent_eq (m : Nat) (e : Int) :
    Format.binary32.targetExponent (totalExponent m e) = max (m.log2 + e - 23) (-149) := by
  have minimum : Format.binary32.minExponent = -149 := by decide
  have bits : Format.binary32.mantissaBits = 24 := by decide
  simp only [Format.targetExponent, totalExponent, minimum, bits]
  omega

structure IsNormal (significand : Nat) (exponent : Int) : Prop where
  lower : 2 ^ 23 ≤ significand
  upper : significand < 2 ^ 24
  lowest : -149 ≤ exponent
  highest : exponent ≤ 104

theorem IsNormal.pos {m : Nat} {e : Int} (normal : IsNormal m e) : 0 < m :=
  Nat.lt_of_lt_of_le (by decide) normal.lower

theorem IsNormal.log2 {m : Nat} {e : Int} (normal : IsNormal m e) : m.log2 = 23 :=
  (Nat.log2_eq_iff normal.pos.ne').mpr ⟨normal.lower, normal.upper⟩

private theorem shift_exact (m k : Nat) :
    (ExtendedMantissa.ofMantissaAndAccuracy (m * 2 ^ k) .exact >>> k) =
      ExtendedMantissa.ofMantissaAndAccuracy m .exact := by
  change Nat.repeat ExtendedMantissa.shiftRightOne k _ = _
  induction k generalizing m with
  | zero => simp [Nat.repeat]
  | succ k ih =>
    have doubled : m * 2 ^ (k + 1) = 2 * m * 2 ^ k := by ring
    rw [Nat.repeat, doubled, ih]
    simp [ExtendedMantissa.shiftRightOne, ExtendedMantissa.ofMantissaAndAccuracy]

private theorem IsNormal.shiftToTarget {m : Nat} {e : Int} (normal : IsNormal m e) (k : Nat) :
    shiftToTargetExponent Format.binary32 (m * 2 ^ k) (e - k) .exact =
      (ExtendedMantissa.ofMantissaAndAccuracy m .exact, e) := by
  have target : Format.binary32.targetExponent (totalExponent (m * 2 ^ k) (e - k)) = e := by
    have lowest := normal.lowest
    rw [targetExponent_eq, log2_shifted normal.pos, normal.log2]
    omega
  have amount : (e - (e - (k : Int))).toNat = k := by omega
  simp only [shiftToTargetExponent, target, shiftToExponent, amount, shift_exact,
    Int.sub_add_cancel]

/-- Rounding takes no bit from a normal number, even when zeros hang on its significand. -/
theorem IsNormal.roundWithAccuracy {m : Nat} {e : Int} (normal : IsNormal m e) (s : Sign) (k : Nat) :
    roundWithAccuracy Format.binary32 s (m * 2 ^ k) (e - k) .exact = .finite s m e normal.pos := by
  have again := normal.shiftToTarget 0
  simp only [Nat.pow_zero, Nat.mul_one, Int.natCast_zero, Int.sub_zero] at again
  have rounded : (ExtendedMantissa.ofMantissaAndAccuracy m .exact).roundedMantissa = m := rfl
  simp only [UnpackedFloat.roundWithAccuracy, normal.shiftToTarget, rounded, again]
  exact dif_neg normal.pos.ne'

theorem isNormal_shifted {n : Nat} (positive : 0 < n) (small : n < 2 ^ 24) :
    IsNormal (n * 2 ^ (23 - n.log2)) ((n.log2 : Int) - 23) := by
  have least : 2 ^ n.log2 ≤ n := Nat.log2_self_le positive.ne'
  have most : n < 2 ^ (n.log2 + 1) := Nat.lt_log2_self
  have bounded : n.log2 < 24 := (Nat.log2_lt positive.ne').mpr small
  have power : 0 < 2 ^ (23 - n.log2) := Nat.two_pow_pos _
  refine ⟨?_, ?_, by omega, by omega⟩
  · calc 2 ^ 23 = 2 ^ n.log2 * 2 ^ (23 - n.log2) := by
          rw [← Nat.pow_add, Nat.add_sub_cancel' (by omega)]
      _ ≤ n * 2 ^ (23 - n.log2) := Nat.mul_le_mul_right _ least
  · calc n * 2 ^ (23 - n.log2) < 2 ^ (n.log2 + 1) * 2 ^ (23 - n.log2) :=
          Nat.mul_lt_mul_of_pos_right most power
      _ = 2 ^ 24 := by
          rw [← Nat.pow_add]
          congr 1
          omega

private theorem round_whole {n : Nat} (positive : 0 < n) (small : n < 2 ^ 24) (s : Sign) :
    round Format.binary32 s n 0 =
      .finite s (n * 2 ^ (23 - n.log2)) ((n.log2 : Int) - 23) (isNormal_shifted positive small).pos := by
  have bounded : n.log2 < 24 := (Nat.log2_lt positive.ne').mpr small
  have target : Format.binary32.targetExponent (totalExponent n 0) = (n.log2 : Int) - 23 := by
    rw [targetExponent_eq]
    omega
  have amount : (0 - ((n.log2 : Int) - 23)).toNat = 23 - n.log2 := by omega
  have exponent : (0 : Int) - ((23 - n.log2 : Nat) : Int) = (n.log2 : Int) - 23 := by omega
  have exact := (isNormal_shifted positive small).roundWithAccuracy s 0
  simp only [Nat.pow_zero, Nat.mul_one, Int.natCast_zero, Int.sub_zero] at exact
  simp only [UnpackedFloat.round, target, decreaseExponent, amount, exponent, Nat.shiftLeft_eq, exact]

theorem IsNormal.mul_one {m : Nat} {e : Int} (normal : IsNormal m e) (s : Sign) :
    mul Format.binary32 (.finite s m e normal.pos)
      (.finite .positive (2 ^ 23) (-23) (by decide)) = .finite s m e normal.pos := by
  have signs : s * .positive = s := by cases s <;> rfl
  simp only [UnpackedFloat.mul, signs]
  exact normal.roundWithAccuracy s 23

theorem IsNormal.pack {m : Nat} {e : Int} (normal : IsNormal m e) (s : Sign) :
    UnpackedFloat.pack Format.binary32 (.finite s m e normal.pos) =
      packComponents Format.binary32 s (BitVec.ofNat 8 (e + 150).toNat) (BitVec.ofNat 23 m) := by
  have lowest := normal.lowest
  have highest := normal.highest
  have bias : Format.binary32.exponentBias = 127 := by decide
  have bits : Format.binary32.mantissaBits = 24 := by decide
  have biased : e + (127 : Nat) + (23 : Nat) = e + 150 := by omega
  have unfilled : ¬ 2 ^ 8 ≤ (e + 150).toNat + 1 := by omega
  have filled : m.log2 + 1 = 24 := by rw [normal.log2]
  simp only [UnpackedFloat.pack, bias, bits, biased, if_neg unfilled, if_pos filled]

private theorem toNat_packComponents (s : Sign) (e : BitVec 8) (m : BitVec 23) :
    (packComponents Format.binary32 s e m).toNat =
      s.toBitVec.toNat * 2 ^ 31 + e.toNat * 2 ^ 23 + m.toNat := by
  have joined : (s.toBitVec ++ e).toNat = s.toBitVec.toNat * 2 ^ 8 + e.toNat := by
    rw [BitVec.toNat_append, ← Nat.shiftLeft_add_eq_or_of_lt e.isLt, Nat.shiftLeft_eq]
  rw [packComponents, BitVec.toNat_append, ← Nat.shiftLeft_add_eq_or_of_lt m.isLt, joined,
    Nat.shiftLeft_eq]
  ring

theorem IsNormal.unpack_pack {m : Nat} {e : Int} (normal : IsNormal m e) (s : Sign) :
    UnpackedFloat.unpack Format.binary32
        (UnpackedFloat.pack Format.binary32 (.finite s m e normal.pos)) =
      .finite s m e normal.pos := by
  have lower := normal.lower
  have upper := normal.upper
  have lowest := normal.lowest
  have highest := normal.highest
  have exponent : (BitVec.ofNat 8 (e + 150).toNat).toNat = (e + 150).toNat := by
    rw [BitVec.toNat_ofNat, Nat.mod_eq_of_lt (by omega)]
  have notTop : BitVec.ofNat 8 (e + 150).toNat ≠ -1#8 := by
    intro top
    have := congrArg BitVec.toNat top
    rw [exponent] at this
    simp at this
    omega
  have notBottom : BitVec.ofNat 8 (e + 150).toNat ≠ 0#8 := by
    intro bottom
    have := congrArg BitVec.toNat bottom
    rw [exponent] at this
    simp at this
    omega
  have significand : (1#1 ++ BitVec.ofNat 23 m).toNat = m := by
    rw [BitVec.toNat_append, ← Nat.shiftLeft_add_eq_or_of_lt (BitVec.isLt _), BitVec.toNat_ofNat]
    simp
    omega
  have bias : Format.binary32.exponentBias = 127 := by decide
  have unbiased : ((e + 150).toNat : Int) - ((127 : Nat) + (23 : Nat)) = e := by omega
  rw [normal.pack]
  simp only [UnpackedFloat.unpack, unpackMantissa_packComponents, unpackExponent_packComponents,
    unpackSign_packComponents, Sign.ofBitVec_toBitVec, if_neg notTop, if_neg notBottom, exponent, bias,
    unbiased, significand]

def wholeModel (s : Sign) (n : Nat) (positive : 0 < n) (small : n < 2 ^ 24) : Float32.Model :=
  .pack (.finite s (n * 2 ^ (23 - n.log2)) ((n.log2 : Int) - 23)
    (isNormal_shifted positive small).pos)

theorem unpack_wholeModel (s : Sign) {n : Nat} (positive : 0 < n) (small : n < 2 ^ 24) :
    (wholeModel s n positive small).unpack =
      .finite s (n * 2 ^ (23 - n.log2)) ((n.log2 : Int) - 23) (isNormal_shifted positive small).pos :=
  (isNormal_shifted positive small).unpack_pack s

private theorem normalize_whole {n : Nat} (positive : 0 < n) (small : n < 2 ^ 24) :
    Float32.Model.ofNat n = wholeModel .positive n positive small := by
  have above : compare (n : Int) 0 = .gt := Int.compare_eq_gt.mpr (by omega)
  simp only [Float32.Model.ofNat, UnpackedFloat.ofNat, UnpackedFloat.ofInt, UnpackedFloat.normalize,
    above, Int.toNat_natCast, round_whole positive small]
  rfl

theorem toModel_ofNat {n : Nat} (positive : 0 < n) (small : n < 2 ^ 23) :
    (Float32.ofNat n).toModel = wholeModel .positive n positive (by omega) := by
  have normal := isNormal_shifted positive (show n < 2 ^ 24 by omega)
  have whole : n.toUInt64.toFloat32.toModel = wholeModel .positive n positive (by omega) := by
    rw [← normalize_whole]
    have kept : n.toUInt64.toNat = n := by
      rw [Nat.toUInt64, UInt64.toNat_ofNat', Nat.mod_eq_of_lt (by omega)]
    change Float32.Model.ofNat n.toUInt64.toNat = _
    rw [kept]
  have one : (Float32.ofBits 0x3F800000).toModel.unpack =
      .finite .positive (2 ^ 23) (-23) (by decide) := rfl
  have product : Float32.ofNat n = n.toUInt64.toFloat32 * Float32.ofBits 0x3F800000 :=
    dif_pos ⟨small, by decide⟩
  rw [product]
  change Float32.Model.pack (mul Format.binary32 n.toUInt64.toFloat32.toModel.unpack
    (Float32.ofBits 0x3F800000).toModel.unpack) = _
  rw [whole, one, unpack_wholeModel, normal.mul_one]
  rfl

def isNegative : Sign → Bool
  | .negative => true
  | .positive => false

private theorem toNat_pack {m : Nat} {e : Int} (normal : IsNormal m e) (s : Sign) :
    (Float32.Model.pack (.finite s m e normal.pos)).toBits.toNat =
      (isNegative s).toNat * 0x80000000 + (e + 150).toNat * 0x800000 + (m - 0x800000) := by
  have lower := normal.lower
  have upper := normal.upper
  have lowest := normal.lowest
  have highest := normal.highest
  change (UnpackedFloat.pack Format.binary32 (.finite s m e normal.pos)).toNat = _
  have sign : s.toBitVec.toNat = (isNegative s).toNat := by cases s <;> rfl
  rw [normal.pack, toNat_packComponents, sign, BitVec.toNat_ofNat, BitVec.toNat_ofNat]
  omega

private theorem read_normal {x : Float32} {m : Nat} {e : Int} (normal : IsNormal m e) {s : Sign}
    (packed : x.toModel = .pack (.finite s m e normal.pos)) :
    read x = .finite (isNegative s) (m <<< (e + 149).toNat) := by
  have lower := normal.lower
  have upper := normal.upper
  have lowest := normal.lowest
  have highest := normal.highest
  have bits : x.toBits.toNat = _ := (congrArg (·.toBits.toNat) packed).trans (toNat_pack normal s)
  have low : (isNegative s).toNat ≤ 1 := Bool.toNat_le _
  have exponent : x.toBits.toNat / 0x800000 % 0x100 = (e + 150).toNat := by omega
  have fraction : x.toBits.toNat % 0x800000 = m - 0x800000 := by omega
  have sign : decide (0x80000000 ≤ x.toBits.toNat) = isNegative s := by
    cases s <;> simp only [isNegative, Bool.toNat_true, Bool.toNat_false] at bits ⊢ <;>
      simp only [decide_eq_true_eq, decide_eq_false_iff_not] <;> omega
  have below : (e + 150).toNat ≠ 255 := by omega
  have above : (e + 150).toNat ≠ 0 := by omega
  have significand : 0x800000 + (m - 0x800000) = m := by omega
  have shift : (e + 150).toNat - 1 = (e + 149).toNat := by omega
  simp only [read, exponent, fraction, sign, if_neg below, unitsOf, if_neg above, significand, shift]

theorem read_wholeModel {x : Float32} {n : Nat} {s : Sign} (positive : 0 < n) (small : n < 2 ^ 24)
    (packed : x.toModel = wholeModel s n positive small) :
    read x = .finite (isNegative s) (n * one) := by
  have bounded : n.log2 < 24 := (Nat.log2_lt positive.ne').mpr small
  have shift : ((n.log2 : Int) - 23 + 149).toNat = n.log2 + 126 := by omega
  rw [read_normal (isNormal_shifted positive small) packed, shift, one, Nat.shiftLeft_eq,
    Nat.shiftLeft_eq, Nat.one_mul, Nat.mul_assoc, ← Nat.pow_add]
  congr 3
  omega

private theorem read_ofInt {n : Int} (nonzero : n ≠ 0) (small : n.natAbs < 2 ^ 23) :
    read (Float32.ofInt n) = .finite (decide (n < 0)) (n.natAbs * one) := by
  match n with
  | .ofNat n =>
    have positive : 0 < n := by
      simp only [Int.ofNat_eq_natCast] at nonzero
      omega
    have sign : decide (Int.ofNat n < 0) = false :=
      decide_eq_false (Int.not_lt.mpr (Int.natCast_nonneg n))
    rw [sign]
    exact read_wholeModel positive _ (toModel_ofNat positive small)
  | .negSucc n =>
    have positive : 0 < n + 1 := Nat.succ_pos n
    have packed := toModel_ofNat positive small
    have negated : (Float32.ofInt (.negSucc n)).toModel =
        wholeModel .negative (n + 1) positive (Nat.lt_trans small (by decide)) := by
      change Float32.Model.pack ((Float32.ofNat (n + 1)).toModel.unpack.neg) = _
      rw [packed, unpack_wholeModel]
      rfl
    have sign : decide (Int.negSucc n < 0) = true := decide_eq_true (Int.negSucc_lt_zero n)
    rw [sign]
    exact read_wholeModel positive _ negated

theorem roundWithin_ofInt {low high n : Int} (above : low ≤ n) (below : n ≤ high)
    (small : n.natAbs < 2 ^ 23) : roundWithin low high (Float32.ofInt n) = n := by
  have within : saturate low high n = n := by
    rw [saturate, min_eq_right below, max_eq_right above]
  by_cases zero : n = 0
  · subst zero
    have units : read (Float32.ofInt 0) = .finite false 0 := rfl
    have rounded : signed false ((2 * 0 + one) / (2 * one)) = 0 := by decide
    simp only [roundWithin, units, rounded, within]
  · have halves : (2 * (n.natAbs * one) + one) / (2 * one) = n.natAbs := by
      have positive : 0 < one := by decide
      have split : 2 * (n.natAbs * one) + one = one * (2 * n.natAbs + 1) := by ring
      rw [split, Nat.mul_comm 2 one, Nat.mul_div_mul_left _ _ positive]
      omega
    have joined : signed (decide (n < 0)) n.natAbs = n := by
      by_cases negative : n < 0
      · simp only [negative, decide_true, signed, if_true]
        omega
      · simp only [negative, decide_false, signed, Bool.false_eq_true, if_false]
        omega
    simp only [roundWithin, read_ofInt zero small, halves, joined, within]

end Binary32

end DirectionFinding
