import DirectionFinding.Proofs.Number.Integer
import DirectionFinding.Proofs.Number.Order

/-!
Rounding in binary32. Sums and products of numbers are whole counts of units of 2⁻²⁹⁸, so rounding is
a function from such counts to heights. It keeps the order and changes no number of the format,
which is all that bounds on rounded results need.
-/
namespace DirectionFinding

namespace Binary32

open Float.Model Float.Model.UnpackedFloat

/-- The whole number nearest to `n / 2 ^ k`, the even one of two. -/
def nearestEven (k n : Nat) : Nat :=
  let floor := n / 2 ^ k
  let rest := n % 2 ^ k
  if 2 * rest < 2 ^ k then floor
  else if 2 ^ k < 2 * rest then floor + 1
  else floor + floor % 2

theorem le_nearestEven (k n : Nat) : n / 2 ^ k ≤ nearestEven k n := by
  simp only [nearestEven]
  split_ifs <;> omega

theorem nearestEven_le (k n : Nat) : nearestEven k n ≤ n / 2 ^ k + 1 := by
  simp only [nearestEven]
  split_ifs <;> omega

private theorem nearestEven_mul (k n : Nat) : nearestEven k (n * 2 ^ k) = n := by
  have power : 0 < 2 ^ k := Nat.two_pow_pos k
  simp only [nearestEven, Nat.mul_mod_left, Nat.mul_div_cancel _ power, Nat.mul_zero, if_pos power]

private theorem two_mul_nearestEven (k n : Nat) :
    2 * n ≤ 2 * (nearestEven k n * 2 ^ k) + 2 ^ k ∧ 2 * (nearestEven k n * 2 ^ k) ≤ 2 * n + 2 ^ k := by
  have split : n / 2 ^ k * 2 ^ k + n % 2 ^ k = n := Nat.div_add_mod' n (2 ^ k)
  have parity : n / 2 ^ k % 2 = 0 ∨ n / 2 ^ k % 2 = 1 := Nat.mod_two_eq_zero_or_one _
  simp only [nearestEven]
  split_ifs with below above
  · omega
  · rw [Nat.add_mul]
    omega
  · rcases parity with even | odd
    · rw [even, Nat.add_zero]
      omega
    · rw [odd, Nat.add_mul]
      omega

private theorem nearestEven_mono (k : Nat) {n m : Nat} (below : n ≤ m) :
    nearestEven k n ≤ nearestEven k m := by
  rcases Nat.lt_or_eq_of_le (Nat.div_le_div_right (c := 2 ^ k) below) with apart | same
  · exact Nat.le_trans (nearestEven_le k n) (Nat.le_trans apart (le_nearestEven k m))
  · -- On one floor the remainders are in order.
    have rests : n % 2 ^ k ≤ m % 2 ^ k := by
      have := Nat.div_add_mod n (2 ^ k)
      have := Nat.div_add_mod m (2 ^ k)
      rw [same] at *
      omega
    simp only [nearestEven, same]
    split_ifs <;> omega

private theorem nearestEven_shifted (k j m : Nat) :
    nearestEven (k + j) (m * 2 ^ j) = nearestEven k m := by
  have power : 0 < 2 ^ j := Nat.two_pow_pos j
  have floor : m * 2 ^ j / 2 ^ (k + j) = m / 2 ^ k := by
    rw [Nat.pow_add, Nat.mul_div_mul_right _ _ power]
  have rest : m * 2 ^ j % 2 ^ (k + j) = m % 2 ^ k * 2 ^ j := by
    rw [Nat.pow_add, Nat.mul_mod_mul_right]
  have below : 2 * (m % 2 ^ k * 2 ^ j) < 2 ^ (k + j) ↔ 2 * (m % 2 ^ k) < 2 ^ k := by
    rw [Nat.pow_add, ← Nat.mul_assoc, Nat.mul_lt_mul_right power]
  have above : 2 ^ (k + j) < 2 * (m % 2 ^ k * 2 ^ j) ↔ 2 ^ k < 2 * (m % 2 ^ k) := by
    rw [Nat.pow_add, ← Nat.mul_assoc, Nat.mul_lt_mul_right power]
  simp only [nearestEven, floor, rest, below, above]

/-- Bits that 24 significant bits leave over, and that a multiple of 2⁻¹⁴⁹ cannot hold, of a count of
units of 2⁻²⁹⁸. -/
def excess (n : Nat) : Nat :=
  max (n.log2 - 23) 149

/-- A count of units of 2⁻²⁹⁸ rounded to a magnitude. -/
def roundUnits (n : Nat) : Nat :=
  nearestEven (excess n) n * 2 ^ (excess n - 149)

private theorem excess_mono {n m : Nat} (below : n ≤ m) : excess n ≤ excess m := by
  have longer : n.log2 ≤ m.log2 := by
    rw [Nat.log2_eq_log_two, Nat.log2_eq_log_two]
    exact Nat.log_mono_right below
  simp only [excess]
  omega

private theorem floor_lt (n : Nat) : n / 2 ^ excess n < 2 ^ 24 := by
  rw [Nat.div_lt_iff_lt_mul (Nat.two_pow_pos _)]
  calc n < 2 ^ (n.log2 + 1) := Nat.lt_log2_self
    _ ≤ 2 ^ (24 + excess n) := Nat.pow_le_pow_right (by decide) (by simp only [excess]; omega)
    _ = 2 ^ 24 * 2 ^ excess n := Nat.pow_add ..

private theorem le_floor {n : Nat} (long : 149 < excess n) : 2 ^ 23 ≤ n / 2 ^ excess n := by
  have nonzero : n ≠ 0 := by
    rintro rfl
    exact absurd long (by decide)
  have least : n.log2 = 23 + excess n := by
    simp only [excess] at long ⊢
    omega
  rw [Nat.le_div_iff_mul_le (Nat.two_pow_pos _), ← Nat.pow_add, ← least]
  exact Nat.log2_self_le nonzero

private theorem roundUnits_mono {n m : Nat} (below : n ≤ m) : roundUnits n ≤ roundUnits m := by
  rcases Nat.lt_or_eq_of_le (excess_mono below) with apart | same
  · -- A longer number starts where the shorter ones end.
    have least : 149 ≤ excess n := Nat.le_max_right _ _
    calc roundUnits n ≤ 2 ^ 24 * 2 ^ (excess n - 149) :=
          Nat.mul_le_mul_right _ (Nat.le_trans (nearestEven_le _ _) (floor_lt n))
      _ = 2 ^ 23 * 2 ^ (excess n - 149 + 1) := by ring
      _ ≤ nearestEven (excess m) m * 2 ^ (excess m - 149) :=
          Nat.mul_le_mul (Nat.le_trans (le_floor (by omega)) (le_nearestEven _ _))
            (Nat.pow_le_pow_right (by decide) (by omega))
  · rw [roundUnits, roundUnits, same]
    exact Nat.mul_le_mul_right _ (nearestEven_mono _ below)

theorem one_eq : one = 2 ^ 149 := by
  rw [one, Nat.shiftLeft_eq, Nat.one_mul]

theorem roundUnits_mul_one (z : Nat) :
    roundUnits (z * one) = nearestEven (z.log2 - 23) z * 2 ^ (z.log2 - 23) := by
  rcases Nat.eq_zero_or_pos z with rfl | positive
  · decide +kernel
  · have taken : excess (z * one) = z.log2 - 23 + 149 := by
      rw [excess, one_eq, log2_shifted positive]
      omega
    rw [roundUnits, taken, one_eq, nearestEven_shifted, Nat.add_sub_cancel]

/-- Units of 2⁻²⁹⁸ of a significand at an exponent. -/
def fineUnits (m : Nat) (e : Int) : Nat :=
  m * 2 ^ (e + 298).toNat

theorem fineUnits_eq (m : Nat) {e : Int} (lowest : -149 ≤ e) :
    fineUnits m e = magnitude m e * one := by
  have split : (e + 298).toNat = (e + 149).toNat + 149 := by omega
  rw [fineUnits, magnitude, one, Nat.shiftLeft_eq, Nat.one_mul, Nat.mul_assoc, ← Nat.pow_add, split]

private theorem excess_fineUnits {m : Nat} (positive : 0 < m) (e : Int) :
    excess (fineUnits m e) = max (m.log2 + (e + 298).toNat - 23) 149 := by
  rw [excess, fineUnits, log2_shifted positive]

theorem IsRounded.roundUnits {m : Nat} {e : Int} (rounded : IsRounded m e) (positive : 0 < m) :
    roundUnits (fineUnits m e) = magnitude m e := by
  have lowest := rounded.lowest
  have short : m.log2 < 24 := (Nat.log2_lt positive.ne').mpr rounded.upper
  have filled : 23 ≤ m.log2 ∨ e = -149 := rounded.filled.imp_left (Nat.le_log2 positive.ne').mpr
  have taken : excess (fineUnits m e) = (e + 298).toNat := by
    rw [excess_fineUnits positive]
    omega
  have kept : (e + 298).toNat - 149 = (e + 149).toNat := by omega
  rw [Binary32.roundUnits, taken, fineUnits, nearestEven_mul, magnitude, kept]

/-- The bits a shift drops are kept as far as rounding asks for them: the first one, and whether
there is another. -/
theorem shifted_bits (m k : Nat) :
    let em := ExtendedMantissa.ofMantissaAndAccuracy m .exact >>> k
    em.mantissa = m / 2 ^ k ∧ (em.roundBit = true ↔ 2 ^ k ≤ 2 * (m % 2 ^ k)) ∧
      (em.stickyBit = true ↔ m % 2 ^ k ≠ 0 ∧ 2 * (m % 2 ^ k) ≠ 2 ^ k) := by
  simp only [HShiftRight.hShiftRight]
  induction k with
  | zero => simp [Nat.repeat, ExtendedMantissa.ofMantissaAndAccuracy, Nat.mod_one]
  | succ k ih =>
    obtain ⟨mantissa, roundBit, stickyBit⟩ := ih
    have power : 0 < 2 ^ k := Nat.two_pow_pos k
    have rest : m % 2 ^ k < 2 ^ k := Nat.mod_lt _ power
    have split : m % 2 ^ (k + 1) = m % 2 ^ k + 2 ^ k * (m / 2 ^ k % 2) := by
      rw [Nat.pow_succ, Nat.mod_mul]
    simp only [Nat.repeat, ExtendedMantissa.shiftRightOne, mantissa, Nat.div_div_eq_div_mul,
      ← Nat.pow_succ, split, Bool.or_eq_true, roundBit, stickyBit, true_and, bne_iff_ne]
    rcases Nat.mod_two_eq_zero_or_one (m / 2 ^ k) with even | odd
    · rw [even, Nat.pow_succ]
      omega
    · rw [odd, Nat.pow_succ]
      omega

private theorem roundedMantissa_shifted (m k : Nat) :
    (ExtendedMantissa.ofMantissaAndAccuracy m .exact >>> k).roundedMantissa = nearestEven k m := by
  obtain ⟨mantissa, roundBit, stickyBit⟩ := shifted_bits m k
  have power : 0 < 2 ^ k := Nat.two_pow_pos k
  generalize ExtendedMantissa.ofMantissaAndAccuracy m .exact >>> k = em at *
  rcases em with ⟨q, _ | _, _ | _⟩ <;>
    simp only [Bool.false_eq_true, false_iff, true_iff, not_and_or] at mantissa roundBit stickyBit <;>
    simp only [ExtendedMantissa.roundedMantissa, ExtendedMantissa.accuracy,
      Accuracy.roundToNearestEven, nearestEven, mantissa] <;>
    split_ifs <;> omega

private theorem shiftToTarget_eq {m : Nat} {e : Int} {k : Nat}
    (amount : (max (m.log2 + e - 23) (-149) - e).toNat = k) :
    shiftToTargetExponent Format.binary32 m e .exact =
      (ExtendedMantissa.ofMantissaAndAccuracy m .exact >>> k, e + k) := by
  simp only [shiftToTargetExponent, shiftToExponent, targetExponent_eq, amount]

theorem exists_rounded {m : Nat} {e : Int} (s : Sign) (positive : 0 < m) (lowest : -298 ≤ e)
    (enough : e ≤ max (m.log2 + e - 23) (-149)) :
    ∃ n f, IsRounded n f ∧ magnitude n f = roundUnits (fineUnits m e) ∧
      roundWithAccuracy Format.binary32 s m e .exact =
        if h : n = 0 then .zero s else .finite s n f (Nat.pos_of_ne_zero h) := by
  obtain ⟨k, target⟩ : ∃ k : Nat, max (m.log2 + e - 23) (-149) = e + k :=
    ⟨(max (m.log2 + e - 23) (-149) - e).toNat, by omega⟩
  have taken : excess (fineUnits m e) = k + (e + 298).toNat := by
    rw [excess_fineUnits positive]
    omega
  have floor : fineUnits m e / 2 ^ excess (fineUnits m e) = m / 2 ^ k := by
    rw [taken, fineUnits, Nat.pow_add, Nat.mul_div_mul_right _ _ (Nat.two_pow_pos _)]
  have units : roundUnits (fineUnits m e) = magnitude (nearestEven k m) (e + k) := by
    have kept : (e + k + 149).toNat = excess (fineUnits m e) - 149 := by omega
    rw [magnitude, kept, roundUnits, taken, fineUnits, nearestEven_shifted]
  have length : m / 2 ^ k < 2 ^ 24 := floor ▸ floor_lt (fineUnits m e)
  have filled : 2 ^ 23 ≤ m / 2 ^ k ∨ e + k = -149 := by
    by_cases bottom : e + k = -149
    · exact .inr bottom
    · exact .inl (floor ▸ le_floor (by omega))
  have above := le_nearestEven k m
  have below := nearestEven_le k m
  have first := shiftToTarget_eq (show (max (m.log2 + e - 23) (-149) - e).toNat = k by omega)
  simp only [roundWithAccuracy, first, roundedMantissa_shifted]
  by_cases carried : nearestEven k m = 2 ^ 24
  · -- The carry has one bit too many, and its last bit is zero.
    refine ⟨2 ^ 23, e + k + 1, ⟨by decide, by omega, .inl (Nat.le_refl _)⟩, ?_, ?_⟩
    · have doubled : (e + k + 1 + 149).toNat = (e + k + 149).toNat + 1 := by omega
      rw [units, carried, magnitude, magnitude, doubled]
      ring
    · have again := shiftToTarget_eq (m := 2 ^ 24) (e := e + k) (k := 1)
        (by rw [Nat.log2_two_pow]; omega)
      have half : (ExtendedMantissa.ofMantissaAndAccuracy (2 ^ 24) .exact >>> 1).mantissa =
        2 ^ 23 := rfl
      simp only [carried, again, half]
      rfl
  · refine ⟨nearestEven k m, e + k, ⟨by omega, by omega, by omega⟩, units.symm, ?_⟩
    have short : (nearestEven k m).log2 < 24 := by
      by_cases zero : nearestEven k m = 0
      · rw [zero]
        decide
      · exact (Nat.log2_lt zero).mpr (by omega)
    have again := shiftToTarget_eq (m := nearestEven k m) (e := e + k) (k := 0) (by omega)
    have whole : (ExtendedMantissa.ofMantissaAndAccuracy (nearestEven k m) .exact >>> 0).mantissa =
      nearestEven k m := rfl
    simp only [again, whole, Int.natCast_zero, Int.add_zero]

theorem isNaN_of_isFinite {u : UnpackedFloat} (finite : u.isFinite = true) : u.isNaN = false := by
  cases u with
  | notANumber | infinity s => cases finite
  | zero s | finite s m e positive => rfl

theorem isFinite_unpack {b : BitVec Format.binary32.numBits} (lower : unpackExponent b ≠ -1#8) :
    (UnpackedFloat.unpack Format.binary32 b).isFinite = true := by
  simp only [UnpackedFloat.unpack, if_neg lower]
  split
  · split <;> rfl
  · rfl

theorem isFinite_pack {m : Nat} {e : Int} (s : Sign) (positive : 0 < m) (highest : e ≤ 104) :
    (Float32.Model.pack (.finite s m e positive)).unpack.isFinite = true := by
  have bias : Format.binary32.exponentBias = 127 := by decide
  have small : ¬ 2 ^ 8 ≤ (e + (127 : Nat) + (23 : Nat)).toNat + 1 := by omega
  change (UnpackedFloat.unpack Format.binary32 (UnpackedFloat.pack Format.binary32 _)).isFinite = _
  apply isFinite_unpack
  simp only [UnpackedFloat.pack, bias, if_neg small]
  split
  · rw [unpackExponent_packComponents, Ne, ← BitVec.toNat_inj, BitVec.toNat_ofNat]
    have top : (-1#8).toNat = 255 := rfl
    rw [top]
    omega
  · rw [unpackExponent_packComponents]
    decide

private theorem pack_overflow {m : Nat} {e : Int} (s : Sign) (positive : 0 < m) (high : 104 < e) :
    UnpackedFloat.pack Format.binary32 (.finite s m e positive) =
      UnpackedFloat.pack Format.binary32 (.infinity s) := by
  have bias : Format.binary32.exponentBias = 127 := by decide
  have overflow : 2 ^ 8 ≤ (e + (127 : Nat) + (23 : Nat)).toNat + 1 := by omega
  simp only [UnpackedFloat.pack, bias, if_pos overflow]

theorem isNaN_unpack_pack (u : UnpackedFloat) : (Float32.Model.pack u).unpack.isNaN = u.isNaN := by
  cases u with
  | notANumber => rfl
  | infinity s => cases s <;> rfl
  | zero s => cases s <;> rfl
  | finite s m e positive =>
    by_cases highest : e ≤ 104
    · exact isNaN_of_isFinite (isFinite_pack s positive highest)
    · change (UnpackedFloat.unpack Format.binary32 (UnpackedFloat.pack Format.binary32 _)).isNaN = _
      rw [pack_overflow s positive (Int.not_le.mp highest)]
      cases s <;> rfl

def packedHeight (u : UnpackedFloat) : Int :=
  heightOf (Float32.Model.pack u).unpack

@[simp]
theorem packedHeight_zero (s : Sign) : packedHeight (.zero s) = 0 := by
  cases s <;> rfl

private theorem unpack_pack_subnormal {m : Nat} (s : Sign) (positive : 0 < m) (short : m < 2 ^ 23) :
    (Float32.Model.pack (.finite s m (-149) positive)).unpack = .finite s m (-149) positive := by
  have packed : UnpackedFloat.pack Format.binary32 (.finite s m (-149) positive) =
      packComponents Format.binary32 s 0#8 (BitVec.ofNat 23 m) := by
    have length : m.log2 < 23 := (Nat.log2_lt positive.ne').mpr short
    have unfilled : m.log2 + 1 ≠ Format.binary32.mantissaBits := by
      have bits : Format.binary32.mantissaBits = 24 := by decide
      omega
    have small : ¬ 2 ^ 8 ≤ ((-149 : Int) + Format.binary32.exponentBias + (23 : Nat)).toNat + 1 := by
      decide
    simp only [UnpackedFloat.pack, if_neg unfilled, if_neg small]
  have significand : (BitVec.ofNat 23 m).toNat = m := by
    rw [BitVec.toNat_ofNat, Nat.mod_eq_of_lt short]
  have nonzero : BitVec.ofNat 23 m ≠ 0#23 := fun zero => by
    have := congrArg BitVec.toNat zero
    rw [significand] at this
    exact positive.ne' this
  have bias : Format.binary32.exponentBias = 127 := by decide
  change UnpackedFloat.unpack Format.binary32 (UnpackedFloat.pack Format.binary32 _) = _
  rw [packed]
  simp only [UnpackedFloat.unpack, unpackMantissa_packComponents, unpackExponent_packComponents,
    unpackSign_packComponents, Sign.ofBitVec_toBitVec, dif_neg nonzero, significand, bias]
  rfl

theorem IsRounded.packedHeight {m : Nat} {e : Int} (rounded : IsRounded m e) (s : Sign)
    (positive : 0 < m) :
    packedHeight (.finite s m e positive) = s.apply (min (magnitude m e) ceiling : Nat) := by
  by_cases highest : e ≤ 104
  · have below := rounded.magnitude_lt_iff.mpr highest
    rw [Nat.min_eq_left below.le, Binary32.packedHeight]
    by_cases long : 2 ^ 23 ≤ m
    · exact congrArg heightOf
        (IsNormal.unpack_pack ⟨long, rounded.upper, rounded.lowest, highest⟩ s)
    · obtain rfl := rounded.filled.resolve_left long
      rw [unpack_pack_subnormal s positive (by omega)]
      rfl
  · have above : ¬ magnitude m e < ceiling := fun below => highest (rounded.magnitude_lt_iff.mp below)
    have overflow : Binary32.packedHeight (.finite s m e positive) =
        Binary32.packedHeight (.infinity s) :=
      congrArg (fun b => heightOf (UnpackedFloat.unpack Format.binary32 b))
        (pack_overflow s positive (by omega))
    rw [overflow, Nat.min_eq_right (by omega)]
    cases s <;> rfl

theorem Canonical.packedHeight {u : UnpackedFloat} (canonical : Canonical u) :
    packedHeight u = heightOf u := by
  cases u with
  | notANumber => rfl
  | infinity s => cases s <;> rfl
  | zero s => exact packedHeight_zero s
  | finite s m e positive =>
    rw [canonical.toIsRounded.packedHeight, Nat.min_eq_left canonical.magnitude_lt.le]
    rfl

/-- A signed count of units of 2⁻²⁹⁸ rounded to a height; what is too large rounds to infinity. -/
def settle (z : Int) : Int :=
  let rounded : Nat := min (roundUnits z.natAbs) ceiling
  if z < 0 then -rounded else rounded

@[simp]
theorem settle_zero : settle 0 = 0 := by
  decide

private theorem settle_apply (s : Sign) (n : Nat) :
    settle (s.apply n) = s.apply (min (roundUnits n) ceiling : Nat) := by
  cases s with
  | positive =>
    simp only [settle, Sign.apply, Int.natAbs_natCast]
    exact if_neg (Int.not_lt.mpr (Int.natCast_nonneg n))
  | negative =>
    by_cases zero : n = 0
    · subst zero
      exact settle_zero
    · simp only [settle, Sign.apply, Int.natAbs_neg, Int.natAbs_natCast]
      exact if_pos (by omega)

theorem settle_neg (z : Int) : settle (-z) = -settle z := by
  simp only [settle, Int.natAbs_neg]
  rcases Int.lt_trichotomy z 0 with negative | rfl | positive
  · rw [if_neg (by omega), if_pos negative, Int.neg_neg]
  · decide
  · rw [if_pos (by omega), if_neg (by omega)]

theorem settle_mono {z w : Int} (below : z ≤ w) : settle z ≤ settle w := by
  simp only [settle]
  split_ifs with negative negative' negative'
  · have := roundUnits_mono (show w.natAbs ≤ z.natAbs by omega)
    omega
  · omega
  · omega
  · have := roundUnits_mono (show z.natAbs ≤ w.natAbs by omega)
    omega

private theorem settle_mul_one (z : Nat) :
    settle (z * one) = (min (nearestEven (z.log2 - 23) z * 2 ^ (z.log2 - 23)) ceiling : Nat) := by
  rw [← roundUnits_mul_one]
  exact settle_apply .positive (z * one)

theorem two_mul_settle_le {k z : Nat} (short : z < 2 ^ (k + 24)) :
    2 * settle (z * one) ≤ 2 * z + (2 ^ k : Nat) := by
  have finer : 2 ^ (z.log2 - 23) ≤ 2 ^ k := by
    refine Nat.pow_le_pow_right (by decide) ?_
    by_cases zero : z = 0
    · subst zero
      exact Nat.zero_le k
    · have := (Nat.log2_lt zero).mpr short
      omega
  have error := (two_mul_nearestEven (z.log2 - 23) z).2
  have capped := Nat.min_le_left (nearestEven (z.log2 - 23) z * 2 ^ (z.log2 - 23)) ceiling
  rw [settle_mul_one]
  omega

theorem settle_binade {k z : Nat} (long : 2 ^ (k + 23) ≤ z) (short : z < 2 ^ (k + 24)) (top : k ≤ 253) :
    settle (z * one) = (nearestEven k z * 2 ^ k : Nat) := by
  have positive : z ≠ 0 := (Nat.lt_of_lt_of_le (Nat.two_pow_pos _) long).ne'
  have length : z.log2 - 23 = k := by
    have := (Nat.le_log2 positive).mpr long
    have := (Nat.log2_lt positive).mpr short
    omega
  have bounded : nearestEven k z * 2 ^ k ≤ ceiling := by
    have floor : z / 2 ^ k < 2 ^ 24 := by
      rw [Nat.div_lt_iff_lt_mul (Nat.two_pow_pos k), ← Nat.pow_add, Nat.add_comm]
      exact short
    exact Nat.mul_le_mul (Nat.le_trans (nearestEven_le k z) floor)
      (Nat.pow_le_pow_right (by decide) top)
  rw [settle_mul_one, length, Nat.min_eq_left bounded]

theorem settle_units_mono {z w : Int} (below : z ≤ w) : settle (z * one) ≤ settle (w * one) :=
  settle_mono (Int.mul_le_mul_of_nonneg_right below (Int.natCast_nonneg one))

theorem apply_mul (s : Sign) (n k : Nat) : s.apply n * k = s.apply (n * k : Nat) := by
  cases s
  · exact (Int.neg_mul ..).trans (congrArg Neg.neg (Int.natCast_mul ..).symm)
  · exact (Int.natCast_mul ..).symm

theorem Canonical.settle_height {u : UnpackedFloat} (canonical : Canonical u) :
    settle (heightOf u * one) = heightOf u := by
  cases u with
  | notANumber | zero s => exact (congrArg settle (Int.zero_mul _)).trans settle_zero
  | infinity s => cases s <;> decide +kernel
  | finite s m e positive =>
    have units : heightOf (.finite s m e positive) * one = s.apply (fineUnits m e) := by
      rw [fineUnits_eq m canonical.lowest]
      exact apply_mul ..
    rw [units, settle_apply, canonical.toIsRounded.roundUnits positive,
      Nat.min_eq_left canonical.magnitude_lt.le]
    rfl

section
variable {m : Nat} {e : Int}

theorem packedHeight_roundWithAccuracy (s : Sign) (positive : 0 < m) (lowest : -298 ≤ e)
    (enough : e ≤ max (m.log2 + e - 23) (-149)) :
    packedHeight (roundWithAccuracy Format.binary32 s m e .exact) =
      settle (s.apply (fineUnits m e)) := by
  obtain ⟨n, f, rounded, units, result⟩ := exists_rounded s positive lowest enough
  rw [result, settle_apply, ← units]
  by_cases zero : n = 0
  · subst zero
    rw [dif_pos rfl, magnitude, Nat.zero_mul, Nat.zero_min, packedHeight_zero]
    cases s <;> rfl
  · rw [dif_neg zero]
    exact rounded.packedHeight s (Nat.pos_of_ne_zero zero)

private theorem packedHeight_round (s : Sign) (positive : 0 < m) (lowest : -298 ≤ e) :
    packedHeight (UnpackedFloat.round Format.binary32 s m e) = settle (s.apply (fineUnits m e)) := by
  generalize shift : (e - max (m.log2 + e - 23) (-149)).toNat = k
  have result : UnpackedFloat.round Format.binary32 s m e =
      roundWithAccuracy Format.binary32 s (m * 2 ^ k) (e - k) .exact := by
    simp only [UnpackedFloat.round, targetExponent_eq, decreaseExponent, shift, Nat.shiftLeft_eq]
  have units : fineUnits (m * 2 ^ k) (e - k) = fineUnits m e := by
    have split : k + (e - k + 298).toNat = (e + 298).toNat := by omega
    rw [fineUnits, fineUnits, Nat.mul_assoc, ← Nat.pow_add, split]
  rw [result, packedHeight_roundWithAccuracy s (Nat.mul_pos positive (Nat.two_pow_pos k)) (by omega),
    units]
  rw [log2_shifted positive]
  omega

theorem packedHeight_normalize (z : Int) (lowest : -298 ≤ e) :
    packedHeight (UnpackedFloat.normalize Format.binary32 z e .positive) =
      settle (z * (2 ^ (e + 298).toNat : Nat)) := by
  rcases Int.lt_trichotomy z 0 with negative | rfl | positive
  · have signed : z * (2 ^ (e + 298).toNat : Nat) = Sign.negative.apply (fineUnits (-z).toNat e) := by
      rw [fineUnits, ← apply_mul]
      congr 1
      simp only [Sign.apply]
      omega
    simp only [UnpackedFloat.normalize, Int.compare_eq_lt.mpr negative, signed]
    exact packedHeight_round .negative (by omega) lowest
  · rw [Int.zero_mul, settle_zero]
    exact packedHeight_zero .positive
  · have signed : z * (2 ^ (e + 298).toNat : Nat) = Sign.positive.apply (fineUnits z.toNat e) := by
      rw [fineUnits, ← apply_mul]
      congr 1
      simp only [Sign.apply]
      omega
    simp only [UnpackedFloat.normalize, Int.compare_eq_gt.mpr positive, signed]
    exact packedHeight_round .positive (by omega) lowest

end

end Binary32

end DirectionFinding
