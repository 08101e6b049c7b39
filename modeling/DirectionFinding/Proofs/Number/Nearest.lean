import DirectionFinding.Proofs.Number.Rounding

/-!
Reading binary32 numbers and rounding them to whole numbers, by the height of a number instead of
its bits. Of two whole numbers that are equally near, the one farther from zero is taken; what is no
number counts as zero.
-/
namespace DirectionFinding

namespace Binary32

open Float.Model Float.Model.UnpackedFloat

section bits
variable (b : BitVec Format.binary32.numBits)

private theorem toNat_unpackMantissa : (unpackMantissa b).toNat = b.toNat % 0x800000 := by
  simp [unpackMantissa]

private theorem toNat_unpackExponent : (unpackExponent b).toNat = b.toNat / 0x800000 % 0x100 := by
  simp [unpackExponent, Nat.shiftRight_eq_div_pow]

private theorem isNegative_unpackSign :
    isNegative (Sign.ofBitVec (unpackSign b)) = decide (0x80000000 ≤ b.toNat) := by
  have bound : b.toNat < 2 ^ 32 := b.isLt
  have digit : (unpackSign b).toNat = b.toNat / 0x80000000 := by
    simp [unpackSign, Nat.shiftRight_eq_div_pow]
    omega
  have zero : unpackSign b = 0#1 ↔ b.toNat / 0x80000000 = 0 := by
    rw [← BitVec.toNat_inj, digit]
    rfl
  simp only [Sign.ofBitVec, zero]
  split <;> simp only [isNegative, Bool.true_eq, Bool.false_eq, decide_eq_true_eq,
    decide_eq_false_iff_not] <;> omega

private theorem apply_eq_signed (s : Sign) (n : Nat) : s.apply n = signed (isNegative s) n := by
  cases s <;> rfl

theorem heightOf_unpack (below : unpackExponent b ≠ -1#8) :
    (UnpackedFloat.unpack Format.binary32 b).isNaN = false ∧
      heightOf (UnpackedFloat.unpack Format.binary32 b) =
        signed (isNegative (Sign.ofBitVec (unpackSign b)))
          (unitsOf (unpackExponent b).toNat (unpackMantissa b).toNat) := by
  have bias : Format.binary32.exponentBias = 127 := by decide
  refine ⟨isNaN_of_isFinite (isFinite_unpack below), ?_⟩
  rw [← apply_eq_signed]
  simp only [UnpackedFloat.unpack, if_neg below, bias, unitsOf]
  by_cases bottom : unpackExponent b = 0#8
  · have lowest : (unpackExponent b).toNat = 0 := congrArg BitVec.toNat bottom
    rw [if_pos bottom, if_pos lowest]
    by_cases nothing : unpackMantissa b = 0#23
    · rw [dif_pos nothing, congrArg BitVec.toNat nothing]
      cases Sign.ofBitVec (unpackSign b) <;> rfl
    · rw [dif_neg nothing]
      simp [heightOf, magnitude, lowest]
  · have raised : (unpackExponent b).toNat ≠ 0 := fun zero => bottom (BitVec.eq_of_toNat_eq zero)
    have joined : (1#1 ++ unpackMantissa b).toNat = 0x800000 + (unpackMantissa b).toNat := by
      rw [BitVec.toNat_append, ← Nat.shiftLeft_add_eq_or_of_lt (BitVec.isLt _)]
      rfl
    have power : (((unpackExponent b).toNat : Int) - ((127 : Nat) + (23 : Nat)) + 149).toNat =
        (unpackExponent b).toNat - 1 := by
      omega
    rw [if_neg bottom, if_neg raised, heightOf, magnitude, joined, power, Nat.shiftLeft_eq]

end bits

def Describes (x : Float32) : Binary32 → Prop
  | .nan => x.isNaN = true
  | .infinite negative => x.isNaN = false ∧ height x = signed negative ceiling
  | .finite negative units => x.isNaN = false ∧ height x = signed negative units

private theorem describes_read (x : Float32) : Describes x (read x) := by
  let b : BitVec Format.binary32.numBits := x.toModel.toBits.toBitVec
  have fields : read x = if (unpackExponent b).toNat = 255 then
      if (unpackMantissa b).toNat = 0 then .infinite (isNegative (Sign.ofBitVec (unpackSign b)))
      else .nan
    else .finite (isNegative (Sign.ofBitVec (unpackSign b)))
      (unitsOf (unpackExponent b).toNat (unpackMantissa b).toNat) := by
    rw [toNat_unpackExponent, toNat_unpackMantissa, isNegative_unpackSign]
    rfl
  have top : (unpackExponent b).toNat = 255 ↔ unpackExponent b = -1#8 :=
    BitVec.toNat_inj (y := -1#8)
  have whole : (unpackMantissa b).toNat = 0 ↔ unpackMantissa b = 0#23 :=
    BitVec.toNat_inj (y := 0#23)
  rw [fields]
  simp only [top, whole]
  split_ifs with highest infinite
  · have unpacked : x.toModel.unpack = .infinity (Sign.ofBitVec (unpackSign b)) :=
      (if_pos highest).trans (if_pos infinite)
    refine ⟨congrArg UnpackedFloat.isNaN unpacked, ?_⟩
    rw [height, unpacked, heightOf, apply_eq_signed]
  · have unpacked : x.toModel.unpack = .notANumber := (if_pos highest).trans (if_neg infinite)
    exact congrArg UnpackedFloat.isNaN unpacked
  · exact heightOf_unpack b highest

/-- A whole number nearest to a number, of two the one farther from zero. -/
structure IsNearest (x : Float32) (n : Int) : Prop where
  near : 2 * (height x - n * one).natAbs ≤ one
  away : 2 * (height x - n * one).natAbs = one → (height x).natAbs ≤ (n * one).natAbs

/-- What is left of a number in sixteen bits: the nearest whole number, brought into their range.
Infinity is far outside of it, and what is no number leaves a zero. -/
inductive Quantized (x : Float32) : Int → Prop where
  | number (n : Int) (known : x.isNaN = false) (nearest : IsNearest x n) :
    Quantized x (saturate (-32768) 32767 n)
  | nothing (strange : x.isNaN = true) : Quantized x 0

theorem IsNearest.unique {x : Float32} {n m : Int} (nearest : IsNearest x n)
    (other : IsNearest x m) : n = m := by
  have positive : 0 < one := by decide
  obtain ⟨near, away⟩ := nearest
  obtain ⟨near', away'⟩ := other
  by_contra apart
  -- Two that are equally near lie on both sides of the number, and one of them closer to zero.
  have step : n = m + 1 ∨ m = n + 1 := by
    have bounded : ((n - m) * one).natAbs ≤ one := by
      rw [Int.sub_mul]
      omega
    rw [Int.natAbs_mul, Int.natAbs_natCast] at bounded
    have := Nat.le_of_mul_le_mul_right (bounded.trans (Nat.one_mul one).ge) positive
    omega
  have outward (k : Int) : 0 ≤ k * one ∨ (k + 1) * one ≤ 0 := by
    rcases Int.lt_or_le k 0 with negative | nonneg
    · exact .inr (Int.mul_nonpos_of_nonpos_of_nonneg (by omega) (Int.natCast_nonneg one))
    · exact .inl (Int.mul_nonneg nonneg (Int.natCast_nonneg one))
  rcases step with rfl | rfl
  · have := outward m
    rw [Int.add_mul, Int.one_mul] at *
    omega
  · have := outward n
    rw [Int.add_mul, Int.one_mul] at *
    omega

private theorem signed_near (negative : Bool) {units w unit : Nat}
    (below : 2 * w ≤ 2 * units + unit) (above : 2 * units + unit < 2 * w + 2 * unit) :
    2 * (signed negative units - signed negative w).natAbs ≤ unit ∧
      (2 * (signed negative units - signed negative w).natAbs = unit →
        (signed negative units).natAbs ≤ (signed negative w).natAbs) := by
  cases negative <;> simp only [signed, if_true, Bool.false_eq_true, if_false] <;> omega

private theorem isNearest_signed {x : Float32} {negative : Bool} {units : Nat}
    (counted : height x = signed negative units) :
    IsNearest x (signed negative ((2 * units + one) / (2 * one))) := by
  have positive : 0 < 2 * one := by decide
  have below := Nat.div_mul_le_self (2 * units + one) (2 * one)
  have above := Nat.lt_div_mul_add (a := 2 * units + one) positive
  generalize (2 * units + one) / (2 * one) = n at *
  have twice : n * (2 * one) = 2 * (n * one) := by ring
  have whole : signed negative (n * one) = signed negative n * one := by
    cases negative <;> simp [signed]
  rw [twice] at below above
  have near := signed_near negative below above
  rw [whole, ← counted] at near
  exact ⟨near.1, near.2⟩

theorem quantized_round16 (x : Float32) : Quantized x (round16 x) := by
  have described := describes_read x
  rw [round16, roundWithin]
  cases reading : read x with
  | nan =>
    rw [reading] at described
    exact .nothing described
  | infinite negative =>
    rw [reading] at described
    have nearest := isNearest_signed described.2
    have far : (2 * ceiling + one) / (2 * one) = 2 ^ 128 := by decide +kernel
    rw [far] at nearest
    have outside : (if negative then -32768 else 32767) =
        saturate (-32768) 32767 (signed negative (2 ^ 128)) := by
      cases negative <;> decide +kernel
    simp only [outside]
    exact .number _ described.1 nearest
  | finite negative units =>
    rw [reading] at described
    exact .number _ described.1 (isNearest_signed described.2)

theorem Quantized.unique {x : Float32} {n m : Int} (quantized : Quantized x n)
    (other : Quantized x m) : n = m := by
  cases quantized with
  | number n known nearest =>
    cases other with
    | number m _ nearest' => rw [nearest.unique nearest']
    | nothing strange => cases known.symm.trans strange
  | nothing strange =>
    cases other with
    | number m known _ => cases known.symm.trans strange
    | nothing => rfl

end Binary32

end DirectionFinding
