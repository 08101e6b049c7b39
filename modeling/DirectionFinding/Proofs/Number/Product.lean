import DirectionFinding.Proofs.Number.Sign

/-!
Products and quotients with numbers that are known to be large enough. A factor of at least one
cannot take a positive number down to zero, however small that is, and dividing by a positive number
has a result. Small whole numbers are exact and keep their order.
-/
namespace DirectionFinding

namespace Binary32

open Float.Model Float.Model.UnpackedFloat

private theorem apply_ne_zero (s : Sign) {n : Nat} (nonzero : n ≠ 0) : s.apply n ≠ 0 := by
  cases s <;> simp [Sign.apply, nonzero]

section
variable {x y : Float32}

theorem mul_beq_zero (finite : x.isFinite = true) (finite' : y.isFinite = true) (large : 1 ≤ y) :
    (x * y == 0) = (x == 0) := by
  have product := height_mul finite finite'
  have scaled := (le_iff.mp large).2.2
  rw [height_one] at scaled
  have level : height (x * y) = 0 ↔ height x = 0 := by
    rcases Int.lt_trichotomy (height x) 0 with below | zero | above
    · have most := settle_mono (Int.mul_le_mul_of_nonpos_left below.le scaled)
      rw [settle_height, ← product] at most
      omega
    · rw [product, zero, Int.zero_mul, settle_zero]
    · have least := settle_mono (Int.mul_le_mul_of_nonneg_left scaled above.le)
      rw [settle_height, ← product] at least
      omega
  rw [Bool.eq_iff_iff, beq_iff, beq_iff, height_zero, level]
  simp only [isNaN_mul finite finite', isNumber finite]

theorem le_mul_of_one_le (large : 1 ≤ x) (positive : 0 < y) : y ≤ x * y := by
  have above := pos_iff.mp (lt_of_lt_of_le zero_lt_one large)
  have above' := pos_iff.mp positive
  have bounded := height_le y
  by_cases both : x.isFinite = true ∧ y.isFinite = true
  · rw [le_iff, lt_iff] at *
    refine ⟨positive.2.1, isNaN_mul both.1 both.2, ?_⟩
    rw [height_one] at large
    calc height y = settle (one * height y) := by rw [Int.mul_comm, settle_height]
      _ ≤ settle (height x * height y) :=
        settle_mono (Int.mul_le_mul_of_nonneg_right large.2.2 positive.2.2.le)
      _ = height (x * y) := (height_mul both.1 both.2).symm
  · have infinite := unpackedMul_infinite above above' both
    have top : (x * y).toModel.unpack = .infinity .positive := by
      change (Float32.Model.pack (UnpackedFloat.mul Format.binary32 x.toModel.unpack
        y.toModel.unpack)).unpack = _
      rw [infinite]
      rfl
    refine le_iff.mpr ⟨(lt_iff.mp positive).2.1, ?_, ?_⟩
    · change (x * y).toModel.unpack.isNaN = false
      rw [top]
      rfl
    · rw [height, height, top]
      exact bounded

theorem isNaN_div_iff (positive : 0 < y) :
    (x / y).isNaN = false ↔ x.isNaN = false ∧ (x.isFinite = true ∨ y.isFinite = true) := by
  have above := pos_iff.mp positive
  change (Float32.Model.pack _).unpack.isNaN = false ↔ x.toModel.unpack.isNaN = false ∧
    (x.toModel.unpack.isFinite = true ∨ y.toModel.unpack.isFinite = true)
  rw [isNaN_unpack_pack]
  generalize x.toModel.unpack = u at *
  generalize y.toModel.unpack = v at *
  cases u with
  | notANumber => exact iff_of_false Bool.noConfusion fun both => Bool.noConfusion both.1
  | infinity s =>
    cases above with
    | infinite =>
      exact iff_of_false Bool.noConfusion fun both =>
        both.2.elim Bool.noConfusion Bool.noConfusion
    | finite n f nonzero => exact iff_of_true rfl ⟨rfl, .inr rfl⟩
  | zero s =>
    cases above with
    | infinite | finite n f nonzero => exact iff_of_true rfl ⟨rfl, .inl rfl⟩
  | finite s m e nonzero =>
    cases above with
    | infinite => exact iff_of_true rfl ⟨rfl, .inl rfl⟩
    | finite n f nonzero' => exact iff_of_true (isNaN_roundWithAccuracy ..) ⟨rfl, .inl rfl⟩

theorem isNaN_div_zero_iff (number : x.isNaN = false) (number' : y.isNaN = false)
    (level : height y = 0) : (x / y).isNaN = false ↔ height x ≠ 0 := by
  change (Float32.Model.pack _).unpack.isNaN = false ↔ heightOf x.toModel.unpack ≠ 0
  change x.toModel.unpack.isNaN = false at number
  change y.toModel.unpack.isNaN = false at number'
  change heightOf y.toModel.unpack = 0 at level
  rw [isNaN_unpack_pack]
  generalize x.toModel.unpack = u at *
  generalize y.toModel.unpack = v at *
  cases v with
  | notANumber => cases number'
  | infinity t => exact absurd level (apply_ne_zero t (by decide))
  | finite t n f positive => exact absurd level (apply_ne_zero t (magnitude_pos positive f).ne')
  | zero t =>
    cases u with
    | notANumber => cases number
    | zero s => exact iff_of_false Bool.noConfusion fun raised => raised rfl
    | infinity s => exact iff_of_true rfl (apply_ne_zero s (by decide))
    | finite s m e positive => exact iff_of_true rfl (apply_ne_zero s (magnitude_pos positive e).ne')

theorem isNaN_div (finite : x.isFinite = true) (positive : 0 < y) : (x / y).isNaN = false :=
  (isNaN_div_iff positive).mpr ⟨isNumber finite, .inl finite⟩

theorem zero_div (above : 0 < x) : 0 / x = 0 := by
  rw [pos_iff] at above
  change Float32.ofModel (.pack (div Format.binary32 (.zero .positive) x.toModel.unpack)) = 0
  generalize x.toModel.unpack = u at above
  cases above <;> rfl

end

section
variable {n : Nat}

theorem zero_mul_ofNat (small : n < 2 ^ 23) : 0 * Float32.ofNat n = 0 := by
  by_cases zero : n = 0
  · subst zero
    rfl
  · have positive := Nat.pos_of_ne_zero zero
    change Float32.ofModel (.pack (mul Format.binary32 (.zero .positive)
      (Float32.ofNat n).toModel.unpack)) = 0
    rw [toModel_ofNat positive small, unpack_wholeModel]
    rfl

theorem isFinite_ofNat (short : n < 2 ^ 23) : (Float32.ofNat n).isFinite = true := by
  rcases Nat.eq_zero_or_pos n with rfl | positive
  · rfl
  · change (Float32.ofNat n).toModel.unpack.isFinite = true
    rw [toModel_ofNat positive short, unpack_wholeModel]
    rfl

private theorem height_ofNat (short : n < 2 ^ 23) : height (Float32.ofNat n) = (n * one : Nat) := by
  rcases Nat.eq_zero_or_pos n with rfl | positive
  · rw [Nat.zero_mul]
    exact height_zero
  · have bounded : n.log2 < 23 := (Nat.log2_lt positive.ne').mpr short
    have split : 23 - n.log2 + ((n.log2 : Int) - 23 + 149).toNat = 149 := by omega
    rw [height, toModel_ofNat positive short, unpack_wholeModel, heightOf, magnitude, Nat.mul_assoc,
      ← Nat.pow_add, split, one, Nat.shiftLeft_eq, Nat.one_mul]
    rfl

theorem ofNat_le_ofNat {m : Nat} (le : m ≤ n) (short : n < 2 ^ 23) :
    Float32.ofNat m ≤ Float32.ofNat n := by
  have short' : m < 2 ^ 23 := Nat.lt_of_le_of_lt le short
  rw [le_iff, height_ofNat short, height_ofNat short']
  exact ⟨isNumber (isFinite_ofNat short'), isNumber (isFinite_ofNat short),
    Int.ofNat_le.mpr (Nat.mul_le_mul_right one le)⟩

private theorem toModel_ofNat_long (long : 2 ^ 23 ≤ n) :
    (Float32.ofNat n).toModel =
      .pack (roundWithAccuracy Format.binary32 .positive (n * 2 ^ 24) (-24) .exact) := by
  have shifted : n <<< Format.binary32.mantissaBits * 10 ^ (0 : Int).toNat = n * 2 ^ 24 := by
    rw [Nat.shiftLeft_eq]
    exact Nat.mul_one _
  change (Float32.ofScientific n false 0).toModel = _
  rw [Float32.ofScientific, dif_neg (fun both => Nat.not_lt.mpr long both.1)]
  change Float32.Model.pack (UnpackedFloat.ofScientific Format.binary32 n 0) = _
  rw [UnpackedFloat.ofScientific, dif_neg (by omega), if_neg (by decide), if_neg (by simp),
    if_pos (Int.le_refl 0), UnpackedFloat.mul, shifted]
  rfl

theorem one_le_ofNat (positive : 0 < n) : 1 ≤ Float32.ofNat n := by
  by_cases short : n < 2 ^ 23
  · exact ofNat_le_ofNat positive short
  · have long : 2 ^ 23 ≤ n := Nat.not_lt.mp short
    have enough : (-24 : Int) ≤ max (((n * 2 ^ 24).log2 : Int) + -24 - 23) (-149) := by
      rw [log2_shifted positive]
      have := (Nat.le_log2 positive.ne').mpr long
      omega
    have units : one * one ≤ fineUnits (n * 2 ^ 24) (-24) := by
      have split : one * one = 2 ^ 24 * 2 ^ 274 := by decide +kernel
      have power : ((-24 : Int) + 298).toNat = 274 := by decide
      rw [fineUnits, Nat.mul_assoc, power, split]
      exact Nat.le_mul_of_pos_left _ positive
    have rounded : height (Float32.ofNat n) = settle (fineUnits (n * 2 ^ 24) (-24)) := by
      rw [height, toModel_ofNat_long long]
      exact packedHeight_roundWithAccuracy .positive (by omega) (by decide) enough
    rw [le_iff, height_one]
    refine ⟨rfl, ?_, ?_⟩
    · change (Float32.ofNat n).toModel.unpack.isNaN = false
      rw [toModel_ofNat_long long, isNaN_unpack_pack]
      exact isNaN_roundWithAccuracy ..
    · calc (one : Int) = settle (one * one : Nat) := settle_one.symm
        _ ≤ settle (fineUnits (n * 2 ^ 24) (-24)) := settle_mono (Int.ofNat_le.mpr units)
        _ = height (Float32.ofNat n) := rounded.symm

theorem ofNat_pos (positive : 0 < n) : 0 < Float32.ofNat n :=
  lt_of_lt_of_le zero_lt_one (one_le_ofNat positive)

end

end Binary32

end DirectionFinding
