import DirectionFinding.Proofs.Number.Product

/-!
Exponents of quotients. A quotient begins where the difference of the exponents says, and rounding
carries it one bit further at most, so dividing by a number of at least one leaves a number finite
that has a bit to spare.
-/
namespace DirectionFinding

namespace Binary32

open Float.Model Float.Model.UnpackedFloat

private theorem mantissa_shifted (em : ExtendedMantissa) (k : Nat) :
    (em >>> k).mantissa = em.mantissa / 2 ^ k := by
  simp only [HShiftRight.hShiftRight]
  induction k with
  | zero => simp [Nat.repeat]
  | succ k ih =>
    rw [Nat.repeat, ExtendedMantissa.shiftRightOne, ih, Nat.div_div_eq_div_mul, Nat.pow_succ]

private theorem roundedMantissa_le (em : ExtendedMantissa) :
    em.roundedMantissa ≤ em.mantissa + 1 := by
  rcases em with ⟨q, _ | _, _ | _⟩ <;>
    simp only [ExtendedMantissa.roundedMantissa, ExtendedMantissa.accuracy,
      Accuracy.roundToNearestEven] <;>
    omega

private theorem log2_rounded_le {m k r : Nat} (bounded : r ≤ m / 2 ^ k + 1) :
    r.log2 + k ≤ max (m.log2 + 1) k := by
  by_cases zero : r = 0
  · subst zero
    have : Nat.log2 0 = 0 := by decide
    omega
  · by_cases short : k ≤ m.log2
    · have below : m / 2 ^ k < 2 ^ (m.log2 + 1 - k) := by
        rw [Nat.div_lt_iff_lt_mul (Nat.two_pow_pos k), ← Nat.pow_add, Nat.sub_add_cancel (by omega)]
        exact Nat.lt_log2_self
      have : r.log2 < m.log2 + 1 - k + 1 := by
        rw [Nat.log2_lt zero, Nat.pow_succ]
        omega
      omega
    · have nothing : m / 2 ^ k = 0 := Nat.div_eq_of_lt
        (Nat.lt_of_lt_of_le Nat.lt_log2_self (Nat.pow_le_pow_right (by decide) (by omega)))
      have : r.log2 < 1 := by
        rw [Nat.log2_lt zero]
        omega
      omega

theorem exponent_roundWithAccuracy (s : Sign) (m : Nat) (e : Int) (accuracy : Accuracy) :
    roundWithAccuracy Format.binary32 s m e accuracy = .zero s ∨
      ∃ n f positive, roundWithAccuracy Format.binary32 s m e accuracy = .finite s n f positive ∧
        f ≤ max (max e (-149)) (m.log2 + e - 22) := by
  obtain ⟨k, target⟩ : ∃ k : Nat, (max (m.log2 + e - 23) (-149) - e).toNat = k := ⟨_, rfl⟩
  have kept : (ExtendedMantissa.ofMantissaAndAccuracy m accuracy).mantissa = m := by
    rcases accuracy with _ | _ | _ | _ <;> rfl
  have rounded := roundedMantissa_le (ExtendedMantissa.ofMantissaAndAccuracy m accuracy >>> k)
  rw [mantissa_shifted, kept] at rounded
  have length := log2_rounded_le rounded
  simp only [roundWithAccuracy, shiftToTargetExponent, shiftToExponent, targetExponent_eq, target]
  split_ifs with nothing
  · exact .inl rfl
  · exact .inr ⟨_, _, Nat.pos_of_ne_zero nothing, rfl, by omega⟩

private theorem log2_div_le {m n : Nat} (positive : 0 < n) : (m / n).log2 ≤ m.log2 - n.log2 := by
  by_cases nothing : m / n = 0
  · rw [nothing]
    exact Nat.zero_le _
  · have above := Nat.log2_self_le positive.ne'
    have below : m < 2 ^ (m.log2 + 1) := Nat.lt_log2_self
    have whole : m / n * n ≤ m := Nat.div_mul_le_self m n
    have product : 2 ^ ((m / n).log2 + n.log2) ≤ m := by
      rw [Nat.pow_add]
      exact (Nat.mul_le_mul (Nat.log2_self_le nothing) above).trans whole
    have := (Nat.pow_lt_pow_iff_right (by decide)).mp (Nat.lt_of_le_of_lt product below)
    omega

theorem exponent_divCore {m n : Nat} {e f : Int} (positive : 0 < n) :
    let (q, g, _) := divCore Format.binary32 m e n f
    let difference := (m.log2 + e) - (n.log2 + f)
    max (max g (-149)) (q.log2 + g - 22) ≤ max (-149) (difference - 22) := by
  have minimum : Format.binary32.minExponent = -149 := by decide
  have bits : Format.binary32.mantissaBits = 24 := by decide
  simp only [divCore, Format.targetExponent, totalExponent, minimum, bits]
  generalize target : min (e - f) _ = g
  generalize shift : (e - f - g).toNat = k
  have quotient : (m <<< k / n).log2 ≤ m.log2 + k - n.log2 := by
    refine (log2_div_le positive).trans (Nat.sub_le_sub_right ?_ _)
    rw [Nat.shiftLeft_eq]
    rcases Nat.eq_zero_or_pos m with rfl | positive'
    · simp
    · exact (log2_shifted positive' k).le
  omega

private theorem isFinite_pack_zero (s : Sign) :
    (Float32.Model.pack (.zero s)).unpack.isFinite = true := by
  cases s <;> rfl

private theorem magnitude_range {m : Nat} {e : Int} (positive : 0 < m) :
    2 ^ (m.log2 + (e + 149).toNat) ≤ magnitude m e ∧
      magnitude m e < 2 ^ (m.log2 + 1 + (e + 149).toNat) := by
  rw [Nat.pow_add, Nat.pow_add]
  exact ⟨Nat.mul_le_mul_right _ (Nat.log2_self_le positive.ne'),
    Nat.mul_lt_mul_of_pos_right Nat.lt_log2_self (Nat.two_pow_pos _)⟩

private theorem isFinite_unpackedDiv {m n : Nat} {e f : Int} (s t : Sign) (positive : 0 < m)
    (positive' : 0 < n) (room : m.log2 + e ≤ n.log2 + f + 126) :
    (Float32.Model.pack (UnpackedFloat.div Format.binary32 (.finite s m e positive)
      (.finite t n f positive'))).unpack.isFinite = true := by
  have bounded := exponent_divCore (m := m) (e := e) (f := f) positive'
  simp only [UnpackedFloat.div]
  generalize divCore Format.binary32 m e n f = result at *
  obtain ⟨q, g, accuracy⟩ := result
  rcases exponent_roundWithAccuracy (s / t) q g accuracy with zero | ⟨r, h, nonzero, rounded, most⟩
  · rw [zero]
    exact isFinite_pack_zero _
  · rw [rounded]
    exact isFinite_pack _ nonzero (by omega)

theorem isFinite_div {x y : Float32} (finite : x.isFinite = true)
    (small : (height x).natAbs < 2 ^ 276) (large : 1 ≤ y) : (x / y).isFinite = true := by
  have canonical := canonical x
  have canonical' := Binary32.canonical y
  have above := pos_iff.mp (lt_of_lt_of_le zero_lt_one large)
  have units := (le_iff.mp large).2.2
  rw [height_one, one_eq] at units
  change (Float32.Model.pack (UnpackedFloat.div Format.binary32 x.toModel.unpack
    y.toModel.unpack)).unpack.isFinite = true
  change x.toModel.unpack.isFinite = true at finite
  rw [height] at small units
  generalize x.toModel.unpack = u at *
  generalize y.toModel.unpack = v at *
  cases u with
  | notANumber | infinity s => cases finite
  | zero s => cases above <;> exact isFinite_pack_zero _
  | finite s m e positive =>
    cases above with
    | infinite => exact isFinite_pack_zero _
    | finite n f positive' =>
      have lowest := canonical.lowest
      have lowest' := canonical'.lowest
      have size : (heightOf (.finite s m e positive)).natAbs = magnitude m e := by
        cases s <;> simp [heightOf, Sign.apply]
      rw [size] at small
      have short := (Nat.pow_lt_pow_iff_right (by decide)).mp
        (Nat.lt_of_le_of_lt (magnitude_range positive).1 small)
      have long := (Nat.pow_lt_pow_iff_right (by decide)).mp
        (Nat.lt_of_le_of_lt (Int.ofNat_le.mp units) (magnitude_range positive').2)
      exact isFinite_unpackedDiv s .positive positive positive' (by omega)

end Binary32

end DirectionFinding
