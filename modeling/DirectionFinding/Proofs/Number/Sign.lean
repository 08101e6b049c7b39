import DirectionFinding.Proofs.Number.Arithmetic

/-!
Sums, squares and products that are not negative. Infinity is no exception: among numbers that are not
negative there is no second infinity that could cancel the first, and nothing above zero takes an
infinity back to zero.
-/
namespace DirectionFinding

namespace Binary32

open Float.Model Float.Model.UnpackedFloat

private theorem unpackedAdd_infinite {u v : UnpackedFloat}
    (first : u.isFinite = true ∨ u = .infinity .positive)
    (second : v.isFinite = true ∨ v = .infinity .positive)
    (infinite : ¬(u.isFinite = true ∧ v.isFinite = true)) :
    UnpackedFloat.add Format.binary32 u v = .infinity .positive := by
  rcases first with finite | rfl <;> rcases second with finite' | rfl
  · exact absurd ⟨finite, finite'⟩ infinite
  · cases u with
    | notANumber | infinity s => cases finite
    | zero s | finite s m e positive => rfl
  · cases v with
    | notANumber | infinity s => cases finite'
    | zero s | finite s m e positive => rfl
  · rfl

theorem unpackedMul_infinite {u v : UnpackedFloat} (above : IsAbove u) (above' : IsAbove v)
    (infinite : ¬(u.isFinite = true ∧ v.isFinite = true)) :
    UnpackedFloat.mul Format.binary32 u v = .infinity .positive := by
  cases above with
  | infinite => cases above' <;> rfl
  | finite m e positive =>
    cases above' with
    | infinite => rfl
    | finite n f positive' => exact absurd ⟨rfl, rfl⟩ infinite

section
variable {x y : Float32}

private theorem nonneg_of_pack_infinity {u : UnpackedFloat} (infinite : u = .infinity .positive) :
    0 ≤ Float32.ofModel (.pack u) := by
  subst infinite
  decide +kernel

private theorem infinite_of_nonneg (nonneg : 0 ≤ x) :
    x.toModel.unpack.isFinite = true ∨ x.toModel.unpack = .infinity .positive := by
  obtain ⟨-, number, above⟩ := le_iff.mp nonneg
  change x.toModel.unpack.isNaN = false at number
  change 0 ≤ heightOf x.toModel.unpack at above
  generalize x.toModel.unpack = u at *
  cases u with
  | notANumber => cases number
  | zero s | finite s => exact .inl rfl
  | infinity s =>
    cases s with
    | positive => exact .inr rfl
    | negative => exact absurd above (by decide)

theorem add_nonneg (nonneg : 0 ≤ x) (nonneg' : 0 ≤ y) : 0 ≤ x + y := by
  by_cases both : x.isFinite = true ∧ y.isFinite = true
  · have least := settle_units_mono (Int.add_nonneg (le_iff.mp nonneg).2.2 (le_iff.mp nonneg').2.2)
    rw [Int.zero_mul, settle_zero, ← height_add both.1 both.2] at least
    exact le_iff.mpr ⟨rfl, isNaN_add both.1 both.2, least⟩
  · exact nonneg_of_pack_infinity (unpackedAdd_infinite (infinite_of_nonneg nonneg)
      (infinite_of_nonneg nonneg') both)

theorem mul_nonneg_of_pos (positive : 0 < x) (positive' : 0 < y) : 0 ≤ x * y := by
  by_cases both : x.isFinite = true ∧ y.isFinite = true
  · have least := settle_mono (Int.mul_nonneg (lt_iff.mp positive).2.2.le (lt_iff.mp positive').2.2.le)
    rw [settle_zero, ← height_mul both.1 both.2] at least
    exact le_iff.mpr ⟨rfl, isNaN_mul both.1 both.2, least⟩
  · exact nonneg_of_pack_infinity
      (unpackedMul_infinite (pos_iff.mp positive) (pos_iff.mp positive') both)

theorem square_nonneg (number : x.isNaN = false) : 0 ≤ x * x := by
  by_cases finite : x.isFinite = true
  · have least := settle_mono (mul_self_nonneg (height x))
    rw [settle_zero, ← height_mul finite finite] at least
    exact le_iff.mpr ⟨rfl, isNaN_mul finite finite, least⟩
  · have infinite : UnpackedFloat.mul Format.binary32 x.toModel.unpack x.toModel.unpack =
        .infinity .positive := by
      change x.toModel.unpack.isNaN = false at number
      change ¬ x.toModel.unpack.isFinite = true at finite
      generalize x.toModel.unpack = u at *
      cases u with
      | notANumber => cases number
      | zero s | finite s => exact absurd rfl finite
      | infinity s => cases s <;> rfl
    exact nonneg_of_pack_infinity infinite

theorem square_level (finite : x.isFinite = true) (level : height x = 0) :
    (x * x).isFinite = true ∧ height (x * x) = 0 := by
  have product := height_mul finite finite
  rw [level, Int.zero_mul, settle_zero] at product
  refine ⟨isFinite_iff.mpr ⟨isNaN_mul finite finite, ?_⟩, product⟩
  rw [product]
  decide

end

end Binary32

end DirectionFinding
