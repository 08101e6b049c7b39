import DirectionFinding.Number.Single
import DirectionFinding.Proofs.Number.Rounding

/-!
What is no number. Its words are one value to the operations, and each operation passes it on, so an
operation on words has the value of the operation on what they stand for.
-/
namespace DirectionFinding

namespace Binary32

open Float.Model Float.Model.UnpackedFloat

private theorem unpack_of_isNaN {x : Float32} (strange : x.isNaN = true) :
    x.toModel.unpack = .notANumber := by
  change x.toModel.unpack.isNaN = true at strange
  cases unpacked : x.toModel.unpack with
  | notANumber => rfl
  | infinity s | zero s | finite s =>
    rw [unpacked] at strange
    cases strange

private theorem eq_packedNaN {b : BitVec Format.binary32.numBits} (valid : Format.binary32.Valid b)
    (strange : UnpackedFloat.unpack Format.binary32 b = .notANumber) :
    b = packedNaN Format.binary32 := by
  simp only [UnpackedFloat.unpack] at strange
  split at strange
  · rename_i top
    split at strange
    · cases strange
    · rename_i nonzero
      exact valid.eq_packedNaN top nonzero
  · split at strange
    · split at strange <;> cases strange
    · cases strange

private theorem toBits_inj {x y : Float32}
    (same : x.toModel.toBits.toBitVec = y.toModel.toBits.toBitVec) : x = y := by
  obtain ⟨⟨⟨b⟩, valid⟩⟩ := x
  obtain ⟨⟨⟨c⟩, valid'⟩⟩ := y
  cases same
  rfl

theorem isNaN_notANumber : notANumber.isNaN = true :=
  rfl

private theorem eq_notANumber {x : Float32} (strange : x.isNaN = true) : x = notANumber :=
  toBits_inj ((eq_packedNaN x.toModel.valid (unpack_of_isNaN strange)).trans
    (eq_packedNaN notANumber.toModel.valid (unpack_of_isNaN isNaN_notANumber)).symm)

/-- Operations that pass on what is no number. -/
structure Strict (op : Float32 → Float32 → Float32) : Prop where
  left : ∀ x y : Float32, x.isNaN = true → (op x y).isNaN = true
  right : ∀ x y : Float32, y.isNaN = true → (op x y).isNaN = true

private theorem strict_pack (op : UnpackedFloat → UnpackedFloat → UnpackedFloat)
    (left : ∀ v, op .notANumber v = .notANumber) (right : ∀ u, op u .notANumber = .notANumber) :
    Strict fun x y => .ofModel (.pack (op x.toModel.unpack y.toModel.unpack)) where
  left x y strange := by
    rw [unpack_of_isNaN strange, left]
    rfl
  right x y strange := by
    rw [unpack_of_isNaN strange, right]
    rfl

theorem strict_add : Strict (· + ·) :=
  strict_pack (UnpackedFloat.add Format.binary32) (fun _ => rfl) fun u => by cases u <;> rfl

theorem strict_mul : Strict (· * ·) :=
  strict_pack (UnpackedFloat.mul Format.binary32) (fun _ => rfl) fun u => by cases u <;> rfl

theorem strict_div : Strict (· / ·) :=
  strict_pack (UnpackedFloat.div Format.binary32) (fun _ => rfl) fun u => by cases u <;> rfl

end Binary32

namespace Single

open Binary32

private theorem value_lift {op : Float32 → Float32 → Float32} (strict : Strict op) (s t : Single) :
    (lift op s t).value = op s.value t.value := by
  cases s with
  | nan word => exact (eq_notANumber (strict.left _ _ isNaN_notANumber)).symm
  | number x =>
    cases t with
    | nan word => exact (eq_notANumber (strict.right _ _ isNaN_notANumber)).symm
    | number y =>
      simp only [lift]
      split
      · rename_i strange
        exact (eq_notANumber strange).symm
      · rfl

variable (s t : Single)

theorem value_add : (s + t).value = s.value + t.value :=
  value_lift strict_add s t

theorem value_mul : (s * t).value = s.value * t.value :=
  value_lift strict_mul s t

theorem value_div : (s / t).value = s.value / t.value :=
  value_lift strict_div s t

end Single

end DirectionFinding
