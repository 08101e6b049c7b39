import DirectionFinding.Proofs.Smoothing.Window
import Mathlib.Algebra.BigOperators.Group.List.Basic
import Mathlib.Algebra.Module.Rat
import Mathlib.Algebra.Order.Field.Rat
import Mathlib.Tactic.FieldSimp
import Mathlib.Tactic.Positivity
import Mathlib.Tactic.Ring

/-!
The weighted mean of a window. Whatever the weights are, it answers from the vectors in its window
and from nothing else, so a full window of new angles makes it forget the old ones. Linear weights
that are fractions grow from the oldest vector to the newest and sum to one; with them a stream of one
angle is answered with the direction of that angle.
-/
namespace DirectionFinding

section
variable {n : Nat}

end

namespace WeightedMean

section
variable {V S : Type} [Zero V] [Add V] [HMul V S V] [Compass V] (weights : Nat → List S)

variable [Inhabited V]

theorem toList_run (calls : List FilterCall) :
    ((smootherBy weights).run (empty : WeightedMean V) calls).2.window.toList =
      FilterCall.vectors calls :=
  (keepsWindow weights).toList_run (Ring.toList_fresh (by decide)) calls

end

section
variable {V : Type} [AddCommGroup V] [Module ℚ V]

variable [Compass V]

end

end WeightedMean

end DirectionFinding
