/-!
Summation in eight lanes: whole groups of eight values are added lane by lane, the lanes are joined
in pairs four apart, and the values that are left over are added one by one. With rounded addition
the order is part of the result.
-/
namespace DirectionFinding

structure Lanes (V : Type) where
  l0 : V
  l1 : V
  l2 : V
  l3 : V
  l4 : V
  l5 : V
  l6 : V
  l7 : V

namespace Lanes

variable {V : Type} [Add V] [Zero V]

def zero : Lanes V := ⟨0, 0, 0, 0, 0, 0, 0, 0⟩

def joined (l : Lanes V) : V :=
  0 + (l.l0 + l.l4) + (l.l1 + l.l5) + (l.l2 + l.l6) + (l.l3 + l.l7)

def sumFrom (l : Lanes V) : List V → V
  | v0 :: v1 :: v2 :: v3 :: v4 :: v5 :: v6 :: v7 :: rest =>
    sumFrom ⟨l.l0 + v0, l.l1 + v1, l.l2 + v2, l.l3 + v3, l.l4 + v4, l.l5 + v5, l.l6 + v6,
      l.l7 + v7⟩ rest
  | rest => rest.foldl (fun acc v => acc + v) l.joined

end Lanes

def laneSum {V : Type} [Add V] [Zero V] (values : List V) : V :=
  Lanes.sumFrom .zero values

end DirectionFinding
