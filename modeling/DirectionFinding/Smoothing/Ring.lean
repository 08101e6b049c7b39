import DirectionFinding.Basic

/-!
A ring of cells that keeps the latest values. One cell stays free, which tells a full ring from an
empty one: a ring of `n` cells holds at most `n - 1` values, and a push onto a full ring drops the
oldest. Cells are not cleared when their value is dropped. Places are 64-bit words. Their sums are words
as well in a ring of at most 2⁶³ cells, and so in every ring whose values take room in memory; a ring
of more cells, whose values take none, may find no word for its length.
-/
namespace DirectionFinding

structure Ring (α : Type) (n : Nat) where
  cells : Vector α n
  head : Fin n
  tail : Fin n

namespace Ring

variable {α : Type} {n : Nat}

def next (i : Fin n) : Fin n :=
  ⟨(i.val + 1) % n, Nat.mod_lt _ i.pos⟩

/-- A ring without values. It takes two cells to hold one value. -/
def empty [Inhabited α] (h : 2 ≤ n := by decide) : Ring α n where
  cells := Vector.replicate n default
  head := ⟨0, by omega⟩
  tail := ⟨0, by omega⟩

/-- The number of values, counted without regard to words. -/
def length (r : Ring α n) : Nat :=
  (r.head.val + n - r.tail.val) % n

def isEmpty (r : Ring α n) : Bool :=
  r.head == r.tail

def isFull (r : Ring α n) : Bool :=
  next r.head == r.tail

def depth (_ : Ring α n) : Nat :=
  n - 1

def pop (r : Ring α n) : Option α × Ring α n :=
  if r.isEmpty then (none, r)
  else (some r.cells[r.tail], { r with tail := next r.tail })

def push (r : Ring α n) (value : α) : Option α × Ring α n :=
  let (dropped, r) := if r.isFull then r.pop else (none, r)
  (dropped, { r with cells := r.cells.set r.head value, head := next r.head })

def toList (r : Ring α n) : List α :=
  (List.range r.length).map fun offset =>
    r.cells.get ⟨(r.tail.val + offset) % n, Nat.mod_lt _ r.tail.pos⟩

def sum? (a b : Nat) : Option Nat :=
  if a + b < Limits.counts then some (a + b) else none

def length? (r : Ring α n) : Option Nat :=
  (sum? r.head.val n).map fun sum => (sum - r.tail.val) % n

def toList? (r : Ring α n) : Option (List α) := do
  (List.range (← r.length?)).mapM fun offset =>
    (sum? r.tail.val offset).map fun sum => r.cells.get ⟨sum % n, Nat.mod_lt _ r.tail.pos⟩

/-- Forgets the values but leaves the cells as they are. -/
def reset (r : Ring α n) : Ring α n :=
  { r with head := ⟨0, r.head.pos⟩, tail := ⟨0, r.head.pos⟩ }

end Ring

end DirectionFinding
