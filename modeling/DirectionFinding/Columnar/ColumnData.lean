import DirectionFinding.Basic

/-!
Columns of a table, as rows of 32-bit words that came in batches. A row holds one value, at most
one, or a list of them; levels beside the values tell where rows start and which values are absent.
-/
namespace DirectionFinding.Columnar

inductive Leaf where
  | byte
  | word
  | real
  deriving DecidableEq, Repr

inductive Shape where
  | one
  | atMostOne
  | many
  deriving DecidableEq, Repr

structure ColumnData where
  name : String
  leaf : Leaf
  shape : Shape
  batches : List (List (List UInt32))
  deriving DecidableEq, Repr

/-- Place of a value: whether it continues a row, and how much of it is present. -/
structure Level where
  repetition : Nat
  definition : Nat
  deriving DecidableEq, Repr

namespace Shape

def repetitionLimit : Shape → Nat
  | many => 1
  | _ => 0

def definitionLimit : Shape → Nat
  | one => 0
  | atMostOne => 1
  | many => 2

/-- Levels of a row; an empty one still takes a place. -/
def rowLevels {α : Type} (s : Shape) : List α → List Level
  | [] => [⟨0, 0⟩]
  | _ :: later => ⟨0, s.definitionLimit⟩ :: later.map fun _ => ⟨1, s.definitionLimit⟩

end Shape

namespace ColumnData

def rows (c : ColumnData) : List (List UInt32) :=
  c.batches.flatten

def values (c : ColumnData) : List UInt32 :=
  c.rows.flatten

def levels (c : ColumnData) : List Level :=
  c.rows.flatMap c.shape.rowLevels

def absent (c : ColumnData) : Nat :=
  c.levels.countP fun level => level.definition < c.shape.definitionLimit

def repetitionCounts (c : ColumnData) : List Nat :=
  (List.range (c.shape.repetitionLimit + 1)).map fun k =>
    c.levels.countP fun level => level.repetition == k

def definitionCounts (c : ColumnData) : List Nat :=
  (List.range (c.shape.definitionLimit + 1)).map fun k =>
    c.levels.countP fun level => level.definition == k

def isEmpty (c : ColumnData) : Bool :=
  c.rows.length == c.absent

end ColumnData

structure ValueRange where
  least : UInt32
  greatest : UInt32
  deriving DecidableEq, Repr

namespace Leaf

/-- Whether a word stands for not-a-number, which is neither equal to nor less than anything. -/
def isUnordered (leaf : Leaf) (word : UInt32) : Bool :=
  leaf == .real && (Float32.ofBits word).isNaN

def less (leaf : Leaf) (a b : UInt32) : Bool :=
  match leaf with
  | .real => Float32.ofBits a < Float32.ofBits b
  | _ => a < b

/-- A zero at the lower end of a range counts as negative, at the upper end as positive. -/
def rangeOf (leaf : Leaf) (least greatest : UInt32) : ValueRange :=
  let isZero (word : UInt32) : Bool := leaf == .real && Float32.ofBits word == 0
  ⟨if isZero least then 0x80000000 else least, if isZero greatest then 0 else greatest⟩

def range? (leaf : Leaf) (values : List UInt32) : Option ValueRange :=
  match values.filter fun value => !leaf.isUnordered value with
  | [] => none
  | first :: rest =>
    some (leaf.rangeOf (rest.foldl (fun a b => if leaf.less b a then b else a) first)
      (rest.foldl (fun a b => if leaf.less a b then b else a) first))

def isAscending (leaf : Leaf) (ranges : List ValueRange) : Bool :=
  (ranges.zip ranges.tail).all fun (earlier, later) =>
    !leaf.less later.least earlier.least && !leaf.less later.greatest earlier.greatest

end Leaf

end DirectionFinding.Columnar
