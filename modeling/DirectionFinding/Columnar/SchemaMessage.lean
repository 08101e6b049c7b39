import DirectionFinding.Columnar.ColumnData

/-!
The message that describes the columns of a table. It is written from its end to its front, so that
everything is written before what refers to it; a position is counted from the end. Parts are
aligned, and records of one layout share a description of it.
-/
namespace DirectionFinding.Columnar

structure Message where
  bytes : Bytes := []
  layouts : List (List Nat × Nat) := []
  deriving DecidableEq, Repr

abbrev MessageWriter := StateM Message

namespace Message

def position : MessageWriter Nat := do
  return (← get).bytes.length

def put (bytes : Bytes) : MessageWriter Unit :=
  modify fun m => { m with bytes := bytes ++ m.bytes }

/-- Fills up with zeros, so that after `length` more bytes the position is a multiple of
`alignment`. -/
def align (length alignment : Nat) : MessageWriter Unit := do
  let used := (← position) + length
  put (List.replicate ((alignment - used % alignment) % alignment) 0)

def number (size n : Nat) : MessageWriter Nat := do
  align size size
  put (littleEndian size n)
  position

def reference (target : Nat) : MessageWriter Nat := do
  align 4 4
  put (littleEndian 4 ((← position) + 4 - target))
  position

def text (s : String) : MessageWriter Nat := do
  let bytes := s.toUTF8.toList
  align (bytes.length + 1) 4
  put (bytes ++ [0])
  number 4 bytes.length

def references (targets : List Nat) : MessageWriter Nat := do
  align (4 * targets.length) 4
  for target in targets.reverse do
    let _ ← reference target
  number 4 targets.length

inductive Slot where
  | number (size n : Nat)
  | reference (target : Nat)
  deriving DecidableEq, Repr

def Slot.write : Slot → MessageWriter Nat
  | number size n => Message.number size n
  | reference target => Message.reference target

/-- Distances of the slots 0, 1 and so on from the head of a record, zero for an unused one. -/
def slotDistances (head : Nat) (written : List (Nat × Nat)) : List Nat :=
  let count := (written.map fun slot => slot.1 + 1).foldl max 0
  (List.range count).map fun k =>
    match written.lookup k with
    | some place => head - place
    | none => 0

/-- A record of slots, given in the order in which they are written. Its head refers to the layout,
which is written behind the head unless there is one already. -/
def tableRecord (slots : List (Nat × Slot)) : MessageWriter Nat := do
  let start ← position
  let mut written : List (Nat × Nat) := []
  for (k, slot) in slots do
    written := written ++ [(k, ← slot.write)]
  align 4 4
  let head := (← position) + 4
  let distances := slotDistances head written
  let layout := 2 * (distances.length + 2) :: (head - start) :: distances
  match (← get).layouts.lookup layout with
  | some known =>
    put (littleEndian 4 (0x100000000 + known - head))
  | none =>
    let length := 2 * layout.length
    put (layout.flatMap (littleEndian 2) ++ littleEndian 4 length)
    modify fun m => { m with layouts := (layout, head + length) :: m.layouts }
  return head

def leafType (leaf : Leaf) : MessageWriter (Nat × Nat) := do
  match leaf with
  | .byte => return (2, ← tableRecord [(0, .number 4 8)])
  | .word => return (2, ← tableRecord [(0, .number 4 32)])
  | .real => return (3, ← tableRecord [(0, .number 2 1)])

def columnRecord (name tag : Nat) (nullable : Bool) (children type : Nat) : MessageWriter Nat :=
  tableRecord ([(0, .reference name), (2, .number 1 tag)] ++
    (if nullable then [(1, .number 1 1)] else []) ++
    [(5, .reference children), (3, .reference type)])

def leafColumn (name : String) (leaf : Leaf) (nullable : Bool) : MessageWriter Nat := do
  let name ← text name
  let children ← references []
  let (tag, type) ← leafType leaf
  columnRecord name tag nullable children type

def column (c : ColumnData) : MessageWriter Nat := do
  match c.shape with
  | .one => leafColumn c.name c.leaf false
  | .atMostOne => leafColumn c.name c.leaf true
  | .many =>
    let name ← text c.name
    let item ← leafColumn "item" c.leaf true
    let type ← tableRecord []
    let children ← references [item]
    columnRecord name 12 false children type

def ofColumns (columns : List ColumnData) : Bytes :=
  let writer : MessageWriter Unit := do
    let schema ← tableRecord [(1, .reference (← references (← columns.mapM column)))]
    let message ← tableRecord [(0, .number 2 4), (1, .number 1 1), (2, .reference schema)]
    align 4 4
    let _ ← reference message
  (writer.run {}).2.bytes

def base64Digits : Array Char :=
  "ABCDEFGHIJKLMNOPQRSTUVWXYZabcdefghijklmnopqrstuvwxyz0123456789+/".toList.toArray

def base64 : Bytes → List Char
  | [] => []
  | a :: rest =>
    let digit (n : Nat) : Char := base64Digits.getD (n % 64) '='
    match rest with
    | [] =>
      let n := a.toNat * 0x10000
      [digit (n / 0x40000), digit (n / 0x1000), '=', '=']
    | [b] =>
      let n := a.toNat * 0x10000 + b.toNat * 0x100
      [digit (n / 0x40000), digit (n / 0x1000), digit (n / 0x40), '=']
    | b :: c :: rest =>
      let n := a.toNat * 0x10000 + b.toNat * 0x100 + c.toNat
      digit (n / 0x40000) :: digit (n / 0x1000) :: digit (n / 0x40) :: digit n :: base64 rest

def textOfColumns (columns : List ColumnData) : String :=
  let message := ofColumns columns
  String.ofList (base64 (List.replicate 4 255 ++ littleEndian 4 message.length ++ message))

end Message

end DirectionFinding.Columnar
