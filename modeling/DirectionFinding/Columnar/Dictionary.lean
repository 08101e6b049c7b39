import DirectionFinding.Columnar.ColumnData
import Std.Data.HashMap

/-!
The dictionary of a column: its distinct values in the order in which they first appear, and for
every value its place among them.
-/
namespace DirectionFinding.Columnar

/-- A dictionary under construction; entries and places have the newest first. -/
structure Dictionary where
  entries : List UInt32 := []
  size : Nat := 0
  known : Std.HashMap UInt32 Nat := {}
  places : List Nat := []

namespace Dictionary

/-- Takes the next value. Words are compared bit by bit, so not-a-number has an entry, too. -/
def add (d : Dictionary) (value : UInt32) : Dictionary :=
  match d.known[value]? with
  | some place => { d with places := place :: d.places }
  | none =>
    { entries := value :: d.entries
      size := d.size + 1
      known := d.known.insert value d.size
      places := d.size :: d.places }

def ofValues (values : List UInt32) : Dictionary :=
  values.foldl add {}

def entryBytes (d : Dictionary) : Bytes :=
  d.entries.reverse.flatMap fun entry => littleEndian 4 entry.toNat

end Dictionary

end DirectionFinding.Columnar
