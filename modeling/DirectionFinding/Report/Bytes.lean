import DirectionFinding.Columnar.TableFile
import DirectionFinding.Report.File

/-!
Report files as bytes. Text is stored as it is, a table column by column.
-/
namespace DirectionFinding

def Cell.contents : Cell → List UInt32
  | absent => []
  | word n => [n]
  | byte n => [n.toUInt32]
  | real x => [x.toBits]
  | words ns => ns
  | bytes ns => ns.map UInt8.toUInt32
  | reals xs => xs.map Single.word

namespace ColumnKind

def leaf : ColumnKind → Columnar.Leaf
  | word => .word
  | byte => .byte
  | real => .real
  | listOf item => item.leaf

def isList : ColumnKind → Bool
  | listOf _ => true
  | _ => false

end ColumnKind

def ColumnHead.shape (c : ColumnHead) : Columnar.Shape :=
  if c.kind.isList then .many else if c.nullable then .atMostOne else .one

def StoredColumn.data (c : StoredColumn) : Columnar.ColumnData where
  name := c.name
  leaf := c.kind.leaf
  shape := c.shape
  batches := c.batches.map fun batch => batch.map Cell.contents

namespace ReportFile

def bytes (f : ReportFile) : Bytes :=
  match f.content with
  | .text content => content.toUTF8.toList
  | .table rows columns => Columnar.fileBytes (columns.map StoredColumn.data) rows

/-- Bytes of a finished file, counted for text as they are passed on, for a table as they are found
behind its path. -/
def size (f : ReportFile) : Nat :=
  match f.content, f.destination with
  | .text content, _ => content.utf8ByteSize
  | .table .., .drain | .table .., .console _ => 0
  | .table .., _ => f.bytes.length

end ReportFile

end DirectionFinding
