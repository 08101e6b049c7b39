import DirectionFinding.Columnar.Chunk
import DirectionFinding.Columnar.SchemaMessage

/-!
A file of columns: a mark, the columns, the indexes of their values and pages, and a closing record
that describes everything and stands in front of its length and the mark. A table without rows has
no columns in its file.
-/
namespace DirectionFinding.Columnar
open DirectionFinding.Compact

def mark : Bytes :=
  "PAR1".toUTF8.toList

def leafFields (leaf : Leaf) (name : String) (repetition : Int) : Bytes :=
  let integer (converted : Int) (bits : UInt8) : List Field :=
    [.int 6 converted, .nested 10 (record [.nested 10 (record [.byte 1 bits, .flag 2 false])])]
  record ([.int 1 (if leaf = .real then 4 else 1), .int 3 repetition, .text 4 name] ++
    match leaf with
    | .byte => integer 11 8
    | .word => integer 13 32
    | .real => [])

def schemaElements (c : ColumnData) : List Bytes :=
  match c.shape with
  | .one => [leafFields c.leaf c.name 0]
  | .atMostOne => [leafFields c.leaf c.name 1]
  | .many =>
    [record [.int 3 0, .text 4 c.name, .int 5 1, .int 6 3, .nested 10 (record [.nested 3 [0]])],
      record [.int 3 2, .text 4 "list", .int 5 1], leafFields c.leaf "item" 1]

def schema (columns : List ColumnData) : List Bytes :=
  record [.text 4 "arrow_schema", .int 5 columns.length] :: columns.flatMap schemaElements

structure PlacedChunk where
  offset : Nat
  chunk : Chunk
  valueIndex : Option (Nat × Bytes)
  pageIndex : Nat × Bytes
  deriving DecidableEq, Repr

namespace PlacedChunk

/-- Places columns behind the mark, then the indexes of their values, then those of their pages. -/
def placeAll (columns : List ColumnData) : List PlacedChunk :=
  let chunks := layOut (fun c : Chunk => c.bytes.length) mark.length (columns.map Chunk.ofData)
  let behind := mark.length + total (chunks.map fun c => c.2.bytes.length)
  let valueIndexes := layOut (fun index : Option Bytes => (index.getD []).length) behind
    (chunks.map fun c => c.2.valueIndex)
  let behind := behind + total (valueIndexes.map fun index => (index.2.getD []).length)
  let pageIndexes := layOut (fun index : Bytes => index.length) behind
    (chunks.map fun c => c.2.pageIndex c.1)
  ((chunks.zip valueIndexes).zip pageIndexes).map fun ((c, values), pages) =>
    ⟨c.1, c.2, values.2.map fun bytes => (values.1, bytes), pages⟩

def description (c : PlacedChunk) : Bytes :=
  record ([.long 2 0, .nested 3 (c.chunk.description c.offset), .long 4 c.pageIndex.1,
    .int 5 c.pageIndex.2.length] ++
    match c.valueIndex with
    | some (offset, bytes) => [.long 6 offset, .int 7 bytes.length]
    | none => [])

end PlacedChunk

def rowGroup (chunks : List PlacedChunk) (rows : Nat) : Bytes :=
  record [.list 1 .record (chunks.map PlacedChunk.description),
    .long 2 (total (chunks.map fun c => c.chunk.plainLength)), .long 3 rows, .long 5 mark.length,
    .long 6 (total (chunks.map fun c => c.chunk.bytes.length)), .short 7 0]

def creator : String := "direction finding reports"

def closing (columns : List ColumnData) (rows : Nat) (groups : List Bytes) : Bytes :=
  record [.int 1 1, .list 2 .record (schema columns), .long 3 rows, .list 4 .record groups,
    .list 5 .record
      [record [.text 1 "ARROW:schema", .text 2 (Message.textOfColumns columns)]],
    .text 6 creator,
    .list 7 .record (columns.map fun _ => record [.nested 1 [0]])]

def fileBytes (columns : List ColumnData) (rows : Nat) : Bytes :=
  let chunks := if rows = 0 then [] else PlacedChunk.placeAll columns
  let groups := if rows = 0 then [] else [rowGroup chunks rows]
  let closing := closing columns rows groups
  mark ++ chunks.flatMap (fun c => c.chunk.bytes) ++
    chunks.flatMap (fun c => (c.valueIndex.map (·.2)).getD []) ++
    chunks.flatMap (fun c => c.pageIndex.2) ++
    closing ++ littleEndian 4 closing.length ++ mark

end DirectionFinding.Columnar
