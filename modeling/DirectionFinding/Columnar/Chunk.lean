import DirectionFinding.Columnar.Compression
import DirectionFinding.Columnar.Paging
import DirectionFinding.Basic

/-!
The part of a table file that holds one column: a page with its dictionary and pages with levels and
with the places of values in the dictionary, each behind a record that describes it and each
compressed.
-/
namespace DirectionFinding.Columnar
open DirectionFinding.Compact

structure Page where
  bytes : Bytes
  plainLength : Nat
  deriving DecidableEq, Repr

namespace Page

inductive Kind where
  | data
  | dictionary
  deriving DecidableEq, Repr

def Kind.code : Kind → Int
  | data => 0
  | dictionary => 2

/-- Compresses a page and puts its head in front, with what is special to its kind. -/
def ofBody (kind : Kind) (special : Field) (body : Bytes) : Page :=
  let compressed := Compression.compress body
  let head := record [.int 1 kind.code, .int 2 body.length, .int 3 compressed.length, special]
  ⟨head ++ compressed, head.length + body.length⟩

end Page

inductive ValueEncoding where
  | plain
  | runLength
  | dictionary
  deriving DecidableEq, Repr

def ValueEncoding.code : ValueEncoding → Int
  | plain => 0
  | runLength => 3
  | dictionary => 8

/-- What is known about the values of a page or column: the range, if there is one, and the number
of places without a value. Columns of reals carry their range a second time, in the fields that
older readers look at; pages never do. -/
def statistics (range : Option ValueRange) (absent : Nat) (forOlderReaders : Bool) : Bytes :=
  let fields (greatest least : Nat) : List Field :=
    match range with
    | some r =>
      [.binary greatest (littleEndian 4 r.greatest.toNat),
        .binary least (littleEndian 4 r.least.toNat)]
    | none => []
  record ((if forOlderReaders then fields 1 2 else []) ++ .long 3 absent :: fields 5 6 ++
    [.flag 7 range.isSome, .flag 8 range.isSome])

/-- Levels of one sort behind their length, if there is more than one level. -/
def levelBytes (limit : Nat) (levels : List Nat) : Bytes :=
  if limit = 0 then []
  else
    let encoded := RunLength.encode (RunLength.bitsFor limit) levels
    littleEndian 4 encoded.length ++ encoded

def layOut {α : Type} (length : α → Nat) : Nat → List α → List (Nat × α)
  | _, [] => []
  | offset, a :: rest => (offset, a) :: layOut length (offset + length a) rest

/-- Counts of levels of the parts of a column, in fields with the given numbers, where there is more
than one level. -/
def countFields (shape : Shape) (parts : List ColumnData) (repetition definition : Nat) :
    List Field :=
  (if shape.repetitionLimit = 0 then []
    else [.longs repetition (parts.flatMap ColumnData.repetitionCounts)]) ++
  (if shape.definitionLimit = 0 then []
    else [.longs definition (parts.flatMap ColumnData.definitionCounts)])

structure DataPage where
  part : ColumnData
  range : Option ValueRange
  page : Page
  deriving DecidableEq, Repr

namespace DataPage

def body (part : ColumnData) (rows : PageRows) : Bytes :=
  let levels := part.levels
  levelBytes part.shape.repetitionLimit (levels.map Level.repetition) ++
    levelBytes part.shape.definitionLimit (levels.map Level.definition) ++
    UInt8.ofNat rows.width :: RunLength.encode rows.width rows.places

def ofRows (c : ColumnData) (rows : PageRows) : DataPage :=
  let part := { c with batches := [rows.rows] }
  let range := part.leaf.range? part.values
  let known := match range with
    | some _ => [Field.nested 5 (statistics range part.absent false)]
    | none => []
  { part := part
    range := range
    page := .ofBody .data
      (.nested 5 (record ([.int 1 part.levels.length, .int 2 ValueEncoding.dictionary.code,
        .int 3 ValueEncoding.runLength.code, .int 4 ValueEncoding.runLength.code] ++ known)))
      (body part rows) }

/-- Bytes of the least and greatest value. A page without values has empty ones, and one whose
values have no range has none. -/
def bounds (p : DataPage) : Option (Bytes × Bytes) :=
  if p.part.isEmpty then some ([], [])
  else p.range.map fun r => (littleEndian 4 r.least.toNat, littleEndian 4 r.greatest.toNat)

end DataPage

structure Chunk where
  data : ColumnData
  dictionaryPage : Page
  pages : List DataPage
  deriving DecidableEq, Repr

namespace Chunk

def ofData (data : ColumnData) : Chunk :=
  let paging := Paging.ofColumn data
  let dictionary := paging.dictionary
  { data := data
    dictionaryPage := .ofBody .dictionary
      (.nested 7 (record [.int 1 dictionary.size, .int 2 ValueEncoding.plain.code, .flag 3 false]))
      dictionary.entryBytes
    pages := paging.pages.reverse.map (.ofRows data) }

def bytes (c : Chunk) : Bytes :=
  c.dictionaryPage.bytes ++ c.pages.flatMap fun p => p.page.bytes

def plainLength (c : Chunk) : Nat :=
  c.dictionaryPage.plainLength + total (c.pages.map fun p => p.page.plainLength)

def order (c : Chunk) : Int :=
  let ranges := (c.pages.filter fun p => !p.part.isEmpty).filterMap DataPage.range
  if c.data.leaf.isAscending ranges then 1
  else if c.data.leaf.isAscending ranges.reverse then 2 else 0

/-- The index of the values of a column. There is none if the values of a page have no range. -/
def valueIndex (c : Chunk) : Option Bytes :=
  (c.pages.mapM DataPage.bounds).map fun bounds =>
    record ([.list 1 .yes (c.pages.map fun p => [if p.part.isEmpty then 1 else 2]),
      .list 2 .binary (bounds.map fun b => counted b.1),
      .list 3 .binary (bounds.map fun b => counted b.2), .int 4 c.order,
      .longs 5 (c.pages.map fun p => p.part.absent)] ++
      countFields c.data.shape (c.pages.map DataPage.part) 6 7)

def pageIndex (c : Chunk) (offset : Nat) : Bytes :=
  let places := layOut (fun p : DataPage => p.page.bytes.length)
    (offset + c.dictionaryPage.bytes.length) c.pages
  let rows := layOut (fun p : DataPage => p.part.rows.length) 0 c.pages
  record [.list 1 .record ((places.zip rows).map fun ((place, p), (row, _)) =>
    record [.long 1 place, .int 2 p.page.bytes.length, .long 3 row])]

def description (c : Chunk) (offset : Nat) : Bytes :=
  let levels := countFields c.data.shape [c.data] 2 3
  let path := c.data.name :: if c.data.shape = .many then ["list", "item"] else []
  record ([.int 1 (if c.data.leaf = .real then 4 else 1),
    .list 2 .int ([.plain, .runLength, .dictionary].map fun e : ValueEncoding => signed e.code),
    .list 3 .binary (path.map fun part => counted part.toUTF8.toList),
    .int 4 1, .long 5 c.data.levels.length, .long 6 c.plainLength, .long 7 c.bytes.length,
    .long 9 (offset + c.dictionaryPage.bytes.length), .long 11 offset,
    .nested 12 (statistics (c.data.leaf.range? c.data.values) c.data.absent
      (c.data.leaf = .real))] ++
    if levels.isEmpty then [] else [.nested 16 (record levels)])

end Chunk

end DirectionFinding.Columnar
