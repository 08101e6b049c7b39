import DirectionFinding.Columnar.Dictionary
import DirectionFinding.Columnar.RunLength

/-!
Cutting a column into pages. Rows come in batches and are looked at in strides: after each of them
the page is closed if it has many rows, or if the places of its values may take much room. All pages
of a column share its dictionary, which grows from page to page.
-/
namespace DirectionFinding.Columnar

structure PageRows where
  rows : List (List UInt32)
  places : List Nat
  width : Nat
  deriving DecidableEq, Repr

/-- A column that is being cut; pages and the rows of the open page have the newest first. `levels`
counts the levels of the open stride. -/
structure Paging where
  dictionary : Dictionary := {}
  pages : List PageRows := []
  rows : List (List UInt32) := []
  rowCount : Nat := 0
  valueCount : Nat := 0
  levels : Nat := 0

namespace Paging

/-- Levels of a stride; the row that reaches them is its last. -/
def strideLevels : Nat := 1024

def pageRows : Nat := 20000

def pageBytes : Nat := 0x100000

def width (p : Paging) : Nat :=
  RunLength.bitsFor (p.dictionary.size - 1)

/-- Bytes that the places of the open page take at most: a head in front of every eight. -/
def placesBound (p : Paging) : Nat :=
  (p.valueCount + 7) / 8 * (1 + p.width)

def closePage (p : Paging) : Paging :=
  { dictionary := { p.dictionary with places := [] }
    pages := ⟨p.rows.reverse, p.dictionary.places.reverse, p.width⟩ :: p.pages }

def endStride (p : Paging) : Paging :=
  if p.rowCount ≠ 0 ∧ (pageRows ≤ p.rowCount ∨ pageBytes ≤ p.placesBound) then p.closePage
  else { p with levels := 0 }

def addRow (p : Paging) (row : List UInt32) : Paging :=
  let p := { p with
    dictionary := row.foldl Dictionary.add p.dictionary
    rows := row :: p.rows
    rowCount := p.rowCount + 1
    valueCount := p.valueCount + row.length
    levels := p.levels + max 1 row.length }
  if strideLevels ≤ p.levels then p.endStride else p

def addBatch (p : Paging) (batch : List (List UInt32)) : Paging :=
  (batch.foldl addRow p).endStride

def finish (p : Paging) : Paging :=
  if p.rowCount = 0 then p else p.closePage

def ofColumn (c : ColumnData) : Paging :=
  (c.batches.foldl addBatch {}).finish

end Paging

end DirectionFinding.Columnar
