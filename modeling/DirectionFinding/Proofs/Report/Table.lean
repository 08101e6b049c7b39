import DirectionFinding.Proofs.Columnar.Paging
import DirectionFinding.Report.Bytes

/-!
The columns that a table file keeps. Whatever the batches in which the reports came, a column holds one
cell for every report, in order, and its pages give the same cells back.
-/
namespace DirectionFinding

/-- A stored column that holds the cells of some reports and gives them back from its pages. -/
structure StoredColumn.Stores (stored : StoredColumn) (c : Column) (reports : List Report) :
    Prop where
  head : stored.toColumnHead = c.toColumnHead
  cells : stored.cells = reports.map c.cell
  chunk : ((Columnar.Chunk.ofData stored.data).pages.flatMap fun page => page.part.rows) =
    reports.map fun r => (c.cell r).contents
  readBack : (Columnar.Paging.ofColumn stored.data).readBack stored.shape =
    reports.map fun r => (c.cell r).contents
  narrow : ∀ page ∈ (Columnar.Paging.ofColumn stored.data).pages, ∀ place ∈ page.places,
    place < 2 ^ page.width

namespace Column

theorem fits_contents : ∀ c ∈ all, ∀ r : Report, c.shape.Fits (c.cell r).contents := by
  have optional (x : Option Float32) : (ofOption x).contents.length ≤ 1 := by
    cases x <;> simp [ofOption, Cell.contents]
  have elevations : (∀ r : Report, (ofOption r.fix.raw.elevation).contents.length ≤ 1) ∧
      ∀ r : Report, (ofOption r.fix.smoothed.elevation).contents.length ≤ 1 :=
    ⟨fun r => optional _, fun r => optional _⟩
  simpa [all, ColumnHead.shape, ColumnKind.isList, Columnar.Shape.Fits, Cell.contents]
    using elevations

theorem store_stores {c : Column} (listed : c ∈ all) (batches : List (List Report)) :
    (c.store batches).Stores c batches.flatten := by
  have rows : (c.store batches).data.rows = batches.flatten.map fun r => (c.cell r).contents := by
    simp only [store, StoredColumn.data, Columnar.ColumnData.rows, List.map_map, List.map_flatten,
      Function.comp_def]
  have fit : ∀ row ∈ (c.store batches).data.rows, c.shape.Fits row := by
    intro row member
    rw [rows] at member
    obtain ⟨r, -, rfl⟩ := List.mem_map.mp member
    exact fits_contents c listed r
  obtain ⟨readBack, narrow⟩ := Columnar.Paging.readBack_ofColumn _ fit
  exact ⟨rfl, by simp [StoredColumn.cells, store, List.map_flatten],
    (Columnar.Chunk.rows_ofData _).trans rows, readBack.trans rows, narrow⟩

end Column

end DirectionFinding
