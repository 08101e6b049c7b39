import DirectionFinding.Columnar.Chunk
import Mathlib.Algebra.Group.Nat.Defs
import Mathlib.Data.List.Forall2

/-!
A column is read back from its pages. A page tells the levels of its rows and, for every value, a
place in the dictionary that all pages share. Entries are only added behind those that are there, so a
place keeps its value from page to page; levels tell where a row starts and whether it has a value. The
pages therefore give the rows of the column in order, wherever they were cut and however the rows came
in batches.
-/
namespace DirectionFinding.Columnar

/-- Values are found at places among the entries of a dictionary, oldest first. -/
def Found (entries : List UInt32) : List Nat → List UInt32 → Prop :=
  List.Forall₂ fun place value => entries[place]? = some value

section
variable {entries more values values' : List UInt32} {places places' : List Nat}

private theorem Found.grow (found : Found entries places values) (longer : entries <+: more) :
    Found more places values := by
  refine List.Forall₂.imp (fun place value here => ?_) found
  obtain ⟨later, rfl⟩ := longer
  have inside : place < entries.length := (List.getElem?_eq_some_iff.mp here).1
  rw [List.getElem?_append_left inside, here]

private theorem Found.append (found : Found entries places values)
    (found' : Found entries places' values') :
    Found entries (places ++ places') (values ++ values') :=
  List.rel_append found found'

private theorem Found.lt (found : Found entries places values) :
    ∀ place ∈ places, place < entries.length := by
  induction found with
  | nil => simp
  | cons here _ ih =>
    rw [List.forall_mem_cons]
    exact ⟨(List.getElem?_eq_some_iff.mp here).1, ih⟩

private theorem Found.values_eq (found : Found entries places values) :
    places.filterMap (entries[·]?) = values := by
  induction found with
  | nil => rfl
  | cons here _ ih => rw [List.filterMap_cons, here, ih]

end

namespace Dictionary

/-- Every place in the table is that of its value among the entries. -/
structure Indexed (d : Dictionary) : Prop where
  size : d.size = d.entries.length
  known : ∀ (value : UInt32) (place : Nat),
    d.known[value]? = some place → d.entries.reverse[place]? = some value

private theorem indexed_empty : ({} : Dictionary).Indexed where
  size := rfl
  known value place here := by simp at here

variable {d : Dictionary}

private theorem Indexed.add (indexed : d.Indexed) (value : UInt32) :
    (d.add value).Indexed ∧ d.entries.reverse <+: (d.add value).entries.reverse ∧
      ∃ place, (d.add value).places = place :: d.places ∧
        (d.add value).entries.reverse[place]? = some value := by
  have newest : (value :: d.entries).reverse[d.size]? = some value := by
    rw [indexed.size, List.reverse_cons, ← List.length_reverse, List.getElem?_concat_length]
  have longer : d.entries.reverse <+: (value :: d.entries).reverse := by
    rw [List.reverse_cons]
    exact List.prefix_append _ _
  unfold Dictionary.add
  split
  · rename_i place here
    exact ⟨⟨indexed.size, indexed.known⟩, List.prefix_refl _, place, rfl, indexed.known _ _ here⟩
  · refine ⟨⟨?_, ?_⟩, longer, d.size, rfl, newest⟩
    · rw [List.length_cons, indexed.size]
    · intro other place here
      rw [Std.HashMap.getElem?_insert] at here
      split at here
      · rename_i same
        cases here
        rw [← eq_of_beq same]
        exact newest
      · have before := indexed.known other place here
        obtain ⟨later, grown⟩ := longer
        rw [← grown, List.getElem?_append_left (List.getElem?_eq_some_iff.mp before).1, before]

private theorem Indexed.addAll (indexed : d.Indexed) (values : List UInt32) :
    let next := values.foldl Dictionary.add d
    next.Indexed ∧ d.entries.reverse <+: next.entries.reverse ∧
      ∃ places, next.places.reverse = d.places.reverse ++ places ∧
        Found next.entries.reverse places values := by
  induction values generalizing d with
  | nil => exact ⟨indexed, List.prefix_refl _, [], by simp, .nil⟩
  | cons value values ih =>
    obtain ⟨once, longer, place, placed, here⟩ := indexed.add value
    obtain ⟨all, longest, places, rest, found⟩ := ih once
    refine ⟨all, longer.trans longest, place :: places, ?_, .cons ?_ found⟩
    · rw [List.foldl_cons, rest, placed]
      simp
    · cases Found.grow (.cons here .nil) longest with
      | cons later _ => exact later

end Dictionary

/-- A page with the places of its values, none of which needs more bits than the page gives it. -/
structure PageRows.Kept (entries : List UInt32) (page : PageRows) : Prop where
  found : Found entries page.places page.rows.flatten
  narrow : ∀ place ∈ page.places, place < 2 ^ page.width

private theorem lt_pow_bitsFor {place size : Nat} (inside : place < size) :
    place < 2 ^ RunLength.bitsFor (size - 1) := by
  have last : place ≤ size - 1 := Nat.le_sub_one_of_lt inside
  refine Nat.lt_of_le_of_lt last ?_
  rw [RunLength.bitsFor]
  split
  · rename_i single
    rw [single]
    decide
  · exact Nat.lt_log2_self

namespace Paging

structure Holds (p : Paging) (rows : List (List UInt32)) : Prop where
  indexed : p.dictionary.Indexed
  pages : ∀ page ∈ p.pages, page.Kept p.dictionary.entries.reverse
  opened : Found p.dictionary.entries.reverse p.dictionary.places.reverse p.rows.reverse.flatten
  count : p.rowCount = p.rows.length
  rows : p.pages.reverse.flatMap PageRows.rows ++ p.rows.reverse = rows

variable {p : Paging} {rows : List (List UInt32)}

private theorem holds_empty : ({} : Paging).Holds [] :=
  ⟨Dictionary.indexed_empty, by simp, .nil, rfl, rfl⟩

private theorem Holds.closePage (holds : p.Holds rows) : p.closePage.Holds rows where
  indexed := ⟨holds.indexed.size, holds.indexed.known⟩
  pages := by
    intro page member
    rcases List.mem_cons.mp member with rfl | earlier
    · refine ⟨holds.opened, fun place here => ?_⟩
      have inside := holds.opened.lt place here
      rw [List.length_reverse, ← holds.indexed.size] at inside
      exact lt_pow_bitsFor inside
    · exact holds.pages page earlier
  opened := .nil
  count := rfl
  rows := by
    rw [← holds.rows]
    simp [Paging.closePage]

private theorem Holds.endStride (holds : p.Holds rows) : p.endStride.Holds rows := by
  unfold Paging.endStride
  split
  · exact holds.closePage
  · exact ⟨holds.indexed, holds.pages, holds.opened, holds.count, holds.rows⟩

private theorem Holds.addRow (holds : p.Holds rows) (row : List UInt32) :
    (p.addRow row).Holds (rows ++ [row]) := by
  obtain ⟨indexed, longer, places, grown, found⟩ := holds.indexed.addAll row
  have next : Holds { p with
      dictionary := row.foldl Dictionary.add p.dictionary
      rows := row :: p.rows
      rowCount := p.rowCount + 1
      valueCount := p.valueCount + row.length
      levels := p.levels + max 1 row.length } (rows ++ [row]) := by
    refine ⟨indexed, fun page member => ?_, ?_, congrArg (· + 1) holds.count, ?_⟩
    · have kept := holds.pages page member
      exact ⟨kept.found.grow longer, kept.narrow⟩
    · simp only [grown, List.reverse_cons, List.flatten_append, List.flatten_singleton]
      exact (holds.opened.grow longer).append found
    · simp only [List.reverse_cons, ← List.append_assoc, holds.rows]
  simp only [Paging.addRow]
  split
  · exact next.endStride
  · exact next

private theorem Holds.addRows (holds : p.Holds rows) (batch : List (List UInt32)) :
    (batch.foldl Paging.addRow p).Holds (rows ++ batch) := by
  induction batch generalizing p rows with
  | nil => simpa using holds
  | cons row batch ih => simpa using ih (holds.addRow row)

private theorem Holds.addBatch (holds : p.Holds rows) (batch : List (List UInt32)) :
    (p.addBatch batch).Holds (rows ++ batch) :=
  (holds.addRows batch).endStride

private theorem Holds.addBatches (holds : p.Holds rows) (batches : List (List (List UInt32))) :
    (batches.foldl Paging.addBatch p).Holds (rows ++ batches.flatten) := by
  induction batches generalizing p rows with
  | nil => simpa using holds
  | cons batch batches ih => simpa using ih (holds.addBatch batch)

private theorem Holds.finish (holds : p.Holds rows) :
    p.finish.Holds rows ∧ p.finish.rows = [] := by
  unfold Paging.finish
  split
  · rename_i nothing
    exact ⟨holds, List.length_eq_zero_iff.mp (holds.count.symm.trans nothing)⟩
  · exact ⟨holds.closePage, rfl⟩

private theorem ofColumn_holds (c : ColumnData) :
    (ofColumn c).Holds c.rows ∧ (ofColumn c).rows = [] :=
  (holds_empty.addBatches c.batches).finish

end Paging

def Level.continues (level : Level) : Bool :=
  level.repetition != 0

/-- Rows from levels and values. A place takes the next value if its definition reaches `limit`. -/
def assemble {α : Type} (limit : Nat) : List Level → List α → List (List α)
  | [], _ => []
  | level :: levels, values =>
    let own := values.take (if level.definition = limit then 1 else 0)
    let later := assemble limit levels (values.drop own.length)
    if levels.head?.any Level.continues then (own ++ later.headD []) :: later.tail else own :: later

def Shape.Fits {α : Type} : Shape → List α → Prop
  | one, row => row.length = 1
  | atMostOne, row => row.length ≤ 1
  | many, _ => True

section
variable {α : Type} {limit : Nat} {levels : List Level}

private theorem assemble_row (next : levels.head?.any Level.continues = false) (first : α)
    (more values : List α) (repetition : Nat) :
    assemble limit (⟨repetition, limit⟩ :: more.map (fun _ => ⟨1, limit⟩) ++ levels)
        (first :: more ++ values) = (first :: more) :: assemble limit levels values := by
  induction more generalizing first repetition with
  | nil => simp [assemble, next]
  | cons second more ih =>
    have later := ih second 1
    simp only [List.map_cons, List.cons_append] at later ⊢
    rw [assemble]
    simp only [if_true, List.take_succ_cons, List.take_zero, List.length_singleton,
      List.drop_succ_cons, List.drop_zero, later, List.head?_cons, Option.any_some, Level.continues,
      List.headD_cons, List.tail_cons]
    rfl

private theorem assemble_absent (next : levels.head?.any Level.continues = false)
    (some : limit ≠ 0) (values : List α) :
    assemble limit (⟨0, 0⟩ :: levels) values = [] :: assemble limit levels values := by
  simp [assemble, next, some.symm]

private theorem rowLevels_first (shape : Shape) (rows : List (List α)) :
    (rows.flatMap shape.rowLevels).head?.any Level.continues = false := by
  cases rows with
  | nil => rfl
  | cons row rows => cases row <;> simp [Shape.rowLevels, Level.continues]

private theorem assemble_rowLevels (shape : Shape) {rows : List (List α)}
    (fit : ∀ row ∈ rows, shape.Fits row) :
    assemble shape.definitionLimit (rows.flatMap shape.rowLevels) rows.flatten = rows := by
  induction rows with
  | nil => rfl
  | cons row rows ih =>
    rw [List.forall_mem_cons] at fit
    have next := rowLevels_first shape rows
    rw [List.flatMap_cons, List.flatten_cons]
    cases row with
    | nil =>
      have optional : shape.definitionLimit ≠ 0 := by
        cases shape with
        | one => cases fit.1
        | atMostOne | many => decide
      rw [Shape.rowLevels, List.singleton_append, List.nil_append, assemble_absent next optional,
        ih fit.2]
    | cons first more =>
      rw [Shape.rowLevels, assemble_row next, ih fit.2]

end

namespace Paging

/-- The rows that the pages of a column give back, by their levels and by the places of their values
in the dictionary. -/
def readBack (p : Paging) (shape : Shape) : List (List UInt32) :=
  p.pages.reverse.flatMap fun page =>
    assemble shape.definitionLimit (page.rows.flatMap shape.rowLevels)
      (page.places.filterMap (p.dictionary.entries.reverse[·]?))

private theorem rows_ofColumn (c : ColumnData) :
    (ofColumn c).pages.reverse.flatMap PageRows.rows = c.rows := by
  obtain ⟨holds, closed⟩ := ofColumn_holds c
  simpa [closed] using holds.rows

/-- The pages of a column give back its rows, and every place fits into the bits of its page. -/
theorem readBack_ofColumn (c : ColumnData) (fit : ∀ row ∈ c.rows, c.shape.Fits row) :
    (ofColumn c).readBack c.shape = c.rows ∧
      ∀ page ∈ (ofColumn c).pages, ∀ place ∈ page.places, place < 2 ^ page.width := by
  obtain ⟨holds, -⟩ := ofColumn_holds c
  refine ⟨?_, fun page member => (holds.pages page member).narrow⟩
  calc (ofColumn c).readBack c.shape
      = (ofColumn c).pages.reverse.flatMap PageRows.rows := by
        refine List.flatMap_congr fun page member => ?_
        have fits : ∀ row ∈ page.rows, c.shape.Fits row := fun row here =>
          fit row (rows_ofColumn c ▸ List.mem_flatMap.mpr ⟨page, member, here⟩)
        rw [(holds.pages page (List.mem_reverse.mp member)).found.values_eq,
          assemble_rowLevels c.shape fits]
    _ = c.rows := rows_ofColumn c

end Paging

theorem Chunk.rows_ofData (c : ColumnData) :
    ((Chunk.ofData c).pages.flatMap fun page => page.part.rows) = c.rows := by
  have part (page : PageRows) : (DataPage.ofRows c page).part.rows = page.rows :=
    List.flatten_singleton
  rw [← Paging.rows_ofColumn c]
  simp only [Chunk.ofData, List.flatMap_map, part]

end DirectionFinding.Columnar
