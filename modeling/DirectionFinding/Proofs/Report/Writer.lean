import DirectionFinding.Proofs.Report.Table

/-!
Reports that go to a file batch by batch. Between two reports the file holds those of the full
batches and the others wait, in order; at the end the ones that still wait go to the file as well.
Neither loses, repeats or reorders a report, so that a file holds the same as if all reports had
come in one batch.
-/
namespace DirectionFinding

theorem toList_loop (bytes : ByteArray) (i : Nat) (gathered : List UInt8) :
    ByteArray.toList.loop bytes i gathered = gathered.reverse ++ bytes.data.toList.drop i := by
  fun_induction ByteArray.toList.loop bytes i gathered with
  | case1 i gathered inside ih =>
    have here : i < bytes.data.toList.length := inside
    rw [ih, List.reverse_cons, List.append_assoc, List.drop_eq_getElem_cons here]
    congr 2
    simp [ByteArray.get!, getElem!_pos, inside]
  | case2 i gathered outside =>
    have behind : bytes.data.toList.length ≤ i := Nat.le_of_not_lt outside
    rw [List.drop_eq_nil_of_le behind, List.append_nil]

theorem toList_append (a b : ByteArray) : (a ++ b).toList = a.toList ++ b.toList := by
  simp only [ByteArray.toList, toList_loop, List.reverse_nil, List.nil_append, List.drop_zero,
    ByteArray.toList_data_append]

theorem toUTF8_join (texts : List String) :
    (String.join texts).toUTF8.toList = texts.flatMap fun text => text.toUTF8.toList := by
  induction texts with
  | nil => simp
  | cons text texts ih =>
    rw [String.join_cons, List.flatMap_cons, ← ih, ← toList_append]
    rfl

namespace ReportFile

/-- A file that tells exactly some reports: as text byte by byte, as a table by a cell for each of them
in every column and in the pages from which its bytes are made. -/
structure Contains (f : ReportFile) (form : ReportForm) (reports : List Report) : Prop where
  text : form = .text →
    f.content = .text (Report.textOf reports) ∧
    f.bytes = reports.flatMap fun r => r.text.toUTF8.toList
  table : form = .table → ∃ columns,
    f.content = .table reports.length columns ∧
    f.bytes = Columnar.fileBytes (columns.map StoredColumn.data) reports.length ∧
    List.Forall₂ (fun stored c => stored.Stores c reports) columns Column.all

/-- A file that keeps what is written to it, is not finished yet, and holds some reports. -/
structure Holds (f : ReportFile) (form : ReportForm) (reports : List Report) : Prop where
  form : f.form = form
  destination : f.destination = .file
  unfinished : f.finished = false
  reports : f.reports = reports

theorem holds_new (form : ReportForm) : ({ form := form } : ReportFile).Holds form [] :=
  ⟨rfl, rfl, rfl, rfl⟩

variable {f : ReportFile} {form : ReportForm} {reports batch : List Report}

theorem Holds.add (holds : f.Holds form reports) (timely : ∀ r ∈ batch, r.requireClock = .ok ()) :
    ∃ next, f.add batch = .ok next ∧ next.Holds form (reports ++ batch) := by
  have passes : batch.forM Report.requireClock = .ok () := forM_eq_ok timely
  refine ⟨{ f with batches := f.batches ++ [batch] }, ?_, holds.form, holds.destination,
    holds.unfinished, ?_⟩
  · unfold ReportFile.add
    split
    · simp only [addText, holds.unfinished, holds.destination, passes, Bool.false_eq_true, if_false]
      rfl
    · simp only [addRows, holds.unfinished, passes, Bool.false_eq_true, if_false]
      rfl
  · rw [← holds.reports]
    simp only [ReportFile.reports, List.flatten_append, List.flatten_singleton]

theorem Holds.contains (holds : f.Holds form reports) :
    ({ f with finished := true } : ReportFile).Contains form reports := by
  obtain ⟨rfl, -, -, rfl⟩ := holds
  constructor
  · intro text
    refine ⟨by simp only [content, text]; rfl, ?_⟩
    simp only [bytes, content, text, Report.textOf, toUTF8_join, List.flatMap_map]
    rfl
  · intro table
    refine ⟨Column.all.map fun c => c.store f.batches, by simp only [content, table]; rfl, ?_, ?_⟩
    · simp only [bytes, content, table]
      rfl
    · rw [List.forall₂_map_left_iff, List.forall₂_same]
      exact fun c listed => Column.store_stores listed f.batches

theorem Holds.finish (holds : f.Holds form reports) :
    ∃ done, f.finish = .ok done ∧ done.destination = .file ∧ done.Contains form reports := by
  refine ⟨{ f with finished := true }, ?_, holds.destination, holds.contains⟩
  simp only [ReportFile.finish, holds.unfinished, holds.destination, Destination.refusal?,
    Bool.false_and, Bool.false_eq_true, if_false]

end ReportFile

namespace ReportWriter

variable {w : ReportWriter} {form : ReportForm} {reports : List Report}

/-- The reports sent to a writer are in its file or wait, and those that wait can be kept. -/
structure Holds (w : ReportWriter) (form : ReportForm) (reports : List Report) : Prop where
  file : w.file.Holds form w.file.reports
  all : w.file.reports ++ w.waiting = reports
  timely : ∀ r ∈ w.waiting, r.requireClock = .ok ()

theorem Holds.take (holds : w.Holds form reports) {report : Report}
    (timely : report.requireClock = .ok ()) :
    ∃ next, w.take report = .ok next ∧ next.Holds form (reports ++ [report]) := by
  have gathered : ∀ r ∈ w.waiting ++ [report], r.requireClock = .ok () := by
    intro r member
    rcases List.mem_append.mp member with waiting | last
    · exact holds.timely r waiting
    · rw [List.mem_singleton.mp last]
      exact timely
  have all : w.file.reports ++ (w.waiting ++ [report]) = reports ++ [report] := by
    rw [← List.append_assoc, holds.all]
  by_cases short : (w.waiting ++ [report]).length < ReportFile.batchSize
  · refine ⟨{ w with waiting := w.waiting ++ [report] }, ?_, holds.file, all, gathered⟩
    simp only [ReportWriter.take, if_pos short]
  · obtain ⟨file, added, filled⟩ := holds.file.add gathered
    refine ⟨{ file := file }, ?_, ?_, ?_, by simp⟩
    · simp only [ReportWriter.take, if_neg short, added]
      rfl
    · rw [filled.reports]
      exact filled
    · rw [filled.reports, List.append_nil, all]

private theorem Holds.takeAll (holds : w.Holds form reports) {more : List Report}
    (timely : ∀ r ∈ more, r.requireClock = .ok ()) :
    ∃ last, more.foldlM ReportWriter.take w = .ok last ∧ last.Holds form (reports ++ more) := by
  induction more generalizing w reports with
  | nil => exact ⟨w, rfl, by rwa [List.append_nil]⟩
  | cons report more ih =>
    rw [List.forall_mem_cons] at timely
    obtain ⟨next, taken, still⟩ := holds.take timely.1
    obtain ⟨last, rest, done⟩ := ih still timely.2
    refine ⟨last, ?_, by rwa [List.append_assoc] at done⟩
    rw [List.foldlM_cons, taken]
    exact rest

theorem Holds.close (holds : w.Holds form reports) :
    ∃ file, w.close = .ok file ∧ file.Holds form reports := by
  have all := holds.all
  cases waiting : w.waiting with
  | nil =>
    rw [waiting, List.append_nil] at all
    refine ⟨w.file, ?_, by rw [← all]; exact holds.file⟩
    simp only [ReportWriter.close, waiting, List.isEmpty_nil, if_true]
  | cons report rest =>
    obtain ⟨file, added, filled⟩ := holds.file.add holds.timely
    refine ⟨file, ?_, by rwa [all] at filled⟩
    rw [← added]
    simp only [ReportWriter.close, waiting, List.isEmpty_cons, Bool.false_eq_true, if_false]

end ReportWriter

/-- Reports that can be kept are all in the file of a stream, in order and once, however many
batches they make. -/
theorem ReportFile.ofStream_holds (form : ReportForm) {reports : List Report}
    (timely : ∀ r ∈ reports, r.requireClock = .ok ()) :
    ∃ file, ReportFile.ofStream form .file reports = .ok file ∧ file.Holds form reports := by
  have start : ReportWriter.Holds { file := { form := form } } form [] :=
    ⟨ReportFile.holds_new form, rfl, by simp⟩
  obtain ⟨last, taken, holds⟩ := start.takeAll timely
  obtain ⟨file, closed, filled⟩ := holds.close
  refine ⟨file, ?_, filled⟩
  simp only [ReportFile.ofStream, taken]
  exact closed

end DirectionFinding
