import DirectionFinding.Report.Text
import Mathlib

/-!
Lines of a report are read back. A line that does not frame a report is a key, a colon and numbers
with commas between them; no number holds any of these marks, so the marks show where each of them
ends. Two lines with the same text are the same.
-/
namespace DirectionFinding

namespace Integer

theorem text_eq_repr (n : Int) : text n = n.repr := by
  cases n <;> rfl

theorem mem_text {n : Int} {c : Char} (member : c ∈ (text n).toList) : c.isDigit ∨ c = '-' := by
  have digits {m : Nat} (inside : c ∈ (Nat.repr m).toList) : c.isDigit := by
    rw [Nat.repr_eq_ofList_toDigits, String.toList_ofList] at inside
    exact Nat.isDigit_of_mem_toDigits (by decide) (by decide) inside
  cases n with
  | ofNat m => exact .inl (digits member)
  | negSucc m =>
    rw [text, String.toList_append] at member
    rcases List.mem_append.mp member with sign | inside
    · exact .inr (List.mem_singleton.mp sign)
    · exact .inl (digits inside)

theorem notMem_text {c : Char} (noDigit : c.isDigit = false) (noSign : c ≠ '-') (n : Int) :
    c ∉ (text n).toList := by
  intro member
  rcases mem_text member with digit | sign
  · rw [noDigit] at digit
    cases digit
  · exact noSign sign

def texts (numbers : List Int) : String :=
  ",".intercalate (numbers.map text)

def ofTexts? (cs : List Char) : Option (List Int) :=
  (cs.splitOn ',').mapM fun number => (String.ofList number).toInt?

theorem toList_texts (numbers : List Int) :
    (texts numbers).toList = [','].intercalate (numbers.map fun n => (text n).toList) := by
  simp [texts, Function.comp_def]

theorem ofTexts?_texts {numbers : List Int} (nonempty : numbers ≠ []) :
    ofTexts? (texts numbers).toList = some numbers := by
  have plain : ∀ cs ∈ numbers.map fun n => (text n).toList, ',' ∉ cs := by
    intro cs member
    obtain ⟨n, -, rfl⟩ := List.mem_map.mp member
    exact notMem_text rfl (by decide) n
  rw [ofTexts?, toList_texts, List.splitOn_intercalate _ plain (by simpa using nonempty)]
  clear plain nonempty
  induction numbers with
  | nil => rfl
  | cons n numbers ih =>
    rw [List.map_cons, List.mapM_cons, ih, String.ofList_toList, text_eq_repr, Int.toInt?_repr]
    rfl

theorem notMem_texts {c : Char} (noDigit : c.isDigit = false) (noSign : c ≠ '-')
    (noComma : c ≠ ',') (numbers : List Int) : c ∉ (texts numbers).toList := by
  rw [toList_texts]
  induction numbers with
  | nil => simp
  | cons n numbers ih =>
    have number := notMem_text noDigit noSign n
    cases numbers with
    | nil => simpa using number
    | cons m numbers =>
      rw [List.map_cons] at ih
      simp [number, noComma, ih]

end Integer

namespace ReportLine

def keys : List String :=
  ["SW", "RR", "SS", "FR", "PH", "ME", "KE", "MA", "KA", "IQ"]

def ofNumbers? : String → List Int → Option ReportLine
  | "SW", [n] => some (.switchSpacing n.toNat)
  | "RR", [n] => some (.referenceSpacing n.toNat)
  | "SS", [n] => some (.sampleSpacing n.toNat)
  | "FR", [n] => some (.frequency n.toNat)
  | "PH", [n] => some (.phase n)
  | "ME", [n] => some (.rawElevation n)
  | "KE", [n] => some (.smoothedElevation n)
  | "MA", [n] => some (.rawAzimuth n)
  | "KA", [n] => some (.smoothedAzimuth n)
  | "IQ", [index, time, antenna, q, i] =>
    some (.sample index.toNat time.toNat antenna.toNat q i)
  | _, _ => none

/-- Reads a line without its end: a word that frames a report, or a key and its numbers. -/
def ofText? (text : List Char) : Option ReportLine :=
  match text.splitOn ':' with
  | [word] =>
    if word = opening.text.toList then some .opening
    else if word = closing.text.toList then some .closing
    else none
  | [key, numbers] => (Integer.ofTexts? numbers).bind (ofNumbers? (String.ofList key))
  | _ => none

structure IsKeyed (line : ReportLine) (key : String) (numbers : List Int) : Prop where
  known : key ∈ keys
  nonempty : numbers ≠ []
  written : line.text = key ++ ":" ++ Integer.texts numbers
  told : ofNumbers? key numbers = some line

private theorem frames_or_keyed (line : ReportLine) :
    line = .opening ∨ line = .closing ∨ ∃ key numbers, line.IsKeyed key numbers := by
  cases line with
  | opening => exact .inl rfl
  | closing => exact .inr (.inl rfl)
  | switchSpacing n => exact .inr (.inr ⟨"SW", [(n : Int)], by decide, by simp, rfl, rfl⟩)
  | referenceSpacing n => exact .inr (.inr ⟨"RR", [(n : Int)], by decide, by simp, rfl, rfl⟩)
  | sampleSpacing n => exact .inr (.inr ⟨"SS", [(n : Int)], by decide, by simp, rfl, rfl⟩)
  | frequency n => exact .inr (.inr ⟨"FR", [(n : Int)], by decide, by simp, rfl, rfl⟩)
  | phase n => exact .inr (.inr ⟨"PH", [n], by decide, by simp, rfl, rfl⟩)
  | rawElevation n => exact .inr (.inr ⟨"ME", [n], by decide, by simp, rfl, rfl⟩)
  | smoothedElevation n => exact .inr (.inr ⟨"KE", [n], by decide, by simp, rfl, rfl⟩)
  | rawAzimuth n => exact .inr (.inr ⟨"MA", [n], by decide, by simp, rfl, rfl⟩)
  | smoothedAzimuth n => exact .inr (.inr ⟨"KA", [n], by decide, by simp, rfl, rfl⟩)
  | sample index time antenna q i =>
    exact .inr (.inr ⟨"IQ", [(index : Int), time, antenna, q, i], by decide, by simp, rfl, rfl⟩)

variable {line : ReportLine} {key : String} {numbers : List Int}

theorem IsKeyed.toList_text (keyed : line.IsKeyed key numbers) :
    line.text.toList = key.toList ++ ':' :: (Integer.texts numbers).toList := by
  simp [keyed.written]

theorem IsKeyed.splitOn_text (keyed : line.IsKeyed key numbers) :
    line.text.toList.splitOn ':' = [key.toList, (Integer.texts numbers).toList] := by
  have keysPlain : ∀ key ∈ keys, ':' ∉ key.toList := by decide
  have numbersPlain : ':' ∉ (Integer.texts numbers).toList :=
    Integer.notMem_texts rfl (by decide) (by decide) numbers
  rw [keyed.toList_text, List.splitOn_append_cons_self_of_not_mem (keysPlain key keyed.known),
    List.splitOn_eq_singleton numbersPlain]

theorem ofText?_text (line : ReportLine) : ofText? line.text.toList = some line := by
  rcases line.frames_or_keyed with rfl | rfl | ⟨key, numbers, keyed⟩
  · decide
  · decide
  · simp only [ofText?, keyed.splitOn_text, String.ofList_toList]
    rw [Integer.ofTexts?_texts keyed.nonempty, Option.bind_some, keyed.told]

theorem text_injective : Function.Injective ReportLine.text := by
  intro a b same
  have told := ofText?_text a
  rw [same, ofText?_text b] at told
  exact (Option.some.inj told).symm

example : ofText? "IQ:3,14,12,-40,0".toList = some (.sample 3 14 12 (-40) 0) := by
  cbv

def upToFeed (line : ReportLine) : List Char :=
  line.text.toList ++ ['\r']

theorem upToFeed_injective : Function.Injective upToFeed := by
  intro a b same
  apply text_injective
  apply String.toList_injective
  exact List.append_cancel_right same

theorem feed_notMem_upToFeed (line : ReportLine) : '\n' ∉ line.upToFeed := by
  suffices plain : '\n' ∉ line.text.toList by simpa [upToFeed] using plain
  rcases line.frames_or_keyed with rfl | rfl | ⟨key, numbers, keyed⟩
  · decide
  · decide
  · have keysPlain : ∀ key ∈ keys, '\n' ∉ key.toList := by decide
    have numbersPlain : '\n' ∉ (Integer.texts numbers).toList :=
      Integer.notMem_texts rfl (by decide) (by decide) numbers
    simp [keyed.toList_text, keysPlain key keyed.known, numbersPlain]

end ReportLine

end DirectionFinding
