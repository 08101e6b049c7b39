import DirectionFinding.Capture.Record
import DirectionFinding.Basic

/-!
A feed hands out bytes piece by piece, as a device or a file does: pieces of any length,
interruptions that call for another attempt, and at last the end of input or a lasting fault.
Main definition: `Feed.fill` reads until a buffer is full or the input ends, however the bytes are
delivered.
-/
namespace DirectionFinding

inductive Delivery where
  | piece (bytes : Bytes)
  | interruption
  deriving DecidableEq, Repr

inductive FeedEnd where
  | endOfInput
  | fault (cause : IoFault)
  deriving DecidableEq, Repr

structure Feed where
  pending : List Delivery
  ending : FeedEnd
  deriving DecidableEq, Repr

/-- Answer to a single read; no bytes mean the end of input. -/
inductive ReadAnswer where
  | bytes (bytes : Bytes)
  | interrupted
  | fault (cause : IoFault)
  deriving DecidableEq, Repr

namespace Feed

def ofBytes (bytes : Bytes) : Feed :=
  ⟨if bytes.isEmpty then [] else [.piece bytes], .endOfInput⟩

def cut (length : Nat) : Nat → Bytes → List Bytes
  | 0, _ => []
  | pieces + 1, bytes =>
    if bytes.isEmpty then [] else bytes.take length :: cut length pieces (bytes.drop length)

/-- Bytes in pieces of at most `chunk`, on request with an interruption before each of them. A
feed that breaks off at `failAt` hands out the bytes before it and then fails for good, unless the
input ends first. Empty pieces are taken for the end of the input. -/
def scheduled (bytes : Bytes) (chunk : Option Nat) (interrupt : Bool)
    (failAt : Option (Nat × IoFault)) : Feed :=
  let bytes := if chunk = some 0 then [] else bytes
  let (bytes, ending) :=
    match failAt with
    | some (count, cause) =>
      if count ≤ bytes.length then (bytes.take count, FeedEnd.fault cause)
      else (bytes, .endOfInput)
    | none => (bytes, .endOfInput)
  let pieces := cut (chunk.getD bytes.length) bytes.length bytes
  ⟨pieces.flatMap fun piece => (if interrupt then [.interruption] else []) ++ [.piece piece],
    ending⟩

def read (f : Feed) (room : Nat) : ReadAnswer × Feed :=
  match f.pending with
  | [] =>
    match f.ending with
    | .endOfInput => (.bytes [], f)
    | .fault cause => (.fault cause, f)
  | .interruption :: rest => (.interrupted, { f with pending := rest })
  | .piece bytes :: rest =>
    if room < bytes.length then
      (.bytes (bytes.take room), { f with pending := .piece (bytes.drop room) :: rest })
    else (.bytes bytes, { f with pending := rest })

def weight (f : Feed) : Nat :=
  total (f.pending.map fun
    | .piece bytes => bytes.length + 1
    | .interruption => 1)

theorem read_interrupted {f g : Feed} {room : Nat} (h : f.read room = (.interrupted, g)) :
    g.weight < f.weight := by
  obtain ⟨pending, ending⟩ := f
  match pending with
  | [] => cases ending <;> simp [read] at h
  | .interruption :: rest =>
    simp only [read, Prod.mk.injEq, true_and] at h
    subst h
    simp [weight, total]
  | .piece bytes :: rest =>
    simp only [read] at h
    split at h <;> simp at h

theorem read_bytes_weight {f g : Feed} {room : Nat} {b : UInt8} {bs : Bytes}
    (h : f.read room = (.bytes (b :: bs), g)) :
    g.weight + bs.length < f.weight ∧ bs.length + 1 ≤ room := by
  obtain ⟨pending, ending⟩ := f
  match pending with
  | [] => cases ending <;> simp [read] at h
  | .interruption :: rest => simp [read] at h
  | .piece bytes :: rest =>
    simp only [read] at h
    split at h
    · rename_i short
      simp only [Prod.mk.injEq, ReadAnswer.bytes.injEq] at h
      obtain ⟨taken, rfl⟩ := h
      have length : (bytes.take room).length = bs.length + 1 := by rw [taken]; rfl
      simp only [List.length_take] at length
      simp only [weight, List.map_cons, total, List.length_drop]
      omega
    · rename_i short
      simp only [Prod.mk.injEq, ReadAnswer.bytes.injEq] at h
      obtain ⟨rfl, rfl⟩ := h
      simp only [List.length_cons] at short
      simp only [weight, List.map_cons, total, List.length_cons]
      omega

/-- Reads until `room` bytes are there or the input ends. Interruptions are met with another
attempt, any other fault is passed on at once. -/
def fill (f : Feed) (room : Nat) : Except IoFault Bytes × Feed :=
  if room = 0 then (.ok [], f)
  else
    match _h : f.read room with
    | (.bytes [], g) => (.ok [], g)
    | (.bytes (b :: bs), g) =>
      let (answer, final) := g.fill (room - (bs.length + 1))
      (answer.map fun later => b :: bs ++ later, final)
    | (.interrupted, g) => g.fill room
    | (.fault cause, g) => (.error cause, g)
termination_by f.weight
decreasing_by
  · have := read_bytes_weight _h; omega
  · exact read_interrupted _h

theorem read_weight_le (f : Feed) (room : Nat) : (f.read room).2.weight ≤ f.weight := by
  obtain ⟨pending, ending⟩ := f
  match pending with
  | [] => cases ending <;> simp [read]
  | .interruption :: rest => simp [read, weight, total]
  | .piece bytes :: rest =>
    simp only [read]
    split <;> simp only [weight, List.map_cons, total, List.length_drop] <;> omega

theorem fill_weight_le (f : Feed) (room : Nat) : (f.fill room).2.weight ≤ f.weight := by
  fun_induction fill f room with
  | case1 => simp
  | case2 f room nonzero g h => simpa [h] using read_weight_le f room
  | case3 f room nonzero b bs g h answer final eq ih =>
    have := read_bytes_weight h
    simp only [eq] at ih
    simp only
    omega
  | case4 f room nonzero g h ih => exact Nat.le_trans ih (Nat.le_of_lt (read_interrupted h))
  | case5 f room nonzero cause g h => simpa [h] using read_weight_le f room

theorem fill_weight_lt {f g : Feed} {room : Nat} {b : UInt8} {bs : Bytes}
    (h : f.fill room = (.ok (b :: bs), g)) : g.weight < f.weight := by
  fun_induction fill f room with
  | case1 => simp at h
  | case2 => simp at h
  | case3 f room nonzero c cs k read answer final eq ih =>
    have taken := read_bytes_weight read
    have rest := fill_weight_le k (room - (cs.length + 1))
    simp only [eq] at rest
    simp only [Prod.mk.injEq] at h
    rw [← h.2]
    omega
  | case4 f room nonzero k read ih => exact Nat.lt_trans (ih h) (read_interrupted read)
  | case5 => simp at h

end Feed

end DirectionFinding
