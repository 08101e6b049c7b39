import DirectionFinding.Proofs.Capture.Codec

/-!
A capture has one form. Reading accepts exactly the byte strings that are made of whole records,
and encoding what was read gives the very bytes again; so two captures that read the same are the
same.
-/
namespace DirectionFinding

namespace Record

/-- A record by its layout: a count of samples that some schedule reaches, a frequency, and as many
samples of four bytes. -/
def IsRecord (record : Bytes) : Prop :=
  ∃ (count frequency : UInt32) (payload : Bytes), count.toNat ≤ Limits.recordSamples ∧
    payload.length = 4 * count.toNat ∧
    record = littleEndian 4 count.toNat ++ littleEndian 4 frequency.toNat ++ payload

def IsCapture (bytes : Bytes) : Prop :=
  ∃ records : List Bytes, (∀ record ∈ records, IsRecord record) ∧ bytes = records.flatten

theorem IsRecord.extract {record : Bytes} (isRecord : IsRecord record) (rest : Bytes) :
    ∃ burst, extract (record ++ rest) = .ok (burst, record.length) := by
  obtain ⟨count, frequency, payload, small, whole, rfl⟩ := isRecord
  let header : Header := ⟨count, frequency⟩
  change ∃ burst, Record.extract (header.encode ++ payload ++ rest) =
    .ok (burst, (header.encode ++ payload).length)
  have parsed : parseHeader (header.encode ++ payload ++ rest) = .ok header := by
    rw [List.append_assoc, parseHeader_encode, if_neg (Nat.not_lt.mpr small)]
  have length : (header.encode ++ payload).length = headerLength + header.payloadLength := by
    rw [List.length_append, Header.length_encode, whole, Header.payloadLength, sampleLength,
      Nat.mul_comm]
  have inside : ¬ (header.encode ++ payload ++ rest).length <
      headerLength + header.payloadLength := by
    rw [← length]
    simp only [List.length_append]
    omega
  rw [extract_eq parsed, if_neg inside, ← length]
  exact ⟨_, rfl⟩

theorem isRecord_of_extract {bytes : Bytes} {burst : RawBurst Phasor} {length : Nat}
    (found : Record.extract bytes = .ok (burst, length)) : IsRecord (bytes.take length) := by
  obtain ⟨header, parsed, rfl, inside, rfl⟩ := extract_ok found
  obtain ⟨small, split⟩ := parseHeader_ok parsed
  refine ⟨header.announced, header.frequency,
    (bytes.drop headerLength).take header.payloadLength, small, ?_, ?_⟩
  · rw [List.length_take, List.length_drop, Header.payloadLength, sampleLength] at *
    omega
  · rw [List.take_add]
    congr 1
    rw [split, ← header.length_encode, List.take_left]
    rfl

theorem encode_extractAll (bytes : Bytes) :
    (extractAll bytes).1.flatMap encode ++ (extractAll bytes).2 = bytes := by
  fun_induction extractAll bytes with
  | case1 bytes failure failed => rfl
  | case2 bytes burst length found later rest eq ih =>
    rw [eq] at ih
    rw [List.flatMap_cons, List.append_assoc, ih]
    exact (encode_extract found).symm

theorem IsCapture.extractAll {bytes : Bytes} (capture : IsCapture bytes) :
    (Record.extractAll bytes).2 = [] := by
  obtain ⟨records, whole, rfl⟩ := capture
  induction records with
  | nil => exact congrArg Prod.snd (extractAll_error extract_nil)
  | cons record records ih =>
    obtain ⟨burst, found⟩ := (whole record List.mem_cons_self).extract records.flatten
    have later := ih fun next member => whole next (List.mem_cons_of_mem _ member)
    rw [List.flatten_cons, extractAll_ok found, List.drop_left]
    exact later

theorem isCapture_of_extractAll {bytes : Bytes} (complete : (Record.extractAll bytes).2 = []) :
    IsCapture bytes := by
  fun_induction Record.extractAll bytes with
  | case1 bytes failure failed => exact ⟨[], by simp, complete⟩
  | case2 bytes burst length found later rest eq ih =>
    rw [eq] at ih
    obtain ⟨records, whole, split⟩ := ih complete
    refine ⟨bytes.take length :: records, ?_, ?_⟩
    · intro record member
      rcases List.mem_cons.mp member with rfl | member
      · exact isRecord_of_extract found
      · exact whole record member
    · rw [List.flatten_cons, ← split, List.take_append_drop]

theorem IsCapture.cons {record capture : Bytes} (isRecord : IsRecord record)
    (isCapture : IsCapture capture) : IsCapture (record ++ capture) := by
  obtain ⟨records, whole, rfl⟩ := isCapture
  exact ⟨record :: records, List.forall_mem_cons.mpr ⟨isRecord, whole⟩, rfl⟩

private theorem encode_eq_take {bytes : Bytes} {burst : RawBurst Phasor} {length : Nat}
    (found : Record.extract bytes = .ok (burst, length)) : encode burst = bytes.take length := by
  have split := (List.take_append_drop length bytes).trans (encode_extract found)
  exact (List.append_cancel_right split).symm

/-- The longest beginning of some bytes that is made of whole records. -/
structure IsLongestCapture (kept bytes : Bytes) : Prop where
  capture : IsCapture kept
  beginning : kept <+: bytes
  longest : ∀ other, IsCapture other → other <+: bytes → other <+: kept

theorem IsLongestCapture.unique {kept other bytes : Bytes} (longest : IsLongestCapture kept bytes)
    (also : IsLongestCapture other bytes) : kept = other := by
  have inside := also.longest kept longest.capture longest.beginning
  have around := longest.longest other also.capture also.beginning
  exact inside.eq_of_length_le around.length_le

theorem isLongestCapture_extractAll (bytes : Bytes) :
    IsLongestCapture ((Record.extractAll bytes).1.flatMap encode) bytes where
  capture := by
    fun_induction Record.extractAll bytes with
    | case1 bytes failure failed => exact ⟨[], by simp, rfl⟩
    | case2 bytes burst length found later rest eq ih =>
      rw [eq] at ih
      rw [List.flatMap_cons, encode_eq_take found]
      exact .cons (isRecord_of_extract found) ih
  beginning := ⟨_, encode_extractAll bytes⟩
  longest := by
    rintro other ⟨records, whole, rfl⟩ ⟨more, rfl⟩
    induction records with
    | nil => exact List.nil_prefix
    | cons record records ih =>
      rw [List.forall_mem_cons] at whole
      obtain ⟨burst, found⟩ := whole.1.extract (records.flatten ++ more)
      rw [List.flatten_cons, List.append_assoc, extractAll_ok found, List.flatMap_cons,
        encode_eq_take found, List.take_left, List.drop_left, List.prefix_append_right_inj]
      exact ih whole.2

end Record

namespace Feed

variable {f g : Feed} {bytes other : Bytes}

theorem Delivers.readCapture_iff (delivers : f.Delivers bytes .endOfInput)
    (bursts : List (RawBurst Phasor)) :
    f.readCapture = .ok bursts ↔ Record.extractAll bytes = (bursts, []) := by
  obtain ⟨failure, failed⟩ := Record.extract_rest bytes
  have records := delivers.records failed
  rw [Feed.readCapture, records]
  generalize Record.extractAll bytes = extracted
  obtain ⟨found, rest⟩ := extracted
  cases rest with
  | nil => simp [FeedEnd.verdict]
  | cons b bs => simp [FeedEnd.verdict]

private theorem Delivers.encode_readCapture (delivers : f.Delivers bytes .endOfInput)
    {bursts : List (RawBurst Phasor)} (read : f.readCapture = .ok bursts) :
    bursts.flatMap Record.encode = bytes := by
  have extracted := (delivers.readCapture_iff bursts).mp read
  have encoded := Record.encode_extractAll bytes
  rwa [extracted, List.append_nil] at encoded

/-- Reading takes a byte string for a capture exactly if it is made of whole records. What it reads
encodes to the same bytes, so that no other capture reads the same. -/
theorem readCapture_canonical (delivers : f.Delivers bytes .endOfInput) :
    ((∃ bursts, f.readCapture = .ok bursts) ↔ Record.IsCapture bytes) ∧
    (∀ bursts, f.readCapture = .ok bursts → bursts.flatMap Record.encode = bytes) ∧
    ∀ (g : Feed) (other : Bytes) (bursts : List (RawBurst Phasor)),
      g.Delivers other .endOfInput → f.readCapture = .ok bursts → g.readCapture = .ok bursts →
      bytes = other := by
  refine ⟨⟨?_, ?_⟩, fun bursts read => delivers.encode_readCapture read, ?_⟩
  · rintro ⟨bursts, read⟩
    have extracted := (delivers.readCapture_iff bursts).mp read
    exact Record.isCapture_of_extractAll (congrArg Prod.snd extracted)
  · intro capture
    exact ⟨_, (delivers.readCapture_iff _).mpr (Prod.ext rfl capture.extractAll)⟩
  · intro g other bursts deliversOther read readOther
    rw [← delivers.encode_readCapture read, deliversOther.encode_readCapture readOther]

/-- A record with one sample, whose parts are the least that a record can hold. -/
theorem readCapture_canonical_least :
    let record : Bytes := [1, 0, 0, 0, 98, 9, 0, 0, 0, 128, 0, 128]
    (ofBytes record).Delivers record .endOfInput ∧ Record.IsCapture record ∧
    ∃ bursts, (ofBytes record).readCapture = .ok bursts ∧
      bursts.flatMap Record.encode = record := by
  intro record
  have delivers := delivers_ofBytes record
  have capture : Record.IsCapture record := by
    refine ⟨[record], ?_, rfl⟩
    intro only member
    rw [List.mem_singleton.mp member]
    exact ⟨1, 2402, [0, 128, 0, 128], by decide, rfl, rfl⟩
  obtain ⟨accepted, encoded, -⟩ := readCapture_canonical delivers
  obtain ⟨bursts, read⟩ := accepted.mpr capture
  exact ⟨delivers, capture, bursts, read, encoded bursts read⟩

end Feed

end DirectionFinding
