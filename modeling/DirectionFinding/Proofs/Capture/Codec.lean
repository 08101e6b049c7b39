import DirectionFinding.Proofs.Capture.Extraction
import DirectionFinding.Proofs.Number.Integer

/-!
Encoding against extracting. What is extracted encodes to the very bytes it was read from, and what
is encoded is extracted again as far as a record keeps it: announced samples, rounded to integers
of 16 bits. A burst of too many samples has a record that cannot be extracted.
-/
namespace DirectionFinding

private theorem length_littleEndian (width n : Nat) : (littleEndian width n).length = width := by
  induction width generalizing n with
  | zero => rfl
  | succ width ih => rw [littleEndian, List.length_cons, ih]

namespace Record

private theorem encodeWord_decodeWord (b0 b1 b2 b3 : UInt8) :
    encodeWord (decodeWord b0 b1 b2 b3) = [b0, b1, b2, b3] := by
  have := b0.toNat_lt
  have := b1.toNat_lt
  have := b2.toNat_lt
  have := b3.toNat_lt
  simp only [encodeWord, decodeWord, littleEndian, UInt32.toNat_ofNat', List.cons.injEq,
    ← UInt8.toNat_inj, UInt8.toNat_ofNat', and_true]
  omega

private theorem exists_encodeWord (w : UInt32) :
    ∃ b0 b1 b2 b3, encodeWord w = [b0, b1, b2, b3] ∧ decodeWord b0 b1 b2 b3 = w := by
  have := w.toNat_lt
  refine ⟨_, _, _, _, rfl, ?_⟩
  simp only [decodeWord, ← UInt32.toNat_inj, UInt32.toNat_ofNat', UInt8.toNat_ofNat']
  omega

private theorem decodeShort_range (b0 b1 : UInt8) :
    -32768 ≤ decodeShort b0 b1 ∧ decodeShort b0 b1 ≤ 32767 := by
  have := b0.toNat_lt
  have := b1.toNat_lt
  simp only [decodeShort]
  split <;> omega

private theorem encodeShort_decodeShort (b0 b1 : UInt8) :
    encodeShort (decodeShort b0 b1) = [b0, b1] := by
  have := b0.toNat_lt
  have := b1.toNat_lt
  have unsigned : (decodeShort b0 b1 % 0x10000).toNat = b0.toNat + 0x100 * b1.toNat := by
    simp only [decodeShort]
    split <;> omega
  simp only [encodeShort, unsigned, littleEndian, List.cons.injEq, ← UInt8.toNat_inj,
    UInt8.toNat_ofNat', and_true]
  omega

private theorem exists_encodeShort {n : Int} (low : -32768 ≤ n) (high : n ≤ 32767) :
    ∃ b0 b1, encodeShort n = [b0, b1] ∧ decodeShort b0 b1 = n := by
  refine ⟨_, _, rfl, ?_⟩
  simp only [decodeShort, UInt8.toNat_ofNat']
  split <;> omega

private theorem round16_range (x : Float32) :
    -32768 ≤ Binary32.round16 x ∧ Binary32.round16 x ≤ 32767 := by
  simp only [Binary32.round16, Binary32.roundWithin]
  split
  · decide
  · split <;> decide
  · simp only [Binary32.saturate]
    omega

private theorem round16_ofInt {n : Int} (low : -32768 ≤ n) (high : n ≤ 32767) :
    Binary32.round16 (Float32.ofInt n) = n :=
  Binary32.roundWithin_ofInt low high (by omega)

def keptSample (z : Phasor) : Phasor :=
  .ofParts (Float32.ofInt (Binary32.round16 z.re.value)) (Float32.ofInt (Binary32.round16 z.im.value))

def kept (b : RawBurst Phasor) : RawBurst Phasor :=
  ⟨UInt32.ofNat b.valid.length, b.frequency, b.valid.map keptSample⟩

private theorem encodeSample_ofParts (b0 b1 b2 b3 : UInt8) :
    encodeSample (.ofParts (Float32.ofInt (decodeShort b0 b1)) (Float32.ofInt (decodeShort b2 b3))) =
      [b0, b1, b2, b3] := by
  obtain ⟨lowRe, highRe⟩ := decodeShort_range b0 b1
  obtain ⟨lowIm, highIm⟩ := decodeShort_range b2 b3
  simp only [encodeSample, Phasor.ofParts, Single.value, round16_ofInt lowRe highRe,
    round16_ofInt lowIm highIm, encodeShort_decodeShort]
  rfl

private theorem decodeSamples_encodeSample (z : Phasor) (rest : Bytes) :
    decodeSamples (encodeSample z ++ rest) = keptSample z :: decodeSamples rest := by
  obtain ⟨lowRe, highRe⟩ := round16_range z.re.value
  obtain ⟨lowIm, highIm⟩ := round16_range z.im.value
  obtain ⟨b0, b1, encodedRe, decodedRe⟩ := exists_encodeShort lowRe highRe
  obtain ⟨b2, b3, encodedIm, decodedIm⟩ := exists_encodeShort lowIm highIm
  simp only [encodeSample, encodedRe, encodedIm, List.cons_append, List.nil_append, decodeSamples,
    decodedRe, decodedIm]
  rfl

private theorem decodeSamples_flatMap (samples : List Phasor) :
    decodeSamples (samples.flatMap encodeSample) = samples.map keptSample := by
  induction samples with
  | nil => rfl
  | cons z samples ih =>
    rw [List.flatMap_cons, decodeSamples_encodeSample, ih, List.map_cons]

private theorem length_encodeSample (z : Phasor) : (encodeSample z).length = sampleLength := by
  simp only [encodeSample, encodeShort, List.length_append, length_littleEndian]
  rfl

theorem length_flatMap_encodeSample (samples : List Phasor) :
    (samples.flatMap encodeSample).length = samples.length * sampleLength := by
  induction samples with
  | nil => rfl
  | cons z samples ih =>
    rw [List.flatMap_cons, List.length_append, length_encodeSample, ih, List.length_cons,
      Nat.succ_mul, Nat.add_comm]

theorem decodeSamples_whole (count : Nat) (payload : Bytes)
    (whole : payload.length = count * sampleLength) :
    (decodeSamples payload).length = count ∧
      (decodeSamples payload).flatMap encodeSample = payload := by
  induction count generalizing payload with
  | zero =>
    rw [Nat.zero_mul, List.length_eq_zero_iff] at whole
    subst whole
    exact ⟨rfl, rfl⟩
  | succ count ih =>
    match payload, whole with
    | b0 :: b1 :: b2 :: b3 :: rest, whole =>
      simp only [List.length_cons, sampleLength] at whole
      obtain ⟨length, same⟩ := ih rest (by simp only [sampleLength]; omega)
      simp only [decodeSamples, List.length_cons, length, List.flatMap_cons, encodeSample_ofParts,
        same]
      exact ⟨trivial, rfl⟩
    | [], whole | [_], whole | [_, _], whole | [_, _, _], whole =>
      simp only [List.length_cons, List.length_nil, sampleLength] at whole
      omega

def Header.encode (h : Header) : Bytes :=
  encodeWord h.announced ++ encodeWord h.frequency

theorem Header.length_encode (h : Header) : h.encode.length = headerLength := by
  simp only [Header.encode, encodeWord, List.length_append, length_littleEndian]
  rfl

theorem parseHeader_encode (h : Header) (rest : Bytes) :
    parseHeader (h.encode ++ rest) =
      if Limits.recordSamples < h.announced.toNat then
        .error (.invalidArgument (.recordTooLong h.announced.toNat))
      else .ok h := by
  obtain ⟨b0, b1, b2, b3, announced, decodedAnnounced⟩ := exists_encodeWord h.announced
  obtain ⟨b4, b5, b6, b7, frequency, decodedFrequency⟩ := exists_encodeWord h.frequency
  simp only [Header.encode, announced, frequency, List.cons_append, List.nil_append, parseHeader,
    decodedAnnounced, decodedFrequency]

theorem parseHeader_ok {bytes : Bytes} {header : Header} (parsed : parseHeader bytes = .ok header) :
    header.announced.toNat ≤ Limits.recordSamples ∧
      bytes = header.encode ++ bytes.drop headerLength := by
  rcases Nat.lt_or_ge bytes.length headerLength with short | enough
  · cases (parseHeader_short short).symm.trans parsed
  · obtain ⟨b0, b1, b2, b3, b4, b5, b6, b7, rest, rfl⟩ := exists_header enough
    simp only [parseHeader] at parsed
    split at parsed
    · cases parsed
    · rename_i announced
      cases parsed
      refine ⟨Nat.not_lt.mp announced, ?_⟩
      simp only [Header.encode, encodeWord_decodeWord]
      rfl

private theorem encode_burst (h : Header) (payload : Bytes)
    (whole : payload.length = h.payloadLength) :
    encode (h.burst payload) = h.encode ++ payload := by
  obtain ⟨length, same⟩ := decodeSamples_whole h.announced.toNat payload whole
  have valid : (h.burst payload).valid = decodeSamples payload :=
    List.take_of_length_le (Nat.le_of_eq length)
  simp only [encode, valid, length, UInt32.ofNat_toNat, same]
  rfl

theorem encode_extract {bytes : Bytes} {burst : RawBurst Phasor} {length : Nat}
    (found : extract bytes = .ok (burst, length)) :
    bytes = encode burst ++ bytes.drop length := by
  obtain ⟨header, parsed, rfl, inside, rfl⟩ := extract_ok found
  obtain ⟨-, split⟩ := parseHeader_ok parsed
  have whole : ((bytes.drop headerLength).take header.payloadLength).length =
      header.payloadLength := by
    rw [List.length_take, List.length_drop]
    omega
  rw [encode_burst header _ whole, List.append_assoc, ← List.drop_drop, List.take_append_drop]
  exact split

theorem encode_eq (b : RawBurst Phasor) :
    encode b = (⟨UInt32.ofNat b.valid.length, b.frequency⟩ : Header).encode ++
      b.valid.flatMap encodeSample :=
  rfl

theorem toNat_ofNat_valid (b : RawBurst Phasor) :
    (UInt32.ofNat b.valid.length).toNat = b.valid.length := by
  have announced := b.announced.toNat_lt
  rw [UInt32.toNat_ofNat', Nat.mod_eq_of_lt]
  rw [RawBurst.valid, List.length_take]
  omega

theorem extract_encode {b : RawBurst Phasor} (fits : b.valid.length ≤ Limits.recordSamples)
    (rest : Bytes) : extract (encode b ++ rest) = .ok (kept b, (encode b).length) := by
  have count := toNat_ofNat_valid b
  have payload : (⟨UInt32.ofNat b.valid.length, b.frequency⟩ : Header).payloadLength =
      (b.valid.flatMap encodeSample).length := by
    rw [Header.payloadLength, count, length_flatMap_encodeSample]
  have parsed : parseHeader (encode b ++ rest) =
      .ok ⟨UInt32.ofNat b.valid.length, b.frequency⟩ := by
    rw [encode_eq, List.append_assoc, parseHeader_encode, count, if_neg (Nat.not_lt.mpr fits)]
  have length : (encode b).length = headerLength + (b.valid.flatMap encodeSample).length := by
    rw [encode_eq, List.length_append, Header.length_encode]
  have inside : ¬ (encode b ++ rest).length < (encode b).length := by
    rw [List.length_append]
    omega
  have samples : ((encode b ++ rest).drop headerLength).take (b.valid.flatMap encodeSample).length =
      b.valid.flatMap encodeSample := by
    rw [encode_eq, List.append_assoc, ← Header.length_encode, List.drop_left, List.take_left]
  rw [extract_eq parsed, payload, ← length, if_neg inside, samples, Header.burst,
    decodeSamples_flatMap]
  rfl

theorem extract_encode_long {b : RawBurst Phasor} (long : Limits.recordSamples < b.valid.length)
    (rest : Bytes) :
    extract (encode b ++ rest) = .error (.invalidArgument (.recordTooLong b.valid.length)) := by
  apply extract_of_parse_error
  rw [encode_eq, List.append_assoc, parseHeader_encode, toNat_ofNat_valid, if_pos long]

end Record

end DirectionFinding
