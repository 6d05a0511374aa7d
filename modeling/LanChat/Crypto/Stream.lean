import LanChat.Crypto.Frame

/-!
# Values through the encrypted stream

`SecureWriter::write_json` and `SecureReader::read_json` on a whole stream, over
the Noise transport and the JSON of a type of values. Every value that passes
the writer's size check passes the reader's: the limits on the plaintext, the
ciphertext and the two buffers leave room for the 16 bytes that Noise adds.
-/

namespace LanChat

def noiseTagLength : ℕ := 16
def noiseMaxMessage : ℕ := 65535

/-- A Noise transport, by the number of the message in its direction: an encrypted message is
16 bytes longer, and messages decrypted in the order they were encrypted come back. -/
structure NoiseTransport where
  encrypt : ℕ → List UInt8 → List UInt8
  decrypt : ℕ → List UInt8 → Option (List UInt8)
  length_encrypt : ∀ n plaintext, (encrypt n plaintext).length = plaintext.length + noiseTagLength
  decrypt_encrypt : ∀ n plaintext, decrypt n (encrypt n plaintext) = some plaintext

namespace NoiseTransport

variable (noise : NoiseTransport)

/-- `TransportState::write_message` into a buffer of `room` bytes. -/
def writeMessage (n : ℕ) (plaintext : List UInt8) (room : ℕ) : Option (List UInt8) :=
  if noiseMaxMessage < plaintext.length + noiseTagLength ∨ room < plaintext.length + noiseTagLength then none
  else some (noise.encrypt n plaintext)

/-- `TransportState::read_message` into a buffer of `room` bytes. -/
def readMessage (n : ℕ) (encrypted : List UInt8) (room : ℕ) : Option (List UInt8) :=
  if noiseMaxMessage < encrypted.length ∨ encrypted.length < noiseTagLength ∨
      room < encrypted.length - noiseTagLength then none
  else noise.decrypt n encrypted

end NoiseTransport

/-- The JSON of a type of values; decoding inverts encoding. -/
structure JsonCodec (T : Type) where
  encode : T → List UInt8
  decode : List UInt8 → Option T
  decode_encode : ∀ value, decode (encode value) = some value

/-- `read_raw_frame` on a stream: the payload, and the bytes after it. -/
def takeRawFrame (maximum : ℕ) : List UInt8 → Option (List UInt8 × List UInt8)
  | high :: low :: rest =>
    let length := high.toNat * 256 + low.toNat
    if length = 0 ∨ maximum < length then none
    else if rest.length < length then none
    else some (rest.take length, rest.drop length)
  | _ => none

section
variable {T : Type} (noise : NoiseTransport) (codec : JsonCodec T)

/-- `write_json` of the `n`-th value of a connection. -/
def writeJson (n : ℕ) (value : T) : Option (List UInt8) :=
  let plaintext := codec.encode value
  if plaintext.isEmpty || maxPlaintextFrame < plaintext.length then none
  else (noise.writeMessage n plaintext maxCiphertextFrame).bind fun encrypted =>
    writeRawFrame encrypted maxCiphertextFrame

/-- The `n`-th `read_json` of a connection. -/
def takeJson (n : ℕ) (stream : List UInt8) : Option (T × List UInt8) := do
  let (encrypted, rest) ← takeRawFrame maxCiphertextFrame stream
  let plaintext ← noise.readMessage n encrypted maxPlaintextFrame
  let value ← codec.decode plaintext
  return (value, rest)

def writeAll (n : ℕ) : List T → Option (List UInt8)
  | [] => some []
  | value :: values => do
    let first ← writeJson noise codec n value
    let later ← writeAll (n + 1) values
    return first ++ later

def takeAll (n : ℕ) : ℕ → List UInt8 → Option (List T × List UInt8)
  | 0, stream => some ([], stream)
  | count + 1, stream => do
    let (value, rest) ← takeJson noise codec n stream
    let (values, rest) ← takeAll (n + 1) count rest
    return (value :: values, rest)

end

/-! ## Raw frames -/

section
variable {maximum : ℕ} {stream payload rest : List UInt8}

/-- **A frame that is read** has an admitted size, and is what the writer makes of it. -/
theorem takeRawFrame_eq (h : takeRawFrame maximum stream = some (payload, rest)) :
    1 ≤ payload.length ∧ payload.length ≤ maximum ∧
      ∃ consumed, writeRawFrame payload maximum = some consumed ∧ stream = consumed ++ rest := by
  unfold takeRawFrame at h
  split at h
  · next high low bytes =>
    simp only at h
    split at h
    · cases h
    · next admitted =>
      split at h
      · cases h
      · next enough =>
        simp only [Option.some.injEq, Prod.mk.injEq] at h
        obtain ⟨rfl, rfl⟩ := h
        have small := high.toNat_lt
        have small' := low.toNat_lt
        have size : (bytes.take (high.toNat * 256 + low.toNat)).length = high.toNat * 256 + low.toNat := by
          rw [List.length_take]
          omega
        rw [not_or] at admitted
        refine ⟨by omega, by omega, frameBytes (bytes.take (high.toNat * 256 + low.toNat)), ?_, ?_⟩
        · unfold writeRawFrame
          rw [if_neg]
          simp only [Bool.or_eq_true, List.isEmpty_iff, decide_eq_true_eq, size]
          rintro ((empty | large) | large)
          · rw [empty] at size
            exact admitted.1 size.symm
          · omega
          · omega
        · rw [frameBytes_of_length size.symm]
          simp
  · cases h

theorem takeRawFrame_write {written : List UInt8} (h : writeRawFrame payload maximum = some written) :
    takeRawFrame maximum (written ++ rest) = some (payload, rest) := by
  obtain ⟨nonempty, within, small⟩ := writeRawFrame_isSome.1 (Option.isSome_of_eq_some h)
  have positive := List.length_pos_of_ne_nil nonempty
  have bytes : written = frameBytes payload := by
    unfold writeRawFrame at h
    split at h
    · cases h
    · exact (Option.some.inj h).symm
  obtain ⟨high, low, front, header⟩ := frameBytes_cons payload
  rw [bytes, front]
  simp only [List.cons_append, takeRawFrame, header small]
  rw [if_neg (by omega), if_neg (by simp), List.take_left, List.drop_left]

end

/-! ## Streams of values -/

section
variable {T : Type} {noise : NoiseTransport} {codec : JsonCodec T} {n : ℕ} {value : T}
  {values : List T} {bytes rest : List UInt8}

/-- The size check on the plaintext is the only one a value can fail. -/
theorem writeJson_isSome : (writeJson noise codec n value).isSome ↔
    codec.encode value ≠ [] ∧ (codec.encode value).length ≤ maxPlaintextFrame := by
  simp only [writeJson]
  split
  · next refused =>
    simp only [Bool.or_eq_true, List.isEmpty_iff, decide_eq_true_eq] at refused
    simp only [Option.isSome_none, Bool.false_eq_true, false_iff]
    rintro ⟨nonempty, within⟩
    rcases refused with empty | large
    · exact nonempty empty
    · omega
  · next accepted =>
    simp only [Bool.or_eq_true, List.isEmpty_iff, decide_eq_true_eq, not_or, not_lt] at accepted
    have size := noise.length_encrypt n (codec.encode value)
    have within := accepted.2
    -- the ciphertext limit leaves room for the tag, and stays below that of Noise
    have tag : maxPlaintextFrame + noiseTagLength ≤ maxCiphertextFrame := by decide
    have limit : maxCiphertextFrame ≤ noiseMaxMessage := by decide
    have small : noiseMaxMessage = 65535 := rfl
    have fits : ¬ (noiseMaxMessage < (codec.encode value).length + noiseTagLength ∨
        maxCiphertextFrame < (codec.encode value).length + noiseTagLength) := by omega
    rw [NoiseTransport.writeMessage, if_neg fits, Option.bind_some, writeRawFrame_isSome]
    refine ⟨fun _ => accepted, fun _ => ⟨?_, ?_, ?_⟩⟩
    · intro empty
      rw [empty] at size
      simp [noiseTagLength] at size
    · omega
    · omega

/-- A value that is written is read back, whatever follows it. -/
theorem takeJson_write (h : writeJson noise codec n value = some bytes) :
    takeJson noise codec n (bytes ++ rest) = some (value, rest) := by
  obtain ⟨nonempty, within⟩ := writeJson_isSome.1 (Option.isSome_of_eq_some h)
  simp only [writeJson] at h
  split at h
  · cases h
  · obtain ⟨encrypted, message, written⟩ := Option.bind_eq_some_iff.1 h
    unfold NoiseTransport.writeMessage at message
    split at message
    · cases message
    · next fits =>
      cases message
      have size := noise.length_encrypt n (codec.encode value)
      have room : ¬ (noiseMaxMessage < (noise.encrypt n (codec.encode value)).length ∨
          (noise.encrypt n (codec.encode value)).length < noiseTagLength ∨
          maxPlaintextFrame < (noise.encrypt n (codec.encode value)).length - noiseTagLength) := by
        omega
      simp only [takeJson, takeRawFrame_write written, Option.bind_eq_bind, Option.bind_some,
        NoiseTransport.readMessage, if_neg room, noise.decrypt_encrypt, codec.decode_encode]
      rfl

theorem takeAll_write (h : writeAll noise codec n values = some bytes) :
    takeAll noise codec n values.length (bytes ++ rest) = some (values, rest) := by
  induction values generalizing n bytes with
  | nil =>
    cases h
    rfl
  | cons value values ih =>
    simp only [writeAll, Option.bind_eq_bind, Option.bind_eq_some_iff] at h
    obtain ⟨first, written, later, rest', h⟩ := h
    cases h
    simp only [List.length_cons, takeAll, List.append_assoc, takeJson_write written, ih rest',
      Option.bind_eq_bind, Option.bind_some]
    rfl

theorem writeAll_isSome (accepted : ∀ value ∈ values,
    codec.encode value ≠ [] ∧ (codec.encode value).length ≤ maxPlaintextFrame) :
    (writeAll noise codec n values).isSome := by
  induction values generalizing n with
  | nil => rfl
  | cons value values ih =>
    rw [List.forall_mem_cons] at accepted
    obtain ⟨first, written⟩ := Option.isSome_iff_exists.1
      ((@writeJson_isSome T noise codec n value).2 accepted.1)
    obtain ⟨later, rest⟩ := Option.isSome_iff_exists.1 (ih (n := n + 1) accepted.2)
    simp [writeAll, written, rest]

end

/-- **Writer and reader accept the same frames.** Values that pass the writer's size check
are written, and what is written is read back as exactly these values with nothing left
over; a raw frame that is read has an admitted size and is the writer's encoding of it. -/
theorem written_is_read {T : Type} (noise : NoiseTransport) (codec : JsonCodec T) (n : ℕ) :
    (∀ values : List T, (∀ value ∈ values, codec.encode value ≠ [] ∧
        (codec.encode value).length ≤ maxPlaintextFrame) → (writeAll noise codec n values).isSome) ∧
    (∀ (values : List T) (bytes : List UInt8), writeAll noise codec n values = some bytes →
      takeAll noise codec n values.length bytes = some (values, [])) ∧
    (∀ (maximum : ℕ) (stream payload rest : List UInt8),
      takeRawFrame maximum stream = some (payload, rest) →
      1 ≤ payload.length ∧ payload.length ≤ maximum ∧
        ∃ consumed, writeRawFrame payload maximum = some consumed ∧ stream = consumed ++ rest) := by
  refine ⟨fun values => writeAll_isSome, fun values bytes written => ?_, fun _ _ _ _ => takeRawFrame_eq⟩
  have read := @takeAll_write T noise codec n values bytes [] written
  rwa [List.append_nil] at read

/-- A transport to evaluate with: the tag is sixteen times the number of the message. -/
def NoiseTransport.numbered : NoiseTransport where
  encrypt n plaintext := plaintext ++ List.replicate noiseTagLength (UInt8.ofNat n)
  decrypt n encrypted :=
    let plaintext := encrypted.take (encrypted.length - noiseTagLength)
    if encrypted.drop (encrypted.length - noiseTagLength) = List.replicate noiseTagLength (UInt8.ofNat n) then
      some plaintext
    else none
  length_encrypt n plaintext := by simp
  decrypt_encrypt n plaintext := by simp

/-- A codec to evaluate with: a text is its bytes after a quote. -/
def JsonCodec.quoted : JsonCodec (List UInt8) := ⟨fun text => 34 :: text, fun bytes => some bytes.tail, fun _ => rfl⟩

/-- Two messages from the fifth one on, one of them empty. -/
theorem written_is_read_numbered : ∃ bytes, writeAll .numbered .quoted 4 [[1, 2], []] = some bytes ∧
    takeAll .numbered .quoted 4 2 bytes = some ([[1, 2], []], []) ∧
      ∃ payload rest, takeRawFrame maxCiphertextFrame bytes = some (payload, rest) ∧ 1 ≤ payload.length := by
  obtain ⟨accepted, read, framed⟩ := written_is_read .numbered .quoted 4
  obtain ⟨bytes, written⟩ := Option.isSome_iff_exists.1 (accepted [[1, 2], []] (by decide))
  have first : ((writeAll .numbered .quoted 4 [[1, 2], []]).bind (takeRawFrame maxCiphertextFrame)).isSome = true := by
    decide +kernel
  rw [written, Option.bind_some] at first
  obtain ⟨⟨payload, rest⟩, taken⟩ := Option.isSome_iff_exists.1 first
  exact ⟨bytes, written, read _ bytes written, payload, rest, taken, (framed _ bytes payload rest taken).1⟩

end LanChat
