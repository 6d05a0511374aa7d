import LanChat.Base.Framing
import LanChat.Protocol

/-!
# Raw frames

A frame on the wire is a two-byte big-endian length and that many bytes
(`write_raw_frame`). A read in progress has taken some of these bytes off the
socket.
-/

namespace LanChat

open Framing

/-- The bytes of a frame: `write_u16` of the length, then the payload. -/
def frameBytes (payload : List UInt8) : List UInt8 := bigEndian 2 payload.length ++ payload

/-- `write_raw_frame`: the bytes written, or a refused size. -/
def writeRawFrame (payload : List UInt8) (maximum : ℕ) : Option (List UInt8) :=
  if payload.isEmpty || maximum < payload.length || 65535 < payload.length then none
  else some (frameBytes payload)

/-- `read_raw_frame` after it has taken the bytes `taken` off the socket, which
are never more than the two of the length and the `length` of `read_exact`. -/
def readRawFrame (maximum : ℕ) (taken : List UInt8) : Verdict (List UInt8) :=
  match taken with
  | high :: low :: body =>
    let length := high.toNat * 256 + low.toNat
    if length = 0 ∨ maximum < length then .bad
    else if body.length = length then .done body
    else .more
  | _ => .more

/-- `SecureReader::read_json` in a session loop. `decode i` stands for decrypting the `i`-th
frame of the connection and parsing its JSON; a frame that fails either ends the loop, and
so does a message after which the loop does not go on. -/
def readJson {M : Type*} (decode : ℕ → List UInt8 → Option M) (goesOn : ℕ → M → Bool) (i : ℕ)
    (taken : List UInt8) : Verdict (List UInt8) :=
  match readRawFrame maxCiphertextFrame taken with
  | .done frame => match decode i frame with
    | none => .bad
    | some message => if goesOn i message then .done frame else .last frame
  | other => other

/-! ## The wire format -/

theorem frameBytes_cons (payload : List UInt8) : ∃ high low : UInt8,
    frameBytes payload = high :: low :: payload ∧
      (payload.length ≤ 65535 → high.toNat * 256 + low.toNat = payload.length) := by
  refine ⟨_, _, rfl, fun small => ?_⟩
  simp
  omega

theorem writeRawFrame_isSome {payload : List UInt8} {maximum : ℕ} :
    (writeRawFrame payload maximum).isSome ↔
      payload ≠ [] ∧ payload.length ≤ maximum ∧ payload.length ≤ 65535 := by
  unfold writeRawFrame
  split
  · rename_i refused
    simp only [Bool.or_eq_true, List.isEmpty_iff, decide_eq_true_eq] at refused
    simp only [Option.isSome_none, Bool.false_eq_true, false_iff]
    rintro ⟨nonempty, within, small⟩
    rcases refused with (empty | large) | large
    · exact nonempty empty
    · omega
    · omega
  · simp_all

/-- The bytes of an accepted frame are read as that frame, and no proper
beginning of them is. -/
theorem readRawFrame_begun {payload taken : List UInt8} {maximum : ℕ}
    (accepted : (writeRawFrame payload maximum).isSome) (begun : taken <+: frameBytes payload) :
    readRawFrame maximum taken = if taken = frameBytes payload then .done payload else .more := by
  obtain ⟨nonempty, within, small⟩ := writeRawFrame_isSome.1 accepted
  obtain ⟨high, low, bytes, header⟩ := frameBytes_cons payload
  have length := header small
  rw [bytes] at begun ⊢
  match taken with
  | [] => rfl
  | [_] => simp [readRawFrame]
  | h :: l :: body =>
    simp only [List.cons_prefix_cons] at begun
    obtain ⟨rfl, rfl, begun⟩ := begun
    have positive := List.length_pos_of_ne_nil nonempty
    simp only [readRawFrame, length]
    rw [if_neg (by omega)]
    by_cases whole : body = payload
    · simp [whole]
    · have partly : body.length ≠ payload.length := fun same => whole (begun.eq_of_length same)
      simp [partly, whole]

theorem readRawFrame_not_last {maximum : ℕ} (taken frame : List UInt8) :
    readRawFrame maximum taken ≠ .last frame := by
  unfold readRawFrame
  split
  · extract_lets
    split
    · simp
    · split <;> simp
  · simp

theorem frameBytes_of_length {high low : UInt8} {payload : List UInt8}
    (h : high.toNat * 256 + low.toNat = payload.length) : frameBytes payload = high :: low :: payload := by
  have small := high.toNat_lt
  have small' := low.toNat_lt
  have first : UInt8.ofNat (payload.length / 256) = high := by
    rw [← UInt8.toNat_inj, UInt8.toNat_ofNat']
    omega
  have second : UInt8.ofNat payload.length = low := by
    rw [← UInt8.toNat_inj, UInt8.toNat_ofNat']
    omega
  simp [frameBytes, bigEndian, List.range_succ, first, second]

/-- What is taken for a frame is its bytes. -/
theorem readRawFrame_eq {maximum : ℕ} {taken frame : List UInt8}
    (h : (readRawFrame maximum taken).frame? = some frame) : taken = frameBytes frame := by
  match taken with
  | [] => cases h
  | [_] => cases h
  | high :: low :: body =>
    simp only [readRawFrame] at h
    split at h
    · cases h
    · split at h
      · next size =>
        cases h
        exact (frameBytes_of_length size.symm).symm
      · cases h

theorem frameBytes_ne_nil (f : List UInt8) : frameBytes f ≠ [] := by
  obtain ⟨high, low, bytes, _⟩ := frameBytes_cons f
  simp [bytes]

section
variable {M : Type*} {decode : ℕ → List UInt8 → Option M} {goesOn : ℕ → M → Bool}

theorem readJson_exact : Exact (readJson decode goesOn) frameBytes := by
  intro i taken frame h
  unfold readJson at h
  cases raw : readRawFrame maxCiphertextFrame taken with
  | more | bad => simp [raw, Verdict.frame?] at h
  | last f => exact absurd raw (readRawFrame_not_last taken f)
  | done f =>
    obtain rfl : f = frame := by
      simp only [raw] at h
      split at h
      · cases h
      · split at h <;> exact Option.some.inj h
    exact readRawFrame_eq (by rw [raw]; rfl)

/-- An accepted frame that can be decoded is read, and nothing less. -/
theorem readJson_readAs {f : List UInt8} {i : ℕ} (accepted : (writeRawFrame f maxCiphertextFrame).isSome)
    (decoded : (decode i f).isSome) : ReadAs (readJson decode goesOn) frameBytes i f := by
  obtain ⟨message, decoded⟩ := Option.isSome_iff_exists.1 decoded
  refine ⟨?_, fun taken begun partly => ?_⟩
  · simp only [readJson, readRawFrame_begun accepted List.prefix_rfl, if_true, decoded]
    cases goesOn i message
    · exact .inr rfl
    · exact .inl rfl
  · simp [readJson, readRawFrame_begun accepted begun, partly]

/-- The reading ends with a frame when the loop does not go on after it. -/
theorem readJson_last {f : List UInt8} {i : ℕ} (accepted : (writeRawFrame f maxCiphertextFrame).isSome) :
    readJson decode goesOn i (frameBytes f) = .last f ↔
      ∃ message, decode i f = some message ∧ goesOn i message = false := by
  simp only [readJson, readRawFrame_begun accepted List.prefix_rfl, if_true]
  cases decode i f with
  | none => simp
  | some message => cases on : goesOn i message <;> simp [on]

end

end LanChat
