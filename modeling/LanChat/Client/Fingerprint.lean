import LanChat.Clean
import LanChat.Client.Direct

/-!
# Fingerprints of keys

`public_key_fingerprint` of `crypto.rs` with the check of its format and the
comparison with an expected string: what is pinned is the first twelve bytes of
the digest of the key. `hash` stands for `blake3::hash`.
-/

namespace LanChat

/-- `{:02x}` -/
def hexByte (byte : UInt8) : List Char := [hexDigit (byte.toNat / 16), hexDigit (byte.toNat % 16)]

/-- The chunks of two bytes, each as four digits. -/
def hexGroups : List UInt8 → List (List Char)
  | first :: second :: bytes => (hexByte first ++ hexByte second) :: hexGroups bytes
  | _ => []

/-- `join(":")` -/
def colons : List (List Char) → List Char
  | [] => []
  | [group] => group
  | group :: groups => group ++ ':' :: colons groups

def publicKeyFingerprint (hash : List UInt8 → Vector UInt8 32) (publicKey : List UInt8) : String :=
  String.ofList (colons (hexGroups ((hash publicKey).toList.take 12)))

/-- The two checks of the expected fingerprint in `open_gateway`, where `serverFingerprint` is
that of the key the server has shown in the handshake. -/
def checkServerFingerprint (expected : Option String) (serverFingerprint : String) : Except String Unit :=
  match expected with
  | none => .ok ()
  | some expected =>
    if !isValidFingerprint expected then .error "expected fingerprint has an invalid format"
    else if !eqIgnoreAsciiCase serverFingerprint expected then
      .error s!"server fingerprint mismatch: expected {expected}, received {serverFingerprint}"
    else .ok ()

/-! ## What a fingerprint says -/

/-- The value of a digit of either case. -/
def digitValue (ch : Char) : ℕ :=
  if ch.toNat ≤ 57 then ch.toNat - 48 else if ch.toNat ≤ 70 then ch.toNat - 55 else ch.toNat - 87

/-- The bytes that pairs of digits stand for. -/
def decodeDigits : List Char → List UInt8
  | high :: low :: digits => UInt8.ofNat (16 * digitValue high + digitValue low) :: decodeDigits digits
  | _ => []

def fingerprintDigits (value : String) : List Char := value.toList.filter (· != ':')

/-- Six groups of four hexadecimal digits, joined by colons. -/
def SixGroups (value : String) : Prop := ∃ groups : List (List Char), groups.length = 6 ∧
  (∀ group ∈ groups, group.length = 4 ∧ ∀ ch ∈ group, isAsciiHexdigit ch = true) ∧
    value.toList = colons groups

/-! ## Digits -/

/-- The digits, in both cases. -/
def asciiHexdigits : List Char := "0123456789abcdefABCDEF".toList

theorem mem_asciiHexdigits {ch : Char} (h : isAsciiHexdigit ch = true) : ch ∈ asciiHexdigits := by
  have bounds : '0'.val.toNat = 48 ∧ '9'.val.toNat = 57 ∧ 'a'.val.toNat = 97 ∧ 'f'.val.toNat = 102 ∧
    'A'.val.toNat = 65 ∧ 'F'.val.toNat = 70 := by decide
  simp only [isAsciiHexdigit, Bool.or_eq_true, Bool.and_eq_true, decide_eq_true_eq, Char.le_def,
    UInt32.le_iff_toNat_le] at h
  have all : ∀ n < 128, (48 ≤ n ∧ n ≤ 57) ∨ (97 ≤ n ∧ n ≤ 102) ∨ (65 ≤ n ∧ n ≤ 70) →
      Char.ofNat n ∈ asciiHexdigits := by decide
  have value : ch.val.toNat < 128 := by omega
  have listed := all ch.val.toNat value (by omega)
  rwa [show Char.ofNat ch.val.toNat = ch from Char.ofNat_toNat ch] at listed

/-- What the digits of a byte are compared by. -/
structure DigitFacts (ch : Char) : Prop where
  value : digitValue ch < 16
  lower : hexDigit (digitValue ch) = ch.toLower
  oneByte : ch.utf8Size = 1
  noColon : ch ≠ ':'

instance (ch : Char) : Decidable (DigitFacts ch) :=
  decidable_of_iff (digitValue ch < 16 ∧ hexDigit (digitValue ch) = ch.toLower ∧ ch.utf8Size = 1 ∧ ch ≠ ':')
    ⟨fun h => ⟨h.1, h.2.1, h.2.2.1, h.2.2.2⟩, fun h => ⟨h.value, h.lower, h.oneByte, h.noColon⟩⟩

theorem digitFacts {ch : Char} (h : isAsciiHexdigit ch = true) : DigitFacts ch := by
  have all : (asciiHexdigits.all fun ch => decide (DigitFacts ch)) = true := by decide
  exact of_decide_eq_true (List.all_eq_true.1 all ch (mem_asciiHexdigits h))

theorem hexDigit_facts {d : ℕ} (h : d < 16) :
    isAsciiHexdigit (hexDigit d) = true ∧ digitValue (hexDigit d) = d ∧ (hexDigit d).toLower = hexDigit d := by
  have all : ∀ d < 16, isAsciiHexdigit (hexDigit d) = true ∧ digitValue (hexDigit d) = d ∧
      (hexDigit d).toLower = hexDigit d := by decide
  exact all d h

theorem hexByte_hexdigit {byte : UInt8} {ch : Char} (h : ch ∈ hexByte byte) : isAsciiHexdigit ch = true := by
  have small := byte.toNat_lt
  simp only [hexByte, List.mem_cons, List.not_mem_nil, or_false] at h
  rcases h with rfl | rfl
  · exact (hexDigit_facts (by omega)).1
  · exact (hexDigit_facts (by omega)).1

/-- Two digits are those of a byte, up to their case, exactly when they stand for it. -/
theorem hexByte_lower {high low : Char} (isHigh : isAsciiHexdigit high = true)
    (isLow : isAsciiHexdigit low = true) (byte : UInt8) :
    hexByte byte = [high.toLower, low.toLower] ↔ UInt8.ofNat (16 * digitValue high + digitValue low) = byte := by
  have h := digitFacts isHigh
  have l := digitFacts isLow
  have small := byte.toNat_lt
  have hv := h.value
  have lv := l.value
  rw [← h.lower, ← l.lower]
  constructor
  · intro same
    simp only [hexByte, List.cons.injEq, and_true] at same
    have first := congrArg digitValue same.1
    have second := congrArg digitValue same.2
    rw [(hexDigit_facts (by omega)).2.1, (hexDigit_facts hv).2.1] at first
    rw [(hexDigit_facts (by omega)).2.1, (hexDigit_facts lv).2.1] at second
    apply UInt8.toNat_inj.1
    rw [UInt8.toNat_ofNat']
    omega
  · rintro rfl
    have value : (UInt8.ofNat (16 * digitValue high + digitValue low)).toNat =
        16 * digitValue high + digitValue low := by
      rw [UInt8.toNat_ofNat']
      omega
    rw [hexByte, value]
    rw [show (16 * digitValue high + digitValue low) / 16 = digitValue high by omega,
      show (16 * digitValue high + digitValue low) % 16 = digitValue low by omega]

/-! ## Groups of digits -/

def IsGroup (group : List Char) : Prop := group.length = 4 ∧ ∀ ch ∈ group, isAsciiHexdigit ch = true

/-- Groups, at least one, and the text they make. -/
inductive Grouped : ℕ → List Char → Prop where
  | last {group : List Char} : IsGroup group → Grouped 1 group
  | next {n : ℕ} {group rest : List Char} : IsGroup group → Grouped n rest →
      Grouped (n + 1) (group ++ ':' :: rest)

theorem IsGroup.digits {group : List Char} (h : IsGroup group) : ∃ a b c d, group = [a, b, c, d] ∧
    isAsciiHexdigit a = true ∧ isAsciiHexdigit b = true ∧ isAsciiHexdigit c = true ∧
      isAsciiHexdigit d = true := by
  obtain ⟨length, digits⟩ := h
  obtain ⟨a, b, c, d, rfl⟩ := List.length_eq_four.1 length
  exact ⟨a, b, c, d, rfl, digits a (by simp), digits b (by simp), digits c (by simp), digits d (by simp)⟩

theorem grouped_iff {n : ℕ} {chars : List Char} : Grouped (n + 1) chars ↔
    ∃ groups : List (List Char), groups.length = n + 1 ∧ (∀ group ∈ groups, IsGroup group) ∧
      chars = colons groups := by
  constructor
  · intro grouped
    generalize count : n + 1 = m at grouped ⊢
    induction grouped generalizing n with
    | last isGroup => exact ⟨[_], rfl, by simpa using isGroup, rfl⟩
    | @next m group rest isGroup grouped ih =>
      have positive : 0 < m := by cases grouped <;> omega
      obtain ⟨groups, length, all, rfl⟩ := @ih (m - 1) (by omega)
      obtain ⟨first, others, rfl⟩ := List.exists_cons_of_length_pos (length ▸ positive)
      refine ⟨group :: first :: others, by simp [← length], ?_, rfl⟩
      rw [List.forall_mem_cons]
      exact ⟨isGroup, all⟩
  · rintro ⟨groups, length, all, rfl⟩
    induction n generalizing groups with
    | zero =>
      obtain ⟨group, rfl⟩ := List.length_eq_one_iff.1 length
      exact .last (all group List.mem_cons_self)
    | succ n ih =>
      obtain ⟨group, groups, rfl⟩ := List.exists_cons_of_length_eq_add_one length
      obtain ⟨first, others, rfl⟩ := List.exists_cons_of_length_eq_add_one (by simpa using length)
      rw [List.forall_mem_cons] at all
      exact .next all.1 (ih _ (by simpa using length) all.2)

/-- Everything that passes takes one byte a character. -/
theorem oneByte_of_go {index : ℕ} {chars : List Char} (h : isValidFingerprint.go index chars = true) :
    ∀ ch ∈ chars, ch.utf8Size = 1 := by
  induction chars generalizing index with
  | nil => exact nofun
  | cons ch chars ih =>
    simp only [isValidFingerprint.go, Bool.and_eq_true] at h
    rw [List.forall_mem_cons]
    refine ⟨?_, ih h.2⟩
    by_cases separator : index ∈ [4, 9, 14, 19, 24]
    · rw [if_pos separator, beq_iff_eq] at h
      rw [h.1]
      rfl
    · rw [if_neg separator] at h
      exact (digitFacts h.1).oneByte

theorem go_digit {index : ℕ} {ch : Char} {chars : List Char} (inside : index ∉ [4, 9, 14, 19, 24]) :
    isValidFingerprint.go index (ch :: chars) = true ↔
      isAsciiHexdigit ch = true ∧ isValidFingerprint.go (index + 1) chars = true := by
  rw [isValidFingerprint.go, if_neg inside, Bool.and_eq_true]
  refine and_congr_right fun digit => ?_
  rw [(digitFacts digit).oneByte]

theorem go_colon {index : ℕ} {ch : Char} {chars : List Char} (between : index ∈ [4, 9, 14, 19, 24]) :
    isValidFingerprint.go index (ch :: chars) = true ↔
      ch = ':' ∧ isValidFingerprint.go (index + 1) chars = true := by
  rw [isValidFingerprint.go, if_pos between, Bool.and_eq_true, beq_iff_eq]
  refine and_congr_right fun colon => ?_
  rw [colon]
  rfl

/-- The position of the first of the last `n` groups. -/
def groupStart (n : ℕ) : ℕ := 30 - 5 * n

theorem go_group {n : ℕ} (positive : 0 < n) (six : n ≤ 6) {a b c d : Char} {rest : List Char} :
    isValidFingerprint.go (groupStart n) (a :: b :: c :: d :: rest) = true ↔
      IsGroup [a, b, c, d] ∧ isValidFingerprint.go (groupStart n + 4) rest = true := by
  have inside : ∀ i < 4, groupStart n + i ∉ [4, 9, 14, 19, 24] := by
    intro i small
    simp only [groupStart, List.mem_cons, List.not_mem_nil, or_false]
    omega
  have first : groupStart n ∉ [4, 9, 14, 19, 24] := inside 0 (by omega)
  rw [go_digit first, go_digit (inside 1 (by omega)), go_digit (inside 2 (by omega)),
    go_digit (inside 3 (by omega))]
  simp [IsGroup, and_assoc]

/-- The check goes from group to group. -/
theorem go_grouped {n : ℕ} (positive : 0 < n) (six : n ≤ 6) {chars : List Char} :
    (chars.length + 1 = 5 * n ∧ isValidFingerprint.go (groupStart n) chars = true) ↔ Grouped n chars := by
  induction n generalizing chars with
  | zero => omega
  | succ n ih =>
    have between : 0 < n → groupStart (n + 1) + 4 ∈ [4, 9, 14, 19, 24] := by
      intro more
      simp only [groupStart, List.mem_cons, List.not_mem_nil, or_false]
      omega
    have following : groupStart (n + 1) + 4 + 1 = groupStart n := by
      simp only [groupStart]
      omega
    constructor
    · rintro ⟨length, passes⟩
      obtain ⟨a, chars, rfl⟩ := List.exists_cons_of_length_pos (l := chars) (by omega)
      obtain ⟨b, chars, rfl⟩ := List.exists_cons_of_length_pos (l := chars) (by simp at length; omega)
      obtain ⟨c, chars, rfl⟩ := List.exists_cons_of_length_pos (l := chars) (by simp at length; omega)
      obtain ⟨d, chars, rfl⟩ := List.exists_cons_of_length_pos (l := chars) (by simp at length; omega)
      obtain ⟨isGroup, rest⟩ := (go_group positive six).1 passes
      simp only [List.length_cons] at length
      rcases Nat.eq_zero_or_pos n with rfl | more
      · obtain rfl : chars = [] := List.eq_nil_of_length_eq_zero (by omega)
        exact .last isGroup
      · obtain ⟨colon, chars, rfl⟩ := List.exists_cons_of_length_pos (l := chars) (by omega)
        rw [go_colon (between more), following] at rest
        obtain ⟨rfl, rest⟩ := rest
        simp only [List.length_cons] at length
        exact .next isGroup ((ih more (by omega)).1 ⟨by omega, rest⟩)
    · intro grouped
      cases grouped with
      | last isGroup =>
        obtain ⟨a, b, c, d, rfl, -⟩ := isGroup.digits
        exact ⟨rfl, (go_group positive six).2 ⟨isGroup, rfl⟩⟩
      | @next _ group rest isGroup grouped =>
        have more : 0 < n := by cases grouped <;> omega
        obtain ⟨length, passes⟩ := (ih more (by omega)).2 grouped
        obtain ⟨a, b, c, d, rfl, -⟩ := isGroup.digits
        refine ⟨by simp only [List.length_append, List.length_cons, List.length_nil]; omega, ?_⟩
        exact (go_group positive six).2 ⟨isGroup, (go_colon (between more)).2 ⟨rfl, following ▸ passes⟩⟩

/-- Six groups are what the format check accepts. -/
theorem isValidFingerprint_iff {value : String} :
    isValidFingerprint value = true ↔ Grouped 6 value.toList := by
  have size : ∀ {chars : List Char}, (∀ ch ∈ chars, ch.utf8Size = 1) → Json.size chars = chars.length :=
    fun ascii => Json.size_of_ascii ascii
  have bytes : value.utf8ByteSize = Json.size value.toList := by
    rw [← Json.utf8ByteSize_ofList, String.ofList_toList]
  rw [← go_grouped (by decide) (by decide), isValidFingerprint, Bool.and_eq_true, beq_iff_eq, bytes]
  constructor
  · rintro ⟨length, passes⟩
    rw [size (oneByte_of_go passes)] at length
    exact ⟨by omega, passes⟩
  · rintro ⟨length, passes⟩
    rw [size (oneByte_of_go passes)]
    exact ⟨by omega, passes⟩

/-! ## The fingerprint of a key -/

theorem hexGroups_grouped {n : ℕ} {bytes : List UInt8} (length : bytes.length = 2 * (n + 1)) :
    Grouped (n + 1) (colons (hexGroups bytes)) := by
  have isGroup (first second : UInt8) : IsGroup (hexByte first ++ hexByte second) :=
    ⟨rfl, fun ch mem => (List.mem_append.1 mem).elim hexByte_hexdigit hexByte_hexdigit⟩
  induction n generalizing bytes with
  | zero =>
    obtain ⟨first, second, rfl⟩ := List.length_eq_two.1 length
    exact .last (isGroup first second)
  | succ n ih =>
    obtain ⟨first, bytes, rfl⟩ := List.exists_cons_of_length_pos (l := bytes) (by omega)
    obtain ⟨second, bytes, rfl⟩ := List.exists_cons_of_length_pos (l := bytes) (by simp at length; omega)
    simp only [List.length_cons] at length
    obtain ⟨third, bytes, rfl⟩ := List.exists_cons_of_length_pos (l := bytes) (by omega)
    obtain ⟨fourth, bytes, rfl⟩ := List.exists_cons_of_length_pos (l := bytes) (by simp at length; omega)
    exact .next (isGroup first second) (ih (by simp only [List.length_cons] at length ⊢; omega))

theorem hexByte_map_toLower (byte : UInt8) : (hexByte byte).map Char.toLower = hexByte byte := by
  have small := byte.toNat_lt
  simp only [hexByte, List.map_cons, List.map_nil]
  rw [(hexDigit_facts (by omega)).2.2, (hexDigit_facts (by omega)).2.2]

/-- Parts of the same length are compared one by one. -/
theorem append_eq_iff {s s' t t' : List Char} (length : s.length = s'.length) :
    s ++ t = s' ++ t' ↔ s = s' ∧ t = t' :=
  ⟨fun same => List.append_inj same length, fun ⟨first, second⟩ => by rw [first, second]⟩

/-- A group is that of two bytes, up to the case of its digits, when its digits stand for them. -/
theorem group_lower {a b c d : Char} (isGroup : IsGroup [a, b, c, d]) (first second : UInt8) :
    (hexByte first ++ hexByte second).map Char.toLower = [a, b, c, d].map Char.toLower ↔
      UInt8.ofNat (16 * digitValue a + digitValue b) = first ∧
        UInt8.ofNat (16 * digitValue c + digitValue d) = second := by
  have digits := isGroup.2
  simp only [List.forall_mem_cons] at digits
  obtain ⟨ha, hb, hc, hd, -⟩ := digits
  rw [← hexByte_lower ha hb, ← hexByte_lower hc hd, List.map_append, hexByte_map_toLower,
    hexByte_map_toLower]
  exact @append_eq_iff (hexByte first) [a.toLower, b.toLower] _ _ rfl

/-- Groups of digits are those of the bytes, up to case, exactly when the digits stand for them. -/
theorem colons_lower {n : ℕ} {bytes : List UInt8} {chars : List Char}
    (length : bytes.length = 2 * (n + 1)) (grouped : Grouped (n + 1) chars) :
    (colons (hexGroups bytes)).map Char.toLower = chars.map Char.toLower ↔
      decodeDigits (chars.filter (· != ':')) = bytes := by
  have noColons : ∀ {a b c d : Char}, IsGroup [a, b, c, d] → (a != ':') = true ∧ (b != ':') = true ∧
      (c != ':') = true ∧ (d != ':') = true := by
    intro a b c d isGroup
    have digits := isGroup.2
    simp only [List.forall_mem_cons] at digits
    simp only [bne_iff_ne]
    exact ⟨(digitFacts digits.1).noColon, (digitFacts digits.2.1).noColon,
      (digitFacts digits.2.2.1).noColon, (digitFacts digits.2.2.2.1).noColon⟩
  induction n generalizing bytes chars with
  | zero =>
    obtain ⟨first, second, rfl⟩ := List.length_eq_two.1 length
    cases grouped with
    | last isGroup =>
      obtain ⟨a, b, c, d, rfl, -⟩ := isGroup.digits
      obtain ⟨na, nb, nc, nd⟩ := noColons isGroup
      rw [show colons (hexGroups [first, second]) = hexByte first ++ hexByte second from rfl,
        group_lower isGroup]
      simp [na, nb, nc, nd, decodeDigits]
    | next _ none => cases none
  | succ n ih =>
    obtain ⟨first, bytes, rfl⟩ := List.exists_cons_of_length_pos (l := bytes) (by omega)
    obtain ⟨second, bytes, rfl⟩ := List.exists_cons_of_length_pos (l := bytes) (by simp at length; omega)
    have shorter : bytes.length = 2 * (n + 1) := by
      simp only [List.length_cons] at length
      omega
    cases grouped with
    | @next _ group rest isGroup grouped =>
      obtain ⟨a, b, c, d, rfl, -⟩ := isGroup.digits
      obtain ⟨na, nb, nc, nd⟩ := noColons isGroup
      obtain ⟨third, fourth, others, rfl⟩ : ∃ third fourth others, bytes = third :: fourth :: others := by
        obtain ⟨third, bytes, rfl⟩ := List.exists_cons_of_length_pos (l := bytes) (by omega)
        obtain ⟨fourth, bytes, rfl⟩ :=
          List.exists_cons_of_length_pos (l := bytes) (by simp at shorter; omega)
        exact ⟨third, fourth, bytes, rfl⟩
      have digits : decodeDigits (([a, b, c, d] ++ ':' :: rest).filter (· != ':')) =
          UInt8.ofNat (16 * digitValue a + digitValue b) :: UInt8.ofNat (16 * digitValue c + digitValue d) ::
            decodeDigits (rest.filter (· != ':')) := by
        simp [na, nb, nc, nd, decodeDigits]
      have split : colons (hexGroups (first :: second :: third :: fourth :: others)) =
          (hexByte first ++ hexByte second) ++ ':' :: colons (hexGroups (third :: fourth :: others)) := rfl
      have parts : ((hexByte first ++ hexByte second) ++
          ':' :: colons (hexGroups (third :: fourth :: others))).map Char.toLower =
            ([a, b, c, d] ++ ':' :: rest).map Char.toLower ↔
          (hexByte first ++ hexByte second).map Char.toLower = [a, b, c, d].map Char.toLower ∧
            (colons (hexGroups (third :: fourth :: others))).map Char.toLower = rest.map Char.toLower := by
        rw [List.map_append, @List.map_append _ _ _ [a, b, c, d], append_eq_iff (by rfl)]
        refine and_congr_right fun _ => ?_
        simp
      have tail : (colons (hexGroups (third :: fourth :: others))).map Char.toLower = rest.map Char.toLower ↔
          decodeDigits (rest.filter (· != ':')) = third :: fourth :: others := ih shorter grouped
      rw [digits, split, parts, group_lower isGroup, tail, List.cons.injEq, List.cons.injEq]
      simp [and_assoc]

theorem length_take_digest (hash : List UInt8 → Vector UInt8 32) (publicKey : List UInt8) :
    ((hash publicKey).toList.take 12).length = 12 := by simp

/-- **Pinning.** The format check accepts six groups of four digits, every fingerprint of a key
passes it, and an expected string that passes is that of a key, whatever the case of its digits,
exactly when it stands for the first twelve bytes of the digest of the key. -/
theorem fingerprint_pinning (hash : List UInt8 → Vector UInt8 32) :
    (∀ value, isValidFingerprint value = true ↔ SixGroups value) ∧
    (∀ publicKey, isValidFingerprint (publicKeyFingerprint hash publicKey) = true) ∧
    ∀ publicKey expected, isValidFingerprint expected = true →
      let fingerprint := publicKeyFingerprint hash publicKey
      let pinned := decodeDigits (fingerprintDigits expected) = (hash publicKey).toList.take 12
      (checkServerFingerprint (some expected) fingerprint = .ok () ↔ pinned) ∧
        (eqIgnoreAsciiCase expected fingerprint = true ↔ pinned) := by
  refine ⟨fun value => ?_, fun publicKey => ?_, fun publicKey expected valid => ?_⟩
  · rw [isValidFingerprint_iff, grouped_iff]
    rfl
  · rw [isValidFingerprint_iff, publicKeyFingerprint, String.toList_ofList]
    exact hexGroups_grouped (length_take_digest hash publicKey)
  · have compared : (publicKeyFingerprint hash publicKey).toList.map Char.toLower =
        expected.toList.map Char.toLower ↔
          decodeDigits (fingerprintDigits expected) = (hash publicKey).toList.take 12 := by
      rw [publicKeyFingerprint, String.toList_ofList]
      exact colons_lower (length_take_digest hash publicKey) (isValidFingerprint_iff.1 valid)
    refine ⟨?_, ?_⟩
    · rw [← compared]
      by_cases same : (publicKeyFingerprint hash publicKey).toList.map Char.toLower =
          expected.toList.map Char.toLower
      · simp [checkServerFingerprint, valid, eqIgnoreAsciiCase, same]
      · simp [checkServerFingerprint, valid, eqIgnoreAsciiCase, same]
    · rw [← compared, eqIgnoreAsciiCase, beq_iff_eq, eq_comm]

/-- An expected string in upper case. -/
theorem fingerprint_pinning_upper :
    let hash : List UInt8 → Vector UInt8 32 := fun _ => Vector.replicate 32 0xab
    checkServerFingerprint (some "ABAB:ABAB:ABab:ABAB:abAB:ABAB") (publicKeyFingerprint hash []) = .ok () :=
  ((fingerprint_pinning _).2.2 [] _ (by decide)).1.2 (by decide)

end LanChat
