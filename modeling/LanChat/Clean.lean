import LanChat.Base.Json
import LanChat.Security

/-!
# What the sanitizers let through

A name that passes is one line, a text that passes is short, and neither holds
a character that the terminal acts on. The formats of identifiers, credentials
and fingerprints exclude those characters by themselves. A text that has passed
passes again, unchanged.
-/

namespace LanChat

/-- Nothing in `text` is a control of the terminal. -/
def Printable (text : String) : Prop := ∀ ch ∈ text.toList, isForbiddenTerminalChar ch = false

structure CleanLine (maxChars : ℕ) (line : String) : Prop where
  printable : Printable line
  oneLine : ∀ ch ∈ line.toList, ch ≠ '\n' ∧ ch ≠ '\r' ∧ ch ≠ '\t'
  short : line.length ≤ maxChars

structure CleanText (text : String) : Prop where
  printable : Printable text
  lines : text.toList.count '\n' + 1 ≤ maxMessageLines
  bytes : text.utf8ByteSize ≤ maxMessageBytes

instance (text : String) : Decidable (Printable text) :=
  decidable_of_iff ((text.toList.all fun ch => !isForbiddenTerminalChar ch) = true) (by simp [Printable])

instance (maxChars : ℕ) (line : String) : Decidable (CleanLine maxChars line) :=
  decidable_of_iff (Printable line ∧ (line.toList.all fun ch => ch != '\n' && ch != '\r' && ch != '\t') = true ∧
      line.length ≤ maxChars) (by
    simp only [List.all_eq_true, Bool.and_eq_true, bne_iff_ne, and_assoc]
    exact ⟨fun h => ⟨h.1, h.2.1, h.2.2⟩, fun h => ⟨h.printable, h.oneLine, h.short⟩⟩)

/-! ## Names -/

theorem flattenChar_printable {ch : Char} (shown : isForbiddenTerminalChar ch = false) :
    isForbiddenTerminalChar (flattenChar ch) = false := by
  unfold flattenChar
  split
  · decide
  · exact shown

theorem flattenChar_oneLine (ch : Char) :
    flattenChar ch ≠ '\n' ∧ flattenChar ch ≠ '\r' ∧ flattenChar ch ≠ '\t' := by
  unfold flattenChar
  split
  · decide
  · next kept => simpa [not_or, and_assoc] using kept

theorem sanitizeSingleLine_ok {raw field line : String} {maxChars : ℕ}
    (h : sanitizeSingleLine raw field maxChars = .ok line) : CleanLine maxChars line := by
  unfold sanitizeSingleLine at h
  simp only at h
  split at h
  · cases h
  · split at h
    · cases h
    · next fits =>
      cases h
      have kept : ∀ ch ∈ (((trim raw.toList).filter fun ch => !isForbiddenTerminalChar ch).map
          flattenChar), ∃ c, isForbiddenTerminalChar c = false ∧ flattenChar c = ch := by
        intro ch mem
        obtain ⟨c, shown, rfl⟩ := List.mem_map.1 mem
        exact ⟨c, by simpa using (List.mem_filter.1 shown).2, rfl⟩
      refine ⟨fun ch mem => ?_, fun ch mem => ?_, ?_⟩
      · rw [String.toList_ofList] at mem
        obtain ⟨c, shown, rfl⟩ := kept ch mem
        exact flattenChar_printable shown
      · rw [String.toList_ofList] at mem
        obtain ⟨c, -, rfl⟩ := kept ch mem
        exact flattenChar_oneLine c
      · rw [String.length_ofList]
        omega

/-! ## Texts -/

theorem size_le_of_sublist {a b : List Char} (h : a.Sublist b) : Json.size a ≤ Json.size b := by
  induction h with
  | slnil => exact le_rfl
  | cons ch _ ih =>
    rw [Json.size_cons]
    omega
  | cons_cons ch _ ih =>
    rw [Json.size_cons, Json.size_cons]
    omega

theorem trim_sublist (chars : List Char) : (trim chars).Sublist chars :=
  (List.rdropWhile_prefix _ _).sublist.trans (List.dropWhile_sublist _)

theorem trim_trim (chars : List Char) : trim (trim chars) = trim chars := by
  have front : (trim chars).dropWhile isWhitespace = trim chars := by
    rw [List.dropWhile_eq_self_iff]
    intro nonempty
    have trimmed : trim chars <+: chars.dropWhile isWhitespace := List.rdropWhile_prefix _ _
    rw [trimmed.getElem nonempty]
    exact List.dropWhile_eq_self_iff.1 (List.dropWhile_idempotent _ chars) _
  calc trim (trim chars) = (trim chars).rdropWhile isWhitespace := by rw [trim, front]
    _ = trim chars := List.rdropWhile_idempotent _ _

section
variable {lines : ℕ} {chars kept : List Char}

/-- The loop keeps some of the characters, in their order. -/
theorem keepChatChars_sublist (h : keepChatChars lines chars = some kept) : kept.Sublist chars := by
  induction chars generalizing lines kept with
  | nil =>
    cases h
    exact List.Sublist.refl _
  | cons ch chars ih =>
    unfold keepChatChars at h
    split at h
    · split at h
      · cases h
      · obtain ⟨rest, rec, rfl⟩ := Option.map_eq_some_iff.1 h
        exact (ih rec).cons_cons ch
    · split at h
      · obtain ⟨rest, rec, rfl⟩ := Option.map_eq_some_iff.1 h
        exact (ih rec).cons_cons ch
      · split at h
        · exact (ih h).cons ch
        · split at h
          · exact (ih h).cons ch
          · obtain ⟨rest, rec, rfl⟩ := Option.map_eq_some_iff.1 h
            exact (ih rec).cons_cons ch

/-- Every character kept is shown as it is, and none returns the cursor. -/
theorem keepChatChars_printable (h : keepChatChars lines chars = some kept) :
    ∀ ch ∈ kept, isForbiddenTerminalChar ch = false ∧ ch ≠ '\r' := by
  induction chars generalizing lines kept with
  | nil =>
    cases h
    exact nofun
  | cons ch chars ih =>
    unfold keepChatChars at h
    split at h
    · next newline =>
      split at h
      · cases h
      · obtain ⟨rest, rec, rfl⟩ := Option.map_eq_some_iff.1 h
        rw [List.forall_mem_cons]
        exact ⟨newline ▸ by decide, ih rec⟩
    · split at h
      · next tab =>
        obtain ⟨rest, rec, rfl⟩ := Option.map_eq_some_iff.1 h
        rw [List.forall_mem_cons]
        exact ⟨tab ▸ by decide, ih rec⟩
      · split at h
        · exact ih h
        · next noReturn =>
          split at h
          · exact ih h
          · next shown =>
            obtain ⟨rest, rec, rfl⟩ := Option.map_eq_some_iff.1 h
            rw [List.forall_mem_cons]
            exact ⟨⟨by simpa using shown, noReturn⟩, ih rec⟩

/-- The count of lines bounds the line breaks kept. -/
theorem keepChatChars_lines (h : keepChatChars lines chars = some kept)
    (bounded : lines ≤ maxMessageLines) : lines + kept.count '\n' ≤ maxMessageLines := by
  induction chars generalizing lines kept with
  | nil =>
    cases h
    exact bounded
  | cons ch chars ih =>
    unfold keepChatChars at h
    split at h
    · next newline =>
      split at h
      · cases h
      · next few =>
        obtain ⟨rest, rec, rfl⟩ := Option.map_eq_some_iff.1 h
        have := ih rec (Nat.le_of_not_lt few)
        rw [newline, List.count_cons_self]
        omega
    · next other =>
      have apart : ∀ rest : List Char, (ch :: rest).count '\n' = rest.count '\n' :=
        fun rest => List.count_cons_of_ne other
      split at h
      · obtain ⟨rest, rec, rfl⟩ := Option.map_eq_some_iff.1 h
        rw [apart]
        exact ih rec bounded
      · split at h
        · exact ih h bounded
        · split at h
          · exact ih h bounded
          · obtain ⟨rest, rec, rfl⟩ := Option.map_eq_some_iff.1 h
            rw [apart]
            exact ih rec bounded

/-- Characters that may all be kept are. -/
theorem keepChatChars_self (shown : ∀ ch ∈ chars, isForbiddenTerminalChar ch = false ∧ ch ≠ '\r')
    (few : lines + chars.count '\n' ≤ maxMessageLines) : keepChatChars lines chars = some chars := by
  induction chars generalizing lines with
  | nil => rfl
  | cons ch chars ih =>
    obtain ⟨⟨visible, noReturn⟩, shown⟩ := List.forall_mem_cons.1 shown
    unfold keepChatChars
    by_cases newline : ch = '\n'
    · rw [newline, List.count_cons_self] at few
      rw [if_pos newline, if_neg (by omega), ih shown (by omega)]
      rfl
    · rw [List.count_cons_of_ne newline] at few
      simp [newline, noReturn, visible, ih shown few]

end

theorem sanitizeChatText_cases {raw text : String} (h : sanitizeChatText raw = .ok text) :
    raw.utf8ByteSize ≤ maxMessageBytes ∧ ∃ kept, keepChatChars 1 raw.toList = some kept ∧
      trim kept ≠ [] ∧ text = String.ofList (trim kept) := by
  unfold sanitizeChatText at h
  split at h
  · cases h
  · next fits =>
    refine ⟨Nat.le_of_not_lt fits, ?_⟩
    split at h
    · cases h
    · next kept found =>
      simp only at h
      split at h
      · cases h
      · next nonempty =>
        cases h
        exact ⟨kept, found, by simpa using nonempty, rfl⟩

theorem sanitizeChatText_ok {raw text : String} (h : sanitizeChatText raw = .ok text) :
    CleanText text := by
  obtain ⟨fits, kept, found, -, rfl⟩ := sanitizeChatText_cases h
  have shown := keepChatChars_printable found
  have trimmed := trim_sublist kept
  refine ⟨fun ch mem => ?_, ?_, ?_⟩
  · rw [String.toList_ofList] at mem
    exact (shown ch (trimmed.subset mem)).1
  · rw [String.toList_ofList]
    have few := keepChatChars_lines found (by decide)
    have := trimmed.count_le '\n'
    omega
  · -- what is kept is part of the text that was measured
    calc (String.ofList (trim kept)).utf8ByteSize = Json.size (trim kept) :=
          Json.utf8ByteSize_ofList _
      _ ≤ Json.size raw.toList :=
          size_le_of_sublist (trimmed.trans (keepChatChars_sublist found))
      _ = raw.utf8ByteSize := by rw [← Json.utf8ByteSize_ofList, String.ofList_toList]
      _ ≤ maxMessageBytes := fits

/-- A text that has passed passes again, unchanged. -/
theorem sanitizeChatText_again {raw text : String} (h : sanitizeChatText raw = .ok text) :
    sanitizeChatText text = .ok text := by
  have clean := sanitizeChatText_ok h
  obtain ⟨-, kept, found, nonempty, rfl⟩ := sanitizeChatText_cases h
  have shown := keepChatChars_printable found
  have few := clean.lines
  rw [String.toList_ofList] at few
  have again : keepChatChars 1 (trim kept) = some (trim kept) :=
    keepChatChars_self (fun ch mem => shown ch ((trim_sublist kept).subset mem)) (by omega)
  simp [sanitizeChatText, if_neg (Nat.not_lt.2 clean.bytes), again, trim_trim, nonempty]

/-! ## Formats -/

theorem printable_of_range {ch : Char} (low : 0x20 ≤ ch.toNat) (high : ch.toNat < 0x7F) :
    isForbiddenTerminalChar ch = false := by
  simp only [isForbiddenTerminalChar, isControl, Bool.or_eq_false_iff, Bool.and_eq_false_iff,
    beq_eq_false_iff_ne, decide_eq_false_iff_not]
  omega

theorem isAsciiAlphanumeric_printable {ch : Char} (h : isAsciiAlphanumeric ch = true) :
    isForbiddenTerminalChar ch = false := by
  have bounds : '0'.val.toNat = 48 ∧ '9'.val.toNat = 57 ∧ 'a'.val.toNat = 97 ∧
    'z'.val.toNat = 122 ∧ 'A'.val.toNat = 65 ∧ 'Z'.val.toNat = 90 := by decide
  simp only [isAsciiAlphanumeric, Bool.or_eq_true, Bool.and_eq_true, decide_eq_true_eq,
    Char.le_def, UInt32.le_iff_toNat_le] at h
  apply printable_of_range <;> (unfold Char.toNat; omega)

theorem isAsciiAlphanumeric_of_hexdigit {ch : Char} (h : isAsciiHexdigit ch = true) :
    isAsciiAlphanumeric ch = true := by
  have bounds : 'f'.val.toNat = 102 ∧ 'z'.val.toNat = 122 ∧ 'F'.val.toNat = 70 ∧
    'Z'.val.toNat = 90 := by decide
  simp only [isAsciiHexdigit, isAsciiAlphanumeric, Bool.or_eq_true, Bool.and_eq_true,
    decide_eq_true_eq, Char.le_def, UInt32.le_iff_toNat_le] at h ⊢
  omega

theorem isSafeIdentifier_printable {value : String} (h : isSafeIdentifier value = true) :
    Printable value := by
  simp only [isSafeIdentifier, Bool.and_eq_true, List.all_eq_true, Bool.or_eq_true,
    beq_iff_eq] at h
  intro ch mem
  rcases h.2 ch mem with ((letter | rfl) | rfl) | rfl
  · exact isAsciiAlphanumeric_printable letter
  all_goals decide

theorem isValidGroupCredential_printable {value : String}
    (h : isValidGroupCredential value = true) : Printable value := by
  simp only [isValidGroupCredential, Bool.and_eq_true, List.all_eq_true, Bool.or_eq_true,
    beq_iff_eq] at h
  intro ch mem
  rcases h.2 ch mem with letter | rfl
  · exact isAsciiAlphanumeric_printable letter
  · decide

theorem isValidFingerprint_go_printable {index : ℕ} {chars : List Char}
    (h : isValidFingerprint.go index chars = true) :
    ∀ ch ∈ chars, isForbiddenTerminalChar ch = false := by
  induction chars generalizing index with
  | nil => exact nofun
  | cons ch chars ih =>
    simp only [isValidFingerprint.go, Bool.and_eq_true] at h
    rw [List.forall_mem_cons]
    refine ⟨?_, ih h.2⟩
    by_cases separator : index ∈ [4, 9, 14, 19, 24]
    · rw [if_pos separator, beq_iff_eq] at h
      rw [h.1]
      decide
    · rw [if_neg separator] at h
      exact isAsciiAlphanumeric_printable (isAsciiAlphanumeric_of_hexdigit h.1)

theorem isValidFingerprint_printable {value : String} (h : isValidFingerprint value = true) :
    Printable value := by
  rw [isValidFingerprint, Bool.and_eq_true] at h
  exact isValidFingerprint_go_printable h.2

end LanChat
