import LanChat.Clean

/-!
# Normal forms of names and texts

What the sanitizers return, compared with what they were given. A text that
passes is the raw text without what may not be shown and without the white space
at its ends, and it passes again unchanged. A name is trimmed before characters
are taken out of it, so that white space behind such a character stays at its end.
-/

namespace LanChat

/-! ## Trimming -/

theorem trim_eq_self_iff {chars : List Char} : trim chars = chars ↔
    (∀ ch, chars.head? = some ch → isWhitespace ch = false) ∧
      ∀ ch, chars.getLast? = some ch → isWhitespace ch = false := by
  have front : chars.dropWhile isWhitespace = chars ↔
      ∀ ch, chars.head? = some ch → isWhitespace ch = false := by
    cases chars with
    | nil => simp
    | cons ch chars => rw [List.dropWhile_eq_self_iff]; simp
  have back : chars.rdropWhile isWhitespace = chars ↔
      ∀ ch, chars.getLast? = some ch → isWhitespace ch = false := by
    rw [List.rdropWhile_eq_self_iff]
    constructor
    · intro apart ch last
      have nonempty : chars ≠ [] := by
        rintro rfl
        cases last
      rw [List.getLast?_eq_some_getLast nonempty] at last
      rw [← Option.some.inj last]
      exact Bool.eq_false_iff.2 (apart nonempty)
    · intro apart nonempty
      exact Bool.eq_false_iff.1 (apart _ (List.getLast?_eq_some_getLast nonempty))
  rw [← front, ← back]
  constructor
  · intro same
    have shorter := (List.rdropWhile_prefix isWhitespace (chars.dropWhile isWhitespace)).length_le
    rw [← trim, same] at shorter
    have whole := (List.dropWhile_suffix isWhitespace (l := chars)).eq_of_length_le shorter
    rw [trim, whole] at same
    exact ⟨whole, same⟩
  · rintro ⟨front, back⟩
    rw [trim, front, back]

/-- What is trimmed off is white space. -/
theorem trim_split (chars : List Char) : ∃ front back, chars = front ++ trim chars ++ back ∧
    (∀ ch ∈ front, isWhitespace ch = true) ∧ ∀ ch ∈ back, isWhitespace ch = true := by
  refine ⟨chars.takeWhile isWhitespace, (chars.dropWhile isWhitespace).rtakeWhile isWhitespace, ?_,
    fun ch mem => List.mem_takeWhile_imp mem, fun ch mem => List.mem_rtakeWhile_imp mem⟩
  rw [trim, List.append_assoc, List.rdropWhile_append_rtakeWhile, List.takeWhile_append_dropWhile]

/-! ## Texts -/

/-- The characters of a text that are kept. -/
def isChatChar (ch : Char) : Bool := ch != '\r' && !isForbiddenTerminalChar ch

theorem keepChatChars_filter {lines : ℕ} {chars kept : List Char}
    (h : keepChatChars lines chars = some kept) : kept = chars.filter isChatChar := by
  induction chars generalizing lines kept with
  | nil =>
    cases h
    rfl
  | cons ch chars ih =>
    unfold keepChatChars at h
    split at h
    · next newline =>
      split at h
      · cases h
      · obtain ⟨rest, rec, rfl⟩ := Option.map_eq_some_iff.1 h
        rw [List.filter_cons_of_pos (newline ▸ by decide), ← ih rec]
    · split at h
      · next tab =>
        obtain ⟨rest, rec, rfl⟩ := Option.map_eq_some_iff.1 h
        rw [List.filter_cons_of_pos (tab ▸ by decide), ← ih rec]
      · split at h
        · next isReturn =>
          rw [List.filter_cons_of_neg (by simp [isChatChar, isReturn]), ← ih h]
        · next noReturn =>
          split at h
          · next hidden =>
            rw [List.filter_cons_of_neg (by simp [isChatChar, hidden]), ← ih h]
          · next shown =>
            obtain ⟨rest, rec, rfl⟩ := Option.map_eq_some_iff.1 h
            rw [List.filter_cons_of_pos (by simp [isChatChar, noReturn, shown]), ← ih rec]

/-- A text in normal form, and what it leaves out of the raw text: characters that are not
kept, and the white space at the two ends of what is kept. -/
structure NormalText (raw text : String) : Prop where
  nonempty : text ≠ ""
  front : ∀ ch, text.toList.head? = some ch → isWhitespace ch = false
  back : ∀ ch, text.toList.getLast? = some ch → isWhitespace ch = false
  noReturn : '\r' ∉ text.toList
  clean : CleanText text
  deletes : text.toList.Sublist raw.toList
  keeps : ∃ front back, raw.toList.filter isChatChar = front ++ text.toList ++ back ∧
    (∀ ch ∈ front, isWhitespace ch = true) ∧ ∀ ch ∈ back, isWhitespace ch = true
  again : sanitizeChatText text = .ok text

/-- **A text that passes is in normal form.** -/
theorem chat_text_normal {raw text : String} (h : sanitizeChatText raw = .ok text) :
    NormalText raw text := by
  obtain ⟨-, kept, found, nonempty, same⟩ := sanitizeChatText_cases h
  have chars : text.toList = trim kept := by rw [same, String.toList_ofList]
  obtain ⟨front, back⟩ := trim_eq_self_iff.1 (trim_trim kept)
  have trimmed := trim_sublist kept
  refine ⟨?_, ?_, ?_, ?_, sanitizeChatText_ok h, ?_, ?_, sanitizeChatText_again h⟩
  · rintro rfl
    exact nonempty chars.symm
  · rwa [chars]
  · rwa [chars]
  · rw [chars]
    exact fun mem => (keepChatChars_printable found _ (trimmed.subset mem)).2 rfl
  · rw [chars]
    exact trimmed.trans (keepChatChars_sublist found)
  · rw [chars, ← keepChatChars_filter found]
    exact trim_split kept

theorem chat_text_normal_padded : NormalText " \x1b[1mhi\r\n there\t\n" "[1mhi\n there" :=
  chat_text_normal (by decide)

/-! ## Names -/

/-- A name in normal form. -/
structure NormalLine (field : String) (maxChars : ℕ) (line : String) : Prop where
  visible : ∃ ch ∈ line.toList, isWhitespace ch = false
  front : ∀ ch, line.toList.head? = some ch → isWhitespace ch = false
  back : ∀ ch, line.toList.getLast? = some ch → isWhitespace ch = false
  clean : CleanLine maxChars line
  again : sanitizeSingleLine line field maxChars = .ok line

/-- Of the characters of the trimmed input that may be shown, the first and the last are not
white space, or there are more of them than the limit. -/
def EdgesShow (raw : String) (maxChars : ℕ) : Prop :=
  let shown := fun ch => !isForbiddenTerminalChar ch
  maxChars < (trim raw.toList).countP shown ∨
    ((∀ ch, (trim raw.toList).find? shown = some ch → isWhitespace ch = false) ∧
      ∀ ch, (trim raw.toList).reverse.find? shown = some ch → isWhitespace ch = false)

/-- Line breaks and tabs are white space, and so is what they become. -/
theorem isWhitespace_flattenChar (ch : Char) : isWhitespace (flattenChar ch) = isWhitespace ch := by
  unfold flattenChar
  split
  · next flattened =>
    simp only [Bool.or_eq_true, beq_iff_eq] at flattened
    rcases flattened with (rfl | rfl) | rfl <;> decide
  · rfl

theorem flattenChar_self {ch : Char} (oneLine : ch ≠ '\n' ∧ ch ≠ '\r' ∧ ch ≠ '\t') :
    flattenChar ch = ch := by
  simp [flattenChar, oneLine]

/-- A clean line without white space at its ends passes unchanged. -/
theorem sanitizeSingleLine_self {line field : String} {maxChars : ℕ} (clean : CleanLine maxChars line)
    (nonempty : line.toList ≠ []) (edges : trim line.toList = line.toList) :
    sanitizeSingleLine line field maxChars = .ok line := by
  have shown : line.toList.filter (fun ch => !isForbiddenTerminalChar ch) = line.toList :=
    List.filter_eq_self.2 fun ch mem => by simp [clean.printable ch mem]
  have flat : line.toList.map flattenChar = line.toList :=
    (List.map_congr_left fun ch mem => flattenChar_self (clean.oneLine ch mem)).trans (List.map_id' _)
  have short : ¬ maxChars < line.toList.length := by
    have := clean.short
    rw [← String.length_toList] at this
    omega
  simp only [sanitizeSingleLine, edges, shown, flat]
  rw [if_neg (by simpa using nonempty), if_neg short, String.ofList_toList]

theorem sanitizeSingleLine_cases {raw field line : String} {maxChars : ℕ}
    (h : sanitizeSingleLine raw field maxChars = .ok line) :
    line.toList = ((trim raw.toList).filter fun ch => !isForbiddenTerminalChar ch).map flattenChar ∧
      line.toList ≠ [] ∧ (trim raw.toList).countP (fun ch => !isForbiddenTerminalChar ch) ≤ maxChars := by
  unfold sanitizeSingleLine at h
  simp only at h
  split at h
  · cases h
  · next nonempty =>
    split at h
    · cases h
    · next fits =>
      cases h
      rw [List.length_map, ← List.countP_eq_length_filter] at fits
      rw [String.toList_ofList]
      exact ⟨rfl, by simpa using nonempty, Nat.le_of_not_lt fits⟩

/-- The ends of a name are those of what is shown. -/
theorem edges_sanitized {raw field line : String} {maxChars : ℕ}
    (h : sanitizeSingleLine raw field maxChars = .ok line) : EdgesShow raw maxChars ↔
      (∀ ch, line.toList.head? = some ch → isWhitespace ch = false) ∧
        ∀ ch, line.toList.getLast? = some ch → isWhitespace ch = false := by
  obtain ⟨chars, -, few⟩ := sanitizeSingleLine_cases h
  simp only [EdgesShow, Nat.not_lt.2 few, false_or, chars, List.head?_map, List.getLast?_map,
    List.head?_filter, List.getLast?_filter]
  simp [isWhitespace_flattenChar]

/-- A name that is refused is empty, or too long, once trimmed and filtered. -/
theorem edges_refused {raw field error : String} {maxChars : ℕ}
    (h : sanitizeSingleLine raw field maxChars = .error error) : EdgesShow raw maxChars := by
  unfold sanitizeSingleLine at h
  simp only at h
  split at h
  · next empty =>
    have none : (trim raw.toList).filter (fun ch => !isForbiddenTerminalChar ch) = [] := by
      simpa using empty
    refine .inr ⟨fun ch first => ?_, fun ch last => ?_⟩
    · rw [← List.head?_filter, none] at first
      cases first
    · rw [← List.getLast?_filter, none] at last
      cases last
  · split at h
    · next long =>
      rw [List.length_map, ← List.countP_eq_length_filter] at long
      exact .inl long
    · cases h

/-- **A name that passes is in normal form** exactly when taking characters out of the trimmed
input leaves no white space at its ends. -/
theorem single_line_normal (raw field : String) (maxChars : ℕ) :
    (∀ line, sanitizeSingleLine raw field maxChars = .ok line → NormalLine field maxChars line) ↔
      EdgesShow raw maxChars := by
  constructor
  · intro normal
    cases passed : sanitizeSingleLine raw field maxChars with
    | error error => exact edges_refused passed
    | ok line => exact (edges_sanitized passed).2 ⟨(normal line passed).front, (normal line passed).back⟩
  · intro edges line passed
    obtain ⟨front, back⟩ := (edges_sanitized passed).1 edges
    obtain ⟨-, nonempty, -⟩ := sanitizeSingleLine_cases passed
    have clean := sanitizeSingleLine_ok passed
    obtain ⟨ch, rest, chars⟩ := List.exists_cons_of_ne_nil nonempty
    refine ⟨⟨ch, ?_, front ch ?_⟩, front, back, clean, ?_⟩
    · simp [chars]
    · simp [chars]
    · exact sanitizeSingleLine_self clean nonempty (trim_eq_self_iff.2 ⟨front, back⟩)

/-- Between two characters that are taken out, a name of one blank passes. -/
theorem blank_name_passes : ¬ ∀ (raw field : String) (maxChars : ℕ) (line : String),
    sanitizeSingleLine raw field maxChars = .ok line → NormalLine field maxChars line := by
  intro normal
  have passed : sanitizeSingleLine "\x1b \x1b" "nickname" maxNicknameChars = .ok " " := by decide
  obtain ⟨ch, mem, visible⟩ := (normal _ _ _ _ passed).visible
  obtain rfl : ch = ' ' := by simpa using mem
  cases visible

end LanChat
