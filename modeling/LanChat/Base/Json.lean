import Mathlib.Algebra.GroupWithZero.Nat
import Mathlib.Algebra.BigOperators.Group.List.Basic

/-!
# Compact JSON text and its size

A serializer as a set of combinators: each value is given by the characters
written for it, without white space. Strings escape the quote, the backslash
and the control characters and write every other character verbatim. The size
of a text is its number of UTF-8 bytes, and each combinator has one lemma that
says what it adds to the size.
-/

namespace Json

/-- The UTF-8 bytes of a text. -/
def size (text : List Char) : ℕ := (text.map Char.utf8Size).sum

@[simp] theorem size_nil : size [] = 0 := rfl

@[simp] theorem size_cons (ch : Char) (text : List Char) :
    size (ch :: text) = ch.utf8Size + size text := by simp [size]

@[simp] theorem size_append (a b : List Char) : size (a ++ b) = size a + size b := by simp [size]

/-- A text of one-byte characters. -/
theorem size_of_ascii {text : List Char} (ascii : ∀ ch ∈ text, ch.utf8Size = 1) :
    size text = text.length := by
  induction text with
  | nil => rfl
  | cons ch text ih =>
    rw [size_cons, ascii ch (by simp), ih fun c h => ascii c (by simp [h]), List.length_cons]
    omega

/-- The size of a string is that of its characters. -/
theorem utf8ByteSize_ofList (text : List Char) : (String.ofList text).utf8ByteSize = size text := by
  induction text with
  | nil => rfl
  | cons ch text ih =>
    rw [← List.singleton_append, String.ofList_append, String.utf8ByteSize_append, ih, size_append]
    simp [size]

def lowerHex (d : ℕ) : Char := if d < 10 then Char.ofNat (48 + d) else Char.ofNat (87 + d)

/-- What is written for one character of a string. -/
def escapeChar (ch : Char) : List Char :=
  if ch = '"' then ['\\', '"']
  else if ch = '\\' then ['\\', '\\']
  else if ch.toNat = 8 then ['\\', 'b']
  else if ch = '\t' then ['\\', 't']
  else if ch = '\n' then ['\\', 'n']
  else if ch.toNat = 12 then ['\\', 'f']
  else if ch = '\r' then ['\\', 'r']
  else if ch.toNat < 32 then
    ['\\', 'u', '0', '0', lowerHex (ch.toNat / 16), lowerHex (ch.toNat % 16)]
  else [ch]

/-- The content of a string literal. -/
def escape (text : List Char) : List Char := text.flatMap escapeChar

def string (value : String) : List Char := '"' :: (escape value.toList ++ ['"'])

def number (n : ℕ) : List Char := Nat.toDigits 10 n

def bool (b : Bool) : List Char := if b then ['t', 'r', 'u', 'e'] else ['f', 'a', 'l', 's', 'e']

def null : List Char := ['n', 'u', 'l', 'l']

def option {α : Type*} (write : α → List Char) : Option α → List Char
  | none => null
  | some a => write a

/-- The items with commas between them. -/
def commas : List (List Char) → List Char
  | [] => []
  | [item] => item
  | item :: items => item ++ ',' :: commas items

def array (items : List (List Char)) : List Char := '[' :: (commas items ++ [']'])

/-- One `"key":value` of an object. -/
def field (key : String) (value : List Char) : List Char := string key ++ ':' :: value

def object (fields : List (List Char)) : List Char := '{' :: (commas fields ++ ['}'])

/-! ## Sizes -/

/-- The bytes a string adds to its two quotes. -/
def escapedSize (value : String) : ℕ := size (escape value.toList)

@[simp] theorem size_string (value : String) : size (string value) = escapedSize value + 2 := by
  simp [string, escapedSize, show ('"' : Char).utf8Size = 1 from rfl]
  omega

@[simp] theorem size_null : size null = 4 := rfl

/-- Every item, and a comma between any two of them. -/
theorem size_commas (items : List (List Char)) :
    size (commas items) = (items.map size).sum + (items.length - 1) := by
  induction items with
  | nil => rfl
  | cons item items ih =>
    cases items with
    | nil => simp [commas]
    | cons next items =>
      simp only [commas, size_append, size_cons, ih, List.map_cons, List.sum_cons,
        List.length_cons, show (',' : Char).utf8Size = 1 from rfl]
      omega

theorem size_array (items : List (List Char)) :
    size (array items) = (items.map size).sum + (items.length - 1) + 2 := by
  simp only [array, size_cons, size_append, size_commas, size_nil,
    show ('[' : Char).utf8Size = 1 from rfl, show (']' : Char).utf8Size = 1 from rfl]
  omega

theorem size_object (fields : List (List Char)) :
    size (object fields) = (fields.map size).sum + (fields.length - 1) + 2 := by
  simp only [object, size_cons, size_append, size_commas, size_nil,
    show ('{' : Char).utf8Size = 1 from rfl, show ('}' : Char).utf8Size = 1 from rfl]
  omega

@[simp] theorem size_field (key : String) (value : List Char) :
    size (field key value) = escapedSize key + size value + 3 := by
  simp only [field, size_append, size_string, size_cons, show (':' : Char).utf8Size = 1 from rfl]
  omega

theorem size_number (n : ℕ) : size (number n) = (Nat.toDigits 10 n).length := by
  refine size_of_ascii fun ch mem => ?_
  have digit := Nat.isDigit_of_mem_toDigits (by decide) (by decide) mem
  simp only [Char.isDigit, Bool.and_eq_true, decide_eq_true_eq] at digit
  rw [Char.utf8Size_eq_one_iff]
  exact UInt32.le_trans digit.2 (by decide)

/-- A one-byte character that is written as it is. -/
def isPlain (ch : Char) : Bool := ch.utf8Size == 1 && escapeChar ch == [ch]

theorem escapedSize_of_plain {text : List Char} (plain : ∀ ch ∈ text, isPlain ch = true) :
    escapedSize (String.ofList text) = text.length := by
  rw [escapedSize, String.toList_ofList]
  induction text with
  | nil => rfl
  | cons ch text ih =>
    have first := plain ch List.mem_cons_self
    simp only [isPlain, Bool.and_eq_true, beq_iff_eq] at first
    rw [escape, List.flatMap_cons, first.2, size_append, ← escape,
      ih fun c mem => plain c (List.mem_cons_of_mem _ mem), List.length_cons]
    simp only [size_cons, first.1, size_nil]
    omega

end Json
