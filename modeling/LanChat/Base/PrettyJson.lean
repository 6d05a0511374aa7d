import LanChat.Base.Json

/-!
# Indented JSON text

The same values with one item a line, two spaces for each level. An object or
array knows its own level; one without items stays on its line.
-/

namespace Json

def newline (level : ℕ) : List Char := '\n' :: List.replicate (2 * level) ' '

/-- The items of an object or array at `level`, each on a line of its own. -/
def lines (level : ℕ) : List (List Char) → List Char
  | [] => []
  | item :: items => newline (level + 1) ++ item ++
      items.flatMap (fun item => ',' :: (newline (level + 1) ++ item)) ++ newline level

def prettyField (key : String) (value : List Char) : List Char := string key ++ ':' :: ' ' :: value

def prettyObject (level : ℕ) (fields : List (List Char)) : List Char := '{' :: (lines level fields ++ ['}'])

def prettyArray (level : ℕ) (items : List (List Char)) : List Char := '[' :: (lines level items ++ [']'])

/-! ## Sizes -/

/-- Indentation only adds to the items. -/
theorem size_lines (level : ℕ) (items : List (List Char)) : (items.map size).sum ≤ size (lines level items) := by
  cases items with
  | nil => simp [lines]
  | cons item items =>
    have rest : (items.map size).sum ≤
        size (items.flatMap fun item => ',' :: (newline (level + 1) ++ item)) := by
      induction items with
      | nil => simp
      | cons next items ih =>
        simp only [List.map_cons, List.sum_cons, List.flatMap_cons, size_append, size_cons]
        omega
    simp only [lines, List.map_cons, List.sum_cons, size_append]
    omega

theorem size_prettyObject (level : ℕ) (fields : List (List Char)) :
    (fields.map size).sum ≤ size (prettyObject level fields) := by
  have inner := size_lines level fields
  simp only [prettyObject, size_cons, size_append]
  omega

theorem size_prettyArray (level : ℕ) (items : List (List Char)) :
    (items.map size).sum ≤ size (prettyArray level items) := by
  have inner := size_lines level items
  simp only [prettyArray, size_cons, size_append]
  omega

theorem size_prettyField (key : String) (value : List Char) : size value ≤ size (prettyField key value) := by
  simp only [prettyField, size_append, size_cons]
  omega

end Json
