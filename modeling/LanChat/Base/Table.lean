import Mathlib.Data.List.Sort

/-!
# Tables as lists of rows

A table is the list of its rows in the order they were inserted. `updateWhere`
and `deleteWhere` are `UPDATE … WHERE` and `DELETE … WHERE`, and `orderBy` and
`orderByDesc` are `ORDER BY` on one key, stable on rows with equal keys. `latest` is
the query of a log: the rows of largest key, oldest first.
-/

namespace Table

variable {Row : Type*}

def updateWhere (selects : Row → Bool) (change : Row → Row) (rows : List Row) : List Row :=
  rows.map fun row => if selects row then change row else row

def deleteWhere (selects : Row → Bool) (rows : List Row) : List Row :=
  rows.filter fun row => !selects row

section
variable {Key : Type*} [LinearOrder Key]

def orderBy (key : Row → Key) (rows : List Row) : List Row :=
  rows.insertionSort fun a b => key a ≤ key b

def orderByDesc (key : Row → Key) (rows : List Row) : List Row :=
  rows.insertionSort fun a b => key b ≤ key a

/-- `ORDER BY key DESC LIMIT n`, reversed. -/
def latest (key : Row → Key) (n : ℕ) (rows : List Row) : List Row :=
  ((orderByDesc key rows).take n).reverse

@[simp] theorem mem_orderBy {key : Row → Key} {rows : List Row} {row : Row} :
    row ∈ orderBy key rows ↔ row ∈ rows :=
  (List.perm_insertionSort _ rows).mem_iff

@[simp] theorem length_orderBy {key : Row → Key} {rows : List Row} :
    (orderBy key rows).length = rows.length :=
  (List.perm_insertionSort _ rows).length_eq

/-- Rows in ascending order of the key come out reversed. -/
theorem orderByDesc_of_ascending {key : Row → Key} {rows : List Row}
    (ascending : rows.Pairwise fun a b => key a < key b) :
    orderByDesc key rows = rows.reverse := by
  have perm : (orderByDesc key rows).Perm rows := List.perm_insertionSort _ rows
  have sorted : (orderByDesc key rows).Pairwise fun a b => key b ≤ key a :=
    List.pairwise_insertionSort _ rows
  -- no two rows share a key, so the sorted table descends strictly as well
  have distinct : (orderByDesc key rows).Pairwise fun a b => key a ≠ key b :=
    perm.symm.pairwise (ascending.imp ne_of_lt) fun h => h.symm
  have descending : (orderByDesc key rows).Pairwise fun a b => key b < key a :=
    (sorted.and distinct).imp fun h => lt_of_le_of_ne h.1 h.2.symm
  refine (perm.trans rows.reverse_perm.symm).eq_of_pairwise (fun a b _ _ hab hba => ?_)
    descending (List.pairwise_reverse.2 ascending)
  exact absurd hab hba.asymm

/-- **The log query.** On rows in ascending order it is the end of the list. -/
theorem latest_of_ascending {key : Row → Key} {rows : List Row} (n : ℕ)
    (ascending : rows.Pairwise fun a b => key a < key b) :
    latest key n rows = rows.drop (rows.length - n) := by
  rw [latest, orderByDesc_of_ascending ascending, List.take_reverse, List.reverse_reverse]

end

/-! ## What an update leaves alone -/

section
variable {selects : Row → Bool} {change : Row → Row} {rows : List Row}

theorem mem_updateWhere {row : Row} :
    row ∈ updateWhere selects change rows ↔
      (row ∈ rows ∧ selects row = false) ∨ ∃ old ∈ rows, selects old = true ∧ row = change old := by
  simp only [updateWhere, List.mem_map]
  constructor
  · rintro ⟨old, mem, rfl⟩
    cases picked : selects old with
    | false => exact .inl (by simpa [picked] using mem)
    | true => exact .inr ⟨old, mem, picked, by simp⟩
  · rintro (⟨mem, skipped⟩ | ⟨old, mem, picked, rfl⟩)
    · exact ⟨row, mem, by simp [skipped]⟩
    · exact ⟨old, mem, by simp [picked]⟩

/-- A column no update of the table changes keeps its values, in order. -/
theorem map_updateWhere {α : Type*} {column : Row → α}
    (keeps : ∀ row ∈ rows, selects row = true → column (change row) = column row) :
    (updateWhere selects change rows).map column = rows.map column := by
  simp only [updateWhere, List.map_map]
  refine List.map_congr_left fun row mem => ?_
  cases picked : selects row with
  | false => simp [picked]
  | true => simp [picked, keeps row mem picked]

theorem mem_deleteWhere {row : Row} :
    row ∈ deleteWhere selects rows ↔ row ∈ rows ∧ selects row = false := by
  simp [deleteWhere]

/-- A selection within one value of a unique key is one row. -/
theorem countP_eq_one {α : Type*} {key : Row → α} (unique : (rows.map key).Nodup) {row : Row}
    (mem : row ∈ rows) (selected : selects row = true)
    (within : ∀ other, selects other = true → key other = key row) : rows.countP selects = 1 := by
  have all : ∀ other ∈ rows.filter selects, other = row := fun other inRows =>
    List.inj_on_of_nodup_map unique (List.mem_filter.1 inRows).1 mem
      (within other (List.mem_filter.1 inRows).2)
  have nodup : (rows.filter selects).Nodup := (List.Nodup.of_map _ unique).filter _
  have inside : row ∈ rows.filter selects := List.mem_filter.2 ⟨mem, selected⟩
  rw [List.countP_eq_length_filter, List.length_eq_one_iff]
  refine ⟨row, List.perm_singleton.1 ?_⟩
  rw [List.perm_ext_iff_of_nodup nodup (List.nodup_singleton row)]
  simp only [List.mem_singleton]
  exact fun other => ⟨all other, fun h => h ▸ inside⟩

end

/-! ## Reading page by page -/

section
variable {α ε : Type*}

/-- The pages from `offset` on, for as long as a page says that there are more. -/
def readPages (fetch : ℕ → Except ε (List α × Bool)) (size : ℕ) : ℕ → ℕ → Option (List α)
  | 0, _ => none
  | fuel + 1, offset => match fetch offset with
    | .ok (page, true) => (readPages fetch size fuel (offset + size)).map (page ++ ·)
    | .ok (page, false) => some page
    | .error _ => none

/-- **Reading page by page reads it all**: where a page is a slice of the rows
and says whether there are rows after it. -/
theorem readPages_eq {fetch : ℕ → Except ε (List α × Bool)} {size : ℕ} {rows : List α}
    (positive : 0 < size) (slices : ∀ offset, fetch offset =
      .ok ((rows.drop offset).take size, decide (size < (rows.drop offset).length)))
    {fuel offset : ℕ} (enough : (rows.drop offset).length < fuel) :
    readPages fetch size fuel offset = some (rows.drop offset) := by
  induction fuel generalizing offset with
  | zero => omega
  | succ fuel ih =>
    rw [readPages, slices]
    by_cases more : size < (rows.drop offset).length
    · have rest : (rows.drop (offset + size)).length < fuel := by
        simp only [List.length_drop] at enough more ⊢
        omega
      simp only [more, decide_true, ih rest, Option.map_some, Option.some.injEq]
      rw [← List.drop_drop, List.take_append_drop]
    · simp only [more, decide_false, Option.some.injEq]
      exact List.take_of_length_le (by omega)

end

/-- Where at most one row is selected, any two selected rows are one. -/
theorem eq_of_countP_le_one {selects : Row → Bool} {rows : List Row} (one : rows.countP selects ≤ 1)
    {a b : Row} (mem : a ∈ rows) (mem' : b ∈ rows) (selected : selects a = true)
    (selected' : selects b = true) : a = b := by
  rw [List.countP_eq_length_filter] at one
  have inside : a ∈ rows.filter selects := List.mem_filter.2 ⟨mem, selected⟩
  have inside' : b ∈ rows.filter selects := List.mem_filter.2 ⟨mem', selected'⟩
  obtain ⟨c, only⟩ := List.length_eq_one_iff.1 (le_antisymm one (List.length_pos_of_mem inside))
  rw [only, List.mem_singleton] at inside inside'
  exact inside.trans inside'.symm

end Table
