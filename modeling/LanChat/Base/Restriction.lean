import LanChat.Base.Table

/-!
# Tables restricted to some of their rows

A query that selects within the kept rows of a table finds the same in the kept rows alone, an
update that moves no row in or out of them is the same update of the kept rows, and one that
selects none of them leaves them as they are. The kept rows may be those of one owner
(`ofOwner`), or all but those of something to be hidden.
-/

namespace Table

variable {Row : Type*} {kept selects : Row → Bool} {rows : List Row}

/-- The kept rows, in order. -/
def keep (kept : Row → Bool) (rows : List Row) : List Row := rows.filter kept

theorem mem_keep {row : Row} : row ∈ keep kept rows ↔ row ∈ rows ∧ kept row = true := List.mem_filter

/-! ## Queries -/

section
variable (within : ∀ row ∈ rows, selects row = true → kept row = true)
include within

theorem filter_keep : (keep kept rows).filter selects = rows.filter selects := by
  rw [keep, List.filter_filter]
  refine List.filter_congr fun row mem => ?_
  cases picked : selects row with
  | false => rfl
  | true => rw [within row mem picked, Bool.and_true]

theorem find?_keep : (keep kept rows).find? selects = rows.find? selects := by
  rw [← List.head?_filter, ← List.head?_filter, filter_keep within]

theorem any_keep : (keep kept rows).any selects = rows.any selects := by
  rw [← List.isSome_find?, ← List.isSome_find?, find?_keep within]

theorem countP_keep : (keep kept rows).countP selects = rows.countP selects := by
  rw [List.countP_eq_length_filter, List.countP_eq_length_filter, filter_keep within]

end

/-! ## Sorted rows -/

section
variable {Key : Type*} [LinearOrder Key] {key : Row → Key}

theorem keep_cons {row : Row} :
    keep kept (row :: rows) = if kept row then row :: keep kept rows else keep kept rows := List.filter_cons

theorem keep_orderedInsert {row : Row} (sorted : rows.Pairwise fun a b => key a ≤ key b) :
    keep kept (rows.orderedInsert (fun a b => key a ≤ key b) row) =
      if kept row then (keep kept rows).orderedInsert (fun a b => key a ≤ key b) row else keep kept rows := by
  induction rows with
  | nil => rw [List.orderedInsert_nil, keep_cons]; rfl
  | cons first rest ih =>
    obtain ⟨least, sorted⟩ := List.pairwise_cons.1 sorted
    by_cases before : key row ≤ key first
    · -- the row goes in front of all the others, so also of the kept ones
      have front : ∀ other ∈ keep kept (first :: rest), key row ≤ key other := by
        intro other mem
        rcases List.mem_cons.1 (mem_keep.1 mem).1 with rfl | inRest
        · exact before
        · exact before.trans (least other inRest)
      have inserted : (keep kept (first :: rest)).orderedInsert (fun a b => key a ≤ key b) row =
          row :: keep kept (first :: rest) := by
        generalize keep kept (first :: rest) = others at front
        cases others with
        | nil => rfl
        | cons other others => rw [List.orderedInsert_cons, if_pos (front other List.mem_cons_self)]
      rw [List.orderedInsert_cons, if_pos before, inserted, keep_cons]
    · rw [List.orderedInsert_cons, if_neg before, keep_cons, ih sorted, keep_cons]
      split
      · rw [List.orderedInsert_cons, if_neg before]
        split <;> rfl
      · rfl

/-- Sorting is stable: the kept rows come in the order they have when they are sorted alone. -/
theorem keep_orderBy : keep kept (orderBy key rows) = orderBy key (keep kept rows) := by
  induction rows with
  | nil => rfl
  | cons row rest ih =>
    have sorted : (orderBy key rest).Pairwise fun a b => key a ≤ key b := List.pairwise_insertionSort _ rest
    rw [orderBy, List.insertionSort_cons, ← orderBy, keep_orderedInsert sorted, ih, keep_cons]
    split <;> rfl

end

/-! ## Changes -/

theorem keep_append_kept {row : Row} (own : kept row = true) : keep kept (rows ++ [row]) = keep kept rows ++ [row] := by
  simp [keep, own]

theorem keep_append_other {row : Row} (other : kept row = false) : keep kept (rows ++ [row]) = keep kept rows := by
  simp [keep, other]

theorem keep_updateWhere {change : Row → Row} (stays : ∀ row, kept (change row) = kept row) :
    keep kept (updateWhere selects change rows) = updateWhere selects change (keep kept rows) := by
  rw [keep, updateWhere, List.filter_map, updateWhere, keep]
  congr 1
  refine List.filter_congr fun row _ => ?_
  simp only [Function.comp_apply]
  split
  · exact stays row
  · rfl

theorem keep_updateWhere_other {change : Row → Row} (apart : ∀ row, selects row = true → kept row = false)
    (stays : ∀ row, kept (change row) = kept row) : keep kept (updateWhere selects change rows) = keep kept rows := by
  rw [keep_updateWhere stays, updateWhere]
  refine (List.map_congr_left (g := id) fun row mem => ?_).trans (List.map_id _)
  cases picked : selects row with
  | false => rfl
  | true =>
    have hidden := apart row picked
    rw [(mem_keep.1 mem).2] at hidden
    cases hidden

theorem keep_deleteWhere : keep kept (deleteWhere selects rows) = deleteWhere selects (keep kept rows) :=
  List.filter_comm _ _ _

theorem keep_deleteWhere_other (apart : ∀ row, selects row = true → kept row = false) :
    keep kept (deleteWhere selects rows) = keep kept rows := by
  rw [keep_deleteWhere, deleteWhere, List.filter_eq_self]
  intro row mem
  cases picked : selects row with
  | false => rfl
  | true =>
    have hidden := apart row picked
    rw [(mem_keep.1 mem).2] at hidden
    cases hidden

/-! ## The rows of an owner -/

section
variable {κ : Type*} [DecidableEq κ] {owner : Row → κ} {k : κ}

/-- The rows of an owner, in order. -/
def ofOwner (owner : Row → κ) (k : κ) (rows : List Row) : List Row := keep (fun row => owner row = k) rows

theorem mem_ofOwner {row : Row} : row ∈ ofOwner owner k rows ↔ row ∈ rows ∧ owner row = k := by
  rw [ofOwner, mem_keep, decide_eq_true_eq]

section
variable (within : ∀ row ∈ rows, selects row = true → owner row = k)
include within

theorem filter_ofOwner : (ofOwner owner k rows).filter selects = rows.filter selects :=
  filter_keep fun row mem picked => decide_eq_true (within row mem picked)

theorem find?_ofOwner : (ofOwner owner k rows).find? selects = rows.find? selects :=
  find?_keep fun row mem picked => decide_eq_true (within row mem picked)

theorem any_ofOwner : (ofOwner owner k rows).any selects = rows.any selects :=
  any_keep fun row mem picked => decide_eq_true (within row mem picked)

theorem countP_ofOwner : (ofOwner owner k rows).countP selects = rows.countP selects :=
  countP_keep fun row mem picked => decide_eq_true (within row mem picked)

end

theorem ofOwner_append_own {row : Row} (own : owner row = k) :
    ofOwner owner k (rows ++ [row]) = ofOwner owner k rows ++ [row] := keep_append_kept (decide_eq_true own)

theorem ofOwner_append_other {row : Row} (other : owner row ≠ k) :
    ofOwner owner k (rows ++ [row]) = ofOwner owner k rows := keep_append_other (decide_eq_false other)

theorem ofOwner_updateWhere {change : Row → Row} (stays : ∀ row, owner (change row) = owner row) :
    ofOwner owner k (updateWhere selects change rows) = updateWhere selects change (ofOwner owner k rows) :=
  keep_updateWhere fun row => by rw [stays]

theorem ofOwner_updateWhere_other {change : Row → Row} (apart : ∀ row, selects row = true → owner row ≠ k)
    (stays : ∀ row, owner (change row) = owner row) :
    ofOwner owner k (updateWhere selects change rows) = ofOwner owner k rows :=
  keep_updateWhere_other (fun row picked => decide_eq_false (apart row picked)) fun row => by rw [stays]

theorem ofOwner_deleteWhere :
    ofOwner owner k (deleteWhere selects rows) = deleteWhere selects (ofOwner owner k rows) := keep_deleteWhere

theorem ofOwner_deleteWhere_other (apart : ∀ row, selects row = true → owner row ≠ k) :
    ofOwner owner k (deleteWhere selects rows) = ofOwner owner k rows :=
  keep_deleteWhere_other fun row picked => decide_eq_false (apart row picked)

end

end Table
