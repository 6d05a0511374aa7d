import Mathlib.Data.List.Chain
import Mathlib.Data.List.Nodup

/-!
# Segments of a list

The elements of a list between two positions, and what becomes of a segment
when elements are added at its ends: one more at the end, some taken from the
front, or an earlier segment put before it without what it repeats.
-/

namespace List

variable {α β : Type*} {l : List α} {j k s t : ℕ} {a : α}

/-- The elements after the first `j`, up to the first `t`. -/
def segment (l : List α) (j t : ℕ) : List α := (l.take t).drop j

theorem segment_eq_nil (le : t ≤ j) : l.segment j t = [] := by
  rw [segment, List.drop_eq_nil_iff, List.length_take]
  omega

@[simp] theorem drop_segment (n : ℕ) : (l.segment k t).drop n = l.segment (k + n) t := by
  rw [segment, List.drop_drop, segment]

theorem segment_sublist : (l.segment j t).Sublist l :=
  (List.drop_sublist j _).trans (List.take_sublist t l)

/-- Two segments that meet. -/
theorem segment_append (low : j ≤ k) (high : k ≤ t) :
    l.segment j k ++ l.segment k t = l.segment j t := by
  have prefix_ : l.take k = (l.take t).take k := by rw [List.take_take, Nat.min_eq_left high]
  have tail : l.segment k t = ((l.take t).drop j).drop (k - j) := by
    rw [List.drop_drop, Nat.add_sub_cancel' low, segment]
  rw [tail, segment, prefix_, List.drop_take, List.take_append_drop, segment]

/-- The element after a segment. -/
theorem segment_snoc (found : l[t]? = some a) (le : k ≤ t) : l.segment k t ++ [a] = l.segment k (t + 1) := by
  have single : l.segment t (t + 1) = [a] := by
    rw [segment, List.take_add_one, found, Option.toList_some, List.drop_left']
    have inside : t < l.length := (List.getElem?_eq_some_iff.1 found).1
    rw [List.length_take]
    omega
  rw [← single, segment_append le (Nat.le_succ t)]

theorem getElem?_segment {i : ℕ} : (l.segment k t)[i]? = if k + i < t then l[k + i]? else none := by
  rw [segment, List.getElem?_drop, List.getElem?_take]

theorem head?_segment : (l.segment k t).head? = if k < t then l[k]? else none := by
  rw [List.head?_eq_getElem?, getElem?_segment, Nat.add_zero]

theorem mem_segment : a ∈ l.segment k t ↔ ∃ i, k ≤ i ∧ i < t ∧ l[i]? = some a := by
  rw [List.mem_iff_getElem?]
  constructor
  · rintro ⟨i, found⟩
    rw [getElem?_segment] at found
    split at found
    · next inside => exact ⟨k + i, Nat.le_add_right k i, inside, found⟩
    · cases found
  · rintro ⟨i, low, high, found⟩
    refine ⟨i - k, ?_⟩
    rw [getElem?_segment, Nat.add_sub_cancel' low, if_pos high, found]

/-- A relation that holds between neighbours of a list holds between those of a segment. -/
theorem isChain_segment {R : α → α → Prop} (chain : l.IsChain R) : (l.segment k t).IsChain R :=
  (chain.take t).drop k

/-- **An earlier segment put before a later one**, without the elements whose key the later one has:
the two overlap or meet, and the earlier one does not end after the later one. -/
theorem segment_prepend [DecidableEq β] {f : α → β} (nodup : (l.map f).Nodup) (meets : k ≤ s) (high : s ≤ t) :
    ((l.segment j s).filter fun a => decide (f a ∉ (l.segment k t).map f)) ++ l.segment k t =
      l.segment (min j k) t := by
  have repeated : ∀ i, k ≤ i →
      (l.segment i s).filter (fun a => decide (f a ∉ (l.segment k t).map f)) = [] := by
    intro i later
    refine List.filter_eq_nil_iff.2 fun a mem => ?_
    obtain ⟨n, low, inside, found⟩ := mem_segment.1 mem
    have again : a ∈ l.segment k t := mem_segment.2 ⟨n, Nat.le_trans later low, Nat.lt_of_lt_of_le inside high, found⟩
    simpa using ⟨a, again, rfl⟩
  by_cases early : j ≤ k
  · have fresh : (l.segment j k).filter (fun a => decide (f a ∉ (l.segment k t).map f)) = l.segment j k := by
      have apart : ((l.segment j k ++ l.segment k t).map f).Nodup := by
        rw [segment_append early (Nat.le_trans meets high)]
        exact nodup.sublist (segment_sublist.map f)
      rw [List.map_append, List.nodup_append'] at apart
      refine List.filter_eq_self.2 fun a mem => ?_
      simpa only [decide_eq_true_eq] using apart.2.2 (List.mem_map_of_mem mem)
    rw [← segment_append early meets, List.filter_append, fresh, repeated k (Nat.le_refl k), List.append_nil,
      segment_append early (Nat.le_trans meets high), Nat.min_eq_left early]
  · rw [repeated j (by omega), List.nil_append, Nat.min_eq_right (by omega)]

end List
