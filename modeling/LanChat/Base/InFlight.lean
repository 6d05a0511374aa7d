import Mathlib.Algebra.Order.Group.Multiset
import Mathlib.Tactic.Abel

/-!
# Rows in flight

A cache of a table that workers fill. A worker commits a row to the table first and
brings it into the cache by a later step; in between the row is in flight (`pending`).
The two are balanced when the cached rows and the rows in flight are together the rows
of the table, each as often as there. One rule, `Balanced.step`, covers every step of a
worker: what it caches and what it then holds is what it held and what it commits.
-/

namespace InFlight

variable {α β W : Type*} {pending : W → List α} {workers before rest : List W} {w w' : W}
  {cache cache' table table' : List α}

def Balanced (pending : W → List α) (workers : List W) (cache table : List α) : Prop :=
  (cache : Multiset α) + (workers.flatMap pending : List α) = table

/-- **The step rule.** -/
theorem Balanced.step (balanced : Balanced pending (before ++ w :: rest) cache table) (added committed : List α)
    (moved : (added ++ pending w').Perm (pending w ++ committed))
    (cached : cache'.Perm (cache ++ added)) (stored : table' = table ++ committed) :
    Balanced pending (before ++ w' :: rest) cache' table' := by
  have held : (added : Multiset α) + (pending w' : List α) = (pending w : List α) + (committed : List α) :=
    Multiset.coe_eq_coe.2 moved
  have filled : (cache' : Multiset α) = cache + added := Multiset.coe_eq_coe.2 cached
  simp only [Balanced, List.flatMap_append, List.flatMap_cons, ← Multiset.coe_add] at balanced ⊢
  calc (cache' : Multiset α) + (↑(before.flatMap pending) + (↑(pending w') + ↑(rest.flatMap pending)))
      = cache + ↑(before.flatMap pending) + ↑(rest.flatMap pending) + ((added : Multiset α) + ↑(pending w')) := by
        rw [filled]
        abel
    _ = cache + (↑(before.flatMap pending) + (↑(pending w) + ↑(rest.flatMap pending))) + (committed : Multiset α) := by
        rw [held]
        abel
    _ = table' := by
        rw [balanced, stored, Multiset.coe_add]

/-- A cache that was just loaded, with no row in flight. -/
theorem Balanced.loaded (quiet : ∀ w ∈ workers, pending w = []) (perm : cache.Perm table) :
    Balanced pending workers cache table := by
  have nothing : workers.flatMap pending = [] := List.flatMap_eq_nil_iff.2 quiet
  rw [Balanced, nothing, Multiset.coe_nil, add_zero]
  exact Multiset.coe_eq_coe.2 perm

/-- **With no row in flight the cache is the table.** -/
theorem Balanced.settled (balanced : Balanced pending workers cache table)
    (quiet : ∀ w ∈ workers, pending w = []) : cache.Perm table := by
  have nothing : workers.flatMap pending = [] := List.flatMap_eq_nil_iff.2 quiet
  rw [Balanced, nothing, Multiset.coe_nil, add_zero] at balanced
  exact Multiset.coe_eq_coe.1 balanced

/-- A worker that holds nothing joins. -/
theorem Balanced.join (balanced : Balanced pending workers cache table) (idle : pending w = []) :
    Balanced pending (workers ++ [w]) cache table := by
  rw [Balanced, List.flatMap_append, List.flatMap_singleton, idle, List.append_nil]
  exact balanced

theorem Balanced.perm (balanced : Balanced pending workers cache table) :
    (cache ++ workers.flatMap pending).Perm table := Multiset.coe_eq_coe.1 balanced

/-- Rows the table tells apart are apart in the cache. -/
theorem Balanced.nodup (balanced : Balanced pending workers cache table) {key : α → β}
    (unique : (table.map key).Nodup) : (cache.map key).Nodup := by
  rw [← (balanced.perm.map key).nodup_iff, List.map_append] at unique
  exact unique.of_append_left

/-- The cache holds what the table does of a kind of which nothing is in flight. -/
theorem Balanced.countP (balanced : Balanced pending workers cache table) {kind : α → Bool}
    (quiet : ∀ w ∈ workers, ∀ row ∈ pending w, kind row = false) : cache.countP kind = table.countP kind := by
  have none : (workers.flatMap pending).countP kind = 0 := by
    refine List.countP_eq_zero.2 fun row mem => ?_
    obtain ⟨w, inWorkers, held⟩ := List.mem_flatMap.1 mem
    simp [quiet w inWorkers row held]
  rw [← balanced.perm.countP_eq, List.countP_append, none, Nat.add_zero]

theorem Balanced.countP_le (balanced : Balanced pending workers cache table) (kind : α → Bool) :
    cache.countP kind ≤ table.countP kind := by
  rw [← balanced.perm.countP_eq, List.countP_append]
  exact Nat.le_add_right _ _

/-! ## Caches in sections -/

section
variable {S κ R : Type*} {key : S → κ} {rows : S → List R} {sections : List S} {s : S}

/-- One of the rows that a key tells apart, and the others. -/
theorem split_of_nodup (unique : (sections.map key).Nodup) (mem : s ∈ sections) :
    ∃ before rest, sections = before ++ s :: rest ∧
      (∀ other ∈ before, key other ≠ key s) ∧ ∀ other ∈ rest, key other ≠ key s := by
  obtain ⟨before, rest, rfl⟩ := List.append_of_mem mem
  rw [List.map_append, List.map_cons, List.nodup_middle, List.nodup_cons] at unique
  have apart := unique.1
  simp only [List.mem_append, List.mem_map, not_or, not_exists, not_and] at apart
  exact ⟨before, rest, rfl, apart.1, apart.2⟩

def keyed (key : S → κ) (rows : S → List R) (s : S) : List (κ × R) := (rows s).map (key s, ·)

/-- **The rows under a key** are those of its section. -/
theorem rows_of_section [DecidableEq κ] (unique : (sections.map key).Nodup) (mem : s ∈ sections) :
    ((sections.flatMap (keyed key rows)).filter (·.1 == key s)).map Prod.snd = rows s := by
  obtain ⟨before, rest, rfl, apart, apart'⟩ := split_of_nodup unique mem
  have others : ∀ {list : List S}, (∀ other ∈ list, key other ≠ key s) →
      (list.flatMap (keyed key rows)).filter (·.1 == key s) = [] := by
    intro list apart
    refine List.filter_eq_nil_iff.2 fun entry inOthers => ?_
    obtain ⟨other, inList, held⟩ := List.mem_flatMap.1 inOthers
    obtain ⟨row, -, rfl⟩ := List.mem_map.1 held
    simpa using apart other inList
  have own : (keyed key rows s).filter (·.1 == key s) = keyed key rows s :=
    List.filter_eq_self.2 fun entry held => by
      obtain ⟨row, -, rfl⟩ := List.mem_map.1 held
      simp
  rw [List.flatMap_append, List.flatMap_cons, List.filter_append, List.filter_append, others apart,
    others apart', own, List.nil_append, List.append_nil, keyed, List.map_map]
  exact List.map_id _

/-- **A table is its sections**, each of its keys listed once. -/
theorem sections_perm [DecidableEq κ] {table : List (κ × R)} {keys : List κ} (unique : keys.Nodup)
    (all : ∀ entry ∈ table, entry.1 ∈ keys) : (keys.flatMap fun k => table.filter (·.1 == k)).Perm table := by
  induction table with
  | nil =>
    have nothing : (keys.flatMap fun k => ([] : List (κ × R)).filter (·.1 == k)) = [] :=
      List.flatMap_eq_nil_iff.2 fun _ _ => rfl
    rw [nothing]
  | cons entry table ih =>
    obtain ⟨own, others⟩ := List.forall_mem_cons.1 all
    obtain ⟨before, rest, rfl, apart, apart'⟩ := split_of_nodup (by rwa [List.map_id]) own
    have unmoved : ∀ {keys : List κ}, (∀ k ∈ keys, id k ≠ id entry.1) →
        (keys.flatMap fun k => (entry :: table).filter (·.1 == k)) = keys.flatMap fun k => table.filter (·.1 == k) := by
      intro keys apart
      refine List.flatMap_congr fun k inKeys => ?_
      rw [List.filter_cons_of_neg]
      rw [beq_iff_eq]
      exact fun same => apart k inKeys same.symm
    have rest' := ih others
    rw [List.flatMap_append, List.flatMap_cons] at rest' ⊢
    rw [unmoved apart, unmoved apart', List.filter_cons_of_pos (by simp), List.cons_append]
    exact List.perm_middle.trans (rest'.cons entry)

end

end InFlight
