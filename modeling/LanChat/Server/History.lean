import Mathlib.Algebra.Order.BigOperators.Group.List
import Mathlib.Algebra.Order.Group.Nat
import LanChat.Serialize
import LanChat.Storage.Log

/-!
# Room history in frames

A page of history is cut twice: by a row limit in the query, and by a byte
budget that drops the oldest rows (`fit_history_to_frame`). A client pages
back by asking for what is below the smallest sequence it has received.
-/

namespace LanChat

def historyCapacity : ℕ := 200
def historyFrameBudget : ℕ := 12 * 1024

/-- The loop of `fit_history_to_frame`, over the messages newest first. -/
def fitLoop (used : ℕ) (selected : List ChatRecord) : List ChatRecord → List ChatRecord
  | [] => selected
  | message :: older =>
    let size := Json.size message.toJson
    if !selected.isEmpty && historyFrameBudget < used + size then selected
    else fitLoop (used + size) (message :: selected) older

def fitHistoryToFrame (history : List ChatRecord) : List ChatRecord :=
  fitLoop 512 [] history.reverse

/-- `has_more`: the first message of the page is not the first of the room. -/
def hasMore (messages : List ChatRecord) : Bool :=
  messages.head?.any fun message => decide (1 < message.sequence)

/-- The page of `handle_load_history`, for a request of a joined session. -/
def historyPage (prims : Primitives) (store : GatewayStore) (groupId : Uuid) (roomId : String)
    (beforeSequence limit : ℕ) : Except StoreError (List ChatRecord) :=
  (store.historyBefore prims groupId roomId beforeSequence (clamp 1 100 limit)).map fitHistoryToFrame

/-- The requests `handle_load_history` does not refuse as malformed. -/
def isHistoryRequest (roomId : String) (beforeSequence : ℕ) : Bool :=
  isSafeIdentifier roomId && decide (1 < beforeSequence)

/-- Only the oldest messages are dropped, and never all of them. -/
theorem fitLoop_suffix (used : ℕ) (selected older : List ChatRecord) :
    ∃ kept, fitLoop used selected older = kept ++ selected ∧ kept <:+ older.reverse ∧
      (selected = [] → older ≠ [] → kept ≠ []) := by
  induction older generalizing used selected with
  | nil => exact ⟨[], rfl, List.suffix_rfl, fun _ h => h⟩
  | cons message older ih =>
    simp only [fitLoop]
    split
    · rename_i full
      refine ⟨[], rfl, List.nil_suffix, fun empty => ?_⟩
      simp [empty] at full
    · obtain ⟨kept, fitted, suffix, -⟩ := ih (used + Json.size message.toJson) (message :: selected)
      refine ⟨kept ++ [message], by simp [fitted], ?_, fun _ _ => by simp⟩
      rw [List.reverse_cons]
      obtain ⟨front, split⟩ := suffix
      exact ⟨front, by rw [← List.append_assoc, split]⟩

theorem fitHistoryToFrame_suffix (history : List ChatRecord) :
    fitHistoryToFrame history <:+ history := by
  obtain ⟨kept, fitted, suffix, -⟩ := fitLoop_suffix 512 [] history.reverse
  rw [fitHistoryToFrame, fitted, List.append_nil]
  rwa [List.reverse_reverse] at suffix

theorem fitHistoryToFrame_ne_nil {history : List ChatRecord} (nonempty : history ≠ []) :
    fitHistoryToFrame history ≠ [] := by
  obtain ⟨kept, fitted, -, kept_ne⟩ := fitLoop_suffix 512 [] history.reverse
  rw [fitHistoryToFrame, fitted, List.append_nil]
  exact kept_ne rfl (by simpa using nonempty)

/-- After the newest message, the loop stays within its budget. -/
theorem fitLoop_size {used : ℕ} {selected : List ChatRecord} (begun : selected ≠ [])
    (older : List ChatRecord) : ∃ kept, fitLoop used selected older = kept ++ selected ∧
      (kept = [] ∨ used + (kept.map fun m => Json.size m.toJson).sum ≤ historyFrameBudget) := by
  induction older generalizing used selected with
  | nil => exact ⟨[], rfl, .inl rfl⟩
  | cons message older ih =>
    simp only [fitLoop]
    split
    · exact ⟨[], rfl, .inl rfl⟩
    · next room =>
      have fits : used + Json.size message.toJson ≤ historyFrameBudget := by
        have some : selected.isEmpty = false := by simpa using begun
        simpa [some] using room
      obtain ⟨kept, looped, within⟩ :=
        @ih (used + Json.size message.toJson) (message :: selected) (by simp)
      refine ⟨kept ++ [message], by simp [looped], .inr ?_⟩
      rw [List.map_append, List.sum_append, List.map_singleton, List.sum_singleton]
      rcases within with rfl | within
      · simpa using fits
      · omega

/-- The kept messages take up no more than the budget, unless a single one is kept. -/
theorem fitHistoryToFrame_within (history : List ChatRecord) :
    (fitHistoryToFrame history).length ≤ 1 ∨
      512 + ((fitHistoryToFrame history).map fun m => Json.size m.toJson).sum ≤ historyFrameBudget := by
  rw [fitHistoryToFrame]
  cases history.reverse with
  | nil => exact .inl (Nat.zero_le _)
  | cons newest older =>
    simp only [fitLoop, List.isEmpty_nil, Bool.not_true, Bool.false_and, Bool.false_eq_true, if_false]
    obtain ⟨kept, looped, within⟩ :=
      @fitLoop_size (512 + Json.size newest.toJson) [newest] (by simp) older
    rw [looped]
    rcases within with rfl | within
    · exact .inl le_rfl
    · right
      rw [List.map_append, List.sum_append, List.map_singleton, List.sum_singleton]
      omega

/-- Records with consecutive sequences. -/
def NumberedFrom (start : ℕ) (records : List ChatRecord) : Prop :=
  records.map ChatRecord.sequence = List.range' start records.length

theorem numberedFrom_cons {start : ℕ} {record : ChatRecord} {records : List ChatRecord} :
    NumberedFrom start (record :: records) ↔
      record.sequence = start ∧ NumberedFrom (start + 1) records := by
  simp [NumberedFrom, List.range'_succ]

theorem NumberedFrom.drop {start : ℕ} {records : List ChatRecord}
    (numbered : NumberedFrom start records) (k : ℕ) :
    NumberedFrom (start + k) (records.drop k) := by
  rw [NumberedFrom, List.map_drop, numbered, List.drop_range', List.length_drop, Nat.mul_one]

theorem NumberedFrom.take {start : ℕ} {records : List ChatRecord}
    (numbered : NumberedFrom start records) (n : ℕ) : NumberedFrom start (records.take n) := by
  rw [NumberedFrom, List.map_take, numbered, List.length_take]
  rcases Nat.le_total records.length n with short | long
  · rw [List.take_range'_of_length_le short, Nat.min_eq_right short]
  · rw [List.take_range'_of_length_ge long, Nat.min_eq_left long]

theorem NumberedFrom.hasMore {start : ℕ} {records : List ChatRecord}
    (numbered : NumberedFrom start records) (nonempty : records ≠ []) :
    LanChat.hasMore records = decide (1 < start) := by
  match records with
  | [] => exact absurd rfl nonempty
  | m :: records => simp [LanChat.hasMore, (numberedFrom_cons.1 numbered).1]

/-! ## One page -/

section
variable {prims : Primitives} {store : GatewayStore} {logs : Logs}

end

end LanChat
