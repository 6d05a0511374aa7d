import LanChat.Serialize

/-!
# The sizes of messages

What the JSON of a record adds to a frame: a fixed number of bytes, and its
names, numbers and lists.
-/

namespace LanChat

open Json

theorem isPlain_hexDigit : ∀ d < 16, isPlain (hexDigit d) = true := by decide

/-- An id is 36 characters in quotes. -/
@[simp] theorem size_uuid (id : Uuid) : size id.toJson = 38 := by
  have plain : ∀ ch ∈ hexDigits 32 id.bits.toNat, isPlain ch = true := by
    intro ch mem
    obtain ⟨i, -, rfl⟩ := List.mem_map.1 mem
    exact isPlain_hexDigit _ (Nat.mod_lt _ (by decide))
  have part : ∀ i n, ∀ ch ∈ ((hexDigits 32 id.bits.toNat).drop i).take n, isPlain ch = true :=
    fun i n ch mem => plain ch (List.mem_of_mem_drop (List.mem_of_mem_take mem))
  rw [Uuid.toJson, size_string, Uuid.hyphenated, escapedSize_of_plain]
  · simp
  · intro ch mem
    simp only [List.mem_append, List.mem_cons] at mem
    rcases mem with mem | rfl | mem | rfl | mem | rfl | mem | rfl | mem
    · exact part 0 8 ch mem
    all_goals first | decide | exact part _ _ ch mem | exact plain ch (List.mem_of_mem_drop mem)

/-- The lists of a record: its items and the commas between them. -/
theorem size_array_map {α : Type} (write : α → List Char) (items : List α) :
    size (array (items.map write)) = (items.map fun item => size (write item)).sum + (items.length - 1) +
      2 := by
  rw [size_array, List.map_map, List.length_map]
  rfl

theorem size_joinRequest (request : JoinRequestSummary) : size request.toJson =
    escapedSize request.nickname + (Nat.toDigits 10 request.requestedAtMs).length + 86 := by
  have keys : escapedSize "request_id" = 10 ∧ escapedSize "nickname" = 8 ∧
      escapedSize "requested_at_ms" = 15 := by decide
  simp only [JoinRequestSummary.toJson, size_object, List.map_cons, List.map_nil, List.sum_cons,
    List.sum_nil, List.length_cons, List.length_nil, size_field, size_uuid, size_string, size_number,
    keys]
  omega

theorem size_joinRequests (requests : List JoinRequestSummary) :
    size (ServerMessage.joinRequests requests).toJson =
      (requests.map fun request => size request.toJson).sum + (requests.length - 1) + 38 := by
  have keys : escapedSize "type" = 4 ∧ escapedSize "join_requests" = 13 ∧
      escapedSize "requests" = 8 := by decide
  simp only [ServerMessage.toJson, tagged, size_object, List.map_cons, List.map_nil, List.sum_cons,
    List.sum_nil, List.length_cons, List.length_nil, size_field, size_string, size_array_map, keys]
  omega

end LanChat
