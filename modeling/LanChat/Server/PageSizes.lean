import LanChat.Clean
import LanChat.Server.History
import LanChat.Sizes

/-!
# How large messages and pages can be

Bounds on the JSON of a live message, of the two kinds of history and of the
two kinds of member lists. A character takes at most six bytes and one of a
chat text at most twice its own, so the limits on names, identifiers and texts
bound each record, and the budget of `fit_history_to_frame` bounds a page.
-/

namespace LanChat

open Json

/-! ## Strings and numbers -/

theorem size_lowerHex : ∀ d < 16, (lowerHex d).utf8Size = 1 := by decide

theorem size_escapeChar_le (ch : Char) : size (escapeChar ch) ≤ 6 := by
  unfold escapeChar
  repeat' split
  all_goals try decide
  · next control =>
    have first := size_lowerHex (ch.toNat / 16) (by omega)
    have second := size_lowerHex (ch.toNat % 16) (by omega)
    simp only [size_cons, size_nil, first, second]
    decide
  · have width := Char.utf8Size_le_four ch
    simp only [size_cons, size_nil]
    omega

/-- A control character that the terminal may see breaks a line or is a tab. -/
theorem control_printable {ch : Char} (shown : isForbiddenTerminalChar ch = false)
    (control : ch.toNat < 32) : ch = '\n' ∨ ch = '\r' ∨ ch = '\t' := by
  by_contra other
  simp only [not_or] at other
  simp [isForbiddenTerminalChar, isControl, control, other] at shown

theorem size_escapeChar_printable {ch : Char} (shown : isForbiddenTerminalChar ch = false) :
    size (escapeChar ch) ≤ 2 * ch.utf8Size := by
  have positive := Char.utf8Size_pos ch
  have pair : ∀ c ∈ ['"', '\\', 'b', 't', 'n', 'f', 'r'], size ['\\', c] ≤ 2 * ch.utf8Size := by
    have two : ['"', '\\', 'b', 't', 'n', 'f', 'r'].all (fun c => size ['\\', c] == 2) = true := by decide
    intro c mem
    rw [beq_iff_eq.1 (List.all_eq_true.1 two c mem)]
    omega
  unfold escapeChar
  repeat' split
  all_goals try exact pair _ (by decide)
  · -- the other control characters are forbidden
    next tab newline _ carriage control =>
    rcases control_printable shown control with same | same | same
    · exact absurd same newline
    · exact absurd same carriage
    · exact absurd same tab
  · simp only [size_cons, size_nil]
    omega

theorem escapedSize_le (value : String) : escapedSize value ≤ 6 * value.length := by
  have chars : ∀ text : List Char, size (escape text) ≤ 6 * text.length := by
    intro text
    induction text with
    | nil => exact Nat.zero_le _
    | cons ch text ih =>
      have first := size_escapeChar_le ch
      rw [escape, List.flatMap_cons, size_append, ← escape, List.length_cons]
      omega
  exact chars value.toList

theorem escapedSize_printable {value : String} (shown : Printable value) :
    escapedSize value ≤ 2 * value.utf8ByteSize := by
  have chars : ∀ text : List Char, (∀ ch ∈ text, isForbiddenTerminalChar ch = false) →
      size (escape text) ≤ 2 * size text := by
    intro text
    induction text with
    | nil => exact fun _ => Nat.zero_le _
    | cons ch text ih =>
      intro shown
      rw [List.forall_mem_cons] at shown
      have first := size_escapeChar_printable shown.1
      have rest := ih shown.2
      rw [escape, List.flatMap_cons, size_append, ← escape, size_cons]
      omega
  have bytes := utf8ByteSize_ofList value.toList
  rw [String.ofList_toList] at bytes
  rw [bytes]
  exact chars value.toList shown

theorem length_le_utf8ByteSize (value : String) : value.length ≤ value.utf8ByteSize := by
  have chars : ∀ text : List Char, text.length ≤ size text := by
    intro text
    induction text with
    | nil => exact Nat.zero_le _
    | cons ch text ih =>
      have positive := Char.utf8Size_pos ch
      rw [List.length_cons, size_cons]
      omega
  have bytes := utf8ByteSize_ofList value.toList
  rw [String.ofList_toList] at bytes
  rw [bytes]
  exact chars value.toList

theorem length_number_le {n digits : ℕ} (some : 0 < digits) (small : n < 10 ^ digits) :
    (number n).length ≤ digits := (Nat.length_toDigits_le_iff (by decide) some).2 small

theorem size_number_le {n digits : ℕ} (some : 0 < digits) (small : n < 10 ^ digits) :
    size (number n) ≤ digits := by
  rw [size_number]
  exact length_number_le some small

/-! ## Records within their limits -/

/-- An address as the source's type has it. -/
def IpAddr.Typed : IpAddr → Prop
  | v4 _ _ _ _ => True
  | v6 segments => segments.length = 8

structure DirectPeerInfo.Bounded (direct : DirectPeerInfo) : Prop where
  ip : direct.endpoint.ip.Typed
  port : direct.endpoint.port < 2 ^ 16
  fingerprint : isValidFingerprint direct.fingerprint = true

structure Peer.Bounded (peer : Peer) : Prop where
  nickname : CleanLine maxNicknameChars peer.nickname
  direct : ∀ direct ∈ peer.direct, direct.Bounded

structure RoomSummary.Bounded (room : RoomSummary) : Prop where
  roomId : room.roomId.utf8ByteSize ≤ 64
  roomName : CleanLine maxNicknameChars room.roomName

structure ChatRecord.Bounded (record : ChatRecord) : Prop where
  sequence : record.sequence ≤ i64Max
  sender : record.sender.Bounded
  roomId : record.roomId.utf8ByteSize ≤ 64
  sentAtMs : record.sentAtMs ≤ u64Max
  text : CleanText record.text

/-! ## Their sizes -/

theorem length_showSegments (segments : List UInt16) :
    (showSegments segments).length ≤ 5 * segments.length := by
  have digits : ∀ segment : UInt16, (Nat.toDigits 16 segment.toNat).length ≤ 4 := fun segment =>
    (Nat.length_toDigits_le_iff (by decide) (by decide)).2 segment.toNat_lt
  induction segments with
  | nil => exact Nat.zero_le _
  | cons segment segments ih =>
    have first := digits segment
    cases segments with
    | nil =>
      simp only [showSegments, List.length_cons, List.length_nil]
      omega
    | cons next segments =>
      simp only [showSegments, List.length_append, List.length_cons] at ih ⊢
      omega

theorem length_showIpv4 (a b c d : UInt8) : (showIpv4 a b c d).length ≤ 15 := by
  have digits : ∀ byte : UInt8, (number byte.toNat).length ≤ 3 := fun byte =>
    length_number_le (by decide) (Nat.lt_of_lt_of_le byte.toNat_lt (by decide))
  have := digits a
  have := digits b
  have := digits c
  have := digits d
  simp only [showIpv4, List.length_append, List.length_cons]
  omega

theorem length_showIpv6 {segments : List UInt16} (eight : segments.length = 8) :
    (showIpv6 segments).length ≤ 82 := by
  unfold showIpv6
  split
  · next high low =>
    have mapped := length_showIpv4 (UInt8.ofNat (high.toNat / 256)) (UInt8.ofNat high.toNat)
      (UInt8.ofNat (low.toNat / 256)) (UInt8.ofNat low.toNat)
    simp only [List.length_append, List.length_cons, List.length_nil]
    omega
  · generalize zeroRun 0 0 0 (0, 0) segments = run
    obtain ⟨start, length⟩ := run
    simp only
    split
    · have before := length_showSegments (segments.take start)
      have after := length_showSegments (segments.drop (start + length))
      simp only [List.length_take, List.length_drop, List.length_append, List.length_cons,
        List.length_nil] at before after ⊢
      omega
    · have whole := length_showSegments segments
      omega

theorem length_display {addr : SocketAddr} (ip : addr.ip.Typed) (port : addr.port < 2 ^ 16) :
    addr.display.length ≤ 90 := by
  have digits : (number addr.port).length ≤ 5 :=
    length_number_le (by decide) (Nat.lt_of_lt_of_le port (by decide))
  unfold SocketAddr.display
  rw [String.length_ofList]
  cases shape : addr.ip with
  | v4 a b c d =>
    have four := length_showIpv4 a b c d
    simp only [List.length_append, List.length_cons]
    omega
  | v6 segments =>
    rw [shape] at ip
    have six := length_showIpv6 ip
    simp only [List.length_append, List.length_cons]
    omega

theorem DirectPeerInfo.Bounded.size_le {direct : DirectPeerInfo} (bounded : direct.Bounded) :
    size direct.toJson ≤ 800 := by
  have endpoint := escapedSize_le direct.endpoint.display
  have display := length_display bounded.ip bounded.port
  have fingerprint := escapedSize_le direct.fingerprint
  have bytes := length_le_utf8ByteSize direct.fingerprint
  have format : direct.fingerprint.utf8ByteSize = 29 := by
    have valid := bounded.fingerprint
    simp only [isValidFingerprint, Bool.and_eq_true, beq_iff_eq] at valid
    exact valid.1
  have keys : escapedSize "endpoint" = 8 ∧ escapedSize "fingerprint" = 11 := by decide
  simp only [DirectPeerInfo.toJson, size_object, List.map_cons, List.map_nil, List.sum_cons,
    List.sum_nil, List.length_cons, List.length_nil, size_field, size_string, keys]
  omega

theorem escapedSize_name {name : String} (clean : CleanLine maxNicknameChars name) :
    escapedSize name ≤ 192 := by
  have chars := escapedSize_le name
  have short : name.length ≤ 32 := clean.short
  omega

theorem Peer.Bounded.size_le {peer : Peer} (bounded : peer.Bounded) : size peer.toJson ≤ 1150 := by
  have nickname := escapedSize_name bounded.nickname
  have direct : size (option DirectPeerInfo.toJson peer.direct) ≤ 800 := by
    cases given : peer.direct with
    | none => decide
    | some direct => exact (bounded.direct direct given).size_le
  have keys : escapedSize "session_id" = 10 ∧ escapedSize "member_id" = 9 ∧
      escapedSize "nickname" = 8 ∧ escapedSize "direct" = 6 := by decide
  simp only [Peer.toJson, size_object, List.map_cons, List.map_nil, List.sum_cons, List.sum_nil,
    List.length_cons, List.length_nil, size_field, size_string, size_uuid, keys]
  omega

theorem size_chatRecord (record : ChatRecord) : size record.toJson =
    size (number record.sequence) + size record.sender.toJson + escapedSize record.roomId +
      size (number record.sentAtMs) + escapedSize record.text + 112 := by
  have keys : escapedSize "sequence" = 8 ∧ escapedSize "message_id" = 10 ∧ escapedSize "sender" = 6 ∧
      escapedSize "room_id" = 7 ∧ escapedSize "sent_at_ms" = 10 ∧ escapedSize "text" = 4 := by decide
  simp only [ChatRecord.toJson, size_object, List.map_cons, List.map_nil, List.sum_cons, List.sum_nil,
    List.length_cons, List.length_nil, size_field, size_string, size_uuid, keys]
  omega

theorem ChatRecord.Bounded.size_le {record : ChatRecord} (bounded : record.Bounded) :
    size record.toJson ≤ 10100 := by
  have sender := bounded.sender.size_le
  have text := escapedSize_printable bounded.text.printable
  have bytes : record.text.utf8ByteSize ≤ 4096 := bounded.text.bytes
  have roomId := escapedSize_le record.roomId
  have room := length_le_utf8ByteSize record.roomId
  have id := bounded.roomId
  have sequence : size (number record.sequence) ≤ 20 :=
    size_number_le (by decide) (Nat.lt_of_le_of_lt bounded.sequence (by decide))
  have sentAtMs : size (number record.sentAtMs) ≤ 20 :=
    size_number_le (by decide) (Nat.lt_of_le_of_lt bounded.sentAtMs (by decide))
  rw [size_chatRecord]
  omega

/-- No record is small. -/
theorem le_size_chatRecord (record : ChatRecord) : 190 ≤ size record.toJson := by
  have peer : 86 ≤ size record.sender.toJson := by
    simp only [Peer.toJson, size_object, List.map_cons, List.map_nil, List.sum_cons, List.sum_nil,
      List.length_cons, List.length_nil, size_field, size_string, size_uuid]
    omega
  rw [size_chatRecord]
  omega

theorem RoomSummary.Bounded.size_le {room : RoomSummary} (bounded : room.Bounded) :
    size room.toJson ≤ 650 := by
  have roomId := escapedSize_le room.roomId
  have bytes := length_le_utf8ByteSize room.roomId
  have id := bounded.roomId
  have name := escapedSize_name bounded.roomName
  have visibility : escapedSize room.visibility.asStr ≤ 7 := by
    cases room.visibility <;> decide
  have keys : escapedSize "room_id" = 7 ∧ escapedSize "room_name" = 9 ∧
      escapedSize "visibility" = 10 := by decide
  simp only [RoomSummary.toJson, size_object, List.map_cons, List.map_nil, List.sum_cons, List.sum_nil,
    List.length_cons, List.length_nil, size_field, size_string, keys]
  omega

theorem size_groupMember {member : GroupMemberSummary} (nickname : CleanLine maxNicknameChars member.nickname) :
    size member.toJson ≤ 300 := by
  have name := escapedSize_name nickname
  have role : escapedSize member.role.asStr ≤ 6 := by
    cases member.role <;> decide
  have status : escapedSize member.status.asStr ≤ 6 := by
    cases member.status <;> decide
  have keys : escapedSize "member_id" = 9 ∧ escapedSize "nickname" = 8 ∧ escapedSize "role" = 4 ∧
      escapedSize "status" = 6 := by decide
  simp only [GroupMemberSummary.toJson, size_object, List.map_cons, List.map_nil, List.sum_cons,
    List.sum_nil, List.length_cons, List.length_nil, size_field, size_string, size_uuid, keys]
  omega

theorem size_roomMember {member : RoomMemberSummary} (nickname : CleanLine maxNicknameChars member.nickname) :
    size member.toJson ≤ 330 := by
  have name := escapedSize_name nickname
  have role : escapedSize member.groupRole.asStr ≤ 6 := by
    cases member.groupRole <;> decide
  have included : size (bool member.included) ≤ 5 := by
    cases member.included <;> decide
  have isOwner : size (bool member.isOwner) ≤ 5 := by
    cases member.isOwner <;> decide
  have keys : escapedSize "member_id" = 9 ∧ escapedSize "nickname" = 8 ∧ escapedSize "group_role" = 10 ∧
      escapedSize "included" = 8 ∧ escapedSize "is_owner" = 8 := by decide
  simp only [RoomMemberSummary.toJson, size_object, List.map_cons, List.map_nil, List.sum_cons,
    List.sum_nil, List.length_cons, List.length_nil, size_field, size_string, size_uuid, keys]
  omega

/-! ## Pages -/

theorem sum_map_le {α : Type} {items : List α} {weight : α → ℕ} {most : ℕ}
    (each : ∀ item ∈ items, weight item ≤ most) : (items.map weight).sum ≤ items.length * most := by
  induction items with
  | nil => simp
  | cons item items ih =>
    rw [List.forall_mem_cons] at each
    have rest := ih each.2
    rw [List.map_cons, List.sum_cons, List.length_cons, Nat.add_one_mul]
    omega

theorem le_sum_map {α : Type} {items : List α} {weight : α → ℕ} {least : ℕ}
    (each : ∀ item ∈ items, least ≤ weight item) : items.length * least ≤ (items.map weight).sum := by
  induction items with
  | nil => simp
  | cons item items ih =>
    rw [List.forall_mem_cons] at each
    have rest := ih each.2
    rw [List.map_cons, List.sum_cons, List.length_cons, Nat.add_one_mul]
    omega

/-- The kept records take up the budget of a page, or are a single one. -/
theorem fitHistoryToFrame_size {history : List ChatRecord} (bounded : ∀ m ∈ history, m.Bounded) :
    ((fitHistoryToFrame history).map fun m => size m.toJson).sum ≤ 11776 := by
  have budget : historyFrameBudget = 12288 := rfl
  rcases fitHistoryToFrame_within history with single | within
  · rcases kept : fitHistoryToFrame history with _ | ⟨newest, _ | ⟨next, rest⟩⟩
    · exact Nat.zero_le _
    · have inHistory : newest ∈ history :=
        (fitHistoryToFrame_suffix history).subset (by simp [kept])
      have newestSize := (bounded newest inHistory).size_le
      simp only [List.map_cons, List.map_nil, List.sum_cons, List.sum_nil]
      omega
    · simp [kept] at single
  · omega

theorem size_history {history : List ChatRecord} (bounded : ∀ m ∈ history, m.Bounded) :
    size (array ((fitHistoryToFrame history).map ChatRecord.toJson)) ≤ 11840 := by
  have sizes := fitHistoryToFrame_size bounded
  have count := @le_sum_map _ (fitHistoryToFrame history) (fun m => size m.toJson) 190
    fun m _ => le_size_chatRecord m
  rw [size_array_map]
  omega

section
variable {record : ChatRecord} {room : RoomSummary} {history : List ChatRecord} {roomId : String}
  {more : Bool} {offset : ℕ}

theorem chat_fits (bounded : record.Bounded) : fitsFrame (.chat record) = true := by
  have body := bounded.size_le
  have limit : maxPlaintextFrame = 16384 := rfl
  have keys : escapedSize "type" = 4 ∧ escapedSize "chat" = 4 ∧ escapedSize "message" = 7 := by decide
  rw [fitsFrame, decide_eq_true_iff]
  simp only [ServerMessage.toJson, tagged, size_object, List.map_cons, List.map_nil, List.sum_cons,
    List.sum_nil, List.length_cons, List.length_nil, size_field, size_string, keys]
  omega

theorem roomJoined_fits (ofRoom : room.Bounded) (bounded : ∀ m ∈ history, m.Bounded) :
    fitsFrame (.roomJoined room (fitHistoryToFrame history)) = true := by
  have page := size_history bounded
  have summary := ofRoom.size_le
  have limit : maxPlaintextFrame = 16384 := rfl
  have keys : escapedSize "type" = 4 ∧ escapedSize "room_joined" = 11 ∧ escapedSize "room" = 4 ∧
      escapedSize "history" = 7 := by decide
  rw [fitsFrame, decide_eq_true_iff]
  simp only [ServerMessage.toJson, tagged, size_object, List.map_cons, List.map_nil, List.sum_cons,
    List.sum_nil, List.length_cons, List.length_nil, size_field, size_string, keys]
  omega

theorem historyPage_fits (id : roomId.utf8ByteSize ≤ 64) (bounded : ∀ m ∈ history, m.Bounded) :
    fitsFrame (.historyPage roomId (fitHistoryToFrame history) more) = true := by
  have page := size_history bounded
  have chars := escapedSize_le roomId
  have bytes := length_le_utf8ByteSize roomId
  have flag : size (bool more) ≤ 5 := by
    cases more <;> decide
  have limit : maxPlaintextFrame = 16384 := rfl
  have keys : escapedSize "type" = 4 ∧ escapedSize "history_page" = 12 ∧ escapedSize "room_id" = 7 ∧
      escapedSize "messages" = 8 ∧ escapedSize "has_more" = 8 := by decide
  rw [fitsFrame, decide_eq_true_iff]
  simp only [ServerMessage.toJson, tagged, size_object, List.map_cons, List.map_nil, List.sum_cons,
    List.sum_nil, List.length_cons, List.length_nil, size_field, size_string, keys]
  omega

theorem groupMembers_fits {members : List GroupMemberSummary} (few : members.length ≤ memberPageSize)
    (nicknames : ∀ m ∈ members, CleanLine maxNicknameChars m.nickname) (small : offset < 2 ^ 32) :
    fitsFrame (.groupMembers members offset more) = true := by
  have rows := @sum_map_le _ members (fun m => size m.toJson) 300 fun m mem => size_groupMember (nicknames m mem)
  have forty : memberPageSize = 40 := rfl
  have flag : size (bool more) ≤ 5 := by
    cases more <;> decide
  have digits : size (number offset) ≤ 10 :=
    size_number_le (by decide) (Nat.lt_of_lt_of_le small (by decide))
  have limit : maxPlaintextFrame = 16384 := rfl
  have keys : escapedSize "type" = 4 ∧ escapedSize "group_members" = 13 ∧ escapedSize "members" = 7 ∧
      escapedSize "offset" = 6 ∧ escapedSize "has_more" = 8 := by decide
  rw [fitsFrame, decide_eq_true_iff]
  simp only [ServerMessage.toJson, tagged, size_object, List.map_cons, List.map_nil, List.sum_cons,
    List.sum_nil, List.length_cons, List.length_nil, size_field, size_string, size_array_map, keys]
  omega

theorem roomMembers_fits {members : List RoomMemberSummary} (few : members.length ≤ memberPageSize)
    (nicknames : ∀ m ∈ members, CleanLine maxNicknameChars m.nickname) (id : roomId.utf8ByteSize ≤ 64)
    (small : offset < 2 ^ 32) : fitsFrame (.roomMembers roomId members offset more) = true := by
  have rows := @sum_map_le _ members (fun m => size m.toJson) 330 fun m mem => size_roomMember (nicknames m mem)
  have forty : memberPageSize = 40 := rfl
  have chars := escapedSize_le roomId
  have bytes := length_le_utf8ByteSize roomId
  have flag : size (bool more) ≤ 5 := by
    cases more <;> decide
  have digits : size (number offset) ≤ 10 :=
    size_number_le (by decide) (Nat.lt_of_lt_of_le small (by decide))
  have limit : maxPlaintextFrame = 16384 := rfl
  have keys : escapedSize "type" = 4 ∧ escapedSize "room_members" = 12 ∧ escapedSize "room_id" = 7 ∧
      escapedSize "members" = 7 ∧ escapedSize "offset" = 6 ∧ escapedSize "has_more" = 8 := by decide
  rw [fitsFrame, decide_eq_true_iff]
  simp only [ServerMessage.toJson, tagged, size_object, List.map_cons, List.map_nil, List.sum_cons,
    List.sum_nil, List.length_cons, List.length_nil, size_field, size_string, size_array_map, keys]
  omega

end

end LanChat
