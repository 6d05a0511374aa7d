import LanChat.Server.PageSizes
import LanChat.Storage.Rooms

/-!
# A store within the limits of its records

The nicknames, room names and messages of a store stay within the limits of
the sanitizers when every call gives it such ones, and so do its replies.
-/

namespace LanChat

/-- The names, identifiers and texts an operation brings. -/
def StoreOp.Bounded : StoreOp → Prop
  | authorizeJoin _ _ nickname _ | updateMemberNickname _ _ nickname => CleanLine maxNicknameChars nickname
  | createRoom _ name _ | createRoomWithVisibility _ name _ _ _ => CleanLine maxNicknameChars name
  | appendMessage _ roomId _ sender sentAtMs text _ =>
    roomId.utf8ByteSize ≤ 64 ∧ sender.Bounded ∧ sentAtMs ≤ u64Max ∧ CleanText text
  | _ => True

def StoreReply.Bounded : StoreReply → Prop
  | record message => message.Bounded
  | records history => ∀ message ∈ history, message.Bounded
  | room summary => summary.Bounded
  | members page _ => page.length ≤ memberPageSize ∧ ∀ m ∈ page, CleanLine maxNicknameChars m.nickname
  | roomMembers page _ => page.length ≤ memberPageSize ∧ ∀ m ∈ page, CleanLine maxNicknameChars m.nickname
  | _ => True

/-- The store keeps less of a record. -/
theorem ChatRecord.Bounded.stored {message : ChatRecord} (bounded : message.Bounded) :
    message.stored.Bounded where
  sequence := bounded.sequence
  sender := ⟨bounded.sender.nickname, nofun⟩
  roomId := bounded.roomId
  sentAtMs := Nat.le_trans (Nat.min_le_left _ _) bounded.sentAtMs
  text := bounded.text

namespace GatewayStore

structure WithinLimits (prims : Primitives) (store : GatewayStore) : Prop where
  nicknames : ∀ m ∈ store.groupMembers, CleanLine maxNicknameChars m.lastNickname
  rooms : ∀ entry ∈ store.roomTable, entry.2.Bounded
  logs : ∃ logs, store.Represents prims logs ∧ ∀ g r, ∀ message ∈ logs.records g r, message.Bounded

variable {prims : Primitives} {store : GatewayStore}

theorem withinLimits_empty (prims : Primitives) (key : BitVec 256) : (GatewayStore.empty key).WithinLimits prims :=
  ⟨nofun, nofun, fun _ _ => none, represents_empty prims key, nofun⟩

/-! ## Nicknames -/

theorem clean_administrator : CleanLine maxNicknameChars "administrator" := by
  decide

/-- A row that an update makes, when the update keeps what is said of the rows. -/
theorem forall_updateWhere {α : Type} {P : α → Prop} {selects : α → Bool} {change : α → α} {rows : List α}
    (before : ∀ row ∈ rows, P row) (keeps : ∀ row ∈ rows, P (change row)) :
    ∀ row ∈ Table.updateWhere selects change rows, P row := by
  intro row mem
  rcases Table.mem_updateWhere.1 mem with ⟨old, -⟩ | ⟨old, inRows, -, rfl⟩
  · exact before row old
  · exact keeps old inRows

theorem nicknames_setNickname {g m : Uuid} {nickname : String}
    (before : ∀ m ∈ store.groupMembers, CleanLine maxNicknameChars m.lastNickname)
    (clean : CleanLine maxNicknameChars nickname) :
    ∀ row ∈ (store.setNickname g m nickname).groupMembers, CleanLine maxNicknameChars row.lastNickname :=
  forall_updateWhere before fun _ _ => clean

/-- The nicknames after an operation are old ones, the one it brings, or the creator's first. -/
theorem nicknames_perform (before : ∀ m ∈ store.groupMembers, CleanLine maxNicknameChars m.lastNickname)
    (op : StoreOp) (bounded : op.Bounded) :
    ∀ m ∈ (store.perform prims op).2.groupMembers, CleanLine maxNicknameChars m.lastNickname := by
  have settled : ∀ {α : Type} (reply : α → StoreReply) (result : Except StoreError (α × GatewayStore)),
      (∀ a s, result = .ok (a, s) → ∀ m ∈ s.groupMembers, CleanLine maxNicknameChars m.lastNickname) →
      ∀ m ∈ (store.settle reply result).2.groupMembers, CleanLine maxNicknameChars m.lastNickname := by
    intro α reply result after
    rcases settle_cases store reply result with ⟨error, h⟩ | ⟨a, s, ok, h⟩
    · rw [h]
      exact before
    · rw [h]
      exact after a s ok
  have created : ∀ {name : String} {mode : GroupAccessMode} {draw : Draw} {created : CreatedGroup}
      {s : GatewayStore}, store.createGroupWithAccess prims name mode draw = .ok (created, s) →
      ∀ m ∈ s.groupMembers, CleanLine maxNicknameChars m.lastNickname := by
    intro name mode draw created s ok
    obtain ⟨_, _, -, -, -, -, -, -, -, rfl⟩ := createGroupWithAccess_ok ok
    rw [List.forall_mem_append, List.forall_mem_singleton]
    exact ⟨before, clean_administrator⟩
  cases op with
  | listGroups | group | pendingJoinRequests | rooms | roomsForMember | memberCanAccessRoom
  | groupMembers | memberCanManageRoom | roomMembers | history | historyBefore
  | decideJoinRequest => exact before
  | gatewayId draw =>
    simp only [perform, gatewayId]
    split <;> exact before
  | createGroup name draw =>
    refine settled _ _ fun summary s ok => ?_
    simp only [GatewayStore.createGroup] at ok
    cases creation : store.createGroupWithAccess prims name .isPublic draw with
    | error e => simp [creation, Except.map] at ok
    | ok success =>
      rw [creation] at ok
      cases ok
      exact created creation
  | createGroupWithAccess name mode draw => exact settled _ _ fun _ _ => created
  | authorizeJoin groupId credential nickname draw =>
    refine settled _ _ fun authorization s ok => ?_
    cases authorizeJoin_ok ok with
    | refused => exact before
    | known => exact nicknames_setNickname before bounded
    | administrator | issued =>
      rw [List.forall_mem_append, List.forall_mem_singleton]
      exact ⟨before, bounded⟩
  | createJoinRequest groupId nickname draw =>
    refine settled _ _ fun request s ok => ?_
    obtain ⟨requests, rfl⟩ := createJoinRequest_ok ok
    exact before
  | updateMemberNickname groupId memberId nickname =>
    refine settled _ _ fun _ s ok => ?_
    cases updated : store.updateMemberNickname groupId memberId nickname with
    | error e => simp [updated, Except.map] at ok
    | ok s' =>
      rw [updated] at ok
      cases ok
      rw [updateMemberNickname_ok updated]
      exact nicknames_setNickname before bounded
  | createRoom | createRoomWithVisibility | setRoomMember | appendMessage =>
    rw [(sameAccounts prims store rfl).groupMembers]
    exact before
  | setMemberBanned groupId memberId banned => exact forall_updateWhere before before
  | rotateGroupToken groupId actor kind draw =>
    refine settled _ _ fun token s ok => ?_
    obtain ⟨hash, -, -, -, wrote⟩ := rotateGroupToken_ok ok
    cases kind with
    | member | admin =>
      simp only at wrote
      subst wrote
      exact forall_updateWhere before before
    | invite =>
      simp only at wrote
      subst wrote
      exact before

/-! ## Rooms -/

theorem bounded_generalRoom : generalRoom.Bounded := by
  constructor
  · decide
  · decide

theorem size_simple (id : Uuid) : id.simple.utf8ByteSize ≤ 64 := by
  have ascii : ∀ ch ∈ hexDigits 32 id.bits.toNat, ch.utf8Size = 1 := by
    intro ch mem
    obtain ⟨i, -, rfl⟩ := List.mem_map.1 mem
    have plain := isPlain_hexDigit _ (Nat.mod_lt (id.bits.toNat / 16 ^ (32 - 1 - i)) (by decide : 0 < 16))
    simp only [Json.isPlain, Bool.and_eq_true, beq_iff_eq] at plain
    exact plain.1
  rw [Uuid.simple, Json.utf8ByteSize_ofList, Json.size_of_ascii ascii, length_hexDigits]
  decide

/-- A new room has the name that was given, and an id of 32 digits. -/
theorem bounded_newRoom {op : StoreOp} (bounded : op.Bounded) {g : Uuid} {room : RoomSummary}
    {creator : Option Uuid} (opens : op.newRoom = some (g, room, creator)) : room.Bounded := by
  cases op <;> cases opens <;> exact ⟨size_simple _, bounded⟩

theorem rooms_perform (before : ∀ entry ∈ store.roomTable, entry.2.Bounded) (op : StoreOp)
    (bounded : op.Bounded) : ∀ entry ∈ (store.perform prims op).2.roomTable, entry.2.Bounded := by
  obtain ⟨reply, step⟩ := tablesStep_store prims store op
  cases step with
  | same _ rooms | included _ _ rooms | excluded _ rooms =>
    rw [rooms]
    exact before
  | group opens free freeRoom groups rooms =>
    rw [rooms, List.forall_mem_append, List.forall_mem_singleton]
    exact ⟨before, bounded_generalRoom⟩
  | room opens free fresh groups rooms =>
    rw [rooms, List.forall_mem_append, List.forall_mem_singleton]
    exact ⟨before, bounded_newRoom bounded opens⟩

/-! ## Messages -/

section
variable {logs : Logs}

/-- A message the store accepts is within the limits when the call is. -/
theorem bounded_posted {op : StoreOp} {reply : StoreReply} {key : BitVec 256} (bounded : op.Bounded)
    (replied : LogReply prims key logs op reply) {g : Uuid} {r : String} {id : Uuid} {sender : Peer}
    {sentAtMs : ℕ} {text : String} {draw : Draw} (posts : op = .appendMessage g r id sender sentAtMs text draw)
    {message : ChatRecord} (accepted : reply = .record message) : message.Bounded := by
  subst posts accepted
  obtain ⟨room, peer, time, clean⟩ := bounded
  rcases replied with ⟨-, error, failed⟩ | ⟨notRefused, same⟩
  · cases failed
  · cases same
    have short : ¬ i64Max ≤ (logs.records g r).length + 1 := fun full =>
      notRefused (.inr (.inr (.inr full)))
    exact ⟨by simp only; omega, peer, room, time, clean⟩

theorem records_observe {op : StoreOp} {reply : StoreReply} {key : BitVec 256} (bounded : op.Bounded)
    (replied : LogReply prims key logs op reply)
    (before : ∀ g r, ∀ message ∈ logs.records g r, message.Bounded) :
    ∀ g r, ∀ message ∈ (logs.observe (op, reply)).records g r, message.Bounded := by
  have set : ∀ (g : Uuid) (r : String) (records : List ChatRecord), (∀ message ∈ records, message.Bounded) →
      ∀ g' r', ∀ message ∈ (logs.set g r records).records g' r', message.Bounded := by
    intro g r records new g' r' message mem
    rw [Logs.records_set] at mem
    split at mem
    · exact new message mem
    · exact before g' r' message mem
  unfold Logs.observe
  split
  · exact set _ _ _ nofun
  · exact set _ _ _ nofun
  · exact set _ _ _ nofun
  · exact set _ _ _ nofun
  · next same =>
    cases same
    refine set _ _ _ (List.forall_mem_append.2 ⟨before _ _, List.forall_mem_singleton.2 ?_⟩)
    exact (bounded_posted bounded replied rfl rfl).stored
  · exact before

end

/-! ## Replies -/

theorem bounded_groupMembersPage (nicknames : ∀ m ∈ store.groupMembers, CleanLine maxNicknameChars m.lastNickname)
    (g : Uuid) (offset : ℕ) : (store.groupMembersPage g offset).1.length ≤ memberPageSize ∧
      ∀ m ∈ (store.groupMembersPage g offset).1, CleanLine maxNicknameChars m.nickname := by
  constructor
  · simp only [groupMembersPage, List.length_map, List.length_take]
    omega
  · intro m mem
    obtain ⟨row, listed, rfl⟩ := List.mem_map.1 mem
    have sorted := List.mem_of_mem_drop (List.mem_of_mem_take (List.mem_of_mem_take listed))
    rw [Table.mem_orderBy] at sorted
    exact nicknames row (List.mem_filter.1 sorted).1

theorem bounded_roomMembersPage (nicknames : ∀ m ∈ store.groupMembers, CleanLine maxNicknameChars m.lastNickname)
    {g : Uuid} {r : String} {offset : ℕ} {page : List RoomMemberSummary} {more : Bool}
    (h : store.roomMembersPage g r offset = .ok (page, more)) :
    page.length ≤ memberPageSize ∧ ∀ m ∈ page, CleanLine maxNicknameChars m.nickname := by
  simp only [roomMembersPage, bind_eq_ok] at h
  obtain ⟨-, -, h⟩ := h
  cases h
  constructor
  · simp only [List.length_map, List.length_take]
    omega
  · intro m mem
    obtain ⟨row, listed, rfl⟩ := List.mem_map.1 mem
    have sorted := List.mem_of_mem_drop (List.mem_of_mem_take (List.mem_of_mem_take listed))
    rw [Table.mem_orderBy] at sorted
    obtain ⟨member, active, rfl⟩ := List.mem_map.1 sorted
    exact nicknames member (List.mem_filter.1 active).1

/-- **A store within its limits stays so**, and replies so. -/
theorem WithinLimits.perform (aead : AeadCorrect prims) (within : store.WithinLimits prims) (op : StoreOp)
    (bounded : op.Bounded) :
    (store.perform prims op).2.WithinLimits prims ∧ (store.perform prims op).1.Bounded := by
  obtain ⟨logs, represents, records⟩ := within.logs
  obtain ⟨replied, -, after⟩ := represents.perform aead op
  refine ⟨⟨nicknames_perform within.nicknames op bounded, rooms_perform within.rooms op bounded,
    _, after, records_observe bounded replied records⟩, ?_⟩
  have settled : ∀ {α : Type} (reply : α → StoreReply) (result : Except StoreError (α × GatewayStore)),
      (∀ a s, result = .ok (a, s) → (reply a).Bounded) → (store.settle reply result).1.Bounded := by
    intro α reply result success
    rcases settle_cases store reply result with ⟨error, h⟩ | ⟨a, s, ok, h⟩
    · rw [h]
      trivial
    · rw [h]
      exact success a s ok
  cases op with
  | listGroups | group | pendingJoinRequests | rooms | roomsForMember | memberCanAccessRoom
  | memberCanManageRoom | decideJoinRequest | gatewayId | setMemberBanned => trivial
  | createGroup | createGroupWithAccess | authorizeJoin | createJoinRequest | updateMemberNickname
  | rotateGroupToken | setRoomMember => exact settled _ _ fun _ _ _ => trivial
  | createRoom groupId name draw =>
    refine settled _ _ fun room s ok => ?_
    obtain ⟨rfl, -⟩ := createRoomWithVisibility_ok ok
    exact ⟨size_simple _, bounded⟩
  | createRoomWithVisibility groupId name visibility creator draw =>
    refine settled _ _ fun room s ok => ?_
    obtain ⟨rfl, -⟩ := createRoomWithVisibility_ok ok
    exact ⟨size_simple _, bounded⟩
  | groupMembers groupId offset => exact bounded_groupMembersPage within.nicknames groupId offset
  | roomMembers groupId roomId offset =>
    simp only [GatewayStore.perform]
    cases listed : store.roomMembersPage groupId roomId offset with
    | error e => trivial
    | ok page => exact bounded_roomMembersPage within.nicknames listed
  | appendMessage groupId roomId messageId sender sentAtMs text draw =>
    refine settled _ _ fun message s ok => bounded_posted bounded replied rfl ?_
    simp only [GatewayStore.perform, ok]
    rfl
  | history groupId roomId limit =>
    rw [replied]
    exact fun message mem => records groupId roomId message (List.mem_of_mem_drop mem)
  | historyBefore groupId roomId before limit =>
    rw [replied]
    exact fun message mem =>
      records groupId roomId message (List.mem_filter.1 (List.mem_of_mem_drop mem)).1

end GatewayStore

end LanChat
