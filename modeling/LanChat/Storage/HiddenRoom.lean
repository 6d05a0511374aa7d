import LanChat.Storage.Isolation

/-!
# A store without one of its rooms

The rows of a room are its own, those of its members and those of its messages. The operations
that are not about the room do on the whole store what they do on the store without it
(`perform_withoutRoom`), and the operations on what the room holds change only its rows
(`withoutRoom_perform_within`). What shows the room to the others is said by `StoreOp.Misses`:
the name and the id of a new room, the id of a message and the list of a member's rooms.
-/

namespace LanChat

open Table Fallible

variable {g : Uuid} {h : String}

/-- Everything but a room. -/
def elsewhere (g : Uuid) (h : String) (groupId : Uuid) (roomId : String) : Bool := !(groupId == g && roomId == h)

theorem elsewhere_iff {groupId : Uuid} {roomId : String} :
    elsewhere g h groupId roomId = true ↔ ¬ (groupId = g ∧ roomId = h) := by
  rw [elsewhere, Bool.not_eq_true', ← Bool.not_eq_true, Bool.and_eq_true, beq_iff_eq, beq_iff_eq]

theorem elsewhere_of_group {groupId : Uuid} {roomId : String} (other : groupId ≠ g) :
    elsewhere g h groupId roomId = true := elsewhere_iff.2 fun same => other same.1

theorem elsewhere_of_room {groupId : Uuid} {roomId : String} (other : roomId ≠ h) :
    elsewhere g h groupId roomId = true := elsewhere_iff.2 fun same => other same.2

/-- An operation that cannot come upon a room of the store. -/
def StoreOp.Misses (g : Uuid) (h : String) (store : GatewayStore) : StoreOp → Prop
  | .rooms groupId => groupId ≠ g
  | .roomsForMember groupId memberId => groupId = g → store.memberCanAccessRoom g h memberId = false
  | .createRoom groupId name draw | .createRoomWithVisibility groupId name _ _ draw => groupId = g →
    draw.id.simple ≠ h ∧ ∀ row ∈ store.rooms, row.groupId = g → row.roomId = h → nocase row.name ≠ nocase name
  | .appendMessage groupId roomId messageId _ _ _ _ => ¬ (groupId = g ∧ roomId = h) ∧
    ∀ row ∈ store.groupMessages, row.groupId = g → row.roomId = h → row.messageId ≠ messageId
  | .memberCanAccessRoom groupId roomId _ | .roomMembers groupId roomId _ | .memberCanManageRoom groupId roomId _ _
  | .setRoomMember groupId roomId _ _ _ _ | .history groupId roomId _ | .historyBefore groupId roomId _ _ =>
    ¬ (groupId = g ∧ roomId = h)
  | _ => True

/-- An operation on the members or the messages of a room. -/
def StoreOp.Within (g : Uuid) (h : String) : StoreOp → Prop
  | .memberCanAccessRoom groupId roomId _ | .roomMembers groupId roomId _ | .memberCanManageRoom groupId roomId _ _
  | .setRoomMember groupId roomId _ _ _ _ | .history groupId roomId _ | .historyBefore groupId roomId _ _
  | .appendMessage groupId roomId _ _ _ _ _ => groupId = g ∧ roomId = h
  | _ => False

namespace GatewayStore

variable {prims : Primitives} {store store' : GatewayStore}

def withoutRoom (store : GatewayStore) (g : Uuid) (h : String) : GatewayStore :=
  { store with
    rooms := keep (fun row => elsewhere g h row.groupId row.roomId) store.rooms
    groupMessages := keep (fun row => elsewhere g h row.groupId row.roomId) store.groupMessages
    roomMembers := keep (fun row => elsewhere g h row.groupId row.roomId) store.roomMembers }

@[simp] theorem withoutRoom_groups : (store.withoutRoom g h).groups = store.groups := rfl
@[simp] theorem withoutRoom_joinRequests : (store.withoutRoom g h).joinRequests = store.joinRequests := rfl
@[simp] theorem withoutRoom_groupMembers : (store.withoutRoom g h).groupMembers = store.groupMembers := rfl
@[simp] theorem withoutRoom_rooms :
    (store.withoutRoom g h).rooms = keep (fun row => elsewhere g h row.groupId row.roomId) store.rooms := rfl
@[simp] theorem withoutRoom_groupMessages : (store.withoutRoom g h).groupMessages =
    keep (fun row => elsewhere g h row.groupId row.roomId) store.groupMessages := rfl
@[simp] theorem withoutRoom_roomMembers : (store.withoutRoom g h).roomMembers =
    keep (fun row => elsewhere g h row.groupId row.roomId) store.roomMembers := rfl

/-! ## Queries elsewhere -/

theorem hasGroup_withoutRoom {groupId : Uuid} : (store.withoutRoom g h).hasGroup groupId = store.hasGroup groupId := rfl

section
variable {groupId : Uuid} {roomId : String} (apart : ¬ (groupId = g ∧ roomId = h))
include apart

theorem hasRoom_withoutRoom : (store.withoutRoom g h).hasRoom groupId roomId = store.hasRoom groupId roomId := by
  refine any_keep fun row _ picked => elsewhere_iff.2 ?_
  simp only [Bool.and_eq_true, beq_iff_eq] at picked
  rwa [picked.1, picked.2]

theorem findRoom_withoutRoom : (store.withoutRoom g h).findRoom groupId roomId = store.findRoom groupId roomId := by
  refine find?_keep fun row _ picked => elsewhere_iff.2 ?_
  simp only [Bool.and_eq_true, beq_iff_eq] at picked
  rwa [picked.1, picked.2]

theorem isPrivateRoom_withoutRoom :
    (store.withoutRoom g h).isPrivateRoom groupId roomId = store.isPrivateRoom groupId roomId := by
  rw [isPrivateRoom, findRoom_withoutRoom apart, isPrivateRoom]

theorem isRoomOwner_withoutRoom {memberId : Uuid} :
    (store.withoutRoom g h).isRoomOwner groupId roomId memberId = store.isRoomOwner groupId roomId memberId := by
  refine any_keep fun row _ picked => elsewhere_iff.2 ?_
  simp only [Bool.and_eq_true, beq_iff_eq] at picked
  rwa [picked.1.1.1, picked.1.1.2]

theorem roomMessages_withoutRoom :
    (store.withoutRoom g h).roomMessages groupId roomId = store.roomMessages groupId roomId := by
  refine filter_keep fun row _ picked => elsewhere_iff.2 ?_
  simp only [Bool.and_eq_true, beq_iff_eq] at picked
  rwa [picked.1, picked.2]

end

theorem grantsAccess_withoutRoom {room : RoomRow} (apart : ¬ (room.groupId = g ∧ room.roomId = h)) (memberId : Uuid) :
    (store.withoutRoom g h).grantsAccess room memberId = store.grantsAccess room memberId := by
  simp only [grantsAccess, withoutRoom_roomMembers, withoutRoom_groupMembers]
  rw [any_keep]
  intro row _ picked
  simp only [Bool.and_eq_true, beq_iff_eq] at picked
  rwa [elsewhere_iff, picked.1.1, picked.1.2]

theorem memberCanAccessRoom_withoutRoom {groupId : Uuid} {roomId : String} (apart : ¬ (groupId = g ∧ roomId = h))
    {memberId : Uuid} : (store.withoutRoom g h).memberCanAccessRoom groupId roomId memberId =
      store.memberCanAccessRoom groupId roomId memberId := by
  rw [memberCanAccessRoom, memberCanAccessRoom, Bool.eq_iff_iff, List.any_eq_true, List.any_eq_true]
  simp only [Bool.and_eq_true, beq_iff_eq]
  constructor
  · rintro ⟨room, mem, same, access⟩
    have other : ¬ (room.groupId = g ∧ room.roomId = h) := by rwa [same.1, same.2]
    exact ⟨room, (mem_keep.1 mem).1, same, by rwa [← grantsAccess_withoutRoom other]⟩
  · rintro ⟨room, mem, same, access⟩
    have other : ¬ (room.groupId = g ∧ room.roomId = h) := by rwa [same.1, same.2]
    exact ⟨room, mem_keep.2 ⟨mem, elsewhere_iff.2 other⟩, same, by rwa [grantsAccess_withoutRoom other]⟩

/-- A member that the room is not shared with has the same rooms without it. -/
theorem roomsForMember_withoutRoom {groupId memberId : Uuid}
    (denied : groupId = g → store.memberCanAccessRoom g h memberId = false) :
    (store.withoutRoom g h).roomsForMember groupId memberId = store.roomsForMember groupId memberId := by
  have rooms : (keep (fun row => elsewhere g h row.groupId row.roomId) store.rooms).filter
      (fun r => r.groupId == groupId && store.grantsAccess r memberId) =
        store.rooms.filter fun r => r.groupId == groupId && store.grantsAccess r memberId := by
    refine filter_keep fun row mem picked => elsewhere_iff.2 ?_
    simp only [Bool.and_eq_true, beq_iff_eq] at picked
    rintro ⟨rfl, rfl⟩
    have shown := denied picked.1.symm
    rw [memberCanAccessRoom, List.any_eq_false] at shown
    exact shown row mem (by simp [picked.2])
  rw [roomsForMember, roomsForMember, withoutRoom_rooms, ← rooms]
  congr 2
  refine List.filter_congr fun room mem => ?_
  rw [grantsAccess_withoutRoom (elsewhere_iff.1 (mem_keep.1 mem).2)]

theorem roomMembersPage_withoutRoom {groupId : Uuid} {roomId : String} (apart : ¬ (groupId = g ∧ roomId = h))
    {offset : ℕ} :
    (store.withoutRoom g h).roomMembersPage groupId roomId offset = store.roomMembersPage groupId roomId offset := by
  have rows : ((store.groupMembers.filter fun gm => gm.groupId == groupId && gm.status == .active).map fun gm =>
      (gm, (keep (fun row => elsewhere g h row.groupId row.roomId) store.roomMembers).find? fun rm =>
        rm.groupId == gm.groupId && rm.memberId == gm.memberId && rm.roomId == roomId)) =
      (store.groupMembers.filter fun gm => gm.groupId == groupId && gm.status == .active).map fun gm =>
        (gm, store.roomMembers.find? fun rm => rm.groupId == gm.groupId && rm.memberId == gm.memberId &&
          rm.roomId == roomId) := by
    refine List.map_congr_left fun gm mem => ?_
    have own := (List.mem_filter.1 mem).2
    simp only [Bool.and_eq_true, beq_iff_eq] at own
    rw [find?_keep]
    intro rm _ picked
    simp only [Bool.and_eq_true, beq_iff_eq] at picked
    rwa [elsewhere_iff, picked.1.1, picked.2, own.1]
  simp only [roomMembersPage, isPrivateRoom_withoutRoom apart, withoutRoom_groupMembers, withoutRoom_roomMembers, rows]

/-! ## Insertions and updates elsewhere -/

theorem insertRoom_withoutRoom {row : RoomRow} (apart : ¬ (row.groupId = g ∧ row.roomId = h))
    (free : row.groupId = g → ∀ other ∈ store.rooms, other.groupId = g → other.roomId = h → other.name ≠ row.name) :
    (store.withoutRoom g h).insertRoom row = (store.insertRoom row).map (·.withoutRoom g h) := by
  have clashes : (keep (fun row => elsewhere g h row.groupId row.roomId) store.rooms).any
      (fun r => r.groupId == row.groupId && (r.roomId == row.roomId || r.name == row.name)) =
        store.rooms.any fun r => r.groupId == row.groupId && (r.roomId == row.roomId || r.name == row.name) := by
    refine any_keep fun r mem picked => elsewhere_iff.2 ?_
    simp only [Bool.and_eq_true, Bool.or_eq_true, beq_iff_eq] at picked
    rintro ⟨rfl, rfl⟩
    rcases picked.2 with sameId | sameName
    · exact apart ⟨picked.1.symm, sameId.symm⟩
    · exact free picked.1.symm r mem rfl rfl sameName
  rw [insertRoom, insertRoom, hasGroup_withoutRoom, withoutRoom_rooms, clashes]
  split
  · rfl
  · simp [Except.map, withoutRoom, keep_append_kept, elsewhere_iff.2 apart]

theorem insertRoomMember_withoutRoom {row : RoomMemberRow} (apart : ¬ (row.groupId = g ∧ row.roomId = h)) :
    (store.withoutRoom g h).insertRoomMember row = (store.insertRoomMember row).map (·.withoutRoom g h) := by
  have present : (keep (fun row => elsewhere g h row.groupId row.roomId) store.roomMembers).any
      (fun m => m.groupId == row.groupId && m.roomId == row.roomId && m.memberId == row.memberId) =
        store.roomMembers.any fun m => m.groupId == row.groupId && m.roomId == row.roomId && m.memberId == row.memberId := by
    refine any_keep fun r _ picked => elsewhere_iff.2 ?_
    simp only [Bool.and_eq_true, beq_iff_eq] at picked
    rwa [picked.1.1, picked.1.2]
  rw [insertRoomMember, insertRoomMember, hasRoom_withoutRoom apart, withoutRoom_groupMembers,
    withoutRoom_roomMembers, present]
  split
  · rfl
  · simp [Except.map, withoutRoom, keep_append_kept, elsewhere_iff.2 apart]

theorem insertMessage_withoutRoom {row : MessageRow} (apart : ¬ (row.groupId = g ∧ row.roomId = h))
    (free : ∀ other ∈ store.groupMessages, other.groupId = g → other.roomId = h → other.messageId ≠ row.messageId) :
    (store.withoutRoom g h).insertMessage row = (store.insertMessage row).map (·.withoutRoom g h) := by
  have clashes : (keep (fun row => elsewhere g h row.groupId row.roomId) store.groupMessages).any
      (fun m => m.messageId == row.messageId ||
        (m.groupId == row.groupId && m.roomId == row.roomId && m.sequence == row.sequence)) =
        store.groupMessages.any fun m => m.messageId == row.messageId ||
          (m.groupId == row.groupId && m.roomId == row.roomId && m.sequence == row.sequence) := by
    refine any_keep fun m mem picked => elsewhere_iff.2 ?_
    simp only [Bool.or_eq_true, Bool.and_eq_true, beq_iff_eq] at picked
    rintro ⟨rfl, rfl⟩
    rcases picked with same | ⟨⟨inGroup, inRoom⟩, -⟩
    · exact free m mem rfl rfl same
    · exact apart ⟨inGroup.symm, inRoom.symm⟩
  rw [insertMessage, insertMessage, hasRoom_withoutRoom apart, withoutRoom_groupMessages, clashes]
  split
  · rfl
  · simp [Except.map, withoutRoom, keep_append_kept, elsewhere_iff.2 apart]

theorem insertMember_withoutRoom {row : MemberRow} :
    (store.withoutRoom g h).insertMember row = (store.insertMember row).map (·.withoutRoom g h) := by
  rw [insertMember, insertMember, hasGroup_withoutRoom, withoutRoom_groupMembers]
  split <;> rfl

theorem insertJoinRequest_withoutRoom {row : JoinRequestRow} :
    (store.withoutRoom g h).insertJoinRequest row = (store.insertJoinRequest row).map (·.withoutRoom g h) := by
  rw [insertJoinRequest, insertJoinRequest, hasGroup_withoutRoom, withoutRoom_joinRequests]
  split <;> rfl

theorem updateCredentialHash_withoutRoom {groupId : Uuid} {hash : List UInt8} {selects : MemberRow → Bool} :
    (store.withoutRoom g h).updateCredentialHash groupId hash selects =
      (store.updateCredentialHash groupId hash selects).map (·.withoutRoom g h) := by
  rw [updateCredentialHash, updateCredentialHash, withoutRoom_groupMembers]
  split <;> rfl

/-! ## Operations elsewhere -/

/-- A new group is another one, and so is its general room. -/
theorem createGroupWithAccess_withoutRoom {name : String} {mode : GroupAccessMode} {draw : Draw}
    (known : store.hasGroup g = true) : (store.withoutRoom g h).createGroupWithAccess prims name mode draw =
      through (·.withoutRoom g h) (store.createGroupWithAccess prims name mode draw) := by
  simp only [createGroupWithAccess, withoutRoom_groups]
  refine bind_same fun _ _ => bind_same fun adminHash _ => bind_same fun inviteHash _ => ?_
  refine bind_view ?_ fun s inserted => ?_
  · rw [insertGroup, insertGroup, withoutRoom_groups]
    split <;> rfl
  · obtain ⟨free, rfl⟩ := insertGroup_ok inserted
    obtain ⟨row, mem, rfl⟩ := hasGroup_iff.1 known
    have other : draw.id ≠ row.groupId := (free row mem).1.symm
    refine bind_view (insertRoom_withoutRoom (fun same => other same.1) fun same => absurd same other) fun _ _ => ?_
    exact bind_view insertMember_withoutRoom fun _ _ => rfl

theorem insertGroupMember_withoutRoom {groupId : Uuid} {token : String} {role : GroupRole} {nickname : String}
    {draw : Draw} : (store.withoutRoom g h).insertGroupMember prims groupId token role nickname draw =
      through (·.withoutRoom g h) (store.insertGroupMember prims groupId token role nickname draw) :=
  bind_same fun _ _ => bind_view insertMember_withoutRoom fun _ _ => rfl

theorem issueMember_withoutRoom {groupId : Uuid} {nickname : String} {draw : Draw} :
    (store.withoutRoom g h).issueMember prims groupId nickname draw =
      through (·.withoutRoom g h) (store.issueMember prims groupId nickname draw) := by
  rw [issueMember, issueMember, withoutRoom_groupMembers]
  split
  · rfl
  · exact bind_through insertGroupMember_withoutRoom fun _ _ _ => rfl

theorem authorizeRequest_withoutRoom {groupId : Uuid} {token nickname : String} {hash : List UInt8} {draw : Draw} :
    (store.withoutRoom g h).authorizeRequest prims groupId token nickname hash draw =
      through (·.withoutRoom g h) (store.authorizeRequest prims groupId token nickname hash draw) := by
  simp only [authorizeRequest, withoutRoom_joinRequests]
  split
  · rfl
  · split
    · exact bind_through issueMember_withoutRoom fun _ _ _ => rfl
    · rfl
    · rfl

theorem authorizeByMode_withoutRoom {row : GroupRow} {credential : Option String} {hash : Option (List UInt8)}
    {nickname : String} {draw : Draw} :
    (store.withoutRoom g h).authorizeByMode prims row credential hash nickname draw =
      through (·.withoutRoom g h) (store.authorizeByMode prims row credential hash nickname draw) := by
  simp only [authorizeByMode]
  split
  · rfl
  · exact issueMember_withoutRoom
  · rfl
  · split
    · exact issueMember_withoutRoom
    · rfl
  · exact authorizeRequest_withoutRoom
  · rfl

theorem authorizeJoin_withoutRoom {groupId : Uuid} {credential : Option String} {nickname : String} {draw : Draw} :
    (store.withoutRoom g h).authorizeJoin prims groupId credential nickname draw =
      through (·.withoutRoom g h) (store.authorizeJoin prims groupId credential nickname draw) := by
  simp only [authorizeJoin, findGroup, withoutRoom_groups, withoutRoom_groupMembers]
  split
  · rfl
  · split
    · exact authorizeByMode_withoutRoom
    · refine bind_same fun hash _ => ?_
      split
      · split <;> rfl
      · split
        · exact bind_through insertGroupMember_withoutRoom fun _ _ _ => rfl
        · exact authorizeByMode_withoutRoom

theorem createJoinRequest_withoutRoom {groupId : Uuid} {nickname : String} {draw : Draw} :
    (store.withoutRoom g h).createJoinRequest prims groupId nickname draw =
      through (·.withoutRoom g h) (store.createJoinRequest prims groupId nickname draw) := by
  simp only [createJoinRequest, findGroup, withoutRoom_groups, withoutRoom_joinRequests]
  refine bind_same fun _ _ => bind_same fun _ _ => bind_same fun _ _ => ?_
  exact bind_view insertJoinRequest_withoutRoom fun _ _ => rfl

theorem updateMemberNickname_withoutRoom {groupId memberId : Uuid} {nickname : String} :
    ((store.withoutRoom g h).updateMemberNickname groupId memberId nickname).map ((), ·) =
      through (·.withoutRoom g h) ((store.updateMemberNickname groupId memberId nickname).map ((), ·)) := by
  rw [updateMemberNickname, updateMemberNickname, withoutRoom_groupMembers]
  cases ensure (decide (store.groupMembers.countP (fun m => m.memberId == memberId && m.groupId == groupId) = 1))
    "member not found" <;> rfl

theorem rotateGroupToken_withoutRoom {groupId actor : Uuid} {kind : GroupTokenKind} {draw : Draw} :
    (store.withoutRoom g h).rotateGroupToken prims groupId actor kind draw =
      through (·.withoutRoom g h) (store.rotateGroupToken prims groupId actor kind draw) := by
  simp only [rotateGroupToken, withoutRoom_groupMembers, withoutRoom_groups]
  refine bind_same fun _ _ => bind_same fun hash _ => ?_
  split
  · exact bind_view updateCredentialHash_withoutRoom fun _ _ => bind_same fun _ _ => rfl
  · refine bind_view ?_ fun _ _ => rfl
    rw [← updateCredentialHash_withoutRoom]
    rfl
  · exact bind_same fun _ _ => rfl

theorem createRoomWithVisibility_withoutRoom {groupId : Uuid} {name : String} {visibility : RoomVisibility}
    {owner : Option Uuid} {draw : Draw} (misses : groupId = g → draw.id.simple ≠ h ∧
      ∀ row ∈ store.rooms, row.groupId = g → row.roomId = h → nocase row.name ≠ nocase name) :
    (store.withoutRoom g h).createRoomWithVisibility groupId name visibility owner draw =
      through (·.withoutRoom g h) (store.createRoomWithVisibility groupId name visibility owner draw) := by
  have names : (keep (fun row => elsewhere g h row.groupId row.roomId) store.rooms).any
      (fun r => r.groupId == groupId && nocase r.name == nocase name) =
        store.rooms.any fun r => r.groupId == groupId && nocase r.name == nocase name := by
    refine any_keep fun r mem picked => elsewhere_iff.2 ?_
    simp only [Bool.and_eq_true, beq_iff_eq] at picked
    rintro ⟨rfl, rfl⟩
    exact (misses picked.1.symm).2 r mem rfl rfl picked.2
  have apart : ¬ (groupId = g ∧ draw.id.simple = h) := fun same => (misses same.1).1 same.2
  simp only [createRoomWithVisibility, withoutRoom_rooms, names]
  refine bind_same fun _ _ => bind_same fun _ _ => bind_view (insertRoom_withoutRoom apart ?_) fun s _ => ?_
  · exact fun own r mem inGroup inRoom same => (misses own).2 r mem inGroup inRoom (congrArg nocase same)
  · split
    · exact bind_view (insertRoomMember_withoutRoom apart) fun _ _ => rfl
    · rfl

theorem setRoomMember_withoutRoom {groupId : Uuid} {roomId : String} (apart : ¬ (groupId = g ∧ roomId = h))
    {actor target : Uuid} {role : GroupRole} {included : Bool} :
    (store.withoutRoom g h).setRoomMember groupId roomId actor role target included =
      through (·.withoutRoom g h) (store.setRoomMember groupId roomId actor role target included) := by
  have present : (keep (fun row => elsewhere g h row.groupId row.roomId) store.roomMembers).any
      (fun rm => rm.groupId == groupId && rm.roomId == roomId && rm.memberId == target) =
        store.roomMembers.any fun rm => rm.groupId == groupId && rm.roomId == roomId && rm.memberId == target := by
    refine any_keep fun rm _ picked => elsewhere_iff.2 ?_
    simp only [Bool.and_eq_true, beq_iff_eq] at picked
    rwa [picked.1.1, picked.1.2]
  have rows : (keep (fun row => elsewhere g h row.groupId row.roomId) store.roomMembers).countP
      (fun rm => rm.groupId == groupId && rm.roomId == roomId && rm.memberId == target && rm.role == .member) =
        store.roomMembers.countP fun rm => rm.groupId == groupId && rm.roomId == roomId && rm.memberId == target &&
          rm.role == .member := by
    refine countP_keep fun rm _ picked => elsewhere_iff.2 ?_
    simp only [Bool.and_eq_true, beq_iff_eq] at picked
    rwa [picked.1.1.1, picked.1.1.2]
  simp only [setRoomMember, isPrivateRoom_withoutRoom apart, isRoomOwner_withoutRoom apart,
    withoutRoom_groupMembers, withoutRoom_roomMembers, present, rows]
  refine bind_same fun _ _ => bind_same fun _ _ => bind_same fun _ _ => ?_
  split
  · split
    · rfl
    · exact bind_view (insertRoomMember_withoutRoom apart) fun _ _ => rfl
  · simp only [through_ok, withoutRoom]
    rw [keep_deleteWhere]

theorem appendMessage_withoutRoom {groupId : Uuid} {roomId : String} {messageId : Uuid} {sender : Peer} {sentAtMs : ℕ}
    {text : String} {draw : Draw} (apart : ¬ (groupId = g ∧ roomId = h))
    (free : ∀ row ∈ store.groupMessages, row.groupId = g → row.roomId = h → row.messageId ≠ messageId) :
    (store.withoutRoom g h).appendMessage prims groupId roomId messageId sender sentAtMs text draw =
      through (·.withoutRoom g h) (store.appendMessage prims groupId roomId messageId sender sentAtMs text draw) := by
  have counts : (store.withoutRoom g h).takeSequence groupId roomId =
      through (·.withoutRoom g h) (store.takeSequence groupId roomId) := by
    simp only [takeSequence, findRoom_withoutRoom apart]
    split
    · rfl
    · split
      · rfl
      · simp only [through_ok, withoutRoom]
        rw [keep_updateWhere (by simp)]
  refine bind_through counts fun sequence s taken => ?_
  have same : s.groupMessages = store.groupMessages := by
    simp only [takeSequence] at taken
    split at taken
    · cases taken
    · split at taken <;> cases taken
      rfl
  refine bind_same fun encrypted _ => bind_view (insertMessage_withoutRoom apart ?_) fun _ _ => rfl
  rw [same]
  exact free

/-- **An operation that misses the room** does on the whole store what it does without the room. -/
theorem perform_withoutRoom {op : StoreOp} (known : store.hasGroup g = true) (misses : op.Misses g h store) :
    (store.withoutRoom g h).perform prims op =
      ((store.perform prims op).1, (store.perform prims op).2.withoutRoom g h) := by
  cases op with
  | gatewayId draw =>
    simp only [perform, gatewayId]
    cases gatewayMeta : store.gatewayMeta <;> simp [withoutRoom, gatewayMeta]
  | listGroups | group | pendingJoinRequests | decideJoinRequest | groupMembers | setMemberBanned => rfl
  | createGroup name draw =>
    simp only [perform, createGroup, createGroupWithAccess_withoutRoom known]
    cases store.createGroupWithAccess prims name .isPublic draw <;> rfl
  | createGroupWithAccess =>
    simp only [perform, createGroupWithAccess_withoutRoom known]
    exact settle_through (·.withoutRoom g h)
  | authorizeJoin =>
    simp only [perform, authorizeJoin_withoutRoom]
    exact settle_through (·.withoutRoom g h)
  | createJoinRequest =>
    simp only [perform, createJoinRequest_withoutRoom]
    exact settle_through (·.withoutRoom g h)
  | updateMemberNickname =>
    simp only [perform, updateMemberNickname_withoutRoom]
    exact settle_through (·.withoutRoom g h)
  | rooms groupId =>
    have rooms : (keep (fun row => elsewhere g h row.groupId row.roomId) store.rooms).filter (·.groupId == groupId) =
        store.rooms.filter (·.groupId == groupId) := by
      refine filter_keep fun row _ picked => elsewhere_of_group ?_
      exact eq_of_beq picked ▸ misses
    simp only [perform, roomsOf, withoutRoom_rooms, rooms]
  | createRoom groupId name draw =>
    have rooms := @createRoomWithVisibility_withoutRoom g h store groupId name .isPublic none draw misses
    simp only [perform, createRoom, rooms]
    exact settle_through (·.withoutRoom g h)
  | roomsForMember => simp only [perform, roomsForMember_withoutRoom misses]
  | createRoomWithVisibility =>
    simp only [perform, createRoomWithVisibility_withoutRoom misses]
    exact settle_through (·.withoutRoom g h)
  | memberCanAccessRoom => simp only [perform, memberCanAccessRoom_withoutRoom misses]
  | rotateGroupToken =>
    simp only [perform, rotateGroupToken_withoutRoom]
    exact settle_through (·.withoutRoom g h)
  | roomMembers => simp only [perform, roomMembersPage_withoutRoom misses]
  | memberCanManageRoom => simp only [perform, memberCanManageRoom, isRoomOwner_withoutRoom misses]
  | setRoomMember =>
    simp only [perform, setRoomMember_withoutRoom misses]
    exact settle_through (·.withoutRoom g h)
  | appendMessage =>
    simp only [perform, appendMessage_withoutRoom misses.1 misses.2]
    exact settle_through (·.withoutRoom g h)
  | history =>
    simp only [perform, history, roomMessages_withoutRoom misses]
    rfl
  | historyBefore =>
    simp only [perform, historyBefore, roomMessages_withoutRoom misses]
    rfl

/-! ## Operations within -/

theorem not_elsewhere : elsewhere g h g h = false := by simp [elsewhere]

theorem withoutRoom_setRoomMember {actor target : Uuid} {role : GroupRole} {included changed : Bool}
    (ok : store.setRoomMember g h actor role target included = .ok (changed, store')) :
    store'.withoutRoom g h = store.withoutRoom g h := by
  obtain ⟨-, -, -, effect⟩ := setRoomMember_ok ok
  split at effect
  · obtain ⟨-, rfl⟩ | ⟨-, -, rfl⟩ := effect
    · rfl
    · simp [withoutRoom, keep_append_other, not_elsewhere]
  · obtain ⟨-, rfl⟩ := effect
    simp only [withoutRoom]
    rw [keep_deleteWhere_other]
    intro rm picked
    simp only [Bool.and_eq_true, beq_iff_eq] at picked
    rw [picked.1.1.1, picked.1.1.2]
    exact not_elsewhere

theorem withoutRoom_appendMessage {messageId : Uuid} {sender : Peer} {sentAtMs : ℕ} {text : String} {draw : Draw}
    {record : ChatRecord}
    (ok : store.appendMessage prims g h messageId sender sentAtMs text draw = .ok (record, store')) :
    store'.withoutRoom g h = store.withoutRoom g h := by
  obtain ⟨encrypted, sequence, -, rfl⟩ := appendMessage_ok ok
  have counted : keep (fun row => elsewhere g h row.groupId row.roomId) (countUp store.rooms g h) =
      keep (fun row => elsewhere g h row.groupId row.roomId) store.rooms := by
    refine keep_updateWhere_other (fun room picked => ?_) (by simp)
    simp only [Bool.and_eq_true, beq_iff_eq] at picked
    rw [picked.1, picked.2]
    exact not_elsewhere
  simp [withoutRoom, counted, messageRow, keep_append_other, not_elsewhere]

/-- **An operation on what the room holds** changes nothing else. -/
theorem withoutRoom_perform_within {op : StoreOp} (within : op.Within g h) :
    (store.perform prims op).2.withoutRoom g h = store.withoutRoom g h := by
  cases op with
  | setRoomMember groupId roomId actor role target included =>
    obtain ⟨rfl, rfl⟩ := within
    rcases settle_cases store .flag
      (store.setRoomMember groupId roomId actor role target included) with ⟨e, same⟩ | ⟨a, s, ok, same⟩
    · rw [perform, same]
    · rw [perform, same]
      exact withoutRoom_setRoomMember ok
  | appendMessage groupId roomId messageId sender sentAtMs text draw =>
    obtain ⟨rfl, rfl⟩ := within
    rcases settle_cases store .record
      (store.appendMessage prims groupId roomId messageId sender sentAtMs text draw) with ⟨e, same⟩ | ⟨a, s, ok, same⟩
    · rw [perform, same]
    · rw [perform, same]
      exact withoutRoom_appendMessage ok
  | memberCanAccessRoom | roomMembers | memberCanManageRoom | history | historyBefore => rfl
  | _ => exact absurd within id

/-! ## The rooms of a group -/

theorem roomsOf_withoutRoom {groupId : Uuid} : (store.withoutRoom g h).roomsOf groupId =
    (store.roomsOf groupId).filter fun room => elsewhere g h groupId room.roomId := by
  have rooms : (keep (fun row => elsewhere g h row.groupId row.roomId) store.rooms).filter (·.groupId == groupId) =
      keep (fun row => elsewhere g h row.groupId row.roomId) (store.rooms.filter (·.groupId == groupId)) :=
    List.filter_comm _ _ _
  rw [roomsOf, roomsOf, withoutRoom_rooms, rooms, ← keep_orderBy, List.filter_map, keep]
  congr 1
  refine List.filter_congr fun row mem => ?_
  have own := (List.mem_filter.1 ((Table.mem_orderBy).1 mem)).2
  rw [eq_of_beq own]
  rfl

end GatewayStore

end LanChat
