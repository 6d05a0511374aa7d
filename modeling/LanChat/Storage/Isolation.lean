import LanChat.Base.Restriction
import LanChat.Storage.Rooms

/-!
# Groups by themselves

One database holds the rows of all groups. A group's share of it is a store of its own
(`ofGroup`): the operations of a group act on the whole store as they act on its share, with the
same replies, and the operations of other groups leave the share as it is. Ids that are
unique in the whole database are the one thing groups have in common (`Apart`).
-/

namespace LanChat

open Table Fallible

/-- The group an operation is for. -/
def StoreOp.groupId : StoreOp → Option Uuid
  | .gatewayId _ | .listGroups | .createGroup _ _ | .createGroupWithAccess _ _ _ => none
  | .group g | .authorizeJoin g _ _ _ | .createJoinRequest g _ _ | .updateMemberNickname g _ _
  | .pendingJoinRequests g | .decideJoinRequest g _ _ | .rooms g | .createRoom g _ _ | .roomsForMember g _
  | .createRoomWithVisibility g _ _ _ _ | .memberCanAccessRoom g _ _ | .groupMembers g _ | .setMemberBanned g _ _
  | .rotateGroupToken g _ _ _ | .roomMembers g _ _ | .memberCanManageRoom g _ _ _ | .setRoomMember g _ _ _ _ _
  | .appendMessage g _ _ _ _ _ _ | .history g _ _ | .historyBefore g _ _ _ => some g

/-- The ids an operation brings are of no other group: those of a new member, of a new join
request, of the owner of a new room and of a message. -/
def StoreOp.Apart (store : GatewayStore) : StoreOp → Prop
  | .authorizeJoin g _ _ draw => ∀ row ∈ store.groupMembers, row.memberId = draw.id → row.groupId = g
  | .createJoinRequest g _ draw => ∀ row ∈ store.joinRequests, row.requestId = draw.id → row.groupId = g
  | .createRoomWithVisibility g _ _ owner _ =>
    ∀ row ∈ store.groupMembers, owner = some row.memberId → row.groupId = g
  | .appendMessage g _ messageId _ _ _ _ => ∀ row ∈ store.groupMessages, row.messageId = messageId → row.groupId = g
  | _ => True

instance (store : GatewayStore) : DecidablePred (StoreOp.Apart store)
  | .authorizeJoin g _ _ draw =>
    inferInstanceAs (Decidable (∀ row ∈ store.groupMembers, row.memberId = draw.id → row.groupId = g))
  | .createJoinRequest g _ draw =>
    inferInstanceAs (Decidable (∀ row ∈ store.joinRequests, row.requestId = draw.id → row.groupId = g))
  | .createRoomWithVisibility g _ _ owner _ =>
    inferInstanceAs (Decidable (∀ row ∈ store.groupMembers, owner = some row.memberId → row.groupId = g))
  | .appendMessage g _ messageId _ _ _ _ =>
    inferInstanceAs (Decidable (∀ row ∈ store.groupMessages, row.messageId = messageId → row.groupId = g))
  | .gatewayId _ | .listGroups | .createGroup _ _ | .createGroupWithAccess _ _ _ | .group _
  | .updateMemberNickname _ _ _ | .pendingJoinRequests _ | .decideJoinRequest _ _ _ | .rooms _ | .createRoom _ _ _
  | .roomsForMember _ _ | .memberCanAccessRoom _ _ _ | .groupMembers _ _ | .setMemberBanned _ _ _
  | .rotateGroupToken _ _ _ _ | .roomMembers _ _ _ | .memberCanManageRoom _ _ _ _ | .setRoomMember _ _ _ _ _ _
  | .history _ _ _ | .historyBefore _ _ _ _ => .isTrue trivial

namespace GatewayStore

variable {prims : Primitives} {store store' : GatewayStore} {g h : Uuid}

/-- A group's share of the store. -/
def ofGroup (store : GatewayStore) (g : Uuid) : GatewayStore :=
  { key := store.key, gatewayMeta := none
    groups := ofOwner GroupRow.groupId g store.groups
    rooms := ofOwner RoomRow.groupId g store.rooms
    groupMessages := ofOwner MessageRow.groupId g store.groupMessages
    joinRequests := ofOwner JoinRequestRow.groupId g store.joinRequests
    groupMembers := ofOwner MemberRow.groupId g store.groupMembers
    roomMembers := ofOwner RoomMemberRow.groupId g store.roomMembers }

@[simp] theorem ofGroup_key : (store.ofGroup g).key = store.key := rfl
@[simp] theorem ofGroup_groups : (store.ofGroup g).groups = ofOwner GroupRow.groupId g store.groups := rfl
@[simp] theorem ofGroup_rooms : (store.ofGroup g).rooms = ofOwner RoomRow.groupId g store.rooms := rfl
@[simp] theorem ofGroup_groupMessages :
    (store.ofGroup g).groupMessages = ofOwner MessageRow.groupId g store.groupMessages := rfl
@[simp] theorem ofGroup_joinRequests :
    (store.ofGroup g).joinRequests = ofOwner JoinRequestRow.groupId g store.joinRequests := rfl
@[simp] theorem ofGroup_groupMembers :
    (store.ofGroup g).groupMembers = ofOwner MemberRow.groupId g store.groupMembers := rfl
@[simp] theorem ofGroup_roomMembers :
    (store.ofGroup g).roomMembers = ofOwner RoomMemberRow.groupId g store.roomMembers := rfl

/-! ## Queries of a share -/

@[simp] theorem findGroup_ofGroup : (store.ofGroup g).findGroup g = store.findGroup g :=
  find?_ofOwner (by simp)

@[simp] theorem hasGroup_ofGroup : (store.ofGroup g).hasGroup g = store.hasGroup g :=
  any_ofOwner (by simp)

@[simp] theorem hasRoom_ofGroup {r : String} : (store.ofGroup g).hasRoom g r = store.hasRoom g r :=
  any_ofOwner (by simp +contextual)

@[simp] theorem findRoom_ofGroup {r : String} : (store.ofGroup g).findRoom g r = store.findRoom g r :=
  find?_ofOwner (by simp +contextual)

theorem grantsAccess_ofGroup {room : RoomRow} (own : room.groupId = g) (memberId : Uuid) :
    (store.ofGroup g).grantsAccess room memberId = store.grantsAccess room memberId := by
  subst own
  simp only [grantsAccess, ofGroup_roomMembers, ofGroup_groupMembers]
  rw [any_ofOwner (by simp +contextual), any_ofOwner (by simp +contextual)]

@[simp] theorem isPrivateRoom_ofGroup {r : String} : (store.ofGroup g).isPrivateRoom g r = store.isPrivateRoom g r := by
  rw [isPrivateRoom, findRoom_ofGroup, isPrivateRoom]

@[simp] theorem isRoomOwner_ofGroup {r : String} {memberId : Uuid} :
    (store.ofGroup g).isRoomOwner g r memberId = store.isRoomOwner g r memberId :=
  any_ofOwner (by simp +contextual)

@[simp] theorem roomMessages_ofGroup {r : String} : (store.ofGroup g).roomMessages g r = store.roomMessages g r :=
  filter_ofOwner (by simp +contextual)

theorem roomsForMember_ofGroup {memberId : Uuid} :
    (store.ofGroup g).roomsForMember g memberId = store.roomsForMember g memberId := by
  have rooms : (ofOwner RoomRow.groupId g store.rooms).filter (fun r => r.groupId == g && store.grantsAccess r memberId) =
      store.rooms.filter fun r => r.groupId == g && store.grantsAccess r memberId :=
    filter_ofOwner (by simp +contextual)
  rw [roomsForMember, roomsForMember, ofGroup_rooms, ← rooms]
  congr 2
  refine List.filter_congr fun room mem => ?_
  rw [grantsAccess_ofGroup (mem_ofOwner.1 mem).2]

/-- An operation on a view of the store whose result is seen through that view. -/
theorem settle_through {α : Type} (view : GatewayStore → GatewayStore) {reply : α → StoreReply}
    {result : Except StoreError (α × GatewayStore)} :
    (view store).settle reply (through view result) =
      ((store.settle reply result).1, view (store.settle reply result).2) := by
  cases result <;> rfl

/-! ## Insertions and updates of a share -/

theorem insertRoom_ofGroup {row : RoomRow} (own : row.groupId = g) :
    (store.ofGroup g).insertRoom row = (store.insertRoom row).map (·.ofGroup g) := by
  subst own
  simp only [insertRoom, hasGroup_ofGroup, ofGroup_rooms]
  rw [any_ofOwner (by simp +contextual)]
  split
  · rfl
  · simp [Except.map, ofGroup, ofOwner_append_own]

theorem insertMember_ofGroup {row : MemberRow} (own : row.groupId = g)
    (apart : ∀ m ∈ store.groupMembers, m.memberId = row.memberId → m.groupId = g) :
    (store.ofGroup g).insertMember row = (store.insertMember row).map (·.ofGroup g) := by
  subst own
  simp only [insertMember, hasGroup_ofGroup, ofGroup_groupMembers]
  rw [any_ofOwner (by
    intro m mem
    simp only [Bool.or_eq_true, Bool.and_eq_true, beq_iff_eq]
    rintro (same | ⟨inGroup, -⟩)
    · exact apart m mem same
    · exact inGroup)]
  split
  · rfl
  · simp [Except.map, ofGroup, ofOwner_append_own]

theorem insertJoinRequest_ofGroup {row : JoinRequestRow} (own : row.groupId = g)
    (apart : ∀ r ∈ store.joinRequests, r.requestId = row.requestId → r.groupId = g) :
    (store.ofGroup g).insertJoinRequest row = (store.insertJoinRequest row).map (·.ofGroup g) := by
  subst own
  simp only [insertJoinRequest, hasGroup_ofGroup, ofGroup_joinRequests]
  rw [any_ofOwner (by
    intro r mem
    simp only [Bool.or_eq_true, Bool.and_eq_true, beq_iff_eq]
    rintro (same | ⟨inGroup, -⟩)
    · exact apart r mem same
    · exact inGroup)]
  split
  · rfl
  · simp [Except.map, ofGroup, ofOwner_append_own]

theorem insertRoomMember_ofGroup {row : RoomMemberRow} (own : row.groupId = g)
    (known : (ofOwner MemberRow.groupId g store.groupMembers).any (·.memberId == row.memberId) =
      store.groupMembers.any (·.memberId == row.memberId)) :
    (store.ofGroup g).insertRoomMember row = (store.insertRoomMember row).map (·.ofGroup g) := by
  subst own
  simp only [insertRoomMember, hasRoom_ofGroup, ofGroup_groupMembers, ofGroup_roomMembers, known]
  rw [any_ofOwner (by simp +contextual)]
  split
  · rfl
  · simp [Except.map, ofGroup, ofOwner_append_own]

theorem insertMessage_ofGroup {row : MessageRow} (own : row.groupId = g)
    (apart : ∀ m ∈ store.groupMessages, m.messageId = row.messageId → m.groupId = g) :
    (store.ofGroup g).insertMessage row = (store.insertMessage row).map (·.ofGroup g) := by
  subst own
  simp only [insertMessage, hasRoom_ofGroup, ofGroup_groupMessages]
  rw [any_ofOwner (by
    intro m mem
    simp only [Bool.or_eq_true, Bool.and_eq_true, beq_iff_eq]
    rintro (same | ⟨⟨inGroup, -⟩, -⟩)
    · exact apart m mem same
    · exact inGroup)]
  split
  · rfl
  · simp [Except.map, ofGroup, ofOwner_append_own]

theorem updateCredentialHash_ofGroup {hash : List UInt8} {selects : MemberRow → Bool}
    (within : ∀ m, selects m = true → m.groupId = g) :
    (store.ofGroup g).updateCredentialHash g hash selects =
      (store.updateCredentialHash g hash selects).map (·.ofGroup g) := by
  have picked : (ofOwner MemberRow.groupId g store.groupMembers).any selects = store.groupMembers.any selects :=
    any_ofOwner fun m _ => within m
  have clashes : (ofOwner MemberRow.groupId g store.groupMembers).any
      (fun m => !selects m && m.groupId == g && m.credentialHash == hash) =
        store.groupMembers.any fun m => !selects m && m.groupId == g && m.credentialHash == hash :=
    any_ofOwner (by simp +contextual)
  simp only [updateCredentialHash, ofGroup_groupMembers, picked, clashes]
  split
  · rfl
  · simp only [Except.map, ofGroup]
    rw [ofOwner_updateWhere (by simp)]

theorem setNickname_ofGroup {memberId : Uuid} {nickname : String} :
    (store.ofGroup g).setNickname g memberId nickname = (store.setNickname g memberId nickname).ofGroup g := by
  simp only [setNickname, ofGroup]
  rw [ofOwner_updateWhere (by simp)]

/-! ## Operations of a share -/

theorem insertGroupMember_ofGroup {token : String} {role : GroupRole} {nickname : String} {draw : Draw}
    (apart : ∀ m ∈ store.groupMembers, m.memberId = draw.id → m.groupId = g) :
    (store.ofGroup g).insertGroupMember prims g token role nickname draw =
      through (·.ofGroup g) (store.insertGroupMember prims g token role nickname draw) :=
  bind_same fun _ _ => bind_view (insertMember_ofGroup rfl apart) fun _ _ => rfl

theorem issueMember_ofGroup {nickname : String} {draw : Draw}
    (apart : ∀ m ∈ store.groupMembers, m.memberId = draw.id → m.groupId = g) :
    (store.ofGroup g).issueMember prims g nickname draw = through (·.ofGroup g) (store.issueMember prims g nickname draw) := by
  have members : (ofOwner MemberRow.groupId g store.groupMembers).countP (·.groupId == g) =
      store.groupMembers.countP (·.groupId == g) := countP_ofOwner (by simp)
  simp only [issueMember, ofGroup_groupMembers, members]
  split
  · rfl
  · exact bind_through (insertGroupMember_ofGroup apart) fun _ _ _ => rfl

theorem authorizeRequest_ofGroup {token nickname : String} {hash : List UInt8} {draw : Draw}
    (apart : ∀ m ∈ store.groupMembers, m.memberId = draw.id → m.groupId = g) :
    (store.ofGroup g).authorizeRequest prims g token nickname hash draw =
      through (·.ofGroup g) (store.authorizeRequest prims g token nickname hash draw) := by
  have requests : (ofOwner JoinRequestRow.groupId g store.joinRequests).find?
      (fun r => r.groupId == g && r.requestTokenHash == hash) =
        store.joinRequests.find? fun r => r.groupId == g && r.requestTokenHash == hash :=
    find?_ofOwner (by simp +contextual)
  simp only [authorizeRequest, ofGroup_joinRequests, requests]
  split
  · rfl
  · split
    · refine bind_through (issueMember_ofGroup apart) fun authorization s _ => ?_
      simp only [through_ok, ofGroup]
      rw [ofOwner_deleteWhere]
    · rfl
    · rfl

theorem authorizeByMode_ofGroup {row : GroupRow} (own : row.groupId = g) {credential : Option String}
    {hash : Option (List UInt8)} {nickname : String} {draw : Draw}
    (apart : ∀ m ∈ store.groupMembers, m.memberId = draw.id → m.groupId = g) :
    (store.ofGroup g).authorizeByMode prims row credential hash nickname draw =
      through (·.ofGroup g) (store.authorizeByMode prims row credential hash nickname draw) := by
  subst own
  simp only [authorizeByMode]
  split
  · rfl
  · exact issueMember_ofGroup apart
  · rfl
  · split
    · exact issueMember_ofGroup apart
    · rfl
  · exact authorizeRequest_ofGroup apart
  · rfl

theorem authorizeJoin_ofGroup {credential : Option String} {nickname : String} {draw : Draw}
    (apart : ∀ m ∈ store.groupMembers, m.memberId = draw.id → m.groupId = g) :
    (store.ofGroup g).authorizeJoin prims g credential nickname draw =
      through (·.ofGroup g) (store.authorizeJoin prims g credential nickname draw) := by
  simp only [authorizeJoin, findGroup_ofGroup]
  split
  · rfl
  · rename_i row found
    have own := (findGroup_some found).2
    split
    · exact authorizeByMode_ofGroup own apart
    · rename_i token
      refine bind_same fun hash _ => ?_
      have members : (ofOwner MemberRow.groupId g store.groupMembers).find?
          (fun m => m.groupId == g && m.credentialHash == hash) =
            store.groupMembers.find? fun m => m.groupId == g && m.credentialHash == hash :=
        find?_ofOwner (by simp +contextual)
      simp only [ofGroup_groupMembers, members]
      split
      · split
        · rfl
        · rw [setNickname_ofGroup, through_ok]
      · split
        · exact bind_through (insertGroupMember_ofGroup apart) fun _ _ _ => rfl
        · exact authorizeByMode_ofGroup own apart

theorem createJoinRequest_ofGroup {nickname : String} {draw : Draw}
    (apart : ∀ r ∈ store.joinRequests, r.requestId = draw.id → r.groupId = g) :
    (store.ofGroup g).createJoinRequest prims g nickname draw =
      through (·.ofGroup g) (store.createJoinRequest prims g nickname draw) := by
  have pending : (ofOwner JoinRequestRow.groupId g store.joinRequests).countP
      (fun r => r.groupId == g && r.status == .pending) =
        store.joinRequests.countP fun r => r.groupId == g && r.status == .pending :=
    countP_ofOwner (by simp +contextual)
  simp only [createJoinRequest, findGroup_ofGroup, ofGroup_joinRequests, pending]
  refine bind_same fun _ _ => bind_same fun _ _ => bind_same fun _ _ => ?_
  exact bind_view (insertJoinRequest_ofGroup rfl apart) fun _ _ => rfl

theorem rotateGroupToken_ofGroup {actor : Uuid} {kind : GroupTokenKind} {draw : Draw} :
    (store.ofGroup g).rotateGroupToken prims g actor kind draw =
      through (·.ofGroup g) (store.rotateGroupToken prims g actor kind draw) := by
  have members : (ofOwner MemberRow.groupId g store.groupMembers).find?
      (fun m => m.groupId == g && m.memberId == actor && m.status == .active) =
        store.groupMembers.find? fun m => m.groupId == g && m.memberId == actor && m.status == .active :=
    find?_ofOwner (by simp +contextual)
  have groups : (ofOwner GroupRow.groupId g store.groups).countP
      (fun row => row.groupId == g && row.accessMode == .invite) =
        store.groups.countP fun row => row.groupId == g && row.accessMode == .invite :=
    countP_ofOwner (by simp +contextual)
  simp only [rotateGroupToken, ofGroup_groupMembers, members, ofGroup_groups, groups]
  refine bind_same fun _ _ => bind_same fun hash _ => ?_
  split
  · refine bind_view (updateCredentialHash_ofGroup (by simp +contextual)) fun s _ => ?_
    have rows : (ofOwner MemberRow.groupId g s.groupMembers).countP (fun m => m.groupId == g && m.memberId == actor &&
        m.role == .member && m.status == .active) = s.groupMembers.countP fun m => m.groupId == g &&
          m.memberId == actor && m.role == .member && m.status == .active := countP_ofOwner (by simp +contextual)
    rw [ofGroup_groupMembers, rows]
    exact bind_same fun _ _ => rfl
  · refine bind_view ?_ fun _ _ => rfl
    refine Eq.trans ?_ (updateCredentialHash_ofGroup (by simp +contextual))
    simp only [ofGroup]
    rw [ofOwner_updateWhere (by simp)]
  · refine bind_same fun _ _ => ?_
    simp only [through_ok, ofGroup]
    rw [ofOwner_updateWhere (by simp)]

theorem createRoomWithVisibility_ofGroup {name : String} {visibility : RoomVisibility} {owner : Option Uuid} {draw : Draw}
    (apart : ∀ row ∈ store.groupMembers, owner = some row.memberId → row.groupId = g) :
    (store.ofGroup g).createRoomWithVisibility g name visibility owner draw =
      through (·.ofGroup g) (store.createRoomWithVisibility g name visibility owner draw) := by
  have names : (ofOwner RoomRow.groupId g store.rooms).any (fun r => r.groupId == g && nocase r.name == nocase name) =
      store.rooms.any fun r => r.groupId == g && nocase r.name == nocase name := any_ofOwner (by simp +contextual)
  simp only [createRoomWithVisibility, ofGroup_rooms, names]
  refine bind_same fun _ _ => bind_same fun _ _ => bind_view (insertRoom_ofGroup rfl) fun s inserted => ?_
  have members : s.groupMembers = store.groupMembers := by
    obtain ⟨-, -, -, rfl⟩ := insertRoom_ok inserted
    rfl
  split
  · refine bind_view (insertRoomMember_ofGroup rfl (any_ofOwner fun row mem same => ?_)) fun _ _ => rfl
    rw [members] at mem
    exact apart row mem (congrArg some (eq_of_beq same).symm)
  · rfl

theorem setRoomMember_ofGroup {r : String} {actor target : Uuid} {role : GroupRole} {included : Bool} :
    (store.ofGroup g).setRoomMember g r actor role target included =
      through (·.ofGroup g) (store.setRoomMember g r actor role target included) := by
  have members : (ofOwner MemberRow.groupId g store.groupMembers).any
      (fun m => m.groupId == g && m.memberId == target && m.status == .active && m.role != .admin) =
        store.groupMembers.any fun m => m.groupId == g && m.memberId == target && m.status == .active &&
          m.role != .admin := any_ofOwner (by simp +contextual)
  have present : (ofOwner RoomMemberRow.groupId g store.roomMembers).any
      (fun rm => rm.groupId == g && rm.roomId == r && rm.memberId == target) =
        store.roomMembers.any fun rm => rm.groupId == g && rm.roomId == r && rm.memberId == target :=
    any_ofOwner (by simp +contextual)
  have rows : (ofOwner RoomMemberRow.groupId g store.roomMembers).countP
      (fun rm => rm.groupId == g && rm.roomId == r && rm.memberId == target && rm.role == .member) =
        store.roomMembers.countP fun rm => rm.groupId == g && rm.roomId == r && rm.memberId == target &&
          rm.role == .member := countP_ofOwner (by simp +contextual)
  simp only [setRoomMember, isPrivateRoom_ofGroup, isRoomOwner_ofGroup, ofGroup_groupMembers, members,
    ofGroup_roomMembers, present, rows]
  refine bind_same fun _ _ => bind_same fun _ _ => bind_same fun _ active => ?_
  split
  · split
    · rfl
    · refine bind_view (insertRoomMember_ofGroup rfl ?_) fun _ _ => rfl
      -- the target is a member of the group
      obtain ⟨m, mem, isTarget⟩ := List.any_eq_true.1 (ensure_eq_ok.1 active)
      simp only [Bool.and_eq_true, beq_iff_eq] at isTarget
      have here : m.memberId == target := beq_iff_eq.2 isTarget.1.1.2
      rw [List.any_eq_true.2 ⟨m, mem, here⟩, List.any_eq_true.2 ⟨m, mem_ofOwner.2 ⟨mem, isTarget.1.1.1⟩, here⟩]
  · simp only [through_ok, ofGroup]
    rw [ofOwner_deleteWhere]

theorem appendMessage_ofGroup {r : String} {messageId : Uuid} {sender : Peer} {sentAtMs : ℕ} {text : String}
    {draw : Draw} (apart : ∀ row ∈ store.groupMessages, row.messageId = messageId → row.groupId = g) :
    (store.ofGroup g).appendMessage prims g r messageId sender sentAtMs text draw =
      through (·.ofGroup g) (store.appendMessage prims g r messageId sender sentAtMs text draw) := by
  have counts : (store.ofGroup g).takeSequence g r = through (·.ofGroup g) (store.takeSequence g r) := by
    simp only [takeSequence, findRoom_ofGroup]
    split
    · rfl
    · split
      · rfl
      · simp only [through_ok, ofGroup]
        rw [ofOwner_updateWhere (by simp)]
  refine bind_through counts fun sequence s taken => ?_
  have same : s.groupMessages = store.groupMessages := by
    simp only [takeSequence] at taken
    split at taken
    · cases taken
    · split at taken <;> cases taken
      rfl
  refine bind_same fun encrypted _ => bind_view (insertMessage_ofGroup rfl ?_) fun _ _ => rfl
  rw [same]
  exact apart

theorem updateMemberNickname_ofGroup {memberId : Uuid} {nickname : String} :
    ((store.ofGroup g).updateMemberNickname g memberId nickname).map ((), ·) =
      through (·.ofGroup g) ((store.updateMemberNickname g memberId nickname).map ((), ·)) := by
  have members : (ofOwner MemberRow.groupId g store.groupMembers).countP
      (fun m => m.memberId == memberId && m.groupId == g) =
        store.groupMembers.countP fun m => m.memberId == memberId && m.groupId == g :=
    countP_ofOwner (by simp +contextual)
  simp only [updateMemberNickname, ofGroup_groupMembers, members, setNickname_ofGroup]
  cases ensure (decide (store.groupMembers.countP (fun m => m.memberId == memberId && m.groupId == g) = 1))
    "member not found" <;> rfl

theorem pendingJoinRequests_ofGroup : (store.ofGroup g).pendingJoinRequests g = store.pendingJoinRequests g := by
  have requests : (ofOwner JoinRequestRow.groupId g store.joinRequests).filter
      (fun r => r.groupId == g && r.status == .pending) =
        store.joinRequests.filter fun r => r.groupId == g && r.status == .pending :=
    filter_ofOwner (by simp +contextual)
  simp only [pendingJoinRequests, ofGroup_joinRequests, requests]

theorem decideJoinRequest_ofGroup {requestId : Uuid} {approve : Bool} :
    (store.ofGroup g).decideJoinRequest g requestId approve =
      ((store.decideJoinRequest g requestId approve).1, (store.decideJoinRequest g requestId approve).2.ofGroup g) := by
  have requests : (ofOwner JoinRequestRow.groupId g store.joinRequests).countP
      (fun r => r.groupId == g && r.requestId == requestId && r.status == .pending) =
        store.joinRequests.countP fun r => r.groupId == g && r.requestId == requestId && r.status == .pending :=
    countP_ofOwner (by simp +contextual)
  simp only [decideJoinRequest, requests, ofGroup]
  rw [ofOwner_updateWhere (by simp)]

theorem roomsOf_ofGroup : (store.ofGroup g).roomsOf g = store.roomsOf g := by
  have rooms : (ofOwner RoomRow.groupId g store.rooms).filter (·.groupId == g) =
      store.rooms.filter (·.groupId == g) := filter_ofOwner (by simp)
  simp only [roomsOf, ofGroup_rooms, rooms]

theorem memberCanAccessRoom_ofGroup {r : String} {memberId : Uuid} :
    (store.ofGroup g).memberCanAccessRoom g r memberId = store.memberCanAccessRoom g r memberId := by
  rw [memberCanAccessRoom, memberCanAccessRoom, Bool.eq_iff_iff, List.any_eq_true, List.any_eq_true]
  simp only [Bool.and_eq_true, beq_iff_eq]
  constructor
  · rintro ⟨room, mem, same, access⟩
    exact ⟨room, (mem_ofOwner.1 mem).1, same, by rwa [← grantsAccess_ofGroup same.1]⟩
  · rintro ⟨room, mem, same, access⟩
    exact ⟨room, mem_ofOwner.2 ⟨mem, same.1⟩, same, by rwa [grantsAccess_ofGroup same.1]⟩

theorem groupMembersPage_ofGroup {offset : ℕ} :
    (store.ofGroup g).groupMembersPage g offset = store.groupMembersPage g offset := by
  have members : (ofOwner MemberRow.groupId g store.groupMembers).filter (·.groupId == g) =
      store.groupMembers.filter (·.groupId == g) := filter_ofOwner (by simp)
  simp only [groupMembersPage, ofGroup_groupMembers, members]

theorem setMemberBanned_ofGroup {memberId : Uuid} {banned : Bool} :
    (store.ofGroup g).setMemberBanned g memberId banned =
      ((store.setMemberBanned g memberId banned).1, (store.setMemberBanned g memberId banned).2.ofGroup g) := by
  have members : (ofOwner MemberRow.groupId g store.groupMembers).countP
      (fun m => m.groupId == g && m.memberId == memberId && m.role != .admin) =
        store.groupMembers.countP fun m => m.groupId == g && m.memberId == memberId && m.role != .admin :=
    countP_ofOwner (by simp +contextual)
  simp only [setMemberBanned, members, ofGroup]
  rw [ofOwner_updateWhere (by simp)]

theorem roomMembersPage_ofGroup {r : String} {offset : ℕ} :
    (store.ofGroup g).roomMembersPage g r offset = store.roomMembersPage g r offset := by
  have members : (ofOwner MemberRow.groupId g store.groupMembers).filter
      (fun gm => gm.groupId == g && gm.status == .active) =
        store.groupMembers.filter fun gm => gm.groupId == g && gm.status == .active :=
    filter_ofOwner (by simp +contextual)
  have rows : ((store.groupMembers.filter fun gm => gm.groupId == g && gm.status == .active).map fun gm =>
      (gm, (ofOwner RoomMemberRow.groupId g store.roomMembers).find? fun rm => rm.groupId == gm.groupId &&
        rm.memberId == gm.memberId && rm.roomId == r)) =
      (store.groupMembers.filter fun gm => gm.groupId == g && gm.status == .active).map fun gm =>
        (gm, store.roomMembers.find? fun rm => rm.groupId == gm.groupId && rm.memberId == gm.memberId &&
          rm.roomId == r) := by
    refine List.map_congr_left fun gm mem => ?_
    have own := (List.mem_filter.1 mem).2
    simp only [Bool.and_eq_true, beq_iff_eq] at own
    rw [find?_ofOwner]
    intro rm _ picked
    simp only [Bool.and_eq_true, beq_iff_eq] at picked
    exact picked.1.1.trans own.1
  simp only [roomMembersPage, isPrivateRoom_ofGroup, ofGroup_groupMembers, ofGroup_roomMembers, members, rows]

/-! ## Operations of other groups -/

section
variable {nickname : String} {draw : Draw} {authorization : JoinAuthorization} (other : h ≠ g)
include other

theorem ofGroup_setNickname_other {memberId : Uuid} :
    (store.setNickname h memberId nickname).ofGroup g = store.ofGroup g := by
  simp only [setNickname, ofGroup]
  rw [ofOwner_updateWhere_other ?_ (by simp)]
  intro m picked
  simp only [Bool.and_eq_true, beq_iff_eq] at picked
  exact picked.2 ▸ other

theorem ofGroup_issueMember_other (ok : store.issueMember prims h nickname draw = .ok (authorization, store')) :
    store'.ofGroup g = store.ofGroup g := by
  simp only [issueMember] at ok
  split at ok
  · cases ok
    rfl
  · simp only [insertGroupMember, bind_eq_ok] at ok
    obtain ⟨⟨memberId, s⟩, ⟨hash, -, s', inserted, issued⟩, ok⟩ := ok
    obtain ⟨-, -, rfl⟩ := insertMember_ok inserted
    cases issued
    cases ok
    simp [ofGroup, ofOwner_append_other, other]

theorem ofGroup_authorizeRequest_other {token : String} {hash : List UInt8}
    (ok : store.authorizeRequest prims h token nickname hash draw = .ok (authorization, store')) :
    store'.ofGroup g = store.ofGroup g := by
  simp only [authorizeRequest] at ok
  split at ok
  · cases ok
    rfl
  · split at ok
    · obtain ⟨⟨issued, s⟩, admitted, ok⟩ := bind_eq_ok.1 ok
      cases ok
      rw [← ofGroup_issueMember_other other admitted]
      simp only [ofGroup]
      rw [ofOwner_deleteWhere_other]
      intro r picked
      simp only [Bool.and_eq_true, beq_iff_eq] at picked
      exact picked.1 ▸ other
    · cases ok
      rfl
    · cases ok
      rfl

theorem ofGroup_authorizeByMode_other {row : GroupRow} (own : row.groupId = h) {credential : Option String}
    {hash : Option (List UInt8)}
    (ok : store.authorizeByMode prims row credential hash nickname draw = .ok (authorization, store')) :
    store'.ofGroup g = store.ofGroup g := by
  subst own
  simp only [authorizeByMode] at ok
  split at ok
  · cases ok
    rfl
  · exact ofGroup_issueMember_other other ok
  · cases ok
    rfl
  · split at ok
    · exact ofGroup_issueMember_other other ok
    · cases ok
      rfl
  · exact ofGroup_authorizeRequest_other other ok
  · cases ok
    rfl

theorem ofGroup_authorizeJoin_other {credential : Option String}
    (ok : store.authorizeJoin prims h credential nickname draw = .ok (authorization, store')) :
    store'.ofGroup g = store.ofGroup g := by
  simp only [authorizeJoin] at ok
  split at ok
  · cases ok
  · rename_i row found
    have own := (findGroup_some found).2
    split at ok
    · exact ofGroup_authorizeByMode_other other own ok
    · obtain ⟨hash, -, ok⟩ := bind_eq_ok.1 ok
      split at ok
      · split at ok
        · cases ok
          rfl
        · cases ok
          exact ofGroup_setNickname_other other
      · split at ok
        · simp only [insertGroupMember, bind_eq_ok] at ok
          obtain ⟨⟨memberId, s⟩, ⟨hash, -, s', inserted, issued⟩, ok⟩ := ok
          obtain ⟨-, -, rfl⟩ := insertMember_ok inserted
          cases issued
          cases ok
          simp [ofGroup, ofOwner_append_other, other]
        · exact ofGroup_authorizeByMode_other other own ok

theorem ofGroup_createJoinRequest_other {request : Uuid × String}
    (ok : store.createJoinRequest prims h nickname draw = .ok (request, store')) :
    store'.ofGroup g = store.ofGroup g := by
  simp only [createJoinRequest, bind_eq_ok] at ok
  obtain ⟨-, -, -, -, hash, -, s, inserted, ok⟩ := ok
  cases ok
  obtain ⟨-, rfl⟩ := insertJoinRequest_ok inserted
  simp [ofGroup, ofOwner_append_other, other]

theorem ofGroup_rotateGroupToken_other {actor : Uuid} {kind : GroupTokenKind} {token : String}
    (ok : store.rotateGroupToken prims h actor kind draw = .ok (token, store')) :
    store'.ofGroup g = store.ofGroup g := by
  obtain ⟨hash, -, -, -, changed⟩ := rotateGroupToken_ok ok
  cases kind with
  | member =>
    simp only at changed
    subst changed
    simp only [ofGroup]
    rw [ofOwner_updateWhere_other ?_ (by simp)]
    intro m picked
    simp only [Bool.and_eq_true, beq_iff_eq] at picked
    exact picked.1.1.1 ▸ other
  | admin =>
    simp only at changed
    subst changed
    simp only [ofGroup]
    rw [ofOwner_updateWhere_other ?_ (by simp), ofOwner_updateWhere_other ?_ (by simp)]
    · intro m picked
      simp only [Bool.and_eq_true, beq_iff_eq] at picked
      exact picked.1.1 ▸ other
    · intro row picked
      exact eq_of_beq picked ▸ other
  | invite =>
    simp only at changed
    subst changed
    simp only [ofGroup]
    rw [ofOwner_updateWhere_other ?_ (by simp)]
    intro row picked
    simp only [Bool.and_eq_true, beq_iff_eq] at picked
    exact picked.1 ▸ other

theorem ofGroup_createRoomWithVisibility_other {name : String} {visibility : RoomVisibility} {owner : Option Uuid}
    {room : RoomSummary} (ok : store.createRoomWithVisibility h name visibility owner draw = .ok (room, store')) :
    store'.ofGroup g = store.ofGroup g := by
  obtain ⟨-, -, -, -, -, rfl⟩ := createRoomWithVisibility_ok ok
  have noOwner : ofOwner RoomMemberRow.groupId g (store.roomMembers ++ ownerRows h draw.id.simple owner visibility) =
      ofOwner RoomMemberRow.groupId g store.roomMembers := by
    rcases owner with - | memberId
    · simp [ownerRows]
    · cases visibility with
      | isPublic => simp [ownerRows]
      | isPrivate => exact ofOwner_append_other other
  simp [ofGroup, ofOwner_append_other, other, noOwner]

theorem ofGroup_setRoomMember_other {r : String} {actor target : Uuid} {role : GroupRole} {included changed : Bool}
    (ok : store.setRoomMember h r actor role target included = .ok (changed, store')) :
    store'.ofGroup g = store.ofGroup g := by
  obtain ⟨-, -, -, effect⟩ := setRoomMember_ok ok
  split at effect
  · obtain ⟨-, rfl⟩ | ⟨-, -, rfl⟩ := effect
    · rfl
    · simp [ofGroup, ofOwner_append_other, other]
  · obtain ⟨-, rfl⟩ := effect
    simp only [ofGroup]
    rw [ofOwner_deleteWhere_other]
    intro rm picked
    simp only [Bool.and_eq_true, beq_iff_eq] at picked
    exact picked.1.1.1 ▸ other

theorem ofGroup_appendMessage_other {r : String} {messageId : Uuid} {sender : Peer} {sentAtMs : ℕ} {text : String}
    {record : ChatRecord} (ok : store.appendMessage prims h r messageId sender sentAtMs text draw = .ok (record, store')) :
    store'.ofGroup g = store.ofGroup g := by
  obtain ⟨encrypted, sequence, -, rfl⟩ := appendMessage_ok ok
  simp only [ofGroup, countUp]
  rw [ofOwner_updateWhere_other ?_ (by simp), ofOwner_append_other other]
  intro room picked
  simp only [Bool.and_eq_true, beq_iff_eq] at picked
  exact picked.1 ▸ other

end

theorem ofGroup_createGroupWithAccess {name : String} {mode : GroupAccessMode} {draw : Draw} {created : CreatedGroup}
    (known : store.hasGroup g = true) (ok : store.createGroupWithAccess prims name mode draw = .ok (created, store')) :
    store'.ofGroup g = store.ofGroup g := by
  obtain ⟨adminHash, inviteHash, -, -, -, -, free, -, -, rfl⟩ := createGroupWithAccess_ok ok
  obtain ⟨row, mem, rfl⟩ := hasGroup_iff.1 known
  have other : draw.id ≠ row.groupId := (free row mem).1.symm
  simp [ofGroup, ofOwner_append_other, other]

/-! ## Runs -/

/-- **A group's operation** does on the whole store what it does on the group's share. -/
theorem perform_ofGroup {op : StoreOp} (own : op.groupId = some g) (apart : op.Apart store) :
    (store.ofGroup g).perform prims op =
      ((store.perform prims op).1, (store.perform prims op).2.ofGroup g) := by
  cases op with
  | gatewayId | listGroups | createGroup | createGroupWithAccess => cases own
  | group =>
    cases own
    simp only [perform, group, findGroup_ofGroup]
  | authorizeJoin =>
    cases own
    simp only [perform, authorizeJoin_ofGroup apart]
    exact settle_through (·.ofGroup g)
  | createJoinRequest =>
    cases own
    simp only [perform, createJoinRequest_ofGroup apart]
    exact settle_through (·.ofGroup g)
  | updateMemberNickname =>
    cases own
    simp only [perform, updateMemberNickname_ofGroup]
    exact settle_through (·.ofGroup g)
  | pendingJoinRequests =>
    cases own
    simp only [perform, pendingJoinRequests_ofGroup]
  | decideJoinRequest =>
    cases own
    simp only [perform, decideJoinRequest_ofGroup]
  | rooms =>
    cases own
    simp only [perform, roomsOf_ofGroup]
  | createRoom _ name draw =>
    cases own
    have rooms := @createRoomWithVisibility_ofGroup store g name .isPublic none draw (by simp)
    simp only [perform, createRoom, rooms]
    exact settle_through (·.ofGroup g)
  | roomsForMember =>
    cases own
    simp only [perform, roomsForMember_ofGroup]
  | createRoomWithVisibility =>
    cases own
    simp only [perform, createRoomWithVisibility_ofGroup apart]
    exact settle_through (·.ofGroup g)
  | memberCanAccessRoom =>
    cases own
    simp only [perform, memberCanAccessRoom_ofGroup]
  | groupMembers =>
    cases own
    simp only [perform, groupMembersPage_ofGroup]
  | setMemberBanned =>
    cases own
    simp only [perform, setMemberBanned_ofGroup]
  | rotateGroupToken =>
    cases own
    simp only [perform, rotateGroupToken_ofGroup]
    exact settle_through (·.ofGroup g)
  | roomMembers =>
    cases own
    simp only [perform, roomMembersPage_ofGroup]
  | memberCanManageRoom =>
    cases own
    simp only [perform, memberCanManageRoom, isRoomOwner_ofGroup]
  | setRoomMember =>
    cases own
    simp only [perform, setRoomMember_ofGroup]
    exact settle_through (·.ofGroup g)
  | appendMessage =>
    cases own
    simp only [perform, appendMessage_ofGroup apart]
    exact settle_through (·.ofGroup g)
  | history =>
    cases own
    simp only [perform, history, roomMessages_ofGroup]
    rfl
  | historyBefore =>
    cases own
    simp only [perform, historyBefore, roomMessages_ofGroup]
    rfl

theorem ofGroup_settle {α : Type} {reply : α → StoreReply} {result : Except StoreError (α × GatewayStore)}
    (same : ∀ a s, result = .ok (a, s) → s.ofGroup g = store.ofGroup g) :
    (store.settle reply result).2.ofGroup g = store.ofGroup g := by
  cases result with
  | error e => rfl
  | ok success => exact same success.1 success.2 rfl

/-- **Any other operation** leaves the share of a group as it is. -/
theorem ofGroup_perform_other {op : StoreOp} (other : op.groupId ≠ some g) (known : store.hasGroup g = true) :
    (store.perform prims op).2.ofGroup g = store.ofGroup g := by
  have elsewhere : ∀ {h}, op.groupId = some h → h ≠ g := by
    rintro h own rfl
    exact other own
  cases op with
  | gatewayId draw =>
    simp only [perform, gatewayId]
    split <;> rfl
  | createGroup name draw =>
    refine ofGroup_settle fun a s ok => ?_
    simp only [createGroup] at ok
    cases creation : store.createGroupWithAccess prims name .isPublic draw with
    | error e => simp [creation, Except.map] at ok
    | ok success =>
      simp only [creation, Except.map, Except.ok.injEq, Prod.mk.injEq] at ok
      rw [← ok.2]
      exact ofGroup_createGroupWithAccess known creation
  | createGroupWithAccess => exact ofGroup_settle fun _ _ ok => ofGroup_createGroupWithAccess known ok
  | authorizeJoin => exact ofGroup_settle fun _ _ ok => ofGroup_authorizeJoin_other (elsewhere rfl) ok
  | createJoinRequest => exact ofGroup_settle fun _ _ ok => ofGroup_createJoinRequest_other (elsewhere rfl) ok
  | updateMemberNickname h memberId nickname =>
    refine ofGroup_settle fun _ s ok => ?_
    cases updated : store.updateMemberNickname h memberId nickname with
    | error e => simp [updated, Except.map] at ok
    | ok s' =>
      simp only [updated, Except.map, Except.ok.injEq, Prod.mk.injEq, true_and] at ok
      rw [← ok, updateMemberNickname_ok updated]
      exact ofGroup_setNickname_other (elsewhere rfl)
  | decideJoinRequest h requestId approve =>
    simp only [perform, decideJoinRequest, ofGroup]
    rw [ofOwner_updateWhere_other ?_ (by simp)]
    intro r picked
    simp only [Bool.and_eq_true, beq_iff_eq] at picked
    exact picked.1.1 ▸ elsewhere rfl
  | setMemberBanned h memberId banned =>
    simp only [perform, setMemberBanned, ofGroup]
    rw [ofOwner_updateWhere_other ?_ (by simp)]
    intro m picked
    simp only [Bool.and_eq_true, beq_iff_eq] at picked
    exact picked.1.1 ▸ elsewhere rfl
  | createRoom => exact ofGroup_settle fun _ _ ok => ofGroup_createRoomWithVisibility_other (elsewhere rfl) ok
  | createRoomWithVisibility =>
    exact ofGroup_settle fun _ _ ok => ofGroup_createRoomWithVisibility_other (elsewhere rfl) ok
  | rotateGroupToken => exact ofGroup_settle fun _ _ ok => ofGroup_rotateGroupToken_other (elsewhere rfl) ok
  | setRoomMember => exact ofGroup_settle fun _ _ ok => ofGroup_setRoomMember_other (elsewhere rfl) ok
  | appendMessage => exact ofGroup_settle fun _ _ ok => ofGroup_appendMessage_other (elsewhere rfl) ok
  | _ => rfl

/-- The ids that a run brings for a group are of no other group. -/
def ApartRun (prims : Primitives) (g : Uuid) (store : GatewayStore) : List StoreOp → Prop
  | [] => True
  | op :: ops => (op.groupId = some g → op.Apart store) ∧ ApartRun prims g (store.perform prims op).2 ops

instance (prims : Primitives) (g : Uuid) : ∀ store ops, Decidable (ApartRun prims g store ops)
  | _, [] => .isTrue trivial
  | store, op :: ops =>
    have : Decidable (ApartRun prims g (store.perform prims op).2 ops) := instDecidableApartRun prims g _ ops
    inferInstanceAs (Decidable (_ ∧ _))

/-- **Groups are independent.** In every run of operations of any groups, a group gets the replies
that its own operations get when they run alone on its share of the store, and its share at
the end is theirs. -/
theorem groups_independent {ops : List StoreOp} (known : store.hasGroup g = true) (apart : ApartRun prims g store ops) :
    ((store.performAll prims ops).1.filter (fun entry => entry.1.groupId = some g),
      (store.performAll prims ops).2.ofGroup g) =
        (store.ofGroup g).performAll prims (ops.filter (·.groupId = some g)) := by
  induction ops generalizing store with
  | nil => rfl
  | cons op ops ih =>
    obtain ⟨first, rest⟩ := apart
    have later := ih (hasGroup_perform op known) rest
    by_cases own : op.groupId = some g
    · have one := @perform_ofGroup prims store g op own (first own)
      simp only [performAll, List.filter_cons, own, decide_true, if_true, one, ← later]
    · have same := @ofGroup_perform_other prims store g op own known
      simp only [performAll, List.filter_cons, own, decide_false, Bool.false_eq_true, if_false, ← same, ← later]

/-- Two groups, and a visit to both. -/
def twoGroups : GatewayStore :=
  ((GatewayStore.empty 0).performAll .checksummed
    [.createGroupWithAccess "red" .isPublic (.numbered 10), .createGroupWithAccess "blue" .approval (.numbered 20)]).2

def visits : List StoreOp :=
  [.authorizeJoin ⟨10⟩ none "Ana" (.numbered 30), .createJoinRequest ⟨20⟩ "Bob" (.numbered 40),
    .appendMessage ⟨10⟩ defaultRoomId ⟨50⟩ ⟨⟨60⟩, ⟨30⟩, "Ana", none⟩ 0 "hi" (.numbered 50),
    .createRoomWithVisibility ⟨20⟩ "attic" .isPrivate (some ⟨21⟩) (.numbered 70),
    .history ⟨10⟩ defaultRoomId 10, .history ⟨20⟩ defaultRoomId 10]

theorem groups_independent_two : (twoGroups.performAll .checksummed visits).2.ofGroup ⟨10⟩ =
    ((twoGroups.ofGroup ⟨10⟩).performAll .checksummed (visits.filter (·.groupId = some ⟨10⟩))).2 :=
  congrArg Prod.snd (groups_independent (by decide +kernel) (by decide +kernel))

end GatewayStore

end LanChat
