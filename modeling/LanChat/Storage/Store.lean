import LanChat.Storage.Schema
import LanChat.Serialize
import Mathlib.Data.Prod.Lex
import Mathlib.Order.Lex
import Mathlib.Data.List.Lex

/-!
# The store's operations

`GatewayStore` of `storage.rs`. An operation takes the store and what it
draws, and returns its result with the new store, or the error of a check that
leaves the store as it was. Its statements are taken to succeed: not all of them
share a transaction (the approved arm of `authorize_join` inserts the membership
and deletes the request on their own), so a failing one could leave a part of the
operation behind. Read-only operations return their result alone.
-/

namespace LanChat

structure CreatedGroup where
  summary : GroupSummary
  credentials : IssuedGroupCredentials
  creatorMemberId : Uuid
deriving DecidableEq, Repr

inductive JoinAuthorization where
  | allowed (role : GroupRole) (memberId : Uuid) (issuedMemberToken : Option String)
  | inviteRequired
  | approvalRequired
  | pending (requestId : Uuid) (requestToken : String)
  | rejected
  | banned
  | memberLimit
  | invalidCredential
deriving DecidableEq, Repr

/-- `usize::clamp`. -/
def clamp (low high n : ℕ) : ℕ := min (max low n) high

def GroupRow.summary (row : GroupRow) : GroupSummary :=
  { groupId := row.groupId, groupName := row.name, accessMode := row.accessMode }

def RoomRow.summary (row : RoomRow) : RoomSummary :=
  { roomId := row.roomId, roomName := row.name, visibility := row.visibility }

/-- `ORDER BY CASE WHEN room_id = 'general' THEN 0 ELSE 1 END, name COLLATE NOCASE`. -/
def RoomRow.listKey (row : RoomRow) : ℕ ×ₗ List ℕ :=
  toLex (if row.roomId = defaultRoomId then 0 else 1, nocase row.name)

def MemberRow.listKey (row : MemberRow) : ℕ ×ₗ List ℕ ×ₗ ℕ :=
  toLex (if row.status = .active then 0 else 1, toLex (nocase row.lastNickname, row.memberId.key))

namespace GatewayStore

variable (prims : Primitives) (store : GatewayStore)

def gatewayId (draw : Draw) : Uuid × GatewayStore :=
  match store.gatewayMeta with
  | some stored => (stored, store)
  | none => (draw.id, { store with gatewayMeta := some draw.id })

/-! ## Groups -/

def listGroups : List GroupSummary :=
  (Table.orderBy (fun g => toLex (nocase g.name, g.groupId.key)) store.groups).map GroupRow.summary

def group (groupId : Uuid) : Option GroupSummary := (store.findGroup groupId).map GroupRow.summary

def createGroupWithAccess (groupName : String) (accessMode : GroupAccessMode) (draw : Draw) :
    Except StoreError (CreatedGroup × GatewayStore) := do
  ensure (!store.groups.any fun g => nocase g.name == nocase groupName)
    "a group with that name already exists"
  let adminToken := generateCredential "admin" draw.random
  let inviteToken :=
    if accessMode = .invite then some (generateCredential "invite" draw.random₂) else none
  let adminHash ← credentialHash prims adminToken
  let inviteHash ← optionalHash prims inviteToken
  let store ← store.insertGroup
    { groupId := draw.id, name := groupName, accessMode, adminTokenHash := some adminHash,
      inviteTokenHash := inviteHash }
  let store ← store.insertRoom
    { roomId := defaultRoomId, groupId := draw.id, name := defaultRoomName,
      visibility := .isPublic, nextSequence := 1 }
  let store ← store.insertMember
    { memberId := draw.id₂, groupId := draw.id, credentialHash := adminHash, role := .admin,
      status := .active, lastNickname := "administrator" }
  .ok ({ summary := { groupId := draw.id, groupName, accessMode },
         credentials := { adminToken, inviteToken }, creatorMemberId := draw.id₂ }, store)

def createGroup (groupName : String) (draw : Draw) :
    Except StoreError (GroupSummary × GatewayStore) :=
  (store.createGroupWithAccess prims groupName .isPublic draw).map fun (created, store) =>
    (created.summary, store)

/-! ## Joining -/

def insertGroupMember (groupId : Uuid) (credential : String) (role : GroupRole)
    (nickname : String) (draw : Draw) : Except StoreError (Uuid × GatewayStore) := do
  let hash ← credentialHash prims credential
  let store ← store.insertMember
    { memberId := draw.id, groupId, credentialHash := hash, role, status := .active,
      lastNickname := nickname }
  .ok (draw.id, store)

def issueMember (groupId : Uuid) (nickname : String) (draw : Draw) :
    Except StoreError (JoinAuthorization × GatewayStore) :=
  if maxGroupMembers ≤ store.groupMembers.countP (·.groupId == groupId) then
    .ok (.memberLimit, store)
  else do
    let token := generateCredential "member" draw.random
    let (memberId, store) ← store.insertGroupMember prims groupId token .member nickname draw
    .ok (.allowed .member memberId (some token), store)

/-- `UPDATE group_members SET last_nickname` of one membership. -/
def setNickname (groupId memberId : Uuid) (nickname : String) : GatewayStore :=
  let selects (m : MemberRow) := m.memberId == memberId && m.groupId == groupId
  let change (m : MemberRow) : MemberRow := { m with lastNickname := nickname }
  { store with groupMembers := Table.updateWhere selects change store.groupMembers }

/-- The `Approval` arm of `authorize_join`, with a credential. -/
def authorizeRequest (groupId : Uuid) (credential nickname : String) (hash : List UInt8)
    (draw : Draw) : Except StoreError (JoinAuthorization × GatewayStore) :=
  match store.joinRequests.find? fun r => r.groupId == groupId && r.requestTokenHash == hash with
  | none => .ok (.invalidCredential, store)
  | some request => match request.status with
    | .approved => do
      let (authorization, store) ← store.issueMember prims groupId nickname draw
      let selects (r : JoinRequestRow) := r.groupId == groupId && r.requestId == request.requestId
      .ok (authorization,
        { store with joinRequests := Table.deleteWhere selects store.joinRequests })
    | .pending => .ok (.pending request.requestId credential, store)
    | .rejected => .ok (.rejected, store)

/-- The end of `authorize_join`: the access mode decides. -/
def authorizeByMode (row : GroupRow) (credential : Option String)
    (suppliedHash : Option (List UInt8)) (nickname : String) (draw : Draw) :
    Except StoreError (JoinAuthorization × GatewayStore) :=
  match row.accessMode, credential, suppliedHash with
  | .isPublic, some _, _ => .ok (.invalidCredential, store)
  | .isPublic, none, _ => store.issueMember prims row.groupId nickname draw
  | .invite, none, _ => .ok (.inviteRequired, store)
  | .invite, some _, hash =>
    if hash.isSome && hash = row.inviteTokenHash then
      store.issueMember prims row.groupId nickname draw
    else .ok (.invalidCredential, store)
  | .approval, some credential, some hash =>
    store.authorizeRequest prims row.groupId credential nickname hash draw
  | .approval, _, _ => .ok (.approvalRequired, store)

def authorizeJoin (groupId : Uuid) (credential : Option String) (nickname : String)
    (draw : Draw) : Except StoreError (JoinAuthorization × GatewayStore) :=
  match store.findGroup groupId with
  | none => .error (.bail "group not found")
  | some row => match credential with
    | none => store.authorizeByMode prims row none none nickname draw
    | some token => do
      let hash ← credentialHash prims token
      match store.groupMembers.find? fun m => m.groupId == groupId && m.credentialHash == hash with
      | some member =>
        if member.status = .banned then .ok (.banned, store)
        else .ok (.allowed member.role member.memberId none,
          store.setNickname groupId member.memberId nickname)
      | none =>
        if row.adminTokenHash = some hash then do
          let (memberId, store) ← store.insertGroupMember prims groupId token .admin nickname draw
          .ok (.allowed .admin memberId none, store)
        else store.authorizeByMode prims row (some token) (some hash) nickname draw

def createJoinRequest (groupId : Uuid) (nickname : String) (draw : Draw) :
    Except StoreError ((Uuid × String) × GatewayStore) := do
  let requestToken := generateCredential "request" draw.random
  ensure ((store.findGroup groupId).any (·.accessMode = .approval))
    "group does not accept approval requests"
  ensure (store.joinRequests.countP (fun r => r.groupId == groupId && r.status == .pending) <
    maxPendingJoinRequests) "this group has too many pending join requests"
  let hash ← credentialHash prims requestToken
  let store ← store.insertJoinRequest
    { requestId := draw.id, groupId, nickname, requestTokenHash := hash, status := .pending,
      requestedAtMs := draw.nowMsI64 }
  .ok ((draw.id, requestToken), store)

def updateMemberNickname (groupId memberId : Uuid) (nickname : String) :
    Except StoreError GatewayStore := do
  ensure (store.groupMembers.countP (fun m => m.memberId == memberId && m.groupId == groupId) = 1)
    "member not found"
  .ok (store.setNickname groupId memberId nickname)

def pendingJoinRequests (groupId : Uuid) : List JoinRequestSummary :=
  ((Table.orderBy (fun r => toLex (r.requestedAtMs, r.requestId.key))
    (store.joinRequests.filter fun r => r.groupId == groupId && r.status == .pending)).take
      joinRequestPageSize).map fun r =>
    { requestId := r.requestId, nickname := r.nickname, requestedAtMs := r.requestedAtMs }

def decideJoinRequest (groupId requestId : Uuid) (approve : Bool) : Bool × GatewayStore :=
  let selects (r : JoinRequestRow) :=
    r.groupId == groupId && r.requestId == requestId && r.status == .pending
  let change (r : JoinRequestRow) : JoinRequestRow :=
    { r with status := if approve then .approved else .rejected }
  (store.joinRequests.countP selects = 1,
    { store with joinRequests := Table.updateWhere selects change store.joinRequests })

/-! ## Memberships -/

def groupMembersPage (groupId : Uuid) (offset : ℕ) : List GroupMemberSummary × Bool :=
  let rows := ((Table.orderBy MemberRow.listKey
    (store.groupMembers.filter (·.groupId == groupId))).drop offset).take (memberPageSize + 1)
  ((rows.take memberPageSize).map fun m =>
    { memberId := m.memberId, nickname := m.lastNickname, role := m.role, status := m.status },
    memberPageSize < rows.length)

def setMemberBanned (groupId memberId : Uuid) (banned : Bool) : Bool × GatewayStore :=
  let selects (m : MemberRow) :=
    m.groupId == groupId && m.memberId == memberId && m.role != .admin
  let change (m : MemberRow) : MemberRow :=
    { m with status := if banned then .banned else .active }
  (store.groupMembers.countP selects = 1,
    { store with groupMembers := Table.updateWhere selects change store.groupMembers })

def rotateGroupToken (groupId actorMemberId : Uuid) (kind : GroupTokenKind) (draw : Draw) :
    Except StoreError (String × GatewayStore) := do
  let actorRole := (store.groupMembers.find? fun m =>
    m.groupId == groupId && m.memberId == actorMemberId && m.status == .active).map (·.role)
  ensure (match kind with
    | .member => actorRole = some .member
    | .admin | .invite => actorRole = some .admin)
    "the active membership cannot rotate this token"
  let token := generateCredential kind.asStr draw.random
  let hash ← credentialHash prims token
  match kind with
  | .member => do
    let selects (m : MemberRow) := m.groupId == groupId && m.memberId == actorMemberId &&
      m.role == .member && m.status == .active
    let store ← store.updateCredentialHash groupId hash selects
    ensure (store.groupMembers.countP selects = 1) "active member membership is required"
    .ok (token, store)
  | .admin => do
    let change (g : GroupRow) : GroupRow := { g with adminTokenHash := some hash }
    let store := { store with groups := Table.updateWhere (·.groupId == groupId) change store.groups }
    let store ← store.updateCredentialHash groupId hash fun m =>
      m.groupId == groupId && m.memberId == actorMemberId && m.role == .admin
    .ok (token, store)
  | .invite => do
    let selects (g : GroupRow) := g.groupId == groupId && g.accessMode == .invite
    ensure (store.groups.countP selects = 1) "only invite groups have an invite token"
    let change (g : GroupRow) : GroupRow := { g with inviteTokenHash := some hash }
    .ok (token, { store with groups := Table.updateWhere selects change store.groups })

/-! ## Rooms -/

def roomsOf (groupId : Uuid) : List RoomSummary :=
  (Table.orderBy RoomRow.listKey (store.rooms.filter (·.groupId == groupId))).map RoomRow.summary

/-- The access condition both room queries share: the room is public, or the
member has a row of it, or is an active administrator. -/
def grantsAccess (room : RoomRow) (memberId : Uuid) : Bool :=
  room.visibility == .isPublic ||
    (store.roomMembers.any fun rm =>
      rm.groupId == room.groupId && rm.roomId == room.roomId && rm.memberId == memberId) ||
    (store.groupMembers.any fun gm => gm.groupId == room.groupId && gm.memberId == memberId &&
      gm.role == .admin && gm.status == .active)

def roomsForMember (groupId memberId : Uuid) : List RoomSummary :=
  (Table.orderBy RoomRow.listKey (store.rooms.filter fun r =>
    r.groupId == groupId && store.grantsAccess r memberId)).map RoomRow.summary

def memberCanAccessRoom (groupId : Uuid) (roomId : String) (memberId : Uuid) : Bool :=
  store.rooms.any fun r =>
    r.groupId == groupId && r.roomId == roomId && store.grantsAccess r memberId

def createRoomWithVisibility (groupId : Uuid) (roomName : String) (visibility : RoomVisibility)
    (creatorMemberId : Option Uuid) (draw : Draw) :
    Except StoreError (RoomSummary × GatewayStore) := do
  ensure (!store.rooms.any fun r => r.groupId == groupId && nocase r.name == nocase roomName)
    "a room with that name already exists"
  ensure (!(visibility == .isPrivate && creatorMemberId.isNone)) "a private room requires an owner"
  let room : RoomSummary := { roomId := draw.id.simple, roomName, visibility }
  let store ← store.insertRoom
    { roomId := room.roomId, groupId, name := roomName, visibility, nextSequence := 1 }
  match creatorMemberId, visibility with
  | some memberId, .isPrivate => do
    let store ← store.insertRoomMember { groupId, roomId := room.roomId, memberId, role := .owner }
    .ok (room, store)
  | _, _ => .ok (room, store)

def createRoom (groupId : Uuid) (roomName : String) (draw : Draw) :
    Except StoreError (RoomSummary × GatewayStore) :=
  store.createRoomWithVisibility groupId roomName .isPublic none draw

/-- `ORDER BY` of `room_members`: owner, members, the others. -/
def roomMemberKey (entry : MemberRow × Option RoomMemberRow) : ℕ ×ₗ List ℕ ×ₗ ℕ :=
  let rank := match entry.2.map RoomMemberRow.role with
    | some .owner => 0
    | some .member => 1
    | none => 2
  toLex (rank, toLex (nocase entry.1.lastNickname, entry.1.memberId.key))

def isPrivateRoom (groupId : Uuid) (roomId : String) : Bool :=
  (store.findRoom groupId roomId).any (·.visibility = .isPrivate)

def roomMembersPage (groupId : Uuid) (roomId : String) (offset : ℕ) :
    Except StoreError (List RoomMemberSummary × Bool) := do
  ensure (store.isPrivateRoom groupId roomId) "room is not private"
  let joined := (store.groupMembers.filter fun gm =>
    gm.groupId == groupId && gm.status == .active).map fun gm =>
      (gm, store.roomMembers.find? fun rm => rm.groupId == gm.groupId &&
        rm.memberId == gm.memberId && rm.roomId == roomId)
  let rows := ((Table.orderBy roomMemberKey joined).drop offset).take (memberPageSize + 1)
  .ok ((rows.take memberPageSize).map fun (gm, rm) =>
    { memberId := gm.memberId, nickname := gm.lastNickname, groupRole := gm.role,
      included := rm.isSome || gm.role == .admin, isOwner := (rm.map (·.role)) == some .owner },
    memberPageSize < rows.length)

def isRoomOwner (groupId : Uuid) (roomId : String) (memberId : Uuid) : Bool :=
  store.roomMembers.any fun rm =>
    rm.groupId == groupId && rm.roomId == roomId && rm.memberId == memberId && rm.role == .owner

def memberCanManageRoom (groupId : Uuid) (roomId : String) (actorMemberId : Uuid)
    (actorRole : GroupRole) : Bool :=
  actorRole == .admin || store.isRoomOwner groupId roomId actorMemberId

def setRoomMember (groupId : Uuid) (roomId : String) (actorMemberId : Uuid)
    (actorRole : GroupRole) (targetMemberId : Uuid) (included : Bool) :
    Except StoreError (Bool × GatewayStore) := do
  ensure (store.isPrivateRoom groupId roomId) "room is not private"
  ensure (actorRole == .admin || store.isRoomOwner groupId roomId actorMemberId)
    "room owner or group administrator is required"
  ensure (store.groupMembers.any fun m => m.groupId == groupId && m.memberId == targetMemberId &&
    m.status == .active && m.role != .admin) "target member is not active"
  let present := store.roomMembers.any fun rm =>
    rm.groupId == groupId && rm.roomId == roomId && rm.memberId == targetMemberId
  if included then
    -- `ON CONFLICT … DO NOTHING`
    if present then .ok (false, store)
    else do
      let store ← store.insertRoomMember
        { groupId, roomId, memberId := targetMemberId, role := .member }
      .ok (true, store)
  else
    let selects (rm : RoomMemberRow) := rm.groupId == groupId && rm.roomId == roomId &&
      rm.memberId == targetMemberId && rm.role == .member
    .ok (store.roomMembers.countP selects = 1,
      { store with roomMembers := Table.deleteWhere selects store.roomMembers })

/-! ## Messages -/

/-- `UPDATE rooms SET next_sequence = next_sequence + 1 … RETURNING
next_sequence - 1`. A `STRICT` integer column refuses the sum past `i64::MAX`. -/
def takeSequence (groupId : Uuid) (roomId : String) : Except StoreError (ℕ × GatewayStore) :=
  match store.findRoom groupId roomId with
  | none => .error .noRows
  | some room =>
    if i64Max ≤ room.nextSequence then .error .constraint
    else
      let selects (r : RoomRow) := r.groupId == groupId && r.roomId == roomId
      let change (r : RoomRow) : RoomRow := { r with nextSequence := r.nextSequence + 1 }
      .ok (room.nextSequence, { store with rooms := Table.updateWhere selects change store.rooms })

def appendMessage (groupId : Uuid) (roomId : String) (messageId : Uuid) (sender : Peer)
    (sentAtMs : ℕ) (text : String) (draw : Draw) :
    Except StoreError (ChatRecord × GatewayStore) := do
  let (sequence, store) ← store.takeSequence groupId roomId
  let encrypted ←
    encryptBody prims store.key groupId roomId messageId sequence (utf8Encode text) draw
  let store ← store.insertMessage
    { messageId, groupId, roomId, sequence, senderSessionId := sender.sessionId,
      senderMemberId := sender.memberId, senderNickname := sender.nickname,
      sentAtMs := min sentAtMs i64Max, encryptedBody := encrypted }
  .ok ({ sequence, messageId, sender, roomId, sentAtMs, text }, store)

/-- A message row read back. -/
def readMessage (row : MessageRow) : Except StoreError ChatRecord := do
  let plaintext ← decryptBody prims store.key row.groupId row.roomId row.messageId row.sequence
    row.encryptedBody
  match utf8Decode plaintext with
  | none => .error (.bail "stored message contains invalid UTF-8")
  | some text =>
    .ok { sequence := row.sequence, messageId := row.messageId,
          sender := { sessionId := row.senderSessionId, memberId := row.senderMemberId,
                      nickname := row.senderNickname, direct := none },
          roomId := row.roomId, sentAtMs := row.sentAtMs, text }

def roomMessages (groupId : Uuid) (roomId : String) : List MessageRow :=
  store.groupMessages.filter fun m => m.groupId == groupId && m.roomId == roomId

def history (groupId : Uuid) (roomId : String) (limit : ℕ) : Except StoreError (List ChatRecord) :=
  (Table.latest MessageRow.sequence (clamp 1 1000 limit) (store.roomMessages groupId roomId)).mapM
    (store.readMessage prims)

def historyBefore (groupId : Uuid) (roomId : String) (beforeSequence limit : ℕ) :
    Except StoreError (List ChatRecord) :=
  (Table.latest MessageRow.sequence (clamp 1 1000 limit)
    ((store.roomMessages groupId roomId).filter (·.sequence < min beforeSequence i64Max))).mapM
    (store.readMessage prims)

end GatewayStore

end LanChat
