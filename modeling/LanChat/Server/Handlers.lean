import LanChat.Server.State

/-!
# The handlers of a session

A handler of `server.rs` runs from one await point to the next. At an await
point it waits either for a store call (`storeCall`, and `resume` with the
reply) or for a lock of its group (`block`, which gives the changes of the
lock-protected block and of the code up to the next await point). Each
constructor is one await point, named after the function it is in.
-/

namespace LanChat

/-- The session a handler runs for. -/
structure Session where
  peer : Peer
  role : GroupRole
deriving DecidableEq, Repr

inductive Handler where
  | chatJoined (roomId : String) (messageId : Uuid) (text : String)
  | chatRoom (roomId : String) (messageId : Uuid) (text : String)
  | chatAppend (roomId : String) (messageId : Uuid) (text : String)
  | chatBroadcast (message : ChatRecord)
  | createLock (name : String) (visibility : RoomVisibility)
  | createCheck (name : String) (visibility : RoomVisibility)
  | createStore (name : String) (visibility : RoomVisibility)
  | createInsert (room : RoomSummary)
  | createAnnounce (room : RoomSummary)
  | joinFind (roomId : String)
  | joinMember (room : RoomSummary)
  | joinAccess (room : RoomSummary) (memberId : Uuid)
  | joinHistory (room : RoomSummary)
  | joinInsert (room : RoomSummary) (history : List ChatRecord)
  | leave (roomId : String)
  | historyJoined (roomId : String) (beforeSequence limit : ℕ)
  | historyLoad (roomId : String) (beforeSequence limit : ℕ)
  | requestsAdmin
  | requestsLoad
  | decideAdmin (requestId : Uuid) (approve : Bool)
  | decideStore (requestId : Uuid) (approve : Bool)
  | membersAdmin (offset : ℕ)
  | membersLoad (offset : ℕ)
  | banAdmin (memberId : Uuid) (banned : Bool)
  | banStore (memberId : Uuid) (banned : Bool)
  | banSweep (memberId : Uuid)
  | rotateAdmin (kind : GroupTokenKind)
  | rotateStore (kind : GroupTokenKind)
  | rotateSweep (kind : GroupTokenKind) (token : String)
  | roomMembersManage (roomId : String) (offset : ℕ)
  | roomMembersLoad (roomId : String) (offset : ℕ)
  | setRoomMemberStore (roomId : String) (memberId : Uuid) (included : Bool)
  | setRoomMemberRoom (roomId : String) (memberId : Uuid) (included : Bool)
  | setRoomMemberNotify (memberId : Uuid) (room : RoomSummary)
  | setRoomMemberRemove (memberId : Uuid) (roomId : String)
  /-- A reply to the session's own channel after a store call. -/
  | reply (message : ServerMessage)
deriving DecidableEq

/-- What a client message leads to: an answer on the session's own channel
without an await point, or a handler at its first one. -/
inductive Dispatch where
  | answer (message : ServerMessage)
  | run (handler : Handler)
deriving DecidableEq

def invalidRoom : ServerMessage := .error "invalid_room" "the room identifier is invalid"

def dispatch : ClientMessage → Dispatch
  | .chat roomId messageId text =>
    if isSafeIdentifier roomId then .run (.chatJoined roomId messageId text)
    else .answer invalidRoom
  | .createRoom name visibility => match sanitizeRoomName name with
    | .ok name => .run (.createLock name visibility)
    | .error text => .answer (.error "invalid_room_name" text)
  | .joinRoom roomId =>
    if isSafeIdentifier roomId then .run (.joinFind roomId) else .answer invalidRoom
  | .leaveRoom roomId =>
    if roomId = defaultRoomId then
      .answer (.error "cannot_leave_general" "the general room is always joined")
    else .run (.leave roomId)
  | .loadHistory roomId beforeSequence limit =>
    if isHistoryRequest roomId beforeSequence then
      .run (.historyJoined roomId beforeSequence limit)
    else .answer (.error "invalid_history_request" "history request is invalid")
  | .listJoinRequests => .run .requestsAdmin
  | .decideJoinRequest requestId approve => .run (.decideAdmin requestId approve)
  | .listGroupMembers offset => .run (.membersAdmin offset)
  | .setMemberBanned memberId banned => .run (.banAdmin memberId banned)
  | .rotateGroupToken kind =>
    .run (if kind = .member then .rotateStore kind else .rotateAdmin kind)
  | .listRoomMembers roomId offset =>
    if isSafeIdentifier roomId then .run (.roomMembersManage roomId offset) else .answer invalidRoom
  | .setRoomMember roomId memberId included =>
    if isSafeIdentifier roomId then .run (.setRoomMemberStore roomId memberId included)
    else .answer invalidRoom
  | .privateChat _ _ _ => .answer (.error "private_requires_direct_connection"
      "private messages must use a peer-to-peer connection")
  | .ping => .answer .pong
  | .hello _ _ _ _ _ | .joinGroup _ _ | .createGroup _ _ =>
    .answer (.error "unexpected_handshake_message"
      "gateway and group selection messages can only be sent once")

namespace Handler

/-- The store call a handler waits for. -/
def storeCall (groupId : Uuid) (me : Session) (draw : Draw) : Handler → Option StoreOp
  | chatAppend roomId messageId text =>
    some (.appendMessage groupId roomId messageId me.peer draw.nowMs text draw)
  | createStore name visibility =>
    some (.createRoomWithVisibility groupId name visibility (some me.peer.memberId) draw)
  | joinAccess room memberId => some (.memberCanAccessRoom groupId room.roomId memberId)
  | joinHistory room => some (.history groupId room.roomId historyCapacity)
  | historyLoad roomId beforeSequence limit =>
    some (.historyBefore groupId roomId beforeSequence (clamp 1 100 limit))
  | requestsLoad => some (.pendingJoinRequests groupId)
  | decideStore requestId approve => some (.decideJoinRequest groupId requestId approve)
  | membersLoad offset => some (.groupMembers groupId offset)
  | banStore memberId banned => some (.setMemberBanned groupId memberId banned)
  | rotateStore kind => some (.rotateGroupToken groupId me.peer.memberId kind draw)
  | roomMembersManage roomId _ =>
    some (.memberCanManageRoom groupId roomId me.peer.memberId me.role)
  | roomMembersLoad roomId offset => some (.roomMembers groupId roomId offset)
  | setRoomMemberStore roomId memberId included =>
    some (.setRoomMember groupId roomId me.peer.memberId me.role memberId included)
  | _ => none

/-- Where a handler goes with the reply of its store call. -/
def resume (reply : StoreReply) : Handler → Handler
  | chatAppend _ _ _ => match reply with
    | .record message => chatBroadcast message
    | _ => .reply (.error "message_not_persisted"
        "the gateway could not persist the message; it was not delivered")
  | createStore _ _ => match reply with
    | .room room => createInsert room
    | _ => .reply (.error "room_not_persisted" "the gateway could not create the room")
  | joinAccess room _ => match reply with
    | .flag true => joinHistory room
    | .flag false => .reply (.error "private_room_denied" "this private room is not shared with you")
    | _ => .reply (.error "room_authorization_failed" "room access could not be checked")
  | joinHistory room => match reply with
    | .records history => joinInsert room (fitHistoryToFrame history)
    | _ => .reply (.error "history_unavailable" "room history is unavailable")
  | historyLoad roomId _ _ => match reply with
    | .records messages =>
      let messages := fitHistoryToFrame messages
      .reply (.historyPage roomId messages (hasMore messages))
    | _ => .reply (.error "history_unavailable" "room history is unavailable")
  | requestsLoad => match reply with
    | .requests requests => .reply (.joinRequests requests)
    | _ => .reply (.error "join_requests_unavailable" "join requests are unavailable")
  | decideStore _ _ => match reply with
    | .flag true => requestsAdmin
    | .flag false => .reply (.error "join_request_not_found"
        "that pending join request no longer exists")
    | _ => .reply (.error "join_request_failed" "the decision could not be saved")
  | membersLoad offset => match reply with
    | .members page hasMore => .reply (.groupMembers page offset hasMore)
    | _ => .reply (.error "members_unavailable" "group members are unavailable")
  | banStore memberId banned => match reply with
    | .flag true => if banned then banSweep memberId else membersAdmin 0
    | .flag false => .reply (.error "member_not_manageable"
        "the member does not exist or is an administrator")
    | _ => .reply (.error "member_update_failed" "the member change could not be saved")
  | rotateStore kind => match reply with
    | .token token => match kind with
      | .member | .admin => rotateSweep kind token
      | .invite => .reply (.groupTokenRotated kind token)
    | _ => .reply (.error "token_rotation_failed" "the token could not be rotated")
  | roomMembersManage roomId offset => match reply with
    | .flag true => roomMembersLoad roomId offset
    | .flag false => .reply (.error "room_owner_required"
        "only the room owner or a group administrator can manage this room")
    | _ => .reply (.error "room_authorization_failed" "room access could not be checked")
  | roomMembersLoad roomId offset => match reply with
    | .roomMembers page hasMore => .reply (.roomMembers roomId page offset hasMore)
    | _ => .reply (.error "room_members_unavailable" "private-room members are unavailable")
  | setRoomMemberStore roomId memberId included => match reply with
    | .flag true => setRoomMemberRoom roomId memberId included
    | .flag false => .reply (.error "room_membership_unchanged"
        "that private-room membership was already in the requested state or belongs to the owner")
    | _ => .reply (.error "room_member_update_failed"
        "the private-room membership could not be saved")
  | handler => handler

/-- Changes of a block, and the handler at its next await point (`none` when
it has returned). -/
abbrev Blocked := List Change × Option Handler

/-- A handler that returns: its last message to its own session, and the
creation lock is released if it was held. -/
def finish (me : Session) (message : ServerMessage) : Blocked :=
  ([.send (.session me.peer.sessionId) message, .unlockCreation me.peer.sessionId], none)

/-- An administrator's handler past `require_admin`, or its refusal. -/
def afterAdmin (group : GroupState) (me : Session) (refusal : String) (next : Handler) : Blocked :=
  if group.requireAdmin me.peer.sessionId then ([], some next)
  else finish me (.error "admin_required" refusal)

/-- What a handler does between two await points: the block under a lock of its group with
the sends that follow it; `none` while it waits for the store or for the creation lock. -/
def block (group : GroupState) (me : Session) : Handler → Option Blocked
  | chatJoined roomId messageId text => some <|
    if group.hasJoined me.peer.sessionId roomId then match sanitizeChatText text with
      | .ok text => ([], some (chatRoom roomId messageId text))
      | .error text => finish me (.error "invalid_message" text)
    else finish me (.error "room_not_joined" "join the room before sending messages")
  | chatRoom roomId messageId text => some <|
    if (group.room roomId).isSome then ([], some (chatAppend roomId messageId text))
    else finish me (.error "room_not_found" "the requested room does not exist")
  | chatBroadcast message => some ([.send (.inRoom message.roomId) (.chat message)], none)
  | createLock name visibility =>
    if group.roomCreation = none then
      some ([.lockCreation me.peer.sessionId], some (createCheck name visibility))
    else none
  | createCheck name visibility => some <|
    if maxRooms ≤ group.rooms.length then
      finish me (.error "room_limit" "this group has reached its room limit")
    else if group.usesRoomName name then
      finish me (.error "room_name_used" "a room with that name already exists")
    else ([], some (createStore name visibility))
  | createInsert room => some ([.openRoom room], some (createAnnounce room))
  | createAnnounce room =>
    let recipients := match room.visibility with
      | .isPublic => .everyone
      | .isPrivate => .ownerAndAdmins me.peer.memberId
    some ([.send recipients (.roomCreated room)], some (joinHistory room))
  | joinFind roomId => some <| match group.room roomId with
    | some room => ([], some (joinMember room))
    | none => finish me (.error "room_not_found" "the requested room does not exist")
  | joinMember room => some <| match group.client me.peer.sessionId with
    | some client => ([], some (joinAccess room client.peer.memberId))
    | none => ([], none)
  | joinInsert room history =>
    some ([.join me.peer.sessionId room.roomId,
      .send (.session me.peer.sessionId) (.roomJoined room history),
      .unlockCreation me.peer.sessionId], none)
  | leave roomId =>
    some ([.leave (.session me.peer.sessionId) roomId,
      .send (.session me.peer.sessionId) (.roomLeft roomId)], none)
  | historyJoined roomId beforeSequence limit => some <|
    if group.hasJoined me.peer.sessionId roomId then
      ([], some (historyLoad roomId beforeSequence limit))
    else finish me (.error "room_not_joined" "join the room before loading history")
  | requestsAdmin =>
    some (afterAdmin group me "only a group administrator can review join requests" requestsLoad)
  | decideAdmin requestId approve =>
    some (afterAdmin group me "only a group administrator can review join requests"
      (decideStore requestId approve))
  | membersAdmin offset =>
    some (afterAdmin group me "only a group administrator can manage members" (membersLoad offset))
  | banAdmin memberId banned =>
    some (afterAdmin group me "only a group administrator can ban members" (banStore memberId banned))
  | rotateAdmin kind =>
    some (afterAdmin group me "only a group administrator can rotate tokens" (rotateStore kind))
  | banSweep memberId => some ([.kick (.member memberId) .banned], some (membersAdmin 0))
  | rotateSweep kind token =>
    some ([.kick (.otherSessions me.peer.memberId me.peer.sessionId) .credentialRotated,
      .send (.session me.peer.sessionId) (.groupTokenRotated kind token)], none)
  | setRoomMemberRoom roomId memberId included => some <| match group.room roomId with
    | none => ([], some (roomMembersManage roomId 0))
    | some room =>
      if included then ([], some (setRoomMemberNotify memberId room))
      else ([], some (setRoomMemberRemove memberId roomId))
  | setRoomMemberNotify memberId room =>
    some ([.send (.member memberId) (.roomCreated room)], some (roomMembersManage room.roomId 0))
  | setRoomMemberRemove memberId roomId =>
    some ([.leave (.member memberId) roomId, .send (.member memberId) (.roomLeft roomId)],
      some (roomMembersManage roomId 0))
  | reply message => some (finish me message)
  | _ => none

end Handler

end LanChat
