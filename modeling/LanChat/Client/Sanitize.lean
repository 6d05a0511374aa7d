import LanChat.Base.Fallible
import LanChat.Clean

/-!
# What the client accepts from a gateway

`sanitize_server_message` and its helpers, through which every decoded message
passes before the application sees it. `ServerMessage.strings` lists the strings
of a message with what each of them is, and `ServerMessage.erase` is what is
left of it without its names and texts.
-/

namespace LanChat

open Fallible

/-- `bail!` with `text` when `refuses` holds. -/
def bailIf (refuses : Bool) (text : String) : Except String Unit :=
  if refuses then .error text else .ok ()

theorem bailIf_eq_ok {refuses : Bool} {text : String} {u : Unit} :
    bailIf refuses text = .ok u ↔ refuses = false := by
  cases refuses <;> simp [bailIf]

/-! ## The sanitizers -/

def DirectPeerInfo.isUnsafe (direct : DirectPeerInfo) : Bool :=
  direct.endpoint.port == 0 || direct.endpoint.ip.isUnspecified ||
    direct.endpoint.ip.isMulticast || !isValidFingerprint direct.fingerprint

def sanitizePeer (peer : Peer) : Except String Peer := do
  let nickname ← sanitizeNickname peer.nickname
  bailIf (peer.direct.any DirectPeerInfo.isUnsafe)
    "server sent unsafe peer-to-peer connection details"
  return { peer with nickname }

def sanitizeChatRecord (message : ChatRecord) : Except String ChatRecord := do
  bailIf (!isSafeIdentifier message.roomId) "server sent an unsafe room identifier"
  let sender ← sanitizePeer message.sender
  let text ← sanitizeChatText message.text
  return { message with sender, text }

def sanitizeDirectRecord (message : DirectRecord) : Except String DirectRecord := do
  let sender ← sanitizePeer message.sender
  let text ← sanitizeChatText message.text
  return { message with sender, text }

def sanitizeRoomSummary (room : RoomSummary) : Except String RoomSummary := do
  bailIf (!isSafeIdentifier room.roomId) "server sent an unsafe room identifier"
  let roomName ← sanitizeRoomName room.roomName
  return { room with roomName }

def sanitizeIssuedCredentials (credentials : IssuedGroupCredentials) :
    Except String IssuedGroupCredentials := do
  bailIf (!isValidGroupCredential credentials.adminToken ||
    credentials.inviteToken.any (!isValidGroupCredential ·)) "server sent invalid group credentials"
  return credentials

def sanitizeJoinRequest (request : JoinRequestSummary) : Except String JoinRequestSummary := do
  let nickname ← sanitizeNickname request.nickname
  return { request with nickname }

def sanitizeGroupMember (member : GroupMemberSummary) : Except String GroupMemberSummary := do
  let nickname ← sanitizeNickname member.nickname
  return { member with nickname }

def sanitizeRoomMember (member : RoomMemberSummary) : Except String RoomMemberSummary := do
  let nickname ← sanitizeNickname member.nickname
  return { member with nickname }

def sanitizeGroupSummary (group : GroupSummary) : Except String GroupSummary := do
  let groupName ← sanitizeGroupName group.groupName
  return { group with groupName }

/-- `(PROTOCOL_MIN..=PROTOCOL_MAX).contains(&version)` -/
def isSupported (version : ℕ) : Bool := protocolMin ≤ version && version ≤ protocolMax

def sanitizeWelcome (content : Welcome) : Except String Welcome := do
  bailIf (!isSupported content.protocolVersion) "server selected an unsupported protocol version"
  bailIf (!isSafeIdentifier content.roomId) "server sent an unsafe room identifier"
  let members ← content.members.mapM sanitizePeer
  let history ← content.history.mapM sanitizeChatRecord
  let rooms ← content.rooms.mapM sanitizeRoomSummary
  let issuedCredentials ← content.issuedCredentials.mapM sanitizeIssuedCredentials
  bailIf (content.issuedMemberToken.any (!isValidGroupCredential ·))
    "server sent an invalid member credential"
  let groupName ← sanitizeGroupName content.groupName
  let roomName ← sanitizeRoomName content.roomName
  return { content with groupName, issuedCredentials, roomName, rooms, members, history }

def sanitizeServerMessage : ServerMessage → Except String ServerMessage
  | .gatewayWelcome protocolVersion gatewayId gatewayName groups => do
    bailIf (!isSupported protocolVersion) "gateway selected an unsupported protocol version"
    let gatewayName ← sanitizeGroupName gatewayName
    let groups ← groups.mapM sanitizeGroupSummary
    return .gatewayWelcome protocolVersion gatewayId gatewayName groups
  | .welcome content => do return .welcome (← sanitizeWelcome content)
  | .chat message => do return .chat (← sanitizeChatRecord message)
  | .roomCreated room => do return .roomCreated (← sanitizeRoomSummary room)
  | .roomJoined room history => do
    let room ← sanitizeRoomSummary room
    let history ← history.mapM sanitizeChatRecord
    return .roomJoined room history
  | .roomLeft roomId => do
    bailIf (!isSafeIdentifier roomId) "server sent an unsafe room identifier"
    return .roomLeft roomId
  | .historyPage roomId messages hasMore => do
    bailIf (!isSafeIdentifier roomId) "server sent an unsafe room identifier"
    let messages ← messages.mapM sanitizeChatRecord
    return .historyPage roomId messages hasMore
  | .joinPending groupId requestId requestToken => do
    bailIf (!isValidGroupCredential requestToken) "server sent an invalid join request token"
    return .joinPending groupId requestId requestToken
  | .joinRequests requests => do return .joinRequests (← requests.mapM sanitizeJoinRequest)
  | .groupMembers members offset hasMore => do
    let members ← members.mapM sanitizeGroupMember
    return .groupMembers members offset hasMore
  | .groupTokenRotated kind token => do
    bailIf (!isValidGroupCredential token) "server sent an invalid rotated group token"
    return .groupTokenRotated kind token
  | .roomMembers roomId members offset hasMore => do
    bailIf (!isSafeIdentifier roomId) "server sent an unsafe room identifier"
    let members ← members.mapM sanitizeRoomMember
    return .roomMembers roomId members offset hasMore
  | .privateMessage message status => do
    return .privateMessage (← sanitizeDirectRecord message) status
  | .memberJoined member => do return .memberJoined (← sanitizePeer member)
  | .error code message => do
    bailIf (!isSafeIdentifier code) "server sent an unsafe error code"
    let message ← sanitizeStatusText message
    return .error code message
  | .memberLeft sessionId => .ok (.memberLeft sessionId)
  | .privateClosed peerSessionId => .ok (.privateClosed peerSessionId)
  | .pong => .ok .pong

/-! ## The strings of a message -/

/-- What a string of a message is. -/
inductive FieldKind where
  | nickname
  | groupName
  | roomName
  | statusText
  | chatText
  | identifier
  | credential
  | fingerprint
deriving DecidableEq, Repr

/-- The strings that may reach the terminal as a field of each kind. -/
def FieldKind.Allows : FieldKind → String → Prop
  | .nickname, value => CleanLine maxNicknameChars value
  | .groupName, value => CleanLine maxGroupNameChars value
  | .roomName, value => CleanLine maxNicknameChars value
  | .statusText, value => CleanLine maxStatusChars value
  | .chatText, value => CleanText value
  | .identifier, value => isSafeIdentifier value = true ∧ Printable value
  | .credential, value => isValidGroupCredential value = true ∧ Printable value
  | .fingerprint, value => isValidFingerprint value = true ∧ Printable value

abbrev Strings := List (FieldKind × String)

def Peer.strings (peer : Peer) : Strings :=
  (.nickname, peer.nickname) ::
    peer.direct.toList.map fun direct => (.fingerprint, direct.fingerprint)

def ChatRecord.strings (message : ChatRecord) : Strings :=
  (.identifier, message.roomId) :: (.chatText, message.text) :: message.sender.strings

def DirectRecord.strings (message : DirectRecord) : Strings :=
  (.chatText, message.text) :: message.sender.strings

def RoomSummary.strings (room : RoomSummary) : Strings :=
  [(.identifier, room.roomId), (.roomName, room.roomName)]

def IssuedGroupCredentials.strings (credentials : IssuedGroupCredentials) : Strings :=
  (.credential, credentials.adminToken) ::
    credentials.inviteToken.toList.map fun token => (.credential, token)

def JoinRequestSummary.strings (request : JoinRequestSummary) : Strings :=
  [(.nickname, request.nickname)]

def GroupMemberSummary.strings (member : GroupMemberSummary) : Strings :=
  [(.nickname, member.nickname)]

def RoomMemberSummary.strings (member : RoomMemberSummary) : Strings :=
  [(.nickname, member.nickname)]

def GroupSummary.strings (group : GroupSummary) : Strings := [(.groupName, group.groupName)]

def Welcome.strings (content : Welcome) : Strings :=
  [(.groupName, content.groupName), (.identifier, content.roomId), (.roomName, content.roomName)] ++
    content.issuedCredentials.toList.flatMap IssuedGroupCredentials.strings ++
    (content.issuedMemberToken.toList.map fun token => (.credential, token)) ++
    content.rooms.flatMap RoomSummary.strings ++ content.members.flatMap Peer.strings ++
    content.history.flatMap ChatRecord.strings

def ServerMessage.strings : ServerMessage → Strings
  | .gatewayWelcome _ _ gatewayName groups =>
    (.groupName, gatewayName) :: groups.flatMap GroupSummary.strings
  | .joinPending _ _ requestToken => [(.credential, requestToken)]
  | .welcome content => content.strings
  | .chat message => message.strings
  | .roomCreated room => room.strings
  | .roomJoined room history => room.strings ++ history.flatMap ChatRecord.strings
  | .roomLeft roomId => [(.identifier, roomId)]
  | .historyPage roomId messages _ =>
    (.identifier, roomId) :: messages.flatMap ChatRecord.strings
  | .joinRequests requests => requests.flatMap JoinRequestSummary.strings
  | .groupMembers members _ _ => members.flatMap GroupMemberSummary.strings
  | .groupTokenRotated _ token => [(.credential, token)]
  | .roomMembers roomId members _ _ =>
    (.identifier, roomId) :: members.flatMap RoomMemberSummary.strings
  | .privateMessage message _ => message.strings
  | .privateClosed _ => []
  | .memberJoined member => member.strings
  | .memberLeft _ => []
  | .error code message => [(.identifier, code), (.statusText, message)]
  | .pong => []

/-! ## A message without its names and texts -/

def Peer.erase (peer : Peer) : Peer := { peer with nickname := "" }

def ChatRecord.erase (message : ChatRecord) : ChatRecord :=
  { message with sender := message.sender.erase, text := "" }

def DirectRecord.erase (message : DirectRecord) : DirectRecord :=
  { message with sender := message.sender.erase, text := "" }

def RoomSummary.erase (room : RoomSummary) : RoomSummary := { room with roomName := "" }

def JoinRequestSummary.erase (request : JoinRequestSummary) : JoinRequestSummary :=
  { request with nickname := "" }

def GroupMemberSummary.erase (member : GroupMemberSummary) : GroupMemberSummary :=
  { member with nickname := "" }

def RoomMemberSummary.erase (member : RoomMemberSummary) : RoomMemberSummary :=
  { member with nickname := "" }

def GroupSummary.erase (group : GroupSummary) : GroupSummary := { group with groupName := "" }

def Welcome.erase (content : Welcome) : Welcome :=
  { content with
    groupName := ""
    roomName := ""
    rooms := content.rooms.map RoomSummary.erase
    members := content.members.map Peer.erase
    history := content.history.map ChatRecord.erase }

def ServerMessage.erase : ServerMessage → ServerMessage
  | .gatewayWelcome protocolVersion gatewayId _ groups =>
    .gatewayWelcome protocolVersion gatewayId "" (groups.map GroupSummary.erase)
  | .welcome content => .welcome content.erase
  | .chat message => .chat message.erase
  | .roomCreated room => .roomCreated room.erase
  | .roomJoined room history => .roomJoined room.erase (history.map ChatRecord.erase)
  | .historyPage roomId messages hasMore =>
    .historyPage roomId (messages.map ChatRecord.erase) hasMore
  | .joinRequests requests => .joinRequests (requests.map JoinRequestSummary.erase)
  | .groupMembers members offset hasMore =>
    .groupMembers (members.map GroupMemberSummary.erase) offset hasMore
  | .roomMembers roomId members offset hasMore =>
    .roomMembers roomId (members.map RoomMemberSummary.erase) offset hasMore
  | .privateMessage message status => .privateMessage message.erase status
  | .memberJoined member => .memberJoined member.erase
  | .error code _ => .error code ""
  | message => message

/-- `y` is what is shown of `x`: its strings are allowed and the rest is that of `x`. -/
structure Mediated {α : Type} (strings : α → Strings) (erase : α → α) (x y : α) : Prop where
  allowed : ∀ field ∈ strings y, field.1.Allows field.2
  kept : erase y = erase x

section
variable {α : Type} {strings : α → Strings} {erase : α → α} {xs ys : List α}

/-- A list is mediated item by item, in its order. -/
theorem Mediated.list (items : List.Forall₂ (Mediated strings erase) xs ys) :
    Mediated (List.flatMap strings) (List.map erase) xs ys := by
  induction items with
  | nil => exact ⟨nofun, rfl⟩
  | cons head _ ih =>
    constructor
    · intro field mem
      rw [List.flatMap_cons, List.mem_append] at mem
      exact mem.elim (head.allowed field) (ih.allowed field)
    · rw [List.map_cons, List.map_cons, head.kept, ih.kept]

/-- `collect` over a list of records that are mediated one by one. -/
theorem Mediated.of_mapM {sanitize : α → Except String α}
    (item : ∀ {x y}, sanitize x = .ok y → Mediated strings erase x y)
    (h : xs.mapM sanitize = .ok ys) : Mediated (List.flatMap strings) (List.map erase) xs ys :=
  .list ((forall₂_of_mapM h).imp fun _ _ => item)

end

theorem allows_identifier {value : String} (h : (!isSafeIdentifier value) = false) :
    FieldKind.identifier.Allows value := by
  have format : isSafeIdentifier value = true := by simpa using h
  exact ⟨format, isSafeIdentifier_printable format⟩

theorem allows_credential {value : String} (h : (!isValidGroupCredential value) = false) :
    FieldKind.credential.Allows value := by
  have format : isValidGroupCredential value = true := by simpa using h
  exact ⟨format, isValidGroupCredential_printable format⟩

/-- A credential that need not be there. -/
theorem allows_optional {token : Option String} (h : token.any (!isValidGroupCredential ·) = false) :
    ∀ field ∈ token.toList.map fun token => (FieldKind.credential, token),
      field.1.Allows field.2 := by
  cases token with
  | none => exact nofun
  | some token => simpa using allows_credential h

/-! ## One record -/

theorem sanitizePeer_mediated {x y : Peer} (h : sanitizePeer x = .ok y) :
    Mediated Peer.strings Peer.erase x y := by
  simp only [sanitizePeer, bind_eq_ok, bailIf_eq_ok] at h
  obtain ⟨nickname, line, -, direct, h⟩ := h
  cases h
  refine ⟨?_, rfl⟩
  unfold Peer.strings
  rw [List.forall_mem_cons]
  refine ⟨sanitizeSingleLine_ok line, ?_⟩
  cases described : x.direct with
  | none => exact nofun
  | some info =>
    rw [described, Option.any_some, DirectPeerInfo.isUnsafe, Bool.or_eq_false_iff] at direct
    have format : isValidFingerprint info.fingerprint = true := by simpa using direct.2
    have allowed : FieldKind.fingerprint.Allows info.fingerprint :=
      ⟨format, isValidFingerprint_printable format⟩
    simpa using allowed

theorem sanitizeChatRecord_mediated {x y : ChatRecord} (h : sanitizeChatRecord x = .ok y) :
    Mediated ChatRecord.strings ChatRecord.erase x y := by
  simp only [sanitizeChatRecord, bind_eq_ok, bailIf_eq_ok] at h
  obtain ⟨-, room, sender, peer, text, chat, h⟩ := h
  cases h
  have peer := sanitizePeer_mediated peer
  constructor
  · unfold ChatRecord.strings
    rw [List.forall_mem_cons, List.forall_mem_cons]
    exact ⟨allows_identifier room, sanitizeChatText_ok chat, peer.allowed⟩
  · simp only [ChatRecord.erase, peer.kept]

theorem sanitizeDirectRecord_mediated {x y : DirectRecord} (h : sanitizeDirectRecord x = .ok y) :
    Mediated DirectRecord.strings DirectRecord.erase x y := by
  simp only [sanitizeDirectRecord, bind_eq_ok] at h
  obtain ⟨sender, peer, text, chat, h⟩ := h
  cases h
  have peer := sanitizePeer_mediated peer
  constructor
  · unfold DirectRecord.strings
    rw [List.forall_mem_cons]
    exact ⟨sanitizeChatText_ok chat, peer.allowed⟩
  · simp only [DirectRecord.erase, peer.kept]

theorem sanitizeRoomSummary_mediated {x y : RoomSummary} (h : sanitizeRoomSummary x = .ok y) :
    Mediated RoomSummary.strings RoomSummary.erase x y := by
  simp only [sanitizeRoomSummary, bind_eq_ok, bailIf_eq_ok] at h
  obtain ⟨-, room, roomName, line, h⟩ := h
  cases h
  refine ⟨?_, rfl⟩
  unfold RoomSummary.strings
  rw [List.forall_mem_cons, List.forall_mem_singleton]
  exact ⟨allows_identifier room, sanitizeSingleLine_ok line⟩

theorem sanitizeIssuedCredentials_mediated {x y : IssuedGroupCredentials}
    (h : sanitizeIssuedCredentials x = .ok y) :
    Mediated IssuedGroupCredentials.strings id x y := by
  simp only [sanitizeIssuedCredentials, bind_eq_ok, bailIf_eq_ok, Bool.or_eq_false_iff] at h
  obtain ⟨-, ⟨admin, invite⟩, h⟩ := h
  cases h
  refine ⟨?_, rfl⟩
  unfold IssuedGroupCredentials.strings
  rw [List.forall_mem_cons]
  exact ⟨allows_credential admin, allows_optional invite⟩

theorem sanitizeJoinRequest_mediated {x y : JoinRequestSummary} (h : sanitizeJoinRequest x = .ok y) :
    Mediated JoinRequestSummary.strings JoinRequestSummary.erase x y := by
  obtain ⟨nickname, line, h⟩ := bind_eq_ok.1 h
  cases h
  exact ⟨List.forall_mem_singleton.2 (sanitizeSingleLine_ok line), rfl⟩

theorem sanitizeGroupMember_mediated {x y : GroupMemberSummary} (h : sanitizeGroupMember x = .ok y) :
    Mediated GroupMemberSummary.strings GroupMemberSummary.erase x y := by
  obtain ⟨nickname, line, h⟩ := bind_eq_ok.1 h
  cases h
  exact ⟨List.forall_mem_singleton.2 (sanitizeSingleLine_ok line), rfl⟩

theorem sanitizeRoomMember_mediated {x y : RoomMemberSummary} (h : sanitizeRoomMember x = .ok y) :
    Mediated RoomMemberSummary.strings RoomMemberSummary.erase x y := by
  obtain ⟨nickname, line, h⟩ := bind_eq_ok.1 h
  cases h
  exact ⟨List.forall_mem_singleton.2 (sanitizeSingleLine_ok line), rfl⟩

theorem sanitizeGroupSummary_mediated {x y : GroupSummary} (h : sanitizeGroupSummary x = .ok y) :
    Mediated GroupSummary.strings GroupSummary.erase x y := by
  obtain ⟨groupName, line, h⟩ := bind_eq_ok.1 h
  cases h
  exact ⟨List.forall_mem_singleton.2 (sanitizeSingleLine_ok line), rfl⟩

theorem sanitizeWelcome_mediated {x y : Welcome} (h : sanitizeWelcome x = .ok y) :
    Mediated Welcome.strings Welcome.erase x y := by
  simp only [sanitizeWelcome, bind_eq_ok, bailIf_eq_ok] at h
  obtain ⟨-, -, -, room, members, peers, history, records, rooms, summaries, issued, credentials, -,
    token, groupName, group, roomName, name, h⟩ := h
  cases h
  have peers := Mediated.of_mapM sanitizePeer_mediated peers
  have records := Mediated.of_mapM sanitizeChatRecord_mediated records
  have summaries := Mediated.of_mapM sanitizeRoomSummary_mediated summaries
  have issuedFields : issued = x.issuedCredentials ∧
      ∀ field ∈ issued.toList.flatMap IssuedGroupCredentials.strings, field.1.Allows field.2 := by
    cases given : x.issuedCredentials with
    | none =>
      rw [given] at credentials
      cases credentials
      exact ⟨rfl, nofun⟩
    | some sent =>
      rw [given] at credentials
      obtain ⟨passed, sanitized, h⟩ := bind_eq_ok.1 credentials
      cases h
      have mediated := sanitizeIssuedCredentials_mediated sanitized
      refine ⟨congrArg some mediated.kept, ?_⟩
      simpa using mediated.allowed
  constructor
  · unfold Welcome.strings
    simp only [List.forall_mem_append, List.forall_mem_cons]
    exact ⟨⟨⟨⟨⟨⟨sanitizeSingleLine_ok group, allows_identifier room, sanitizeSingleLine_ok name,
      nofun⟩, issuedFields.2⟩, allows_optional token⟩, summaries.allowed⟩, peers.allowed⟩,
      records.allowed⟩
  · simp only [Welcome.erase, issuedFields.1, peers.kept, records.kept, summaries.kept]

/-! ## A whole message -/

/-- Every string of an accepted message is one its field allows, and all the rest of the
message (ids, numbers, flags, the lengths and orders of its lists) is as it was sent. -/
theorem sanitized_is_mediated {message shown : ServerMessage}
    (accepted : sanitizeServerMessage message = .ok shown) :
    (∀ field ∈ shown.strings, field.1.Allows field.2) ∧ shown.erase = message.erase := by
  cases message with
  | gatewayWelcome protocolVersion gatewayId gatewayName groups =>
    simp only [sanitizeServerMessage, bind_eq_ok, bailIf_eq_ok] at accepted
    obtain ⟨-, -, name, line, shownGroups, summaries, h⟩ := accepted
    cases h
    have summaries := Mediated.of_mapM sanitizeGroupSummary_mediated summaries
    constructor
    · unfold ServerMessage.strings
      rw [List.forall_mem_cons]
      exact ⟨sanitizeSingleLine_ok line, summaries.allowed⟩
    · simp only [ServerMessage.erase, summaries.kept]
  | joinPending groupId requestId requestToken =>
    simp only [sanitizeServerMessage, bind_eq_ok, bailIf_eq_ok] at accepted
    obtain ⟨-, token, h⟩ := accepted
    cases h
    exact ⟨List.forall_mem_singleton.2 (allows_credential token), rfl⟩
  | welcome content =>
    obtain ⟨shownContent, sanitized, h⟩ := bind_eq_ok.1 accepted
    cases h
    have mediated := sanitizeWelcome_mediated sanitized
    exact ⟨mediated.allowed, congrArg ServerMessage.welcome mediated.kept⟩
  | chat record =>
    obtain ⟨shownRecord, sanitized, h⟩ := bind_eq_ok.1 accepted
    cases h
    have mediated := sanitizeChatRecord_mediated sanitized
    exact ⟨mediated.allowed, congrArg ServerMessage.chat mediated.kept⟩
  | roomCreated room =>
    obtain ⟨shownRoom, sanitized, h⟩ := bind_eq_ok.1 accepted
    cases h
    have mediated := sanitizeRoomSummary_mediated sanitized
    exact ⟨mediated.allowed, congrArg ServerMessage.roomCreated mediated.kept⟩
  | roomJoined room history =>
    simp only [sanitizeServerMessage, bind_eq_ok] at accepted
    obtain ⟨shownRoom, summary, shownHistory, records, h⟩ := accepted
    cases h
    have summary := sanitizeRoomSummary_mediated summary
    have records := Mediated.of_mapM sanitizeChatRecord_mediated records
    constructor
    · unfold ServerMessage.strings
      rw [List.forall_mem_append]
      exact ⟨summary.allowed, records.allowed⟩
    · simp only [ServerMessage.erase, summary.kept, records.kept]
  | roomLeft roomId =>
    simp only [sanitizeServerMessage, bind_eq_ok, bailIf_eq_ok] at accepted
    obtain ⟨-, room, h⟩ := accepted
    cases h
    exact ⟨List.forall_mem_singleton.2 (allows_identifier room), rfl⟩
  | historyPage roomId messages hasMore =>
    simp only [sanitizeServerMessage, bind_eq_ok, bailIf_eq_ok] at accepted
    obtain ⟨-, room, shownMessages, records, h⟩ := accepted
    cases h
    have records := Mediated.of_mapM sanitizeChatRecord_mediated records
    constructor
    · unfold ServerMessage.strings
      rw [List.forall_mem_cons]
      exact ⟨allows_identifier room, records.allowed⟩
    · simp only [ServerMessage.erase, records.kept]
  | joinRequests requests =>
    obtain ⟨shownRequests, sanitized, h⟩ := bind_eq_ok.1 accepted
    cases h
    have mediated := Mediated.of_mapM sanitizeJoinRequest_mediated sanitized
    exact ⟨mediated.allowed, congrArg ServerMessage.joinRequests mediated.kept⟩
  | groupMembers members offset hasMore =>
    obtain ⟨shownMembers, sanitized, h⟩ := bind_eq_ok.1 accepted
    cases h
    have mediated := Mediated.of_mapM sanitizeGroupMember_mediated sanitized
    exact ⟨mediated.allowed, congrArg (ServerMessage.groupMembers · offset hasMore) mediated.kept⟩
  | groupTokenRotated kind token =>
    simp only [sanitizeServerMessage, bind_eq_ok, bailIf_eq_ok] at accepted
    obtain ⟨-, format, h⟩ := accepted
    cases h
    exact ⟨List.forall_mem_singleton.2 (allows_credential format), rfl⟩
  | roomMembers roomId members offset hasMore =>
    simp only [sanitizeServerMessage, bind_eq_ok, bailIf_eq_ok] at accepted
    obtain ⟨-, room, shownMembers, sanitized, h⟩ := accepted
    cases h
    have mediated := Mediated.of_mapM sanitizeRoomMember_mediated sanitized
    constructor
    · unfold ServerMessage.strings
      rw [List.forall_mem_cons]
      exact ⟨allows_identifier room, mediated.allowed⟩
    · simp only [ServerMessage.erase, mediated.kept]
  | privateMessage record status =>
    obtain ⟨shownRecord, sanitized, h⟩ := bind_eq_ok.1 accepted
    cases h
    have mediated := sanitizeDirectRecord_mediated sanitized
    exact ⟨mediated.allowed, congrArg (ServerMessage.privateMessage · status) mediated.kept⟩
  | memberJoined member =>
    obtain ⟨shownMember, sanitized, h⟩ := bind_eq_ok.1 accepted
    cases h
    have mediated := sanitizePeer_mediated sanitized
    exact ⟨mediated.allowed, congrArg ServerMessage.memberJoined mediated.kept⟩
  | error code text =>
    simp only [sanitizeServerMessage, bind_eq_ok, bailIf_eq_ok] at accepted
    obtain ⟨-, identifier, line, sanitized, h⟩ := accepted
    cases h
    refine ⟨?_, rfl⟩
    unfold ServerMessage.strings
    rw [List.forall_mem_cons, List.forall_mem_singleton]
    exact ⟨allows_identifier identifier, sanitizeSingleLine_ok sanitized⟩
  | privateClosed _ | memberLeft _ | pong =>
    cases accepted
    exact ⟨nofun, rfl⟩

/-- A chat message of a sender `nickname`. -/
def chatOf (nickname text : String) : ServerMessage :=
  .chat { sequence := 1, messageId := ⟨1⟩, sender := ⟨⟨2⟩, ⟨3⟩, nickname, none⟩,
          roomId := "general", sentAtMs := 0, text }

/-- Terminal controls are removed before they reach the UI. -/
theorem sanitized_is_mediated_controls :
    (∀ field ∈ (chatOf "Mallory[31m" "hello]52;c;payload").strings, field.1.Allows field.2) ∧
      (chatOf "Mallory[31m" "hello]52;c;payload").erase =
        (chatOf "Mallory\x1b[31m" "hello\x1b]52;c;payload\x07").erase :=
  @sanitized_is_mediated (chatOf "Mallory\x1b[31m" "hello\x1b]52;c;payload\x07") _
    (by decide +kernel)

end LanChat
