import LanChat.Base.Json
import LanChat.Protocol

/-!
# The JSON of the protocol's messages

What `serde_json::to_vec` writes for the derived `Serialize` of each type of
`protocol.rs`: fields in source order, enumerations in snake case, messages
with their `type` first. An id is hyphenated and an endpoint is its display.
-/

namespace LanChat

open Json

/-- `Uuid`'s display: 8-4-4-4-12 lower-case digits. -/
def Uuid.hyphenated (id : Uuid) : String :=
  let digits := hexDigits 32 id.bits.toNat
  String.ofList (digits.take 8 ++ '-' :: ((digits.drop 8).take 4 ++ '-' :: ((digits.drop 12).take 4 ++
    '-' :: ((digits.drop 16).take 4 ++ '-' :: digits.drop 20))))

def Uuid.toJson (id : Uuid) : List Char := string id.hyphenated

/-- The longest run of zero segments of an IPv6 address, as start and length;
the first of several. -/
def zeroRun (index start length : ℕ) (best : ℕ × ℕ) : List UInt16 → ℕ × ℕ
  | [] => best
  | segment :: segments =>
    if segment = 0 then
      let start := if length = 0 then index else start
      zeroRun (index + 1) start (length + 1)
        (if best.2 < length + 1 then (start, length + 1) else best) segments
    else zeroRun (index + 1) 0 0 best segments

/-- Segments in hexadecimal with colons between them. -/
def showSegments : List UInt16 → List Char
  | [] => []
  | [segment] => Nat.toDigits 16 segment.toNat
  | segment :: segments => Nat.toDigits 16 segment.toNat ++ ':' :: showSegments segments

def showIpv4 (a b c d : UInt8) : List Char :=
  number a.toNat ++ '.' :: (number b.toNat ++ '.' :: (number c.toNat ++ '.' :: number d.toNat))

/-- An IPv4-mapped address ends in dotted form; a run of at least two zero
segments is written `::`. -/
def showIpv6 (segments : List UInt16) : List Char :=
  match segments with
  | [0, 0, 0, 0, 0, 0xffff, high, low] =>
    [':', ':', 'f', 'f', 'f', 'f', ':'] ++ showIpv4 (UInt8.ofNat (high.toNat / 256))
      (UInt8.ofNat high.toNat) (UInt8.ofNat (low.toNat / 256)) (UInt8.ofNat low.toNat)
  | segments =>
    let (start, length) := zeroRun 0 0 0 (0, 0) segments
    if 1 < length then
      showSegments (segments.take start) ++ [':', ':'] ++ showSegments (segments.drop (start + length))
    else showSegments segments

def SocketAddr.display (addr : SocketAddr) : String :=
  String.ofList <| match addr.ip with
    | .v4 a b c d => showIpv4 a b c d ++ ':' :: number addr.port
    | .v6 segments => '[' :: (showIpv6 segments ++ ']' :: ':' :: number addr.port)

def DirectPeerInfo.toJson (direct : DirectPeerInfo) : List Char :=
  object [field "endpoint" (string direct.endpoint.display),
    field "fingerprint" (string direct.fingerprint)]

def Peer.toJson (peer : Peer) : List Char :=
  object [field "session_id" peer.sessionId.toJson, field "member_id" peer.memberId.toJson,
    field "nickname" (string peer.nickname), field "direct" (option DirectPeerInfo.toJson peer.direct)]

def RoomVisibility.asStr : RoomVisibility → String
  | .isPublic => "public"
  | .isPrivate => "private"

def RoomSummary.toJson (room : RoomSummary) : List Char :=
  object [field "room_id" (string room.roomId), field "room_name" (string room.roomName),
    field "visibility" (string room.visibility.asStr)]

def GroupAccessMode.asStr : GroupAccessMode → String
  | .isPublic => "public"
  | .invite => "invite"
  | .approval => "approval"

def GroupSummary.toJson (group : GroupSummary) : List Char :=
  object [field "group_id" group.groupId.toJson, field "group_name" (string group.groupName),
    field "access_mode" (string group.accessMode.asStr)]

def GroupRole.asStr : GroupRole → String
  | .member => "member"
  | .admin => "admin"

def GroupMemberStatus.asStr : GroupMemberStatus → String
  | .active => "active"
  | .banned => "banned"

/-- Also the kind's word in a token. -/
def GroupTokenKind.asStr : GroupTokenKind → String
  | .member => "member"
  | .admin => "admin"
  | .invite => "invite"

def GroupMemberSummary.toJson (member : GroupMemberSummary) : List Char :=
  object [field "member_id" member.memberId.toJson, field "nickname" (string member.nickname),
    field "role" (string member.role.asStr), field "status" (string member.status.asStr)]

def RoomMemberSummary.toJson (member : RoomMemberSummary) : List Char :=
  object [field "member_id" member.memberId.toJson, field "nickname" (string member.nickname),
    field "group_role" (string member.groupRole.asStr), field "included" (bool member.included),
    field "is_owner" (bool member.isOwner)]

def IssuedGroupCredentials.toJson (credentials : IssuedGroupCredentials) : List Char :=
  object [field "admin_token" (string credentials.adminToken),
    field "invite_token" (option string credentials.inviteToken)]

def JoinRequestSummary.toJson (request : JoinRequestSummary) : List Char :=
  object [field "request_id" request.requestId.toJson, field "nickname" (string request.nickname),
    field "requested_at_ms" (number request.requestedAtMs)]

def ChatRecord.toJson (record : ChatRecord) : List Char :=
  object [field "sequence" (number record.sequence), field "message_id" record.messageId.toJson,
    field "sender" record.sender.toJson, field "room_id" (string record.roomId),
    field "sent_at_ms" (number record.sentAtMs), field "text" (string record.text)]

def DirectRecord.toJson (record : DirectRecord) : List Char :=
  object [field "message_id" record.messageId.toJson, field "sender" record.sender.toJson,
    field "recipient_session_id" record.recipientSessionId.toJson,
    field "sent_at_ms" (number record.sentAtMs), field "text" (string record.text)]

def PrivateConversationStatus.toJson : PrivateConversationStatus → List Char
  | .awaitingReply initiator => object [field "status" (string "awaiting_reply"),
      field "initiator_session_id" initiator.toJson]
  | .active => object [field "status" (string "active")]

/-- An internally tagged message: its `type`, then its fields. -/
def tagged (type : String) (fields : List (List Char)) : List Char :=
  object (field "type" (string type) :: fields)

def Welcome.fields (welcome : Welcome) : List (List Char) :=
  [field "protocol_version" (number welcome.protocolVersion),
    field "group_id" welcome.groupId.toJson, field "group_name" (string welcome.groupName),
    field "access_mode" (string welcome.accessMode.asStr), field "role" (string welcome.role.asStr),
    field "issued_credentials" (option IssuedGroupCredentials.toJson welcome.issuedCredentials),
    field "issued_member_token" (option string welcome.issuedMemberToken),
    field "room_id" (string welcome.roomId), field "room_name" (string welcome.roomName),
    field "rooms" (array (welcome.rooms.map RoomSummary.toJson)),
    field "session_id" welcome.sessionId.toJson,
    field "members" (array (welcome.members.map Peer.toJson)),
    field "history" (array (welcome.history.map ChatRecord.toJson))]

def ServerMessage.toJson : ServerMessage → List Char
  | .gatewayWelcome version gatewayId name groups => tagged "gateway_welcome"
      [field "protocol_version" (number version), field "gateway_id" gatewayId.toJson,
        field "gateway_name" (string name), field "groups" (array (groups.map GroupSummary.toJson))]
  | .joinPending groupId requestId token => tagged "join_pending"
      [field "group_id" groupId.toJson, field "request_id" requestId.toJson,
        field "request_token" (string token)]
  | .welcome content => tagged "welcome" content.fields
  | .chat message => tagged "chat" [field "message" message.toJson]
  | .roomCreated room => tagged "room_created" [field "room" room.toJson]
  | .roomJoined room history => tagged "room_joined"
      [field "room" room.toJson, field "history" (array (history.map ChatRecord.toJson))]
  | .roomLeft roomId => tagged "room_left" [field "room_id" (string roomId)]
  | .historyPage roomId messages hasMore => tagged "history_page"
      [field "room_id" (string roomId), field "messages" (array (messages.map ChatRecord.toJson)),
        field "has_more" (bool hasMore)]
  | .joinRequests requests => tagged "join_requests"
      [field "requests" (array (requests.map JoinRequestSummary.toJson))]
  | .groupMembers members offset hasMore => tagged "group_members"
      [field "members" (array (members.map GroupMemberSummary.toJson)),
        field "offset" (number offset), field "has_more" (bool hasMore)]
  | .groupTokenRotated kind token => tagged "group_token_rotated"
      [field "kind" (string kind.asStr), field "token" (string token)]
  | .roomMembers roomId members offset hasMore => tagged "room_members"
      [field "room_id" (string roomId), field "members" (array (members.map RoomMemberSummary.toJson)),
        field "offset" (number offset), field "has_more" (bool hasMore)]
  | .privateMessage message status => tagged "private_message"
      [field "message" message.toJson, field "status" status.toJson]
  | .privateClosed peer => tagged "private_closed" [field "peer_session_id" peer.toJson]
  | .memberJoined member => tagged "member_joined" [field "member" member.toJson]
  | .memberLeft sessionId => tagged "member_left" [field "session_id" sessionId.toJson]
  | .error code message => tagged "error"
      [field "code" (string code), field "message" (string message)]
  | .pong => tagged "pong" []

/-- `SecureWriter::write_json` up to its limit: whether the message is written. -/
def fitsFrame (message : ServerMessage) : Bool := Json.size message.toJson ≤ maxPlaintextFrame

end LanChat
