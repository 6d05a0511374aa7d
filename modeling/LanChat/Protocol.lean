import Mathlib.Algebra.GroupWithZero.Nat
import Mathlib.Data.List.Basic

/-!
# The protocol's data

The records and messages of `protocol.rs`. Byte strings are lists of `UInt8`,
unsigned counters are natural numbers, and `Vec` is a list. An internet
address keeps the two families apart, because the client's checks and the
display of an endpoint do.
-/

namespace LanChat

def protocolMin : ℕ := 5
def protocolMax : ℕ := 5
def defaultRoomId : String := "general"
def defaultRoomName : String := "general"
def maxPlaintextFrame : ℕ := 16 * 1024
def maxCiphertextFrame : ℕ := maxPlaintextFrame + 1024

/-- `u64::MAX` and `i64::MAX`: SQLite stores sequences and times as `i64`. -/
def u64Max : ℕ := 2 ^ 64 - 1
def i64Max : ℕ := 2 ^ 63 - 1

/-- A 128-bit identifier. -/
structure Uuid where
  bits : BitVec 128
deriving DecidableEq, Repr

/-- The big-endian bytes of the low `8 * n` bits of `v`. -/
def bigEndian (n v : ℕ) : List UInt8 :=
  (List.range n).map fun i => UInt8.ofNat (v / 256 ^ (n - 1 - i))

@[simp] theorem length_bigEndian (n v : ℕ) : (bigEndian n v).length = n := by simp [bigEndian]

def hexDigit (d : ℕ) : Char :=
  if d < 10 then Char.ofNat (48 + d) else Char.ofNat (87 + d)

/-- The low `n` hexadecimal digits of `v`, most significant first. -/
def hexDigits (n v : ℕ) : List Char :=
  (List.range n).map fun i => hexDigit (v / 16 ^ (n - 1 - i) % 16)

@[simp] theorem length_hexDigits (n v : ℕ) : (hexDigits n v).length = n := by simp [hexDigits]

def Uuid.asBytes (u : Uuid) : List UInt8 := bigEndian 16 u.bits.toNat

/-- The order of `str::cmp`, which is that of the scalar values. -/
def textKey (text : String) : List ℕ := text.toList.map Char.toNat

/-- `Uuid::simple().to_string()`: 32 digits without hyphens. -/
def Uuid.simple (u : Uuid) : String := String.ofList (hexDigits 32 u.bits.toNat)

inductive IpAddr where
  | v4 (a b c d : UInt8)
  | v6 (segments : List UInt16)
deriving DecidableEq, Repr

namespace IpAddr

def isUnspecified : IpAddr → Bool
  | v4 a b c d => a == 0 && b == 0 && c == 0 && d == 0
  | v6 segments => segments.all (· == 0)

/-- `224.0.0.0/4` and `ff00::/8`. -/
def isMulticast : IpAddr → Bool
  | v4 a _ _ _ => 224 ≤ a && a ≤ 239
  | v6 segments => match segments with
    | [] => false
    | s :: _ => 0xff00 ≤ s

end IpAddr

structure SocketAddr where
  ip : IpAddr
  port : ℕ
deriving DecidableEq, Repr

structure DirectPeerInfo where
  endpoint : SocketAddr
  fingerprint : String
deriving DecidableEq, Repr

structure Peer where
  sessionId : Uuid
  memberId : Uuid
  nickname : String
  direct : Option DirectPeerInfo
deriving DecidableEq, Repr

inductive RoomVisibility where
  | isPublic
  | isPrivate
deriving DecidableEq, Repr

structure RoomSummary where
  roomId : String
  roomName : String
  visibility : RoomVisibility
deriving DecidableEq, Repr

inductive GroupAccessMode where
  | isPublic
  | invite
  | approval
deriving DecidableEq, Repr

structure GroupSummary where
  groupId : Uuid
  groupName : String
  accessMode : GroupAccessMode
deriving DecidableEq, Repr

inductive GroupRole where
  | member
  | admin
deriving DecidableEq, Repr

inductive GroupMemberStatus where
  | active
  | banned
deriving DecidableEq, Repr

structure GroupMemberSummary where
  memberId : Uuid
  nickname : String
  role : GroupRole
  status : GroupMemberStatus
deriving DecidableEq, Repr

structure RoomMemberSummary where
  memberId : Uuid
  nickname : String
  groupRole : GroupRole
  included : Bool
  isOwner : Bool
deriving DecidableEq, Repr

inductive GroupTokenKind where
  | member
  | admin
  | invite
deriving DecidableEq, Repr

structure IssuedGroupCredentials where
  adminToken : String
  inviteToken : Option String
deriving DecidableEq, Repr

structure JoinRequestSummary where
  requestId : Uuid
  nickname : String
  requestedAtMs : ℕ
deriving DecidableEq, Repr

structure ChatRecord where
  sequence : ℕ
  messageId : Uuid
  sender : Peer
  roomId : String
  sentAtMs : ℕ
  text : String
deriving DecidableEq, Repr

structure DirectRecord where
  messageId : Uuid
  sender : Peer
  recipientSessionId : Uuid
  sentAtMs : ℕ
  text : String
deriving DecidableEq, Repr

inductive PrivateConversationStatus where
  | awaitingReply (initiatorSessionId : Uuid)
  | active
deriving DecidableEq, Repr

/-- What a client sends to the gateway. -/
inductive ClientMessage where
  | hello (protocolMin protocolMax : ℕ) (nickname : String) (directPort : Option ℕ)
      (directFingerprint : Option String)
  | joinGroup (groupId : Uuid) (credential : Option String)
  | createGroup (name : String) (accessMode : GroupAccessMode)
  | chat (roomId : String) (messageId : Uuid) (text : String)
  | createRoom (name : String) (visibility : RoomVisibility)
  | joinRoom (roomId : String)
  | leaveRoom (roomId : String)
  | loadHistory (roomId : String) (beforeSequence : ℕ) (limit : ℕ)
  | listJoinRequests
  | decideJoinRequest (requestId : Uuid) (approve : Bool)
  | listGroupMembers (offset : ℕ)
  | setMemberBanned (memberId : Uuid) (banned : Bool)
  | rotateGroupToken (kind : GroupTokenKind)
  | listRoomMembers (roomId : String) (offset : ℕ)
  | setRoomMember (roomId : String) (memberId : Uuid) (included : Bool)
  | privateChat (peerSessionId messageId : Uuid) (text : String)
  | ping
deriving DecidableEq, Repr

/-- The first message of a session in a group. -/
structure Welcome where
  protocolVersion : ℕ
  groupId : Uuid
  groupName : String
  accessMode : GroupAccessMode
  role : GroupRole
  issuedCredentials : Option IssuedGroupCredentials
  issuedMemberToken : Option String
  roomId : String
  roomName : String
  rooms : List RoomSummary
  sessionId : Uuid
  members : List Peer
  history : List ChatRecord
deriving DecidableEq, Repr

/-- What the gateway (and, for private messages, the client's own hub) sends. -/
inductive ServerMessage where
  | gatewayWelcome (protocolVersion : ℕ) (gatewayId : Uuid) (gatewayName : String)
      (groups : List GroupSummary)
  | joinPending (groupId requestId : Uuid) (requestToken : String)
  | welcome (content : Welcome)
  | chat (message : ChatRecord)
  | roomCreated (room : RoomSummary)
  | roomJoined (room : RoomSummary) (history : List ChatRecord)
  | roomLeft (roomId : String)
  | historyPage (roomId : String) (messages : List ChatRecord) (hasMore : Bool)
  | joinRequests (requests : List JoinRequestSummary)
  | groupMembers (members : List GroupMemberSummary) (offset : ℕ) (hasMore : Bool)
  | groupTokenRotated (kind : GroupTokenKind) (token : String)
  | roomMembers (roomId : String) (members : List RoomMemberSummary) (offset : ℕ)
      (hasMore : Bool)
  | privateMessage (message : DirectRecord) (status : PrivateConversationStatus)
  | privateClosed (peerSessionId : Uuid)
  | memberJoined (member : Peer)
  | memberLeft (sessionId : Uuid)
  | error (code message : String)
  | pong
deriving DecidableEq, Repr

end LanChat
