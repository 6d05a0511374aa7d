import LanChat.Server.History

/-!
# Groups in memory

What a group's task-shared state holds: the registered sessions, the rooms and
the lock of room creation. Every lock-protected block of `server.rs` is a list
of `Change`s of one group: a send on the channels of some sessions, a
registration, a change of one session's rooms, a kick. A broadcast collects its
recipients under the lock and sends to them after it, without an await in
between: it is one block for tasks that are interleaved at their await points,
and two broadcasts in parallel on two threads are left out.
-/

namespace LanChat

def clientQueueCapacity : ℕ := 256
def maxConnections : ℕ := 128
def maxRooms : ℕ := 64
def maxClientMessagesPerSecond : ℕ := 24
def maxConsecutiveRateViolations : ℕ := 5

inductive KickReason where
  | banned
  | credentialRotated
deriving DecidableEq, Repr

/-- The bounded channel of a session: everything it has accepted in order, how
much of that the session has received, and whether it ever refused a message. -/
structure Outbound where
  log : List ServerMessage
  taken : ℕ
  dropped : Bool
deriving DecidableEq

def Outbound.new : Outbound := { log := [], taken := 0, dropped := false }

/-- `try_send`. -/
def Outbound.push (channel : Outbound) (message : ServerMessage) : Outbound :=
  if channel.log.length - channel.taken < clientQueueCapacity then
    { channel with log := channel.log ++ [message] }
  else { channel with dropped := true }

/-- A registered session. `heldHash` is not in the source: it records the hash
of the member or administrator token the session was admitted with or issued,
and follows the rotations of that token that the session performs itself. -/
structure ClientEntry where
  peer : Peer
  role : GroupRole
  sender : Outbound
  joinedRooms : List String
  kick : Option KickReason
  heldHash : List UInt8
deriving DecidableEq

/-- `clients` and `rooms` are keyed by session id and by room id.
`roomCreation` is the session that holds the lock. -/
structure GroupState where
  summary : GroupSummary
  clients : List ClientEntry
  rooms : List RoomSummary
  roomCreation : Option Uuid
deriving DecidableEq

def GroupState.new (summary : GroupSummary) (rooms : List RoomSummary) : GroupState :=
  { summary, clients := [], rooms, roomCreation := none }

/-- The sessions a block picks out of `clients`. -/
inductive Recipients where
  | everyone
  | session (sessionId : Uuid)
  | others (sessionId : Uuid)
  | inRoom (roomId : String)
  | member (memberId : Uuid)
  | otherSessions (memberId sessionId : Uuid)
  | ownerAndAdmins (memberId : Uuid)
deriving DecidableEq, Repr

def Recipients.selects (whom : Recipients) (client : ClientEntry) : Bool :=
  match whom with
  | everyone => true
  | session sessionId => client.peer.sessionId == sessionId
  | others sessionId => client.peer.sessionId != sessionId
  | inRoom roomId => roomId ∈ client.joinedRooms
  | member memberId => client.peer.memberId == memberId
  | otherSessions memberId sessionId =>
    client.peer.sessionId != sessionId && client.peer.memberId == memberId
  | ownerAndAdmins memberId => client.role == .admin || client.peer.memberId == memberId

inductive Change where
  | send (whom : Recipients) (message : ServerMessage)
  | register (client : ClientEntry)
  | remove (sessionId : Uuid)
  | join (sessionId : Uuid) (roomId : String)
  | leave (whom : Recipients) (roomId : String)
  | kick (whom : Recipients) (reason : KickReason)
  | hold (sessionId : Uuid) (replaced hash : List UInt8)
  | receive (sessionId : Uuid)
  | openRoom (room : RoomSummary)
  | lockCreation (sessionId : Uuid)
  | unlockCreation (sessionId : Uuid)
deriving DecidableEq

namespace ClientEntry

def joinRoom (client : ClientEntry) (roomId : String) : ClientEntry :=
  if roomId ∈ client.joinedRooms then client
  else { client with joinedRooms := client.joinedRooms ++ [roomId] }

def leaveRoom (client : ClientEntry) (roomId : String) : ClientEntry :=
  { client with joinedRooms := client.joinedRooms.filter (· ≠ roomId) }

/-- What a change does to one registered session. -/
def apply (client : ClientEntry) : Change → ClientEntry
  | .send whom message =>
    if whom.selects client then { client with sender := client.sender.push message } else client
  | .join sessionId roomId => if client.peer.sessionId = sessionId then client.joinRoom roomId else client
  | .leave whom roomId => if whom.selects client then client.leaveRoom roomId else client
  | .kick whom reason => if whom.selects client then { client with kick := some reason } else client
  | .hold sessionId replaced hash =>
    if client.peer.sessionId = sessionId ∧ client.heldHash = replaced then
      { client with heldHash := hash }
    else client
  | .receive sessionId =>
    if client.peer.sessionId = sessionId then
      { client with sender := { client.sender with taken := client.sender.taken + 1 } }
    else client
  | _ => client

end ClientEntry

namespace GroupState

def apply (group : GroupState) (change : Change) : GroupState :=
  match change with
  | .register client => { group with clients := group.clients ++ [client] }
  | .remove sessionId =>
    { group with clients := group.clients.filter (·.peer.sessionId ≠ sessionId) }
  | .openRoom room => { group with rooms := group.rooms ++ [room] }
  | .lockCreation sessionId => { group with roomCreation := some sessionId }
  | .unlockCreation sessionId =>
    if group.roomCreation = some sessionId then { group with roomCreation := none } else group
  | change => { group with clients := group.clients.map (·.apply change) }

def applyAll (group : GroupState) (changes : List Change) : GroupState := changes.foldl apply group

def client (group : GroupState) (sessionId : Uuid) : Option ClientEntry :=
  group.clients.find? (·.peer.sessionId == sessionId)

def room (group : GroupState) (roomId : String) : Option RoomSummary :=
  group.rooms.find? (·.roomId == roomId)

/-- `require_admin`. -/
def requireAdmin (group : GroupState) (sessionId : Uuid) : Bool :=
  (group.client sessionId).any (·.role = .admin)

def hasJoined (group : GroupState) (sessionId : Uuid) (roomId : String) : Bool :=
  (group.client sessionId).any fun client => decide (roomId ∈ client.joinedRooms)

/-- `eq_ignore_ascii_case` is equality under `nocase`. -/
def usesRoomName (group : GroupState) (name : String) : Bool :=
  group.rooms.any fun room => nocase room.roomName == nocase name

end GroupState

/-- `group_summaries`. -/
def groupSummaries (groups : List GroupState) : List GroupSummary :=
  Table.orderBy (fun summary => textKey summary.groupName) (groups.map (·.summary))

end LanChat
