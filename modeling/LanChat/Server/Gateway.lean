import LanChat.Server.Handlers

/-!
# The gateway

The connections of a gateway, each a task that runs `handle_client` and then
`enter_group`, over the shared store and groups. A task stops at its await
points, and an `Action` lets one connection take one step: receive a message,
finish a store call or a lock-protected block (`advance`), write a queued
message, see a kick, or lose its connection. Any interleaving of these is a
run. A call may also fail for reasons outside the program (`fault`), and the
gateway may be restarted on its store.
-/

namespace LanChat

/-- A client after its `Hello`. -/
structure HelloClient where
  nickname : String
  direct : Option DirectPeerInfo
  negotiated : ℕ
deriving DecidableEq

/-- `GroupEntry`, with the hash of its token (see `ClientEntry`). -/
structure GroupEntry where
  nickname : String
  memberId : Uuid
  direct : Option DirectPeerInfo
  negotiated : ℕ
  role : GroupRole
  issuedCredentials : Option IssuedGroupCredentials
  issuedMemberToken : Option String
  heldHash : List UInt8
deriving DecidableEq

/-- The await point a connection is at. -/
inductive Task where
  | hello
  | greeting (client : HelloClient)
  | selecting (client : HelloClient)
  | joining (client : HelloClient) (groupId : Uuid) (credential : Option String)
  | authorizing (client : HelloClient) (groupId : Uuid) (credential : Option String)
  | requesting (client : HelloClient) (groupId : Uuid)
  | creatingGroup (client : HelloClient) (name : String) (accessMode : GroupAccessMode)
  | insertingGroup (client : HelloClient) (created : CreatedGroup)
  | namingCreator (client : HelloClient) (created : CreatedGroup)
  | entering (groupId : Uuid) (entry : GroupEntry)
  | loadingRooms (groupId : Uuid) (entry : GroupEntry) (me : Session) (members : List Peer)
  | loadingHistory (groupId : Uuid) (entry : GroupEntry) (me : Session) (members : List Peer)
      (rooms : List RoomSummary)
  | welcoming (groupId : Uuid) (me : Session) (welcome : ServerMessage)
  | abandoning (groupId : Uuid) (me : Session)
  | announcing (groupId : Uuid) (me : Session)
  | serving (groupId : Uuid) (me : Session) (used violations : ℕ) (handler : Option Handler)
  | leaving (groupId : Uuid) (me : Session)
  | farewell (groupId : Uuid) (me : Session)
  | closed
deriving DecidableEq

/-- A connection, with what has been written to it. -/
structure Conn where
  id : ℕ
  remote : IpAddr
  task : Task
  written : List ServerMessage
deriving DecidableEq

structure Gateway where
  gatewayId : Uuid
  gatewayName : String
  store : GatewayStore
  groups : List GroupState
  conns : List Conn
deriving DecidableEq

inductive Action where
  | accept (id : ℕ) (remote : IpAddr)
  | receive (id : ℕ) (message : ClientMessage) (newWindow : Bool)
  | advance (id : ℕ) (draw : Draw) (fault : Bool)
  | flush (id : ℕ)
  | kicked (id : ℕ)
  | disconnect (id : ℕ)
  | restart
deriving DecidableEq

/-- The connection that takes the action. -/
def Action.actor : Action → Option ℕ
  | receive id _ _ | advance id _ _ | flush id | kicked id | disconnect id => some id
  | accept _ _ | restart => none

/-- What one step of a connection does: to the store, to the groups, to its
own group, to its socket, and where its task is then. -/
structure Outcome where
  store : GatewayStore
  inserted : Option GroupState
  changes : List Change
  written : List ServerMessage
  task : Task

/-- The session of a task that has registered and not yet been removed, with its group. -/
def Task.session : Task → Option (Uuid × Session)
  | loadingRooms groupId _ me _ | loadingHistory groupId _ me _ _ | welcoming groupId me _
  | abandoning groupId me | announcing groupId me | serving groupId me _ _ _
  | leaving groupId me => some (groupId, me)
  | _ => none

/-- The session id a task goes by, until it has announced that it leaves. -/
def Task.sessionId : Task → Option Uuid
  | farewell _ me => some me.peer.sessionId
  | task => task.session.map (·.2.peer.sessionId)

/-- The group a task works in. -/
def Task.groupId : Task → Option Uuid
  | entering groupId _ | farewell groupId _ => some groupId
  | task => task.session.map (·.1)

def GroupEntry.session (entry : GroupEntry) (sessionId : Uuid) : Session :=
  { peer := { sessionId, memberId := entry.memberId, nickname := entry.nickname,
              direct := entry.direct }, role := entry.role }

def KickReason.message : KickReason → ServerMessage
  | .banned => .error "member_banned" "an administrator banned this anonymous membership"
  | .credentialRotated => .error "session_revoked"
      "this membership credential was rotated from another session"

/-- `load_groups`. -/
def loadGroups (store : GatewayStore) : List GroupState :=
  store.listGroups.map fun summary => GroupState.new summary (store.roomsOf summary.groupId)

/-- `spawn_gateway`, without the sockets and the Noise key. -/
def spawnGateway (store : GatewayStore) (configuredName : String) (draw : Draw) :
    Except String Gateway := do
  let gatewayName ← sanitizeGroupName configuredName
  let (gatewayId, store) := store.gatewayId draw
  .ok { gatewayId, gatewayName, store, groups := loadGroups store, conns := [] }

namespace Gateway

variable (prims : Primitives) (gateway : Gateway)

def conn (id : ℕ) : Option Conn := gateway.conns.find? (·.id == id)

def group (groupId : Uuid) : Option GroupState :=
  gateway.groups.find? (·.summary.groupId == groupId)

/-- A session id that no connection and no registered session has. -/
def isFreshSession (sessionId : Uuid) : Bool :=
  gateway.conns.all (fun conn => conn.task.sessionId != some sessionId) &&
    gateway.groups.all fun group => group.clients.all (·.peer.sessionId != sessionId)

/-- A store call, which a fault makes fail without effect. -/
def call (op : StoreOp) (fault : Bool) : StoreReply × GatewayStore :=
  if fault then (.failed (.bail "database task panicked"), gateway.store)
  else gateway.store.perform prims op

/-- `write_json`: what is written, nothing if it fails. -/
def write (message : ServerMessage) (fault : Bool) : List ServerMessage :=
  if fault || !fitsFrame message then [] else [message]

/-- A step that leaves everything but the task alone. -/
def moveTo (task : Task) : Outcome :=
  { store := gateway.store, inserted := none, changes := [], written := [], task }

/-- A last message to the client. -/
def refuse (message : ServerMessage) (fault : Bool) : Outcome :=
  { gateway.moveTo .closed with written := write message fault }

/-! ## `handle_client` -/

/-- The direct endpoint a `Hello` advertises, `none` when it is malformed. -/
def directOf (remote : IpAddr) : Option ℕ → Option String → Option (Option DirectPeerInfo)
  | some port, some fingerprint =>
    if port ≠ 0 ∧ isValidFingerprint fingerprint then
      some (some { endpoint := { ip := remote, port }, fingerprint })
    else none
  | none, none => some none
  | _, _ => none

def onHello (remote : IpAddr) : ClientMessage → Outcome
  | .hello min max nickname directPort directFingerprint =>
    let negotiated := Nat.min protocolMax max
    if negotiated < protocolMin || negotiated < min then
      gateway.refuse (.error "incompatible_protocol"
        s!"gateway supports protocol {protocolMin}-{protocolMax}, client supports {min}-{max}") false
    else match sanitizeNickname nickname, directOf remote directPort directFingerprint with
      | .ok nickname, some direct => gateway.moveTo (.greeting { nickname, direct, negotiated })
      | _, _ => gateway.moveTo .closed
  | _ => gateway.moveTo .closed

def welcomeTo (client : HelloClient) : ServerMessage :=
  .gatewayWelcome client.negotiated gateway.gatewayId gateway.gatewayName
    (groupSummaries gateway.groups)

def greet (client : HelloClient) (fault : Bool) : Outcome :=
  let written := write (gateway.welcomeTo client) fault
  { gateway.moveTo (if written.isEmpty then .closed else .selecting client) with written }

def onSelection (client : HelloClient) : ClientMessage → Outcome
  | .joinGroup groupId credential => gateway.moveTo (.joining client groupId credential)
  | .createGroup name accessMode => match sanitizeGroupName name with
    | .ok name => gateway.moveTo (.creatingGroup client name accessMode)
    | .error _ => gateway.moveTo .closed
  | _ => gateway.refuse
      (.error "group_selection_required" "join or create a group before chatting") false

def findGroup (client : HelloClient) (groupId : Uuid) (credential : Option String) (fault : Bool) :
    Outcome :=
  match gateway.group groupId with
  | none => gateway.refuse
      (.error "group_not_found" "the selected group no longer exists") fault
  | some _ =>
    if credential.any fun token => !isValidGroupCredential token then
      gateway.refuse
        (.error "invalid_group_credential" "the group credential has an invalid format") fault
    else gateway.moveTo (.authorizing client groupId credential)

/-- The refusals of `authorize_join`. -/
def refusal : JoinAuthorization → ServerMessage
  | .inviteRequired => .error "invite_required" "this group requires an invite token"
  | .rejected => .error "join_rejected" "an administrator rejected this join request"
  | .banned =>
    .error "member_banned" "this anonymous membership has been banned from the group"
  | .memberLimit =>
    .error "group_member_limit" "this group has reached its persistent member limit"
  | _ => .error "invalid_group_credential"
      "the saved invite, request, or administrator token is invalid"

def authorize (client : HelloClient) (groupId : Uuid) (credential : Option String) (draw : Draw)
    (fault : Bool) : Outcome :=
  let called := gateway.call prims (.authorizeJoin groupId credential client.nickname draw) fault
  let outcome := match called.1 with
    | .authorization (.allowed role memberId issuedMemberToken) =>
      gateway.moveTo (.entering groupId
        { nickname := client.nickname, memberId, direct := client.direct,
          negotiated := client.negotiated, role, issuedCredentials := none, issuedMemberToken,
          heldHash := tokenHash prims (issuedMemberToken.getD (credential.getD "")) })
    | .authorization .approvalRequired => gateway.moveTo (.requesting client groupId)
    | .authorization (.pending requestId requestToken) =>
      gateway.refuse (.joinPending groupId requestId requestToken) false
    | .authorization authorization => gateway.refuse (refusal authorization) false
    | _ => gateway.moveTo .closed
  { outcome with store := called.2 }

def requestJoin (client : HelloClient) (groupId : Uuid) (draw : Draw) (fault : Bool) : Outcome :=
  let called := gateway.call prims (.createJoinRequest groupId client.nickname draw) fault
  let outcome := match called.1 with
    | .request requestId requestToken =>
      gateway.refuse (.joinPending groupId requestId requestToken) false
    | _ => gateway.moveTo .closed
  { outcome with store := called.2 }

def createGroup (client : HelloClient) (name : String) (accessMode : GroupAccessMode) (draw : Draw)
    (fault : Bool) : Outcome :=
  let called := gateway.call prims (.createGroupWithAccess name accessMode draw) fault
  let outcome := match called.1 with
    | .created created => gateway.moveTo (.insertingGroup client created)
    | _ => gateway.refuse
        (.error "group_create_failed" "the group name is already used or could not be saved") false
  { outcome with store := called.2 }

def insertGroup (client : HelloClient) (created : CreatedGroup) : Outcome :=
  { gateway.moveTo (.namingCreator client created) with
    inserted := some (GroupState.new created.summary
      [{ roomId := defaultRoomId, roomName := defaultRoomName, visibility := .isPublic }]) }

def nameCreator (client : HelloClient) (created : CreatedGroup) (fault : Bool) : Outcome :=
  let called := gateway.call prims
    (.updateMemberNickname created.summary.groupId created.creatorMemberId client.nickname) fault
  let outcome := match called.1 with
    | .done => gateway.moveTo (.entering created.summary.groupId
        { nickname := client.nickname, memberId := created.creatorMemberId,
          direct := client.direct, negotiated := client.negotiated, role := .admin,
          issuedCredentials := some created.credentials, issuedMemberToken := none,
          heldHash := tokenHash prims created.credentials.adminToken })
    | _ => gateway.moveTo .closed
  { outcome with store := called.2 }

/-! ## `enter_group` -/

/-- The registration block: the members of the `Welcome`, and the new entry. -/
def register (group : GroupState) (groupId : Uuid) (entry : GroupEntry) (sessionId : Uuid) :
    Outcome :=
  let me := entry.session sessionId
  let members := Table.orderBy (fun peer => textKey peer.nickname)
    (group.clients.map (·.peer) ++ [me.peer])
  { gateway.moveTo (.loadingRooms groupId entry me members) with
    changes := [.register
      { peer := me.peer, role := entry.role, sender := .new, joinedRooms := [defaultRoomId],
        kick := none, heldHash := entry.heldHash }] }

def loadRooms (groupId : Uuid) (entry : GroupEntry) (me : Session) (members : List Peer)
    (fault : Bool) : Outcome :=
  let called := gateway.call prims (.roomsForMember groupId entry.memberId) fault
  let outcome := match called.1 with
    | .rooms rooms => gateway.moveTo (.loadingHistory groupId entry me members rooms)
    | _ => gateway.moveTo (.abandoning groupId me)
  { outcome with store := called.2 }

def welcomeOf (group : GroupState) (entry : GroupEntry) (me : Session) (members : List Peer)
    (rooms : List RoomSummary) (history : List ChatRecord) : Welcome :=
  { protocolVersion := entry.negotiated, groupId := group.summary.groupId,
    groupName := group.summary.groupName, accessMode := group.summary.accessMode,
    role := entry.role, issuedCredentials := entry.issuedCredentials,
    issuedMemberToken := entry.issuedMemberToken, roomId := defaultRoomId,
    roomName := defaultRoomName, rooms, sessionId := me.peer.sessionId, members, history }

def loadHistory (group : GroupState) (groupId : Uuid) (entry : GroupEntry) (me : Session)
    (members : List Peer) (rooms : List RoomSummary) (fault : Bool) : Outcome :=
  let called := gateway.call prims (.history groupId defaultRoomId historyCapacity) fault
  let outcome := match called.1 with
    | .records history => gateway.moveTo (.welcoming groupId me
        (.welcome (welcomeOf group entry me members rooms (fitHistoryToFrame history))))
    | _ => gateway.moveTo (.abandoning groupId me)
  { outcome with store := called.2 }

def sendWelcome (groupId : Uuid) (me : Session) (welcome : ServerMessage) (fault : Bool) : Outcome :=
  let written := write welcome fault
  { gateway.moveTo (if written.isEmpty then .abandoning groupId me else .announcing groupId me) with
    written }

/-! ## The session loop -/

/-- A received message: the rate limiter, then its handler. -/
def onMessage (groupId : Uuid) (me : Session) (used violations : ℕ) (message : ClientMessage)
    (newWindow : Bool) : Outcome :=
  let used := (if newWindow then 0 else used) + 1
  if maxClientMessagesPerSecond < used then
    if maxConsecutiveRateViolations ≤ violations + 1 then gateway.moveTo (.leaving groupId me)
    else
      { gateway.moveTo (.serving groupId me used (violations + 1) none) with
        changes := [.send (.session me.peer.sessionId) (.error "rate_limited"
          s!"maximum rate is {maxClientMessagesPerSecond} messages per second")] }
  else match dispatch message with
    | .answer reply =>
      { gateway.moveTo (.serving groupId me used 0 none) with
        changes := [.send (.session me.peer.sessionId) reply] }
    | .run handler => gateway.moveTo (.serving groupId me used 0 (some handler))

/-- A rotation by the session replaces the hash it holds (see `ClientEntry`). -/
def holds (groupId : Uuid) (me : Session) (handler : Handler) (reply : StoreReply) : List Change :=
  match handler, reply with
  | .rotateStore .member, .token token | .rotateStore .admin, .token token =>
    [.hold me.peer.sessionId (gateway.store.memberHash groupId me.peer.memberId)
      (tokenHash prims token)]
  | _, _ => []

/-- One step of a handler: its store call, or its lock-protected block. -/
def serve (group : GroupState) (groupId : Uuid) (me : Session) (used violations : ℕ)
    (handler : Handler) (draw : Draw) (fault : Bool) : Option Outcome :=
  match handler.storeCall groupId me draw with
  | some op =>
    let called := gateway.call prims op fault
    let next := handler.resume called.1
    some { gateway.moveTo (.serving groupId me used violations (some next)) with
      store := called.2, changes := gateway.holds prims groupId me handler called.1 }
  | none => (handler.block group me).map fun (changes, next) =>
    { gateway.moveTo (.serving groupId me used violations next) with changes }

/-- The outbound branch: the next queued message is written, or the session ends. -/
def flush (client : ClientEntry) (groupId : Uuid) (me : Session) (used violations : ℕ) :
    Option Outcome :=
  client.sender.log[client.sender.taken]?.map fun message =>
    let written := write message false
    let task := if written.isEmpty then .leaving groupId me
      else .serving groupId me used violations none
    { gateway.moveTo task with changes := [.receive me.peer.sessionId], written }

/-! ## Steps -/

/-- The step of a connection at one of its await points. -/
def advance (task : Task) (draw : Draw) (fault : Bool) : Option Outcome :=
  match task with
  | .greeting client => some (gateway.greet client fault)
  | .joining client groupId credential => some (gateway.findGroup client groupId credential fault)
  | .authorizing client groupId credential =>
    some (gateway.authorize prims client groupId credential draw fault)
  | .requesting client groupId => some (gateway.requestJoin prims client groupId draw fault)
  | .creatingGroup client name accessMode =>
    some (gateway.createGroup prims client name accessMode draw fault)
  | .insertingGroup client created => some (gateway.insertGroup client created)
  | .namingCreator client created => some (gateway.nameCreator prims client created fault)
  | .entering groupId entry =>
    if gateway.isFreshSession draw.id then
      (gateway.group groupId).map fun group => gateway.register group groupId entry draw.id
    else none
  | .loadingRooms groupId entry me members =>
    some (gateway.loadRooms prims groupId entry me members fault)
  | .loadingHistory groupId entry me members rooms => (gateway.group groupId).map fun group =>
    gateway.loadHistory prims group groupId entry me members rooms fault
  | .welcoming groupId me welcome => some (gateway.sendWelcome groupId me welcome fault)
  | .abandoning _ me =>
    some { gateway.moveTo .closed with changes := [.remove me.peer.sessionId] }
  | .announcing groupId me =>
    some { gateway.moveTo (.serving groupId me 0 0 none) with
      changes := [.send (.others me.peer.sessionId) (.memberJoined me.peer)] }
  | .serving groupId me used violations (some handler) => (gateway.group groupId).bind fun group =>
    gateway.serve prims group groupId me used violations handler draw fault
  | .leaving groupId me =>
    some { gateway.moveTo (.farewell groupId me) with changes := [.remove me.peer.sessionId] }
  | .farewell _ me =>
    some { gateway.moveTo .closed with
      changes := [.send .everyone (.memberLeft me.peer.sessionId)] }
  | _ => none

/-- The entry of a session in its group. -/
def client (groupId sessionId : Uuid) : Option ClientEntry :=
  (gateway.group groupId).bind (·.client sessionId)

/-- What a connection does in an action of its own. -/
def outcome (conn : Conn) : Action → Option Outcome
  | .receive _ message newWindow => match conn.task with
    | .hello => some (gateway.onHello conn.remote message)
    | .selecting client => some (gateway.onSelection client message)
    | .serving groupId me used violations none =>
      some (gateway.onMessage groupId me used violations message newWindow)
    | _ => none
  | .advance _ draw fault => gateway.advance prims conn.task draw fault
  | .flush _ => match conn.task with
    | .serving groupId me used violations none => (gateway.client groupId me.peer.sessionId).bind
        fun client => gateway.flush client groupId me used violations
    | _ => none
  | .kicked _ => match conn.task with
    | .serving groupId me _ _ none =>
      ((gateway.client groupId me.peer.sessionId).bind (·.kick)).map fun reason =>
        { gateway.moveTo (.leaving groupId me) with written := write reason.message false }
    | _ => none
  | .disconnect _ => match conn.task with
    | .hello | .selecting _ => some (gateway.moveTo .closed)
    | .serving groupId me _ _ none => some (gateway.moveTo (.leaving groupId me))
    | _ => none
  | _ => none

def commit (conn : Conn) (outcome : Outcome) : Gateway :=
  { gateway with
    store := outcome.store
    groups := (gateway.groups.map fun group =>
      if conn.task.groupId = some group.summary.groupId then group.applyAll outcome.changes
      else group) ++ outcome.inserted.toList
    conns := gateway.conns.map fun other =>
      if other.id = conn.id then
        { conn with task := outcome.task, written := conn.written ++ outcome.written }
      else other }

/-- The connections that hold a slot. -/
def openConns : ℕ := gateway.conns.countP (·.task != .closed)

def step (prims : Primitives) (gateway : Gateway) (action : Action) : Option Gateway :=
  match action with
  | .accept id remote =>
    if (gateway.conn id).isNone && gateway.openConns < maxConnections then
      some { gateway with
        conns := gateway.conns ++ [{ id, remote, task := .hello, written := [] }] }
    else none
  | .restart =>
    some { gateway with
      groups := loadGroups gateway.store,
      conns := gateway.conns.map fun conn => { conn with task := .closed } }
  | .receive id _ _ | .advance id _ _ | .flush id | .kicked id | .disconnect id =>
    (gateway.conn id).bind fun conn =>
      (gateway.outcome prims conn action).map (gateway.commit conn)

end Gateway

end LanChat
