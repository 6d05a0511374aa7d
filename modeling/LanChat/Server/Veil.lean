import LanChat.Server.RoomAccess
import LanChat.Storage.HiddenRoom

/-!
# The gateway as it is seen without a room

A secret is a room of a group, with the connections that know of it and their sessions. Under
its veil the gateway has no such room, in the store or in memory, and the connections that
know of it rest: nothing is in their channels or on their sockets. A step of any other
connection does under the veil what it does in the open, unless it comes upon the room
(`Overlooks`); nothing else of the room's existence gets through.
-/

namespace LanChat

structure Secret where
  groupId : Uuid
  roomId : String
  insiders : ℕ → Bool
  sessions : Uuid → Bool

section
variable (secret : Secret)

def ClientEntry.veil (client : ClientEntry) : ClientEntry :=
  if secret.sessions client.peer.sessionId then { client with sender := .new, joinedRooms := [], kick := none }
  else client

def GroupState.veil (group : GroupState) : GroupState :=
  { group with
    clients := group.clients.map (·.veil secret)
    rooms := group.rooms.filter fun room => elsewhere secret.groupId secret.roomId group.summary.groupId room.roomId }

def Task.rest : Task → Task
  | serving groupId me _ _ _ => serving groupId me 0 0 none
  | task => task

def Conn.veil (conn : Conn) : Conn :=
  if secret.insiders conn.id then { conn with task := conn.task.rest, written := [] } else conn

def Gateway.veil (gateway : Gateway) : Gateway :=
  { gateway with
    store := gateway.store.withoutRoom secret.groupId secret.roomId
    groups := gateway.groups.map (·.veil secret)
    conns := gateway.conns.map (·.veil secret) }

def Outcome.veil (outcome : Outcome) : Outcome :=
  { outcome with store := outcome.store.withoutRoom secret.groupId secret.roomId }

end

variable {secret : Secret}

namespace ClientEntry

variable {client : ClientEntry}

theorem veil_inside (inside : secret.sessions client.peer.sessionId = true) :
    client.veil secret = { client with sender := .new, joinedRooms := [], kick := none } := if_pos inside

theorem veil_outside (outside : secret.sessions client.peer.sessionId = false) : client.veil secret = client :=
  if_neg (by simp [outside])

@[simp] theorem veil_peer : (client.veil secret).peer = client.peer := by
  unfold veil
  split <;> rfl

@[simp] theorem veil_role : (client.veil secret).role = client.role := by
  unfold veil
  split <;> rfl

@[simp] theorem veil_veil : (client.veil secret).veil secret = client.veil secret := by
  cases inside : secret.sessions client.peer.sessionId with
  | false => rw [veil_outside inside, veil_outside inside]
  | true => simp [veil_inside, inside]

/-- Under the veil a change does the same to a session as in the open. -/
theorem veil_apply (change : Change) : ((client.veil secret).apply change).veil secret = (client.apply change).veil secret := by
  cases inside : secret.sessions client.peer.sessionId with
  | false => rw [veil_outside inside]
  | true =>
    have held : ((client.veil secret).apply change).heldHash = (client.apply change).heldHash := by
      rw [veil_inside inside]
      cases change <;> simp only [apply, joinRoom, leaveRoom]
      all_goals repeat' split
      all_goals rfl
    rw [@veil_inside secret ((client.veil secret).apply change) (by simpa using inside),
      @veil_inside secret (client.apply change) (by simpa using inside), held]
    simp

end ClientEntry

namespace GroupState

variable {group : GroupState}

@[simp] theorem veil_summary : (group.veil secret).summary = group.summary := rfl

@[simp] theorem veil_roomCreation : (group.veil secret).roomCreation = group.roomCreation := rfl

@[simp] theorem veil_veil : (group.veil secret).veil secret = group.veil secret := by
  simp [veil, List.filter_filter]

/-- Under the veil a change does the same to a group as in the open. -/
theorem veil_apply (change : Change) : ((group.veil secret).apply change).veil secret = (group.apply change).veil secret := by
  cases change with
  | register client => simp [apply, veil, List.filter_filter]
  | remove sessionId =>
    have same : ((fun client : ClientEntry => decide (client.peer.sessionId ≠ sessionId)) ∘ (·.veil secret)) =
        fun client : ClientEntry => decide (client.peer.sessionId ≠ sessionId) := by
      funext client
      rw [Function.comp_apply, ClientEntry.veil_peer]
    simp only [apply, veil, List.filter_map, List.map_map, List.filter_filter, Bool.and_self, same]
    simp
  | openRoom room => simp [apply, veil, List.filter_filter, List.filter_append]
  | lockCreation sessionId => simp [apply, veil, List.filter_filter]
  | unlockCreation sessionId =>
    by_cases held : group.roomCreation = some sessionId
    · simp [apply, veil, held, List.filter_filter]
    · simp [apply, held]
  | send | join | leave | kick | hold | receive =>
    simp [apply, veil, List.filter_filter, ClientEntry.veil_apply]

theorem veil_applyAll (changes : List Change) :
    ((group.veil secret).applyAll changes).veil secret = (group.applyAll changes).veil secret := by
  induction changes generalizing group with
  | nil => exact veil_veil
  | cons change changes ih => rw [applyAll_cons, applyAll_cons, ← ih, veil_apply, ih]

end GroupState

/-! ## Looking up under the veil -/

theorem elsewhere_of {groupId : Uuid} {roomId : String} (apart : groupId = secret.groupId → roomId ≠ secret.roomId) :
    elsewhere secret.groupId secret.roomId groupId roomId = true :=
  elsewhere_iff.2 fun same => apart same.1 same.2

namespace GroupState

variable {group : GroupState}

theorem client_veil {sessionId : Uuid} (outside : secret.sessions sessionId = false) :
    (group.veil secret).client sessionId = group.client sessionId := by
  simp only [client, veil, List.find?_map, Function.comp_def, ClientEntry.veil_peer]
  cases found : group.clients.find? (·.peer.sessionId == sessionId) with
  | none => rfl
  | some client =>
    have same : client.peer.sessionId = sessionId := by simpa using List.find?_some found
    rw [Option.map_some, ClientEntry.veil_outside (by rwa [same])]

theorem room_veil {roomId : String} (apart : group.summary.groupId = secret.groupId → roomId ≠ secret.roomId) :
    (group.veil secret).room roomId = group.room roomId := by
  refine Table.find?_keep fun room _ picked => ?_
  rw [eq_of_beq picked]
  exact elsewhere_of apart

theorem hasJoined_veil {sessionId : Uuid} (outside : secret.sessions sessionId = false) (roomId : String) :
    (group.veil secret).hasJoined sessionId roomId = group.hasJoined sessionId roomId := by
  rw [hasJoined, client_veil outside, hasJoined]

theorem requireAdmin_veil {sessionId : Uuid} (outside : secret.sessions sessionId = false) :
    (group.veil secret).requireAdmin sessionId = group.requireAdmin sessionId := by
  rw [requireAdmin, client_veil outside, requireAdmin]

theorem usesRoomName_veil {name : String} (apart : group.summary.groupId = secret.groupId →
    ∀ room ∈ group.rooms, room.roomId = secret.roomId → nocase room.roomName ≠ nocase name) :
    (group.veil secret).usesRoomName name = group.usesRoomName name := by
  refine Table.any_keep fun room mem picked => elsewhere_of fun own same => ?_
  exact apart own room mem same (eq_of_beq picked)

end GroupState

theorem groupSummaries_veil (groups : List GroupState) :
    groupSummaries (groups.map (·.veil secret)) = groupSummaries groups := by
  simp [groupSummaries, Function.comp_def]

namespace Task

@[simp] theorem rest_sessionId (task : Task) : task.rest.sessionId = task.sessionId := by
  cases task <;> rfl

@[simp] theorem rest_isClosed (task : Task) : (task.rest != .closed) = (task != .closed) := by
  rw [Bool.eq_iff_iff, bne_iff_ne, bne_iff_ne]
  cases task <;> simp [rest]

end Task

namespace Conn

variable {conn : Conn}

theorem veil_inside (inside : secret.insiders conn.id = true) :
    conn.veil secret = { conn with task := conn.task.rest, written := [] } := if_pos inside

theorem veil_outside (outside : secret.insiders conn.id = false) : conn.veil secret = conn :=
  if_neg (by simp [outside])

@[simp] theorem veil_id : (conn.veil secret).id = conn.id := by
  unfold veil
  split <;> rfl

@[simp] theorem veil_sessionId : (conn.veil secret).task.sessionId = conn.task.sessionId := by
  unfold veil
  split <;> simp

@[simp] theorem veil_isClosed : ((conn.veil secret).task != .closed) = (conn.task != .closed) := by
  unfold veil
  split <;> simp

@[simp] theorem veil_veil : (conn.veil secret).veil secret = conn.veil secret := by
  cases inside : secret.insiders conn.id with
  | false => rw [veil_outside inside, veil_outside inside]
  | true =>
    rw [veil_inside (by simpa using inside), veil_inside inside]
    cases task : conn.task <;> rfl

end Conn

namespace Gateway

variable {prims : Primitives} {gateway : Gateway} {conn : Conn} {outcome : Outcome}

@[simp] theorem veil_store :
    (gateway.veil secret).store = gateway.store.withoutRoom secret.groupId secret.roomId := rfl

theorem conn_veil {id : ℕ} (outside : secret.insiders id = false) : (gateway.veil secret).conn id = gateway.conn id := by
  simp only [Gateway.conn, veil, List.find?_map, Function.comp_def, Conn.veil_id]
  cases found : gateway.conns.find? (·.id == id) with
  | none => rfl
  | some conn =>
    have same : conn.id = id := by simpa using List.find?_some found
    rw [Option.map_some, Conn.veil_outside (by rwa [same])]

theorem group_veil (groupId : Uuid) :
    (gateway.veil secret).group groupId = (gateway.group groupId).map (·.veil secret) := by
  simp only [group, veil, List.find?_map, Function.comp_def, GroupState.veil_summary]

theorem client_veil {groupId sessionId : Uuid} (outside : secret.sessions sessionId = false) :
    (gateway.veil secret).client groupId sessionId = gateway.client groupId sessionId := by
  simp only [client, group_veil]
  cases gateway.group groupId with
  | none => rfl
  | some group => exact GroupState.client_veil outside

theorem isFreshSession_veil (sessionId : Uuid) :
    (gateway.veil secret).isFreshSession sessionId = gateway.isFreshSession sessionId := by
  simp [isFreshSession, veil, GroupState.veil, List.all_map, Function.comp_def]

theorem openConns_veil : (gateway.veil secret).openConns = gateway.openConns := by
  simp [openConns, veil, List.countP_map, Function.comp_def]

/-- A call that misses the room gives the same reply under the veil. -/
theorem call_veil (known : gateway.store.hasGroup secret.groupId = true) (op : StoreOp)
    (misses : op.Misses secret.groupId secret.roomId gateway.store) (fault : Bool) :
    (gateway.veil secret).call prims op fault = ((gateway.call prims op fault).1,
      (gateway.call prims op fault).2.withoutRoom secret.groupId secret.roomId) := by
  cases fault with
  | true => rfl
  | false => exact GatewayStore.perform_withoutRoom known misses

/-- **Committing under the veil.** What a step leaves under the veil depends on what there was under it. -/
theorem veil_commit (conn : Conn) (outcome : Outcome) :
    ((gateway.veil secret).commit conn (outcome.veil secret)).veil secret = (gateway.commit conn outcome).veil secret := by
  have store : (outcome.store.withoutRoom secret.groupId secret.roomId).withoutRoom secret.groupId secret.roomId =
      outcome.store.withoutRoom secret.groupId secret.roomId := by
    simp [GatewayStore.withoutRoom, Table.keep, List.filter_filter]
  have group : ∀ group : GroupState, (if conn.task.groupId = some group.summary.groupId then
      (group.veil secret).applyAll outcome.changes else group.veil secret).veil secret =
        (if conn.task.groupId = some group.summary.groupId then group.applyAll outcome.changes else group).veil secret := by
    intro group
    split
    · exact GroupState.veil_applyAll _
    · exact GroupState.veil_veil
  have other : ∀ other : Conn, (if other.id = conn.id then after conn outcome else other.veil secret).veil secret =
      (if other.id = conn.id then after conn outcome else other).veil secret := by
    intro other
    split
    · rfl
    · exact Conn.veil_veil
  simp only [commit, veil, Outcome.veil, store, List.map_append, List.map_map]
  congr 1
  · congr 1
    exact List.map_congr_left fun old _ => group old
  · refine List.map_congr_left fun old _ => ?_
    simp only [Function.comp_apply, Conn.veil_id]
    exact other old

end Gateway

/-! ## Coming upon the room -/

/-- The room a message asks for. -/
def ClientMessage.askedRoom : ClientMessage → Option String
  | chat roomId _ _ | joinRoom roomId | leaveRoom roomId | loadHistory roomId _ _ | listRoomMembers roomId _
  | setRoomMember roomId _ _ => some roomId
  | _ => none

/-- The room a handler works on. -/
def Handler.workRoom : Handler → Option String
  | chatJoined roomId _ _ | chatRoom roomId _ _ | chatAppend roomId _ _ | joinFind roomId | leave roomId
  | historyJoined roomId _ _ | historyLoad roomId _ _ | roomMembersManage roomId _ | roomMembersLoad roomId _
  | setRoomMemberStore roomId _ _ | setRoomMemberRoom roomId _ _ | setRoomMemberRemove _ roomId => some roomId
  | chatBroadcast message => some message.roomId
  | createInsert room | createAnnounce room | joinMember room | joinAccess room _ | joinHistory room
  | joinInsert room _ | setRoomMemberNotify _ room => some room.roomId
  | _ => none

/-- The secret does not get in the way of a handler of a group: a room it creates neither meets
the limit of rooms because of the secret one nor has its name or its id, and a
message it posts does not have the id of one in the secret room. -/
def Handler.Overlooks (secret : Secret) (gateway : Gateway) (groupId : Uuid) (draw : Draw) : Handler → Prop
  | createCheck name _ => groupId = secret.groupId → ∀ group ∈ gateway.groups, group.summary.groupId = secret.groupId →
    (maxRooms ≤ group.rooms.length → maxRooms ≤ (group.veil secret).rooms.length) ∧
    ∀ room ∈ group.rooms, room.roomId = secret.roomId → nocase room.roomName ≠ nocase name
  | createStore name _ => groupId = secret.groupId → draw.id.simple ≠ secret.roomId ∧ ∀ row ∈ gateway.store.rooms,
    row.groupId = secret.groupId → row.roomId = secret.roomId → nocase row.name ≠ nocase name
  | chatAppend _ messageId _ => ∀ row ∈ gateway.store.groupMessages,
    row.groupId = secret.groupId → row.roomId = secret.roomId → row.messageId ≠ messageId
  | _ => True

/-- The step of a connection that does not come upon the secret. -/
def Task.Overlooks (secret : Secret) (gateway : Gateway) (task : Task) : Action → Prop
  | .receive _ message _ => message.askedRoom ≠ some secret.roomId
  | .advance _ draw _ => match task with
    | .entering _ _ => secret.sessions draw.id = false
    | .loadingRooms groupId entry _ _ => groupId = secret.groupId →
      gateway.store.memberCanAccessRoom secret.groupId secret.roomId entry.memberId = false
    | .serving groupId _ _ _ (some handler) => handler.Overlooks secret gateway groupId draw
    | _ => True
  | _ => True

/-- A connection that knows nothing of the secret: its session is another, and it does not work on the room. -/
structure Task.Unaware (secret : Secret) (task : Task) : Prop where
  session : ∀ sessionId, task.sessionId = some sessionId → secret.sessions sessionId = false
  handler : ∀ handler, task.handler = some handler → task.groupId = some secret.groupId →
    handler.workRoom ≠ some secret.roomId

namespace Gateway

section
variable {prims : Primitives} {gateway : Gateway} {groupId : Uuid} {me : Session} {used violations : ℕ}
  {handler : Handler} {draw : Draw} {fault : Bool}

/-! ## Steps under the veil -/

theorem refuse_veil (message : ServerMessage) :
    (gateway.veil secret).refuse message fault = (gateway.refuse message fault).veil secret := rfl

theorem refuse_store_veil (message : ServerMessage) (store : GatewayStore) :
    { (gateway.veil secret).refuse message fault with
      store := store.withoutRoom secret.groupId secret.roomId } =
        Outcome.veil secret { gateway.refuse message fault with store } := by
  unfold refuse
  -- the written message is of no interest here, and costly to compute
  generalize write message fault = written
  rfl

theorem onHello_veil (remote : IpAddr) (message : ClientMessage) :
    (gateway.veil secret).onHello remote message = (gateway.onHello remote message).veil secret := by
  cases message with
  | hello min max nickname port fingerprint =>
    simp only [onHello]
    split
    · exact refuse_veil _
    · split <;> rfl
  | _ => rfl

theorem onSelection_veil (client : HelloClient) (message : ClientMessage) :
    (gateway.veil secret).onSelection client message = (gateway.onSelection client message).veil secret := by
  cases message with
  | createGroup name mode =>
    simp only [onSelection]
    split <;> rfl
  | _ => rfl

theorem onMessage_veil (message : ClientMessage) (newWindow : Bool) :
    (gateway.veil secret).onMessage groupId me used violations message newWindow =
      (gateway.onMessage groupId me used violations message newWindow).veil secret := by
  simp only [onMessage]
  generalize (if newWindow = true then 0 else used) + 1 = count
  split
  · split <;> rfl
  · split <;> rfl

theorem greet_veil (client : HelloClient) :
    (gateway.veil secret).greet client fault = (gateway.greet client fault).veil secret := by
  have same : (gateway.veil secret).welcomeTo client = gateway.welcomeTo client := by
    simp only [welcomeTo, veil, groupSummaries_veil]
  rw [greet, greet, same]
  rfl

theorem findGroup_veil (client : HelloClient) (credential : Option String) :
    (gateway.veil secret).findGroup client groupId credential fault =
      (gateway.findGroup client groupId credential fault).veil secret := by
  rw [findGroup, findGroup, group_veil]
  cases gateway.group groupId with
  | none => rfl
  | some group =>
    simp only [Option.map_some]
    split <;> rfl

/-! ### Handlers -/

theorem storeCall_misses {op : StoreOp} (waits : handler.storeCall groupId me draw = some op)
    (unaware : groupId = secret.groupId → handler.workRoom ≠ some secret.roomId)
    (overlooks : handler.Overlooks secret gateway groupId draw) :
    op.Misses secret.groupId secret.roomId gateway.store := by
  have apart : ∀ roomId, handler.workRoom = some roomId → ¬ (groupId = secret.groupId ∧ roomId = secret.roomId) := by
    rintro roomId works ⟨own, rfl⟩
    exact unaware own works
  cases handler <;> cases waits
  case chatAppend => exact ⟨apart _ rfl, overlooks⟩
  case createStore => exact overlooks
  all_goals first | trivial | exact apart _ rfl

/-- The block of a handler is the same under the veil. -/
theorem block_veil {group : GroupState} (found : gateway.group groupId = some group)
    (outside : secret.sessions me.peer.sessionId = false)
    (unaware : groupId = secret.groupId → handler.workRoom ≠ some secret.roomId)
    (overlooks : handler.Overlooks secret gateway groupId draw) :
    handler.block (group.veil secret) me = handler.block group me := by
  obtain ⟨inGroups, rfl⟩ := group_some found
  have room : ∀ roomId, handler.workRoom = some roomId → (group.veil secret).room roomId = group.room roomId := by
    intro roomId works
    exact GroupState.room_veil fun own same => unaware own (same ▸ works)
  cases handler with
  | chatJoined => simp only [Handler.block, GroupState.hasJoined_veil outside]
  | historyJoined => simp only [Handler.block, GroupState.hasJoined_veil outside]
  | chatRoom roomId => simp only [Handler.block, room roomId rfl]
  | joinFind roomId => simp only [Handler.block, room roomId rfl]
  | setRoomMemberRoom roomId => simp only [Handler.block, room roomId rfl]
  | joinMember => simp only [Handler.block, GroupState.client_veil outside]
  | createCheck name =>
    obtain ⟨full, names⟩ : (maxRooms ≤ (group.veil secret).rooms.length ↔ maxRooms ≤ group.rooms.length) ∧
        (group.veil secret).usesRoomName name = group.usesRoomName name := by
      by_cases own : group.summary.groupId = secret.groupId
      · obtain ⟨limit, names⟩ := overlooks own group inGroups own
        exact ⟨⟨fun full => full.trans (List.length_filter_le _ _), limit⟩, GroupState.usesRoomName_veil fun _ => names⟩
      · refine ⟨?_, GroupState.usesRoomName_veil fun same => absurd same own⟩
        have all : (group.veil secret).rooms = group.rooms :=
          List.filter_eq_self.2 fun room _ => elsewhere_of_group own
        rw [all]
    simp only [Handler.block, full, names]
  | requestsAdmin | decideAdmin | membersAdmin | banAdmin | rotateAdmin =>
    simp only [Handler.block, Handler.afterAdmin, GroupState.requireAdmin_veil outside]
  | _ => rfl

theorem holds_veil (reply : StoreReply) :
    (gateway.veil secret).holds prims groupId me handler reply = gateway.holds prims groupId me handler reply := by
  cases handler with
  | rotateStore kind => cases kind <;> cases reply <;> rfl
  | _ => rfl

section
variable (known : gateway.store.hasGroup secret.groupId = true)
include known

theorem serve_veil {group : GroupState} (found : gateway.group groupId = some group)
    (outside : secret.sessions me.peer.sessionId = false)
    (unaware : groupId = secret.groupId → handler.workRoom ≠ some secret.roomId)
    (overlooks : handler.Overlooks secret gateway groupId draw) :
    (gateway.veil secret).serve prims (group.veil secret) groupId me used violations handler draw fault =
      (gateway.serve prims group groupId me used violations handler draw fault).map (·.veil secret) := by
  simp only [serve]
  cases waits : handler.storeCall groupId me draw with
  | some op =>
    simp only [call_veil known op (storeCall_misses waits unaware overlooks), holds_veil]
    rfl
  | none =>
    simp only [block_veil found outside unaware overlooks, Option.map_map]
    rfl

/-! ### Entering -/

theorem authorize_veil (client : HelloClient) (credential : Option String) :
    (gateway.veil secret).authorize prims client groupId credential draw fault =
      (gateway.authorize prims client groupId credential draw fault).veil secret := by
  simp only [authorize, call_veil known (.authorizeJoin groupId credential client.nickname draw) trivial]
  split <;> first | exact refuse_store_veil _ _ | rfl

theorem requestJoin_veil (client : HelloClient) :
    (gateway.veil secret).requestJoin prims client groupId draw fault =
      (gateway.requestJoin prims client groupId draw fault).veil secret := by
  simp only [requestJoin, call_veil known (.createJoinRequest groupId client.nickname draw) trivial]
  split <;> first | exact refuse_store_veil _ _ | rfl

theorem createGroup_veil (client : HelloClient) (name : String) (mode : GroupAccessMode) :
    (gateway.veil secret).createGroup prims client name mode draw fault =
      (gateway.createGroup prims client name mode draw fault).veil secret := by
  simp only [createGroup, call_veil known (.createGroupWithAccess name mode draw) trivial]
  split <;> first | exact refuse_store_veil _ _ | rfl

theorem nameCreator_veil (client : HelloClient) (created : CreatedGroup) :
    (gateway.veil secret).nameCreator prims client created fault =
      (gateway.nameCreator prims client created fault).veil secret := by
  simp only [nameCreator, call_veil known
    (.updateMemberNickname created.summary.groupId created.creatorMemberId client.nickname) trivial]
  split <;> rfl

theorem loadRooms_veil (entry : GroupEntry) (members : List Peer) (denied : groupId = secret.groupId →
    gateway.store.memberCanAccessRoom secret.groupId secret.roomId entry.memberId = false) :
    (gateway.veil secret).loadRooms prims groupId entry me members fault =
      (gateway.loadRooms prims groupId entry me members fault).veil secret := by
  simp only [loadRooms, call_veil known (.roomsForMember groupId entry.memberId) denied]
  split <;> rfl

theorem loadHistory_veil (group : GroupState) (entry : GroupEntry) (members : List Peer) (rooms : List RoomSummary)
    (notGeneral : secret.roomId ≠ defaultRoomId) :
    (gateway.veil secret).loadHistory prims (group.veil secret) groupId entry me members rooms fault =
      (gateway.loadHistory prims group groupId entry me members rooms fault).veil secret := by
  simp only [loadHistory, call_veil known (.history groupId defaultRoomId historyCapacity)
    fun same => notGeneral same.2.symm]
  split <;> rfl

/-- **A step that does not come upon the secret** is the same step under the veil. -/
theorem advance_veil {task : Task} (notGeneral : secret.roomId ≠ defaultRoomId) (unaware : task.Unaware secret) {id : ℕ}
    (overlooks : task.Overlooks secret gateway (.advance id draw fault)) :
    (gateway.veil secret).advance prims task draw fault = (gateway.advance prims task draw fault).map (·.veil secret) := by
  cases task with
  | greeting => exact congrArg some (greet_veil _)
  | joining => exact congrArg some (findGroup_veil _ _)
  | authorizing => exact congrArg some (authorize_veil known _ _)
  | requesting => exact congrArg some (requestJoin_veil known _)
  | creatingGroup => exact congrArg some (createGroup_veil known _ _ _)
  | namingCreator => exact congrArg some (nameCreator_veil known _ _)
  | entering groupId entry =>
    simp only [advance, isFreshSession_veil, group_veil]
    split
    · cases gateway.group groupId with
      | none => rfl
      | some group => simp [register, GroupState.veil, Function.comp_def, Outcome.veil, moveTo]
    · rfl
  | loadingRooms => exact congrArg some (loadRooms_veil known _ _ overlooks)
  | loadingHistory groupId entry me members rooms =>
    simp only [advance, group_veil]
    cases gateway.group groupId with
    | none => rfl
    | some group => exact congrArg some (loadHistory_veil known _ _ _ _ notGeneral)
  | serving groupId me used violations handler =>
    cases handler with
    | none => rfl
    | some handler =>
      simp only [advance, group_veil]
      cases found : gateway.group groupId with
      | none => rfl
      | some group =>
        exact serve_veil known found (unaware.session _ rfl)
          (fun own => unaware.handler handler rfl (by rw [own]; rfl)) overlooks
  | _ => rfl

theorem outcome_veil {conn : Conn} {action : Action} (notGeneral : secret.roomId ≠ defaultRoomId)
    (unaware : conn.task.Unaware secret) (overlooks : conn.task.Overlooks secret gateway action) :
    (gateway.veil secret).outcome prims conn action = (gateway.outcome prims conn action).map (·.veil secret) := by
  cases action with
  | accept | restart => rfl
  | advance => exact advance_veil known notGeneral unaware overlooks
  | receive id message newWindow =>
    simp only [outcome]
    split
    · exact congrArg some (onHello_veil _ _)
    · exact congrArg some (onSelection_veil _ _)
    · exact congrArg some (onMessage_veil _ _)
    · rfl
  | flush id =>
    simp only [outcome]
    split
    · rename_i groupId me used violations task
      rw [client_veil (unaware.session _ (by rw [task]; rfl))]
      cases gateway.client groupId me.peer.sessionId with
      | none => rfl
      | some client =>
        simp only [Option.bind_some, flush, Option.map_map]
        rfl
    · rfl
  | kicked id =>
    simp only [outcome]
    split
    · rename_i groupId me used violations task
      rw [client_veil (unaware.session _ (by rw [task]; rfl)), Option.map_map]
      rfl
    · rfl
  | disconnect id =>
    simp only [outcome]
    split <;> rfl

end

end

end Gateway

end LanChat
