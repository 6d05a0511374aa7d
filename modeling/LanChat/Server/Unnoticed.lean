import LanChat.Base.Unwinding
import LanChat.Server.Veil

/-!
# What shows a private room

Two runs of a gateway: in one of them a room exists, its members chat in it, change who
is included and read its history; in the other there is no such room and these connections
rest. Every other connection, in any interleaving, gets the same on its socket in both
(`room_unnoticed`), unless it asks for the room itself, enters with access to it, creates a
room when the secret one makes the difference to the limit or has the name, or posts a
message under an id used in it.
-/

namespace LanChat

open Transition

variable {secret : Secret}

/-! ## The room of a handler -/

theorem workRoom_dispatch {message : ClientMessage} {handler : Handler} (h : dispatch message = .run handler) :
    handler.workRoom = message.askedRoom := by
  unfold dispatch at h
  repeat' split at h
  all_goals cases h <;> rfl

namespace Handler

variable {handler next : Handler} {group : GroupState} {me : Session} {changes : List Change}

/-- A block goes on with the same room, or with none. -/
theorem workRoom_block (h : handler.block group me = some (changes, some next)) :
    next.workRoom = none ∨ next.workRoom = handler.workRoom := by
  cases handler with
  | joinFind roomId =>
    simp only [block] at h
    split at h <;> cases h
    rename_i room found
    have same : room.roomId = roomId := by simpa using List.find?_some found
    exact .inr (congrArg some same)
  | setRoomMemberRoom roomId memberId included =>
    simp only [block] at h
    split at h
    · cases h
      exact .inr rfl
    · rename_i room found
      have same : room.roomId = roomId := by simpa using List.find?_some found
      split at h <;> cases h
      · exact .inr (congrArg some same)
      · exact .inr rfl
  | requestsAdmin | decideAdmin | membersAdmin | banAdmin | rotateAdmin =>
    simp only [block, afterAdmin] at h
    split at h <;> cases h
    exact .inl rfl
  | _ =>
    simp only [block] at h
    repeat' split at h
    all_goals cases h <;> exact .inr rfl

section
variable {prims : Primitives} {gateway : Gateway} {groupId : Uuid} {draw : Draw} {fault : Bool}

theorem roomId_record {roomId text : String} {messageId : Uuid} {sender : Peer} {sentAtMs : ℕ} {message : ChatRecord}
    (reply : (gateway.call prims (.appendMessage groupId roomId messageId sender sentAtMs text draw) fault).1 =
      .record message) : message.roomId = roomId := by
  have stored := (Gateway.call_of_reply reply (by simp)).1
  rcases GatewayStore.settle_cases gateway.store .record
    (gateway.store.appendMessage prims groupId roomId messageId sender sentAtMs text draw) with
    ⟨e, same⟩ | ⟨record, s, ok, same⟩
  · rw [GatewayStore.perform, same] at stored
    cases stored
  · rw [GatewayStore.perform, same] at stored
    cases stored
    obtain ⟨_, _, rfl, -⟩ := GatewayStore.appendMessage_ok ok
    rfl

theorem roomId_room {name : String} {visibility : RoomVisibility} {owner : Option Uuid} {room : RoomSummary}
    (reply : (gateway.call prims (.createRoomWithVisibility groupId name visibility owner draw) fault).1 =
      .room room) : room.roomId = draw.id.simple := by
  have stored := (Gateway.call_of_reply reply (by simp)).1
  rcases GatewayStore.settle_cases gateway.store .room
    (gateway.store.createRoomWithVisibility groupId name visibility owner draw) with
    ⟨e, same⟩ | ⟨created, s, ok, same⟩
  · rw [GatewayStore.perform, same] at stored
    cases stored
  · rw [GatewayStore.perform, same] at stored
    cases stored
    rw [(GatewayStore.createRoomWithVisibility_ok ok).1]

/-- A handler goes on from a store call with the same room, with none, or with the one it created. -/
theorem workRoom_resume {op : StoreOp} (waits : handler.storeCall groupId me draw = some op) :
    let next := handler.resume (gateway.call prims op fault).1
    next.workRoom = none ∨ next.workRoom = handler.workRoom ∨
      ∃ name visibility, handler = createStore name visibility ∧ next.workRoom = some draw.id.simple := by
  cases handler with
  | chatAppend roomId messageId text =>
    cases waits
    simp only [resume]
    split
    · rename_i message reply
      exact .inr (.inl (congrArg some (roomId_record reply)))
    · exact .inl rfl
  | createStore name visibility =>
    cases waits
    simp only [resume]
    split
    · rename_i room reply
      exact .inr (.inr ⟨name, visibility, rfl, congrArg some (roomId_room reply)⟩)
    · exact .inl rfl
  | decideStore | membersLoad | requestsLoad =>
    simp only [resume]
    split <;> exact .inl rfl
  | banStore | rotateStore =>
    simp only [resume]
    repeat' split
    all_goals exact .inl rfl
  | joinAccess | joinHistory | historyLoad | roomMembersManage | roomMembersLoad | setRoomMemberStore =>
    simp only [resume]
    split <;> first | exact .inl rfl | exact .inr (.inl rfl)
  | _ => cases waits

end

end Handler

namespace Gateway

variable {prims : Primitives} {gateway gateway' : Gateway} {conn : Conn} {outcome : Outcome} {action : Action}

/-! ## Where a task comes from -/

/-- Only a session that is served gets a handler. -/
theorem handler_of_unserved (unserved : ∀ g me used violations handler, conn.task ≠ .serving g me used violations handler)
    (h : gateway.outcome prims conn action = some outcome) : outcome.task.handler = none := by
  cases session : conn.task.session with
  | none =>
    cases taken h with
    | lobby _ after => exact Task.handler_of_inLobby after
    | inside before => rw [session] at before; cases before
    | removes before => rw [session] at before; cases before
    | calls task | blocks task => exact absurd task (unserved _ _ _ _ _)
    | admits | creates | inserts | names | registers | parts => rfl
  | some member =>
    cases task : conn.task with
    | serving => exact absurd task (unserved _ _ _ _ _)
    | loadingRooms groupId entry me members =>
      cases action <;> simp only [Gateway.outcome, advance, task, reduceCtorEq, Option.some.injEq] at h
      subst h
      simp only [loadRooms]
      split <;> rfl
    | loadingHistory groupId entry me members rooms =>
      cases action <;> simp only [Gateway.outcome, advance, task, reduceCtorEq] at h
      obtain ⟨group, -, rfl⟩ := Option.map_eq_some_iff.1 h
      simp only [loadHistory]
      split <;> rfl
    | welcoming groupId me welcome =>
      cases action <;> simp only [Gateway.outcome, advance, task, reduceCtorEq, Option.some.injEq] at h
      subst h
      simp only [sendWelcome]
      split <;> rfl
    | abandoning | announcing | leaving =>
      cases action <;> simp only [Gateway.outcome, advance, task, reduceCtorEq, Option.some.injEq] at h
      subst h
      rfl
    | _ => rw [task] at session; cases session

/-- **Where a handler comes from**: from a message, from its store call or from its block. -/
theorem handler_origin (h : gateway.outcome prims conn action = some outcome) {next : Handler}
    (under : outcome.task.handler = some next) :
    (∃ id message newWindow, action = .receive id message newWindow ∧ dispatch message = .run next) ∨
    ∃ g me used violations handler id draw fault, action = .advance id draw fault ∧
      conn.task = .serving g me used violations (some handler) ∧
      ((∃ op, handler.storeCall g me draw = some op ∧ next = handler.resume (gateway.call prims op fault).1) ∨
        ∃ group changes, gateway.group g = some group ∧ handler.block group me = some (changes, some next)) := by
  by_cases served : ∃ g me used violations handler, conn.task = .serving g me used violations handler
  · obtain ⟨g, me, used, violations, handler, task⟩ := served
    cases handler with
    | none =>
      cases action <;> simp only [Gateway.outcome, advance, task, reduceCtorEq, Option.some.injEq] at h
      case receive id message newWindow =>
        subst h
        refine .inl ⟨id, message, newWindow, rfl, ?_⟩
        simp only [onMessage] at under
        generalize (if newWindow = true then 0 else used) + 1 = count at under
        split at under
        · split at under <;> cases under
        · split at under
          · cases under
          · rename_i handler runs
            cases under
            exact runs
      case flush id =>
        obtain ⟨client, -, h⟩ := Option.bind_eq_some_iff.1 h
        obtain ⟨message, -, rfl⟩ := Option.map_eq_some_iff.1 h
        simp only at under
        split at under <;> cases under
      case kicked id =>
        obtain ⟨reason, -, rfl⟩ := Option.map_eq_some_iff.1 h
        cases under
      case disconnect id =>
        subst h
        cases under
    | some handler =>
      cases action <;> simp only [Gateway.outcome, advance, task, reduceCtorEq] at h
      rename_i id draw fault
      refine .inr ⟨g, me, used, violations, handler, id, draw, fault, rfl, task, ?_⟩
      obtain ⟨group, found, h⟩ := Option.bind_eq_some_iff.1 h
      unfold serve at h
      split at h
      · rename_i op waits
        cases h
        cases under
        exact .inl ⟨op, waits, rfl⟩
      · obtain ⟨⟨changes, after⟩, blocked, rfl⟩ := Option.map_eq_some_iff.1 h
        simp only [Task.handler] at under
        subst under
        exact .inr ⟨group, changes, found, blocked⟩
  · have none := handler_of_unserved (fun g me used violations handler task =>
      served ⟨g, me, used, violations, handler, task⟩) h
    rw [none] at under
    cases under

/-- A session id is kept, or it is drawn on entering. -/
theorem sessionId_origin (h : gateway.outcome prims conn action = some outcome) {sessionId : Uuid}
    (goes : outcome.task.sessionId = some sessionId) : conn.task.sessionId = some sessionId ∨
      ∃ g entry id draw fault, action = .advance id draw fault ∧ conn.task = .entering g entry ∧ sessionId = draw.id := by
  have keeps : ∀ {g : Uuid} {me : Session}, conn.task.session = some (g, me) → outcome.task.session = some (g, me) →
      conn.task.sessionId = some sessionId := by
    intro g me before after
    rw [Task.sessionId_of_session after] at goes
    rw [Task.sessionId_of_session before, goes]
  by_cases entering : ∃ g entry, conn.task = .entering g entry
  · obtain ⟨g, entry, task⟩ := entering
    cases action <;> simp only [Gateway.outcome, advance, task, reduceCtorEq] at h
    rename_i id draw fault
    split at h
    · obtain ⟨group, -, rfl⟩ := Option.map_eq_some_iff.1 h
      cases goes
      exact .inr ⟨g, entry, id, draw, fault, rfl, task, rfl⟩
    · cases h
  · cases taken h with
    | @lobby task _ _ _ after =>
      change task.sessionId = some sessionId at goes
      cases task <;> first | exact absurd after Bool.false_ne_true | cases goes
    | registers task => exact absurd ⟨_, _, task⟩ entering
    | inside before _ after => exact .inl (keeps before after)
    | calls task | blocks task => exact .inl (keeps (by rw [task]; rfl) rfl)
    | removes before _ after =>
      rcases after with rfl | rfl
      · cases goes
      · cases goes
        exact .inl (Task.sessionId_of_session before)
    | admits | creates | inserts | names | parts => cases goes

end Gateway

/-! ## What shows under the veil -/

/-- A handler at work within the secret room, which it does not create. -/
def Handler.isWithin (secret : Secret) : Handler → Bool
  | reply _ => true
  | createInsert _ | createAnnounce _ => false
  | handler => handler.workRoom == some secret.roomId

def Task.IsWithin (secret : Secret) : Task → Prop
  | closed => True
  | serving groupId me _ _ handler => groupId = secret.groupId ∧ secret.sessions me.peer.sessionId = true ∧
    ∀ next, handler = some next → next.isWithin secret = true
  | _ => False

/-- The connections that know of the secret are at work in its room, the others know nothing of
it, and no other session has joined the room; those who know do not create rooms. -/
structure Secret.Kept (secret : Secret) (gateway : Gateway) : Prop where
  known : gateway.store.hasGroup secret.groupId = true
  ids : (gateway.conns.map Conn.id).Nodup
  within : ∀ conn ∈ gateway.conns, secret.insiders conn.id = true → conn.task.IsWithin secret
  unaware : ∀ conn ∈ gateway.conns, secret.insiders conn.id = false → conn.task.Unaware secret
  joined : ∀ group ∈ gateway.groups, group.summary.groupId = secret.groupId → ∀ client ∈ group.clients,
    secret.sessions client.peer.sessionId = false → secret.roomId ∉ client.joinedRooms
  lock : ∀ group ∈ gateway.groups, group.summary.groupId = secret.groupId →
    ∀ sessionId, group.roomCreation = some sessionId → secret.sessions sessionId = false

/-- There is no such room. -/
structure Secret.Lacks (secret : Secret) (gateway : Gateway) : Prop where
  store : gateway.store.withoutRoom secret.groupId secret.roomId = gateway.store
  rooms : ∀ group ∈ gateway.groups, group.summary.groupId = secret.groupId →
    ∀ room ∈ group.rooms, room.roomId ≠ secret.roomId

/-- Who a change of members is told to. -/
def Handler.tells : Handler → Option Uuid
  | setRoomMemberNotify memberId _ | setRoomMemberRemove memberId _ => some memberId
  | _ => none

def Task.isServing : Task → Bool
  | serving _ _ _ _ _ => true
  | _ => false

/-- A step of a connection that knows: it goes on being served, asks for the secret room only, and
a member it includes or removes has no session that does not know. -/
structure Conn.Confined (secret : Secret) (prims : Primitives) (gateway : Gateway) (conn : Conn) (action : Action) :
    Prop where
  served : ∀ outcome, gateway.outcome prims conn action = some outcome → outcome.task.isServing = true
  asks : ∀ id message newWindow, action = .receive id message newWindow → message.askedRoom = some secret.roomId
  tells : ∀ handler memberId, conn.task.handler = some handler → handler.tells = some memberId →
    ∀ group ∈ gateway.groups, group.summary.groupId = secret.groupId → ∀ client ∈ group.clients,
      client.peer.memberId = memberId → secret.sessions client.peer.sessionId = true

/-- The steps of a run that keep the secret. -/
def Secret.Admits (secret : Secret) (prims : Primitives) (gateway : Gateway) (action : Action) : Prop :=
  (∀ id remote, action = .accept id remote → secret.insiders id = false) ∧
  ∀ conn ∈ gateway.conns, action.actor = some conn.id →
    (secret.insiders conn.id = true → conn.Confined secret prims gateway action) ∧
    (secret.insiders conn.id = false → conn.task.Overlooks secret gateway action)

/-- The actions of the connections that know. -/
def Secret.hides (secret : Secret) (action : Action) : Bool := action.actor.any secret.insiders

/-! ### Changes that spare the others -/

/-- A change that reaches only the sessions that know. -/
def Change.Spares (secret : Secret) (group : GroupState) : Change → Prop
  | .send whom _ | .leave whom _ => ∀ client ∈ group.clients, secret.sessions client.peer.sessionId = false →
    whom.selects client = false
  | .join sessionId _ | .receive sessionId | .unlockCreation sessionId => secret.sessions sessionId = true
  | _ => False

section
variable {group : GroupState} {client : ClientEntry} {change later : Change} {changes : List Change}

/-- A session that knows is not one that does not. -/
theorem Recipients.session_outside {sessionId : Uuid} (inside : secret.sessions sessionId = true)
    (outside : secret.sessions client.peer.sessionId = false) :
    (Recipients.session sessionId).selects client = false := by
  refine beq_false_of_ne fun same => ?_
  rw [same, inside] at outside
  cases outside

theorem Change.Spares.outside (spares : change.Spares secret group) (mem : client ∈ group.clients)
    (outside : secret.sessions client.peer.sessionId = false) : client.apply change = client := by
  have other : ∀ {sessionId}, secret.sessions sessionId = true → client.peer.sessionId ≠ sessionId := by
    rintro _ inside rfl
    rw [outside] at inside
    cases inside
  cases change with
  | send | leave => simp [ClientEntry.apply, spares client mem outside]
  | join | receive => simp [ClientEntry.apply, other spares]
  | unlockCreation => rfl
  | _ => exact absurd spares id

theorem Change.Spares.inside (spares : change.Spares secret group) (inside : secret.sessions client.peer.sessionId = true) :
    (client.apply change).veil secret = client.veil secret := by
  have held : (client.apply change).heldHash = client.heldHash := by
    cases change with
    | send | leave | join | receive =>
      simp only [ClientEntry.apply, ClientEntry.joinRoom, ClientEntry.leaveRoom]
      repeat' split
      all_goals rfl
    | unlockCreation => rfl
    | _ => exact absurd spares id
  rw [@ClientEntry.veil_inside secret (client.apply change) (by simpa using inside),
    ClientEntry.veil_inside inside, held]
  simp

theorem Change.Spares.clients (spares : change.Spares secret group) :
    (group.apply change).clients = group.clients.map (·.apply change) := by
  cases change with
  | unlockCreation sessionId =>
    have same : ∀ client : ClientEntry, client.apply (.unlockCreation sessionId) = client := fun _ => rfl
    simp only [GroupState.apply, same, List.map_id']
    split <;> rfl
  | send | leave | join | receive => rfl
  | _ => exact absurd spares id

/-- A change that spares the others does not show under the veil. -/
theorem Change.Spares.veil (spares : change.Spares secret group)
    (lock : ∀ sessionId, group.roomCreation = some sessionId → secret.sessions sessionId = false) :
    (group.apply change).veil secret = group.veil secret := by
  have clients : (group.apply change).clients.map (·.veil secret) = group.clients.map (·.veil secret) := by
    rw [spares.clients, List.map_map]
    refine List.map_congr_left fun client mem => ?_
    cases inside : secret.sessions client.peer.sessionId with
    | false => rw [Function.comp_apply, spares.outside mem inside]
    | true => exact spares.inside inside
  have unlocked : (group.apply change).roomCreation = group.roomCreation := by
    cases change with
    | unlockCreation sessionId =>
      have other : group.roomCreation ≠ some sessionId := by
        intro locked
        have inside : secret.sessions sessionId = true := spares
        rw [lock sessionId locked] at inside
        cases inside
      simp [GroupState.apply, other]
    | send | leave | join | receive => rfl
    | _ => exact absurd spares id
  have rooms : (group.apply change).rooms = group.rooms := by
    rw [GroupState.rooms_apply]
    cases change with
    | openRoom => exact absurd spares id
    | _ => exact List.append_nil _
  simp only [GroupState.veil, clients, unlocked, rooms, GroupState.apply_summary]

theorem Change.Spares.still (spares : change.Spares secret group) (next : later.Spares secret group) :
    later.Spares secret (group.apply change) := by
  cases later with
  | send whom message | leave whom roomId =>
    intro client mem outside
    rw [spares.clients] at mem
    obtain ⟨old, inGroup, rfl⟩ := List.mem_map.1 mem
    rw [ClientEntry.apply_peer] at outside
    rw [spares.outside inGroup outside]
    exact next old inGroup outside
  | join | receive | unlockCreation => exact next
  | _ => exact absurd next id

theorem veil_spared (spares : ∀ change ∈ changes, change.Spares secret group)
    (lock : ∀ sessionId, group.roomCreation = some sessionId → secret.sessions sessionId = false) :
    (group.applyAll changes).veil secret = group.veil secret := by
  induction changes generalizing group with
  | nil => rfl
  | cons change changes ih =>
    have first : change.Spares secret group := spares change List.mem_cons_self
    have same := first.veil lock
    have locked : (group.apply change).roomCreation = group.roomCreation := by
      have held := congrArg GroupState.roomCreation same
      simpa using held
    have rest : ∀ later ∈ changes, later.Spares secret (group.apply change) :=
      fun later mem => first.still (spares later (List.mem_cons_of_mem _ mem))
    rw [GroupState.applyAll_cons, ih rest (by rwa [locked]), same]

end

/-! ### Handlers within -/

namespace Handler

variable {handler next : Handler} {group : GroupState} {me : Session} {changes : List Change} {after : Option Handler}
  {prims : Primitives} {gateway : Gateway} {groupId : Uuid} {draw : Draw} {fault : Bool} {op : StoreOp}

theorem isWithin_start (start : handler.isStart = true) (works : handler.workRoom = some secret.roomId) :
    handler.isWithin secret = true := by
  cases handler <;> first | exact absurd start Bool.false_ne_true | exact beq_iff_eq.2 works

theorem within_storeCall (within : handler.isWithin secret = true)
    (waits : handler.storeCall secret.groupId me draw = some op) : op.Within secret.groupId secret.roomId := by
  cases handler <;> cases waits
  all_goals simp only [isWithin, workRoom, beq_iff_eq, Option.some.injEq, reduceCtorEq] at within
  all_goals exact ⟨rfl, within⟩

theorem isWithin_resume (within : handler.isWithin secret = true)
    (waits : handler.storeCall groupId me draw = some op) :
    (handler.resume (gateway.call prims op fault).1).isWithin secret = true := by
  cases handler with
  | chatAppend roomId messageId text =>
    cases waits
    simp only [isWithin, workRoom, beq_iff_eq, Option.some.injEq] at within
    simp only [resume]
    split
    · rename_i message reply
      simp [isWithin, workRoom, roomId_record reply, within]
    · rfl
  | joinAccess | joinHistory | historyLoad | roomMembersManage | roomMembersLoad | setRoomMemberStore =>
    simp only [resume]
    split <;> first | exact within | rfl
  | createStore | decideStore | membersLoad | requestsLoad | banStore | rotateStore => cases within
  | _ => cases waits

theorem isWithin_block (within : handler.isWithin secret = true)
    (blocked : handler.block group me = some (changes, some next)) : next.isWithin secret = true := by
  cases handler with
  | joinFind roomId =>
    simp only [block] at blocked
    split at blocked <;> cases blocked
    rename_i room found
    have same : room.roomId = roomId := by simpa using List.find?_some found
    subst same
    exact within
  | setRoomMemberRoom roomId memberId included =>
    simp only [block] at blocked
    split at blocked
    · cases blocked
      exact within
    · rename_i room found
      have same : room.roomId = roomId := by simpa using List.find?_some found
      split at blocked <;> cases blocked
      · subst same
        exact within
      · exact within
  | createInsert | createAnnounce | createLock | createCheck | requestsAdmin | decideAdmin | membersAdmin | banAdmin
  | rotateAdmin | banSweep | rotateSweep => cases within
  | _ =>
    simp only [block] at blocked
    repeat' split at blocked
    all_goals cases blocked <;> exact within

theorem spares_block (within : handler.isWithin secret = true)
    (blocked : handler.block group me = some (changes, after)) (inside : secret.sessions me.peer.sessionId = true)
    {other : GroupState} (joined : ∀ client ∈ other.clients, secret.sessions client.peer.sessionId = false →
      secret.roomId ∉ client.joinedRooms)
    (tells : ∀ memberId, handler.tells = some memberId → ∀ client ∈ other.clients, client.peer.memberId = memberId →
      secret.sessions client.peer.sessionId = true) : ∀ change ∈ changes, change.Spares secret other := by
  have own : ∀ client ∈ other.clients, secret.sessions client.peer.sessionId = false →
      (Recipients.session me.peer.sessionId).selects client = false :=
    fun _ _ outside => Recipients.session_outside inside outside
  have told : ∀ memberId, handler.tells = some memberId → ∀ client ∈ other.clients,
      secret.sessions client.peer.sessionId = false → (Recipients.member memberId).selects client = false := by
    intro memberId telling client mem outside
    refine beq_false_of_ne fun same => ?_
    rw [tells memberId telling client mem same] at outside
    cases outside
  cases Handler.blocks blocked with
  | createLock | createCheck | createInsert | createAnnounce | banSweep | rotateSweep => cases within
  | finished | leave | joinInsert => simpa [finish, Change.Spares, inside] using own
  | chatBroadcast =>
    simp only [isWithin, workRoom, beq_iff_eq, Option.some.injEq] at within
    simp only [List.mem_singleton, forall_eq, Change.Spares, within]
    exact fun client mem outside => decide_eq_false (joined client mem outside)
  | memberNotified => simpa [Change.Spares] using told _ rfl
  | memberRemoved => simpa [Change.Spares] using told _ rfl
  | _ => simp

end Handler

namespace Gateway

variable {prims : Primitives} {gateway gateway' : Gateway} {conn : Conn} {outcome : Outcome} {action : Action}

/-! ### A hidden step -/

/-- **A step of a connection that knows** changes nothing but what the room holds, reaches only
sessions that know, and the connection stays at work in the room. -/
structure Hidden (secret : Secret) (gateway : Gateway) (conn : Conn) (outcome : Outcome) : Prop where
  ofGroup : conn.task.groupId = some secret.groupId
  rests : conn.task.rest = outcome.task.rest
  within : outcome.task.IsWithin secret
  store : outcome.store.withoutRoom secret.groupId secret.roomId = gateway.store.withoutRoom secret.groupId secret.roomId
  inserted : outcome.inserted = none
  spares : ∀ group ∈ gateway.groups, group.summary.groupId = secret.groupId →
    ∀ change ∈ outcome.changes, change.Spares secret group

/-- The step of a connection that waits. -/
theorem hidden_idle {me : Session} {used violations : ℕ} (task : conn.task = .serving secret.groupId me used violations none)
    (mine : secret.sessions me.peer.sessionId = true) (confined : conn.Confined secret prims gateway action)
    (h : gateway.outcome prims conn action = some outcome) : Hidden secret gateway conn outcome := by
  have served := confined.served outcome h
  have answered : ∀ message, ∀ group ∈ gateway.groups, group.summary.groupId = secret.groupId →
      ∀ change ∈ [Change.send (.session me.peer.sessionId) message], change.Spares secret group := by
    intro message group _ _ change sent
    rw [List.mem_singleton.1 sent]
    exact fun client _ outside => Recipients.session_outside mine outside
  cases action <;> simp only [Gateway.outcome, advance, task, reduceCtorEq, Option.some.injEq] at h
  case receive id message newWindow =>
    subst h
    simp only [onMessage] at served ⊢
    generalize (if newWindow = true then 0 else used) + 1 = count at served ⊢
    split at served
    · split at served
      · cases served
      · rename_i limited few
        rw [if_pos limited, if_neg few]
        exact ⟨by rw [task]; rfl, by rw [task]; rfl, ⟨rfl, mine, by simp⟩, rfl, rfl, answered _⟩
    · rename_i allowed
      rw [if_neg allowed]
      split
      · exact ⟨by rw [task]; rfl, by rw [task]; rfl, ⟨rfl, mine, by simp⟩, rfl, rfl, answered _⟩
      · rename_i handler runs
        refine ⟨by rw [task]; rfl, by rw [task]; rfl, ⟨rfl, mine, fun next same => ?_⟩, rfl, rfl, fun group _ _ => by simp⟩
        cases same
        refine Handler.isWithin_start (Handler.starts_dispatch runs) ?_
        rw [workRoom_dispatch runs, confined.asks id message newWindow rfl]
  case flush id =>
    obtain ⟨client, -, h⟩ := Option.bind_eq_some_iff.1 h
    obtain ⟨message, -, rfl⟩ := Option.map_eq_some_iff.1 h
    simp only at served ⊢
    split at served
    · cases served
    · rename_i wrote
      rw [if_neg wrote]
      exact ⟨by rw [task]; rfl, by rw [task]; rfl, ⟨rfl, mine, by simp⟩, rfl, rfl, fun group _ _ => by
        simpa [Change.Spares] using mine⟩
  case kicked id =>
    obtain ⟨reason, -, rfl⟩ := Option.map_eq_some_iff.1 h
    cases served
  case disconnect id =>
    subst h
    cases served

/-- The step of a handler at work in the room. -/
theorem hidden_serve (kept : secret.Kept gateway) {me : Session} {used violations : ℕ} {handler : Handler}
    (task : conn.task = .serving secret.groupId me used violations (some handler))
    (mine : secret.sessions me.peer.sessionId = true) (works : handler.isWithin secret = true)
    (confined : conn.Confined secret prims gateway action) (h : gateway.outcome prims conn action = some outcome) :
    Hidden secret gateway conn outcome := by
  cases action <;> simp only [Gateway.outcome, advance, task, reduceCtorEq] at h
  rename_i id draw fault
  obtain ⟨group, found, h⟩ := Option.bind_eq_some_iff.1 h
  unfold serve at h
  split at h
  · rename_i op waits
    cases h
    refine ⟨by rw [task]; rfl, by rw [task]; rfl, ⟨rfl, mine, fun next same => ?_⟩, ?_, rfl, fun group _ _ => ?_⟩
    · cases same
      exact Handler.isWithin_resume works waits
    · cases fault with
      | true => rfl
      | false => exact GatewayStore.withoutRoom_perform_within (Handler.within_storeCall works waits)
    · have silent : gateway.holds prims secret.groupId me handler (gateway.call prims op fault).1 = [] := by
        cases handler <;> first | rfl | cases works
      simp [silent]
  · obtain ⟨⟨changes, after⟩, blocked, rfl⟩ := Option.map_eq_some_iff.1 h
    refine ⟨by rw [task]; rfl, by rw [task]; rfl, ⟨rfl, mine, fun next same => ?_⟩, rfl, rfl,
      fun other inGroups ofGroup => ?_⟩
    · subst same
      exact Handler.isWithin_block works blocked
    · refine Handler.spares_block works blocked mine (kept.joined other inGroups ofGroup) fun memberId telling => ?_
      exact confined.tells handler memberId (by rw [task]; rfl) telling other inGroups ofGroup

theorem hidden_outcome (kept : secret.Kept gateway) (mem : conn ∈ gateway.conns)
    (inside : secret.insiders conn.id = true) (confined : conn.Confined secret prims gateway action)
    (h : gateway.outcome prims conn action = some outcome) : Hidden secret gateway conn outcome := by
  have within := kept.within conn mem inside
  cases task : conn.task with
  | closed => cases action <;> simp [Gateway.outcome, advance, task] at h
  | serving groupId me used violations handler =>
    rw [task] at within
    obtain ⟨rfl, mine, works⟩ := within
    cases handler with
    | none => exact hidden_idle task mine confined h
    | some handler => exact hidden_serve kept task mine (works handler rfl) confined h
  | _ =>
    rw [task] at within
    exact absurd within id

/-! ### Gateways that are the same under the veil -/

theorem mem_group_veil (same : gateway'.veil secret = gateway.veil secret) {group' : GroupState}
    (mem : group' ∈ gateway'.groups) : ∃ group ∈ gateway.groups, group.veil secret = group'.veil secret := by
  have groups : gateway'.groups.map (·.veil secret) = gateway.groups.map (·.veil secret) := congrArg Gateway.groups same
  have inVeil : group'.veil secret ∈ gateway'.groups.map (·.veil secret) := List.mem_map_of_mem mem
  rw [groups] at inVeil
  exact List.mem_map.1 inVeil

theorem mem_conn_veil (same : gateway'.veil secret = gateway.veil secret) (mem : conn ∈ gateway'.conns)
    (outside : secret.insiders conn.id = false) : conn ∈ gateway.conns := by
  have conns : gateway'.conns.map (·.veil secret) = gateway.conns.map (·.veil secret) := congrArg Gateway.conns same
  have inVeil : conn.veil secret ∈ gateway'.conns.map (·.veil secret) := List.mem_map_of_mem mem
  rw [conns, Conn.veil_outside outside] at inVeil
  obtain ⟨other, inConns, isConn⟩ := List.mem_map.1 inVeil
  have id : other.id = conn.id := by rw [← isConn, Conn.veil_id]
  rw [Conn.veil_outside (by rwa [id])] at isConn
  rwa [← isConn]

theorem summary_of_veil {group group' : GroupState} (alike : group.veil secret = group'.veil secret) :
    group.summary = group'.summary := by
  have same := congrArg GroupState.summary alike
  simpa using same

theorem lock_of_veil {group group' : GroupState} (alike : group.veil secret = group'.veil secret) :
    group.roomCreation = group'.roomCreation := by
  have same := congrArg GroupState.roomCreation alike
  simpa using same

theorem ids_veil : (gateway.veil secret).conns.map Conn.id = gateway.conns.map Conn.id := by
  simp [veil, Function.comp_def]

theorem groups_veil : (gateway.veil secret).store.groups = gateway.store.groups := rfl

/-- All but the work of those who know is seen under the veil. -/
theorem kept_of_veil (kept : secret.Kept gateway) (same : gateway'.veil secret = gateway.veil secret)
    (within : ∀ conn ∈ gateway'.conns, secret.insiders conn.id = true → conn.task.IsWithin secret) :
    secret.Kept gateway' := by
  refine ⟨?_, ?_, within, fun conn mem outside => kept.unaware conn (mem_conn_veil same mem outside) outside, ?_, ?_⟩
  · rw [GatewayStore.hasGroup, ← groups_veil, same]
    exact kept.known
  · rw [← ids_veil, same, ids_veil]
    exact kept.ids
  · intro group' mem ofGroup client inGroup outside
    obtain ⟨group, inGroups, alike⟩ := mem_group_veil same mem
    have clients : group.clients.map (·.veil secret) = group'.clients.map (·.veil secret) := congrArg GroupState.clients alike
    have inVeil : client.veil secret ∈ group'.clients.map (·.veil secret) := List.mem_map_of_mem inGroup
    rw [← clients, ClientEntry.veil_outside outside] at inVeil
    obtain ⟨other, inOld, isClient⟩ := List.mem_map.1 inVeil
    have peer : other.peer = client.peer := by rw [← isClient, ClientEntry.veil_peer]
    rw [ClientEntry.veil_outside (by rwa [peer])] at isClient
    have summary := summary_of_veil alike
    rw [← isClient]
    exact kept.joined group inGroups (by rwa [summary]) other inOld (by rwa [peer])
  · intro group' mem ofGroup sessionId locked
    obtain ⟨group, inGroups, alike⟩ := mem_group_veil same mem
    have summary := summary_of_veil alike
    have lock := lock_of_veil alike
    exact kept.lock group inGroups (by rwa [summary]) sessionId (by rwa [lock])

/-- A hidden step leaves everything under the veil as it is. -/
theorem unseen_commit (kept : secret.Kept gateway) (mem : conn ∈ gateway.conns)
    (inside : secret.insiders conn.id = true) (confined : conn.Confined secret prims gateway action)
    (h : gateway.outcome prims conn action = some outcome) :
    (gateway.commit conn outcome).veil secret = gateway.veil secret := by
  have hidden := hidden_outcome kept mem inside confined h
  simp only [commit, veil, hidden.store, hidden.inserted, Option.toList_none, List.append_nil, List.map_map]
  congr 1
  · refine List.map_congr_left fun group inGroups => ?_
    simp only [Function.comp_apply]
    split
    · rename_i own
      rw [hidden.ofGroup, Option.some.injEq] at own
      exact veil_spared (hidden.spares group inGroups own.symm) (kept.lock group inGroups own.symm)
    · rfl
  · refine List.map_congr_left fun other inConns => ?_
    simp only [Function.comp_apply]
    split
    · rename_i sameId
      obtain rfl := List.inj_on_of_nodup_map kept.ids inConns mem sameId
      rw [@Conn.veil_inside secret { other with task := outcome.task, written := other.written ++ outcome.written } inside,
        Conn.veil_inside inside, hidden.rests]
    · rfl

/-! ### A shown step -/

/-- A connection that knows nothing still knows nothing after a step that overlooks the secret. -/
theorem unaware_after (unaware : conn.task.Unaware secret) (overlooks : conn.task.Overlooks secret gateway action)
    (h : gateway.outcome prims conn action = some outcome) : outcome.task.Unaware secret := by
  constructor
  · intro sessionId goes
    rcases sessionId_origin h goes with before | ⟨g, entry, id, draw, fault, rfl, task, rfl⟩
    · exact unaware.session sessionId before
    · rw [task] at overlooks
      exact overlooks
  · intro next under ofGroup works
    rcases handler_origin h under with ⟨id, message, newWindow, rfl, runs⟩ |
      ⟨g, me, used, violations, handler, id, draw, fault, rfl, task, from_⟩
    · exact overlooks (by rw [← workRoom_dispatch runs, works])
    · have own : outcome.task.groupId = some g := by
        simp only [Gateway.outcome, advance, task] at h
        obtain ⟨group, -, h⟩ := Option.bind_eq_some_iff.1 h
        unfold serve at h
        split at h
        · cases h
          rfl
        · obtain ⟨blocked, -, rfl⟩ := Option.map_eq_some_iff.1 h
          rfl
      obtain rfl : g = secret.groupId := Option.some.inj (own.symm.trans ofGroup)
      have before := unaware.handler handler (by rw [task]; rfl) (by rw [task]; rfl)
      rcases from_ with ⟨op, waits, rfl⟩ | ⟨group, changes, -, blocked⟩
      · have after := @Handler.workRoom_resume handler me prims gateway secret.groupId draw fault op waits
        rcases after with none | same | ⟨name, visibility, rfl, fresh⟩
        · rw [none] at works
          cases works
        · exact before (same.symm.trans works)
        · rw [task] at overlooks
          exact (overlooks rfl).1 (Option.some.inj (fresh.symm.trans works))
      · rcases Handler.workRoom_block blocked with none | same
        · rw [none] at works
          cases works
        · exact before (same.symm.trans works)

theorem lock_applyAll {changes : List Change} {group : GroupState} {sessionId : Uuid}
    (locked : (group.applyAll changes).roomCreation = some sessionId) :
    group.roomCreation = some sessionId ∨ .lockCreation sessionId ∈ changes := by
  induction changes generalizing group with
  | nil => exact .inl locked
  | cons change changes ih =>
    rcases ih locked with before | later
    · cases change with
      | lockCreation other =>
        obtain rfl : other = sessionId := Option.some.inj before
        exact .inr List.mem_cons_self
      | unlockCreation other =>
        simp only [GroupState.apply] at before
        split at before
        · cases before
        · exact .inl before
      | _ => exact .inl before
    · exact .inr (List.mem_cons_of_mem _ later)

/-- The creation lock is taken by a session for itself. -/
theorem lock_cases (h : gateway.outcome prims conn action = some outcome) {sessionId : Uuid}
    (locks : .lockCreation sessionId ∈ outcome.changes) : conn.task.sessionId = some sessionId := by
  cases taken h with
  | inside _ _ _ _ speaks => cases speaks <;> simp at locks
  | calls =>
    simp only [holds] at locks
    split at locks <;> simp at locks
  | blocks task _ blocked =>
    cases Handler.blocks blocked <;> simp [Handler.finish] at locks
    rw [task, locks]
    rfl
  | _ => simp [insertGroup, register] at locks

/-- A session is registered in the general room. -/
theorem register_cases (h : gateway.outcome prims conn action = some outcome) {client : ClientEntry}
    {before after : List Change} (registers : outcome.changes = before ++ .register client :: after) :
    after = [] ∧ client.joinedRooms = [defaultRoomId] := by
  have mem : .register client ∈ outcome.changes := by rw [registers]; simp
  have keeps : ∀ {changes : List Change}, KeepsSessions changes → .register client ∉ changes :=
    fun keeps inside => (keeps _ inside).1 client rfl
  cases taken h with
  | registers =>
    simp only [register] at registers mem
    rw [List.singleton_eq_append_iff] at registers
    rcases registers with ⟨-, same⟩ | ⟨-, same⟩
    · cases same
      exact ⟨rfl, rfl⟩
    · cases same
  | inside _ _ _ _ speaks => exact absurd mem (keeps speaks.keeps)
  | calls => exact absurd mem (keeps (holds_keeps _ _ _ _))
  | blocks _ _ blocked => exact absurd mem (keeps (block_keeps blocked))
  | _ => simp [insertGroup] at mem

/-- **A step that overlooks the secret** keeps it. -/
theorem kept_commit (notGeneral : secret.roomId ≠ defaultRoomId) (kept : secret.Kept gateway) (mem : conn ∈ gateway.conns)
    (outside : secret.insiders conn.id = false) (overlooks : conn.task.Overlooks secret gateway action)
    (h : gateway.outcome prims conn action = some outcome) : secret.Kept (gateway.commit conn outcome) := by
  have unaware := kept.unaware conn mem outside
  constructor
  · rcases store_cases h with same | ⟨op, same⟩
    · simpa [commit, same] using kept.known
    · simpa [commit, same] using GatewayStore.hasGroup_perform op kept.known
  · rw [map_id_commit]
    exact kept.ids
  · intro other inConns inside
    rcases mem_conns_commit inConns with ⟨old, -⟩ | rfl
    · exact kept.within other old inside
    · rw [show (after conn outcome).id = conn.id from rfl, outside] at inside
      cases inside
  · intro other inConns isOutside
    rcases mem_conns_commit inConns with ⟨old, -⟩ | rfl
    · exact kept.unaware other old isOutside
    · exact unaware_after unaware overlooks h
  · intro group' inGroups ofGroup client inGroup isOutside joined
    rcases mem_groups_commit inGroups with ⟨group, old, own, rfl⟩ | ⟨old, -⟩ | new
    · rw [GroupState.applyAll_summary] at ofGroup
      rcases GroupState.mem_applyAll inGroup with ⟨before, inOld, rfl⟩ | ⟨first, entry, rest, changes, rfl⟩
      · rw [ClientEntry.applyAll_peer] at isOutside
        rcases joinedRooms_applyAll joined with joined | joins
        · exact kept.joined group old ofGroup before inOld isOutside joined
        · obtain ⟨g, me, used, violations, room, history, task, -, same⟩ := join_cases h joins
          refine unaware.handler _ (by rw [task]; rfl) (by rw [own, ofGroup]) ?_
          rw [same]
          rfl
      · obtain ⟨rfl, rooms⟩ := register_cases h changes
        rw [ClientEntry.applyAll_nil, rooms, List.mem_singleton] at joined
        exact notGeneral joined
    · exact kept.joined group' old ofGroup client inGroup isOutside joined
    · rw [inserted_clients h group' new] at inGroup
      cases inGroup
  · intro group' inGroups ofGroup sessionId locked
    rcases mem_groups_commit inGroups with ⟨group, old, own, rfl⟩ | ⟨old, -⟩ | new
    · rw [GroupState.applyAll_summary] at ofGroup
      rcases lock_applyAll locked with before | locks
      · exact kept.lock group old ofGroup sessionId before
      · exact unaware.session sessionId (lock_cases h locks)
    · exact kept.lock group' old ofGroup sessionId locked
    · rcases inserted_cases h with none | ⟨client, created, -, same⟩
      · rw [none] at new
        cases new
      · rw [same] at new
        cases new
        cases locked

end Gateway

/-! ### The same step where there is no such room -/

section
variable {prims : Primitives} {gateway gateway' : Gateway} {conn : Conn} {outcome : Outcome} {action : Action}

theorem Secret.Lacks.noRoom (lacks : secret.Lacks gateway) : ∀ row ∈ gateway.store.rooms,
    row.groupId = secret.groupId → row.roomId ≠ secret.roomId := by
  intro row mem own same
  have rooms : Table.keep (fun row => elsewhere secret.groupId secret.roomId row.groupId row.roomId) gateway.store.rooms =
      gateway.store.rooms := congrArg GatewayStore.rooms lacks.store
  rw [← rooms] at mem
  exact elsewhere_iff.1 (Table.mem_keep.1 mem).2 ⟨own, same⟩

theorem Secret.Lacks.noMessage (lacks : secret.Lacks gateway) : ∀ row ∈ gateway.store.groupMessages,
    row.groupId = secret.groupId → row.roomId ≠ secret.roomId := by
  intro row mem own same
  have rows : Table.keep (fun row => elsewhere secret.groupId secret.roomId row.groupId row.roomId)
      gateway.store.groupMessages = gateway.store.groupMessages := congrArg GatewayStore.groupMessages lacks.store
  rw [← rows] at mem
  exact elsewhere_iff.1 (Table.mem_keep.1 mem).2 ⟨own, same⟩

/-- Where there is no such room, nothing comes upon it that does not by itself. -/
theorem Secret.Lacks.overlooks {task : Task} (lacks : secret.Lacks gateway')
    (overlooks : task.Overlooks secret gateway action) : task.Overlooks secret gateway' action := by
  cases action with
  | receive => exact overlooks
  | advance id draw fault =>
    cases task with
    | entering => exact overlooks
    | loadingRooms groupId entry me members =>
      intro own
      rw [GatewayStore.memberCanAccessRoom, List.any_eq_false]
      intro row mem access
      simp only [Bool.and_eq_true, beq_iff_eq] at access
      exact lacks.noRoom row mem access.1.1 access.1.2
    | serving groupId me used violations handler =>
      cases handler with
      | none => trivial
      | some handler =>
        cases handler with
        | createCheck name visibility =>
          intro own group mem ofGroup
          refine ⟨fun full => ?_, fun room inRooms same => absurd same (lacks.rooms group mem ofGroup room inRooms)⟩
          have all : (group.veil secret).rooms = group.rooms :=
            List.filter_eq_self.2 fun room inRooms => elsewhere_of_room (lacks.rooms group mem ofGroup room inRooms)
          rwa [all]
        | createStore name visibility =>
          exact fun own => ⟨(overlooks own).1, fun row mem ofGroup same => absurd same (lacks.noRoom row mem ofGroup)⟩
        | chatAppend =>
          exact fun row mem ofGroup same => absurd same (lacks.noMessage row mem ofGroup)
        | _ => trivial
    | _ => trivial
  | _ => trivial

/-- The secret when nobody knows of it: its veil takes the room away and nothing else. -/
def Secret.bare (secret : Secret) : Secret :=
  { secret with insiders := fun _ => false, sessions := fun _ => false }

theorem Secret.Lacks.veil_bare (lacks : secret.Lacks gateway) : gateway.veil secret.bare = gateway := by
  have clients : ∀ group : GroupState, group.clients.map (·.veil secret.bare) = group.clients := fun group =>
    (List.map_congr_left fun client _ => ClientEntry.veil_outside rfl).trans (List.map_id' _)
  have groups : gateway.groups.map (·.veil secret.bare) = gateway.groups := by
    refine (List.map_congr_left fun group mem => ?_).trans (List.map_id' _)
    have rooms : group.rooms.filter (fun room => elsewhere secret.groupId secret.roomId group.summary.groupId room.roomId) =
        group.rooms := List.filter_eq_self.2 fun room inRooms => elsewhere_of fun own => lacks.rooms group mem own room inRooms
    rw [GroupState.veil, clients]
    exact congrArg (fun rooms => { group with rooms }) rooms
  have conns : gateway.conns.map (·.veil secret.bare) = gateway.conns :=
    (List.map_congr_left fun conn _ => Conn.veil_outside rfl).trans (List.map_id' _)
  rw [Gateway.veil, groups, conns]
  exact congrArg (fun store => { gateway with store }) lacks.store

theorem Task.Unaware.bare {task : Task} (unaware : task.Unaware secret) : task.Unaware secret.bare :=
  ⟨fun _ _ => rfl, unaware.handler⟩

theorem Task.Overlooks.bare {task : Task} (overlooks : task.Overlooks secret gateway action) :
    task.Overlooks secret.bare gateway action := by
  cases action with
  | advance id draw fault =>
    cases task with
    | entering => rfl
    | serving groupId me used violations handler =>
      cases handler with
      | none => trivial
      | some handler => cases handler <;> exact overlooks
    | _ => exact overlooks
  | _ => exact overlooks

end

namespace Gateway

variable {prims : Primitives} {gateway gateway' : Gateway} {conn : Conn} {outcome : Outcome} {action : Action}

/-- **A step where there is no such room** does not bring it, unless it comes upon it. -/
theorem lacks_commit (notGeneral : secret.roomId ≠ defaultRoomId) (lacks : secret.Lacks gateway)
    (known : gateway.store.hasGroup secret.groupId = true) (unaware : conn.task.Unaware secret)
    (overlooks : conn.task.Overlooks secret gateway action) (h : gateway.outcome prims conn action = some outcome) :
    secret.Lacks (gateway.commit conn outcome) := by
  constructor
  · have bare := @outcome_veil secret.bare prims gateway known conn action notGeneral unaware.bare overlooks.bare
    rw [lacks.veil_bare, h] at bare
    exact (congrArg Outcome.store (Option.some.inj bare)).symm
  · intro group' inGroups ofGroup room inRooms
    rcases mem_groups_commit inGroups with ⟨group, old, own, rfl⟩ | ⟨old, -⟩ | new
    · rw [GroupState.applyAll_summary] at ofGroup
      rcases mem_rooms_applyAll inRooms with before | opens
      · exact lacks.rooms group old ofGroup room before
      · obtain ⟨g, me, used, violations, task⟩ := openRoom_cases h opens
        intro same
        refine unaware.handler _ (by rw [task]; rfl) (by rw [own, ofGroup]) ?_
        rw [← same]
        rfl
    · exact lacks.rooms group' old ofGroup room inRooms
    · rcases inserted_cases h with none | ⟨client, created, -, same⟩
      · rw [none] at new
        cases new
      · rw [same] at new
        cases new
        rw [List.mem_singleton.1 inRooms]
        exact notGeneral.symm

/-! ### The two runs -/

/-- The states of the two runs: the same under the veil, the secret kept in the first, the room
missing in the second. -/
structure Alike (secret : Secret) (gateway gateway' : Gateway) : Prop where
  kept : secret.Kept gateway
  lacks : secret.Lacks gateway'
  same : gateway'.veil secret = gateway.veil secret

theorem unaware_of_lobby {task : Task} (noSession : task.sessionId = none) (noHandler : task.handler = none) :
    task.Unaware secret := by
  constructor
  · intro sessionId goes
    rw [noSession] at goes
    cases goes
  · intro handler under
    rw [noHandler] at under
    cases under

theorem conn_of_ids (ids : (gateway.conns.map Conn.id).Nodup) (mem : conn ∈ gateway.conns) :
    gateway.conn conn.id = some conn := by
  cases found : gateway.conn conn.id with
  | none => exact absurd (List.find?_eq_none.1 found conn mem) (by simp)
  | some other =>
    obtain ⟨inConns, same⟩ := conn_some found
    rw [List.inj_on_of_nodup_map ids inConns mem same]

theorem step_of_actor {id : ℕ} (actor : action.actor = some id) :
    gateway.step prims action = (gateway.conn id).bind fun conn =>
      (gateway.outcome prims conn action).map (gateway.commit conn) := by
  cases action <;> cases actor <;> rfl

theorem loadGroups_veil (store : GatewayStore) :
    loadGroups (store.withoutRoom secret.groupId secret.roomId) = (loadGroups store).map (·.veil secret) := by
  rw [loadGroups, loadGroups, List.map_map]
  refine List.map_congr_left fun summary _ => ?_
  rw [GatewayStore.roomsOf_withoutRoom]
  rfl

theorem restart_alike (alike : Alike secret gateway gateway') :
    Alike secret
      { gateway with
        groups := loadGroups gateway.store, conns := gateway.conns.map fun conn => { conn with task := .closed } }
      { gateway' with
        groups := loadGroups gateway'.store, conns := gateway'.conns.map fun conn => { conn with task := .closed } } := by
  have stores : gateway'.store.withoutRoom secret.groupId secret.roomId =
      gateway.store.withoutRoom secret.groupId secret.roomId := congrArg Gateway.store alike.same
  have conns : gateway'.conns.map (·.veil secret) = gateway.conns.map (·.veil secret) := congrArg Gateway.conns alike.same
  have closes : ∀ conn : Conn, ({ conn with task := .closed } : Conn).veil secret =
      { conn.veil secret with task := .closed } := by
    intro conn
    cases inside : secret.insiders conn.id with
    | false => rw [Conn.veil_outside inside, @Conn.veil_outside secret { conn with task := .closed } inside]
    | true =>
      rw [Conn.veil_inside inside, @Conn.veil_inside secret { conn with task := .closed } inside]
      rfl
  have closed : ∀ conns : List Conn, (conns.map fun conn => { conn with task := .closed }).map (·.veil secret) =
      (conns.map (·.veil secret)).map fun conn => { conn with task := .closed } := by
    intro conns
    rw [List.map_map, List.map_map]
    exact List.map_congr_left fun conn _ => closes conn
  have empty := @loadGroups_empty
  constructor
  · constructor
    · exact alike.kept.known
    · simpa [Function.comp_def] using alike.kept.ids
    · intro conn mem _
      obtain ⟨old, -, rfl⟩ := List.mem_map.1 mem
      trivial
    · intro conn mem _
      obtain ⟨old, -, rfl⟩ := List.mem_map.1 mem
      exact unaware_of_lobby rfl rfl
    · intro group mem _ client inGroup
      rw [empty group mem] at inGroup
      cases inGroup
    · intro group mem _ sessionId locked
      obtain ⟨summary, -, rfl⟩ := List.mem_map.1 mem
      cases locked
  · constructor
    · exact alike.lacks.store
    · intro group mem ofGroup room inRooms same
      obtain ⟨summary, -, rfl⟩ := List.mem_map.1 mem
      have rooms := @GatewayStore.roomsOf_withoutRoom secret.groupId secret.roomId gateway'.store summary.groupId
      rw [alike.lacks.store] at rooms
      change room ∈ gateway'.store.roomsOf summary.groupId at inRooms
      rw [rooms] at inRooms
      exact elsewhere_iff.1 (List.mem_filter.1 inRooms).2 ⟨ofGroup, same⟩
  · have id := congrArg Gateway.gatewayId alike.same
    have name := congrArg Gateway.gatewayName alike.same
    simp only [veil] at id name
    simp only [veil, id, name, stores, ← loadGroups_veil, closed, conns]

theorem accept_alike (alike : Alike secret gateway gateway') {id : ℕ} {remote : IpAddr}
    (outside : secret.insiders id = false) (free : ∀ conn ∈ gateway.conns, conn.id ≠ id) :
    Alike secret { gateway with conns := gateway.conns ++ [{ id, remote, task := .hello, written := [] }] }
      { gateway' with conns := gateway'.conns ++ [{ id, remote, task := .hello, written := [] }] } := by
  have new : ∀ conn ∈ gateway.conns ++ [{ id, remote, task := .hello, written := [] }], conn ∈ gateway.conns ∨
      conn = { id, remote, task := .hello, written := [] } := by
    intro conn mem
    rcases List.mem_append.1 mem with old | new
    · exact .inl old
    · exact .inr (List.mem_singleton.1 new)
  constructor
  · constructor
    · exact alike.kept.known
    · rw [List.map_append]
      refine List.Nodup.append alike.kept.ids (List.nodup_singleton _) ?_
      simpa using free
    · intro conn mem inside
      rcases new conn mem with old | rfl
      · exact alike.kept.within conn old inside
      · rw [outside] at inside
        cases inside
    · intro conn mem isOutside
      rcases new conn mem with old | rfl
      · exact alike.kept.unaware conn old isOutside
      · exact unaware_of_lobby rfl rfl
    · exact alike.kept.joined
    · exact alike.kept.lock
  · exact ⟨alike.lacks.store, alike.lacks.rooms⟩
  · have same := alike.same
    simp only [veil, Gateway.mk.injEq] at same
    obtain ⟨id, name, store, groups, conns⟩ := same
    simp only [veil, id, name, store, groups, List.map_append, conns]

theorem unwinding (notGeneral : secret.roomId ≠ defaultRoomId) :
    Unwinding (step prims) (secret.Admits prims) secret.hides (Alike secret) where
  unseen := by
    intro gateway gateway' next action alike admits hidden taken
    rcases step_cases taken with ⟨id, remote, rfl, -, -⟩ | ⟨rfl, -⟩ | ⟨conn, mem, actor, outcome, h, rfl⟩
    · cases hidden
    · cases hidden
    · have inside : secret.insiders conn.id = true := by simpa [Secret.hides, actor] using hidden
      have confined := (admits.2 conn mem actor).1 inside
      have same := unseen_commit alike.kept mem inside confined h
      refine ⟨kept_of_veil alike.kept same fun other inConns isInside => ?_, alike.lacks, by rw [same, alike.same]⟩
      rcases mem_conns_commit inConns with ⟨old, -⟩ | rfl
      · exact alike.kept.within other old isInside
      · exact (hidden_outcome alike.kept mem inside confined h).within
  matched := by
    intro gateway gateway' next action alike admits shown taken
    rcases step_cases taken with ⟨id, remote, rfl, free, rfl⟩ | ⟨rfl, rfl⟩ | ⟨conn, mem, actor, outcome, h, rfl⟩
    · have outside := admits.1 id remote rfl
      refine ⟨_, ?_, accept_alike alike outside free⟩
      simp only [step] at taken ⊢
      split at taken
      · rename_i allowed
        rw [← conn_veil outside, ← @openConns_veil secret, ← alike.same, conn_veil outside,
          openConns_veil] at allowed
        rw [if_pos allowed]
      · cases taken
    · exact ⟨_, rfl, restart_alike alike⟩
    · have outside : secret.insiders conn.id = false := by simpa [Secret.hides, actor] using shown
      have overlooks := (admits.2 conn mem actor).2 outside
      have unaware := alike.kept.unaware conn mem outside
      have lacking := alike.lacks.overlooks overlooks
      have known : gateway'.store.hasGroup secret.groupId = true := by
        rw [GatewayStore.hasGroup, ← @groups_veil secret, alike.same]
        exact alike.kept.known
      -- under the veil both gateways take the same step
      have first := @outcome_veil secret prims gateway alike.kept.known conn action notGeneral unaware overlooks
      have second := @outcome_veil secret prims gateway' known conn action notGeneral unaware lacking
      rw [alike.same, first, h] at second
      obtain ⟨outcome', h', alike'⟩ := Option.map_eq_some_iff.1 second.symm
      have found : gateway'.conn conn.id = some conn := by
        rw [← conn_veil outside, alike.same, conn_veil outside, conn_of_ids alike.kept.ids mem]
      refine ⟨gateway'.commit conn outcome', ?_, ?_, ?_, ?_⟩
      · rw [step_of_actor actor, found, Option.bind_some, h']
        rfl
      · exact kept_commit notGeneral alike.kept mem outside overlooks h
      · exact lacks_commit notGeneral alike.lacks known unaware lacking h'
      · rw [← veil_commit, ← @veil_commit secret gateway, alike.same, alike']

end Gateway

/-! ### Checking the steps of a run -/

/-- The connection waits in the group of the secret, and its session knows if it does. -/
def Conn.isApart (secret : Secret) (conn : Conn) : Bool :=
  match conn.task with
  | .serving groupId me _ _ none =>
    groupId == secret.groupId && secret.sessions me.peer.sessionId == secret.insiders conn.id
  | _ => false

/-- Everybody is served and nobody is at work. -/
def Secret.isKept (secret : Secret) (gateway : Gateway) : Bool :=
  gateway.store.hasGroup secret.groupId && decide (gateway.conns.map Conn.id).Nodup &&
    gateway.conns.all (·.isApart secret) && gateway.groups.all fun group =>
      group.roomCreation.isNone && group.clients.all fun client =>
        secret.sessions client.peer.sessionId || decide (secret.roomId ∉ client.joinedRooms)

theorem Secret.kept_of_check {gateway : Gateway} (h : secret.isKept gateway = true) : secret.Kept gateway := by
  simp only [isKept, Bool.and_eq_true, decide_eq_true_eq, List.all_eq_true] at h
  obtain ⟨⟨⟨known, ids⟩, apart⟩, groups⟩ := h
  have served : ∀ conn ∈ gateway.conns, ∃ me used violations,
      conn.task = .serving secret.groupId me used violations none ∧
        secret.sessions me.peer.sessionId = secret.insiders conn.id := by
    intro conn mem
    have check := apart conn mem
    unfold Conn.isApart at check
    split at check
    · rename_i groupId me used violations task
      simp only [Bool.and_eq_true, beq_iff_eq] at check
      obtain ⟨rfl, same⟩ := check
      exact ⟨me, used, violations, task, same⟩
    · cases check
  constructor
  · exact known
  · exact ids
  · intro conn mem inside
    obtain ⟨me, used, violations, task, same⟩ := served conn mem
    rw [task]
    refine ⟨rfl, same.trans inside, fun next none => ?_⟩
    cases none
  · intro conn mem outside
    obtain ⟨me, used, violations, task, same⟩ := served conn mem
    rw [task]
    constructor
    · intro sessionId goes
      cases goes
      exact same.trans outside
    · intro handler none
      cases none
  · intro group mem _ client inGroup outside
    have check := (groups group mem).2 client inGroup
    rw [outside] at check
    exact of_decide_eq_true check
  · intro group mem _ sessionId locked
    have free := (groups group mem).1
    rw [locked] at free
    cases free

/-- A step of a connection that does not know, which neither enters nor creates a room. -/
def Task.passesBy (secret : Secret) (gateway : Gateway) (task : Task) : Action → Bool
  | .receive _ message _ => message.askedRoom != some secret.roomId
  | .advance _ _ _ => match task with
    | .serving _ _ _ _ (some (.chatAppend _ messageId _)) =>
      gateway.store.groupMessages.all (·.messageId != messageId)
    | .entering _ _ | .loadingRooms _ _ _ _ | .serving _ _ _ _ (some (.createCheck _ _))
    | .serving _ _ _ _ (some (.createStore _ _)) => false
    | _ => true
  | _ => true

theorem Task.overlooks_of_check {gateway : Gateway} {task : Task} {action : Action}
    (h : task.passesBy secret gateway action = true) : task.Overlooks secret gateway action := by
  cases action with
  | receive => exact bne_iff_ne.1 h
  | advance =>
    cases task with
    | entering | loadingRooms => cases h
    | serving groupId me used violations handler =>
      cases handler with
      | none => trivial
      | some handler =>
        cases handler with
        | createCheck | createStore => cases h
        | chatAppend =>
          intro row mem _ _
          exact bne_iff_ne.1 (List.all_eq_true.1 h row mem)
        | _ => trivial
    | _ => trivial
  | _ => trivial

/-- A step that keeps the secret, of a connection that knows and neither includes nor removes members or
of one that passes by. -/
def Secret.admits (secret : Secret) (prims : Primitives) (gateway : Gateway) (action : Action) : Bool :=
  (match action with
    | .accept id _ => !secret.insiders id
    | _ => true) &&
  gateway.conns.all fun conn => action.actor != some conn.id ||
    if secret.insiders conn.id then
      (gateway.outcome prims conn action).all (·.task.isServing) && conn.task.handler.all (·.tells.isNone) &&
        match action with
        | .receive _ message _ => message.askedRoom == some secret.roomId
        | _ => true
    else conn.task.passesBy secret gateway action

theorem Secret.admits_of_check {prims : Primitives} (gateway : Gateway) (action : Action)
    (h : secret.admits prims gateway action = true) : secret.Admits prims gateway action := by
  unfold admits at h
  rw [Bool.and_eq_true, List.all_eq_true] at h
  obtain ⟨accepts, conns⟩ := h
  constructor
  · rintro id remote rfl
    simpa using accepts
  · intro conn mem actor
    have check := conns conn mem
    rw [actor, bne_self_eq_false, Bool.false_or] at check
    constructor
    · intro inside
      rw [if_pos inside, Bool.and_eq_true, Bool.and_eq_true] at check
      obtain ⟨⟨served, silent⟩, asks⟩ := check
      constructor
      · intro outcome h
        rw [h] at served
        exact served
      · rintro id message newWindow rfl
        exact eq_of_beq asks
      · intro handler memberId under told
        rw [under, Option.all_some, told] at silent
        cases silent
    · intro outside
      rw [if_neg (by simp [outside])] at check
      exact Task.overlooks_of_check check

namespace Gateway

/-- **A private room shows only to those who come upon it.** -/
theorem room_unnoticed {start start' last : Gateway} {actions : List Action}
    (notGeneral : secret.roomId ≠ defaultRoomId) (kept : secret.Kept start) (lacks : secret.Lacks start')
    (same : start'.veil secret = start.veil secret) (run : Run (step prims) (secret.Admits prims) start actions last) :
    ∃ last', Run (step prims) anyAction start' (purge secret.hides actions) last' ∧
      ∀ id, secret.insiders id = false → last'.conn id = last.conn id := by
  obtain ⟨last', purged, alike⟩ := (unwinding notGeneral).purged run ⟨kept, lacks, same⟩
  refine ⟨last', purged, fun id outside => ?_⟩
  rw [← conn_veil outside, alike.same, conn_veil outside]

/-- Connection 1 knows of the attic, with its session. -/
def atticSecret : Secret := ⟨⟨10⟩, attic, (· == 1), (· == ⟨20⟩)⟩

/-- Connection 1 posts in the attic while connection 2 posts in the general room. -/
def talksInAttic : List Action :=
  .receive 1 (.chat attic ⟨60⟩ "psst") false :: .receive 2 (.chat "general" ⟨61⟩ "hi") false ::
    (advances 1 3 ++ advances 2 3) ++ advances 1 1

/-- There is a message in the attic and one in the general room. -/
def hasTalked (gateway : Gateway) : Bool :=
  gateway.store.groupMessages.any (fun row => row.roomId == attic) &&
    gateway.store.groupMessages.any (fun row => row.roomId == defaultRoomId)

theorem room_unnoticed_attic : ∃ start last, Reachable .checksummed start ∧
    Run (step .checksummed) (atticSecret.Admits .checksummed) start talksInAttic last ∧ last.hasTalked = true ∧
    ∃ last', Run (step .checksummed) anyAction teamOfTwo (purge atticSecret.hides talksInAttic) last' ∧
      ∀ id, atticSecret.insiders id = false → last'.conn id = last.conn id := by
  have ran : (exec (step .checksummed) (fun _ => true) teamOfTwo opensAttic).any fun start =>
      atticSecret.isKept start && decide (teamOfTwo.veil atticSecret = start.veil atticSecret) &&
        (exec (guarded (step .checksummed) (atticSecret.admits .checksummed)) (fun _ => true) start talksInAttic).any
          hasTalked := by
    decide +kernel
  obtain ⟨start, opened, check⟩ := (Option.any_eq_true _ _).1 ran
  rw [Bool.and_eq_true, Bool.and_eq_true, decide_eq_true_eq] at check
  obtain ⟨⟨kept, same⟩, talks⟩ := check
  obtain ⟨last, ran, heard⟩ := (Option.any_eq_true _ _).1 talks
  have opens : Run (step .checksummed) anyAction teamOfTwo opensAttic start := run_of_exec (fun _ _ _ => trivial) opened
  have checked : Run (guarded (step .checksummed) (atticSecret.admits .checksummed)) anyAction start talksInAttic last :=
    run_of_exec (fun _ _ _ => trivial) ran
  have run := checked.of_guarded Secret.admits_of_check
  have lacks : atticSecret.Lacks teamOfTwo := ⟨by decide +kernel, by decide +kernel⟩
  obtain ⟨blank, actions, spawned, before⟩ := reachable_teamOfTwo
  exact ⟨start, last, ⟨blank, _, spawned, before.append opens⟩, run, heard,
    room_unnoticed (by decide +kernel) (Secret.kept_of_check kept) lacks same run⟩

end Gateway

end LanChat
