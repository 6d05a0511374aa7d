import LanChat.Base.Transition
import LanChat.Server.Gateway

/-!
# Steps of the gateway

What changes do to the sessions of a group, what a committed step leaves where
it was, and what a step can be: `step_cases` for the gateway and `Taken` for
the task of one connection. Every invariant of the gateway is proved by cases
on these.
-/

namespace LanChat

open Transition

/-! ## What changes do to the sessions of a group -/

def ClientEntry.applyAll (client : ClientEntry) (changes : List Change) : ClientEntry :=
  changes.foldl ClientEntry.apply client

namespace ClientEntry

variable (client : ClientEntry) (change : Change)

@[simp] theorem applyAll_nil : client.applyAll [] = client := rfl

@[simp] theorem applyAll_cons (changes : List Change) :
    client.applyAll (change :: changes) = (client.apply change).applyAll changes := rfl

@[simp] theorem apply_peer : (client.apply change).peer = client.peer := by
  cases change <;> simp only [apply, joinRoom, leaveRoom] <;> split <;> (try split) <;> rfl

@[simp] theorem apply_role : (client.apply change).role = client.role := by
  cases change <;> simp only [apply, joinRoom, leaveRoom] <;> split <;> (try split) <;> rfl

@[simp] theorem applyAll_peer (changes : List Change) :
    (client.applyAll changes).peer = client.peer := by
  induction changes generalizing client with
  | nil => rfl
  | cons change changes ih => rw [applyAll_cons, ih, apply_peer]

@[simp] theorem applyAll_role (changes : List Change) :
    (client.applyAll changes).role = client.role := by
  induction changes generalizing client with
  | nil => rfl
  | cons change changes ih => rw [applyAll_cons, ih, apply_role]

end ClientEntry

namespace GroupState

variable (group : GroupState)

@[simp] theorem applyAll_nil : group.applyAll [] = group := rfl

@[simp] theorem applyAll_cons (change : Change) (changes : List Change) :
    group.applyAll (change :: changes) = (group.apply change).applyAll changes := rfl

@[simp] theorem apply_summary (change : Change) : (group.apply change).summary = group.summary := by
  cases change <;> simp only [apply]
  split <;> rfl

@[simp] theorem applyAll_summary (changes : List Change) :
    (group.applyAll changes).summary = group.summary := by
  induction changes generalizing group with
  | nil => rfl
  | cons change changes ih => rw [applyAll_cons, ih, apply_summary]

variable {group}

/-- A session after one change is an old one, changed, or the registered one. -/
theorem mem_apply {change : Change} {client' : ClientEntry}
    (h : client' ∈ (group.apply change).clients) :
    (∃ client ∈ group.clients, client' = client.apply change) ∨ change = .register client' := by
  cases change with
  | register client =>
    rcases List.mem_append.1 h with h | h
    · exact .inl ⟨client', h, rfl⟩
    · rw [List.mem_singleton.1 h]
      exact .inr rfl
  | remove sessionId => exact .inl ⟨client', (List.mem_filter.1 h).1, rfl⟩
  | openRoom room => exact .inl ⟨client', h, rfl⟩
  | lockCreation sessionId => exact .inl ⟨client', h, rfl⟩
  | unlockCreation sessionId =>
    refine .inl ⟨client', ?_, rfl⟩
    simp only [apply] at h
    split at h <;> exact h
  | send | join | leave | kick | hold | receive =>
    obtain ⟨client, mem, rfl⟩ := List.mem_map.1 h
    exact .inl ⟨client, mem, rfl⟩

theorem mem_applyAll {changes : List Change} {client' : ClientEntry}
    (h : client' ∈ (group.applyAll changes).clients) :
    (∃ client ∈ group.clients, client' = client.applyAll changes) ∨
      ∃ before new after, changes = before ++ .register new :: after ∧
        client' = new.applyAll after := by
  induction changes generalizing group with
  | nil => exact .inl ⟨client', h, rfl⟩
  | cons change changes ih =>
    rcases ih h with ⟨middle, mem, rfl⟩ | ⟨before, new, after, rfl, rfl⟩
    · rcases mem_apply mem with ⟨client, old, rfl⟩ | rfl
      · exact .inl ⟨client, old, rfl⟩
      · exact .inr ⟨[], middle, changes, rfl, rfl⟩
    · exact .inr ⟨change :: before, new, after, rfl, rfl⟩

/-- Rooms are only added. -/
theorem rooms_apply (change : Change) :
    (group.apply change).rooms = group.rooms ++ match change with
      | .openRoom room => [room]
      | _ => [] := by
  cases change <;> simp only [apply, List.append_nil]
  split <;> rfl

theorem rooms_applyAll (group : GroupState) (changes : List Change) :
    ∃ opened, (group.applyAll changes).rooms = group.rooms ++ opened ∧
      ∀ room, .openRoom room ∈ changes → room ∈ opened := by
  induction changes generalizing group with
  | nil => exact ⟨[], by simp, by simp⟩
  | cons change changes ih =>
    obtain ⟨opened, rooms, contains⟩ := ih (group.apply change)
    rw [rooms_apply] at rooms
    refine ⟨_, by rw [applyAll_cons, rooms, List.append_assoc], fun room mem => ?_⟩
    rcases List.mem_cons.1 mem with rfl | mem
    · exact List.mem_append_left _ (List.mem_singleton_self _)
    · exact List.mem_append_right _ (contains room mem)

theorem room_applyAll {changes : List Change} {r : String} (found : (group.room r).isSome = true) :
    ((group.applyAll changes).room r).isSome = true := by
  obtain ⟨opened, rooms, -⟩ := rooms_applyAll group changes
  simp only [room, List.find?_isSome] at found ⊢
  obtain ⟨entry, mem, same⟩ := found
  exact ⟨entry, by rw [rooms]; exact List.mem_append_left _ mem, same⟩

theorem room_openRoom {changes : List Change} {room : RoomSummary}
    (opens : .openRoom room ∈ changes) : ((group.applyAll changes).room room.roomId).isSome = true := by
  obtain ⟨opened, rooms, contains⟩ := rooms_applyAll group changes
  simp only [GroupState.room, List.find?_isSome]
  exact ⟨room, by rw [rooms]; exact List.mem_append_right _ (contains room opens), by simp⟩

end GroupState

/-! ## The steps of a handler -/

/-- What a message shows of the contents of a room. -/
def ServerMessage.roomContents : ServerMessage → Option String
  | .chat message => some message.roomId
  | .historyPage roomId _ _ => some roomId
  | .roomJoined room _ => some room.roomId
  | _ => none

namespace Handler

/-- Handlers that are not at work on the contents or the members of a room. -/
def isPlain : Handler → Bool
  | requestsAdmin | requestsLoad | decideStore _ _ | membersAdmin _ | membersLoad _ | banStore _ _
  | rotateStore _ | roomMembersManage _ _ | roomMembersLoad _ _ => true
  | reply message => message.roomContents.isNone
  | _ => false

/-- Only the reply to a store call is left. -/
def isReply : Handler → Bool
  | reply _ => true
  | _ => false

/-- **Where a handler goes with the reply of its store call.** -/
inductive Resumes : Handler → StoreReply → Handler → Prop where
  | posted {roomId : String} {messageId : Uuid} {text : String} {message : ChatRecord} :
      Resumes (chatAppend roomId messageId text) (.record message) (chatBroadcast message)
  | created {name : String} {visibility : RoomVisibility} {room : RoomSummary} :
      Resumes (createStore name visibility) (.room room) (createInsert room)
  | granted {room : RoomSummary} {memberId : Uuid} :
      Resumes (joinAccess room memberId) (.flag true) (joinHistory room)
  | loaded {room : RoomSummary} {history : List ChatRecord} :
      Resumes (joinHistory room) (.records history) (joinInsert room (fitHistoryToFrame history))
  | paged {roomId : String} {before limit : ℕ} {messages : List ChatRecord} :
      Resumes (historyLoad roomId before limit) (.records messages)
        (reply (.historyPage roomId (fitHistoryToFrame messages)
          (hasMore (fitHistoryToFrame messages))))
  | banned {memberId : Uuid} :
      Resumes (banStore memberId true) (.flag true) (banSweep memberId)
  | rotated {kind : GroupTokenKind} {token : String} (notInvite : kind ≠ .invite) :
      Resumes (rotateStore kind) (.token token) (rotateSweep kind token)
  | changed {roomId : String} {memberId : Uuid} {included : Bool} :
      Resumes (setRoomMemberStore roomId memberId included) (.flag true)
        (setRoomMemberRoom roomId memberId included)
  /-- An error, or a handler with no room in hand. -/
  | plain {handler next : Handler} {answer : StoreReply} (isPlain : next.isPlain = true)
      (quiet : ∀ r m included, handler = setRoomMemberStore r m included → answer ≠ .flag true) :
      Resumes handler answer next

theorem resumes {groupId : Uuid} {me : Session} {draw : Draw} {handler : Handler} {op : StoreOp}
    (waits : handler.storeCall groupId me draw = some op) (answer : StoreReply) :
    Resumes handler answer (handler.resume answer) := by
  cases handler with
  | chatAppend => simp only [resume]; split <;> first | exact .posted | exact .plain rfl (by simp)
  | createStore => simp only [resume]; split <;> first | exact .created | exact .plain rfl (by simp)
  | joinAccess => simp only [resume]; split <;> first | exact .granted | exact .plain rfl (by simp)
  | joinHistory => simp only [resume]; split <;> first | exact .loaded | exact .plain rfl (by simp)
  | historyLoad => simp only [resume]; split <;> first | exact .paged | exact .plain rfl (by simp)
  | requestsLoad => simp only [resume]; split <;> exact .plain rfl (by simp)
  | decideStore => simp only [resume]; split <;> exact .plain rfl (by simp)
  | membersLoad => simp only [resume]; split <;> exact .plain rfl (by simp)
  | banStore memberId ban =>
    simp only [resume]
    split
    · cases ban
      · exact .plain rfl (by simp)
      · exact .banned
    · exact .plain rfl (by simp)
    · exact .plain rfl (by simp)
  | rotateStore kind =>
    simp only [resume]
    split
    · cases kind
      · exact .rotated (by simp)
      · exact .rotated (by simp)
      · exact .plain rfl (by simp)
    · exact .plain rfl (by simp)
  | roomMembersManage => simp only [resume]; split <;> exact .plain rfl (by simp)
  | roomMembersLoad => simp only [resume]; split <;> exact .plain rfl (by simp)
  | setRoomMemberStore roomId memberId included =>
    simp only [resume]
    split
    · exact .changed
    · exact .plain rfl fun _ _ _ _ => by simp
    · rename_i notTrue _
      exact .plain rfl fun _ _ _ _ same => notTrue same
  | _ => cases waits

/-- **What a handler does in a block.** -/
inductive Blocks (group : GroupState) (me : Session) :
    Handler → List Change → Option Handler → Prop where
  /-- The handler answers its own session and returns. -/
  | finished {handler : Handler} {message : ServerMessage}
      (answers : (∃ code text, message = .error code text) ∨ handler = reply message) :
      Blocks group me handler (finish me message).1 none
  | chatJoined {roomId text kept : String} {messageId : Uuid}
      (joined : group.hasJoined me.peer.sessionId roomId = true)
      (sanitized : sanitizeChatText text = .ok kept) :
      Blocks group me (chatJoined roomId messageId text) [] (some (chatRoom roomId messageId kept))
  | chatRoom {roomId text : String} {messageId : Uuid} :
      Blocks group me (chatRoom roomId messageId text) [] (some (chatAppend roomId messageId text))
  | chatBroadcast {message : ChatRecord} :
      Blocks group me (chatBroadcast message) [.send (.inRoom message.roomId) (.chat message)] none
  | createLock {name : String} {visibility : RoomVisibility} :
      Blocks group me (createLock name visibility) [.lockCreation me.peer.sessionId]
        (some (createCheck name visibility))
  | createCheck {name : String} {visibility : RoomVisibility}
      (few : group.rooms.length < maxRooms) (unused : group.usesRoomName name = false) :
      Blocks group me (createCheck name visibility) [] (some (createStore name visibility))
  | createInsert {room : RoomSummary} :
      Blocks group me (createInsert room) [.openRoom room] (some (createAnnounce room))
  | createAnnounce {room : RoomSummary} {whom : Recipients} :
      Blocks group me (createAnnounce room) [.send whom (.roomCreated room)] (some (joinHistory room))
  | joinFind {roomId : String} {room : RoomSummary} (found : group.room roomId = some room) :
      Blocks group me (joinFind roomId) [] (some (joinMember room))
  | joinMember {room : RoomSummary} {client : ClientEntry}
      (found : group.client me.peer.sessionId = some client) :
      Blocks group me (joinMember room) [] (some (joinAccess room client.peer.memberId))
  | joinNobody {room : RoomSummary} : Blocks group me (joinMember room) [] none
  | joinInsert {room : RoomSummary} {history : List ChatRecord} :
      Blocks group me (joinInsert room history)
        [.join me.peer.sessionId room.roomId,
          .send (.session me.peer.sessionId) (.roomJoined room history),
          .unlockCreation me.peer.sessionId] none
  | leave {roomId : String} :
      Blocks group me (leave roomId)
        [.leave (.session me.peer.sessionId) roomId,
          .send (.session me.peer.sessionId) (.roomLeft roomId)] none
  | historyJoined {roomId : String} {before limit : ℕ}
      (joined : group.hasJoined me.peer.sessionId roomId = true) :
      Blocks group me (historyJoined roomId before limit) [] (some (historyLoad roomId before limit))
  | admin {handler next : Handler} (isPlain : next.isPlain = true)
      (isAdmin : group.requireAdmin me.peer.sessionId = true)
      (notReply : next.isReply = false) : Blocks group me handler [] (some next)
  | banSweep {memberId : Uuid} :
      Blocks group me (banSweep memberId) [.kick (.member memberId) .banned] (some (membersAdmin 0))
  | rotateSweep {kind : GroupTokenKind} {token : String} :
      Blocks group me (rotateSweep kind token)
        [.kick (.otherSessions me.peer.memberId me.peer.sessionId) .credentialRotated,
          .send (.session me.peer.sessionId) (.groupTokenRotated kind token)] none
  | memberUnknown {roomId : String} {memberId : Uuid} {included : Bool}
      (missing : group.room roomId = none) :
      Blocks group me (setRoomMemberRoom roomId memberId included) [] (some (roomMembersManage roomId 0))
  | memberIncluded {roomId : String} {memberId : Uuid} {room : RoomSummary}
      (found : group.room roomId = some room) :
      Blocks group me (setRoomMemberRoom roomId memberId true) []
        (some (setRoomMemberNotify memberId room))
  | memberExcluded {roomId : String} {memberId : Uuid} {room : RoomSummary}
      (found : group.room roomId = some room) :
      Blocks group me (setRoomMemberRoom roomId memberId false) []
        (some (setRoomMemberRemove memberId roomId))
  | memberNotified {memberId : Uuid} {room : RoomSummary} :
      Blocks group me (setRoomMemberNotify memberId room)
        [.send (.member memberId) (.roomCreated room)] (some (roomMembersManage room.roomId 0))
  | memberRemoved {memberId : Uuid} {roomId : String} :
      Blocks group me (setRoomMemberRemove memberId roomId)
        [.leave (.member memberId) roomId, .send (.member memberId) (.roomLeft roomId)]
        (some (roomMembersManage roomId 0))

theorem blocks_afterAdmin {group : GroupState} {me : Session} {handler next : Handler}
    {refusal : String} {changes : List Change} {after : Option Handler}
    (isPlain : next.isPlain = true) (notReply : next.isReply = false)
    (h : some (afterAdmin group me refusal next) = some (changes, after)) :
    Blocks group me handler changes after := by
  unfold afterAdmin at h
  split at h <;> cases h
  · exact .admin isPlain ‹_› notReply
  · exact .finished (.inl ⟨_, _, rfl⟩)

theorem blocks {group : GroupState} {me : Session} {handler : Handler} {changes : List Change}
    {next : Option Handler} (h : handler.block group me = some (changes, next)) :
    Blocks group me handler changes next := by
  cases handler with
  | chatJoined =>
    simp only [block] at h
    split at h
    · rename_i joined
      split at h <;> cases h
      · exact .chatJoined joined ‹_›
      · exact .finished (.inl ⟨_, _, rfl⟩)
    · cases h
      exact .finished (.inl ⟨_, _, rfl⟩)
  | chatRoom =>
    simp only [block] at h
    split at h <;> cases h
    · exact .chatRoom
    · exact .finished (.inl ⟨_, _, rfl⟩)
  | chatBroadcast => cases h; exact .chatBroadcast
  | createLock =>
    simp only [block] at h
    split at h <;> cases h
    exact .createLock
  | createCheck =>
    simp only [block] at h
    split at h
    · cases h
      exact .finished (.inl ⟨_, _, rfl⟩)
    · rename_i few
      split at h
      · cases h
        exact .finished (.inl ⟨_, _, rfl⟩)
      · rename_i unused
        cases h
        exact .createCheck (Nat.lt_of_not_le few) (by simpa using unused)
  | createInsert => cases h; exact .createInsert
  | createAnnounce => cases h; exact .createAnnounce
  | joinFind =>
    simp only [block] at h
    split at h <;> cases h
    · exact .joinFind ‹_›
    · exact .finished (.inl ⟨_, _, rfl⟩)
  | joinMember =>
    simp only [block] at h
    split at h <;> cases h
    · exact .joinMember ‹_›
    · exact .joinNobody
  | joinInsert => cases h; exact .joinInsert
  | leave => cases h; exact .leave
  | historyJoined =>
    simp only [block] at h
    split at h <;> cases h
    · exact .historyJoined ‹_›
    · exact .finished (.inl ⟨_, _, rfl⟩)
  | requestsAdmin => exact blocks_afterAdmin rfl rfl h
  | decideAdmin => exact blocks_afterAdmin rfl rfl h
  | membersAdmin => exact blocks_afterAdmin rfl rfl h
  | banAdmin => exact blocks_afterAdmin rfl rfl h
  | rotateAdmin => exact blocks_afterAdmin rfl rfl h
  | banSweep => cases h; exact .banSweep
  | rotateSweep => cases h; exact .rotateSweep
  | setRoomMemberRoom roomId memberId included =>
    simp only [block] at h
    split at h
    · cases h
      exact .memberUnknown ‹_›
    · cases included <;> cases h
      · exact .memberExcluded ‹_›
      · exact .memberIncluded ‹_›
  | setRoomMemberNotify => cases h; exact .memberNotified
  | setRoomMemberRemove => cases h; exact .memberRemoved
  | reply message => cases h; exact .finished (.inr rfl)
  | _ => cases h

/-- The first await points. -/
def isStart : Handler → Bool
  | chatJoined _ _ _ | createLock _ _ | joinFind _ | leave _ | historyJoined _ _ _ | requestsAdmin
  | decideAdmin _ _ | membersAdmin _ | banAdmin _ _ | rotateAdmin _ | rotateStore _
  | roomMembersManage _ _ | setRoomMemberStore _ _ _ => true
  | _ => false

theorem starts_dispatch {message : ClientMessage} {handler : Handler}
    (h : dispatch message = .run handler) : handler.isStart = true := by
  unfold dispatch at h
  repeat' split at h
  all_goals cases h <;> rfl

end Handler

/-- The tasks of a connection that is in no group and has not been admitted to one. -/
def Task.inLobby : Task → Bool
  | hello | greeting _ | selecting _ | joining _ _ _ | authorizing _ _ _ | requesting _ _
  | creatingGroup _ _ _ | closed => true
  | _ => false

/-- The creator of a group, just before its admission. -/
def Task.isNaming : Task → Bool
  | namingCreator _ _ => true
  | _ => false

/-- The handler under way. -/
def Task.handler : Task → Option Handler
  | serving _ _ _ _ handler => handler
  | _ => none

theorem Task.handler_of_inLobby {task : Task} (lobby : task.inLobby = true) : task.handler = none := by
  cases task <;> first | rfl | cases lobby

/-- No handler is under way. -/
def Task.isIdle : Task → Bool
  | serving _ _ _ _ (some _) => false
  | _ => true

namespace Gateway

variable {prims : Primitives} {gateway gateway' : Gateway} {conn : Conn} {outcome : Outcome}

/-! ## Steps -/

theorem conn_some {id : ℕ} (h : gateway.conn id = some conn) : conn ∈ gateway.conns ∧ conn.id = id :=
  ⟨List.mem_of_find?_eq_some h, by simpa using List.find?_some h⟩

theorem group_some {groupId : Uuid} {group : GroupState} (h : gateway.group groupId = some group) :
    group ∈ gateway.groups ∧ group.summary.groupId = groupId :=
  ⟨List.mem_of_find?_eq_some h, by simpa using List.find?_some h⟩

/-- **What a step is.** A new connection, a restart, or a step of one connection. -/
theorem step_cases {action : Action} (h : gateway.step prims action = some gateway') :
    (∃ id remote, action = .accept id remote ∧ (∀ conn ∈ gateway.conns, conn.id ≠ id) ∧
      gateway' = { gateway with
        conns := gateway.conns ++ [{ id, remote, task := .hello, written := [] }] }) ∨
    (action = .restart ∧ gateway' = { gateway with
      groups := loadGroups gateway.store,
      conns := gateway.conns.map fun conn => { conn with task := .closed } }) ∨
    ∃ conn ∈ gateway.conns, action.actor = some conn.id ∧ ∃ outcome,
      gateway.outcome prims conn action = some outcome ∧ gateway' = gateway.commit conn outcome := by
  have ofConn : ∀ id, action.actor = some id → ((gateway.conn id).bind fun conn =>
      (gateway.outcome prims conn action).map (gateway.commit conn)) = some gateway' →
      ∃ conn ∈ gateway.conns, action.actor = some conn.id ∧ ∃ outcome,
        gateway.outcome prims conn action = some outcome ∧
          gateway' = gateway.commit conn outcome := by
    intro id actor h
    obtain ⟨conn, found, h⟩ := Option.bind_eq_some_iff.1 h
    obtain ⟨outcome, taken, wrote⟩ := Option.map_eq_some_iff.1 h
    obtain ⟨mem, rfl⟩ := conn_some found
    exact ⟨conn, mem, actor, outcome, taken, wrote.symm⟩
  cases action with
  | accept id remote =>
    simp only [step] at h
    split at h
    · rename_i free
      cases h
      simp only [Bool.and_eq_true, Option.isNone_iff_eq_none, conn, List.find?_eq_none] at free
      exact .inl ⟨id, remote, rfl, by simpa using free.1, rfl⟩
    · cases h
  | restart => exact .inr (.inl ⟨rfl, (Option.some.inj h).symm⟩)
  | receive id message newWindow => exact .inr (.inr (ofConn id rfl h))
  | advance id draw fault => exact .inr (.inr (ofConn id rfl h))
  | flush id => exact .inr (.inr (ofConn id rfl h))
  | kicked id => exact .inr (.inr (ofConn id rfl h))
  | disconnect id => exact .inr (.inr (ofConn id rfl h))

/-! ## Committing -/

theorem mem_groups_commit {group' : GroupState}
    (h : group' ∈ (gateway.commit conn outcome).groups) :
    (∃ group ∈ gateway.groups, conn.task.groupId = some group.summary.groupId ∧
      group' = group.applyAll outcome.changes) ∨
    (group' ∈ gateway.groups ∧ conn.task.groupId ≠ some group'.summary.groupId) ∨
    outcome.inserted = some group' := by
  rcases List.mem_append.1 h with h | h
  · obtain ⟨group, mem, rfl⟩ := List.mem_map.1 h
    split
    · rename_i own
      exact .inl ⟨group, mem, own, rfl⟩
    · rename_i other
      exact .inr (.inl ⟨mem, other⟩)
  · exact .inr (.inr (by simpa using h))

/-- The connection after its step. -/
def after (conn : Conn) (outcome : Outcome) : Conn :=
  { conn with task := outcome.task, written := conn.written ++ outcome.written }

theorem mem_conns_commit {other : Conn} (h : other ∈ (gateway.commit conn outcome).conns) :
    (other ∈ gateway.conns ∧ other.id ≠ conn.id) ∨ other = after conn outcome := by
  obtain ⟨old, mem, rfl⟩ := List.mem_map.1 h
  split
  · exact .inr rfl
  · rename_i other
    exact .inl ⟨mem, other⟩

theorem other_mem_commit {other : Conn} (mem : other ∈ gateway.conns) (ne : other.id ≠ conn.id) :
    other ∈ (gateway.commit conn outcome).conns :=
  List.mem_map.2 ⟨other, mem, if_neg ne⟩

theorem after_mem_commit (mem : conn ∈ gateway.conns) :
    after conn outcome ∈ (gateway.commit conn outcome).conns :=
  List.mem_map.2 ⟨conn, mem, if_pos rfl⟩

/-! ## The steps of a task -/

@[simp] theorem moveTo_store (task : Task) : (gateway.moveTo task).store = gateway.store := rfl
@[simp] theorem moveTo_inserted (task : Task) : (gateway.moveTo task).inserted = none := rfl
@[simp] theorem moveTo_changes (task : Task) : (gateway.moveTo task).changes = [] := rfl
@[simp] theorem moveTo_written (task : Task) : (gateway.moveTo task).written = [] := rfl
@[simp] theorem moveTo_task (task : Task) : (gateway.moveTo task).task = task := rfl

/-- The store calls of a connection that is in no group yet. -/
inductive LobbyCall (prims : Primitives) (gateway : Gateway) : GatewayStore → Prop where
  | none : LobbyCall prims gateway gateway.store
  | authorizeJoin {groupId : Uuid} {credential : Option String} {nickname : String} {draw : Draw}
      {fault : Bool} : LobbyCall prims gateway
        (gateway.call prims (.authorizeJoin groupId credential nickname draw) fault).2
  | createJoinRequest {groupId : Uuid} {nickname : String} {draw : Draw} {fault : Bool} :
      LobbyCall prims gateway
        (gateway.call prims (.createJoinRequest groupId nickname draw) fault).2
  | createGroup {name : String} {mode : GroupAccessMode} {draw : Draw} {fault : Bool} :
      LobbyCall prims gateway
        (gateway.call prims (.createGroupWithAccess name mode draw) fault).2
  | updateMemberNickname {groupId memberId : Uuid} {nickname : String} {fault : Bool} :
      LobbyCall prims gateway
        (gateway.call prims (.updateMemberNickname groupId memberId nickname) fault).2

/-- The changes of a session's task outside its handlers. -/
inductive InsideChanges (task : Task) (me : Session) : List Change → Prop where
  | nothing : InsideChanges task me []
  | received : InsideChanges task me [.receive me.peer.sessionId]
  | joined {groupId : Uuid} (announcing : task = .announcing groupId me) :
      InsideChanges task me [.send (.others me.peer.sessionId) (.memberJoined me.peer)]
  | error {code text : String} :
      InsideChanges task me [.send (.session me.peer.sessionId) (.error code text)]
  | pong : InsideChanges task me [.send (.session me.peer.sessionId) .pong]

/-- **What a step of one connection can be.** -/
inductive Taken (prims : Primitives) (gateway : Gateway) (conn : Conn) : Outcome → Prop where
  /-- A connection in no group. -/
  | lobby {task : Task} {store : GatewayStore} {written : List ServerMessage}
      (before : conn.task.inLobby = true ∨ conn.task.isNaming = true) (after : task.inLobby = true)
      (called : LobbyCall prims gateway store) :
      Taken prims gateway conn { gateway.moveTo task with store, written }
  | admits {client : HelloClient} {groupId : Uuid} {credential : Option String} {draw : Draw}
      {fault : Bool} {role : GroupRole} {memberId : Uuid} {issued : Option String}
      (task : conn.task = .authorizing client groupId credential)
      (reply : (gateway.call prims (.authorizeJoin groupId credential client.nickname draw) fault).1 =
        .authorization (.allowed role memberId issued)) :
      Taken prims gateway conn { gateway.moveTo (.entering groupId
          { nickname := client.nickname, memberId, direct := client.direct,
            negotiated := client.negotiated, role, issuedCredentials := none,
            issuedMemberToken := issued,
            heldHash := tokenHash prims (issued.getD (credential.getD "")) }) with
        store :=
          (gateway.call prims (.authorizeJoin groupId credential client.nickname draw) fault).2 }
  | creates {client : HelloClient} {name : String} {mode : GroupAccessMode} {draw : Draw}
      {fault : Bool} {created : CreatedGroup} (task : conn.task = .creatingGroup client name mode)
      (reply : (gateway.call prims (.createGroupWithAccess name mode draw) fault).1 =
        .created created) :
      Taken prims gateway conn { gateway.moveTo (.insertingGroup client created) with
        store := (gateway.call prims (.createGroupWithAccess name mode draw) fault).2 }
  | inserts {client : HelloClient} {created : CreatedGroup}
      (task : conn.task = .insertingGroup client created) :
      Taken prims gateway conn (gateway.insertGroup client created)
  | names {client : HelloClient} {created : CreatedGroup} {fault : Bool}
      (task : conn.task = .namingCreator client created) :
      Taken prims gateway conn { gateway.moveTo (.entering created.summary.groupId
          { nickname := client.nickname, memberId := created.creatorMemberId,
            direct := client.direct, negotiated := client.negotiated, role := .admin,
            issuedCredentials := some created.credentials, issuedMemberToken := none,
            heldHash := tokenHash prims created.credentials.adminToken }) with
        store := (gateway.call prims (.updateMemberNickname created.summary.groupId
          created.creatorMemberId client.nickname) fault).2 }
  | registers {groupId : Uuid} {entry : GroupEntry} {group : GroupState} {sessionId : Uuid}
      (task : conn.task = .entering groupId entry)
      (fresh : gateway.isFreshSession sessionId = true)
      (found : gateway.group groupId = some group) :
      Taken prims gateway conn (gateway.register group groupId entry sessionId)
  /-- A registered session outside its handlers, or at the start of one. -/
  | inside {groupId : Uuid} {me : Session} {task : Task} {changes : List Change}
      {written : List ServerMessage} (before : conn.task.session = some (groupId, me))
      (idle : conn.task.handler = none) (after : task.session = some (groupId, me))
      (starts : ∀ handler, task.handler = some handler → handler.isStart = true)
      (speaks : InsideChanges conn.task me changes) :
      Taken prims gateway conn { gateway.moveTo task with changes, written }
  /-- A handler's store call. -/
  | calls {groupId : Uuid} {me : Session} {used violations : ℕ} {handler : Handler} {op : StoreOp}
      {draw : Draw} {fault : Bool}
      (task : conn.task = .serving groupId me used violations (some handler))
      (waits : handler.storeCall groupId me draw = some op) :
      Taken prims gateway conn
        { gateway.moveTo (.serving groupId me used violations
            (some (handler.resume (gateway.call prims op fault).1))) with
          store := (gateway.call prims op fault).2
          changes := gateway.holds prims groupId me handler (gateway.call prims op fault).1 }
  /-- A handler's lock-protected block. -/
  | blocks {groupId : Uuid} {me : Session} {used violations : ℕ} {handler : Handler}
      {group : GroupState} {changes : List Change} {next : Option Handler}
      (task : conn.task = .serving groupId me used violations (some handler))
      (found : gateway.group groupId = some group)
      (blocked : handler.block group me = some (changes, next)) :
      Taken prims gateway conn
        { gateway.moveTo (.serving groupId me used violations next) with changes }
  | removes {groupId : Uuid} {me : Session} {task : Task}
      (before : conn.task.session = some (groupId, me)) (idle : conn.task.handler = none)
      (after : task = .closed ∨ task = .farewell groupId me) :
      Taken prims gateway conn
        { gateway.moveTo task with changes := [.remove me.peer.sessionId] }
  | parts {groupId : Uuid} {me : Session} (task : conn.task = .farewell groupId me) :
      Taken prims gateway conn { gateway.moveTo .closed with
        changes := [.send .everyone (.memberLeft me.peer.sessionId)] }

/-- A read-only call leaves the store as it is. -/
theorem call_store {op : StoreOp} {fault : Bool}
    (reads : (gateway.store.perform prims op).2 = gateway.store) :
    (gateway.call prims op fault).2 = gateway.store := by
  cases fault with
  | true => rfl
  | false => exact reads

theorem call_of_reply {op : StoreOp} {fault : Bool} {reply : StoreReply}
    (h : (gateway.call prims op fault).1 = reply) (works : ∀ error, reply ≠ .failed error) :
    (gateway.store.perform prims op).1 = reply ∧
      (gateway.call prims op fault).2 = (gateway.store.perform prims op).2 := by
  cases fault with
  | true => exact absurd h.symm (works _)
  | false => exact ⟨h, rfl⟩

/-- A step of a registered session that starts no handler. -/
theorem Taken.rests {groupId : Uuid} {me : Session} {task : Task} {changes : List Change}
    {written : List ServerMessage} (before : conn.task.session = some (groupId, me))
    (idle : conn.task.handler = none) (after : task.session = some (groupId, me))
    (rests : task.handler = none) (speaks : InsideChanges conn.task me changes) :
    Taken prims gateway conn { gateway.moveTo task with changes, written } := by
  refine .inside before idle after (fun handler starts => ?_) speaks
  rw [rests] at starts
  cases starts

/-- A refusal after a store call. -/
theorem taken_refuse (before : conn.task.inLobby = true ∨ conn.task.isNaming = true) {store : GatewayStore}
    (called : LobbyCall prims gateway store) (message : ServerMessage) (fault : Bool) :
    Taken prims gateway conn { gateway.refuse message fault with store } := by
  unfold refuse
  -- the written message is of no interest here, and costly to compute
  generalize write message fault = written
  exact .lobby before rfl called

theorem taken_onHello (task : conn.task = .hello) (message : ClientMessage) :
    Taken prims gateway conn (gateway.onHello conn.remote message) := by
  have before : conn.task.inLobby = true ∨ conn.task.isNaming = true := .inl (by rw [task]; rfl)
  unfold onHello
  split
  · simp only
    split
    · exact .lobby before rfl .none
    · split <;> exact .lobby before rfl .none
  · exact .lobby before rfl .none

theorem taken_onSelection {client : HelloClient} (task : conn.task = .selecting client)
    (message : ClientMessage) : Taken prims gateway conn (gateway.onSelection client message) := by
  have before : conn.task.inLobby = true ∨ conn.task.isNaming = true := .inl (by rw [task]; rfl)
  unfold onSelection
  split
  · exact .lobby before rfl .none
  · split <;> exact .lobby before rfl .none
  · exact .lobby before rfl .none

theorem dispatch_answer {message : ClientMessage} {reply : ServerMessage}
    (h : dispatch message = .answer reply) :
    (∃ code text, reply = .error code text) ∨ reply = .pong := by
  unfold dispatch at h
  repeat' split at h
  all_goals cases h <;> first | exact .inr rfl | exact .inl ⟨_, _, rfl⟩

theorem taken_onMessage {groupId : Uuid} {me : Session} {used violations : ℕ}
    (task : conn.task = .serving groupId me used violations none) (message : ClientMessage)
    (newWindow : Bool) :
    Taken prims gateway conn (gateway.onMessage groupId me used violations message newWindow) := by
  have before : conn.task.session = some (groupId, me) := by rw [task]; rfl
  have idle : conn.task.handler = none := by rw [task]; rfl
  simp only [onMessage]
  generalize (if newWindow = true then 0 else used) + 1 = count
  split
  · split
    · exact .rests before idle rfl rfl .nothing
    · exact .rests before idle rfl rfl .error
  · split
    · rename_i reply answers
      refine .rests before idle rfl rfl ?_
      rcases dispatch_answer answers with ⟨code, text, rfl⟩ | rfl
      · exact .error
      · exact .pong
    · rename_i handler runs
      refine .inside before idle rfl (fun handler' same => ?_) .nothing
      cases same
      exact Handler.starts_dispatch runs

theorem taken_advance {id : ℕ} {draw : Draw} {fault : Bool}
    (h : gateway.outcome prims conn (.advance id draw fault) = some outcome) :
    Taken prims gateway conn outcome := by
  simp only [Gateway.outcome, advance] at h
  split at h
  case h_1 client task =>
    cases h
    have before : conn.task.inLobby = true ∨ conn.task.isNaming = true := .inl (by rw [task]; rfl)
    simp only [greet]
    generalize write (gateway.welcomeTo client) fault = written
    split <;> exact .lobby before rfl .none
  case h_2 client groupId credential task =>
    cases h
    have before : conn.task.inLobby = true ∨ conn.task.isNaming = true := .inl (by rw [task]; rfl)
    unfold findGroup
    split
    · exact .lobby before rfl .none
    · split <;> exact .lobby before rfl .none
  case h_3 client groupId credential task =>
    cases h
    have before : conn.task.inLobby = true ∨ conn.task.isNaming = true := .inl (by rw [task]; rfl)
    simp only [authorize]
    split
    · rename_i reply
      exact .admits task reply
    · exact .lobby before rfl .authorizeJoin
    · exact taken_refuse before .authorizeJoin _ _
    · exact taken_refuse before .authorizeJoin _ _
    · exact .lobby before rfl .authorizeJoin
  case h_4 client groupId task =>
    cases h
    have before : conn.task.inLobby = true ∨ conn.task.isNaming = true := .inl (by rw [task]; rfl)
    simp only [requestJoin]
    split
    · exact taken_refuse before .createJoinRequest _ _
    · exact .lobby before rfl .createJoinRequest
  case h_5 client name mode task =>
    cases h
    simp only [createGroup]
    split
    · rename_i reply
      exact .creates task reply
    · exact taken_refuse (.inl (by rw [task]; rfl)) .createGroup _ _
  case h_6 client created task =>
    cases h
    exact .inserts task
  case h_7 client created task =>
    cases h
    simp only [nameCreator]
    split
    · exact .names task
    · exact .lobby (.inr (by rw [task]; rfl)) rfl .updateMemberNickname
  case h_8 groupId entry task =>
    split at h
    · rename_i fresh
      obtain ⟨group, found, h⟩ := Option.map_eq_some_iff.1 h
      cases h
      exact .registers task fresh found
    · cases h
  case h_9 groupId entry me members task =>
    cases h
    simp only [loadRooms]
    rw [call_store rfl]
    split <;> exact .rests (by rw [task]; rfl) (by rw [task]; rfl) rfl rfl .nothing
  case h_10 groupId entry me members rooms task =>
    obtain ⟨group, -, h⟩ := Option.map_eq_some_iff.1 h
    cases h
    simp only [loadHistory]
    rw [call_store rfl]
    split <;> exact .rests (by rw [task]; rfl) (by rw [task]; rfl) rfl rfl .nothing
  case h_11 groupId me welcome task =>
    cases h
    simp only [sendWelcome]
    generalize write welcome fault = written
    split <;> exact .rests (by rw [task]; rfl) (by rw [task]; rfl) rfl rfl .nothing
  case h_12 groupId me task =>
    cases h
    exact .removes (by rw [task]; rfl) (by rw [task]; rfl) (.inl rfl)
  case h_13 groupId me task =>
    cases h
    exact .rests (by rw [task]; rfl) (by rw [task]; rfl) rfl rfl (.joined task)
  case h_14 groupId me used violations handler task =>
    obtain ⟨group, found, h⟩ := Option.bind_eq_some_iff.1 h
    unfold serve at h
    split at h
    · rename_i op waits
      cases h
      exact .calls task waits
    · obtain ⟨⟨changes, next⟩, blocked, h⟩ := Option.map_eq_some_iff.1 h
      cases h
      exact .blocks task found blocked
  case h_15 groupId me task =>
    cases h
    exact .removes (by rw [task]; rfl) (by rw [task]; rfl) (.inr rfl)
  case h_16 groupId me task =>
    cases h
    exact .parts task
  case h_17 => cases h

/-- Every step of a connection is one of these. -/
theorem taken {action : Action} (h : gateway.outcome prims conn action = some outcome) :
    Taken prims gateway conn outcome := by
  cases action with
  | accept | restart => cases h
  | advance id draw fault => exact taken_advance h
  | receive id message newWindow =>
    simp only [Gateway.outcome] at h
    split at h <;> cases h
    · exact taken_onHello ‹_› message
    · exact taken_onSelection ‹_› message
    · exact taken_onMessage ‹_› message newWindow
  | flush id =>
    simp only [Gateway.outcome] at h
    split at h
    · rename_i task
      obtain ⟨client, -, h⟩ := Option.bind_eq_some_iff.1 h
      obtain ⟨message, -, h⟩ := Option.map_eq_some_iff.1 h
      cases h
      simp only
      split <;> exact .rests (by rw [task]; rfl) (by rw [task]; rfl) rfl rfl .received
    · cases h
  | kicked id =>
    simp only [Gateway.outcome] at h
    split at h
    · rename_i task
      obtain ⟨reason, -, h⟩ := Option.map_eq_some_iff.1 h
      cases h
      exact .rests (by rw [task]; rfl) (by rw [task]; rfl) rfl rfl .nothing
    · cases h
  | disconnect id =>
    simp only [Gateway.outcome] at h
    split at h <;> cases h
    · rename_i task
      exact .lobby (.inl (by rw [task]; rfl)) rfl .none
    · rename_i task
      exact .lobby (.inl (by rw [task]; rfl)) rfl .none
    · rename_i task
      exact .rests (by rw [task]; rfl) (by rw [task]; rfl) rfl rfl .nothing

end Gateway

end LanChat
