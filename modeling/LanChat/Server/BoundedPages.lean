import LanChat.Server.BoundedStore
import LanChat.Server.Groups

/-!
# Live messages and pages fit a frame

The names and texts a task carries have passed a sanitizer, its rooms come from
the store, and its numbers are those of the protocol's types. So every live
message, every history and every member list it sends is within the bounds of
its records, in every run of the gateway.
-/

namespace LanChat

open Transition Fallible

/-- The numbers of a message are of the protocol's types. -/
def ClientMessage.Typed : ClientMessage → Prop
  | hello _ _ _ directPort _ => ∀ port ∈ directPort, port < 2 ^ 16
  | listGroupMembers offset | listRoomMembers _ offset => offset < 2 ^ 32
  | _ => True

def Action.Typed : Action → Prop
  | .accept _ remote => remote.Typed
  | .receive _ message _ => message.Typed
  | _ => True

/-- Live messages, histories and member lists. -/
def ServerMessage.isPage : ServerMessage → Bool
  | .chat _ | .roomJoined _ _ | .historyPage _ _ _ | .groupMembers _ _ _ | .roomMembers _ _ _ _ => true
  | _ => false

/-- A message that fits if it is a page. -/
def ServerMessage.PageFits (message : ServerMessage) : Prop :=
  message.isPage = true → fitsFrame message = true

theorem unpaged_fits {message : ServerMessage} (unpaged : message.isPage = false) : message.PageFits := by
  intro isPage
  rw [unpaged] at isPage
  cases isPage

structure HelloClient.Bounded (client : HelloClient) : Prop where
  nickname : CleanLine maxNicknameChars client.nickname
  direct : ∀ direct ∈ client.direct, direct.Bounded

structure GroupEntry.Bounded (entry : GroupEntry) : Prop where
  nickname : CleanLine maxNicknameChars entry.nickname
  direct : ∀ direct ∈ entry.direct, direct.Bounded

/-- What a handler carries is within the limits. -/
def Handler.Bounded : Handler → Prop
  | chatJoined roomId _ _ | historyJoined roomId _ _ | historyLoad roomId _ _
  | setRoomMemberStore roomId _ _ | setRoomMemberRoom roomId _ _ => roomId.utf8ByteSize ≤ 64
  | chatRoom roomId _ text | chatAppend roomId _ text => roomId.utf8ByteSize ≤ 64 ∧ CleanText text
  | chatBroadcast message => message.Bounded
  | createLock name _ | createCheck name _ | createStore name _ => CleanLine maxNicknameChars name
  | createInsert room | createAnnounce room | joinMember room | joinAccess room _ | joinHistory room
  | setRoomMemberNotify _ room => room.Bounded
  | joinInsert room history => fitsFrame (.roomJoined room history) = true
  | membersAdmin offset | membersLoad offset => offset < 2 ^ 32
  | roomMembersManage roomId offset | roomMembersLoad roomId offset =>
    roomId.utf8ByteSize ≤ 64 ∧ offset < 2 ^ 32
  | setRoomMemberRemove _ roomId => roomId.utf8ByteSize ≤ 64
  | reply message => message.PageFits
  | _ => True

def Task.Bounded : Task → Prop
  | greeting client | selecting client | joining client _ _ | authorizing client _ _
  | requesting client _ | creatingGroup client _ _ | insertingGroup client _
  | namingCreator client _ => client.Bounded
  | entering _ entry => entry.Bounded
  | loadingRooms _ _ me _ | loadingHistory _ _ me _ _ | welcoming _ me _ | abandoning _ me
  | announcing _ me | leaving _ me | farewell _ me => me.peer.Bounded
  | serving _ me _ _ handler => me.peer.Bounded ∧ ∀ h ∈ handler, h.Bounded
  | hello | closed => True

/-! ## Handlers -/

theorem isSafeIdentifier_size {value : String} (safe : isSafeIdentifier value = true) :
    value.utf8ByteSize ≤ 64 := by
  simp only [isSafeIdentifier, Bool.and_eq_true, decide_eq_true_eq] at safe
  exact safe.1.2

namespace Handler

variable {handler : Handler} {groupId : Uuid} {me : Session}

theorem bounded_dispatch {message : ClientMessage} (typed : message.Typed)
    (h : dispatch message = .run handler) : handler.Bounded := by
  cases message with
  | chat roomId messageId text =>
    simp only [dispatch] at h
    split at h <;> cases h
    next safe => exact isSafeIdentifier_size safe
  | createRoom name visibility =>
    simp only [dispatch] at h
    split at h <;> cases h
    next sanitized => exact sanitizeSingleLine_ok sanitized
  | joinRoom | leaveRoom =>
    simp only [dispatch] at h
    split at h <;> cases h
    trivial
  | loadHistory roomId before limit =>
    simp only [dispatch] at h
    split at h <;> cases h
    next request =>
      simp only [isHistoryRequest, Bool.and_eq_true] at request
      exact isSafeIdentifier_size request.1
  | listJoinRequests | decideJoinRequest | setMemberBanned =>
    cases h
    trivial
  | listGroupMembers offset =>
    cases h
    exact typed
  | rotateGroupToken kind =>
    cases h
    split <;> trivial
  | listRoomMembers roomId offset =>
    simp only [dispatch] at h
    split at h <;> cases h
    next safe => exact ⟨isSafeIdentifier_size safe, typed⟩
  | setRoomMember roomId memberId included =>
    simp only [dispatch] at h
    split at h <;> cases h
    next safe => exact isSafeIdentifier_size safe
  | hello | joinGroup | createGroup | privateChat | ping => cases h

/-- The call of a handler within the limits. -/
theorem bounded_storeCall (bounded : handler.Bounded) (peer : me.peer.Bounded) {draw : Draw} {op : StoreOp}
    (waits : handler.storeCall groupId me draw = some op) : op.Bounded := by
  cases handler with
  | chatAppend roomId messageId text =>
    cases waits
    exact ⟨bounded.1, peer, Nat.min_le_right _ _, bounded.2⟩
  | createStore =>
    cases waits
    exact bounded
  | _ => cases waits <;> trivial

theorem bounded_resume (bounded : handler.Bounded) {answer : StoreReply} (replied : answer.Bounded) :
    (handler.resume answer).Bounded := by
  cases handler with
  | chatAppend =>
    simp only [resume]
    split
    · exact replied
    · exact unpaged_fits rfl
  | createStore =>
    simp only [resume]
    split
    · exact replied
    · exact unpaged_fits rfl
  | joinAccess =>
    simp only [resume]
    split
    · exact bounded
    · exact unpaged_fits rfl
    · exact unpaged_fits rfl
  | joinHistory =>
    simp only [resume]
    split
    · exact roomJoined_fits bounded replied
    · exact unpaged_fits rfl
  | historyLoad =>
    simp only [resume]
    split
    · exact fun _ => historyPage_fits bounded replied
    · exact unpaged_fits rfl
  | requestsLoad =>
    simp only [resume]
    split <;> exact unpaged_fits rfl
  | decideStore =>
    simp only [resume]
    split
    · trivial
    · exact unpaged_fits rfl
    · exact unpaged_fits rfl
  | membersLoad =>
    simp only [resume]
    split
    · exact fun _ => groupMembers_fits replied.1 replied.2 bounded
    · exact unpaged_fits rfl
  | banStore memberId banned =>
    simp only [resume]
    split
    · cases banned
      · exact Nat.two_pow_pos 32
      · trivial
    · exact unpaged_fits rfl
    · exact unpaged_fits rfl
  | rotateStore kind =>
    simp only [resume]
    split
    · cases kind
      · trivial
      · trivial
      · exact unpaged_fits rfl
    · exact unpaged_fits rfl
  | roomMembersManage =>
    simp only [resume]
    split
    · exact bounded
    · exact unpaged_fits rfl
    · exact unpaged_fits rfl
  | roomMembersLoad =>
    simp only [resume]
    split
    · exact fun _ => roomMembers_fits replied.1 replied.2 bounded.1 bounded.2
    · exact unpaged_fits rfl
  | setRoomMemberStore =>
    simp only [resume]
    split
    · exact bounded
    · exact unpaged_fits rfl
    · exact unpaged_fits rfl
  | _ => exact bounded

theorem no_pages (whom : Recipients) (message : ServerMessage) (mem : .send whom message ∈ ([] : List Change)) :
    message.PageFits := absurd mem List.not_mem_nil

theorem no_next (h : Handler) (next : h ∈ (none : Option Handler)) : h.Bounded :=
  absurd next (Option.not_mem_none h)

/-- What a block sends fits, and what it goes on with is within the limits. -/
def BoundedBlock (blocked : Blocked) : Prop :=
  (∀ whom message, .send whom message ∈ blocked.1 → message.PageFits) ∧ ∀ h ∈ blocked.2, h.Bounded

theorem BoundedBlock.goesOn {next : Handler} (bounded : next.Bounded) : BoundedBlock ([], some next) :=
  ⟨no_pages, fun _ same => Option.some.inj same ▸ bounded⟩

theorem BoundedBlock.finish {message : ServerMessage} (fits : message.PageFits) :
    BoundedBlock (Handler.finish me message) := by
  refine ⟨fun whom sent mem => ?_, no_next⟩
  simp only [Handler.finish, List.mem_cons, Change.send.injEq, reduceCtorEq, List.not_mem_nil, or_false] at mem
  exact mem.2 ▸ fits

theorem BoundedBlock.afterAdmin {group : GroupState} {refusal : String} {next : Handler}
    (bounded : next.Bounded) : BoundedBlock (Handler.afterAdmin group me refusal next) := by
  unfold Handler.afterAdmin
  split
  · exact .goesOn bounded
  · exact .finish (unpaged_fits rfl)

theorem bounded_block (bounded : handler.Bounded) {group : GroupState}
    (rooms : ∀ room ∈ group.rooms, room.Bounded) {blocked : Blocked}
    (h : handler.block group me = some blocked) : BoundedBlock blocked := by
  have known : ∀ {roomId : String} {room : RoomSummary}, group.room roomId = some room → room.Bounded :=
    fun here => rooms _ (List.mem_of_find?_eq_some here)
  cases handler with
  | chatJoined roomId messageId text =>
    cases h
    split
    · split
      · next sanitized => exact .goesOn ⟨bounded, sanitizeChatText_ok sanitized⟩
      · exact .finish (unpaged_fits rfl)
    · exact .finish (unpaged_fits rfl)
  | chatRoom =>
    cases h
    split
    · exact .goesOn bounded
    · exact .finish (unpaged_fits rfl)
  | chatBroadcast message =>
    cases h
    refine ⟨fun whom sent mem => ?_, no_next⟩
    cases List.mem_singleton.1 mem
    exact fun _ => chat_fits bounded
  | createLock =>
    simp only [block] at h
    split at h <;> cases h
    exact ⟨by simp, fun _ same => Option.some.inj same ▸ bounded⟩
  | createCheck =>
    cases h
    split
    · exact .finish (unpaged_fits rfl)
    · split
      · exact .finish (unpaged_fits rfl)
      · exact .goesOn bounded
  | createInsert =>
    cases h
    exact ⟨by simp, fun _ same => Option.some.inj same ▸ bounded⟩
  | createAnnounce room =>
    cases h
    refine ⟨fun whom sent mem => ?_, fun _ same => Option.some.inj same ▸ bounded⟩
    cases List.mem_singleton.1 mem
    exact unpaged_fits rfl
  | joinFind =>
    cases h
    split
    · next here => exact .goesOn (known here)
    · exact .finish (unpaged_fits rfl)
  | joinMember =>
    cases h
    split
    · exact .goesOn bounded
    · exact ⟨no_pages, no_next⟩
  | joinInsert room history =>
    cases h
    refine ⟨fun whom sent mem => ?_, no_next⟩
    simp only [List.mem_cons, reduceCtorEq, Change.send.injEq, List.not_mem_nil, or_false, false_or] at mem
    obtain ⟨rfl, rfl⟩ := mem
    exact fun _ => bounded
  | leave =>
    cases h
    refine ⟨fun whom sent mem => ?_, no_next⟩
    simp only [List.mem_cons, reduceCtorEq, Change.send.injEq, List.not_mem_nil, or_false, false_or] at mem
    obtain ⟨rfl, rfl⟩ := mem
    exact unpaged_fits rfl
  | historyJoined =>
    cases h
    split
    · exact .goesOn bounded
    · exact .finish (unpaged_fits rfl)
  | requestsAdmin | decideAdmin | membersAdmin | banAdmin | rotateAdmin =>
    cases h
    exact .afterAdmin bounded
  | banSweep =>
    cases h
    exact ⟨by simp, fun _ same => Option.some.inj same ▸ Nat.two_pow_pos 32⟩
  | rotateSweep =>
    cases h
    refine ⟨fun whom sent mem => ?_, no_next⟩
    simp only [List.mem_cons, reduceCtorEq, Change.send.injEq, List.not_mem_nil, or_false, false_or] at mem
    obtain ⟨rfl, rfl⟩ := mem
    exact unpaged_fits rfl
  | setRoomMemberRoom =>
    cases h
    split
    · exact .goesOn ⟨bounded, Nat.two_pow_pos 32⟩
    · next here =>
      split
      · exact .goesOn (known here)
      · exact .goesOn bounded
  | setRoomMemberNotify memberId room =>
    cases h
    refine ⟨fun whom sent mem => ?_, fun _ same => Option.some.inj same ▸ ⟨bounded.roomId, Nat.two_pow_pos 32⟩⟩
    cases List.mem_singleton.1 mem
    exact unpaged_fits rfl
  | setRoomMemberRemove =>
    cases h
    refine ⟨fun whom sent mem => ?_, fun _ same => Option.some.inj same ▸ ⟨bounded, Nat.two_pow_pos 32⟩⟩
    simp only [List.mem_cons, reduceCtorEq, Change.send.injEq, List.not_mem_nil, or_false, false_or] at mem
    obtain ⟨rfl, rfl⟩ := mem
    exact unpaged_fits rfl
  | reply message =>
    cases h
    exact .finish bounded
  | _ => cases h

end Handler

namespace Gateway

variable {prims : Primitives} {gateway gateway' : Gateway} {conn : Conn} {outcome : Outcome}

/-! ## One step of a connection -/

/-- A step that leaves the store, its task and what it sends within the limits. -/
structure BoundedOutcome (prims : Primitives) (outcome : Outcome) : Prop where
  store : outcome.store.WithinLimits prims
  task : outcome.task.Bounded
  sends : ∀ whom message, .send whom message ∈ outcome.changes → message.PageFits
  registers : ∀ client, .register client ∈ outcome.changes → client.sender = .new

theorem bounded_call (aead : AeadCorrect prims) (within : gateway.store.WithinLimits prims) {op : StoreOp}
    (bounded : op.Bounded) (fault : Bool) :
    (gateway.call prims op fault).2.WithinLimits prims ∧ (gateway.call prims op fault).1.Bounded := by
  cases fault with
  | true => exact ⟨within, trivial⟩
  | false => exact within.perform aead op bounded

/-- A step that changes no group. -/
theorem BoundedOutcome.quiet {store : GatewayStore} (within : store.WithinLimits prims) (task : Task)
    (bounded : task.Bounded) (inserted : Option GroupState) (written : List ServerMessage) :
    BoundedOutcome prims { store, inserted, changes := [], written, task } :=
  ⟨within, bounded, Handler.no_pages, fun _ mem => absurd mem List.not_mem_nil⟩

theorem bounded_moveTo (within : gateway.store.WithinLimits prims) {task : Task} (bounded : task.Bounded) :
    BoundedOutcome prims (gateway.moveTo task) := .quiet within _ bounded none []

theorem bounded_refuse (within : gateway.store.WithinLimits prims) (message : ServerMessage) (fault : Bool) :
    BoundedOutcome prims (gateway.refuse message fault) :=
  .quiet within .closed trivial none (write message fault)

/-- The same step after a store call. -/
theorem BoundedOutcome.withStore (bounded : BoundedOutcome prims outcome) {store : GatewayStore}
    (within : store.WithinLimits prims) : BoundedOutcome prims { outcome with store } :=
  ⟨within, bounded.task, bounded.sends, bounded.registers⟩

theorem bounded_directOf {remote : IpAddr} (ip : remote.Typed) {port : Option ℕ} {fingerprint : Option String}
    (typed : ∀ p ∈ port, p < 2 ^ 16) {direct : Option DirectPeerInfo}
    (h : directOf remote port fingerprint = some direct) : ∀ info ∈ direct, info.Bounded := by
  cases port with
  | none =>
    cases fingerprint <;> cases h
    exact nofun
  | some port =>
    cases fingerprint with
    | none => cases h
    | some fingerprint =>
      simp only [directOf] at h
      split at h
      · next valid =>
        cases h
        intro info given
        cases given
        exact ⟨ip, typed port rfl, valid.2⟩
      · cases h

theorem bounded_onHello (within : gateway.store.WithinLimits prims) {remote : IpAddr} (ip : remote.Typed)
    {message : ClientMessage} (typed : message.Typed) :
    BoundedOutcome prims (gateway.onHello remote message) := by
  cases message with
  | hello low high nickname directPort directFingerprint =>
    simp only [onHello]
    split
    · exact bounded_refuse within _ _
    · split
      · next sanitized advertised =>
        exact bounded_moveTo within ⟨sanitizeSingleLine_ok sanitized, bounded_directOf ip typed advertised⟩
      · exact bounded_moveTo within trivial
  | _ => exact bounded_moveTo within trivial

theorem bounded_onSelection (within : gateway.store.WithinLimits prims) {client : HelloClient}
    (bounded : client.Bounded) (message : ClientMessage) :
    BoundedOutcome prims (gateway.onSelection client message) := by
  cases message with
  | joinGroup groupId credential => exact bounded_moveTo within bounded
  | createGroup name accessMode =>
    simp only [onSelection]
    split
    · exact bounded_moveTo within bounded
    · exact bounded_moveTo within trivial
  | _ => exact bounded_refuse within _ _

theorem bounded_onMessage (within : gateway.store.WithinLimits prims) {groupId : Uuid} {me : Session}
    (peer : me.peer.Bounded) {used violations : ℕ} {message : ClientMessage} (typed : message.Typed)
    (newWindow : Bool) : BoundedOutcome prims (gateway.onMessage groupId me used violations message newWindow) := by
  have answers : ∀ {task : Task} {reply : ServerMessage}, task.Bounded → reply.isPage = false →
      BoundedOutcome prims { gateway.moveTo task with
        changes := [.send (.session me.peer.sessionId) reply] } := by
    intro task reply bounded plain
    refine ⟨within, bounded, fun whom sent mem => ?_, by simp⟩
    cases List.mem_singleton.1 mem
    exact fun page => absurd page (by simp [plain])
  simp only [onMessage]
  generalize (if newWindow = true then 0 else used) + 1 = used
  split
  · split
    · exact bounded_moveTo within peer
    · exact answers ⟨peer, Handler.no_next⟩ rfl
  · split
    · next reply dispatched =>
      refine answers ⟨peer, Handler.no_next⟩ ?_
      obtain ⟨code, text, rfl⟩ | rfl := dispatch_answer dispatched <;> rfl
    · next handler dispatched =>
      refine bounded_moveTo within ⟨peer, fun _ same => ?_⟩
      cases same
      exact Handler.bounded_dispatch typed dispatched

theorem bounded_authorize (aead : AeadCorrect prims) (within : gateway.store.WithinLimits prims)
    {client : HelloClient} (bounded : client.Bounded) (groupId : Uuid) (credential : Option String)
    (draw : Draw) (fault : Bool) :
    BoundedOutcome prims (gateway.authorize prims client groupId credential draw fault) := by
  have after := (@bounded_call prims gateway aead within
    (.authorizeJoin groupId credential client.nickname draw) bounded.nickname fault).1
  simp only [authorize]
  refine BoundedOutcome.withStore ?_ after
  split
  · exact bounded_moveTo within ⟨bounded.nickname, bounded.direct⟩
  · exact bounded_moveTo within bounded
  · exact bounded_refuse within _ _
  · exact bounded_refuse within _ _
  · exact bounded_moveTo within trivial

theorem bounded_serve (aead : AeadCorrect prims) (within : gateway.store.WithinLimits prims) {group : GroupState}
    (rooms : ∀ room ∈ group.rooms, room.Bounded) {groupId : Uuid} {me : Session} (peer : me.peer.Bounded)
    {used violations : ℕ} {handler : Handler} (bounded : handler.Bounded) {draw : Draw} {fault : Bool}
    (h : gateway.serve prims group groupId me used violations handler draw fault = some outcome) :
    BoundedOutcome prims outcome := by
  unfold serve at h
  split at h
  · next op waits =>
    cases h
    have called := @bounded_call prims gateway aead within op (Handler.bounded_storeCall bounded peer waits) fault
    have held : ∀ {change : Change}, change ∈ gateway.holds prims groupId me handler
        (gateway.call prims op fault).1 → ∃ s replaced hash, change = .hold s replaced hash := by
      intro change mem
      unfold holds at mem
      split at mem
      · exact ⟨_, _, _, List.mem_singleton.1 mem⟩
      · exact ⟨_, _, _, List.mem_singleton.1 mem⟩
      · cases mem
    refine ⟨called.1, ⟨peer, fun _ same => ?_⟩, fun whom message mem => ?_, fun client mem => ?_⟩
    · cases same
      exact Handler.bounded_resume bounded called.2
    · obtain ⟨_, _, _, same⟩ := held mem
      cases same
    · obtain ⟨_, _, _, same⟩ := held mem
      cases same
  · obtain ⟨⟨changes, next⟩, blocked, h⟩ := Option.map_eq_some_iff.1 h
    cases h
    obtain ⟨sends, goesOn⟩ := Handler.bounded_block bounded rooms blocked
    exact ⟨within, ⟨peer, goesOn⟩, sends, fun client mem => absurd rfl ((block_keeps blocked _ mem).1 client)⟩

theorem bounded_greet (within : gateway.store.WithinLimits prims) {client : HelloClient}
    (bounded : client.Bounded) (fault : Bool) : BoundedOutcome prims (gateway.greet client fault) := by
  unfold greet
  generalize write (gateway.welcomeTo client) fault = written
  refine .quiet within _ ?_ none written
  show Task.Bounded (if written.isEmpty then .closed else .selecting client)
  split
  · trivial
  · exact bounded

theorem bounded_findGroup (within : gateway.store.WithinLimits prims) {client : HelloClient}
    (bounded : client.Bounded) (groupId : Uuid) (credential : Option String) (fault : Bool) :
    BoundedOutcome prims (gateway.findGroup client groupId credential fault) := by
  unfold findGroup
  split
  · exact bounded_refuse within _ _
  · split
    · exact bounded_refuse within _ _
    · exact bounded_moveTo within bounded

theorem bounded_requestJoin (aead : AeadCorrect prims) (within : gateway.store.WithinLimits prims)
    (client : HelloClient) (groupId : Uuid) (draw : Draw) (fault : Bool) :
    BoundedOutcome prims (gateway.requestJoin prims client groupId draw fault) := by
  have after := (@bounded_call prims gateway aead within
    (.createJoinRequest groupId client.nickname draw) trivial fault).1
  unfold requestJoin
  refine BoundedOutcome.withStore ?_ after
  split
  · exact bounded_refuse within _ _
  · exact bounded_moveTo within trivial

theorem bounded_createGroup (aead : AeadCorrect prims) (within : gateway.store.WithinLimits prims)
    {client : HelloClient} (bounded : client.Bounded) (name : String) (mode : GroupAccessMode) (draw : Draw)
    (fault : Bool) : BoundedOutcome prims (gateway.createGroup prims client name mode draw fault) := by
  have after := (@bounded_call prims gateway aead within
    (.createGroupWithAccess name mode draw) trivial fault).1
  unfold createGroup
  refine BoundedOutcome.withStore ?_ after
  split
  · exact bounded_moveTo within bounded
  · exact bounded_refuse within _ _

theorem bounded_nameCreator (aead : AeadCorrect prims) (within : gateway.store.WithinLimits prims)
    {client : HelloClient} (bounded : client.Bounded) (created : CreatedGroup) (fault : Bool) :
    BoundedOutcome prims (gateway.nameCreator prims client created fault) := by
  have after := (@bounded_call prims gateway aead within
    (.updateMemberNickname created.summary.groupId created.creatorMemberId client.nickname)
    bounded.nickname fault).1
  unfold nameCreator
  refine BoundedOutcome.withStore ?_ after
  split
  · exact bounded_moveTo within ⟨bounded.nickname, bounded.direct⟩
  · exact bounded_moveTo within trivial

theorem bounded_loadRooms (aead : AeadCorrect prims) (within : gateway.store.WithinLimits prims) {me : Session}
    (bounded : me.peer.Bounded) (groupId : Uuid) (entry : GroupEntry) (members : List Peer) (fault : Bool) :
    BoundedOutcome prims (gateway.loadRooms prims groupId entry me members fault) := by
  have after := (@bounded_call prims gateway aead within
    (.roomsForMember groupId entry.memberId) trivial fault).1
  unfold loadRooms
  refine BoundedOutcome.withStore ?_ after
  split <;> exact bounded_moveTo within bounded

theorem bounded_loadHistory (aead : AeadCorrect prims) (within : gateway.store.WithinLimits prims)
    {me : Session} (bounded : me.peer.Bounded) (group : GroupState) (groupId : Uuid) (entry : GroupEntry)
    (members : List Peer) (rooms : List RoomSummary) (fault : Bool) :
    BoundedOutcome prims (gateway.loadHistory prims group groupId entry me members rooms fault) := by
  have after := (@bounded_call prims gateway aead within
    (.history groupId defaultRoomId historyCapacity) trivial fault).1
  unfold loadHistory
  refine BoundedOutcome.withStore ?_ after
  split <;> exact bounded_moveTo within bounded

theorem bounded_sendWelcome (within : gateway.store.WithinLimits prims) {me : Session}
    (bounded : me.peer.Bounded) (groupId : Uuid) (welcome : ServerMessage) (fault : Bool) :
    BoundedOutcome prims (gateway.sendWelcome groupId me welcome fault) := by
  unfold sendWelcome
  generalize write welcome fault = written
  refine .quiet within _ ?_ none written
  show Task.Bounded (if written.isEmpty then .abandoning groupId me else .announcing groupId me)
  split <;> exact bounded

/-- A step that sends one message that is no page. -/
theorem bounded_notice (within : gateway.store.WithinLimits prims) {task : Task} (bounded : task.Bounded)
    {whom : Recipients} {message : ServerMessage} (plain : message.isPage = false) :
    BoundedOutcome prims { gateway.moveTo task with changes := [.send whom message] } := by
  refine ⟨within, bounded, fun whom sent mem page => ?_, by simp⟩
  simp only [List.mem_singleton, Change.send.injEq] at mem
  rw [mem.2, plain] at page
  cases page

/-- **A step within the limits**, of a task that is. -/
theorem bounded_advance (aead : AeadCorrect prims) (within : gateway.store.WithinLimits prims)
    (rooms : ∀ group ∈ gateway.groups, ∀ room ∈ group.rooms, room.Bounded) {task : Task}
    (bounded : task.Bounded) {draw : Draw} {fault : Bool}
    (h : gateway.advance prims task draw fault = some outcome) : BoundedOutcome prims outcome := by
  unfold advance at h
  split at h
  case h_1 client =>
    exact Option.some.inj h ▸ bounded_greet within bounded fault
  case h_2 client groupId credential =>
    exact Option.some.inj h ▸ bounded_findGroup within bounded groupId credential fault
  case h_3 client groupId credential =>
    exact Option.some.inj h ▸ bounded_authorize aead within bounded groupId credential draw fault
  case h_4 client groupId =>
    exact Option.some.inj h ▸ bounded_requestJoin aead within client groupId draw fault
  case h_5 client name mode =>
    exact Option.some.inj h ▸ bounded_createGroup aead within bounded name mode draw fault
  case h_6 client created =>
    cases h
    exact ⟨within, bounded, Handler.no_pages, fun _ mem => absurd mem List.not_mem_nil⟩
  case h_7 client created =>
    exact Option.some.inj h ▸ bounded_nameCreator aead within bounded created fault
  case h_8 groupId entry =>
    split at h
    · obtain ⟨group, -, rfl⟩ := Option.map_eq_some_iff.1 h
      refine ⟨within, ⟨bounded.nickname, bounded.direct⟩, by simp [register], fun client mem => ?_⟩
      simp only [register, List.mem_singleton, Change.register.injEq] at mem
      rw [mem]
    · cases h
  case h_9 groupId entry me members =>
    exact Option.some.inj h ▸ bounded_loadRooms aead within bounded groupId entry members fault
  case h_10 groupId entry me members listed =>
    obtain ⟨group, -, rfl⟩ := Option.map_eq_some_iff.1 h
    exact bounded_loadHistory aead within bounded group groupId entry members listed fault
  case h_11 groupId me welcome =>
    exact Option.some.inj h ▸ bounded_sendWelcome within bounded groupId welcome fault
  case h_12 groupId me =>
    exact Option.some.inj h ▸ ⟨within, trivial, by simp, by simp⟩
  case h_13 groupId me =>
    exact Option.some.inj h ▸
      @bounded_notice prims gateway within (.serving groupId me 0 0 none) ⟨bounded, Handler.no_next⟩ _ _ rfl
  case h_14 groupId me used violations handler =>
    obtain ⟨group, found, h⟩ := Option.bind_eq_some_iff.1 h
    exact bounded_serve aead within (rooms group (group_some found).1) bounded.1 (bounded.2 handler rfl) h
  case h_15 groupId me =>
    exact Option.some.inj h ▸ ⟨within, bounded, by simp, by simp⟩
  case h_16 groupId me =>
    exact Option.some.inj h ▸ @bounded_notice prims gateway within .closed trivial _ _ rfl
  case h_17 => cases h

theorem bounded_outcome (aead : AeadCorrect prims) (within : gateway.store.WithinLimits prims)
    (rooms : ∀ group ∈ gateway.groups, ∀ room ∈ group.rooms, room.Bounded)
    (remote : conn.remote.Typed) (bounded : conn.task.Bounded) {action : Action} (typed : action.Typed)
    (h : gateway.outcome prims conn action = some outcome) : BoundedOutcome prims outcome := by
  cases action with
  | accept | restart => cases h
  | advance id draw fault => exact bounded_advance aead within rooms bounded h
  | receive id message newWindow =>
    simp only [Gateway.outcome] at h
    split at h <;> cases h
    · exact bounded_onHello within remote typed
    · next client task =>
      rw [task] at bounded
      exact bounded_onSelection within bounded message
    · next groupId me used violations task =>
      rw [task] at bounded
      exact bounded_onMessage within bounded.1 typed newWindow
  | flush id =>
    simp only [Gateway.outcome] at h
    split at h
    · next groupId me used violations task =>
      rw [task] at bounded
      obtain ⟨client, -, h⟩ := Option.bind_eq_some_iff.1 h
      obtain ⟨message, -, rfl⟩ := Option.map_eq_some_iff.1 h
      simp only
      generalize write message false = written
      refine ⟨within, ?_, by simp, by simp⟩
      simp only
      split
      · exact bounded.1
      · exact ⟨bounded.1, Handler.no_next⟩
    · cases h
  | kicked id =>
    simp only [Gateway.outcome] at h
    split at h
    · next groupId me used violations task =>
      rw [task] at bounded
      obtain ⟨reason, -, rfl⟩ := Option.map_eq_some_iff.1 h
      exact .quiet within (.leaving groupId me) bounded.1 none _
    · cases h
  | disconnect id =>
    simp only [Gateway.outcome] at h
    split at h <;> cases h
    · exact bounded_moveTo within trivial
    · exact bounded_moveTo within trivial
    · next task =>
      rw [task] at bounded
      exact bounded_moveTo within bounded.1

/-! ## Runs -/

/-- What a channel holds after some changes, it held before or was sent by them. -/
theorem log_applyAll {client : ClientEntry} {changes : List Change} {message : ServerMessage}
    (mem : message ∈ (client.applyAll changes).sender.log) :
    message ∈ client.sender.log ∨ ∃ whom, .send whom message ∈ changes := by
  induction changes generalizing client with
  | nil => exact .inl mem
  | cons change changes ih =>
    rw [ClientEntry.applyAll_cons] at mem
    rcases ih mem with held | ⟨whom, sent⟩
    · cases change with
      | send whom sent =>
        simp only [ClientEntry.apply] at held
        split at held
        · simp only [Outbound.push] at held
          split at held
          · rcases List.mem_append.1 held with held | held
            · exact .inl held
            · rw [List.mem_singleton.1 held]
              exact .inr ⟨whom, List.mem_cons_self⟩
          · exact .inl held
        · exact .inl held
      | join sessionId roomId =>
        simp only [ClientEntry.apply, ClientEntry.joinRoom] at held
        split at held <;> (try split at held) <;> exact .inl held
      | leave | kick | hold | receive =>
        simp only [ClientEntry.apply, ClientEntry.leaveRoom] at held
        split at held <;> exact .inl held
      | _ => exact .inl held
    · exact .inr ⟨whom, List.mem_cons_of_mem _ sent⟩

/-- What a run keeps: the store, the tasks and the channels are within the limits. -/
structure Paged (prims : Primitives) (gateway : Gateway) : Prop where
  known : Known gateway
  store : gateway.store.WithinLimits prims
  remotes : ∀ c ∈ gateway.conns, c.remote.Typed
  tasks : ∀ c ∈ gateway.conns, c.task.Bounded
  channels : ∀ group ∈ gateway.groups, ∀ client ∈ group.clients, ∀ message ∈ client.sender.log,
    message.PageFits

theorem Paged.rooms (paged : Paged prims gateway) : ∀ group ∈ gateway.groups, ∀ room ∈ group.rooms,
    room.Bounded :=
  fun group mem room inRooms => paged.store.rooms _ (paged.known.rooms group mem room inRooms)

theorem Paged.bounded (aead : AeadCorrect prims) (paged : Paged prims gateway) (mem : conn ∈ gateway.conns)
    {action : Action} (typed : action.Typed) (h : gateway.outcome prims conn action = some outcome) :
    BoundedOutcome prims outcome :=
  bounded_outcome aead paged.store paged.rooms (paged.remotes conn mem) (paged.tasks conn mem) typed h

theorem paged_spawned (aead : AeadCorrect prims) (h : Spawned gateway) : Paged prims gateway := by
  have known := known_spawned h
  obtain ⟨key, name, draw, h⟩ := h
  obtain ⟨-, store, groups, conns⟩ := spawnGateway_ok h
  refine ⟨known, ?_, by simp [conns], by simp [conns], ?_⟩
  · rw [store]
    exact ((GatewayStore.withinLimits_empty prims key).perform aead (.gatewayId draw) trivial).1
  · intro group mem client inGroup
    rw [groups] at mem
    rw [loadGroups_empty group mem] at inGroup
    cases inGroup

theorem channels_commit (paged : Paged prims gateway) {action : Action}
    (h : gateway.outcome prims conn action = some outcome) (bounded : BoundedOutcome prims outcome) :
    ∀ group ∈ (gateway.commit conn outcome).groups, ∀ client ∈ group.clients,
      ∀ message ∈ client.sender.log, message.PageFits := by
  intro group mem client inGroup message held
  rcases mem_groups_commit mem with ⟨group, old, -, rfl⟩ | ⟨old, -⟩ | inserted
  · rcases GroupState.mem_applyAll inGroup with ⟨entry, inOld, rfl⟩ | ⟨before, new, rest, changes, rfl⟩
    · rcases log_applyAll held with held | ⟨whom, sent⟩
      · exact paged.channels group old entry inOld message held
      · exact bounded.sends whom message sent
    · rcases log_applyAll held with held | ⟨whom, sent⟩
      · have fresh := bounded.registers new (changes ▸ List.mem_append_right _ List.mem_cons_self)
        rw [fresh] at held
        cases held
      · refine bounded.sends whom message ?_
        rw [changes]
        exact List.mem_append_right _ (List.mem_cons_of_mem _ sent)
  · exact paged.channels group old client inGroup message held
  · rw [inserted_clients h group inserted] at inGroup
    cases inGroup

theorem paged_step (aead : AeadCorrect prims) (paged : Paged prims gateway) {action : Action}
    (typed : action.Typed) (h : gateway.step prims action = some gateway') : Paged prims gateway' := by
  have known := known_step paged.known h
  rcases step_cases h with
    ⟨id, remote, rfl, -, rfl⟩ | ⟨-, rfl⟩ | ⟨conn, mem, -, outcome, taken, rfl⟩
  · refine ⟨known, paged.store, ?_, ?_, paged.channels⟩
    · intro c inConns
      rcases List.mem_append.1 inConns with old | new
      · exact paged.remotes c old
      · rw [List.mem_singleton.1 new]
        exact typed
    · intro c inConns
      rcases List.mem_append.1 inConns with old | new
      · exact paged.tasks c old
      · rw [List.mem_singleton.1 new]
        trivial
  · refine ⟨known, paged.store, ?_, ?_, ?_⟩
    · intro c mem
      obtain ⟨c, old, rfl⟩ := List.mem_map.1 mem
      exact paged.remotes c old
    · intro c mem
      obtain ⟨c, -, rfl⟩ := List.mem_map.1 mem
      trivial
    · intro group mem client inGroup
      rw [loadGroups_empty group mem] at inGroup
      cases inGroup
  · have bounded := paged.bounded aead mem typed taken
    refine ⟨known, bounded.store, ?_, ?_, channels_commit paged taken bounded⟩
    · intro c inConns
      rcases mem_conns_commit inConns with ⟨old, -⟩ | rfl
      · exact paged.remotes c old
      · exact paged.remotes conn mem
    · intro c inConns
      rcases mem_conns_commit inConns with ⟨old, -⟩ | rfl
      · exact paged.tasks c old
      · exact bounded.task

/-- **Every page fits a frame**, in every run of the gateway: whatever a connection sends next, whatever
a channel holds; and a history is cut to a newest part of it, which is empty only if the history is. -/
theorem pages_fit (prims : Primitives) (aead : AeadCorrect prims) {start gateway : Gateway}
    {actions : List Action} (spawned : Spawned start)
    (run : Run (step prims) (fun _ action => action.Typed) start actions gateway) :
    (∀ conn ∈ gateway.conns, ∀ action outcome, action.Typed → gateway.outcome prims conn action = some outcome →
      ∀ whom message, .send whom message ∈ outcome.changes → message.isPage = true →
        fitsFrame message = true) ∧
    (∀ group ∈ gateway.groups, ∀ client ∈ group.clients, ∀ message ∈ client.sender.log,
      message.isPage = true → fitsFrame message = true) ∧
    ∀ history, fitHistoryToFrame history <:+ history ∧ (history ≠ [] → fitHistoryToFrame history ≠ []) := by
  have paged : Paged prims gateway :=
    run.preserves (fun _ _ _ paged typed taken => paged_step aead paged typed taken) (paged_spawned aead spawned)
  refine ⟨?_, paged.channels, fun history => ⟨fitHistoryToFrame_suffix history, fitHistoryToFrame_ne_nil⟩⟩
  intro conn mem action outcome typed taken
  exact (paged.bounded aead mem typed taken).sends

/-- The founder of group 10 has posted a message. -/
def posted : Gateway :=
  (exec (step .checksummed) (fun _ => true) blank (founds ++ posts 1 30 ++ advances 1 1)).getD blank

theorem pages_fit_posted : ∃ group ∈ posted.groups, ∃ client ∈ group.clients,
    ∃ message ∈ client.sender.log, message.isPage = true ∧ fitsFrame message = true := by
  have ran : exec (step .checksummed) (fun _ => true) blank (founds ++ posts 1 30 ++ advances 1 1) = some posted ∧
      posted.groups.any (fun group => group.clients.any fun client =>
        client.sender.log.any (·.isPage)) = true := by
    decide +kernel
  have typed : ∀ action ∈ founds ++ posts 1 30 ++ advances 1 1, action.Typed := by
    simp [founds, greets, advances, posts, Action.Typed, ClientMessage.Typed, IpAddr.Typed]
  have run : Run (step .checksummed) (fun _ action => action.Typed) blank _ posted :=
    (run_of_exec (fun _ _ _ => trivial) ran.1 : Run _ anyAction _ _ _).of_actions
      fun action mem _ => typed action mem
  obtain ⟨-, channels, -⟩ := pages_fit .checksummed aeadCorrect_checksummed spawned_blank run
  obtain ⟨group, inGroups, some⟩ := List.any_eq_true.1 ran.2
  obtain ⟨client, inClients, some⟩ := List.any_eq_true.1 some
  obtain ⟨message, held, page⟩ := List.any_eq_true.1 some
  exact ⟨group, inGroups, client, inClients, message, held, page,
    channels group inGroups client inClients message held page⟩

end Gateway

end LanChat
