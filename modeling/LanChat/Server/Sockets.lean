import LanChat.Client.ChatApp
import LanChat.Server.Delivery

/-!
# Sockets

What a session has written: its `Welcome`, and then its channel in order as far
as it has received it (`Wired`). `clientOf` is the chat view of a client that
has read all of it.
-/

namespace LanChat

open Transition

/-- Where a connection stands with its `Welcome`. -/
inductive Phase where
  | early
  | welcomed
  | gone
deriving DecidableEq, Repr

def Task.phase : Task → Phase
  | announcing _ _ | serving _ _ _ _ _ => .welcomed
  | leaving _ _ | farewell _ _ | closed => .gone
  | _ => .early

/-- The `Welcome` a connection is about to write. -/
def Task.prepared : Task → Option ServerMessage
  | welcoming _ _ message => some message
  | _ => none

theorem Task.of_welcomed {task : Task} (welcomed : task.phase = .welcomed) :
    task.prepared = none ∧ ∃ g me, task.session = some (g, me) := by
  cases task <;> first | exact ⟨rfl, _, _, rfl⟩ | cases welcomed

/-- What a connection has been sent of the picture of its group. -/
def Conn.seen (conn : Conn) : List ServerMessage := conn.written.filter ServerMessage.tracked

/-- The live messages of one room. -/
theorem filterMap_liveIn (messages : List ServerMessage) (r : String) :
    messages.filterMap (ServerMessage.liveIn r) =
      (chats messages).filter fun message => message.roomId = r := by
  rw [chats, List.filter_filterMap]
  congr 1
  funext message
  cases message with
  | chat record => simp [ServerMessage.liveIn, ServerMessage.chatRecord, Option.filter]
  | _ => rfl

namespace Gateway

variable {prims : Primitives} {gateway gateway' : Gateway} {conn : Conn} {outcome : Outcome}

/-! ## What a step writes -/

/-- **What a step writes.** -/
inductive Writes (prims : Primitives) (gateway : Gateway) (conn : Conn) (outcome : Outcome) : Prop where
  | other (untracked : ∀ message ∈ outcome.written, message.tracked = false)
      (unread : ∀ s, .receive s ∉ outcome.changes)
      (phase : outcome.task.phase = conn.task.phase ∨ outcome.task.phase = .gone)
      (unprepared : outcome.task.prepared = none)
  | prepares {g : Uuid} {entry : GroupEntry} {me : Session} {members : List Peer}
      {rooms : List RoomSummary} {group : GroupState} {history : List ChatRecord}
      (task : conn.task = .loadingHistory g entry me members rooms)
      (found : gateway.group g = some group)
      (read : gateway.store.history prims g defaultRoomId historyCapacity = .ok history)
      (now : outcome = gateway.moveTo (.welcoming g me
        (.welcome (welcomeOf group entry me members rooms (fitHistoryToFrame history)))))
  | welcome {g : Uuid} {me : Session} {message : ServerMessage}
      (task : conn.task = .welcoming g me message) (next : outcome.task = .announcing g me)
      (changes : outcome.changes = []) (written : outcome.written = [message])
  | queued {g : Uuid} {me : Session} {used violations : ℕ} {client : ClientEntry}
      {message : ServerMessage} (task : conn.task = .serving g me used violations none)
      (found : gateway.client g me.peer.sessionId = some client)
      (head : client.sender.log[client.sender.taken]? = some message)
      (changes : outcome.changes = [.receive me.peer.sessionId])
      (wrote : outcome.written = [message] ∧ outcome.task = .serving g me used violations none ∨
        outcome.written = [] ∧ outcome.task = .leaving g me)

theorem mem_write {message sent : ServerMessage} {fault : Bool} (mem : sent ∈ write message fault) :
    sent = message := by
  unfold write at mem
  split at mem
  · cases mem
  · exact List.mem_singleton.1 mem

theorem write_cases (message : ServerMessage) (fault : Bool) :
    write message fault = [] ∨ write message fault = [message] := by
  unfold write
  split
  · exact .inl rfl
  · exact .inr rfl

/-- A step with a last message. -/
theorem writes_refuse (message : ServerMessage) (fault : Bool) (untracked : message.tracked = false) :
    Writes prims gateway conn (gateway.refuse message fault) :=
  .other (fun _ mem => mem_write mem ▸ untracked) (by simp [refuse]) (.inr rfl) rfl

theorem writes_refuse_store (message : ServerMessage) (fault : Bool) {store : GatewayStore}
    (untracked : message.tracked = false) :
    Writes prims gateway conn { gateway.refuse message fault with store } :=
  .other (fun _ mem => mem_write mem ▸ untracked) (by simp [refuse]) (.inr rfl) rfl

theorem writes_moveTo {task : Task} {store : GatewayStore}
    (phase : task.phase = conn.task.phase ∨ task.phase = .gone) (unprepared : task.prepared = none) :
    Writes prims gateway conn { gateway.moveTo task with store } :=
  .other (by simp) (by simp) phase unprepared

theorem tracked_refusal (authorization : JoinAuthorization) :
    (refusal authorization).tracked = false := by cases authorization <;> rfl

/-- Of the steps outside a group, the `GatewayWelcome` and refusals are written. -/
theorem writes_receive {id : ℕ} {message : ClientMessage} {newWindow : Bool}
    (h : gateway.outcome prims conn (.receive id message newWindow) = some outcome) :
    Writes prims gateway conn outcome := by
  simp only [Gateway.outcome] at h
  split at h <;> cases h
  · rename_i task
    unfold onHello
    split
    · simp only
      split
      · exact writes_refuse _ _ rfl
      · split
        · exact writes_moveTo (.inl (by rw [task]; rfl)) rfl
        · exact writes_moveTo (.inr rfl) rfl
    · exact writes_moveTo (.inr rfl) rfl
  · rename_i client task
    unfold onSelection
    split
    · exact writes_moveTo (.inl (by rw [task]; rfl)) rfl
    · split
      · exact writes_moveTo (.inl (by rw [task]; rfl)) rfl
      · exact writes_moveTo (.inr rfl) rfl
    · exact writes_refuse _ _ rfl
  · rename_i g me used violations task
    have phase : conn.task.phase = .welcomed := by rw [task]; rfl
    simp only [onMessage]
    generalize (if newWindow = true then 0 else used) + 1 = count
    split
    · split
      · exact .other (by simp) (by simp) (.inr rfl) rfl
      · exact .other (by simp) (by simp) (.inl phase.symm) rfl
    · split
      · exact .other (by simp) (by simp) (.inl phase.symm) rfl
      · exact .other (by simp) (by simp) (.inl phase.symm) rfl

theorem writes_advance {id : ℕ} {draw : Draw} {fault : Bool}
    (h : gateway.outcome prims conn (.advance id draw fault) = some outcome) :
    Writes prims gateway conn outcome := by
  simp only [Gateway.outcome, advance] at h
  split at h
  case h_1 client task =>
    cases h
    refine .other (fun sent mem => mem_write mem ▸ rfl) (by simp [greet]) ?_ ?_
    all_goals
      simp only [greet]
      split
    · exact .inr rfl
    · exact .inl (by rw [task]; rfl)
    · rfl
    · rfl
  case h_2 client g credential task =>
    cases h
    unfold findGroup
    split
    · exact writes_refuse _ _ rfl
    · split
      · exact writes_refuse _ _ rfl
      · exact writes_moveTo (.inl (by rw [task]; rfl)) rfl
  case h_3 client g credential task =>
    cases h
    simp only [authorize]
    split
    · exact writes_moveTo (.inl (by rw [task]; rfl)) rfl
    · exact writes_moveTo (.inl (by rw [task]; rfl)) rfl
    · exact writes_refuse_store _ _ rfl
    · exact writes_refuse_store _ _ (tracked_refusal _)
    · exact writes_moveTo (.inr rfl) rfl
  case h_4 client g task =>
    cases h
    simp only [requestJoin]
    split
    · exact writes_refuse_store _ _ rfl
    · exact writes_moveTo (.inr rfl) rfl
  case h_5 client name mode task =>
    cases h
    simp only [createGroup]
    split
    · exact writes_moveTo (.inl (by rw [task]; rfl)) rfl
    · exact writes_refuse_store _ _ rfl
  case h_6 client created task =>
    cases h
    exact .other (by simp [insertGroup]) (by simp [insertGroup]) (.inl (by rw [task]; rfl)) rfl
  case h_7 client created task =>
    cases h
    simp only [nameCreator]
    split
    · exact writes_moveTo (.inl (by rw [task]; rfl)) rfl
    · exact writes_moveTo (.inr rfl) rfl
  case h_8 g entry task =>
    split at h
    · obtain ⟨group, -, h⟩ := Option.map_eq_some_iff.1 h
      cases h
      exact .other (by simp [register]) (by simp [register]) (.inl (by rw [task]; rfl)) rfl
    · cases h
  case h_9 g entry me members task =>
    cases h
    simp only [loadRooms]
    split <;> exact writes_moveTo (.inl (by rw [task]; rfl)) rfl
  case h_10 g entry me members rooms task =>
    obtain ⟨group, found, h⟩ := Option.map_eq_some_iff.1 h
    cases h
    simp only [loadHistory]
    rw [call_store rfl]
    split
    · rename_i history reply
      obtain ⟨performed, -⟩ := call_of_reply reply (by simp)
      simp only [GatewayStore.perform, GatewayStore.answer] at performed
      split at performed <;> cases performed
      exact .prepares task found ‹_› rfl
    · exact writes_moveTo (.inl (by rw [task]; rfl)) rfl
  case h_11 g me message task =>
    cases h
    simp only [sendWelcome]
    obtain written | written := write_cases message fault <;> rw [written]
    · exact .other (by simp) (by simp) (.inl (by rw [task]; rfl)) rfl
    · exact .welcome task rfl rfl rfl
  case h_12 g me task =>
    cases h
    exact .other (by simp) (by simp) (.inr rfl) rfl
  case h_13 g me task =>
    cases h
    exact .other (by simp) (by simp) (.inl (by rw [task]; rfl)) rfl
  case h_14 g me used violations handler task =>
    obtain ⟨group, found, h⟩ := Option.bind_eq_some_iff.1 h
    have phase : conn.task.phase = .welcomed := by rw [task]; rfl
    unfold serve at h
    split at h
    · cases h
      refine .other (by simp) (fun s mem => ?_) (.inl phase.symm) rfl
      simp only [holds] at mem
      split at mem <;> simp at mem
    · obtain ⟨⟨changes, next⟩, blocked, h⟩ := Option.map_eq_some_iff.1 h
      cases h
      refine .other (by simp) (fun s mem => ?_) (.inl phase.symm) rfl
      have inBlock := block_changes blocked _ mem
      cases inBlock
  case h_15 g me task =>
    cases h
    exact .other (by simp) (by simp) (.inr rfl) rfl
  case h_16 g me task =>
    cases h
    exact .other (by simp) (by simp) (.inr rfl) rfl
  case h_17 => cases h

theorem writes {action : Action} (h : gateway.outcome prims conn action = some outcome) :
    Writes prims gateway conn outcome := by
  cases action with
  | accept | restart => cases h
  | receive => exact writes_receive h
  | advance => exact writes_advance h
  | flush id =>
    simp only [Gateway.outcome] at h
    split at h
    · rename_i g me used violations task
      obtain ⟨client, found, h⟩ := Option.bind_eq_some_iff.1 h
      obtain ⟨message, head, h⟩ := Option.map_eq_some_iff.1 h
      cases h
      refine .queued task found head rfl ?_
      obtain written | written := write_cases message false <;> simp [written]
    · cases h
  | kicked id =>
    simp only [Gateway.outcome] at h
    split at h
    · obtain ⟨reason, -, h⟩ := Option.map_eq_some_iff.1 h
      cases h
      refine .other (fun sent mem => ?_) (by simp) (.inr rfl) rfl
      rw [mem_write mem]
      cases reason <;> rfl
    · cases h
  | disconnect id =>
    simp only [Gateway.outcome] at h
    split at h <;> cases h <;> exact .other (by simp) (by simp) (.inr rfl) rfl

/-! ## What a session has written -/

/-- **A session writes its `Welcome` and then its channel in order.** -/
structure Wired (gateway : Gateway) : Prop where
  early : ∀ c ∈ gateway.conns, c.task.phase = .early → c.seen = []
  untaken : ∀ c ∈ gateway.conns, ∀ g me client, c.task.session = some (g, me) →
    c.task.phase = .early → gateway.Seat g me.peer.sessionId client → client.sender.taken = 0
  prepared : ∀ c ∈ gateway.conns, ∀ message, c.task.prepared = some message →
    ∃ session, message = .welcome session
  follows : ∀ c ∈ gateway.conns, ∀ g me client, c.task.session = some (g, me) →
    c.task.phase = .welcomed → gateway.Seat g me.peer.sessionId client →
    client.sender.taken ≤ client.sender.log.length ∧ ∃ session, c.seen = .welcome session ::
      (client.sender.log.take client.sender.taken).filter ServerMessage.tracked
  starts : ∀ c ∈ gateway.conns, c.seen = [] ∨ ∃ session rest, c.seen = .welcome session :: rest

theorem seen_after : (after conn outcome).seen =
    conn.seen ++ outcome.written.filter ServerMessage.tracked := List.filter_append _ _

/-- Only the session loop receives from the channel. -/
theorem received_cases {action : Action} (h : gateway.outcome prims conn action = some outcome)
    {s : Uuid} (received : .receive s ∈ outcome.changes) : ∃ g me used violations,
      conn.task = .serving g me used violations none ∧ me.peer.sessionId = s := by
  cases writes h with
  | other _ unread => exact absurd received (unread s)
  | prepares _ _ _ now =>
    rw [now] at received
    cases received
  | welcome _ _ changes =>
    rw [changes] at received
    cases received
  | queued task _ _ changes =>
    rw [changes, List.mem_singleton, Change.receive.injEq] at received
    exact ⟨_, _, _, _, task, received.symm⟩

/-- What a session has not received meanwhile, it has as before. -/
theorem kept_channel {action : Action} (h : gateway.outcome prims conn action = some outcome)
    {c : Conn} (hc : c ∈ gateway.conns) {g : Uuid} {me : Session}
    (session : c.task.session = some (g, me)) (unread : .receive me.peer.sessionId ∉ outcome.changes)
    {client' : ClientEntry} (seat : (gateway.commit conn outcome).Seat g me.peer.sessionId client') :
    ∃ client, gateway.Seat g me.peer.sessionId client ∧ client.sender.log <+: client'.sender.log ∧
      client'.sender.taken = client.sender.taken := by
  obtain ⟨client, was, ⟨rfl, -⟩ | ⟨rfl, -⟩⟩ := Seat.before h hc session seat
  · obtain ⟨group, -, -, -, same⟩ := id was
    exact ⟨client, was, ClientEntry.log_applyAll, ClientEntry.taken_applyAll (same ▸ unread)⟩
  · exact ⟨client', was, List.prefix_rfl, rfl⟩

/-- The other sessions do not receive. -/
theorem others_unread (owned : Owned gateway) (mem : conn ∈ gateway.conns) {action : Action}
    (h : gateway.outcome prims conn action = some outcome) {c : Conn} (hc : c ∈ gateway.conns)
    (other : c.id ≠ conn.id) {g : Uuid} {me : Session} (session : c.task.session = some (g, me)) :
    .receive me.peer.sessionId ∉ outcome.changes := by
  intro received
  obtain ⟨g', me', used, violations, task, same⟩ := received_cases h received
  exact other (congrArg Conn.id
    (owned.sessionIds c hc conn mem g g' me me' session (by rw [task]; rfl) same.symm))

/-- Nothing a client is told of goes to the socket before its `Welcome`. -/
theorem Wired.early_after (wired : Wired gateway) (mem : conn ∈ gateway.conns) {action : Action}
    (h : gateway.outcome prims conn action = some outcome) (early : outcome.task.phase = .early) :
    (after conn outcome).seen = [] := by
  rw [seen_after]
  cases writes h with
  | other untracked _ phase =>
    rw [early] at phase
    rw [wired.early conn mem (by simpa [eq_comm] using phase), List.nil_append,
      List.filter_eq_nil_iff]
    exact fun message mem => by simp [untracked message mem]
  | prepares task _ _ now =>
    rw [now, wired.early conn mem (by rw [task]; rfl)]
    rfl
  | welcome _ next =>
    rw [next] at early
    cases early
  | queued _ _ _ _ wrote =>
    obtain ⟨-, next⟩ | ⟨-, next⟩ := wrote
    all_goals
      rw [next] at early
      cases early

/-- A session in its early phase was in it before, and has received nothing meanwhile. -/
theorem early_before {action : Action} (h : gateway.outcome prims conn action = some outcome)
    (early : outcome.task.phase = .early) :
    conn.task.phase = .early ∧ ∀ s, .receive s ∉ outcome.changes := by
  have wasEarly : conn.task.phase = .early := by
    cases writes h with
    | other _ _ phase => simpa [early, eq_comm] using phase
    | prepares task => rw [task]; rfl
    | welcome task => rw [task]; rfl
    | queued _ _ _ _ wrote =>
      obtain ⟨-, next⟩ | ⟨-, next⟩ := wrote
      all_goals
        rw [next] at early
        cases early
  refine ⟨wasEarly, fun s received => ?_⟩
  obtain ⟨_, _, _, _, task, -⟩ := received_cases h received
  rw [task] at wasEarly
  cases wasEarly

/-- The channel of a session is untouched before its `Welcome`. -/
theorem Wired.untaken_after (wired : Wired gateway) (mem : conn ∈ gateway.conns) {action : Action}
    (h : gateway.outcome prims conn action = some outcome) {g : Uuid} {me : Session}
    {client' : ClientEntry} (session : outcome.task.session = some (g, me))
    (early : outcome.task.phase = .early)
    (seat : (gateway.commit conn outcome).Seat g me.peer.sessionId client') :
    client'.sender.taken = 0 := by
  cases sessionStep h with
  | outside _ after | removes _ after =>
    rw [after] at session
    cases session
  | inside before after =>
    rw [after] at session
    cases session
    obtain ⟨wasEarly, silent⟩ := early_before h early
    obtain ⟨client, was, -, taken⟩ := kept_channel h mem before (silent _) seat
    exact taken.trans (wired.untaken conn mem g me client before wasEarly was)
  | registers task fresh _ registered =>
    subst registered
    cases session
    cases seatStep h seat with
    | own was =>
      obtain ⟨group, inGroups, -, entry, same⟩ := was
      exact absurd same ((isFreshSession_iff.1 fresh).2 group inGroups _ entry)
    | other _ elsewhere => exact absurd (by rw [task]; rfl) elsewhere
    | registered _ _ _ _ now =>
      rw [now]
      rfl

/-- What is prepared for the socket is a `Welcome`. -/
theorem prepared_welcome {action : Action}
    (h : gateway.outcome prims conn action = some outcome) {message : ServerMessage}
    (prepared : outcome.task.prepared = some message) : ∃ session, message = .welcome session := by
  cases writes h with
  | other _ _ _ unprepared =>
    rw [unprepared] at prepared
    cases prepared
  | prepares _ _ _ now =>
    rw [now] at prepared
    cases prepared
    exact ⟨_, rfl⟩
  | welcome _ next =>
    rw [next] at prepared
    cases prepared
  | queued _ _ _ _ wrote =>
    obtain ⟨-, next⟩ | ⟨-, next⟩ := wrote
    all_goals
      rw [next] at prepared
      cases prepared

/-- What is received so far is not affected by what is enqueued. -/
theorem taken_of_longer {client client' : ClientEntry} (log : client.sender.log <+: client'.sender.log)
    (taken : client'.sender.taken = client.sender.taken)
    (within : client.sender.taken ≤ client.sender.log.length) :
    client'.sender.taken ≤ client'.sender.log.length ∧
      client'.sender.log.take client'.sender.taken =
        client.sender.log.take client.sender.taken := by
  obtain ⟨added, log⟩ := log
  rw [taken, ← log, List.length_append, List.take_append_of_le_length within]
  exact ⟨by omega, rfl⟩

/-- The loop takes the head of its channel and writes it. -/
theorem Wired.follows_queued (wired : Wired gateway) (seats : Seats gateway) (mem : conn ∈ gateway.conns)
    {action : Action} (h : gateway.outcome prims conn action = some outcome) {g : Uuid} {me : Session}
    {used violations : ℕ} {client client' : ClientEntry} {message : ServerMessage}
    (task : conn.task = .serving g me used violations none)
    (found : gateway.client g me.peer.sessionId = some client)
    (head : client.sender.log[client.sender.taken]? = some message)
    (changes : outcome.changes = [.receive me.peer.sessionId])
    (seat : (gateway.commit conn outcome).Seat g me.peer.sessionId client') :
    client'.sender.taken ≤ client'.sender.log.length ∧
      ∃ session, conn.seen ++ [message].filter ServerMessage.tracked = .welcome session ::
        (client'.sender.log.take client'.sender.taken).filter ServerMessage.tracked := by
  have wasSeat := seat_of_client found
  obtain ⟨group, -, -, -, same⟩ := id wasSeat
  have now : client' = client.applyAll outcome.changes := by
    obtain ⟨old, was, ⟨now, -⟩ | ⟨-, elsewhere⟩⟩ :=
      Seat.before h mem (by rw [task]; rfl) seat
    · rw [now, seats.one _ _ _ _ was wasSeat]
    · exact absurd (by rw [task]; rfl) elsewhere
  obtain ⟨within, welcome, seen⟩ :=
    wired.follows conn mem g me client (by rw [task]; rfl) (by rw [task]; rfl) wasSeat
  have sender : client'.sender = { client.sender with taken := client.sender.taken + 1 } := by
    rw [now, changes, ClientEntry.applyAll_cons, ClientEntry.applyAll_nil, ClientEntry.sender_apply]
    exact if_pos same
  obtain ⟨inside, -⟩ := List.getElem?_eq_some_iff.1 head
  rw [sender, seen]
  refine ⟨inside, welcome, ?_⟩
  simp [List.take_add_one, head, List.filter_append]

theorem Wired.follows_after (wired : Wired gateway) (seats : Seats gateway) (mem : conn ∈ gateway.conns)
    {action : Action} (h : gateway.outcome prims conn action = some outcome) {g : Uuid} {me : Session}
    {client' : ClientEntry} (session : outcome.task.session = some (g, me))
    (welcomed : outcome.task.phase = .welcomed)
    (seat : (gateway.commit conn outcome).Seat g me.peer.sessionId client') :
    client'.sender.taken ≤ client'.sender.log.length ∧
      ∃ session, (after conn outcome).seen = .welcome session ::
        (client'.sender.log.take client'.sender.taken).filter ServerMessage.tracked := by
  rw [seen_after]
  have before : conn.task.session = some (g, me) := by
    cases sessionStep h with
    | outside _ after | removes _ after =>
      rw [after] at session
      cases session
    | inside before after => rw [before, ← after, session]
    | registers _ _ _ registered =>
      subst registered
      cases welcomed
  cases writes h with
  | other untracked silent phase =>
    have was : conn.task.phase = .welcomed := by simpa [welcomed, eq_comm] using phase
    obtain ⟨client, wasSeat, log, taken⟩ := kept_channel h mem before (silent _) seat
    obtain ⟨within, welcome, seen⟩ := wired.follows conn mem g me client before was wasSeat
    obtain ⟨bound, same⟩ := taken_of_longer log taken within
    have nothing : outcome.written.filter ServerMessage.tracked = [] :=
      List.filter_eq_nil_iff.2 fun message mem => by simp [untracked message mem]
    exact ⟨bound, welcome, by rw [nothing, List.append_nil, seen, same]⟩
  | prepares _ _ _ now =>
    rw [now] at welcomed
    cases welcomed
  | @welcome _ _ message task _ changes written =>
    obtain ⟨welcome, rfl⟩ := wired.prepared conn mem message (by rw [task]; rfl)
    obtain ⟨client, wasSeat, log, taken⟩ := kept_channel h mem before (by simp [changes]) seat
    have none : client.sender.taken = 0 :=
      wired.untaken conn mem g me client before (by rw [task]; rfl) wasSeat
    refine ⟨by omega, welcome, ?_⟩
    rw [taken, none, written, wired.early conn mem (by rw [task]; rfl)]
    rfl
  | queued task found head changes wrote =>
    rw [task] at before
    cases before
    obtain ⟨written, next⟩ | ⟨-, next⟩ := wrote
    · rw [written]
      exact wired.follows_queued seats mem h task found head changes seat
    · rw [next] at welcomed
      cases welcomed

/-- The first message a client is told of is its `Welcome`. -/
theorem Wired.starts_after (wired : Wired gateway) (mem : conn ∈ gateway.conns) {action : Action}
    (h : gateway.outcome prims conn action = some outcome) :
    (after conn outcome).seen = [] ∨ ∃ session rest, (after conn outcome).seen = .welcome session :: rest := by
  rw [seen_after]
  obtain nothing | ⟨welcome, rest, seen⟩ := wired.starts conn mem
  · cases writes h with
    | other untracked =>
      exact .inl (by
        rw [nothing, List.nil_append, List.filter_eq_nil_iff]
        exact fun message mem => by simp [untracked message mem])
    | prepares _ _ _ now => exact .inl (by rw [now, nothing]; rfl)
    | @welcome _ _ message task _ _ written =>
      obtain ⟨welcome, rfl⟩ := wired.prepared conn mem message (by rw [task]; rfl)
      exact .inr ⟨welcome, [], by rw [written, nothing]; rfl⟩
    | queued task found _ _ wrote =>
      obtain ⟨-, welcome, seen⟩ := wired.follows conn mem _ _ _ (by rw [task]; rfl)
        (by rw [task]; rfl) (seat_of_client found)
      rw [nothing] at seen
      cases seen
  · exact .inr ⟨welcome, rest ++ outcome.written.filter ServerMessage.tracked, by rw [seen]; rfl⟩

theorem Wired.commit (wired : Wired gateway) (owned : Owned gateway) (seats : Seats gateway)
    (mem : conn ∈ gateway.conns) {action : Action}
    (h : gateway.outcome prims conn action = some outcome) :
    Wired (gateway.commit conn outcome) := by
  constructor
  · intro c hc early
    rcases mem_conns_commit hc with ⟨hc, -⟩ | rfl
    · exact wired.early c hc early
    · exact wired.early_after mem h early
  · intro c hc g me client' session early seat
    rcases mem_conns_commit hc with ⟨hc, other⟩ | rfl
    · obtain ⟨client, was, -, taken⟩ :=
        kept_channel h hc session (others_unread owned mem h hc other session) seat
      exact taken.trans (wired.untaken c hc g me client session early was)
    · exact wired.untaken_after mem h session early seat
  · intro c hc message prepared
    rcases mem_conns_commit hc with ⟨hc, -⟩ | rfl
    · exact wired.prepared c hc message prepared
    · exact prepared_welcome h prepared
  · intro c hc g me client' session welcomed seat
    rcases mem_conns_commit hc with ⟨hc, other⟩ | rfl
    · obtain ⟨client, was, log, taken⟩ :=
        kept_channel h hc session (others_unread owned mem h hc other session) seat
      obtain ⟨within, welcome, seen⟩ := wired.follows c hc g me client session welcomed was
      obtain ⟨bound, same⟩ := taken_of_longer log taken within
      exact ⟨bound, welcome, by rw [seen, same]⟩
    · exact wired.follows_after seats mem h session welcomed seat
  · intro c hc
    rcases mem_conns_commit hc with ⟨hc, -⟩ | rfl
    · exact wired.starts c hc
    · exact wired.starts_after mem h

theorem Wired.idles (wired : Wired gateway) (idles : Idles gateway gateway') : Wired gateway' := by
  have working : ∀ c ∈ gateway'.conns, ∀ g me, c.task.session = some (g, me) →
      c ∈ gateway.conns := by
    intro c hc g me session
    refine idles.at_work hc ⟨?_, ?_⟩
    all_goals
      intro task
      rw [task] at session
      cases session
  constructor
  · intro c hc early
    rcases idles.conns c hc with old | ⟨-, written⟩ | ⟨task, -⟩
    · exact wired.early c old early
    · rw [Conn.seen, written]
      rfl
    · rw [task] at early
      cases early
  · intro c hc g me client session early seat
    exact wired.untaken c (working c hc g me session) g me client session early
      (idles.seats g _ client seat)
  · intro c hc message prepared
    refine wired.prepared c (idles.at_work hc ⟨?_, ?_⟩) message prepared
    all_goals
      intro task
      rw [task] at prepared
      cases prepared
  · intro c hc g me client session welcomed seat
    exact wired.follows c (working c hc g me session) g me client session welcomed
      (idles.seats g _ client seat)
  · intro c hc
    rcases idles.conns c hc with old | ⟨-, written⟩ | ⟨-, d, hd, written⟩
    · exact wired.starts c old
    · rw [Conn.seen, written]
      exact .inl rfl
    · rw [Conn.seen, written]
      exact wired.starts d hd

/-- A step of its own shows a session at most its `Welcome` or a message of its channel. -/
theorem seen_cases {action : Action} (h : gateway.outcome prims conn action = some outcome) :
    (after conn outcome).seen = conn.seen ∨ (after conn outcome).task.phase = .welcomed := by
  rw [seen_after]
  cases writes h with
  | other untracked =>
    refine .inl ?_
    rw [List.append_right_eq_self, List.filter_eq_nil_iff]
    exact fun message mem => by simp [untracked message mem]
  | prepares _ _ _ now =>
    subst now
    exact .inl (List.append_nil _)
  | welcome _ next => exact .inr (by rw [show (after conn outcome).task = _ from next]; rfl)
  | queued _ _ _ _ wrote =>
    obtain ⟨-, next⟩ | ⟨nothing, -⟩ := wrote
    · exact .inr (by rw [show (after conn outcome).task = _ from next]; rfl)
    · exact .inl (by rw [nothing]; exact List.append_nil _)

/-- A session that has its `Welcome` is registered, and has seen the beginning
of its channel. -/
theorem Wired.seen (wired : Wired gateway) (seats : Seats gateway) (mem : conn ∈ gateway.conns)
    {g : Uuid} {me : Session} (session : conn.task.session = some (g, me))
    (welcomed : conn.task.phase = .welcomed) : ∃ client welcome, gateway.Seat g me.peer.sessionId client ∧
      conn.seen = .welcome welcome ::
        (client.sender.log.take client.sender.taken).filter ServerMessage.tracked := by
  obtain ⟨client, seat⟩ := seats.taken conn mem g me session
  obtain ⟨-, welcome, seen⟩ := wired.follows conn mem g me client session welcomed seat
  exact ⟨client, welcome, seat, seen⟩

/-- What every run keeps of the sessions, their channels and their sockets. -/
structure Served (gateway : Gateway) : Prop where
  owned : Owned gateway
  seats : Seats gateway
  posted : Posted gateway
  wired : Wired gateway

theorem served_spawned (h : Spawned gateway) : Served gateway := by
  refine ⟨owned_spawned h, seats_spawned h, posted_spawned h, ?_⟩
  obtain ⟨conns, unseated⟩ := unseated_spawned h
  constructor <;> simp [conns]

theorem served_step {action : Action} (served : Served gateway)
    (h : gateway.step prims action = some gateway') : Served gateway' := by
  refine ⟨owned_step served.owned h, seats_step served.seats served.owned h,
    posted_step served.posted h, ?_⟩
  rcases idles_or_commit h with idles | ⟨conn, mem, -, outcome, taken, rfl⟩
  · exact served.wired.idles idles
  · exact served.wired.commit served.owned served.seats mem taken

end Gateway

end LanChat
