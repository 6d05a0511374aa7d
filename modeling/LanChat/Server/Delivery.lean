import LanChat.Server.Seats
import LanChat.Storage.Sequences

/-!
# Delivery

What reaches the channels of the sessions, and from there the sockets. A step
tells other sessions of at most one thing (`Tells`), and the rest of a channel
is replies to its own session. `Posted` follows a chat message from the store
through its pending broadcast to the channels, and `Wired` says that a session
writes its `Welcome` and then its channel in order.
-/

namespace LanChat

open Transition

/-- The messages that make up a client's picture of its group and rooms; the
others are pages and answers. -/
def ServerMessage.tracked : ServerMessage → Bool
  | .welcome _ | .chat _ | .roomJoined _ _ | .roomLeft _ | .memberJoined _ | .memberLeft _ => true
  | _ => false

def ServerMessage.chatRecord : ServerMessage → Option ChatRecord
  | .chat message => some message
  | _ => none

/-- The live chat messages among messages. -/
def chats (messages : List ServerMessage) : List ChatRecord :=
  messages.filterMap ServerMessage.chatRecord

@[simp] theorem chats_append (before after : List ServerMessage) :
    chats (before ++ after) = chats before ++ chats after := List.filterMap_append

theorem chats_untracked {messages : List ServerMessage}
    (untracked : ∀ message ∈ messages, message.tracked = false) : chats messages = [] := by
  refine List.filterMap_eq_nil_iff.2 fun message mem => ?_
  have := untracked message mem
  cases message <;> first | rfl | cases this

/-- Pages and answers carry no live message. -/
theorem chats_tracked (messages : List ServerMessage) :
    chats (messages.filter ServerMessage.tracked) = chats messages := by
  rw [chats, chats, List.filterMap_filter]
  congr 1
  funext message
  cases message <;> rfl

/-- A change that neither tells of anything nor moves a session between rooms. -/
def Change.isQuiet : Change → Bool
  | .send _ message => !message.tracked
  | .join _ _ | .leave _ _ => false
  | _ => true

/-- A message that is committed and not broadcast yet. -/
def Task.pending : Task → Option (Uuid × ChatRecord)
  | serving groupId _ _ _ (some (.chatBroadcast message)) => some (groupId, message)
  | _ => none

theorem Task.pending_iff {task : Task} {g : Uuid} {message : ChatRecord} :
    task.pending = some (g, message) ↔ ∃ me used violations,
      task = .serving g me used violations (some (.chatBroadcast message)) := by
  constructor
  · intro pending
    cases task with
    | serving _ _ _ _ handler =>
      cases handler with
      | none => cases pending
      | some handler =>
        cases handler <;> cases pending
        exact ⟨_, _, _, rfl⟩
    | _ => cases pending
  · rintro ⟨me, used, violations, rfl⟩
    rfl

/-- A store call leads to a page or an answer, if it leads to a reply. -/
theorem Handler.resume_reply {groupId : Uuid} {me : Session} {draw : Draw} {handler : Handler}
    {op : StoreOp} (waits : handler.storeCall groupId me draw = some op) {answer : StoreReply}
    {message : ServerMessage} (replies : handler.resume answer = .reply message) :
    message.tracked = false := by
  cases handler with
  | chatAppend | createStore | joinAccess | joinHistory | historyLoad | requestsLoad | decideStore
  | membersLoad | banStore | rotateStore | roomMembersManage | roomMembersLoad
  | setRoomMemberStore =>
    simp only [resume] at replies
    repeat' split at replies
    all_goals
      cases replies
      try rfl
  | _ => cases waits

namespace Gateway

variable {prims : Primitives} {gateway gateway' : Gateway} {conn : Conn} {outcome : Outcome}

/-! ## What a step tells -/

/-- **What a step tells other sessions.** -/
inductive Tells (conn : Conn) (outcome : Outcome) : Prop where
  | quiet (silent : ∀ change ∈ outcome.changes, change.isQuiet = true)
  | chat {g : Uuid} {me : Session} {used violations : ℕ} {message : ChatRecord}
      (task : conn.task = .serving g me used violations (some (.chatBroadcast message)))
      (next : outcome.task = .serving g me used violations none)
      (changes : outcome.changes = [.send (.inRoom message.roomId) (.chat message)])
  | joined {g : Uuid} {me : Session} (task : conn.task = .announcing g me)
      (changes : outcome.changes = [.send (.others me.peer.sessionId) (.memberJoined me.peer)])
  | left {g : Uuid} {me : Session} (task : conn.task = .farewell g me)
      (next : outcome.task = .closed)
      (changes : outcome.changes = [.send .everyone (.memberLeft me.peer.sessionId)])
  | opened {g : Uuid} {me : Session} {used violations : ℕ} {room : RoomSummary}
      {history : List ChatRecord}
      (task : conn.task = .serving g me used violations (some (.joinInsert room history)))
      (changes : outcome.changes = [.join me.peer.sessionId room.roomId,
        .send (.session me.peer.sessionId) (.roomJoined room history),
        .unlockCreation me.peer.sessionId])
  | parted {g : Uuid} {me : Session} {used violations : ℕ} {handler : Handler} {whom : Recipients}
      {roomId : String} (task : conn.task = .serving g me used violations (some handler))
      (changes : outcome.changes = [.leave whom roomId, .send whom (.roomLeft roomId)])

/-- Replies are pages and answers. -/
def QuietReplies (conn : Conn) : Prop :=
  ∀ message, conn.task.handler = some (.reply message) → message.tracked = false

theorem tells (quiet : QuietReplies conn) {action : Action}
    (h : gateway.outcome prims conn action = some outcome) : Tells conn outcome := by
  cases taken h with
  | inside _ _ _ _ speaks =>
    cases speaks with
    | joined announcing => exact .joined announcing rfl
    | _ => exact .quiet (by simp [Change.isQuiet, ServerMessage.tracked])
  | calls =>
    refine .quiet ?_
    simp only [holds]
    split <;> simp [Change.isQuiet]
  | blocks task _ blocked =>
    cases Handler.blocks blocked with
    | finished answers =>
      rcases answers with ⟨code, text, rfl⟩ | rfl
      · exact .quiet (by simp [Handler.finish, Change.isQuiet, ServerMessage.tracked])
      · have untracked := quiet _ (by rw [task]; rfl)
        exact .quiet (by simp [Handler.finish, Change.isQuiet, untracked])
    | chatBroadcast => exact .chat task rfl rfl
    | joinInsert => exact .opened task rfl
    | leave => exact .parted task rfl
    | memberRemoved => exact .parted task rfl
    | _ => exact .quiet (by simp [Change.isQuiet, ServerMessage.tracked])
  | parts task => exact .left task rfl rfl
  | _ => exact .quiet (by simp [Change.isQuiet, insertGroup, register])

/-- Where a reply can come from. -/
theorem quietReplies_after {action : Action}
    (h : gateway.outcome prims conn action = some outcome) : QuietReplies (after conn outcome) := by
  intro message reply
  change outcome.task.handler = some (.reply message) at reply
  cases taken h with
  | lobby _ after =>
    rw [moveTo_task, Task.handler_of_inLobby after] at reply
    cases reply
  | inside _ _ _ starts =>
    have isStart := starts _ reply
    cases isStart
  | calls task waits =>
    simp only [moveTo_task, Task.handler, Option.some.injEq] at reply
    exact Handler.resume_reply waits reply
  | blocks task _ blocked =>
    simp only [moveTo_task, Task.handler] at reply
    subst reply
    cases Handler.blocks blocked with
    | admin _ _ notReply => cases notReply
  | removes _ _ after =>
    simp only [moveTo_task] at reply
    obtain rfl | rfl := after <;> cases reply
  | _ => cases reply

end Gateway

/-! ## Channels -/

/-- What a channel has accepted of a client's picture of its group. -/
def ClientEntry.news (client : ClientEntry) : List ServerMessage :=
  client.sender.log.filter ServerMessage.tracked

theorem chats_news (client : ClientEntry) : chats client.news = chats client.sender.log :=
  chats_tracked _

/-- A message is accepted, or the channel has dropped one. -/
theorem Outbound.push_cases (channel : Outbound) (message : ServerMessage) :
    (channel.push message).taken = channel.taken ∧
      ((channel.push message).log = channel.log ++ [message] ∧
          (channel.push message).dropped = channel.dropped ∨
        (channel.push message).log = channel.log ∧ (channel.push message).dropped = true) := by
  unfold Outbound.push
  split
  · exact ⟨rfl, .inl ⟨rfl, rfl⟩⟩
  · exact ⟨rfl, .inr ⟨rfl, rfl⟩⟩

namespace ClientEntry

variable {client : ClientEntry} {change : Change}

/-- **What a change does to a channel.** -/
theorem sender_apply : (client.apply change).sender = match change with
    | .send whom message =>
      if whom.selects client then client.sender.push message else client.sender
    | .receive sessionId =>
      if client.peer.sessionId = sessionId then
        { client.sender with taken := client.sender.taken + 1 }
      else client.sender
    | _ => client.sender := by
  cases change <;> simp only [apply, joinRoom, leaveRoom] <;> (repeat' split) <;> rfl

theorem log_apply : client.sender.log <+: (client.apply change).sender.log := by
  rw [sender_apply]
  split
  · rename_i whom message
    split
    · obtain ⟨log, -⟩ | ⟨log, -⟩ := (client.sender.push_cases message).2
      · exact log ▸ List.prefix_append _ _
      · exact log ▸ List.prefix_rfl
    · exact List.prefix_rfl
  · split <;> exact List.prefix_rfl
  · exact List.prefix_rfl

theorem log_applyAll {changes : List Change} :
    client.sender.log <+: (client.applyAll changes).sender.log := by
  induction changes generalizing client with
  | nil => exact List.prefix_rfl
  | cons change changes ih => exact log_apply.trans ih

theorem taken_apply (notReceived : change ≠ .receive client.peer.sessionId) :
    (client.apply change).sender.taken = client.sender.taken := by
  rw [sender_apply]
  split
  · split
    · exact (client.sender.push_cases _).1
    · rfl
  · rename_i sessionId
    rw [if_neg fun same => notReceived (by rw [same])]
  · rfl

theorem taken_applyAll {changes : List Change}
    (notReceived : .receive client.peer.sessionId ∉ changes) :
    (client.applyAll changes).sender.taken = client.sender.taken := by
  induction changes generalizing client with
  | nil => rfl
  | cons change changes ih =>
    obtain ⟨first, rest⟩ := not_or.1 (mt List.mem_cons.2 notReceived)
    rw [applyAll_cons, ih (by rwa [apply_peer]), taken_apply (Ne.symm first)]

theorem dropped_apply (kept : (client.apply change).sender.dropped = false) :
    client.sender.dropped = false := by
  rw [sender_apply] at kept
  split at kept
  · split at kept
    · obtain ⟨-, same⟩ | ⟨-, dropped⟩ := (client.sender.push_cases _).2
      · exact same.symm.trans kept
      · rw [dropped] at kept
        cases kept
    · exact kept
  · split at kept <;> exact kept
  · exact kept

theorem dropped_applyAll {changes : List Change}
    (kept : (client.applyAll changes).sender.dropped = false) : client.sender.dropped = false := by
  induction changes generalizing client with
  | nil => exact kept
  | cons change changes ih => exact dropped_apply (ih kept)

/-- A quiet change is no news. -/
theorem news_apply (quiet : change.isQuiet = true) : (client.apply change).news = client.news := by
  rw [news, sender_apply, news]
  split
  · rename_i whom message
    have untracked : message.tracked = false := by simpa [Change.isQuiet] using quiet
    split
    · obtain ⟨log, -⟩ | ⟨log, -⟩ := (client.sender.push_cases message).2 <;> rw [log]
      simp [untracked]
    · rfl
  · split <;> rfl
  · rfl

theorem news_applyAll {changes : List Change} (quiet : ∀ change ∈ changes, change.isQuiet = true) :
    (client.applyAll changes).news = client.news := by
  induction changes generalizing client with
  | nil => rfl
  | cons change changes ih =>
    rw [applyAll_cons, ih fun later mem => quiet later (List.mem_cons_of_mem _ mem),
      news_apply (quiet change List.mem_cons_self)]

/-- Tracked news for the sessions it is for, unless they have lost it. -/
theorem news_send {whom : Recipients} {message : ServerMessage} (tracked : message.tracked = true) :
    (client.apply (.send whom message)).news =
        client.news ++ (if whom.selects client then [message] else []) ∨
      (client.apply (.send whom message)).news = client.news ∧
        (client.apply (.send whom message)).sender.dropped = true := by
  simp only [news, sender_apply]
  split
  · obtain ⟨log, -⟩ | ⟨log, dropped⟩ := (client.sender.push_cases message).2
    · exact .inl (by rw [log, List.filter_append, List.filter_cons_of_pos tracked, List.filter_nil])
    · exact .inr ⟨by rw [log], dropped⟩
  · exact .inl (by rw [List.append_nil])

end ClientEntry

namespace Gateway

variable {prims : Primitives} {gateway gateway' : Gateway} {conn : Conn} {outcome : Outcome}

/-- **The news of a step for a session**: at most the one message it tells. -/
theorem news_after (tells : Tells conn outcome) (client : ClientEntry) :
    (client.applyAll outcome.changes).news = client.news ∨
      ∃ whom message, .send whom message ∈ outcome.changes ∧
        (client.applyAll outcome.changes).news = client.news ++ [message] := by
  have sent : ∀ (old : ClientEntry) whom message, message.tracked = true →
      (old.apply (.send whom message)).news = old.news ∨
        (old.apply (.send whom message)).news = old.news ++ [message] := by
    intro old whom message tracked
    obtain added | ⟨same, -⟩ := @ClientEntry.news_send old whom message tracked
    · split at added
      · exact .inr added
      · exact .inl (by simpa using added)
    · exact .inl same
  cases tells with
  | quiet silent => exact .inl (ClientEntry.news_applyAll silent)
  | @chat _ _ _ _ message _ _ changes =>
    rw [changes]
    exact (sent client (.inRoom message.roomId) (.chat message) rfl).imp_right fun news =>
      ⟨_, _, List.mem_singleton_self _, news⟩
  | @joined _ me _ changes =>
    rw [changes]
    exact (sent client (.others me.peer.sessionId) (.memberJoined me.peer) rfl).imp_right fun news =>
      ⟨_, _, List.mem_singleton_self _, news⟩
  | @left _ me _ _ changes =>
    rw [changes]
    exact (sent client .everyone (.memberLeft me.peer.sessionId) rfl).imp_right fun news =>
      ⟨_, _, List.mem_singleton_self _, news⟩
  | @opened g me _ _ room history _ changes =>
    have joins : (client.apply (.join me.peer.sessionId room.roomId)).news = client.news := by
      simp only [ClientEntry.news, ClientEntry.sender_apply]
    have news := sent (client.apply (.join me.peer.sessionId room.roomId))
      (.session me.peer.sessionId) (.roomJoined room history) rfl
    rw [joins] at news
    rw [changes, ClientEntry.applyAll_cons, ClientEntry.applyAll_cons,
      ClientEntry.news_applyAll (by simp [Change.isQuiet])]
    exact news.imp_right fun added =>
      ⟨.session me.peer.sessionId, .roomJoined room history, by simp, added⟩
  | @parted _ _ _ _ _ whom roomId _ changes =>
    have leaves : (client.apply (.leave whom roomId)).news = client.news := by
      simp only [ClientEntry.news, ClientEntry.sender_apply]
    have news := sent (client.apply (.leave whom roomId)) whom (.roomLeft roomId) rfl
    rw [leaves] at news
    rw [changes]
    exact news.imp_right fun added => ⟨whom, .roomLeft roomId, by simp, added⟩

/-- **A chat message is enqueued by its broadcast**, and then it is pending no more. -/
theorem chats_after (tells : Tells conn outcome) (client : ClientEntry) :
    chats (client.applyAll outcome.changes).sender.log = chats client.sender.log ∨
      ∃ g message, conn.task.pending = some (g, message) ∧ outcome.task.pending = none ∧
        chats (client.applyAll outcome.changes).sender.log = chats client.sender.log ++ [message] := by
  rw [← chats_news, ← chats_news]
  obtain same | ⟨whom, message, sends, news⟩ := news_after tells client
  · exact .inl (by rw [same])
  rw [news, chats_append]
  cases tells with
  | quiet silent =>
    have untracked : message.tracked = false := by simpa [Change.isQuiet] using silent _ sends
    have nothing : chats [message] = [] := chats_untracked (by simpa using untracked)
    exact .inl (by rw [nothing, List.append_nil])
  | chat task next changes =>
    rw [changes, List.mem_singleton, Change.send.injEq] at sends
    obtain ⟨-, rfl⟩ := sends
    exact .inr ⟨_, _, by rw [task]; rfl, by rw [next]; rfl, rfl⟩
  | joined _ changes | left _ _ changes | opened _ changes | parted _ changes =>
    simp only [changes, List.mem_cons, Change.send.injEq, reduceCtorEq, List.not_mem_nil, or_false,
      false_or] at sends
    obtain ⟨-, rfl⟩ := sends
    exact .inl (List.append_nil _)

/-- **The chat messages of a channel after a step**: those before it, and at
most the one whose broadcast the step is. -/
inductive ChatsStep (gateway : Gateway) (conn : Conn) (outcome : Outcome) (g s : Uuid)
    (chats' : List ChatRecord) : Prop where
  | same {client : ClientEntry} (was : gateway.Seat g s client)
      (now : chats' = chats client.sender.log)
  | told {client : ClientEntry} {message : ChatRecord} (was : gateway.Seat g s client)
      (before : conn.task.pending = some (g, message)) (after : outcome.task.pending = none)
      (now : chats' = chats client.sender.log ++ [message])
  | empty (now : chats' = [])

theorem chatsStep (quiet : QuietReplies conn) {action : Action}
    (h : gateway.outcome prims conn action = some outcome) {g s : Uuid} {client' : ClientEntry}
    (seat : (gateway.commit conn outcome).Seat g s client') :
    ChatsStep gateway conn outcome g s (chats client'.sender.log) := by
  cases seatStep h seat with
  | @own client was acts now =>
    subst now
    obtain same | ⟨g, message, before, after, added⟩ := chats_after (tells quiet h) client
    · exact .same was same
    · obtain ⟨me, used, violations, task⟩ := Task.pending_iff.1 before
      rw [task] at acts
      cases acts
      exact .told was before after added
  | other was => exact .same was rfl
  | registered _ _ _ _ now =>
    subst now
    exact .empty rfl

/-! ## From the store to the channels -/

/-- **Chat messages on their way.** A message is broadcast once, after it has
been stored, and no channel has it twice. -/
structure Posted (gateway : Gateway) : Prop where
  sequenced : gateway.store.Sequenced
  replies : ∀ c ∈ gateway.conns, QuietReplies c
  pending : ∀ c ∈ gateway.conns, ∀ g m, c.task.pending = some (g, m) → gateway.store.Stored g m
  apart : ∀ c ∈ gateway.conns, ∀ d ∈ gateway.conns, ∀ g g' m m', c.task.pending = some (g, m) →
    d.task.pending = some (g', m') → m.messageId = m'.messageId → c = d
  queued : ∀ g s client, gateway.Seat g s client → ∀ m ∈ chats client.sender.log,
    gateway.store.Stored g m
  unqueued : ∀ g s client, gateway.Seat g s client → ∀ m ∈ chats client.sender.log,
    ∀ c ∈ gateway.conns, ∀ g' m', c.task.pending = some (g', m') → m'.messageId ≠ m.messageId
  once : ∀ g s client, gateway.Seat g s client →
    ((chats client.sender.log).map ChatRecord.messageId).Nodup

/-- A message becomes pending when the store has appended it. -/
theorem pending_after {action : Action} (h : gateway.outcome prims conn action = some outcome)
    {g : Uuid} {message : ChatRecord} (pending : outcome.task.pending = some (g, message)) :
    ∃ r id sender sentAtMs text draw,
      (gateway.store.perform prims (.appendMessage g r id sender sentAtMs text draw)).1 =
          .record message ∧
        outcome.store =
          (gateway.store.perform prims (.appendMessage g r id sender sentAtMs text draw)).2 := by
  obtain ⟨me, used, violations, next⟩ := Task.pending_iff.1 pending
  cases taken h with
  | lobby _ after =>
    simp only [moveTo_task] at next
    rw [next] at after
    cases after
  | inside _ _ _ starts =>
    simp only [moveTo_task] at next
    have isStart := starts _ (by rw [next]; rfl)
    cases isStart
  | @calls _ _ _ _ handler op draw fault task waits =>
    simp only [moveTo_task, Task.serving.injEq, Option.some.injEq] at next
    obtain ⟨rfl, rfl, rfl, rfl, next⟩ := next
    have into := Handler.resumes waits (gateway.call prims op fault).1
    rw [next] at into
    generalize replied : (gateway.call prims op fault).1 = reply at into
    cases into with
    | posted =>
      cases waits
      obtain ⟨performed, committed⟩ := call_of_reply replied nofun
      exact ⟨_, _, _, _, _, draw, performed, committed⟩
    | plain isPlain => cases isPlain
  | blocks task _ blocked =>
    simp only [moveTo_task, Task.serving.injEq] at next
    obtain ⟨rfl, rfl, rfl, rfl, rfl⟩ := next
    cases Handler.blocks blocked with
    | admin isPlain => cases isPlain
  | removes _ _ after => obtain rfl | rfl := after <;> cases next
  | _ => cases next

theorem stored_commit {action : Action} (h : gateway.outcome prims conn action = some outcome)
    {g : Uuid} {message : ChatRecord} (stored : gateway.store.Stored g message) :
    outcome.store.Stored g message := by
  obtain same | ⟨op, performed⟩ := store_cases h
  · exact same ▸ stored
  · exact performed ▸ GatewayStore.stored_perform prims op stored

theorem Posted.commit (posted : Posted gateway) (mem : conn ∈ gateway.conns) {action : Action}
    (h : gateway.outcome prims conn action = some outcome) :
    Posted (gateway.commit conn outcome) := by
  have told := tells (posted.replies conn mem) h
  -- a newly pending message is one that was not stored before
  have fresh : ∀ {g m}, outcome.task.pending = some (g, m) → outcome.store.Stored g m ∧
      ∀ g' m', gateway.store.Stored g' m' → m'.messageId ≠ m.messageId := by
    intro g m pending
    obtain ⟨r, id, sender, sentAtMs, text, draw, reply, committed⟩ := pending_after h pending
    obtain ⟨stored, new, -⟩ := posted.sequenced.posted reply
    exact ⟨committed ▸ stored, new⟩
  constructor
  · change outcome.store.Sequenced
    obtain same | ⟨op, performed⟩ := store_cases h
    · exact same ▸ posted.sequenced
    · exact performed ▸ GatewayStore.sequenced_perform prims posted.sequenced op
  · intro c hc
    rcases mem_conns_commit hc with ⟨was, -⟩ | rfl
    · exact posted.replies c was
    · exact quietReplies_after h
  · intro c hc g m pending
    rcases mem_conns_commit hc with ⟨was, -⟩ | rfl
    · exact stored_commit h (posted.pending c was g m pending)
    · exact (fresh pending).1
  · intro c hc d hd g g' m m' pc pd same
    rcases mem_conns_commit hc with ⟨hc, nc⟩ | rfl <;> rcases mem_conns_commit hd with ⟨hd, nd⟩ | rfl
    · exact posted.apart c hc d hd g g' m m' pc pd same
    · exact absurd same ((fresh pd).2 g m (posted.pending c hc g m pc))
    · exact absurd same.symm ((fresh pc).2 g' m' (posted.pending d hd g' m' pd))
    · rfl
  · intro g s client seat m queued
    cases chatsStep (posted.replies conn mem) h seat with
    | same was now => exact stored_commit h (posted.queued g s _ was m (now ▸ queued))
    | told was before _ now =>
      rw [now] at queued
      rcases List.mem_append.1 queued with old | new
      · exact stored_commit h (posted.queued g s _ was m old)
      · obtain rfl := List.mem_singleton.1 new
        exact stored_commit h (posted.pending conn mem g m before)
    | empty now =>
      rw [now] at queued
      cases queued
  · intro g s client seat m queued c hc g' m' pending
    have old : ∀ {client}, gateway.Seat g s client → m ∈ chats client.sender.log →
        m'.messageId ≠ m.messageId := by
      intro client was mem
      rcases mem_conns_commit hc with ⟨hc, -⟩ | rfl
      · exact posted.unqueued g s client was m mem c hc g' m' pending
      · exact ((fresh pending).2 _ _ (posted.queued g s client was m mem)).symm
    cases chatsStep (posted.replies conn mem) h seat with
    | same was now => exact old was (now ▸ queued)
    | told was before after now =>
      rw [now] at queued
      rcases List.mem_append.1 queued with queued | new
      · exact old was queued
      · obtain rfl := List.mem_singleton.1 new
        rcases mem_conns_commit hc with ⟨hc, other⟩ | rfl
        · exact fun same => other (congrArg Conn.id
            (posted.apart c hc conn mem g' g m' m pending before same))
        · rw [show (Gateway.after conn outcome).task = outcome.task from rfl, after] at pending
          cases pending
    | empty now =>
      rw [now] at queued
      cases queued
  · intro g s client seat
    cases chatsStep (posted.replies conn mem) h seat with
    | same was now =>
      rw [now]
      exact posted.once g s _ was
    | told was before _ now =>
      rw [now, List.map_append, List.map_singleton]
      refine List.Nodup.append (posted.once g s _ was) (List.nodup_singleton _) ?_
      rw [List.disjoint_singleton, List.mem_map]
      rintro ⟨m, queued, same⟩
      exact posted.unqueued g s _ was m queued conn mem _ _ before same.symm
    | empty now =>
      rw [now]
      exact List.nodup_nil

theorem Posted.idles (posted : Posted gateway) (idles : Idles gateway gateway') :
    Posted gateway' := by
  have old : ∀ c ∈ gateway'.conns, ∀ g m, c.task.pending = some (g, m) → c ∈ gateway.conns := by
    intro c hc g m pending
    obtain ⟨me, used, violations, task⟩ := Task.pending_iff.1 pending
    exact idles.at_work hc (by simp [task])
  constructor
  · rw [idles.store]
    exact posted.sequenced
  · intro c hc message reply
    have works : c.task ≠ .hello ∧ c.task ≠ .closed := by
      constructor
      all_goals
        intro task
        rw [task] at reply
        cases reply
    exact posted.replies c (idles.at_work hc works) message reply
  · intro c hc g m pending
    rw [idles.store]
    exact posted.pending c (old c hc g m pending) g m pending
  · intro c hc d hd g g' m m' pc pd
    exact posted.apart c (old c hc g m pc) d (old d hd g' m' pd) g g' m m' pc pd
  · intro g s client seat
    rw [idles.store]
    exact posted.queued g s client (idles.seats g s client seat)
  · intro g s client seat m queued c hc g' m' pending
    exact posted.unqueued g s client (idles.seats g s client seat) m queued c (old c hc g' m' pending)
      g' m' pending
  · exact fun g s client seat => posted.once g s client (idles.seats g s client seat)

theorem posted_step {action : Action} (posted : Posted gateway)
    (h : gateway.step prims action = some gateway') : Posted gateway' := by
  rcases idles_or_commit h with idles | ⟨conn, mem, -, outcome, taken, rfl⟩
  · exact posted.idles idles
  · exact posted.commit mem taken

theorem posted_spawned (h : Spawned gateway) : Posted gateway := by
  obtain ⟨conns, unseated⟩ := unseated_spawned h
  obtain ⟨key, name, draw, spawned⟩ := h
  obtain ⟨-, store, -, -⟩ := spawnGateway_ok spawned
  have messages : gateway.store.groupMessages = [] := by
    rw [store, GatewayStore.gatewayId]
    rfl
  constructor
  · constructor <;> simp [messages, GatewayStore.roomMessages]
  all_goals simp [conns, unseated]

end Gateway

end LanChat
