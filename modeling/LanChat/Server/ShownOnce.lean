import LanChat.Server.Sockets

/-!
# Messages shown once

`enter_group` registers a session before it reads the history of its `Welcome`,
so a message can be in the history and be broadcast to the session as well.
Where the two do not meet (`EntersApart`), the general room of the client shows
every message once.
-/

namespace LanChat

open Transition

/-- What fills the general room: the history of the `Welcome` and live messages. -/
def ServerMessage.fillsGeneral : ServerMessage → Bool
  | .welcome _ | .chat _ => true
  | _ => false

namespace Conn

/-- The general room of a client that has read the `Welcome` and the live
messages of its connection. -/
def generalView (conn : Conn) : List ChatRecord :=
  ((clientOf (conn.written.filter ServerMessage.fillsGeneral)).map (·.shown defaultRoomId)).getD []

/-- The `Welcome` of a connection, prepared or written. -/
def welcome (conn : Conn) : Option Welcome :=
  match conn.task.prepared with
  | some (.welcome session) => some session
  | some _ => none
  | none => match conn.seen with
    | .welcome session :: _ => some session
    | _ => none

end Conn

namespace Gateway

variable {prims : Primitives} {gateway gateway' : Gateway} {conn : Conn} {outcome : Outcome}

/-- The history of a `Welcome` is read when none of its messages is still to be
broadcast or already on the channel of the session. -/
def EntersApart (prims : Primitives) (gateway : Gateway) (action : Action) : Prop :=
  ∀ c ∈ gateway.conns, ∀ draw, action = .advance c.id draw false → ∀ g entry me members rooms,
    c.task = .loadingHistory g entry me members rooms → ∀ history,
    gateway.store.history prims g defaultRoomId historyCapacity = .ok history →
    ∀ m ∈ fitHistoryToFrame history,
      (∀ d ∈ gateway.conns, ∀ g' m', d.task.pending = some (g', m') → m'.messageId ≠ m.messageId) ∧
      ∀ client, gateway.Seat g me.peer.sessionId client → ∀ m' ∈ chats client.sender.log,
        m'.messageId ≠ m.messageId

/-- A history is read by a call that does not fail. -/
theorem prepared_action {action : Action} (actor : action.actor = some conn.id)
    (h : gateway.outcome prims conn action = some outcome) {g : Uuid} {entry : GroupEntry}
    {me : Session} {members : List Peer} {rooms : List RoomSummary}
    (task : conn.task = .loadingHistory g entry me members rooms)
    (prepared : outcome.task.prepared.isSome = true) : ∃ draw, action = .advance conn.id draw false := by
  cases action with
  | accept | restart => cases h
  | receive | flush | kicked | disconnect => simp [Gateway.outcome, task] at h
  | advance id draw fault =>
    cases actor
    cases fault with
    | false => exact ⟨draw, rfl⟩
    | true =>
      simp only [Gateway.outcome, advance, task, Option.map_eq_some_iff] at h
      obtain ⟨group, -, rfl⟩ := h
      cases prepared

/-- **The `Welcome` of a connection after a step** is that before it, or has just
been prepared. -/
theorem welcome_after (served : Served gateway) (mem : conn ∈ gateway.conns) {action : Action}
    (h : gateway.outcome prims conn action = some outcome) {session : Welcome}
    (welcome : (after conn outcome).welcome = some session) :
    conn.welcome = some session ∨ ∃ g entry me members rooms group history,
      conn.task = .loadingHistory g entry me members rooms ∧
      gateway.store.history prims g defaultRoomId historyCapacity = .ok history ∧
      outcome = gateway.moveTo (.welcoming g me (.welcome session)) ∧
      session = welcomeOf group entry me members rooms (fitHistoryToFrame history) := by
  have wired := served.wired
  have prepared : (after conn outcome).task.prepared = outcome.task.prepared := rfl
  cases writes h with
  | other untracked _ _ unprepared =>
    have seen : (after conn outcome).seen = conn.seen := by
      rw [seen_after, List.append_right_eq_self, List.filter_eq_nil_iff]
      exact fun message mem => by simp [untracked message mem]
    rw [Conn.welcome, prepared, unprepared, seen] at welcome
    cases was : conn.task.prepared with
    | none => exact .inl (by rw [Conn.welcome, was]; exact welcome)
    | some message =>
      -- a session that gives up on its `Welcome` has written nothing
      have early : conn.task.phase = .early := by
        cases task : conn.task <;> rw [task] at was <;> first | rfl | cases was
      rw [wired.early conn mem early] at welcome
      cases welcome
  | prepares task _ read now =>
    subst now
    cases welcome
    exact .inr ⟨_, _, _, _, _, _, _, task, read, rfl, rfl⟩
  | @welcome _ _ message task next _ written =>
    obtain ⟨prepares, rfl⟩ := wired.prepared conn mem message (by rw [task]; rfl)
    rw [Conn.welcome, prepared, next, seen_after, written,
      wired.early conn mem (by rw [task]; rfl)] at welcome
    cases welcome
    exact .inl (by rw [Conn.welcome, task]; rfl)
  | queued task found _ _ wrote =>
    obtain ⟨-, first, seen⟩ := wired.follows conn mem _ _ _ (by rw [task]; rfl) (by rw [task]; rfl)
      (seat_of_client found)
    have unprepared : outcome.task.prepared = none := by
      obtain ⟨-, next⟩ | ⟨-, next⟩ := wrote <;> rw [next] <;> rfl
    rw [Conn.welcome, prepared, unprepared, seen_after, seen] at welcome
    cases welcome
    exact .inl (by rw [Conn.welcome, task, seen]; rfl)

/-- A `Welcome` after a step was there before, or has just been prepared. -/
theorem welcome_commit (served : Served gateway) (mem : conn ∈ gateway.conns) {action : Action}
    (h : gateway.outcome prims conn action = some outcome) {c : Conn}
    (hc : c ∈ (gateway.commit conn outcome).conns) {session : Welcome}
    (welcome : c.welcome = some session) :
    (∃ d ∈ gateway.conns, d.welcome = some session ∧ (c = d ∨ c = after conn outcome ∧ d = conn)) ∨
      c = after conn outcome ∧ ∃ g entry me members rooms group history,
        conn.task = .loadingHistory g entry me members rooms ∧
        gateway.store.history prims g defaultRoomId historyCapacity = .ok history ∧
        outcome = gateway.moveTo (.welcoming g me (.welcome session)) ∧
        session = welcomeOf group entry me members rooms (fitHistoryToFrame history) := by
  rcases mem_conns_commit hc with ⟨was, -⟩ | rfl
  · exact .inl ⟨c, was, welcome, .inl rfl⟩
  · rcases welcome_after served mem h welcome with before | prepared
    · exact .inl ⟨conn, mem, before, .inr ⟨rfl, rfl⟩⟩
    · exact .inr ⟨rfl, prepared⟩

/-- The history of a `Welcome` and the channel of its session have no message in
common, and none that is still to be broadcast is in the history. -/
structure Shown (gateway : Gateway) : Prop where
  stored : ∀ c ∈ gateway.conns, ∀ session, c.welcome = some session → ∀ m ∈ session.history,
    ∃ g, gateway.store.Stored g m
  apart : ∀ c ∈ gateway.conns, ∀ session, c.welcome = some session → ∀ d ∈ gateway.conns,
    ∀ g m', d.task.pending = some (g, m') → ∀ m ∈ session.history, m'.messageId ≠ m.messageId
  once : ∀ c ∈ gateway.conns, ∀ session, c.welcome = some session → ∀ g me client,
    c.task.session = some (g, me) → gateway.Seat g me.peer.sessionId client →
    ((session.history ++ chats client.sender.log).map ChatRecord.messageId).Nodup
  seen : ∀ c ∈ gateway.conns, ∀ session rest, c.seen = .welcome session :: rest →
    session.roomId = defaultRoomId ∧
      ((session.history ++ chats rest).map ChatRecord.messageId).Nodup
  general : ∀ c ∈ gateway.conns, ∀ session, c.welcome = some session →
    session.roomId = defaultRoomId

section
variable {action : Action} {session : Welcome} {g : Uuid} {entry : GroupEntry} {me : Session}
  {members : List Peer} {rooms : List RoomSummary} {group : GroupState} {history : List ChatRecord}

/-- What a `Welcome` that is being prepared is known to have. -/
theorem prepares_apart (served : Served gateway) (mem : conn ∈ gateway.conns)
    (actor : action.actor = some conn.id) (enters : EntersApart prims gateway action)
    (h : gateway.outcome prims conn action = some outcome)
    (task : conn.task = .loadingHistory g entry me members rooms)
    (read : gateway.store.history prims g defaultRoomId historyCapacity = .ok history)
    (now : outcome = gateway.moveTo (.welcoming g me (.welcome session))) :
    gateway.store.RoomEnd g defaultRoomId (fitHistoryToFrame history) ∧
      ∀ m ∈ fitHistoryToFrame history,
        (∀ d ∈ gateway.conns, ∀ g' m', d.task.pending = some (g', m') → m'.messageId ≠ m.messageId) ∧
        ∀ client, gateway.Seat g me.peer.sessionId client → ∀ m' ∈ chats client.sender.log,
          m'.messageId ≠ m.messageId := by
  obtain ⟨draw, act⟩ := prepared_action actor h task (by rw [now]; rfl)
  exact ⟨(served.posted.sequenced.roomEnd read).drop (fitHistoryToFrame_suffix history),
    enters conn mem draw act g entry me members rooms task history read⟩

/-- A message that becomes pending has a new id. -/
theorem pending_fresh (served : Served gateway) (h : gateway.outcome prims conn action = some outcome)
    {m' : ChatRecord} (pending : outcome.task.pending = some (g, m')) {g' : Uuid} {m : ChatRecord}
    (stored : gateway.store.Stored g' m) : m.messageId ≠ m'.messageId := by
  obtain ⟨r, id, sender, sentAtMs, text, draw, reply, -⟩ := pending_after h pending
  exact (served.posted.sequenced.posted reply).2.1 g' m stored

/-- A session with an old `Welcome` and its old seat. -/
theorem Shown.once_old (shown : Shown gateway) (served : Served gateway) (mem : conn ∈ gateway.conns)
    (h : gateway.outcome prims conn action = some outcome) {c : Conn} (hc : c ∈ gateway.conns)
    (welcome : c.welcome = some session) (inGroup : c.task.session = some (g, me)) {client' : ClientEntry}
    (seat : (gateway.commit conn outcome).Seat g me.peer.sessionId client') :
    ((session.history ++ chats client'.sender.log).map ChatRecord.messageId).Nodup := by
  have posted := served.posted
  cases chatsStep (posted.replies conn mem) h seat with
  | same was now =>
    rw [now]
    exact shown.once c hc session welcome g me _ inGroup was
  | @told client message was before _ now =>
    rw [now, ← List.append_assoc, List.map_append]
    refine List.Nodup.append (shown.once c hc session welcome g me _ inGroup was)
      (List.nodup_singleton _) ?_
    rw [List.map_singleton, List.disjoint_singleton, List.mem_map]
    rintro ⟨m, known, same⟩
    rcases List.mem_append.1 known with inHistory | inLog
    · exact shown.apart c hc session welcome conn mem g message before m inHistory same.symm
    · exact posted.unqueued g _ client was m inLog conn mem g message before same.symm
  | empty now =>
    obtain ⟨client, was⟩ := served.seats.taken c hc g me inGroup
    have nodup := shown.once c hc session welcome g me client inGroup was
    rw [List.map_append] at nodup
    rw [now, List.append_nil]
    exact nodup.of_append_left

/-- A session whose `Welcome` has just been prepared. -/
theorem once_prepared (served : Served gateway) (mem : conn ∈ gateway.conns)
    (actor : action.actor = some conn.id) (enters : EntersApart prims gateway action)
    (h : gateway.outcome prims conn action = some outcome)
    (task : conn.task = .loadingHistory g entry me members rooms)
    (read : gateway.store.history prims g defaultRoomId historyCapacity = .ok history)
    (now : outcome = gateway.moveTo (.welcoming g me (.welcome session))) {client' : ClientEntry}
    (seat : (gateway.commit conn outcome).Seat g me.peer.sessionId client') :
    ((fitHistoryToFrame history ++ chats client'.sender.log).map ChatRecord.messageId).Nodup := by
  obtain ⟨ending, disjoint⟩ := prepares_apart served mem actor enters h task read now
  obtain ⟨client, was, same⟩ : ∃ client, gateway.Seat g me.peer.sessionId client ∧ client' = client := by
    obtain ⟨client, was, ⟨same, -⟩ | ⟨same, -⟩⟩ := Seat.before h mem (by rw [task]; rfl) seat
    · exact ⟨client, was, by rw [same, now]; rfl⟩
    · exact ⟨client, was, same⟩
  rw [same, List.map_append]
  refine List.Nodup.append (ending.nodup served.posted.sequenced) (served.posted.once g _ client was) ?_
  intro id inHistory inLog
  obtain ⟨m, known, rfl⟩ := List.mem_map.1 inHistory
  obtain ⟨m', queued, same⟩ := List.mem_map.1 inLog
  exact (disjoint m known).2 client was m' queued same

/-- A session that keeps its `Welcome` in a step had it in its group before. -/
theorem session_of_welcome (served : Served gateway) (mem : conn ∈ gateway.conns)
    (h : gateway.outcome prims conn action = some outcome) (before : conn.welcome = some session)
    (inGroup : outcome.task.session = some (g, me)) : conn.task.session = some (g, me) := by
  cases sessionStep h with
  | outside _ after | removes _ after =>
    rw [after] at inGroup
    cases inGroup
  | inside before after => rw [before, ← after, inGroup]
  | registers task =>
    rw [Conn.welcome, task, served.wired.early conn mem (by rw [task]; rfl)] at before
    cases before

end

section
variable (shown : Shown gateway) (served : Served gateway) (mem : conn ∈ gateway.conns)
  {action : Action} (actor : action.actor = some conn.id) (enters : EntersApart prims gateway action)
  (h : gateway.outcome prims conn action = some outcome)

include shown served mem h

theorem Shown.general_commit {c : Conn} (hc : c ∈ (gateway.commit conn outcome).conns) {session : Welcome}
    (welcome : c.welcome = some session) : session.roomId = defaultRoomId := by
  rcases welcome_commit served mem h hc welcome with
    ⟨d, hd, before, -⟩ | ⟨-, _, _, _, _, _, _, _, -, -, -, rfl⟩
  · exact shown.general d hd session before
  · rfl

include actor enters

theorem Shown.once_commit {c : Conn} (hc : c ∈ (gateway.commit conn outcome).conns) {session : Welcome}
    (welcome : c.welcome = some session) {g : Uuid} {me : Session} {client' : ClientEntry}
    (inGroup : c.task.session = some (g, me))
    (seat : (gateway.commit conn outcome).Seat g me.peer.sessionId client') :
    ((session.history ++ chats client'.sender.log).map ChatRecord.messageId).Nodup := by
  rcases welcome_commit served mem h hc welcome with
    ⟨d, hd, before, rfl | ⟨rfl, rfl⟩⟩ | ⟨rfl, g', entry, me', members, rooms, group, history, task, read, now, rfl⟩
  · exact shown.once_old served mem h hd before inGroup seat
  · exact shown.once_old served mem h hd before (session_of_welcome served hd h before inGroup) seat
  · obtain ⟨rfl, rfl⟩ : g' = g ∧ me' = me := by
      change outcome.task.session = some (g, me) at inGroup
      rw [now] at inGroup
      cases inGroup
      exact ⟨rfl, rfl⟩
    exact once_prepared served mem actor enters h task read now seat

theorem Shown.stored_commit {c : Conn} (hc : c ∈ (gateway.commit conn outcome).conns) {session : Welcome}
    (welcome : c.welcome = some session) {m : ChatRecord} (inHistory : m ∈ session.history) :
    ∃ g, (gateway.commit conn outcome).store.Stored g m := by
  rcases welcome_commit served mem h hc welcome with
    ⟨d, hd, before, -⟩ | ⟨-, g, entry, me, members, rooms, group, history, task, read, now, rfl⟩
  · obtain ⟨g, stored⟩ := shown.stored d hd session before m inHistory
    exact ⟨g, Gateway.stored_commit h stored⟩
  · exact ⟨g, Gateway.stored_commit h
      ((prepares_apart served mem actor enters h task read now).1.stored inHistory)⟩

theorem Shown.apart_commit {c : Conn} (hc : c ∈ (gateway.commit conn outcome).conns) {session : Welcome}
    (welcome : c.welcome = some session) {d : Conn} (hd : d ∈ (gateway.commit conn outcome).conns)
    {g : Uuid} {m' : ChatRecord} (pending : d.task.pending = some (g, m')) {m : ChatRecord}
    (inHistory : m ∈ session.history) : m'.messageId ≠ m.messageId := by
  rcases welcome_commit served mem h hc welcome with
    ⟨b, hb, before, -⟩ | ⟨-, g', entry, me, members, rooms, group, history, task, read, now, rfl⟩ <;>
    rcases mem_conns_commit hd with ⟨hd, -⟩ | rfl
  · exact shown.apart b hb session before d hd g m' pending m inHistory
  · obtain ⟨g', stored⟩ := shown.stored b hb session before m inHistory
    exact (pending_fresh served h pending stored).symm
  · exact ((prepares_apart served mem actor enters h task read now).2 m inHistory).1 d hd g m' pending
  · change outcome.task.pending = some (g, m') at pending
    rw [now] at pending
    cases pending

theorem Shown.seen_commit (served' : Served (gateway.commit conn outcome)) {c : Conn}
    (hc : c ∈ (gateway.commit conn outcome).conns) {session : Welcome} {rest : List ServerMessage}
    (seen : c.seen = .welcome session :: rest) : session.roomId = defaultRoomId ∧
      ((session.history ++ chats rest).map ChatRecord.messageId).Nodup := by
  rcases mem_conns_commit hc with ⟨was, -⟩ | rfl
  · exact shown.seen c was session rest seen
  · obtain same | welcomed := seen_cases h
    · exact shown.seen conn mem session rest (same ▸ seen)
    · obtain ⟨unprepared, g, me, inGroup⟩ := Task.of_welcomed welcomed
      obtain ⟨client, first, seat, follows⟩ := served'.wired.seen served'.seats hc inGroup welcomed
      rw [follows] at seen
      cases seen
      have welcome : (after conn outcome).welcome = some session := by
        rw [Conn.welcome, unprepared, follows]
      refine ⟨shown.general_commit served mem h hc welcome, ?_⟩
      refine (shown.once_commit served mem actor enters h hc welcome inGroup seat).sublist (List.Sublist.map _ ?_)
      rw [chats_tracked]
      exact List.Sublist.append_left ((List.take_sublist _ _).filterMap _) _

theorem Shown.commit (served' : Served (gateway.commit conn outcome)) : Shown (gateway.commit conn outcome) where
  stored _ hc _ welcome _ inHistory := shown.stored_commit served mem actor enters h hc welcome inHistory
  apart _ hc _ welcome _ hd _ _ pending _ inHistory :=
    shown.apart_commit served mem actor enters h hc welcome hd pending inHistory
  once _ hc _ welcome _ _ _ inGroup seat := shown.once_commit served mem actor enters h hc welcome inGroup seat
  seen _ hc _ _ seen := shown.seen_commit served mem actor enters h served' hc seen
  general _ hc _ welcome := shown.general_commit served mem h hc welcome

end

theorem Shown.idles (shown : Shown gateway) (wired : Wired gateway) (idles : Idles gateway gateway') :
    Shown gateway' := by
  -- a `Welcome` that is still there was there before
  have before : ∀ c ∈ gateway'.conns, ∀ session, c.welcome = some session →
      ∃ d ∈ gateway.conns, d.welcome = some session ∧ (c = d ∨ c.task.session = none) := by
    intro c hc session welcome
    rcases idles.conns c hc with old | ⟨task, written⟩ | ⟨task, d, hd, written⟩
    · exact ⟨c, old, welcome, .inl rfl⟩
    · simp [Conn.welcome, task, Task.prepared, Conn.seen, written] at welcome
    · refine ⟨d, hd, ?_, .inr (by rw [task]; rfl)⟩
      have same : c.seen = d.seen := by rw [Conn.seen, written, Conn.seen]
      cases prepared : d.task.prepared with
      | none =>
        rw [Conn.welcome, task, same] at welcome
        rw [Conn.welcome, prepared]
        exact welcome
      | some message =>
        have early : d.task.phase = .early := by
          cases task : d.task <;> rw [task] at prepared <;> first | rfl | cases prepared
        rw [Conn.welcome, task, same, wired.early d hd early] at welcome
        cases welcome
  have pending : ∀ d ∈ gateway'.conns, ∀ g m', d.task.pending = some (g, m') → d ∈ gateway.conns := by
    intro d hd g m' pending
    obtain ⟨me, used, violations, task⟩ := Task.pending_iff.1 pending
    exact idles.at_work hd (by simp [task])
  constructor
  · intro c hc session welcome m inHistory
    obtain ⟨d, hd, was, -⟩ := before c hc session welcome
    rw [idles.store]
    exact shown.stored d hd session was m inHistory
  · intro c hc session welcome d hd g m' waits
    obtain ⟨e, he, was, -⟩ := before c hc session welcome
    exact shown.apart e he session was d (pending d hd g m' waits) g m' waits
  · intro c hc session welcome g me client inGroup seat
    obtain ⟨d, hd, was, rfl | gone⟩ := before c hc session welcome
    · exact shown.once c hd session was g me client inGroup (idles.seats g _ client seat)
    · rw [gone] at inGroup
      cases inGroup
  · intro c hc session rest seen
    rcases idles.conns c hc with old | ⟨-, written⟩ | ⟨-, d, hd, written⟩
    · exact shown.seen c old session rest seen
    · rw [Conn.seen, written] at seen
      cases seen
    · rw [Conn.seen, written] at seen
      exact shown.seen d hd session rest seen
  · intro c hc session welcome
    obtain ⟨d, hd, was, -⟩ := before c hc session welcome
    exact shown.general d hd session was

theorem shown_run {start : Gateway} {actions : List Action} (spawned : Spawned start)
    (run : Run (step prims) (EntersApart prims) start actions gateway) :
    Served gateway ∧ Shown gateway := by
  refine run.preserves (I := fun gateway => Served gateway ∧ Shown gateway) ?_ ?_
  · rintro before action next ⟨served, shown⟩ enters h
    have served' := served_step served h
    refine ⟨served', ?_⟩
    rcases idles_or_commit h with idles | ⟨conn, mem, actor, outcome, taken, rfl⟩
    · exact shown.idles served.wired idles
    · exact shown.commit served mem actor enters taken served'
  · refine ⟨served_spawned spawned, ?_⟩
    obtain ⟨conns, unseated⟩ := unseated_spawned spawned
    constructor <;> simp [conns]

/-- What fills the general room is part of what is tracked. -/
theorem filter_fillsGeneral (written : List ServerMessage) :
    written.filter ServerMessage.fillsGeneral =
      (written.filter ServerMessage.tracked).filter ServerMessage.fillsGeneral := by
  rw [List.filter_filter]
  congr 1
  funext message
  cases message <;> rfl

/-- **Every message is shown once.** In every run in which sessions enter apart,
no message stands twice in the general room of a client, filled from its
`Welcome` and the live messages after it. -/
theorem general_shown_once {start : Gateway} {actions : List Action} (spawned : Spawned start)
    (run : Run (step prims) (EntersApart prims) start actions gateway) :
    ∀ c ∈ gateway.conns, (c.generalView.map ChatRecord.messageId).Nodup := by
  obtain ⟨served, shown⟩ := shown_run spawned run
  intro c hc
  rw [Conn.generalView, filter_fillsGeneral, ← Conn.seen]
  rcases served.wired.starts c hc with nothing | ⟨session, rest, seen⟩
  · rw [nothing]
    exact List.nodup_nil
  · obtain ⟨general, once⟩ := shown.seen c hc session rest seen
    have received : clientOf (c.seen.filter ServerMessage.fillsGeneral) =
        some ((rest.filter ServerMessage.fillsGeneral).foldl ChatApp.handleServerMessage
          (.new session)) := by
      rw [seen]
      exact @clientOf_welcome [] _ session (by simp)
    have keeps : ∀ message ∈ rest.filter ServerMessage.fillsGeneral,
        ChatApp.rewrites defaultRoomId message = false := by
      intro message mem
      have fills := (List.mem_filter.1 mem).2
      cases message <;> first | rfl | cases fills
    have live : ((rest.filter ServerMessage.fillsGeneral).filterMap
        (ServerMessage.liveIn defaultRoomId)).Sublist (chats rest) := by
      rw [filterMap_liveIn]
      exact List.filter_sublist.trans (List.filter_sublist.filterMap _)
    rw [received, Option.map_some, Option.getD_some]
    refine once.sublist (List.Sublist.map _ ((ChatApp.shown_foldl keeps).trans ?_))
    rw [← general, ChatApp.shown_new, general]
    exact List.Sublist.append_left live _

/-- The general rooms of the clients, as numbers. -/
def generalNumbers (gateway : Gateway) : List (List ℕ) :=
  gateway.conns.map fun conn => conn.generalView.map ChatRecord.sequence

/-- A check that implies `EntersApart`: while a history is to be read, nothing is
to be broadcast and nothing is on the channel of the session. -/
def entersAlone (gateway : Gateway) : Bool :=
  gateway.conns.all fun c => match c.task with
    | .loadingHistory _ _ me _ _ => gateway.conns.all (·.task.pending.isNone) &&
        gateway.groups.all fun group => group.clients.all fun client =>
          client.peer.sessionId != me.peer.sessionId || (chats client.sender.log).isEmpty
    | _ => true

theorem entersApart_of_check (prims : Primitives) (action : Action) (h : gateway.entersAlone = true) :
    EntersApart prims gateway action := by
  intro c hc _ _ g entry me members rooms task history _ m _
  have alone := List.all_eq_true.1 h c hc
  rw [task] at alone
  obtain ⟨quiet, empty⟩ := Bool.and_eq_true_iff.1 alone
  refine ⟨fun d hd g' m' pending => ?_, ?_⟩
  · have none := List.all_eq_true.1 quiet d hd
    rw [pending] at none
    cases none
  · rintro client ⟨group, inGroups, -, entry, same⟩ m' queued
    have nothing := List.all_eq_true.1 (List.all_eq_true.1 empty group inGroups) client entry
    rw [same, bne_self_eq_false, Bool.false_or, List.isEmpty_iff] at nothing
    rw [nothing] at queued
    cases queued

theorem entersApart_of_undisturbed (prims : Primitives) (action : Action)
    (h : gateway.isUndisturbed = true) : EntersApart prims gateway action := by
  intro c hc _ _ g entry me members rooms task history _ m _
  refine ⟨fun d hd g' m' pending => ?_, ?_⟩
  · obtain ⟨me, used, violations, task⟩ := Task.pending_iff.1 pending
    have none := isUndisturbed_handler h hd
    rw [task] at none
    cases none
  · rintro client ⟨group, inGroups, -, entry, same⟩ m' queued
    obtain ⟨message, sent, isChat⟩ := List.mem_filterMap.1 queued
    have joins := List.all_eq_true.1 (List.all_eq_true.1 (List.all_eq_true.1
      (Bool.and_eq_true_iff.1 h).2 group inGroups) client entry) message sent
    cases message with
    | chat => cases joins
    | _ => cases isChat

theorem general_shown_once_after_broadcast : ∃ gateway, Reachable .checksummed gateway ∧
    gateway.generalNumbers = [[], [1, 2]] ∧
    ∀ c ∈ gateway.conns, (c.generalView.map ChatRecord.messageId).Nodup := by
  have ran : (exec (step .checksummed) entersAlone founded
      (posts 1 50 ++ advances 1 1 ++ authorizes 2 30 ++ enters 2 40 ++ posts 1 51 ++ advances 1 1 ++
        [.flush 2])).any (fun gateway => gateway.generalNumbers = [[], [1, 2]]) = true := by
    decide +kernel
  obtain ⟨gateway, ran, numbers⟩ := (Option.any_eq_true _ _).1 ran
  have before := run_founded.mono fun _ action undisturbed =>
    entersApart_of_undisturbed .checksummed action undisturbed
  have run := before.append (run_of_exec (fun _ => entersApart_of_check .checksummed) ran)
  exact ⟨gateway, ⟨_, _, spawned_blank, run.mono fun _ _ _ => trivial⟩, of_decide_eq_true numbers,
    general_shown_once spawned_blank run⟩

/-- A message that is stored when the history of a `Welcome` is read, and
broadcast after that, is shown twice. -/
theorem general_shown_twice : ¬ ∀ gateway, Reachable .checksummed gateway →
    (∀ g s client, gateway.Seat g s client → client.sender.dropped = false) →
    ∀ c ∈ gateway.conns, (c.generalView.map ChatRecord.messageId).Nodup := by
  intro claim
  obtain ⟨gateway, reachable, checked⟩ := exists_reachable reachable_founded
    (authorizes 2 30 ++ [.advance 2 (drawn 40) false] ++ advances 2 1 ++ posts 1 50 ++ advances 2 1 ++
      advances 1 1 ++ advances 2 2 ++ [.flush 2])
    (fun gateway => gateway.groups.all (fun group => group.clients.all fun client =>
        !client.sender.dropped) &&
      gateway.conns.any fun c => !decide ((c.generalView.map ChatRecord.messageId).Nodup))
    (by decide +kernel)
  obtain ⟨roomy, checked⟩ := Bool.and_eq_true_iff.1 checked
  obtain ⟨c, hc, twice⟩ := List.any_eq_true.1 checked
  have nodup := claim gateway reachable (fun g s client ⟨group, inGroups, _, entry, _⟩ => by
    simpa using List.all_eq_true.1 (List.all_eq_true.1 roomy group inGroups) client entry) c hc
  simp [nodup] at twice

end Gateway

end LanChat
