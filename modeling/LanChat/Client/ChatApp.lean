import LanChat.Base.Table
import LanChat.Protocol
import Mathlib.Data.List.Lex
import Mathlib.Data.List.Sort

/-!
# The chat view

The state of the client's chat screen in `tui.rs`, and what a server message
does to it. Maps are ordered maps, as in the source; a `SessionInfo` is the
`Welcome` it is made from. Drawing and keys are left out.
-/

namespace LanChat

def maxUiItems : ℕ := 1000

/-- Identifiers compare by their bytes. -/
instance : Ord Uuid := ⟨fun a b => compare a.bits b.bits⟩

instance : Std.TransOrd Uuid where
  eq_swap := fun {a b} => Std.OrientedOrd.eq_swap (a := a.bits) (b := b.bits)
  isLE_trans := fun {a b c} => Std.TransOrd.isLE_trans (a := a.bits) (b := b.bits) (c := c.bits)

instance : Std.LawfulEqOrd Uuid where
  eq_of_compare := fun {a b} same => by
    have bits : a.bits = b.bits := Std.LawfulEqOrd.eq_of_compare same
    cases a
    cases b
    exact congrArg Uuid.mk bits

inductive UiItem where
  | chat (message : ChatRecord)
  | notice (text : String)
deriving DecidableEq

def UiItem.record : UiItem → Option ChatRecord
  | chat message => some message
  | notice _ => none

structure RoomView where
  summary : RoomSummary
  joined : Bool
  items : List UiItem
  unread : ℕ
  hasMoreHistory : Bool
  loadingHistory : Bool
deriving DecidableEq

def RoomView.new (summary : RoomSummary) (joined : Bool) : RoomView :=
  { summary, joined, items := [], unread := 0, hasMoreHistory := false, loadingHistory := false }

structure PrivateView where
  peer : Peer
  items : List DirectRecord
  status : Option PrivateConversationStatus
  unread : ℕ
  online : Bool
deriving DecidableEq

inductive ConversationTarget where
  | room (roomId : String)
  | privateChat (sessionId : Uuid)
deriving DecidableEq, Repr

inductive ChatFocus where
  | input
  | conversations
  | members
deriving DecidableEq, Repr

inductive ChatOverlay where
  | createRoom (name : String) (visibility : RoomVisibility)
  | joinRequests (requests : List JoinRequestSummary) (selected : ℕ) (loading : Bool)
  | issuedCredentials (credentials : IssuedGroupCredentials)
  | groupMembers (members : List GroupMemberSummary) (selected : ℕ) (loading : Bool) (offset : ℕ)
      (hasMore : Bool)
  | roomMembers (roomId : String) (members : List RoomMemberSummary) (selected : ℕ) (loading : Bool)
      (offset : ℕ) (hasMore : Bool)
  | rotateTokens (selected : ℕ) (confirming : Bool)
  | rotatedToken (kind : GroupTokenKind) (token : String)
deriving DecidableEq

structure ChatApp where
  groupName : String
  accessMode : GroupAccessMode
  role : GroupRole
  sessionId : Uuid
  memberId : Uuid
  rooms : Std.TreeMap String RoomView
  privateChats : Std.TreeMap Uuid PrivateView
  members : Std.TreeMap Uuid String
  active : ConversationTarget
  selectedConversation : ℕ
  selectedMember : ℕ
  focus : ChatFocus
  overlay : Option ChatOverlay
  input : String
  status : String
  scrollFromBottom : ℕ
  connected : Bool
  focusMode : Bool

inductive ClientEvent where
  | server (message : ServerMessage)
  | disconnected (reason : String)
deriving DecidableEq

/-- The oldest item goes when the list is full. -/
def pushBounded {α : Type} (items : List α) (item : α) : List α :=
  (if items.length = maxUiItems then items.tail else items) ++ [item]

/-- `has_more_history`: the first message shown is not the first of the room. -/
def hasOlder (items : List UiItem) : Bool :=
  (items.findSome? UiItem.record).any fun message => decide (1 < message.sequence)

namespace ChatApp

variable (app : ChatApp)

def conversationEntries : List ConversationTarget :=
  (Table.orderBy (fun room : RoomView => textKey room.summary.roomName) app.rooms.values).map
      (fun room => .room room.summary.roomId) ++
    (Table.orderBy (fun chat : PrivateView => textKey chat.peer.nickname) app.privateChats.values).map
      fun chat => .privateChat chat.peer.sessionId

def memberEntries : List (Uuid × String) :=
  Table.orderBy (fun entry : Uuid × String => textKey entry.2) (app.members.toList.filter (·.1 ≠ app.sessionId))

def syncConversationSelection : ChatApp :=
  match app.conversationEntries.idxOf? app.active with
  | some index => { app with selectedConversation := index }
  | none => app

def new (session : Welcome) : ChatApp :=
  let listed : Std.TreeMap String RoomView := session.rooms.foldl (fun rooms summary =>
    rooms.insert summary.roomId (.new summary (summary.roomId = session.roomId))) ∅
  let general : RoomSummary :=
    { roomId := session.roomId, roomName := session.roomName, visibility := .isPublic }
  let rooms := (listed.insertIfNew session.roomId (.new general true)).modify session.roomId
    fun room => { room with
      items := room.items ++ session.history.map .chat
      hasMoreHistory := session.history.head?.any fun message => decide (1 < message.sequence) }
  syncConversationSelection
    { groupName := session.groupName, accessMode := session.accessMode, role := session.role
      sessionId := session.sessionId
      memberId := ((session.members.find? (·.sessionId == session.sessionId)).map (·.memberId)).getD ⟨0⟩
      rooms, privateChats := ∅
      members := session.members.foldl (fun (members : Std.TreeMap Uuid String) member =>
        members.insert member.sessionId member.nickname) ∅
      active := .room session.roomId, selectedConversation := 0, selectedMember := 0
      focus := .input, overlay := session.issuedCredentials.map .issuedCredentials, input := ""
      status := "加密连接已建立", scrollFromBottom := 0, connected := true, focusMode := false }

def pushRoomNotice (roomId notice : String) : ChatApp :=
  { app with rooms := app.rooms.modify roomId fun room =>
      { room with items := pushBounded room.items (.notice notice) } }

/-- A private message, filed under the other party. -/
def handlePrivateMessage (message : DirectRecord) (status : PrivateConversationStatus) : ChatApp :=
  let peerId := if message.sender.sessionId = app.sessionId then message.recipientSessionId
    else message.sender.sessionId
  let peer := if message.sender.sessionId = peerId then message.sender
    else { sessionId := peerId, memberId := ⟨0⟩, nickname := app.members[peerId]?.getD "未知成员",
           direct := none }
  let wasWaiting := app.privateChats[peerId]?.any fun chat =>
    decide (chat.status = some (.awaitingReply app.sessionId))
  let old := app.privateChats[peerId]?.getD
    { peer, items := [], status := none, unread := 0, online := true }
  let view := { old with
    status := some status, online := true
    unread := if app.active = .privateChat peerId then old.unread else old.unread + 1
    items := pushBounded old.items message }
  let text := match status with
    | .active => if wasWaiting then view.peer.nickname ++ " 已回复，可以继续私聊" else app.status
    | .awaitingReply _ => "私聊已发起，需要等待对方回复一句"
  syncConversationSelection
    { app with privateChats := app.privateChats.insert peerId view, status := text }

def closePrivate (sessionId : Uuid) : Std.TreeMap Uuid PrivateView :=
  app.privateChats.modify sessionId fun chat => { chat with online := false }

/-- The row that stays selected when a list is replaced by one of `length` rows. -/
def keepSelected (selected length : ℕ) : ℕ := min selected (length - 1)

/-- `handle_server_event` on a message. -/
def handleServerMessage : ServerMessage → ChatApp
  | .chat message =>
    { app with rooms := app.rooms.modify message.roomId fun room => { room with
        unread := if app.active = .room message.roomId then room.unread else room.unread + 1
        items := pushBounded room.items (.chat message) } }
  | .roomCreated room =>
    let app := { app with rooms := app.rooms.insertIfNew room.roomId (.new room false) }
    let app := if app.focus = .conversations then app else app.syncConversationSelection
    { app with status := "发现新房间，选中后按回车加入" }
  | .roomJoined room history =>
    let items := history.map UiItem.chat
    let view : RoomView :=
      { summary := room, joined := true, items, unread := 0, hasMoreHistory := hasOlder items,
        loadingHistory := false }
    { syncConversationSelection
        { app with rooms := app.rooms.insert room.roomId view, active := .room room.roomId } with
      focus := .input, status := "已加入房间" }
  | .roomLeft roomId =>
    let active := if app.active = .room roomId then .room "general" else app.active
    if app.rooms[roomId]?.any (·.summary.visibility = .isPrivate) then
      { app with active, rooms := app.rooms.erase roomId, status := "私有房间访问权限已移除" }
    else
      { app with active, rooms := app.rooms.modify roomId fun room => { room with joined := false }
                 status := "已离开房间" }
  | .historyPage roomId messages hasMore => match app.rooms[roomId]? with
    | none => app
    | some room =>
      let shown := (room.items.filterMap UiItem.record).map (·.messageId)
      let older := messages.filter fun message => decide (message.messageId ∉ shown)
      let view := { room with
        items := older.map .chat ++ room.items, hasMoreHistory := hasMore, loadingHistory := false }
      { app with
        rooms := app.rooms.insert roomId view
        scrollFromBottom := app.scrollFromBottom + messages.length
        status := if messages.isEmpty then "已到达聊天记录开头"
          else s!"已从网关载入 {messages.length} 条更早消息" }
  | .joinRequests requests =>
    let selected := match app.overlay with
      | some (.joinRequests _ selected _) => selected
      | _ => 0
    { app with
      status := if requests.isEmpty then "没有待处理的加入申请"
        else s!"{requests.length} 条待处理的加入申请"
      overlay := some (.joinRequests requests (keepSelected selected requests.length) false) }
  | .groupMembers members offset hasMore =>
    let selected := match app.overlay with
      | some (.groupMembers _ selected _ _ _) => selected
      | _ => 0
    { app with
      status := s!"共 {members.length} 名群组成员"
      overlay := some
        (.groupMembers members (keepSelected selected members.length) false offset hasMore) }
  | .roomMembers roomId members offset hasMore =>
    let selected := match app.overlay with
      | some (.roomMembers _ _ selected _ _ _) => selected
      | _ => 0
    { app with
      status := s!"共 {members.length} 名可加入私有房间的成员"
      overlay := some
        (.roomMembers roomId members (keepSelected selected members.length) false offset hasMore) }
  | .groupTokenRotated kind token =>
    { app with status := "新令牌已保存到本机", overlay := some (.rotatedToken kind token) }
  | .privateMessage message status => app.handlePrivateMessage message status
  | .privateClosed peerSessionId =>
    { app with privateChats := app.closePrivate peerSessionId, status := "对方已离开，私聊已关闭" }
  | .memberJoined member =>
    { app with members := app.members.insert member.sessionId member.nickname }.pushRoomNotice
      "general" (member.nickname ++ " 加入了群组")
  | .memberLeft sessionId =>
    let app := match app.members[sessionId]? with
      | some nickname => { app with members := app.members.erase sessionId }.pushRoomNotice
          "general" (nickname ++ " 离开了群组")
      | none => app
    { app with
      privateChats := app.closePrivate sessionId
      selectedMember := keepSelected app.selectedMember app.memberEntries.length }
  | .error code message =>
    let overlay := app.overlay.map fun
      | .joinRequests requests selected _ => .joinRequests requests selected false
      | .groupMembers members selected _ offset hasMore =>
        .groupMembers members selected false offset hasMore
      | .roomMembers roomId members selected _ offset hasMore =>
        .roomMembers roomId members selected false offset hasMore
      | other => other
    { app with overlay, status := code ++ ": " ++ message }
  | .pong => { app with status := "连接正常" }
  | .welcome _ => { app with status := "已忽略重复的欢迎消息" }
  | .gatewayWelcome _ _ _ _ => { app with status := "已忽略意外的网关欢迎消息" }
  | .joinPending _ _ _ => { app with status := "已忽略意外的待审批消息" }

def handleServerEvent : ClientEvent → ChatApp
  | .server message => app.handleServerMessage message
  | .disconnected reason =>
    { app with connected := false, status := reason ++ "，按 Esc 返回群组" }

/-! ## The messages a room shows -/

/-- The chat messages of a room's view, top to bottom. -/
def shown (roomId : String) : List ChatRecord :=
  ((app.rooms[roomId]?.map (·.items)).getD []).filterMap UiItem.record

variable {app}

@[simp] theorem rooms_sync : app.syncConversationSelection.rooms = app.rooms := by
  unfold syncConversationSelection
  split <;> rfl

@[simp] theorem members_sync : app.syncConversationSelection.members = app.members := by
  unfold syncConversationSelection
  split <;> rfl

theorem shown_of_rooms {app' : ChatApp} (rooms : app'.rooms = app.rooms) (r : String) :
    app'.shown r = app.shown r := by
  rw [shown, rooms, shown]

theorem record_pushBounded (items : List UiItem) (item : UiItem) :
    ((pushBounded items item).filterMap UiItem.record).Sublist
      (items.filterMap UiItem.record ++ item.record.toList) := by
  have single : [item].filterMap UiItem.record = item.record.toList := by cases item <;> rfl
  rw [pushBounded, List.filterMap_append, single]
  refine List.Sublist.append_right ?_ _
  split
  · exact (List.tail_sublist items).filterMap _
  · exact List.Sublist.refl _

/-- An item appended to the view of one room. -/
theorem shown_push {room : String} {item : UiItem} {change : RoomView → RoomView}
    (pushes : ∀ view, (change view).items = pushBounded view.items item) {app' : ChatApp}
    (rooms : app'.rooms = app.rooms.modify room change) (r : String) :
    (app'.shown r).Sublist (app.shown r ++ if room = r then item.record.toList else []) := by
  simp only [shown, rooms, Std.TreeMap.getElem?_modify, Std.LawfulEqOrd.compare_eq_iff_eq]
  by_cases own : room = r
  · subst own
    simp only [if_true]
    cases app.rooms[room]? with
    | none => simp
    | some view =>
      simp only [Option.map_some, Option.getD_some, pushes]
      exact record_pushBounded view.items item
  · simp [own]

/-- A message that replaces what a room shows, or adds to it at the top. -/
def rewrites (r : String) : ServerMessage → Bool
  | .roomJoined room _ => room.roomId == r
  | .historyPage roomId _ _ | .roomLeft roomId => roomId == r
  | _ => false

end ChatApp

/-- A live message of a room. -/
def ServerMessage.liveIn (r : String) : ServerMessage → Option ChatRecord
  | .chat message => if message.roomId = r then some message else none
  | _ => none

namespace ChatApp

variable {app : ChatApp}

/-- **Live messages go to the bottom.** -/
theorem shown_step {r : String} {message : ServerMessage} (keeps : rewrites r message = false) :
    ((app.handleServerMessage message).shown r).Sublist
      (app.shown r ++ (message.liveIn r).toList) := by
  have less : ∀ {app' : ChatApp}, (app'.shown r).Sublist (app.shown r) →
      (app'.shown r).Sublist (app.shown r ++ (message.liveIn r).toList) :=
    fun sublist => sublist.trans (List.sublist_append_left _ _)
  have same : ∀ {app' : ChatApp}, app'.rooms = app.rooms →
      (app'.shown r).Sublist (app.shown r ++ (message.liveIn r).toList) :=
    fun rooms => less (shown_of_rooms rooms r ▸ List.Sublist.refl _)
  cases message with
  | chat message =>
    have pushed : ((app.handleServerMessage (.chat message)).shown r).Sublist (app.shown r ++
        if message.roomId = r then (UiItem.chat message).record.toList else []) :=
      shown_push (fun view => rfl) rfl r
    by_cases own : message.roomId = r
    · simpa [ServerMessage.liveIn, own, UiItem.record] using pushed
    · simpa [ServerMessage.liveIn, own] using pushed
  | roomCreated room =>
    have rooms : (app.handleServerMessage (.roomCreated room)).rooms =
        app.rooms.insertIfNew room.roomId (.new room false) := by
      simp only [handleServerMessage]
      split <;> simp
    refine less ?_
    rw [shown, rooms, Std.TreeMap.getElem?_insertIfNew, shown]
    split
    · simp [RoomView.new]
    · exact List.Sublist.refl _
  | roomJoined room history =>
    have other : room.roomId ≠ r := by simpa [rewrites] using keeps
    have rooms : (app.handleServerMessage (.roomJoined room history)).rooms =
        app.rooms.insert room.roomId
          { summary := room, joined := true, items := history.map .chat, unread := 0,
            hasMoreHistory := hasOlder (history.map .chat), loadingHistory := false } := by
      simp [handleServerMessage]
    refine less ?_
    rw [shown, rooms, Std.TreeMap.getElem?_insert, if_neg (by simpa using other), shown]
  | roomLeft roomId =>
    have other : roomId ≠ r := by simpa [rewrites] using keeps
    refine less ?_
    simp only [handleServerMessage]
    split
    · simp [shown, Std.TreeMap.getElem?_erase, other]
    · simp [shown, Std.TreeMap.getElem?_modify, other]
  | historyPage roomId messages hasMore =>
    have other : roomId ≠ r := by simpa [rewrites] using keeps
    refine less ?_
    simp only [handleServerMessage]
    split
    · exact List.Sublist.refl _
    · simp [shown, Std.TreeMap.getElem?_insert, other]
  | memberJoined member =>
    have pushed : ((app.handleServerMessage (.memberJoined member)).shown r).Sublist (app.shown r ++
        if "general" = r then (UiItem.notice (member.nickname ++ " 加入了群组")).record.toList else []) :=
      shown_push (fun view => rfl) rfl r
    simpa [ServerMessage.liveIn, UiItem.record] using pushed
  | memberLeft sessionId =>
    cases found : app.members[sessionId]? with
    | none => exact same (by simp [handleServerMessage, found])
    | some nickname =>
      have rooms : (app.handleServerMessage (.memberLeft sessionId)).rooms =
          (app.pushRoomNotice "general" (nickname ++ " 离开了群组")).rooms := by
        simp [handleServerMessage, found, pushRoomNotice]
      have pushed : ((app.handleServerMessage (.memberLeft sessionId)).shown r).Sublist (app.shown r ++
          if "general" = r then (UiItem.notice (nickname ++ " 离开了群组")).record.toList else []) :=
        shown_push (fun view => rfl) rooms r
      simpa [ServerMessage.liveIn, UiItem.record] using pushed
  | privateMessage message status => exact same (by simp [handleServerMessage, handlePrivateMessage])
  | _ => exact same rfl

/-- **What a room shows after a stretch of messages** is what it showed before,
and below it the live messages in the order they came. -/
theorem shown_foldl {r : String} {messages : List ServerMessage}
    (keeps : ∀ message ∈ messages, rewrites r message = false) :
    ((messages.foldl handleServerMessage app).shown r).Sublist
      (app.shown r ++ messages.filterMap (ServerMessage.liveIn r)) := by
  induction messages generalizing app with
  | nil => simp
  | cons message messages ih =>
    have step : ((app.handleServerMessage message).shown r).Sublist
        (app.shown r ++ (message.liveIn r).toList) := shown_step (keeps message List.mem_cons_self)
    have joined : (message.liveIn r).toList ++ messages.filterMap (ServerMessage.liveIn r) =
        (message :: messages).filterMap (ServerMessage.liveIn r) := by
      cases live : message.liveIn r <;> simp [live]
    rw [List.foldl_cons, ← joined, ← List.append_assoc]
    exact (ih fun later mem => keeps later (List.mem_cons_of_mem _ mem)).trans (step.append_right _)

/-- The rooms listed by a `Welcome`, before its history is filled in. -/
theorem listed_rooms {roomId r : String} {view : RoomView} {summaries : List RoomSummary}
    {rooms : Std.TreeMap String RoomView}
    (base : ∀ view, rooms[r]? = some view → view.items = [] ∧ view.loadingHistory = false)
    (found : (summaries.foldl (fun rooms summary =>
      rooms.insert summary.roomId (.new summary (summary.roomId = roomId))) rooms)[r]? = some view) :
    view.items = [] ∧ view.loadingHistory = false := by
  induction summaries generalizing rooms with
  | nil => exact base view found
  | cons summary summaries ih =>
    refine ih (fun view found => ?_) found
    rw [Std.TreeMap.getElem?_insert] at found
    split at found
    · rw [← Option.some.inj found]
      exact ⟨rfl, rfl⟩
    · exact base view found

/-- **A new view** shows the history of its `Welcome`, in one room. -/
theorem view_new {session : Welcome} {r : String} {view : RoomView}
    (found : (new session).rooms[r]? = some view) :
    view.items = (if session.roomId = r then session.history.map .chat else []) ∧
      view.loadingHistory = false := by
  have listed := fun (view : RoomView) => @listed_rooms session.roomId r view session.rooms ∅ (by simp)
  simp only [new, rooms_sync, Std.TreeMap.getElem?_modify, Std.LawfulEqOrd.compare_eq_iff_eq,
    Std.TreeMap.getElem?_insertIfNew, Std.TreeMap.mem_iff_isSome_getElem?] at found
  generalize session.rooms.foldl _ _ = rooms at listed found
  by_cases own : session.roomId = r
  · subst own
    cases before : rooms[session.roomId]? with
    | none =>
      simp only [before, if_true, Option.isSome_none, Bool.false_eq_true, not_false_eq_true, and_self,
        Option.map_some, Option.some.injEq] at found
      rw [← found]
      exact ⟨(if_pos rfl).symm, rfl⟩
    | some old =>
      obtain ⟨items, loading⟩ := listed old before
      simp only [before, if_true, Option.isSome_some, not_true_eq_false, and_false, if_false,
        Option.map_some, Option.some.injEq] at found
      rw [← found]
      simp [items, loading]
  · simp only [own, if_false, false_and] at found ⊢
    exact listed view found

theorem mem_rooms_new {session : Welcome} : session.roomId ∈ (new session).rooms := by
  simp [new, Std.TreeMap.mem_modify]

/-- A new view shows the history of its `Welcome`. -/
theorem shown_new (session : Welcome) : (new session).shown session.roomId = session.history := by
  obtain ⟨view, found⟩ := Option.isSome_iff_exists.1 (Std.TreeMap.mem_iff_isSome_getElem?.1 mem_rooms_new)
  have records : (session.history.map UiItem.chat).filterMap UiItem.record = session.history := by
    rw [List.filterMap_map]
    exact List.filterMap_some
  rw [shown, found, Option.map_some, Option.getD_some, (view_new found).1, if_pos rfl, records]

/-! ## The members shown as online -/

/-- **Who is online after a message.** -/
theorem mem_members_step {message : ServerMessage} {sessionId : Uuid} :
    sessionId ∈ (app.handleServerMessage message).members ↔ match message with
      | .memberJoined member => member.sessionId = sessionId ∨ sessionId ∈ app.members
      | .memberLeft left => left ≠ sessionId ∧ sessionId ∈ app.members
      | _ => sessionId ∈ app.members := by
  cases message with
  | memberJoined member => simp [handleServerMessage, pushRoomNotice]
  | memberLeft left =>
    simp only [handleServerMessage]
    split
    · simp [pushRoomNotice]
    · rename_i missing
      have : left ∉ app.members := by simpa using missing
      constructor
      · intro mem
        refine ⟨?_, mem⟩
        rintro rfl
        exact this mem
      · exact And.right
  | roomCreated =>
    simp only [handleServerMessage]
    split <;> simp
  | roomLeft =>
    simp only [handleServerMessage]
    split <;> rfl
  | historyPage =>
    simp only [handleServerMessage]
    split <;> rfl
  | roomJoined | privateMessage => simp [handleServerMessage, handlePrivateMessage]
  | _ => rfl

theorem mem_members_new {session : Welcome} {sessionId : Uuid} :
    sessionId ∈ (new session).members ↔ ∃ member ∈ session.members, member.sessionId = sessionId := by
  have folded : ∀ (members : List Peer) (known : Std.TreeMap Uuid String),
      sessionId ∈ members.foldl
        (fun known member => known.insert member.sessionId member.nickname) known ↔
      (∃ member ∈ members, member.sessionId = sessionId) ∨ sessionId ∈ known := by
    intro members
    induction members with
    | nil => simp
    | cons member members ih =>
      intro known
      rw [List.foldl_cons, ih]
      simp [or_assoc, or_left_comm]
  simp [new, folded]

/-! ## A client that reads its connection -/

/-- `finish_connection` waits for the `Welcome`, and every message after it is
an event of the chat view. -/
def receive : Option ChatApp → ServerMessage → Option ChatApp
  | some app, message => some (app.handleServerMessage message)
  | none, .welcome session => some (new session)
  | none, _ => none

end ChatApp

/-- The chat view of a client that has read the messages. -/
def clientOf (messages : List ServerMessage) : Option ChatApp := messages.foldl ChatApp.receive none

theorem foldl_receive (messages : List ServerMessage) (app : ChatApp) :
    messages.foldl ChatApp.receive (some app) = some (messages.foldl ChatApp.handleServerMessage app) := by
  induction messages generalizing app with
  | nil => rfl
  | cons message messages ih => exact ih _

/-- Before the `Welcome` there is no chat view. -/
theorem clientOf_welcome {early rest : List ServerMessage} {session : Welcome}
    (unwelcome : ∀ message ∈ early, ∀ other, message ≠ .welcome other) :
    clientOf (early ++ .welcome session :: rest) =
      some (rest.foldl ChatApp.handleServerMessage (.new session)) := by
  have none : early.foldl ChatApp.receive none = none := by
    induction early with
    | nil => rfl
    | cons message early ih =>
      have first : ChatApp.receive none message = none := by
        cases message with
        | welcome other => exact absurd rfl (unwelcome _ List.mem_cons_self other)
        | _ => rfl
      rw [List.foldl_cons, first]
      exact ih fun later mem => unwelcome later (List.mem_cons_of_mem _ mem)
  rw [clientOf, List.foldl_append, none]
  exact foldl_receive rest _

end LanChat
