import LanChat.Client.ChatApp
import LanChat.Security

/-!
# The keys of the chat view

`ChatApp::handle_key` with its helpers. A key is its code and whether control is
held; the other modifiers are not looked at. Indexing a list that is too short
ends the program, which is `none`. `draw` is the id a new message gets.
-/

namespace LanChat

inductive KeyCode where
  | esc
  | enter
  | tab
  | backTab
  | backspace
  | delete
  | up
  | down
  | pageUp
  | pageDown
  | endKey
  | f (n : ℕ)
  | char (ch : Char)
  | other
deriving DecidableEq, Repr

structure KeyEvent where
  code : KeyCode
  control : Bool
deriving DecidableEq, Repr

inductive ChatKeyAction where
  | none
  | send (message : ClientMessage)
  | back
  | quit
deriving DecidableEq, Repr

def uiMemberPageSize : ℕ := 40
def maxRoomNameBytes : ℕ := 64

/-- `u32::MAX`, where the offset of a page stops. -/
def u32Max : ℕ := 2 ^ 32 - 1

def popChar (text : String) : String := String.ofList text.toList.dropLast

/-- `Char(ch)` adds a character that is not a control, within `limit` bytes. -/
def typed (key : KeyEvent) (text : String) (limit : ℕ) (ch : Char) : Option String :=
  if !key.control && !isControl ch && text.utf8ByteSize + ch.utf8Size ≤ limit then some (text.push ch)
  else none

def trimLastWord (input : String) : String :=
  String.ofList ((input.toList.rdropWhile isWhitespace).rdropWhile fun ch => !isWhitespace ch)

def tokenRotationChoices (role : GroupRole) (accessMode : GroupAccessMode) : List GroupTokenKind :=
  if role = .member then [.member]
  else if accessMode = .invite then [.admin, .invite]
  else [.admin]

namespace ChatApp

variable (app : ChatApp)

/-- A key that asks for nothing. -/
def stay : Option (ChatApp × ChatKeyAction) := some (app, .none)

/-- A key that is answered in the status line. -/
def notify (status : String) : Option (ChatApp × ChatKeyAction) := some ({ app with status }, .none)

def setOverlay (overlay : ChatOverlay) : ChatApp := { app with overlay := some overlay }

def closeOverlay : Option (ChatApp × ChatKeyAction) := some ({ app with overlay := none }, .none)

def moveUp (selected : ℕ) : ℕ := selected - 1

def moveDown (selected length : ℕ) : ℕ := min (selected + 1) (length - 1)

/-! ## Overlays -/

def handleCreateRoomKey (key : KeyEvent) (name : String) (visibility : RoomVisibility) :
    Option (ChatApp × ChatKeyAction) :=
  match key.code with
  | .esc => app.closeOverlay
  | .backspace => (app.setOverlay (.createRoom (popChar name) visibility)).stay
  | .tab => (app.setOverlay (.createRoom name
      (match visibility with | .isPublic => .isPrivate | .isPrivate => .isPublic))).stay
  | .enter => match sanitizeRoomName name with
    | .ok name => some ({ app with overlay := none }, .send (.createRoom name visibility))
    | .error error => app.notify error
  | .char ch => match typed key name maxRoomNameBytes ch with
    | some name => (app.setOverlay (.createRoom name visibility)).stay
    | none => app.stay
  | _ => app.stay

/-- The overlays that only wait to be closed. -/
def handleNoticeKey (key : KeyEvent) : Option (ChatApp × ChatKeyAction) :=
  match key.code with
  | .esc | .enter => app.closeOverlay
  | _ => app.stay

def handleJoinRequestsKey (key : KeyEvent) (requests : List JoinRequestSummary) (selected : ℕ)
    (loading : Bool) : Option (ChatApp × ChatKeyAction) :=
  let decide (approve : Bool) : Option (ChatApp × ChatKeyAction) :=
    if !requests.isEmpty && !loading then do
      let request ← requests[selected]?
      some (app.setOverlay (.joinRequests requests selected true),
        .send (.decideJoinRequest request.requestId approve))
    else app.stay
  match key.code with
  | .esc => app.closeOverlay
  | .up | .char 'k' => (app.setOverlay (.joinRequests requests (moveUp selected) loading)).stay
  | .down | .char 'j' =>
    (app.setOverlay (.joinRequests requests (moveDown selected requests.length) loading)).stay
  | .char 'r' | .char 'R' =>
    some (app.setOverlay (.joinRequests requests selected true), .send .listJoinRequests)
  | .enter | .char 'a' | .char 'A' => decide true
  | .delete | .char 'd' | .char 'D' => decide false
  | _ => app.stay

def handleGroupMembersKey (key : KeyEvent) (members : List GroupMemberSummary) (selected : ℕ)
    (loading : Bool) (offset : ℕ) (hasMore : Bool) : Option (ChatApp × ChatKeyAction) :=
  let load (selected offset' : ℕ) : Option (ChatApp × ChatKeyAction) :=
    some (app.setOverlay (.groupMembers members selected true offset hasMore),
      .send (.listGroupMembers offset'))
  match key.code with
  | .esc => app.closeOverlay
  | .up | .char 'k' =>
    (app.setOverlay (.groupMembers members (moveUp selected) loading offset hasMore)).stay
  | .down | .char 'j' => (app.setOverlay
      (.groupMembers members (moveDown selected members.length) loading offset hasMore)).stay
  | .char 'r' | .char 'R' => load selected offset
  | .pageDown =>
    if hasMore && !loading then load 0 (min (offset + uiMemberPageSize) u32Max) else app.stay
  | .pageUp => if 0 < offset && !loading then load 0 (offset - uiMemberPageSize) else app.stay
  | .enter | .char 'b' | .char 'B' =>
    if !members.isEmpty && !loading then do
      let member ← members[selected]?
      if member.role = .admin then app.notify "不能封禁群组管理员"
      else some (app.setOverlay (.groupMembers members selected true offset hasMore),
        .send (.setMemberBanned member.memberId (member.status = .active)))
    else app.stay
  | _ => app.stay

def handleRoomMembersKey (key : KeyEvent) (roomId : String) (members : List RoomMemberSummary)
    (selected : ℕ) (loading : Bool) (offset : ℕ) (hasMore : Bool) :
    Option (ChatApp × ChatKeyAction) :=
  let load (selected offset' : ℕ) : Option (ChatApp × ChatKeyAction) :=
    some (app.setOverlay (.roomMembers roomId members selected true offset hasMore),
      .send (.listRoomMembers roomId offset'))
  match key.code with
  | .esc => app.closeOverlay
  | .up | .char 'k' =>
    (app.setOverlay (.roomMembers roomId members (moveUp selected) loading offset hasMore)).stay
  | .down | .char 'j' => (app.setOverlay
      (.roomMembers roomId members (moveDown selected members.length) loading offset hasMore)).stay
  | .char 'r' | .char 'R' => load selected offset
  | .pageDown =>
    if hasMore && !loading then load 0 (min (offset + uiMemberPageSize) u32Max) else app.stay
  | .pageUp => if 0 < offset && !loading then load 0 (offset - uiMemberPageSize) else app.stay
  | .enter | .char ' ' =>
    if !members.isEmpty && !loading then do
      let member ← members[selected]?
      if member.isOwner || member.groupRole = .admin then
        app.notify "房主与群组管理员始终保留访问权限"
      else some (app.setOverlay (.roomMembers roomId members selected true offset hasMore),
        .send (.setRoomMember roomId member.memberId (!member.included)))
    else app.stay
  | _ => app.stay

def handleRotateTokensKey (key : KeyEvent) (selected : ℕ) (confirming : Bool) :
    Option (ChatApp × ChatKeyAction) :=
  let choices := tokenRotationChoices app.role app.accessMode
  match key.code with
  | .esc => app.closeOverlay
  | .up | .char 'k' => (app.setOverlay (.rotateTokens (moveUp selected) false)).stay
  | .down | .char 'j' =>
    (app.setOverlay (.rotateTokens (moveDown selected choices.length) false)).stay
  | .enter => (app.setOverlay (.rotateTokens selected true)).notify "按 Y 确认作废旧令牌"
  | .char 'y' | .char 'Y' =>
    if confirming then do
      let kind ← choices[selected]?
      some (app, .send (.rotateGroupToken kind))
    else app.stay
  | _ => app.stay

def handleOverlayKey (key : KeyEvent) : ChatOverlay → Option (ChatApp × ChatKeyAction)
  | .createRoom name visibility => app.handleCreateRoomKey key name visibility
  | .issuedCredentials _ => app.handleNoticeKey key
  | .joinRequests requests selected loading => app.handleJoinRequestsKey key requests selected loading
  | .groupMembers members selected loading offset hasMore =>
    app.handleGroupMembersKey key members selected loading offset hasMore
  | .roomMembers roomId members selected loading offset hasMore =>
    app.handleRoomMembersKey key roomId members selected loading offset hasMore
  | .rotateTokens selected confirming => app.handleRotateTokensKey key selected confirming
  | .rotatedToken _ _ => app.handleNoticeKey key

/-! ## The three panes -/

def activate (target : ConversationTarget) : ChatApp :=
  { app with
    active := target, scrollFromBottom := 0
    rooms := match target with
      | .room roomId => app.rooms.modify roomId fun room => { room with unread := 0 }
      | .privateChat _ => app.rooms
    privateChats := match target with
      | .room _ => app.privateChats
      | .privateChat peerId => app.privateChats.modify peerId fun chat => { chat with unread := 0 } }

def clearActiveView : ChatApp :=
  match app.active with
  | .room roomId =>
    { app with rooms := app.rooms.modify roomId fun room => { room with items := [] }
               status := "已清空本地显示" }
  | .privateChat peerId =>
    { app with
      privateChats := app.privateChats.modify peerId fun chat => { chat with items := [] }
      status := "已清空本地显示" }

def prepareMessage (draw : Uuid) : Option (ChatApp × ChatKeyAction) :=
  match sanitizeChatText app.input with
  | .error error => app.notify error
  | .ok text => match app.active with
    | .room roomId =>
      if app.rooms[roomId]?.any (·.joined) then some (app, .send (.chat roomId draw text))
      else app.notify "请先加入该房间再发送消息"
    | .privateChat peerId => match app.privateChats[peerId]? with
      | none => app.stay
      | some chat =>
        if !chat.online then app.notify "对方已离线"
        else if chat.status = some (.awaitingReply app.sessionId) then
          app.notify "需要等待对方回复一句"
        else
          let status := chat.status.getD (.awaitingReply app.sessionId)
          some ({ app with
              privateChats := app.privateChats.insert peerId { chat with status := some status } },
            .send (.privateChat peerId draw text))

def handleInputKey (draw : Uuid) (key : KeyEvent) : Option (ChatApp × ChatKeyAction) :=
  match key.code with
  | .enter => if (trim app.input.toList).isEmpty then app.stay else app.prepareMessage draw
  | .backspace => ({ app with input := popChar app.input } : ChatApp).stay
  | .char ch => match typed key app.input maxMessageBytes ch with
    | some input => ({ app with input } : ChatApp).stay
    | none => app.stay
  | .pageUp =>
    let scrolled := { app with scrollFromBottom := app.scrollFromBottom + 8 }
    match app.active with
    | .privateChat _ => scrolled.stay
    | .room roomId => match app.rooms[roomId]? with
      | none => scrolled.stay
      | some room =>
        if room.hasMoreHistory && !room.loadingHistory then
          match room.items.findSome? UiItem.record with
          | none => scrolled.stay
          | some first => some
              ({ scrolled with
                  rooms := app.rooms.insert roomId { room with loadingHistory := true }
                  status := "正在从网关载入更早的聊天记录…" },
                .send (.loadHistory roomId first.sequence 100))
        else scrolled.stay
  | .pageDown => ({ app with scrollFromBottom := app.scrollFromBottom - 8 } : ChatApp).stay
  | .endKey => ({ app with scrollFromBottom := 0 } : ChatApp).stay
  | _ => app.stay

def handleConversationKey (key : KeyEvent) : Option (ChatApp × ChatKeyAction) :=
  let entries := app.conversationEntries
  match key.code with
  | .up | .char 'k' =>
    ({ app with selectedConversation := moveUp app.selectedConversation } : ChatApp).stay
  | .down | .char 'j' =>
    ({ app with
        selectedConversation := moveDown app.selectedConversation entries.length } : ChatApp).stay
  | .char 'c' | .char 'C' => (app.setOverlay (.createRoom "" .isPublic)).stay
  | .delete => match entries[app.selectedConversation]? with
    | some (.room roomId) => some (app, .send (.leaveRoom roomId))
    | _ => app.stay
  | .enter => match entries[app.selectedConversation]? with
    | none => app.stay
    | some (.room roomId) =>
      if app.rooms[roomId]?.any (·.joined) then
        ({ app.activate (.room roomId) with focus := .input } : ChatApp).stay
      else some ({ app with status := "正在加入房间…" }, .send (.joinRoom roomId))
    | some (.privateChat peerId) =>
      ({ app.activate (.privateChat peerId) with focus := .input } : ChatApp).stay
  | _ => app.stay

def handleMemberKey (key : KeyEvent) : Option (ChatApp × ChatKeyAction) :=
  let members := app.memberEntries
  match key.code with
  | .up | .char 'k' => ({ app with selectedMember := moveUp app.selectedMember } : ChatApp).stay
  | .down | .char 'j' =>
    ({ app with selectedMember := moveDown app.selectedMember members.length } : ChatApp).stay
  | .enter => match members[app.selectedMember]? with
    | none => app.stay
    | some (peerId, nickname) =>
      let view : PrivateView :=
        { peer := { sessionId := peerId, memberId := ⟨0⟩, nickname, direct := none }
          items := [], status := none, unread := 0, online := true }
      let opened := { app with privateChats := app.privateChats.insertIfNew peerId view }
      ({ (opened.activate (.privateChat peerId)).syncConversationSelection with
          focus := .input, status := "发送第一条消息后，需要等待对方回复一句" } : ChatApp).stay
  | _ => app.stay

/-! ## All keys -/

def nextFocus : ChatFocus → ChatFocus
  | .input => .conversations
  | .conversations => .members
  | .members => .input

def previousFocus : ChatFocus → ChatFocus
  | .input => .members
  | .members => .conversations
  | .conversations => .input

/-- The keys of the full view. -/
def handlePaneKey (draw : Uuid) (key : KeyEvent) : Option (ChatApp × ChatKeyAction) :=
  let focused : Option (ChatApp × ChatKeyAction) := match app.focus with
    | .input => app.handleInputKey draw key
    | .conversations => app.handleConversationKey key
    | .members => app.handleMemberKey key
  match key.code with
  | .esc => some (app, .back)
  | .f 2 => (app.setOverlay (.createRoom "" .isPublic)).stay
  | .f 4 =>
    if app.role = .admin then
      some ({ app.setOverlay (.joinRequests [] 0 true) with status := "正在载入加入申请…" },
        .send .listJoinRequests)
    else focused
  | .f 5 => match app.active with
    | .privateChat _ => app.notify "请先选择一个私有房间"
    | .room roomId =>
      if app.rooms[roomId]?.any (·.summary.visibility = .isPrivate) then
        some (app.setOverlay (.roomMembers roomId [] 0 true 0 false), .send (.listRoomMembers roomId 0))
      else app.notify "当前房间是公开房间"
  | .f 6 =>
    if app.role = .admin then
      some (app.setOverlay (.groupMembers [] 0 true 0 false), .send (.listGroupMembers 0))
    else focused
  | .f 7 => (app.setOverlay (.rotateTokens 0 false)).stay
  | .tab => ({ app with focus := nextFocus app.focus } : ChatApp).stay
  | .backTab => ({ app with focus := previousFocus app.focus } : ChatApp).stay
  | _ => focused

/-- The keys when no overlay is open. -/
def handleViewKey (draw : Uuid) (key : KeyEvent) : Option (ChatApp × ChatKeyAction) :=
  if key.control && key.code = .char 'q' then some (app, .quit)
  else if key.control && key.code = .char 'l' then app.clearActiveView.stay
  else if key.control && key.code = .char 'w' && app.focus = .input then
    ({ app with input := trimLastWord app.input } : ChatApp).stay
  else if app.focusMode then
    if key.code = .esc then some (app, .back) else app.handleInputKey draw key
  else app.handlePaneKey draw key

def handleKey (draw : Uuid) (key : KeyEvent) : Option (ChatApp × ChatKeyAction) :=
  match app.overlay with
  | some overlay => app.handleOverlayKey key overlay
  | none =>
    if key.code = .f 3 then
      some ({ app with
          focusMode := !app.focusMode, focus := .input
          status := if !app.focusMode then "已进入精简模式，按 F3 恢复完整界面" else "已恢复完整界面" },
        .none)
    else app.handleViewKey draw key

/-- `paste`: into the name of a new room, or into the message being written. -/
def paste (raw : String) : ChatApp :=
  let pasted := sanitizePasteForInput raw
  match app.overlay with
  | some (.createRoom name visibility) =>
    app.setOverlay (.createRoom (name ++ String.ofList
      (pasted.toList.take (maxRoomNameBytes - name.utf8ByteSize))) visibility)
  | some _ => app
  | none =>
    if app.focus = .input then
      if app.input.utf8ByteSize + pasted.utf8ByteSize ≤ maxMessageBytes then
        { app with input := app.input ++ pasted }
      else { app with status := s!"消息不能超过 {maxMessageBytes} 字节" }
    else app

end ChatApp

end LanChat
