import LanChat.Client.Keys

/-!
# What a key can do

Every result of `ChatApp::handle_key`, said once: what becomes of the rooms, the
private chats and the draft, and which keys ask the gateway for something.
-/

namespace LanChat

/-- The text of a chat message. -/
def ClientMessage.said : ClientMessage → Option String
  | .chat _ _ text | .privateChat _ _ text => some text
  | _ => none

/-- A request for something else than history. -/
def ClientMessage.manages : ClientMessage → Bool
  | .chat _ _ _ | .privateChat _ _ _ | .loadHistory _ _ _ => false
  | _ => true

def ChatKeyAction.isPrivate : ChatKeyAction → Bool
  | .send (.privateChat _ _ _) => true
  | _ => false

/-- Backspace, and the key that deletes a word. -/
def KeyEvent.edits (key : KeyEvent) : Prop := key.code = .backspace ∨ key.control ∧ key.code = .char 'w'

namespace ChatApp

/-- Keys go to the message being written. -/
def Writing (app : ChatApp) : Prop := app.overlay = none ∧ (app.focusMode = true ∨ app.focus = .input)

/-- The keys of an overlay that ask the gateway for something. -/
inductive OverlayAsks (app : ChatApp) (code : KeyCode) : ChatOverlay → Prop where
  | createRoom {name clean : String} {visibility : RoomVisibility} :
      code = .enter → sanitizeRoomName name = .ok clean → OverlayAsks app code (.createRoom name visibility)
  | joinRequests {requests : List JoinRequestSummary} {selected : ℕ} {loading : Bool} :
      code ∈ [.char 'r', .char 'R'] → OverlayAsks app code (.joinRequests requests selected loading)
  | decide {requests : List JoinRequestSummary} {selected : ℕ} :
      code ∈ [.enter, .char 'a', .char 'A', .delete, .char 'd', .char 'D'] → selected < requests.length →
      OverlayAsks app code (.joinRequests requests selected false)
  | members {members : List GroupMemberSummary} {selected offset : ℕ} {loading hasMore : Bool} :
      code ∈ [.char 'r', .char 'R'] →
      OverlayAsks app code (.groupMembers members selected loading offset hasMore)
  | nextMembers {members : List GroupMemberSummary} {selected offset : ℕ} :
      code = .pageDown → OverlayAsks app code (.groupMembers members selected false offset true)
  | previousMembers {members : List GroupMemberSummary} {selected offset : ℕ} {hasMore : Bool} :
      code = .pageUp → 0 < offset →
      OverlayAsks app code (.groupMembers members selected false offset hasMore)
  | ban {members : List GroupMemberSummary} {selected offset : ℕ} {hasMore : Bool}
      (member : GroupMemberSummary) :
      code ∈ [.enter, .char 'b', .char 'B'] → members[selected]? = some member → member.role ≠ .admin →
      OverlayAsks app code (.groupMembers members selected false offset hasMore)
  | roomMembers {roomId : String} {members : List RoomMemberSummary} {selected offset : ℕ}
      {loading hasMore : Bool} :
      code ∈ [.char 'r', .char 'R'] →
      OverlayAsks app code (.roomMembers roomId members selected loading offset hasMore)
  | nextRoomMembers {roomId : String} {members : List RoomMemberSummary} {selected offset : ℕ} :
      code = .pageDown → OverlayAsks app code (.roomMembers roomId members selected false offset true)
  | previousRoomMembers {roomId : String} {members : List RoomMemberSummary} {selected offset : ℕ}
      {hasMore : Bool} :
      code = .pageUp → 0 < offset →
      OverlayAsks app code (.roomMembers roomId members selected false offset hasMore)
  | includes {roomId : String} {members : List RoomMemberSummary} {selected offset : ℕ} {hasMore : Bool}
      (member : RoomMemberSummary) :
      code ∈ [.enter, .char ' '] → members[selected]? = some member →
      (member.isOwner || member.groupRole = .admin) = false →
      OverlayAsks app code (.roomMembers roomId members selected false offset hasMore)
  | rotate {selected : ℕ} :
      code ∈ [.char 'y', .char 'Y'] → selected < (tokenRotationChoices app.role app.accessMode).length →
      OverlayAsks app code (.rotateTokens selected true)

/-- The key that asks for the messages before the `first` of a room. -/
structure AsksOlder (app : ChatApp) (code : KeyCode) (roomId : String) (room : RoomView) (first : ChatRecord) :
    Prop where
  code : code = .pageUp
  writing : app.Writing
  active : app.active = .room roomId
  found : app.rooms[roomId]? = some room
  more : (room.hasMoreHistory && !room.loadingHistory) = true
  oldest : room.items.findSome? UiItem.record = some first

/-- The keys that ask the gateway for something. -/
inductive Asks (app : ChatApp) (code : KeyCode) : Prop where
  | overlay (overlay : ChatOverlay) : app.overlay = some overlay → app.OverlayAsks code overlay → Asks app code
  | older {roomId : String} {room : RoomView} {first : ChatRecord} :
      app.AsksOlder code roomId room first → Asks app code
  | joinRequests : code = .f 4 → app.overlay = none → app.focusMode = false → app.role = .admin → Asks app code
  | roomMembers {roomId : String} : code = .f 5 → app.overlay = none → app.focusMode = false →
      app.active = .room roomId → app.rooms[roomId]?.any (·.summary.visibility = .isPrivate) = true →
      Asks app code
  | members : code = .f 6 → app.overlay = none → app.focusMode = false → app.role = .admin → Asks app code
  | leaveRoom {roomId : String} : code = .delete → app.overlay = none → app.focusMode = false →
      app.focus = .conversations →
      app.conversationEntries[app.selectedConversation]? = some (.room roomId) → Asks app code
  | joinRoom {roomId : String} : code = .enter → app.overlay = none → app.focusMode = false →
      app.focus = .conversations →
      app.conversationEntries[app.selectedConversation]? = some (.room roomId) →
      app.rooms[roomId]?.any (·.joined) = false → Asks app code

/-- What only moves on the screen leaves as it is. -/
structure SameViews (app app' : ChatApp) : Prop where
  sessionId : app'.sessionId = app.sessionId
  members : app'.members = app.members
  rooms : app'.rooms = app.rooms
  privateChats : app'.privateChats = app.privateChats
  input : app'.input = app.input

/-- The chat with a member. -/
def openChat (app : ChatApp) (peerId : Uuid) (nickname : String) : ChatApp :=
  let view : PrivateView :=
    { peer := { sessionId := peerId, memberId := ⟨0⟩, nickname, direct := none }
      items := [], status := none, unread := 0, online := true }
  let opened := { app with privateChats := app.privateChats.insertIfNew peerId view }
  { (opened.activate (.privateChat peerId)).syncConversationSelection with
    focus := .input, status := "发送第一条消息后，需要等待对方回复一句" }

/-- **What a key can do.** -/
inductive KeyAfter (app : ChatApp) (draw : Uuid) (key : KeyEvent) : ChatApp → ChatKeyAction → Prop where
  | screen {app' : ChatApp} : app.SameViews app' → KeyAfter app draw key app' .none
  | left {action : ChatKeyAction} : action = .back ∨ action = .quit → KeyAfter app draw key app action
  | wrote (input : String) : key.edits ∨ input ≠ "" → KeyAfter app draw key { app with input } .none
  | cleared : KeyAfter app draw key app.clearActiveView .none
  | entered (target : ConversationTarget) :
      KeyAfter app draw key { app.activate target with focus := .input } .none
  | opened {peerId : Uuid} {nickname : String} :
      (peerId, nickname) ∈ app.memberEntries → KeyAfter app draw key (app.openChat peerId nickname) .none
  | asked {app' : ChatApp} {message : ClientMessage} :
      app.SameViews app' → message.manages = true → app.Asks key.code →
      KeyAfter app draw key app' (.send message)
  | older {roomId : String} {room : RoomView} {first : ChatRecord} (scrollFromBottom : ℕ) (status : String) :
      app.AsksOlder key.code roomId room first →
      KeyAfter app draw key
        { app with
          scrollFromBottom, status
          rooms := app.rooms.insert roomId { room with loadingHistory := true } }
        (.send (.loadHistory roomId first.sequence 100))
  | said {roomId text : String} :
      sanitizeChatText app.input = .ok text → KeyAfter app draw key app (.send (.chat roomId draw text))
  | whispered {peerId : Uuid} {chat : PrivateView} {text : String} :
      key.code = .enter → app.Writing → app.active = .privateChat peerId →
      sanitizeChatText app.input = .ok text → app.privateChats[peerId]? = some chat → chat.online = true →
      chat.status ≠ some (.awaitingReply app.sessionId) →
      KeyAfter app draw key
        { app with
          privateChats := app.privateChats.insert peerId
            { chat with status := some (chat.status.getD (.awaitingReply app.sessionId)) } }
        (.send (.privateChat peerId draw text))

section
variable {app app' : ChatApp} {action : ChatKeyAction} {message : ClientMessage} {draw : Uuid} {key : KeyEvent}
  {result : Option (ChatApp × ChatKeyAction)}

theorem sameViews_sync : app.SameViews app.syncConversationSelection := by
  unfold syncConversationSelection
  split <;> exact ⟨rfl, rfl, rfl, rfl, rfl⟩

variable (app draw key) in
/-- A key handler whose every result is one of these. -/
def Effects (result : Option (ChatApp × ChatKeyAction)) : Prop :=
  ∀ r, result = some r → app.KeyAfter draw key r.1 r.2

theorem effects_none : app.Effects draw key none := fun _ h => by cases h

theorem effects_some (after : app.KeyAfter draw key app' action) : app.Effects draw key (some (app', action)) :=
  fun _ same => Option.some.inj same ▸ after

theorem effects_screen (same : app.SameViews app') : app.Effects draw key (some (app', .none)) :=
  effects_some (.screen same)

theorem effects_ask (same : app.SameViews app') (manages : message.manages = true) (asks : app.Asks key.code) :
    app.Effects draw key (some (app', .send message)) := effects_some (.asked same manages asks)

theorem effects_bind {α : Type} {found : Option α} {next : α → Option (ChatApp × ChatKeyAction)}
    (each : ∀ x, found = some x → app.Effects draw key (next x)) : app.Effects draw key (found >>= next) := by
  cases found with
  | none => exact effects_none
  | some x => exact each x rfl

theorem effects_stay : app.Effects draw key app.stay := effects_screen ⟨rfl, rfl, rfl, rfl, rfl⟩

theorem effects_notify {status : String} : app.Effects draw key (app.notify status) :=
  effects_screen ⟨rfl, rfl, rfl, rfl, rfl⟩

theorem effects_closeOverlay : app.Effects draw key app.closeOverlay :=
  effects_screen ⟨rfl, rfl, rfl, rfl, rfl⟩

theorem effects_setOverlay {overlay : ChatOverlay} : app.Effects draw key (app.setOverlay overlay).stay :=
  effects_screen ⟨rfl, rfl, rfl, rfl, rfl⟩

/-- An overlay that shows its request as under way. -/
theorem effects_load {overlay overlay' : ChatOverlay} (opened : app.overlay = some overlay)
    (manages : message.manages = true) (asks : app.OverlayAsks key.code overlay) :
    app.Effects draw key (some (app.setOverlay overlay', .send message)) :=
  effects_ask ⟨rfl, rfl, rfl, rfl, rfl⟩ manages (.overlay overlay opened asks)

/-! ### Keys of the overlays -/

theorem handleCreateRoomKey_effects {name : String} {visibility : RoomVisibility}
    (opened : app.overlay = some (.createRoom name visibility)) :
    app.Effects draw key (app.handleCreateRoomKey key name visibility) := by
  unfold handleCreateRoomKey
  split
  · exact effects_closeOverlay
  · exact effects_setOverlay
  · exact effects_setOverlay
  · next code =>
    split
    · next clean sanitized =>
      exact effects_ask ⟨rfl, rfl, rfl, rfl, rfl⟩ rfl (.overlay _ opened (.createRoom code sanitized))
    · exact effects_notify
  · split
    · exact effects_setOverlay
    · exact effects_stay
  · exact effects_stay

theorem handleNoticeKey_effects : app.Effects draw key (app.handleNoticeKey key) := by
  unfold handleNoticeKey
  split
  · exact effects_closeOverlay
  · exact effects_closeOverlay
  · exact effects_stay

theorem handleJoinRequestsKey_effects {requests : List JoinRequestSummary} {selected : ℕ} {loading : Bool}
    (opened : app.overlay = some (.joinRequests requests selected loading)) :
    app.Effects draw key (app.handleJoinRequestsKey key requests selected loading) := by
  have decides (approve : Bool)
      (mem : key.code ∈ [.enter, .char 'a', .char 'A', .delete, .char 'd', .char 'D']) :
      app.Effects draw key (if !requests.isEmpty && !loading then do
          let request ← requests[selected]?
          some (app.setOverlay (.joinRequests requests selected true),
            ChatKeyAction.send (.decideJoinRequest request.requestId approve))
        else app.stay) := by
    split
    · next ready =>
      obtain rfl : loading = false := by simp_all
      refine effects_bind fun request found => effects_load opened rfl ?_
      exact .decide mem (List.getElem?_eq_some_iff.1 found).1
    · exact effects_stay
  unfold handleJoinRequestsKey
  simp only
  split
  · exact effects_closeOverlay
  · exact effects_setOverlay
  · exact effects_setOverlay
  · exact effects_setOverlay
  · exact effects_setOverlay
  · next code => exact effects_load opened rfl (.joinRequests (by simp [code]))
  · next code => exact effects_load opened rfl (.joinRequests (by simp [code]))
  all_goals first
    | exact effects_stay
    | next code => exact decides _ (by simp [code])

theorem handleGroupMembersKey_effects {members : List GroupMemberSummary} {selected : ℕ} {loading : Bool}
    {offset : ℕ} {hasMore : Bool} (opened : app.overlay = some (.groupMembers members selected loading offset hasMore)) :
    app.Effects draw key (app.handleGroupMembersKey key members selected loading offset hasMore) := by
  have bans (mem : key.code ∈ [.enter, .char 'b', .char 'B']) :
      app.Effects draw key (if !members.isEmpty && !loading then do
          let member ← members[selected]?
          if member.role = .admin then app.notify "不能封禁群组管理员"
          else some (app.setOverlay (.groupMembers members selected true offset hasMore),
            ChatKeyAction.send (.setMemberBanned member.memberId (member.status = .active)))
        else app.stay) := by
    split
    · next ready =>
      obtain rfl : loading = false := by simp_all
      refine effects_bind fun member found => ?_
      split
      · exact effects_notify
      · next plain => exact effects_load opened rfl (.ban member mem found plain)
    · exact effects_stay
  unfold handleGroupMembersKey
  simp only
  split
  · exact effects_closeOverlay
  · exact effects_setOverlay
  · exact effects_setOverlay
  · exact effects_setOverlay
  · exact effects_setOverlay
  · next code => exact effects_load opened rfl (.members (by simp [code]))
  · next code => exact effects_load opened rfl (.members (by simp [code]))
  · next code =>
    split
    · next turns =>
      obtain ⟨rfl, rfl⟩ : hasMore = true ∧ loading = false := by simpa using turns
      exact effects_load opened rfl (.nextMembers code)
    · exact effects_stay
  · next code =>
    split
    · next turns =>
      obtain ⟨later, rfl⟩ : 0 < offset ∧ loading = false := by simpa using turns
      exact effects_load opened rfl (.previousMembers code later)
    · exact effects_stay
  all_goals first
    | exact effects_stay
    | next code => exact bans (by simp [code])

theorem handleRoomMembersKey_effects {roomId : String} {members : List RoomMemberSummary} {selected : ℕ}
    {loading : Bool} {offset : ℕ} {hasMore : Bool}
    (opened : app.overlay = some (.roomMembers roomId members selected loading offset hasMore)) :
    app.Effects draw key (app.handleRoomMembersKey key roomId members selected loading offset hasMore) := by
  have admits (mem : key.code ∈ [.enter, .char ' ']) :
      app.Effects draw key (if !members.isEmpty && !loading then do
          let member ← members[selected]?
          if member.isOwner || member.groupRole = .admin then
            app.notify "房主与群组管理员始终保留访问权限"
          else some (app.setOverlay (.roomMembers roomId members selected true offset hasMore),
            ChatKeyAction.send (.setRoomMember roomId member.memberId (!member.included)))
        else app.stay) := by
    split
    · next ready =>
      obtain rfl : loading = false := by simp_all
      refine effects_bind fun member found => ?_
      split
      · exact effects_notify
      · next plain => exact effects_load opened rfl (.includes member mem found (by simpa using plain))
    · exact effects_stay
  unfold handleRoomMembersKey
  simp only
  split
  · exact effects_closeOverlay
  · exact effects_setOverlay
  · exact effects_setOverlay
  · exact effects_setOverlay
  · exact effects_setOverlay
  · next code => exact effects_load opened rfl (.roomMembers (by simp [code]))
  · next code => exact effects_load opened rfl (.roomMembers (by simp [code]))
  · next code =>
    split
    · next turns =>
      obtain ⟨rfl, rfl⟩ : hasMore = true ∧ loading = false := by simpa using turns
      exact effects_load opened rfl (.nextRoomMembers code)
    · exact effects_stay
  · next code =>
    split
    · next turns =>
      obtain ⟨later, rfl⟩ : 0 < offset ∧ loading = false := by simpa using turns
      exact effects_load opened rfl (.previousRoomMembers code later)
    · exact effects_stay
  all_goals first
    | exact effects_stay
    | next code => exact admits (by simp [code])

theorem handleRotateTokensKey_effects {selected : ℕ} {confirming : Bool}
    (opened : app.overlay = some (.rotateTokens selected confirming)) :
    app.Effects draw key (app.handleRotateTokensKey key selected confirming) := by
  have rotates (mem : key.code ∈ [.char 'y', .char 'Y']) :
      app.Effects draw key (if confirming then do
        let kind ← (tokenRotationChoices app.role app.accessMode)[selected]?
        some (app, ChatKeyAction.send (.rotateGroupToken kind))
      else app.stay) := by
    split
    · next confirmed =>
      subst confirmed
      refine effects_bind fun kind found => effects_ask ⟨rfl, rfl, rfl, rfl, rfl⟩ rfl (.overlay _ opened ?_)
      exact .rotate mem (List.getElem?_eq_some_iff.1 found).1
    · exact effects_stay
  unfold handleRotateTokensKey
  simp only
  split
  · exact effects_closeOverlay
  · exact effects_setOverlay
  · exact effects_setOverlay
  · exact effects_setOverlay
  · exact effects_setOverlay
  · exact effects_screen ⟨rfl, rfl, rfl, rfl, rfl⟩
  · next code => exact rotates (by simp [code])
  · next code => exact rotates (by simp [code])
  · exact effects_stay

theorem handleOverlayKey_effects {overlay : ChatOverlay} (opened : app.overlay = some overlay) :
    app.Effects draw key (app.handleOverlayKey key overlay) := by
  cases overlay with
  | createRoom => exact handleCreateRoomKey_effects opened
  | joinRequests => exact handleJoinRequestsKey_effects opened
  | groupMembers => exact handleGroupMembersKey_effects opened
  | roomMembers => exact handleRoomMembersKey_effects opened
  | rotateTokens => exact handleRotateTokensKey_effects opened
  | issuedCredentials | rotatedToken => exact handleNoticeKey_effects

/-! ### Keys of the panes -/

theorem prepareMessage_effects (enter : key.code = .enter) (writing : app.Writing) :
    app.Effects draw key (app.prepareMessage draw) := by
  unfold prepareMessage
  split
  · exact effects_notify
  · next text clean =>
    split
    · split
      · exact effects_some (.said clean)
      · exact effects_notify
    · next peerId active =>
      split
      · exact effects_stay
      · next chat found =>
        split
        · exact effects_notify
        · next online =>
          split
          · exact effects_notify
          · next unlocked =>
            exact effects_some (.whispered enter writing active clean found (by simpa using online) unlocked)

theorem typed_ne_empty {input : String} {limit : ℕ} {ch : Char}
    (pushed : typed key app.input limit ch = some input) : input ≠ "" := by
  rintro rfl
  unfold typed at pushed
  split at pushed
  · have letters := congrArg String.toList (Option.some.inj pushed)
    rw [String.toList_push] at letters
    simp at letters
  · cases pushed

theorem handleInputKey_effects (writing : app.Writing) :
    app.Effects draw key (app.handleInputKey draw key) := by
  have scrolled (scrollFromBottom : ℕ) : app.Effects draw key (stay { app with scrollFromBottom }) :=
    @effects_screen app { app with scrollFromBottom } draw key ⟨rfl, rfl, rfl, rfl, rfl⟩
  unfold handleInputKey
  cases code : key.code with
  | enter =>
    simp only
    split
    · exact effects_stay
    · exact prepareMessage_effects code writing
  | backspace => exact effects_some (.wrote _ (.inl (.inl code)))
  | char ch =>
    simp only
    split
    · next input typed => exact effects_some (.wrote input (.inr (typed_ne_empty typed)))
    · exact effects_stay
  | pageUp =>
    simp only
    split
    · exact scrolled _
    · next roomId active =>
      split
      · exact scrolled _
      · next room found =>
        split
        · next more =>
          split
          · exact scrolled _
          · next first oldest =>
            exact effects_some (.older _ _ ⟨code, writing, active, found, more, oldest⟩)
        · exact scrolled _
  | pageDown | endKey => exact scrolled _
  | _ => exact effects_stay

theorem handleConversationKey_effects (closed : app.overlay = none) (full : app.focusMode = false)
    (focus : app.focus = .conversations) :
    app.Effects draw key (app.handleConversationKey key) := by
  have moved (selectedConversation : ℕ) : app.Effects draw key (stay { app with selectedConversation }) :=
    @effects_screen app { app with selectedConversation } draw key ⟨rfl, rfl, rfl, rfl, rfl⟩
  unfold handleConversationKey
  simp only
  split
  · exact moved _
  · exact moved _
  · exact moved _
  · exact moved _
  · exact effects_setOverlay
  · exact effects_setOverlay
  · next code =>
    split
    · next roomId row =>
      exact effects_ask ⟨rfl, rfl, rfl, rfl, rfl⟩ rfl (.leaveRoom code closed full focus row)
    · exact effects_stay
  · next code =>
    split
    · exact effects_stay
    · next roomId row =>
      split
      · exact effects_some (.entered _)
      · next apart =>
        exact effects_ask ⟨rfl, rfl, rfl, rfl, rfl⟩ rfl
          (.joinRoom code closed full focus row (by simpa using apart))
    · exact effects_some (.entered _)
  · exact effects_stay

theorem handleMemberKey_effects : app.Effects draw key (app.handleMemberKey key) := by
  have moved (selectedMember : ℕ) : app.Effects draw key (stay { app with selectedMember }) :=
    @effects_screen app { app with selectedMember } draw key ⟨rfl, rfl, rfl, rfl, rfl⟩
  unfold handleMemberKey
  simp only
  split
  · exact moved _
  · exact moved _
  · exact moved _
  · exact moved _
  · split
    · exact effects_stay
    · next row => exact effects_some (.opened (List.mem_of_getElem? row))
  · exact effects_stay

theorem handlePaneKey_effects (closed : app.overlay = none) (full : app.focusMode = false) :
    app.Effects draw key (app.handlePaneKey draw key) := by
  unfold handlePaneKey
  extract_lets pane
  have focused : app.Effects draw key pane := by
    unfold pane
    split
    · next focus => exact handleInputKey_effects ⟨closed, .inr focus⟩
    · next focus => exact handleConversationKey_effects closed full focus
    · exact handleMemberKey_effects
  split
  · exact effects_some (.left (.inl rfl))
  · exact effects_setOverlay
  · next code =>
    split
    · next admin => exact effects_ask ⟨rfl, rfl, rfl, rfl, rfl⟩ rfl (.joinRequests code closed full admin)
    · exact focused
  · next code =>
    split
    · exact effects_notify
    · next roomId active =>
      split
      · next hidden =>
        exact effects_ask ⟨rfl, rfl, rfl, rfl, rfl⟩ rfl (.roomMembers code closed full active hidden)
      · exact effects_notify
  · next code =>
    split
    · next admin => exact effects_ask ⟨rfl, rfl, rfl, rfl, rfl⟩ rfl (.members code closed full admin)
    · exact focused
  · exact effects_setOverlay
  · exact effects_screen ⟨rfl, rfl, rfl, rfl, rfl⟩
  · exact effects_screen ⟨rfl, rfl, rfl, rfl, rfl⟩
  · exact focused

/-- **Every key does one of these.** -/
theorem handleKey_effects : app.Effects draw key (app.handleKey draw key) := by
  unfold handleKey
  split
  · next overlay opened => exact handleOverlayKey_effects opened
  · next closed =>
    split
    · exact effects_screen ⟨rfl, rfl, rfl, rfl, rfl⟩
    · unfold handleViewKey
      split
      · exact effects_some (.left (.inr rfl))
      · split
        · exact effects_some .cleared
        · split
          · next word =>
            have word : (key.control = true ∧ key.code = .char 'w') ∧ app.focus = .input := by simpa using word
            exact effects_some (.wrote _ (.inl (.inr word.1)))
          · split
            · next focusMode =>
              split
              · exact effects_some (.left (.inl rfl))
              · exact handleInputKey_effects ⟨closed, .inl focusMode⟩
            · next full => exact handlePaneKey_effects closed (by simpa using full)

/-! ### The private chats -/

variable (app) in
/-- What a chat with `p` is at: its status, and whether the peer is online. -/
def standing (p : Uuid) : Option (Option PrivateConversationStatus × Bool) :=
  app.privateChats[p]?.map fun chat => (chat.status, chat.online)

variable (app) in
/-- What no key changes. -/
structure SameGroup (app' : ChatApp) : Prop where
  sessionId : app'.sessionId = app.sessionId
  members : app'.members = app.members
  rooms : ∀ r, r ∈ app'.rooms ↔ r ∈ app.rooms

variable (app) in
/-- What a key does to the private chats: nothing, a new chat with a member, or a message
to the peer of the active chat, which sets the status of a chat that has none. -/
inductive ChatsAfter (key : KeyEvent) (app' : ChatApp) : ChatKeyAction → Prop where
  | same (action : ChatKeyAction) : (∀ p, app'.standing p = app.standing p) →
      action.isPrivate = false → ChatsAfter key app' action
  | opened (q : Uuid) : q ∈ app.members → app.standing q = none →
      app'.standing q = some (none, true) → (∀ p, p ≠ q → app'.standing p = app.standing p) →
      ChatsAfter key app' .none
  | sent (q messageId : Uuid) (text : String) (status : Option PrivateConversationStatus) :
      key.code = .enter → app.Writing → app.active = .privateChat q →
      sanitizeChatText app.input = .ok text → app.standing q = some (status, true) →
      status ≠ some (.awaitingReply app.sessionId) →
      app'.standing q = some (some (status.getD (.awaitingReply app.sessionId)), true) →
      (∀ p, p ≠ q → app'.standing p = app.standing p) →
      ChatsAfter key app' (.send (.privateChat q messageId text))

theorem SameGroup.refl : app.SameGroup app := ⟨rfl, rfl, fun _ => Iff.rfl⟩

theorem SameViews.sameGroup (same : app.SameViews app') : app.SameGroup app' :=
  ⟨same.sessionId, same.members, fun r => by rw [same.rooms]⟩

theorem standing_of_chats (chats : app'.privateChats = app.privateChats) {p : Uuid} :
    app'.standing p = app.standing p := by rw [standing, chats, standing]

theorem standing_insert {chats : Std.TreeMap Uuid PrivateView} {q p : Uuid} {view : PrivateView}
    (after : app'.privateChats = chats.insert q view) (before : app.privateChats = chats) :
    app'.standing p = if q = p then some (view.status, view.online) else app.standing p := by
  simp only [standing, after, before, Std.TreeMap.getElem?_insert, Std.LawfulEqOrd.compare_eq_iff_eq]
  split <;> rfl

/-- A chat whose status and presence are kept keeps its standing. -/
theorem standing_modify {chats : Std.TreeMap Uuid PrivateView} {q p : Uuid} {change : PrivateView → PrivateView}
    (after : app'.privateChats = chats.modify q change) (before : app.privateChats = chats)
    (keeps : ∀ view, ((change view).status, (change view).online) = (view.status, view.online)) :
    app'.standing p = app.standing p := by
  simp only [standing, after, before, Std.TreeMap.getElem?_modify, Std.LawfulEqOrd.compare_eq_iff_eq]
  split
  · next same =>
    subst same
    simp [Function.comp_def, keeps]
  · rfl

theorem activate_sameGroup {target : ConversationTarget} : app.SameGroup (app.activate target) := by
  refine ⟨rfl, rfl, fun r => ?_⟩
  cases target with
  | room => exact Std.TreeMap.mem_modify
  | privateChat => exact Iff.rfl

theorem standing_activate {target : ConversationTarget} (p : Uuid) :
    (app.activate target).standing p = app.standing p := by
  cases target with
  | room => rfl
  | privateChat => exact standing_modify rfl rfl fun _ => rfl

theorem mem_memberEntries {entry : Uuid × String} (mem : entry ∈ app.memberEntries) :
    entry.1 ∈ app.members := by
  rw [memberEntries, Table.mem_orderBy, List.mem_filter] at mem
  have found : app.members[entry.1]? = some entry.2 := Std.TreeMap.mem_toList_iff_getElem?_eq_some.1 mem.1
  exact Std.TreeMap.mem_iff_isSome_getElem?.2 (by simp [found])

/-- A new chat is empty, one that is there stays as it is. -/
theorem standing_openChat {peerId : Uuid} {nickname : String} {p : Uuid} :
    (app.openChat peerId nickname).standing p =
      if peerId = p ∧ peerId ∉ app.privateChats then some (none, true) else app.standing p := by
  let view : PrivateView :=
    { peer := { sessionId := peerId, memberId := ⟨0⟩, nickname, direct := none }
      items := [], status := none, unread := 0, online := true }
  let opened := { app with privateChats := app.privateChats.insertIfNew peerId view }
  have kept : (app.openChat peerId nickname).standing p = opened.standing p :=
    (standing_of_chats sameViews_sync.privateChats).trans (standing_activate p)
  rw [kept]
  simp only [standing, opened, Std.TreeMap.getElem?_insertIfNew, Std.LawfulEqOrd.compare_eq_iff_eq]
  split <;> rfl

/-- **What a key does to the private chats.** -/
theorem KeyAfter.chats (after : app.KeyAfter draw key app' action) :
    app.SameGroup app' ∧ app.ChatsAfter key app' action := by
  cases after with
  | screen same => exact ⟨same.sameGroup, .same _ (fun p => standing_of_chats same.privateChats) rfl⟩
  | left ends => exact ⟨.refl, .same _ (fun p => rfl) (by obtain rfl | rfl := ends <;> rfl)⟩
  | wrote input _ => exact ⟨⟨rfl, rfl, fun _ => Iff.rfl⟩, .same _ (fun p => rfl) rfl⟩
  | cleared =>
    unfold clearActiveView
    split
    · exact ⟨⟨rfl, rfl, fun r => Std.TreeMap.mem_modify⟩, .same _ (fun p => rfl) rfl⟩
    · exact ⟨⟨rfl, rfl, fun r => Iff.rfl⟩, .same _ (fun p => standing_modify rfl rfl fun _ => rfl) rfl⟩
  | entered target =>
    have group : app.SameGroup (app.activate target) := activate_sameGroup
    exact ⟨⟨group.sessionId, group.members, group.rooms⟩, .same _ (@standing_activate _ target) rfl⟩
  | @opened peerId nickname listed =>
    refine ⟨⟨?_, ?_, fun r => ?_⟩, ?_⟩
    · exact sameViews_sync.sessionId
    · exact sameViews_sync.members
    · exact iff_of_eq (congrArg (r ∈ ·) sameViews_sync.rooms)
    by_cases known : peerId ∈ app.privateChats
    · exact .same _ (fun p => standing_openChat.trans (if_neg fun new => new.2 known)) rfl
    · have missing : app.standing peerId = none := by simp [standing, known]
      refine .opened peerId (mem_memberEntries listed) missing
        (standing_openChat.trans (if_pos ⟨rfl, known⟩)) fun p apart => standing_openChat.trans (if_neg ?_)
      exact fun new => apart new.1.symm
  | @asked _ message same manages _ =>
    refine ⟨same.sameGroup, .same _ (fun p => standing_of_chats same.privateChats) ?_⟩
    cases message with
    | chat | privateChat | loadHistory => cases manages
    | _ => rfl
  | @older roomId room first _ _ asks =>
    refine ⟨⟨rfl, rfl, fun r => ?_⟩, .same _ (fun p => rfl) rfl⟩
    -- the room whose history is asked for is one of the list
    have listed : roomId ∈ app.rooms := Std.TreeMap.mem_iff_isSome_getElem?.2 (by simp [asks.found])
    simp only [Std.TreeMap.mem_insert, Std.LawfulEqOrd.compare_eq_iff_eq, or_iff_right_iff_imp]
    rintro rfl
    exact listed
  | said => exact ⟨.refl, .same _ (fun p => rfl) rfl⟩
  | @whispered peerId chat text enter writing active clean found online unlocked =>
    have old : app.standing peerId = some (chat.status, true) := by simp [standing, found, online]
    refine ⟨⟨rfl, rfl, fun r => Iff.rfl⟩,
      .sent peerId draw text chat.status enter writing active clean old unlocked ?_ fun p apart => ?_⟩
    · rw [standing_insert rfl rfl, if_pos rfl]
      simp [online]
    · rw [standing_insert rfl rfl, if_neg (Ne.symm apart)]

/-- Pasting changes what is being written, and nothing else. -/
theorem paste_views (raw : String) : app.SameViews { app.paste raw with input := app.input } := by
  unfold paste
  simp only
  split
  · exact ⟨rfl, rfl, rfl, rfl, rfl⟩
  · exact ⟨rfl, rfl, rfl, rfl, rfl⟩
  · split
    · split <;> exact ⟨rfl, rfl, rfl, rfl, rfl⟩
    · exact ⟨rfl, rfl, rfl, rfl, rfl⟩

end

end ChatApp

end LanChat
