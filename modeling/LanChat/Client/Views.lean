import LanChat.Client.Draft
import LanChat.Client.Screen

/-!
# The view of a room

What messages and keys do to the view of one room, and how many items a view
holds: `push_bounded` keeps the bound only of a list that has it.
-/

namespace LanChat

open Transition

/-- The page of history at the top of a view, without the messages that it shows. -/
def RoomView.older (room : RoomView) (messages : List ChatRecord) : List ChatRecord :=
  messages.filter fun message =>
    decide (message.messageId ∉ (room.items.filterMap UiItem.record).map (·.messageId))

namespace ChatApp

section
variable {app app' : ChatApp} {action : ChatKeyAction} {message : ServerMessage} {draw : Uuid}
  {key : KeyEvent} {r : String}

/-- The view of a room after a message. -/
def viewAfter (app : ChatApp) (r : String) : ServerMessage → Option RoomView
  | .chat message => if message.roomId = r then
      app.rooms[r]?.map fun room => { room with
        unread := if app.active = .room r then room.unread else room.unread + 1
        items := pushBounded room.items (.chat message) }
    else app.rooms[r]?
  | .roomCreated room =>
    if room.roomId = r then some (app.rooms[r]?.getD (.new room false)) else app.rooms[r]?
  | .roomJoined room history => if room.roomId = r then
      some { summary := room, joined := true, items := history.map .chat, unread := 0,
             hasMoreHistory := hasOlder (history.map .chat), loadingHistory := false }
    else app.rooms[r]?
  | .roomLeft roomId => if roomId = r then
      (app.rooms[r]?.filter fun room => room.summary.visibility ≠ .isPrivate).map fun room =>
        { room with joined := false }
    else app.rooms[r]?
  | .historyPage roomId messages hasMore => if roomId = r then
      app.rooms[r]?.map fun room => { room with
        items := (RoomView.older room messages).map .chat ++ room.items, hasMoreHistory := hasMore,
        loadingHistory := false }
    else app.rooms[r]?
  | .memberJoined member => if "general" = r then
      app.rooms[r]?.map fun room => { room with
        items := pushBounded room.items (.notice (member.nickname ++ " 加入了群组")) }
    else app.rooms[r]?
  | .memberLeft sessionId => match app.members[sessionId]? with
    | some nickname => if "general" = r then
        app.rooms[r]?.map fun room => { room with
          items := pushBounded room.items (.notice (nickname ++ " 离开了群组")) }
      else app.rooms[r]?
    | none => app.rooms[r]?
  | _ => app.rooms[r]?

/-- **What a message does to the view of a room.** -/
theorem view_step : (app.handleServerMessage message).rooms[r]? = app.viewAfter r message := by
  have modified : ∀ (roomId : String) (change : RoomView → RoomView),
      (app.rooms.modify roomId change)[r]? =
        if roomId = r then app.rooms[r]?.map change else app.rooms[r]? := by
    intro roomId change
    rw [Std.TreeMap.getElem?_modify]
    simp only [Std.LawfulEqOrd.compare_eq_iff_eq]
    split
    · next same => rw [same]
    · rfl
  cases message with
  | chat message =>
    by_cases own : message.roomId = r
    · subst own
      simp [handleServerMessage, viewAfter, modified]
    · simp [handleServerMessage, viewAfter, modified, own]
  | roomCreated room =>
    have rooms : (app.handleServerMessage (.roomCreated room)).rooms =
        app.rooms.insertIfNew room.roomId (.new room false) := by
      simp only [handleServerMessage]
      split <;> simp
    rw [rooms, Std.TreeMap.getElem?_insertIfNew, viewAfter]
    by_cases own : room.roomId = r
    · subst own
      simp only [Std.LawfulEqOrd.compare_eq_iff_eq, true_and, if_true, Std.TreeMap.mem_iff_isSome_getElem?]
      cases app.rooms[room.roomId]? <;> rfl
    · simp [own]
  | roomJoined room history =>
    simp [handleServerMessage, viewAfter, Std.TreeMap.getElem?_insert]
  | roomLeft roomId =>
    by_cases own : roomId = r
    · subst own
      simp only [handleServerMessage, viewAfter, if_true]
      cases found : app.rooms[roomId]? with
      | none => simp [found]
      | some room => by_cases hidden : room.summary.visibility = .isPrivate <;> simp [found, hidden]
    · simp only [handleServerMessage, viewAfter, if_neg own]
      split
      · simp [Std.TreeMap.getElem?_erase, own]
      · simp [modified, own]
  | historyPage roomId messages hasMore =>
    simp only [handleServerMessage, viewAfter]
    by_cases own : roomId = r
    · subst own
      cases found : app.rooms[roomId]? with
      | none => simp [found]
      | some room => simp [RoomView.older]
    · cases app.rooms[roomId]? <;> simp [Std.TreeMap.getElem?_insert, own]
  | memberJoined member => simp [handleServerMessage, viewAfter, pushRoomNotice, modified]
  | memberLeft sessionId =>
    simp only [handleServerMessage, viewAfter]
    cases app.members[sessionId]? with
    | none => rfl
    | some nickname => simp [pushRoomNotice, modified]
  | privateMessage message status => simp [handleServerMessage, handlePrivateMessage, viewAfter]
  | _ => rfl

/-- What a key does to the view of a room. -/
inductive ViewAfterKey (app : ChatApp) (key : KeyEvent) (r : String) : Option RoomView → ChatKeyAction → Prop where
  | same (action : ChatKeyAction) : (∀ before limit, action ≠ .send (.loadHistory r before limit)) →
      ViewAfterKey app key r app.rooms[r]? action
  | cleared : ViewAfterKey app key r (app.rooms[r]?.map fun room => { room with items := [] }) .none
  | visited : ViewAfterKey app key r (app.rooms[r]?.map fun room => { room with unread := 0 }) .none
  | older {room : RoomView} {first : ChatRecord} : app.AsksOlder key.code r room first →
      ViewAfterKey app key r (some { room with loadingHistory := true })
        (.send (.loadHistory r first.sequence 100))

theorem KeyAfter.view (after : app.KeyAfter draw key app' action) (r : String) :
    app.ViewAfterKey key r app'.rooms[r]? action := by
  have same : ∀ {app' : ChatApp} {action : ChatKeyAction}, app'.rooms = app.rooms →
      (∀ before limit, action ≠ .send (.loadHistory r before limit)) →
      app.ViewAfterKey key r app'.rooms[r]? action :=
    fun rooms silent => rooms ▸ .same _ silent
  cases after with
  | screen views => exact same views.rooms nofun
  | left ends => exact same rfl (by obtain rfl | rfl := ends <;> nofun)
  | wrote => exact same rfl nofun
  | cleared =>
    unfold clearActiveView
    split
    · next roomId active =>
      by_cases own : roomId = r
      · subst own
        simpa [Std.TreeMap.getElem?_modify] using ViewAfterKey.cleared
      · simpa [Std.TreeMap.getElem?_modify, own] using ViewAfterKey.same .none nofun
    · exact same rfl nofun
  | entered target =>
    cases target with
    | room roomId =>
      by_cases own : roomId = r
      · subst own
        simpa [activate, Std.TreeMap.getElem?_modify] using ViewAfterKey.visited
      · simpa [activate, Std.TreeMap.getElem?_modify, own] using ViewAfterKey.same .none nofun
    | privateChat => exact same rfl nofun
  | @opened peerId nickname _ =>
    have rooms : (app.openChat peerId nickname).rooms = app.rooms := sameViews_sync.rooms
    exact same rooms nofun
  | asked views manages _ =>
    refine same views.rooms fun before limit sent => ?_
    obtain rfl := ChatKeyAction.send.inj sent
    cases manages
  | @older roomId room first _ _ asks =>
    by_cases own : roomId = r
    · subst own
      simpa using ViewAfterKey.older asks
    · have other : ∀ before limit, ChatKeyAction.send (.loadHistory roomId first.sequence 100) ≠
          .send (.loadHistory r before limit) := by
        simp [own]
      simpa [Std.TreeMap.getElem?_insert, own] using ViewAfterKey.same _ other
  | said | whispered => exact same rfl nofun

/-! ## How many items a view holds -/

variable (app) in
/-- No view holds more than `MAX_UI_ITEMS` items. -/
structure Bounded : Prop where
  rooms : ∀ (r : String) (view : RoomView), app.rooms[r]? = some view → view.items.length ≤ maxUiItems
  chats : ∀ (p : Uuid) (chat : PrivateView), app.privateChats[p]? = some chat → chat.items.length ≤ maxUiItems

/-- `push_bounded` drops one item at most: it keeps the bound of a list, and makes none. -/
theorem length_pushBounded {α : Type} {items : List α} {item : α} :
    (pushBounded items item).length ≤ maxUiItems ↔ items.length ≤ maxUiItems := by
  have limit : maxUiItems = 1000 := rfl
  rw [pushBounded, List.length_append, List.length_singleton]
  split
  · next full =>
    rw [List.length_tail]
    omega
  · next room => omega

/-- A page that fits into the view that it is for, and a history that is not longer than a view. -/
def Fits (app : ChatApp) : ServerMessage → Prop
  | .historyPage r messages _ => ∀ view, app.rooms[r]? = some view →
      (view.older messages).length + view.items.length ≤ maxUiItems
  | .roomJoined _ history => history.length ≤ maxUiItems
  | _ => True

theorem Bounded.view {r : String} {view : RoomView} (bounded : app.Bounded) (fits : app.Fits message)
    (found : app.viewAfter r message = some view) : view.items.length ≤ maxUiItems := by
  have pushed : ∀ {change : RoomView → RoomView} {item : UiItem},
      (∀ room, (change room).items = pushBounded room.items item) → app.rooms[r]?.map change = some view →
      view.items.length ≤ maxUiItems := by
    intro change item pushes found
    obtain ⟨room, before, rfl⟩ := Option.map_eq_some_iff.1 found
    rw [pushes]
    exact length_pushBounded.2 (bounded.rooms r room before)
  cases message with
  | chat message =>
    simp only [viewAfter] at found
    split at found
    · exact pushed (fun _ => rfl) found
    · exact bounded.rooms r view found
  | roomCreated room =>
    simp only [viewAfter] at found
    split at found
    · cases before : app.rooms[r]? with
      | none =>
        rw [before] at found
        cases found
        exact Nat.zero_le _
      | some old =>
        rw [before] at found
        cases found
        exact bounded.rooms r _ before
    · exact bounded.rooms r view found
  | roomJoined room history =>
    simp only [viewAfter] at found
    split at found
    · cases found
      have fits : history.length ≤ maxUiItems := fits
      simpa using fits
    · exact bounded.rooms r view found
  | roomLeft roomId =>
    simp only [viewAfter] at found
    split at found
    · obtain ⟨room, before, rfl⟩ := Option.map_eq_some_iff.1 found
      exact bounded.rooms r room (Option.filter_eq_some_iff.1 before).1
    · exact bounded.rooms r view found
  | historyPage roomId messages hasMore =>
    simp only [viewAfter] at found
    split at found
    · next own =>
      subst own
      obtain ⟨room, before, rfl⟩ := Option.map_eq_some_iff.1 found
      simpa using fits room before
    · exact bounded.rooms r view found
  | memberJoined member =>
    simp only [viewAfter] at found
    split at found
    · exact pushed (fun _ => rfl) found
    · exact bounded.rooms r view found
  | memberLeft sessionId =>
    simp only [viewAfter] at found
    split at found
    · split at found
      · exact pushed (fun _ => rfl) found
      · exact bounded.rooms r view found
    · exact bounded.rooms r view found
  | _ => exact bounded.rooms r view found

theorem Bounded.chats_modify (bounded : app.Bounded) (change : PrivateView → PrivateView)
    (less : ∀ chat, (change chat).items.length ≤ chat.items.length) {p q : Uuid} {chat : PrivateView}
    (found : (app.privateChats.modify q change)[p]? = some chat) : chat.items.length ≤ maxUiItems := by
  rw [Std.TreeMap.getElem?_modify] at found
  split at found
  · next same =>
    obtain ⟨old, before, rfl⟩ := Option.map_eq_some_iff.1 found
    exact (less old).trans (bounded.chats _ old before)
  · exact bounded.chats p chat found

theorem Bounded.chats_step {p : Uuid} {chat : PrivateView} (bounded : app.Bounded)
    (found : (app.handleServerMessage message).privateChats[p]? = some chat) :
    chat.items.length ≤ maxUiItems := by
  have same : (app.handleServerMessage message).privateChats = app.privateChats →
      chat.items.length ≤ maxUiItems := fun chats => bounded.chats p chat (chats ▸ found)
  have closed : ∀ {q : Uuid}, (app.handleServerMessage message).privateChats = app.closePrivate q →
      chat.items.length ≤ maxUiItems :=
    fun chats => bounded.chats_modify (fun chat => { chat with online := false }) (fun _ => le_rfl)
      (by rwa [chats] at found)
  cases message with
  | privateMessage message status =>
    obtain ⟨peerId, view, chats, items⟩ : ∃ peerId view,
        (app.handleServerMessage (.privateMessage message status)).privateChats =
          app.privateChats.insert peerId view ∧
        view.items = pushBounded ((app.privateChats[peerId]?.map (·.items)).getD []) message := by
      refine ⟨_, _, sameViews_sync.privateChats, ?_⟩
      cases app.privateChats[if message.sender.sessionId = app.sessionId then message.recipientSessionId
        else message.sender.sessionId]? <;> rfl
    rw [chats, Std.TreeMap.getElem?_insert] at found
    split at found
    · rw [← Option.some.inj found, items, length_pushBounded]
      cases before : app.privateChats[peerId]? with
      | none => exact Nat.zero_le _
      | some old => exact bounded.chats peerId old before
    · exact bounded.chats p chat found
  | privateClosed q => exact closed rfl
  | memberLeft q =>
    refine @closed q ?_
    simp only [handleServerMessage]
    split <;> rfl
  | roomCreated room =>
    refine same ?_
    simp only [handleServerMessage]
    split <;> simp [sameViews_sync.privateChats]
  | roomJoined => exact same (by simp [handleServerMessage, sameViews_sync.privateChats])
  | roomLeft | historyPage =>
    refine same ?_
    simp only [handleServerMessage]
    split <;> rfl
  | _ => exact same rfl

theorem Bounded.handleKey (bounded : app.Bounded) (after : app.KeyAfter draw key app' action) : app'.Bounded := by
  refine ⟨fun r view found => ?_, fun p chat found => ?_⟩
  · have views := after.view r
    rw [found] at views
    generalize held : some view = found at views
    cases views with
    | same => exact bounded.rooms r view held.symm
    | cleared =>
      obtain ⟨room, -, rfl⟩ := Option.map_eq_some_iff.1 held.symm
      exact Nat.zero_le _
    | visited =>
      obtain ⟨room, before, rfl⟩ := Option.map_eq_some_iff.1 held.symm
      exact bounded.rooms r room before
    | @older room _ asks =>
      obtain rfl := Option.some.inj held
      exact bounded.rooms r room asks.found
  · cases after with
    | screen views | asked views => exact bounded.chats p chat (views.privateChats ▸ found)
    | cleared =>
      unfold clearActiveView at found
      split at found
      · exact bounded.chats p chat found
      · exact bounded.chats_modify (fun chat => { chat with items := [] }) (fun _ => Nat.zero_le _) found
    | entered target =>
      cases target with
      | room => exact bounded.chats p chat found
      | privateChat =>
        exact bounded.chats_modify (fun chat => { chat with unread := 0 }) (fun _ => le_rfl) found
    | @opened peerId nickname _ =>
      let view : PrivateView :=
        { peer := { sessionId := peerId, memberId := ⟨0⟩, nickname, direct := none }
          items := [], status := none, unread := 0, online := true }
      let opened := { app with privateChats := app.privateChats.insertIfNew peerId view }
      have still : opened.Bounded := by
        refine ⟨bounded.rooms, fun p chat found => ?_⟩
        simp only [opened, Std.TreeMap.getElem?_insertIfNew] at found
        split at found
        · rw [← Option.some.inj found]
          exact Nat.zero_le _
        · exact bounded.chats p chat found
      have chats : (app.openChat peerId nickname).privateChats =
          opened.privateChats.modify peerId fun chat => { chat with unread := 0 } :=
        sameViews_sync.privateChats
      exact still.chats_modify (fun chat => { chat with unread := 0 }) (fun _ => le_rfl) (chats ▸ found)
    | @whispered peerId old _ _ _ _ _ before =>
      simp only [Std.TreeMap.getElem?_insert] at found
      split at found
      · rw [← Option.some.inj found]
        exact bounded.chats peerId old before
      · exact bounded.chats p chat found
    | _ => exact bounded.chats p chat found

theorem Bounded.step (bounded : app.Bounded) (fits : app.Fits message) :
    (app.handleServerMessage message).Bounded :=
  ⟨fun _ _ found => bounded.view fits (view_step ▸ found), fun _ _ => bounded.chats_step⟩

theorem bounded_new {session : Welcome} (fits : session.history.length ≤ maxUiItems) : (new session).Bounded := by
  refine ⟨fun r view found => ?_, fun p chat found => ?_⟩
  · rw [(view_new found).1]
    split
    · simpa using fits
    · exact Nat.zero_le _
  · have none : (new session).privateChats = ∅ := sameViews_sync.privateChats
    rw [none] at found
    simp at found

/-- Pages and histories that fit into the views that they are for. -/
def pagesFit (app : ChatApp) : ViewEvent → Prop
  | .server raw => ∀ message, sanitizeServerMessage raw = .ok message → app.Fits message
  | _ => True

theorem Bounded.turn {event : ViewEvent} (bounded : app.Bounded) (fits : app.pagesFit event)
    (h : app.turn event = some app') : app'.Bounded := by
  cases event with
  | server raw =>
    simp only [ChatApp.turn] at h
    split at h
    · next message accepted =>
      rw [← Option.some.inj h]
      exact bounded.step (fits message accepted)
    · cases h
  | disconnected reason =>
    rw [← Option.some.inj h]
    exact ⟨bounded.rooms, bounded.chats⟩
  | key draw event refused =>
    simp only [ChatApp.turn] at h
    obtain ⟨⟨after, action⟩, handled, h⟩ := Option.bind_eq_some_iff.1 h
    have next : after.Bounded := bounded.handleKey (handleKey_effects _ handled)
    split at h
    · exact Option.some.inj h ▸ next
    · rw [← Option.some.inj h]
      exact ⟨next.rooms, next.chats⟩
    · rw [← Option.some.inj h]
      exact ⟨next.rooms, next.chats⟩
    · cases h
    · cases h
  | paste raw =>
    have views : app.SameViews { app.paste raw with input := app.input } := paste_views raw
    rw [← Option.some.inj h]
    exact ⟨fun r view found => bounded.rooms r view (views.rooms ▸ found),
      fun p chat found => bounded.chats p chat (views.privateChats ▸ found)⟩

/-- **No view outgrows its bound**, in every run whose pages and histories fit into the views that
they are for: after a live message or a notice as after any other event. -/
theorem buffers_stay_bounded (session : Welcome) (short : session.history.length ≤ maxUiItems)
    {events : List ViewEvent} (run : Run ChatApp.turn pagesFit (.new session) events app) :
    (∀ (r : String) (view : RoomView), app.rooms[r]? = some view → view.items.length ≤ maxUiItems) ∧
    ∀ (p : Uuid) (chat : PrivateView), app.privateChats[p]? = some chat → chat.items.length ≤ maxUiItems := by
  have bounded : app.Bounded :=
    run.preserves (fun _ _ _ bounded fits taken => bounded.turn fits taken) (bounded_new short)
  exact ⟨bounded.rooms, bounded.chats⟩

theorem sanitize_greeting {n : ℕ} : sanitizeServerMessage (.chat (greeting n)) = .ok (.chat (greeting n)) := by
  have peer : sanitizePeer ana = .ok ana := by decide +kernel
  have text : sanitizeChatText "hello" = .ok "hello" := by decide +kernel
  have safe : isSafeIdentifier "general" = true := by decide +kernel
  simp only [sanitizeServerMessage, sanitizeChatRecord, greeting, peer, text, safe]
  rfl

/-- The view of a late client, with a live message and the page it then asks for. -/
theorem buffers_stay_bounded_live : ∃ (app : ChatApp) (view : RoomView),
    Run turn anyAction (.new lateWelcome) [.server (.chat (greeting 3)), .key ⟨0⟩ ⟨.pageUp, false⟩ none,
      .server (.historyPage "general" [greeting 1] false)] app ∧
    app.rooms["general"]? = some view ∧ view.items.length = 3 ∧ view.items.length ≤ maxUiItems := by
  have filled : ((((ChatApp.new lateWelcome).turn (.server (.chat (greeting 3)))).bind fun first =>
      first.turn (.key ⟨0⟩ ⟨.pageUp, false⟩ none)).bind fun second =>
        if (second.rooms["general"]?.all fun view =>
          decide ((view.older [greeting 1]).length + view.items.length ≤ maxUiItems)) = true
        then second.turn (.server (.historyPage "general" [greeting 1] false)) else none).any
          (fun app => app.rooms["general"]?.any fun view => view.items.length == 3) = true := by
    decide +kernel
  obtain ⟨app, ran, shown⟩ := (Option.any_eq_true ..).1 filled
  obtain ⟨second, ran, last⟩ := Option.bind_eq_some_iff.1 ran
  obtain ⟨first, start, next⟩ := Option.bind_eq_some_iff.1 ran
  obtain ⟨room, last⟩ := Option.ite_none_right_eq_some.1 last
  obtain ⟨view, found, three⟩ := (Option.any_eq_true ..).1 shown
  have liveFits : (ChatApp.new lateWelcome).pagesFit (.server (.chat (greeting 3))) := by
    intro message accepted
    rw [sanitize_greeting] at accepted
    cases accepted
    exact trivial
  have pageFits : second.pagesFit (.server (.historyPage "general" [greeting 1] false)) := by
    intro message accepted
    have unchanged : sanitizeServerMessage (.historyPage "general" [greeting 1] false) =
        .ok (.historyPage "general" [greeting 1] false) := by
      decide +kernel
    rw [unchanged] at accepted
    cases accepted
    simpa only [Fits, Option.all_eq_true, decide_eq_true_eq] using room
  have run : Run turn pagesFit (.new lateWelcome) [.server (.chat (greeting 3)),
      .key ⟨0⟩ ⟨.pageUp, false⟩ none, .server (.historyPage "general" [greeting 1] false)] app :=
    .cons liveFits start (.cons trivial next (.cons pageFits last (.nil _)))
  exact ⟨app, view, run.mono fun _ _ _ => trivial, found, by simpa using three,
    (buffers_stay_bounded lateWelcome (by decide) run).1 "general" view found⟩

/-- A live message of the first room. -/
theorem turn_greeting {view : RoomView} {n : ℕ} (found : app.rooms["general"]? = some view) :
    ∃ (app' : ChatApp) (view' : RoomView), app.turn (.server (.chat (greeting n))) = some app' ∧
      app'.rooms["general"]? = some view' ∧ view'.items = pushBounded view.items (.chat (greeting n)) := by
  refine ⟨app.handleServerMessage (.chat (greeting n)), { view with
    unread := if app.active = .room "general" then view.unread else view.unread + 1
    items := pushBounded view.items (.chat (greeting n)) }, ?_, ?_, rfl⟩
  · simp only [turn, sanitize_greeting]
    rfl
  · have own : (greeting n).roomId = "general" := rfl
    rw [view_step, viewAfter, if_pos own, found]
    rfl

/-- Live messages fill the view of a late client. -/
theorem greetings_fill {n : ℕ} (room : n < maxUiItems) :
    ∃ (events : List ViewEvent) (app : ChatApp) (view : RoomView),
      Run turn anyAction (.new lateWelcome) events app ∧ app.rooms["general"]? = some view ∧
        view.items = (List.range' 2 (n + 1)).map fun m => .chat (greeting m) := by
  induction n with
  | zero =>
    have listed : "general" ∈ (ChatApp.new lateWelcome).rooms := mem_rooms_new
    obtain ⟨view, found⟩ := Option.isSome_iff_exists.1 (Std.TreeMap.mem_iff_isSome_getElem?.1 listed)
    exact ⟨[], _, view, .nil _, found, (view_new found).1⟩
  | succ n ih =>
    obtain ⟨events, app, view, run, found, items⟩ := ih (Nat.lt_of_succ_lt room)
    obtain ⟨app', view', taken, found', items'⟩ := @turn_greeting app view (n + 3) found
    have space : view.items.length ≠ maxUiItems := by
      rw [items, List.length_map, List.length_range']
      omega
    refine ⟨_, app', view', run.snoc trivial taken, found', ?_⟩
    rw [items', pushBounded, if_neg space, items, @List.range'_1_concat 2 (n + 1), List.map_append,
      List.map_singleton]
    congr 4
    omega

/-- A page that arrives when the view is full takes it over its bound, and the next live message does
not take it back. -/
theorem buffer_outgrown : ¬ ∀ (session : Welcome) (events : List ViewEvent) (app app' : ChatApp)
    (event : ViewEvent) (r : String) (view view' : RoomView) (item : UiItem),
    Run turn anyAction (.new session) events app → app.turn event = some app' →
    app.rooms[r]? = some view → app'.rooms[r]? = some view' →
    view'.items = pushBounded view.items item → view'.items.length ≤ maxUiItems := by
  intro claim
  obtain ⟨events, app, view, run, found, items⟩ := @greetings_fill 999 (by decide)
  have full : view.items.length = 1000 := by rw [items, List.length_map, List.length_range']
  -- the first message of the room, which the view does not show
  have older : view.older [greeting 1] = [greeting 1] := by
    have unseen : (greeting 1).messageId ∉ (view.items.filterMap UiItem.record).map (·.messageId) := by
      intro mem
      obtain ⟨message, shown, same⟩ := List.mem_map.1 mem
      obtain ⟨item, listed, record⟩ := List.mem_filterMap.1 shown
      rw [items] at listed
      obtain ⟨m, range, rfl⟩ := List.mem_map.1 listed
      obtain rfl := Option.some.inj record
      obtain ⟨low, high⟩ := List.mem_range'_1.1 range
      have bits : BitVec.ofNat 128 m = BitVec.ofNat 128 1 := congrArg Uuid.bits same
      have number : m % 2 ^ 128 = 1 % 2 ^ 128 := by
        rw [← BitVec.toNat_ofNat, ← BitVec.toNat_ofNat, bits]
      rw [Nat.mod_eq_of_lt (by omega), Nat.mod_eq_of_lt (by omega)] at number
      omega
    exact List.filter_eq_self.2 (by simpa using unseen)
  have accepted : sanitizeServerMessage (.historyPage "general" [greeting 1] false) =
      .ok (.historyPage "general" [greeting 1] false) := by decide +kernel
  have paged : app.turn (.server (.historyPage "general" [greeting 1] false)) =
      some (app.handleServerMessage (.historyPage "general" [greeting 1] false)) := by
    simp only [turn, accepted]
    rfl
  have shown : (app.handleServerMessage (.historyPage "general" [greeting 1] false)).rooms["general"]? =
      some { view with
        items := .chat (greeting 1) :: view.items, hasMoreHistory := false, loadingHistory := false } := by
    rw [view_step, viewAfter, if_pos rfl, found, Option.map_some, older]
    rfl
  obtain ⟨app', view', taken, found', items'⟩ := @turn_greeting _ _ 1002 shown
  have bounded := claim lateWelcome _ _ _ _ "general" _ _ _ (run.snoc trivial paged) taken shown found' items'
  rw [items', length_pushBounded, List.length_cons, full] at bounded
  exact absurd bounded (by decide)

end

end ChatApp

end LanChat
