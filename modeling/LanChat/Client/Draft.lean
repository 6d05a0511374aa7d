import LanChat.Client.ChatSession

/-!
# The draft

What a key does to the message being written. `run_chat` clears it when a
message of the view is queued, and most of these are requests.
-/

namespace LanChat

namespace ChatApp

variable {app app' : ChatApp} {message : ClientMessage} {key : KeyEvent} {draw : Uuid}

/-- **What a key does to the draft**: only an editing key empties it, and what is sent is the draft
or a request. -/
theorem KeyAfter.draft {action : ChatKeyAction} (after : app.KeyAfter draw key app' action) :
    ((∀ message, action ≠ .send message) ∧ (app'.input = "" → app.input = "" ∨ key.edits)) ∨
    ∃ message, action = .send message ∧ app'.input = app.input ∧
      ((∃ text, message.said = some text ∧ sanitizeChatText app.input = .ok text) ∨
        message.said = none ∧ app.Asks key.code) := by
  cases after with
  | screen same => exact .inl ⟨nofun, fun empty => .inl (same.input ▸ empty)⟩
  | left ends =>
    refine .inl ⟨fun message sent => ?_, fun empty => .inl empty⟩
    obtain rfl | rfl := ends <;> cases sent
  | wrote input written => exact .inl ⟨nofun, fun empty => .inr (written.resolve_right (not_not.2 empty))⟩
  | cleared =>
    refine .inl ⟨nofun, fun empty => .inl ?_⟩
    unfold clearActiveView at empty
    split at empty <;> exact empty
  | entered target => exact .inl ⟨nofun, fun empty => .inl empty⟩
  | @opened peerId nickname _ =>
    have kept : (app.openChat peerId nickname).input = app.input := sameViews_sync.input
    exact .inl ⟨nofun, fun empty => .inl (kept.symm.trans empty)⟩
  | @asked _ message same manages asks =>
    refine .inr ⟨message, rfl, same.input, .inr ⟨?_, asks⟩⟩
    cases message with
    | chat | privateChat | loadHistory => cases manages
    | _ => rfl
  | older _ _ asks => exact .inr ⟨_, rfl, rfl, .inr ⟨rfl, .older asks⟩⟩
  | said clean => exact .inr ⟨_, rfl, rfl, .inl ⟨_, rfl, clean⟩⟩
  | whispered _ _ _ clean => exact .inr ⟨_, rfl, rfl, .inl ⟨_, rfl, clean⟩⟩

/-- A handler that sends a request. -/
def Requests (result : Option (ChatApp × ChatKeyAction)) : Prop :=
  ∃ app' message, result = some (app', .send message) ∧ message.said = none

theorem requests_send (request : message.said = none) : Requests (some (app', .send message)) :=
  ⟨app', message, rfl, request⟩

theorem OverlayAsks.requests {overlay : ChatOverlay} (asks : app.OverlayAsks key.code overlay) :
    Requests (app.handleOverlayKey key overlay) := by
  cases asks with
  | createRoom code clean =>
    simp only [handleOverlayKey, handleCreateRoomKey, code, clean]
    exact requests_send rfl
  | joinRequests code =>
    rw [handleOverlayKey, handleJoinRequestsKey]
    simp only [List.mem_cons, List.not_mem_nil, or_false] at code
    obtain code | code := code <;> rw [code] <;> exact requests_send rfl
  | @decide requests selected code listed =>
    have row : requests[selected]? = some requests[selected] := List.getElem?_eq_getElem listed
    have filled : (!requests.isEmpty && !false) = true := by
      cases requests with
      | nil => cases listed
      | cons => rfl
    rw [handleOverlayKey, handleJoinRequestsKey]
    simp only [List.mem_cons, List.not_mem_nil, or_false] at code
    obtain code | code | code | code | code | code := code <;> rw [code] <;>
      simp only [filled, row, if_true] <;> exact requests_send rfl
  | members code | roomMembers code =>
    simp only [handleOverlayKey, handleGroupMembersKey, handleRoomMembersKey]
    simp only [List.mem_cons, List.not_mem_nil, or_false] at code
    obtain code | code := code <;> rw [code] <;> exact requests_send rfl
  | nextMembers code | nextRoomMembers code =>
    simp only [handleOverlayKey, handleGroupMembersKey, handleRoomMembersKey]
    rw [code]
    exact requests_send rfl
  | previousMembers code later | previousRoomMembers code later =>
    simp only [handleOverlayKey, handleGroupMembersKey, handleRoomMembersKey]
    rw [code]
    simp only [later, decide_true, Bool.not_false, Bool.and_self, if_true]
    exact requests_send rfl
  | @ban members selected offset hasMore member code row plain =>
    have filled : (!members.isEmpty && !false) = true := by
      cases members with
      | nil => cases row
      | cons => rfl
    rw [handleOverlayKey, handleGroupMembersKey]
    simp only [List.mem_cons, List.not_mem_nil, or_false] at code
    obtain code | code | code := code <;> rw [code] <;>
      simp only [filled, row, if_true, Option.bind_eq_bind, Option.bind_some, if_neg plain] <;>
      exact requests_send rfl
  | @includes roomId members selected offset hasMore member code row plain =>
    have filled : (!members.isEmpty && !false) = true := by
      cases members with
      | nil => cases row
      | cons => rfl
    rw [handleOverlayKey, handleRoomMembersKey]
    simp only [List.mem_cons, List.not_mem_nil, or_false] at code
    obtain code | code := code <;> rw [code] <;>
      simp only [filled, row, if_true, Option.bind_eq_bind, Option.bind_some, plain, Bool.false_eq_true,
        if_false] <;> exact requests_send rfl
  | @rotate selected code listed =>
    have row := List.getElem?_eq_getElem listed
    rw [handleOverlayKey, handleRotateTokensKey]
    simp only [List.mem_cons, List.not_mem_nil, or_false] at code
    obtain code | code := code <;> rw [code] <;> simp only [row, if_true] <;> exact requests_send rfl

/-- A key of the panes when neither an overlay nor the focus mode takes it. -/
theorem handleKey_pane (closed : app.overlay = none) (full : app.focusMode = false)
    (plain : key.code ≠ .f 3 ∧ key.code ≠ .char 'q' ∧ key.code ≠ .char 'l' ∧ key.code ≠ .char 'w') :
    app.handleKey draw key = app.handlePaneKey draw key := by
  rw [handleKey, closed]
  simp only [plain, handleViewKey, full, decide_false, Bool.and_false, Bool.false_eq_true, if_false,
    Bool.false_and]

theorem handleKey_input (writing : app.Writing) (plain : key.code = .pageUp) :
    app.handleKey draw key = app.handleInputKey draw key := by
  obtain ⟨closed, focus⟩ := writing
  rw [handleKey, closed]
  by_cases focusMode : app.focusMode = true
  · simp [handleViewKey, focusMode, plain]
  · have focus : app.focus = .input := focus.resolve_left focusMode
    simp [handleViewKey, focusMode, plain, handlePaneKey, focus]

/-- Page Up asks for the messages before the first one shown. -/
theorem AsksOlder.sends {roomId : String} {room : RoomView} {first : ChatRecord}
    (asks : app.AsksOlder key.code roomId room first) :
    ∃ app', app.handleKey draw key = some (app', .send (.loadHistory roomId first.sequence 100)) := by
  rw [handleKey_input asks.writing asks.code, handleInputKey, asks.code]
  simp only [asks.active, asks.found, asks.more, asks.oldest, if_true]
  exact ⟨_, rfl⟩

theorem Asks.requests (asks : app.Asks key.code) : Requests (app.handleKey draw key) := by
  cases asks with
  | overlay overlay opened asks =>
    rw [handleKey, opened]
    exact asks.requests
  | older asks =>
    obtain ⟨after, sent⟩ := @AsksOlder.sends _ _ draw _ _ _ asks
    exact ⟨after, _, sent, rfl⟩
  | joinRequests code closed full admin =>
    rw [handleKey_pane closed full (by simp [code]), handlePaneKey, code]
    simp only [admin, if_true]
    exact requests_send rfl
  | roomMembers code closed full active hidden =>
    rw [handleKey_pane closed full (by simp [code]), handlePaneKey, code]
    simp only [active, hidden, if_true]
    exact requests_send rfl
  | members code closed full admin =>
    rw [handleKey_pane closed full (by simp [code]), handlePaneKey, code]
    simp only [admin, if_true]
    exact requests_send rfl
  | leaveRoom code closed full focus row =>
    rw [handleKey_pane closed full (by simp [code]), handlePaneKey, code]
    simp only [focus, handleConversationKey, code, row]
    exact requests_send rfl
  | joinRoom code closed full focus row apart =>
    rw [handleKey_pane closed full (by simp [code]), handlePaneKey, code]
    simp only [focus, handleConversationKey, code, row, apart, Bool.false_eq_true, if_false]
    exact requests_send rfl

end ChatApp

/-- A client that came after the first message of the group. -/
def ana : Peer := ⟨⟨20⟩, ⟨11⟩, "Ana", none⟩

/-- The messages of its first room. -/
def greeting (n : ℕ) : ChatRecord := ⟨n, ⟨BitVec.ofNat 128 n⟩, ana, "general", 0, "hello"⟩

def lateWelcome : Welcome :=
  { protocolVersion := protocolMax, groupId := ⟨10⟩, groupName := "team", accessMode := .isPublic
    role := .member, issuedCredentials := none, issuedMemberToken := none, roomId := "general"
    roomName := "general", rooms := [], sessionId := ⟨20⟩, members := [ana]
    history := [greeting 2] }

namespace ChatSession

variable {localPeer : Peer} {w w' : ChatSession} {draw : Uuid} {key : KeyEvent}

/-- **A draft is only consumed by sending it.** -/
structure DraftKept (w : ChatSession) (key : KeyEvent) (w' : ChatSession) : Prop where
  consumed : w.app.input ≠ "" → w'.app.input = "" → key.edits ∨
    ∃ message text, w'.outgoing = w.outgoing ++ [message] ∧ message.said = some text ∧
      sanitizeChatText w.app.input = .ok text
  requests : ∀ message, w'.outgoing = w.outgoing ++ [message] → message.said = none →
    w'.app.input = w.app.input

/-- A request that is queued clears the draft. -/
theorem step_asks (asks : w.app.Asks key.code) (accepts : w.Accepts) :
    ∃ w' message, w.step localPeer (.key draw key) = some w' ∧ w'.app.input = "" ∧
      w'.outgoing = w.outgoing ++ [message] ∧ message.said = none := by
  have requested : ChatApp.Requests (w.app.handleKey draw key) := asks.requests
  obtain ⟨app, message, handled, request⟩ := requested
  have queued : ({ w.toChatView with app } : ChatView).Accepts := accepts
  refine ⟨{ w with toChatView := ({ w.toChatView with app } : ChatView).send message }, message, ?_, ?_, ?_, request⟩
  · simp only [step, handled]
    rfl
  · rw [ChatView.send_accepted queued]
  · rw [ChatView.send_accepted queued]

theorem draft_kept_of (kept : w.app.input = "" ∨ ¬ w.Accepts ∨ ¬ w.app.Asks key.code)
    (taken : w.step localPeer (.key draw key) = some w') : w.DraftKept key w' := by
  have unqueued : ∀ message, w.outgoing ≠ w.outgoing ++ [message] := by simp
  simp only [step] at taken
  obtain ⟨⟨app, action⟩, handled, taken⟩ := Option.bind_eq_some_iff.1 taken
  obtain ⟨after⟩ | ⟨message, rfl, same, drafted⟩ := (ChatApp.handleKey_effects _ handled).draft
  · obtain rfl : action = .none := by
      cases action with
      | none => rfl
      | send => exact absurd rfl (after.1 _)
      | back | quit => cases taken
    cases taken
    refine ⟨fun draft empty => ?_, fun message queued => absurd queued (unqueued message)⟩
    exact .inl ((after.2 empty).resolve_left draft)
  · cases taken
    by_cases accepts : w.Accepts
    · have asksNot : w.app.input = "" ∨ ¬ w.app.Asks key.code :=
        kept.imp_right fun kept => kept.resolve_left (not_not.2 accepts)
      rw [@ChatView.send_accepted { w.toChatView with app } message accepts]
      refine ⟨fun draft _ => .inr ?_, fun other queued request => ?_⟩
      · obtain ⟨text, said, clean⟩ | ⟨-, asks⟩ := drafted
        · exact ⟨message, text, rfl, said, clean⟩
        · exact absurd asks (asksNot.resolve_left draft)
      · obtain rfl : message = other := by simpa using queued
        obtain ⟨text, said, -⟩ | ⟨-, asks⟩ := drafted
        · rw [request] at said
          cases said
        · exact (asksNot.resolve_right (not_not.2 asks)).symm
    · obtain ⟨status, refused⟩ := @ChatView.send_refused { w.toChatView with app } message accepts
      rw [refused]
      refine ⟨fun draft empty => absurd (same ▸ empty) draft, fun message queued => ?_⟩
      exact absurd queued (unqueued message)

/-- **When the draft is kept**: nothing was written, the queue refuses the message (it is full, or the
connection is over), or the key asks the gateway for nothing. -/
theorem draft_kept_iff (localPeer : Peer) (w : ChatSession) (draw : Uuid) (key : KeyEvent) :
    (∀ w', w.step localPeer (.key draw key) = some w' → w.DraftKept key w') ↔
      w.app.input = "" ∨ ¬ w.Accepts ∨ ¬ w.app.Asks key.code := by
  refine ⟨fun kept => ?_, fun kept w' => draft_kept_of kept⟩
  by_contra lost
  simp only [not_or, not_not] at lost
  obtain ⟨draft, accepts, asks⟩ := lost
  obtain ⟨w', message, taken, cleared, queued, request⟩ := step_asks asks accepts
  exact draft (((kept w' taken).requests message queued request).symm.trans cleared)

/-- A draft is lost to the page of history that Page Up asks for. -/
theorem draft_lost : ¬ ∀ (localPeer : Peer) (w w' : ChatSession) (draw : Uuid) (key : KeyEvent),
    w.step localPeer (.key draw key) = some w' → w.DraftKept key w' := by
  intro kept
  -- the client after the key of its first letter
  let drafting : ChatSession := { start lateWelcome with app := { ChatApp.new lateWelcome with input := "h" } }
  have asked : (drafting.step ana (.key ⟨0⟩ ⟨.pageUp, false⟩)).map (fun w => (w.app.input, w.outgoing)) =
      some ("", [.loadHistory "general" 2 100]) := by
    decide +kernel
  obtain ⟨w, taken, after⟩ := Option.map_eq_some_iff.1 asked
  obtain ⟨cleared, queued⟩ := Prod.mk.inj after
  have same : w.app.input = "h" := (kept ana drafting w ⟨0⟩ ⟨.pageUp, false⟩ taken).requests _ queued rfl
  exact absurd (cleared.symm.trans same) (by decide)

end ChatSession

end LanChat
