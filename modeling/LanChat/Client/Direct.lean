import LanChat.Security

/-!
# The private chat hub

`run_direct_hub` of `direct.rs`: the task of a client that holds its direct
links, one for each peer session. A turn of its loop takes one command of the
user or one event of a link. It changes the links, puts at most one frame on a
link and tells the user interface at most one thing.
-/

namespace LanChat

inductive LinkRole where
  | initiator
  | recipient
deriving DecidableEq, Repr

inductive ConversationState where
  | new
  | awaitingReply
  | active
deriving DecidableEq, Repr

/-- A link, without its handle on the link task: the task is known by `linkId`. -/
structure DirectLink where
  linkId : Uuid
  peer : Peer
  role : LinkRole
  state : ConversationState
deriving DecidableEq, Repr

inductive DirectCommand where
  | send (peerSessionId messageId : Uuid) (text : String)
  | peerLeft (peerSessionId : Uuid)
deriving DecidableEq, Repr

inductive DirectWireMessage where
  | hello (groupId senderSessionId recipientSessionId : Uuid)
  | chat (messageId : Uuid) (sentAtMs : ℕ) (text : String)
deriving DecidableEq, Repr

inductive LinkEvent where
  | connected (linkId : Uuid) (peer : Peer)
  | message (linkId peerSessionId messageId : Uuid) (sentAtMs : ℕ) (text : String)
  | disconnected (linkId peerSessionId : Uuid)
deriving DecidableEq, Repr

/-- The map of links, by peer session. -/
abbrev Links := Uuid → Option DirectLink

def Links.empty : Links := fun _ => none

/-- What one turn does: the links after it, the frame handed to a link task, and the
message sent to the user interface. -/
structure Turn where
  links : Links
  wire : Option (Uuid × DirectWireMessage)
  event : Option ServerMessage

def Turn.idle (links : Links) : Turn := ⟨links, none, none⟩

/-- `send_direct_error` -/
def Turn.fail (links : Links) (code message : String) : Turn := ⟨links, none, some (.error code message)⟩

/-! ## Opening a link -/

/-- What a turn finds outside the hub: the members, the dialled peer's key (`dial` covers
the TCP connection and the handshake), the new link's id once the hello is written, whether
the link task still takes frames, and the clock. -/
structure HubEnv where
  groupId : Uuid
  members : List Peer
  dial : Except String String
  hello : Except String Uuid
  taken : Bool
  nowMs : ℕ

def eqIgnoreAsciiCase (a b : String) : Bool :=
  a.toList.map Char.toLower == b.toList.map Char.toLower

def memberOf (members : List Peer) (sessionId : Uuid) : Option Peer :=
  members.find? fun peer => peer.sessionId = sessionId

theorem memberOf_sessionId {members : List Peer} {sessionId : Uuid} {peer : Peer}
    (h : memberOf members sessionId = some peer) : peer.sessionId = sessionId := by
  simpa using List.find?_some h

def connectDirectLink (env : HubEnv) (peer : Peer) : Except String DirectLink :=
  match peer.direct with
  | none => .error "that member does not support peer-to-peer private chat"
  | some advertised => do
    let fingerprint ← env.dial
    if !eqIgnoreAsciiCase advertised.fingerprint fingerprint then
      throw "direct peer Noise fingerprint mismatch"
    let linkId ← env.hello
    return { linkId, peer, role := .initiator, state := .new }

/-- The checks of `accept_direct_link` on a caller's first frame. -/
def acceptDirectLink (expectedGroupId localSessionId : Uuid) (members : List Peer)
    (remoteFingerprint : String) : DirectWireMessage → Except String Peer
  | .chat _ _ _ => .error "direct peer did not send a hello first"
  | .hello groupId senderSessionId recipientSessionId =>
    if groupId ≠ expectedGroupId ∨ recipientSessionId ≠ localSessionId then
      .error "direct hello targeted a different group or recipient"
    else match memberOf members senderSessionId with
      | none => .error "direct peer is not an online group member"
      | some peer => match peer.direct with
        | none => .error "group member did not advertise direct chat capability"
        | some advertised =>
          if !eqIgnoreAsciiCase advertised.fingerprint remoteFingerprint then
            .error "direct peer Noise fingerprint did not match the gateway member record"
          else .ok peer

/-! ## The two tables of the conversation -/

/-- The state and status after a message is sent, or the error code and text. -/
def sendStatus (localSessionId : Uuid) :
    LinkRole → ConversationState → Except (String × String) (ConversationState × PrivateConversationStatus)
  | .initiator, .awaitingReply => .error ("private_waiting_for_reply",
      "wait for the other member to reply before sending another private message")
  | .initiator, .new => .ok (.awaitingReply, .awaitingReply localSessionId)
  | .recipient, .awaitingReply => .ok (.active, .active)
  | _, .active => .ok (.active, .active)
  | .recipient, .new => .error ("private_not_ready", "the private connection is not ready")

/-- The state and status after a message of the peer, `none` when it is dropped. -/
def receiveStatus (peerSessionId : Uuid) :
    LinkRole → ConversationState → Option (ConversationState × PrivateConversationStatus)
  | .recipient, .new => some (.awaitingReply, .awaitingReply peerSessionId)
  -- A modified initiator is not allowed to push a second message.
  | .recipient, .awaitingReply => none
  | .initiator, .awaitingReply => some (.active, .active)
  | _, .active => some (.active, .active)
  | .initiator, .new => none

/-! ## The turns -/

/-- The link of a peer, opened when there is none; or the error code and text. -/
def openLink (env : HubEnv) (links : Links) (peerSessionId : Uuid) :
    Except (String × String) DirectLink :=
  match links peerSessionId with
  | some link => .ok link
  | none => match memberOf env.members peerSessionId with
    | none => .error ("private_peer_offline", "that member is no longer online")
    | some peer => match connectDirectLink env peer with
      | .ok link => .ok link
      | .error error => .error ("private_connect_failed",
          s!"could not establish a direct encrypted connection: {error}")

def handleSend (localPeer : Peer) (env : HubEnv) (links : Links) (peerSessionId messageId : Uuid)
    (text : String) : Turn :=
  match sanitizeChatText text with
  | .error error => .fail links "invalid_private_message" error
  | .ok text => match openLink env links peerSessionId with
    | .error (code, message) => .fail links code message
    | .ok link =>
      let links := Function.update links peerSessionId (some link)
      match sendStatus localPeer.sessionId link.role link.state with
      | .error (code, message) => .fail links code message
      | .ok (state, status) =>
        if env.taken then
          { links := Function.update links peerSessionId (some { link with state })
            wire := some (link.linkId, .chat messageId env.nowMs text)
            event := some (.privateMessage
              { messageId, sender := localPeer, recipientSessionId := peerSessionId
                sentAtMs := env.nowMs, text } status) }
        else
          .fail (Function.update links peerSessionId none) "private_connection_closed"
            "the direct connection closed"

def handleCommand (localPeer : Peer) (env : HubEnv) (links : Links) : DirectCommand → Turn
  | .send peerSessionId messageId text => handleSend localPeer env links peerSessionId messageId text
  | .peerLeft peerSessionId =>
    if (links peerSessionId).isSome then
      ⟨Function.update links peerSessionId none, none, some (.privateClosed peerSessionId)⟩
    else .idle links

def handleLinkEvent (localPeer : Peer) (links : Links) : LinkEvent → Turn
  | .connected linkId peer =>
    if (links peer.sessionId).isSome then .idle links
    else .idle (Function.update links peer.sessionId
      (some { linkId, peer, role := .recipient, state := .new }))
  | .message linkId peerSessionId messageId sentAtMs text =>
    match links peerSessionId with
    | none => .idle links
    | some link =>
      if link.linkId ≠ linkId then .idle links
      else match receiveStatus peerSessionId link.role link.state with
        | none => .idle links
        | some (state, status) =>
          let links := Function.update links peerSessionId (some { link with state })
          match sanitizeChatText text with
          | .error _ => .idle links
          | .ok text =>
            { links, wire := none
              event := some (.privateMessage
                { messageId, sender := link.peer, recipientSessionId := localPeer.sessionId
                  sentAtMs, text } status) }
  | .disconnected linkId peerSessionId =>
    if (links peerSessionId).any fun link => link.linkId = linkId then
      ⟨Function.update links peerSessionId none, none, some (.privateClosed peerSessionId)⟩
    else .idle links

/-! ## What a turn can do -/

section
variable {localPeer : Peer} {env : HubEnv} {links : Links} {peerSessionId messageId : Uuid}
  {text : String}

theorem connectDirectLink_ok {peer : Peer} {link : DirectLink}
    (h : connectDirectLink env peer = .ok link) :
    link.peer = peer ∧ link.role = .initiator ∧ link.state = .new ∧ env.hello = .ok link.linkId := by
  unfold connectDirectLink at h
  cases direct : peer.direct with
  | none => simp [direct] at h
  | some advertised =>
    rw [direct] at h
    cases dial : env.dial with
    | error e => simp [dial, bind, Except.bind] at h
    | ok fingerprint =>
      simp only [dial, bind, Except.bind] at h
      split at h
      · cases h
      · cases hello : env.hello with
        | error e => simp [hello] at h
        | ok linkId =>
          simp only [hello, pure, Except.pure] at h
          cases h
          exact ⟨rfl, rfl, rfl, rfl⟩

/-- The link of a `Send` is the one held, or a new one to a member. -/
theorem openLink_ok {link : DirectLink} (h : openLink env links peerSessionId = .ok link) :
    links peerSessionId = some link ∨
      (links peerSessionId = none ∧ link.peer.sessionId = peerSessionId ∧ link.role = .initiator ∧
        link.state = .new ∧ env.hello = .ok link.linkId) := by
  unfold openLink at h
  cases held : links peerSessionId with
  | some old =>
    rw [held] at h
    cases h
    exact .inl rfl
  | none =>
    simp only [held] at h
    split at h
    · cases h
    · next peer found =>
      split at h
      · next opened connected =>
        cases h
        obtain ⟨same, role, state, hello⟩ := connectDirectLink_ok connected
        exact .inr ⟨rfl, same ▸ memberOf_sessionId found, role, state, hello⟩
      · cases h

/-- What a `Send` comes to: refused with an error, dropped with its link because the link
task has ended, or sent. -/
inductive SendOutcome (localPeer : Peer) (env : HubEnv) (links : Links)
    (peerSessionId messageId : Uuid) (text : String) : Turn → Prop where
  | refused (code message : String) : SendOutcome localPeer env links peerSessionId messageId text
      (.fail links code message)
  | dropped (code message : String) : env.taken = false →
      SendOutcome localPeer env links peerSessionId messageId text
        (.fail (Function.update links peerSessionId none) code message)
  | sent (link : DirectLink) (cleaned : String) (state : ConversationState)
      (status : PrivateConversationStatus) :
      sanitizeChatText text = .ok cleaned → openLink env links peerSessionId = .ok link →
      sendStatus localPeer.sessionId link.role link.state = .ok (state, status) →
      SendOutcome localPeer env links peerSessionId messageId text
        { links := Function.update links peerSessionId (some { link with state })
          wire := some (link.linkId, .chat messageId env.nowMs cleaned)
          event := some (.privateMessage
            { messageId, sender := localPeer, recipientSessionId := peerSessionId
              sentAtMs := env.nowMs, text := cleaned } status) }

theorem sendOutcome : SendOutcome localPeer env links peerSessionId messageId text
    (handleSend localPeer env links peerSessionId messageId text) := by
  unfold handleSend
  split
  · next error rejected => exact .refused _ _
  · next cleaned accepted =>
    split
    · next code message failed => exact .refused _ _
    · next link opened =>
      simp only [Function.update_idem]
      split
      · next code message closed =>
        -- only a link that was held can refuse: a new one takes the opening message
        obtain held | ⟨-, -, role, state, -⟩ := openLink_ok opened
        · rw [← held, Function.update_eq_self]
          exact .refused _ _
        · rw [role, state] at closed
          cases closed
      · next state status passes =>
        split
        · exact .sent link cleaned state status accepted opened passes
        · next untaken => exact .dropped _ _ (by simpa using untaken)

/-- What a link event comes to: nothing, the peer's new link, a message dropped after its
sender was admitted, a message shown, or the end of the link. -/
inductive EventOutcome (localPeer : Peer) (links : Links) : LinkEvent → Turn → Prop where
  | ignored (event : LinkEvent) : EventOutcome localPeer links event (.idle links)
  | adopted (linkId : Uuid) (peer : Peer) : links peer.sessionId = none →
      EventOutcome localPeer links (.connected linkId peer)
        (.idle (Function.update links peer.sessionId
          (some { linkId, peer, role := .recipient, state := .new })))
  | spoiled (peerSessionId messageId : Uuid) (sentAtMs : ℕ) (text error : String) (link : DirectLink)
      (state : ConversationState) (status : PrivateConversationStatus) :
      links peerSessionId = some link →
      receiveStatus peerSessionId link.role link.state = some (state, status) →
      sanitizeChatText text = .error error →
      EventOutcome localPeer links (.message link.linkId peerSessionId messageId sentAtMs text)
        (.idle (Function.update links peerSessionId (some { link with state })))
  | shown (peerSessionId messageId : Uuid) (sentAtMs : ℕ) (text cleaned : String) (link : DirectLink)
      (state : ConversationState) (status : PrivateConversationStatus) :
      links peerSessionId = some link →
      receiveStatus peerSessionId link.role link.state = some (state, status) →
      sanitizeChatText text = .ok cleaned →
      EventOutcome localPeer links (.message link.linkId peerSessionId messageId sentAtMs text)
        { links := Function.update links peerSessionId (some { link with state }), wire := none
          event := some (.privateMessage
            { messageId, sender := link.peer, recipientSessionId := localPeer.sessionId
              sentAtMs, text := cleaned } status) }
  | closed (peerSessionId : Uuid) (link : DirectLink) : links peerSessionId = some link →
      EventOutcome localPeer links (.disconnected link.linkId peerSessionId)
        ⟨Function.update links peerSessionId none, none, some (.privateClosed peerSessionId)⟩

theorem eventOutcome {event : LinkEvent} :
    EventOutcome localPeer links event (handleLinkEvent localPeer links event) := by
  cases event with
  | connected linkId peer =>
    simp only [handleLinkEvent]
    split
    · exact .ignored _
    · next free => exact .adopted linkId peer (by simpa using free)
  | message linkId peerSessionId messageId sentAtMs text =>
    simp only [handleLinkEvent]
    split
    · exact .ignored _
    · next link held =>
      split
      · exact .ignored _
      · next same =>
        rw [ne_eq, not_not] at same
        subst same
        split
        · exact .ignored _
        · next state status admitted =>
          split
          · next error rejected => exact .spoiled _ _ _ _ error link state status held admitted rejected
          · next cleaned accepted =>
            exact .shown _ _ _ _ cleaned link state status held admitted accepted
  | disconnected linkId peerSessionId =>
    simp only [handleLinkEvent]
    cases held : links peerSessionId with
    | none => exact .ignored _
    | some link =>
      rw [Option.any_some]
      split
      · next same =>
        rw [decide_eq_true_eq] at same
        subst same
        exact .closed peerSessionId link held
      · exact .ignored _

/-! ## Messages that cannot be shown -/

/-- The link's next message settles who has to speak: the opening message of the peer, or
the reply to the user's. -/
def DirectLink.AtTurn (link : DirectLink) : Prop :=
  link.role = .recipient ∧ link.state = .new ∨ link.role = .initiator ∧ link.state = .awaitingReply

instance (link : DirectLink) : Decidable link.AtTurn := inferInstanceAs (Decidable (_ ∨ _))

/-- Where no turn is at stake, a message that is let through leaves the state as it is. -/
theorem receiveStatus_keeps {link : DirectLink} {state : ConversationState}
    {status : PrivateConversationStatus}
    (h : receiveStatus peerSessionId link.role link.state = some (state, status)) :
    state = link.state ↔ ¬ link.AtTurn := by
  obtain ⟨linkId, peer, role, old⟩ := link
  cases role <;> cases old <;> simp [receiveStatus, DirectLink.AtTurn] at h ⊢ <;> simp [← h.1]

theorem atTurn_receives {link : DirectLink} (turn : link.AtTurn) :
    ∃ state status, receiveStatus peerSessionId link.role link.state = some (state, status) := by
  rcases turn with ⟨role, state⟩ | ⟨role, state⟩ <;> rw [role, state] <;> exact ⟨_, _, rfl⟩

/-- **A message that cannot be shown** has no effect exactly when it does not come to the
link whose turn it would take: the state moves before the text is looked at. -/
theorem unusable_message_ignored {linkId : Uuid} {sentAtMs : ℕ} {error : String}
    (rejected : sanitizeChatText text = .error error) :
    handleLinkEvent localPeer links (.message linkId peerSessionId messageId sentAtMs text) = .idle links ↔
      ∀ link, links peerSessionId = some link → link.linkId = linkId → ¬ link.AtTurn := by
  simp only [handleLinkEvent, rejected]
  cases held : links peerSessionId with
  | none => simp
  | some link =>
    simp only [Option.some.injEq, forall_eq']
    by_cases own : link.linkId = linkId
    · subst own
      simp only [ne_eq, not_true_eq_false, if_false, forall_const]
      cases admitted : receiveStatus peerSessionId link.role link.state with
      | none =>
        simp only [true_iff]
        intro turn
        obtain ⟨state, status, receives⟩ := @atTurn_receives peerSessionId link turn
        rw [admitted] at receives
        cases receives
      | some after =>
        obtain ⟨state, status⟩ := after
        rw [← receiveStatus_keeps admitted]
        constructor
        · intro same
          have changed : Function.update links peerSessionId (some { link with state }) = links :=
            congrArg Turn.links (by simpa using same)
          have at_p := congrFun changed peerSessionId
          rw [Function.update_self, held, Option.some_inj] at at_p
          exact congrArg DirectLink.state at_p
        · rintro rfl
          simp only [Turn.idle]
          rw [← held, Function.update_eq_self]
    · simp [own]

/-- An empty opening message takes the turn of the next one. -/
theorem unusable_opening_counts : ∃ (localPeer peer : Peer) (links : Links) (event : LinkEvent),
    event = .message ⟨7⟩ peer.sessionId ⟨9⟩ 0 "" ∧ sanitizeChatText "" = .error "message cannot be empty" ∧
    (links peer.sessionId).map (·.state) = some .new ∧
    ((handleLinkEvent localPeer links event).links peer.sessionId).map (·.state) = some .awaitingReply ∧
    (handleLinkEvent localPeer (handleLinkEvent localPeer links event).links
      (.message ⟨7⟩ peer.sessionId ⟨10⟩ 0 "hello")).event = none :=
  ⟨⟨⟨1⟩, ⟨11⟩, "Alice", none⟩, ⟨⟨2⟩, ⟨12⟩, "Mallory", none⟩,
    Function.update Links.empty ⟨2⟩ (some ⟨⟨7⟩, ⟨⟨2⟩, ⟨12⟩, "Mallory", none⟩, .recipient, .new⟩),
    _, rfl, by decide +kernel, by decide, by decide +kernel, by decide +kernel⟩

/-- A link on which the peer has been answered. -/
theorem unusable_message_ignored_active :
    let link : DirectLink := ⟨⟨7⟩, ⟨⟨2⟩, ⟨12⟩, "Mallory", none⟩, .recipient, .active⟩
    handleLinkEvent ⟨⟨1⟩, ⟨11⟩, "Alice", none⟩ (Function.update Links.empty ⟨2⟩ (some link))
        (.message ⟨7⟩ ⟨2⟩ ⟨9⟩ 0 "") =
      .idle (Function.update Links.empty ⟨2⟩ (some link)) := by
  refine (@unusable_message_ignored _ _ _ _ _ _ _ "message cannot be empty" (by decide +kernel)).2 ?_
  intro link held own
  rw [Function.update_self, Option.some_inj] at held
  subst held
  decide

end

end LanChat
