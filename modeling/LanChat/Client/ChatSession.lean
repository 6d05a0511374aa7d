import LanChat.Base.Transition
import LanChat.Client.KeyEffects
import LanChat.Client.ReplyGate

/-!
# A connected client

The tasks of a client while its connection lasts: the chat view, the task of the
connection between the view and the gateway, and the private chat hub, with the
queues between them. Only the queue of the view is bounded for the one who fills it:
`try_send` fails when it is full, and when the task of the connection is over. An
action is one step of one task.
-/

namespace LanChat

/-- The map of members the hub and its acceptor look in, one record for each session. -/
def upsertMember (members : List Peer) (peer : Peer) : List Peer :=
  members.filter (fun member => member.sessionId ≠ peer.sessionId) ++ [peer]

def removeMember (members : List Peer) (sessionId : Uuid) : List Peer :=
  members.filter fun member => member.sessionId ≠ sessionId

/-- Why `try_send` refuses a message. -/
inductive TrySendError where
  | full
  | closed
deriving DecidableEq, Repr

def TrySendError.text : TrySendError → String
  | full => "no available capacity"
  | closed => "channel closed"

/-- The view, and the queue from it to the task of the connection, which closes with that task. -/
structure ChatView where
  app : ChatApp
  outgoing : List ClientMessage
  closed : Bool

namespace ChatView

def clientQueueCapacity : ℕ := 256

def start (session : Welcome) : ChatView := { app := .new session, outgoing := [], closed := false }

variable (view : ChatView)

/-- The queue takes one more message. -/
def Accepts : Prop := view.closed = false ∧ view.outgoing.length < clientQueueCapacity

instance : Decidable view.Accepts := inferInstanceAs (Decidable (_ ∧ _))

def trySend (message : ClientMessage) : Except TrySendError ChatView :=
  if view.closed then .error .closed
  else if clientQueueCapacity ≤ view.outgoing.length then .error .full
  else .ok { view with outgoing := view.outgoing ++ [message] }

/-- `run_chat` hands the message of a key to the queue. -/
def send (message : ClientMessage) : ChatView :=
  match view.trySend message with
  | .ok view => { view with app := { view.app with input := "", status := "已发送" } }
  | .error error => { view with app := { view.app with status := "发送失败：" ++ error.text } }

/-- The task of the connection is over, and what it has not taken is lost. -/
def close : ChatView := { view with outgoing := [], closed := true }

/-- `run_chat` finds that nothing can come any more. -/
def drained : ChatView :=
  { view with app := { view.app with connected := false, status := "连接已关闭，按 Esc 返回群组" } }

variable {view} {message : ClientMessage}

theorem send_accepted (accepts : view.Accepts) : view.send message =
    { view with
      app := { view.app with input := "", status := "已发送" }, outgoing := view.outgoing ++ [message] } := by
  obtain ⟨isOpen, room⟩ := accepts
  simp only [send, trySend, isOpen, Bool.false_eq_true, if_false, if_neg (Nat.not_le.2 room)]

/-- A message that is refused changes the status only. -/
theorem send_refused (refused : ¬ view.Accepts) :
    ∃ status, view.send message = { view with app := { view.app with status } } := by
  unfold send trySend
  split
  · rename_i accepted
    split at accepted
    · cases accepted
    · rename_i isOpen
      split at accepted
      · cases accepted
      · rename_i room
        exact absurd ⟨by simpa using isOpen, Nat.not_le.1 room⟩ refused
  · exact ⟨_, rfl⟩

end ChatView

/-- `incoming` is the queue to the view, `reading` is the message the task of the connection is
handing on, `reporting` the one of the hub. `left` are the sessions that have left the group. -/
structure ChatSession extends ChatView where
  reading : Option ServerMessage
  incoming : List ClientEvent
  commands : List DirectCommand
  members : List Peer
  left : List Uuid
  links : Links
  reporting : Option ServerMessage

inductive SessionAction where
  | key (draw : Uuid) (event : KeyEvent)
  | paste (raw : String)
  | forward
  | gateway (message : ServerMessage)
  | relay
  | close (reason : String)
  | command (env : HubEnv)
  | link (event : LinkEvent)
  | report
  | deliver
  | drain

namespace ChatSession

def start (session : Welcome) : ChatSession :=
  { ChatView.start session with
    reading := none, incoming := [], commands := [], members := session.members.foldl upsertMember []
    left := [], links := .empty, reporting := none }

variable (localPeer : Peer) (w : ChatSession)

/-- What the gateway sends: nothing of private chats, and no session that has left, as each
connection has a new session id. -/
def comesFromGateway : ServerMessage → Bool
  | .privateMessage _ _ | .privateClosed _ => false
  | .memberJoined member => member.sessionId ∉ w.left
  | _ => true

/-- A caller passed the acceptor, which found it among the members; its key is not the
client's own. -/
def comesFromLink : LinkEvent → Bool
  | .connected _ peer => peer.sessionId ≠ localPeer.sessionId &&
      ((memberOf w.members peer.sessionId).isSome || peer.sessionId ∈ w.left)
  | _ => true

/-- A message of the gateway is read: the hub learns who has come and who has left. -/
def read (message : ServerMessage) : ChatSession :=
  match message with
  | .memberJoined member =>
    { w with reading := some message, members := upsertMember w.members member }
  | .memberLeft sessionId =>
    { w with
      reading := some message, members := removeMember w.members sessionId
      left := sessionId :: w.left, commands := w.commands ++ [.peerLeft sessionId] }
  | _ => { w with reading := some message }

def step : SessionAction → Option ChatSession
  | .key draw event => do
    let (app, action) ← w.app.handleKey draw event
    match action with
    | .none => some { w with app }
    | .send message => some { w with toChatView := { w.toChatView with app }.send message }
    -- the session is over
    | .back | .quit => none
  | .paste raw => some { w with app := w.app.paste raw }
  | .forward => match w.reading, w.outgoing with
    | none, .privateChat p messageId text :: rest =>
      some { w with outgoing := rest, commands := w.commands ++ [.send p messageId text] }
    | none, _ :: rest => some { w with outgoing := rest }
    | _, _ => none
  | .gateway message =>
    if !w.closed && w.reading.isNone && w.comesFromGateway message then some (w.read message) else none
  | .relay => w.reading.map fun message =>
    { w with reading := none, incoming := w.incoming ++ [.server message] }
  | .close reason =>
    if !w.closed && w.reading.isNone then
      some { w with toChatView := w.toChatView.close, incoming := w.incoming ++ [.disconnected reason] }
    else none
  | .command env => match w.reporting, w.commands with
    | none, command :: rest =>
      let turn := handleCommand localPeer { env with members := w.members } w.links command
      some { w with commands := rest, links := turn.links, reporting := turn.event }
    | _, _ => none
  | .link event =>
    if w.reporting.isNone && w.comesFromLink localPeer event then
      let turn := handleLinkEvent localPeer w.links event
      some { w with links := turn.links, reporting := turn.event }
    else none
  | .report => w.reporting.map fun message =>
    { w with reporting := none, incoming := w.incoming ++ [.server message] }
  | .deliver => match w.incoming with
    | event :: rest => some { w with app := w.app.handleServerEvent event, incoming := rest }
    | [] => none
  | .drain =>
    if w.closed && w.incoming.isEmpty && w.reporting.isNone then
      some { w with toChatView := w.toChatView.drained }
    else none

end ChatSession

end LanChat
