import LanChat.Base.Transition
import LanChat.Client.ReplyGate

/-!
# Two clients and their connections

The hubs of two clients of one group with the tasks around them: the acceptor of
incoming connections, and for each end of a connection the link task that writes
what its hub hands it and reads what the other end wrote. The network loses
nothing and keeps the order of each direction. Every action is one step of one
task. A hub that has handed a frame to its link task still has to report the
message to its user, which is a step of its own.
-/

namespace LanChat

inductive Side where
  | left
  | right
deriving DecidableEq, Repr

namespace Side

def other : Side → Side
  | left => right
  | right => left

@[simp] theorem other_other (s : Side) : s.other.other = s := by cases s <;> rfl

@[simp] theorem other_ne (s : Side) : s.other ≠ s := by cases s <;> decide

@[simp] theorem ne_other (s : Side) : s ≠ s.other := by cases s <;> decide

theorem eq_or_other (s t : Side) : t = s ∨ t = s.other := by cases s <;> cases t <;> decide

end Side

/-- Two members of one group, each with the other's record. -/
structure Duo where
  groupId : Uuid
  peer : Side → Peer
  direct : Side → DirectPeerInfo
  advertised : ∀ s, (peer s).direct = some (direct s)
  distinct : (peer .left).sessionId ≠ (peer .right).sessionId

namespace Duo

variable (duo : Duo)

def session (s : Side) : Uuid := (duo.peer s).sessionId

def members : List Peer := [duo.peer .left, duo.peer .right]

theorem session_ne (s : Side) : duo.session s ≠ duo.session s.other := by
  cases s
  · exact duo.distinct
  · exact duo.distinct.symm

theorem memberOf_members (s : Side) : memberOf duo.members (duo.session s) = some (duo.peer s) := by
  cases s with
  | left => simp [memberOf, members, session]
  | right => simp [memberOf, members, session, duo.distinct]

end Duo

/-! ## Connections -/

/-- The link task of one end: not started, running, or ended. -/
inductive TaskState where
  | pending
  | running
  | stopped
deriving DecidableEq, Repr

/-- One end of a connection: the frames its hub has handed to its link task. -/
structure LinkEnd where
  linkId : Uuid
  state : TaskState
  outbound : List DirectWireMessage
deriving DecidableEq

/-- A connection: who opened it, its two ends, and the frames on their way to each side. -/
structure Connection where
  opener : Side
  ends : Side → LinkEnd
  wire : Side → List DirectWireMessage

namespace Connection

variable (k : Connection)

/-- The connection of a caller that has written its hello. -/
def dialled (duo : Duo) (s : Side) (linkId : Uuid) (frame : DirectWireMessage) : Connection where
  opener := s
  ends t := if t = s then ⟨linkId, .running, [frame]⟩ else ⟨linkId, .pending, []⟩
  wire t := if t = s then [] else [.hello duo.groupId (duo.session s) (duo.session s.other)]

def setEnd (s : Side) (e : LinkEnd) : Connection := { k with ends := Function.update k.ends s e }

def setWire (s : Side) (frames : List DirectWireMessage) : Connection :=
  { k with wire := Function.update k.wire s frames }

@[simp] theorem setEnd_opener (s : Side) (e : LinkEnd) : (k.setEnd s e).opener = k.opener := rfl

@[simp] theorem setWire_opener (s : Side) (frames : List DirectWireMessage) :
    (k.setWire s frames).opener = k.opener := rfl

@[simp] theorem setWire_ends (s : Side) (frames : List DirectWireMessage) :
    (k.setWire s frames).ends = k.ends := rfl

@[simp] theorem setEnd_wire (s : Side) (e : LinkEnd) : (k.setEnd s e).wire = k.wire := rfl

@[simp] theorem setEnd_ends_self (s : Side) (e : LinkEnd) : (k.setEnd s e).ends s = e :=
  Function.update_self ..

@[simp] theorem setEnd_ends_other (s : Side) (e : LinkEnd) :
    (k.setEnd s e).ends s.other = k.ends s.other := Function.update_of_ne s.other_ne _ _

@[simp] theorem setEnd_other_ends (s : Side) (e : LinkEnd) :
    (k.setEnd s.other e).ends s = k.ends s := Function.update_of_ne s.ne_other _ _

@[simp] theorem setWire_wire_self (s : Side) (frames : List DirectWireMessage) :
    (k.setWire s frames).wire s = frames := Function.update_self ..

@[simp] theorem setWire_wire_other (s : Side) (frames : List DirectWireMessage) :
    (k.setWire s frames).wire s.other = k.wire s.other := Function.update_of_ne s.other_ne _ _

@[simp] theorem setWire_other_wire (s : Side) (frames : List DirectWireMessage) :
    (k.setWire s.other frames).wire s = k.wire s := Function.update_of_ne s.ne_other _ _

/-- The hub at `s` hands a frame to the link task `linkId`. -/
def hand (s : Side) (linkId : Uuid) (frame : DirectWireMessage) : Connection :=
  let e := k.ends s
  if e.linkId = linkId then k.setEnd s { e with outbound := e.outbound ++ [frame] } else k

theorem hand_eq {s : Side} {linkId : Uuid} {frame : DirectWireMessage}
    (own : (k.ends s).linkId = linkId) : k.hand s linkId frame =
      k.setEnd s { k.ends s with outbound := (k.ends s).outbound ++ [frame] } := if_pos own

/-- The link task at `s` writes its next frame; one to an end that is gone is lost. -/
def write (s : Side) : Option Connection :=
  let e := k.ends s
  match e.state, e.outbound with
  | .running, frame :: rest =>
    let k := k.setEnd s { e with outbound := rest }
    if (k.ends s.other).state = .stopped then some k
    else some (k.setWire s.other (k.wire s.other ++ [frame]))
  | _, _ => none

/-- The link task at `s` ends. -/
def close (s : Side) : Connection :=
  (k.setEnd s { k.ends s with state := .stopped, outbound := [] }).setWire s []

/-- The link task at `s` reads its next frame; a second hello ends it. -/
def read (duo : Duo) (s : Side) : Option (Connection × LinkEvent) :=
  let e := k.ends s
  match e.state, k.wire s with
  | .running, .chat messageId sentAtMs text :: rest =>
    some (k.setWire s rest, .message e.linkId (duo.session s.other) messageId sentAtMs text)
  | .running, .hello _ _ _ :: _ => some (k.close s, .disconnected e.linkId (duo.session s.other))
  | _, _ => none

/-- The acceptor of the called side reads the hello and, if it passes, starts a link task. -/
def accept (duo : Duo) (linkId : Uuid) : Option (Connection × Option LinkEvent) :=
  let s := k.opener.other
  match (k.ends s).state, k.wire s with
  | .pending, frame :: rest =>
    match acceptDirectLink duo.groupId (duo.session s) duo.members (duo.direct k.opener).fingerprint frame with
    | .ok peer =>
      some ((k.setEnd s ⟨linkId, .running, []⟩).setWire s rest, some (.connected linkId peer))
    | .error _ => some (k.close s, none)
  | _, _ => none

section
variable {k} {k' : Connection} {s : Side}

/-- While the other end is there, a write moves the next frame to the wire. -/
theorem write_cases (alive : (k.ends s.other).state ≠ .stopped) (h : k.write s = some k') :
    ∃ frame rest, (k.ends s).state = .running ∧ (k.ends s).outbound = frame :: rest ∧
      k' = (k.setEnd s { k.ends s with outbound := rest }).setWire s.other
        (k.wire s.other ++ [frame]) := by
  unfold write at h
  simp only at h
  split at h
  · next frame rest running waiting =>
    rw [setEnd_ends_other, if_neg alive] at h
    cases h
    exact ⟨frame, rest, running, waiting, rfl⟩
  · cases h

/-- A running end reads the next frame; a chat becomes an event of its hub. -/
theorem read_cases {duo : Duo} {event : LinkEvent} (h : k.read duo s = some (k', event)) :
    (k.ends s).state = .running ∧ ∃ frame rest, k.wire s = frame :: rest ∧
      match frame with
      | .chat messageId sentAtMs text => k' = k.setWire s rest ∧
          event = .message (k.ends s).linkId (duo.session s.other) messageId sentAtMs text
      | .hello _ _ _ => k' = k.close s ∧
          event = .disconnected (k.ends s).linkId (duo.session s.other) := by
  unfold read at h
  simp only at h
  split at h
  · next running front =>
    cases h
    exact ⟨running, _, _, front, rfl, rfl⟩
  · next running front =>
    cases h
    exact ⟨running, _, _, front, rfl, rfl⟩
  · cases h

theorem accept_cases {duo : Duo} {linkId : Uuid} {event : Option LinkEvent}
    (h : k.accept duo linkId = some (k', event)) :
    (k.ends k.opener.other).state = .pending ∧ ∃ frame rest, k.wire k.opener.other = frame :: rest ∧
      match acceptDirectLink duo.groupId (duo.session k.opener.other) duo.members
          (duo.direct k.opener).fingerprint frame with
      | .ok peer =>
        k' = (k.setEnd k.opener.other ⟨linkId, .running, []⟩).setWire k.opener.other rest ∧
          event = some (.connected linkId peer)
      | .error _ => k' = k.close k.opener.other ∧ event = none := by
  unfold accept at h
  simp only at h
  split at h
  · next frame rest pending front =>
    refine ⟨pending, frame, rest, front, ?_⟩
    split at h
    · next peer passes =>
      cases h
      exact ⟨rfl, rfl⟩
    · next error fails =>
      cases h
      exact ⟨rfl, rfl⟩
  · cases h

end

end Connection

/-! ## The world -/

/-- A hub's task: its links, the queue of link events, and what it has told its user.
`reporting` is the message of the present turn that its user has not been told yet. -/
structure HubTask where
  links : Links
  inbox : List LinkEvent
  reporting : Option ServerMessage
  events : List ServerMessage

structure World where
  hub : Side → HubTask
  connections : List Connection

inductive PairAction where
  | send (s : Side) (messageId : Uuid) (text : String) (linkId : Uuid) (nowMs : ℕ)
  | take (s : Side)
  | report (s : Side)
  | accept (c : ℕ) (linkId : Uuid)
  | write (c : ℕ) (s : Side)
  | read (c : ℕ) (s : Side)
  | stop (c : ℕ) (s : Side)
deriving DecidableEq, Repr

namespace World

variable (duo : Duo) (w : World)

def setHub (s : Side) (h : HubTask) : World := { w with hub := Function.update w.hub s h }

def setConnection (c : ℕ) (k : Connection) : World := { w with connections := w.connections.set c k }

@[simp] theorem setHub_hub_self (s : Side) (h : HubTask) : (w.setHub s h).hub s = h :=
  Function.update_self ..

@[simp] theorem setHub_hub_other (s : Side) (h : HubTask) : (w.setHub s h).hub s.other = w.hub s.other :=
  Function.update_of_ne s.other_ne _ _

@[simp] theorem setHub_other_hub (s : Side) (h : HubTask) : (w.setHub s.other h).hub s = w.hub s :=
  Function.update_of_ne s.ne_other _ _

theorem setHub_hub_of_ne {s t : Side} (h : HubTask) (apart : t ≠ s) : (w.setHub s h).hub t = w.hub t :=
  Function.update_of_ne apart _ _

@[simp] theorem setHub_connections (s : Side) (h : HubTask) :
    (w.setHub s h).connections = w.connections := rfl

@[simp] theorem setConnection_hub (c : ℕ) (k : Connection) : (w.setConnection c k).hub = w.hub := rfl

@[simp] theorem setConnection_connections (c : ℕ) (k : Connection) :
    (w.setConnection c k).connections = w.connections.set c k := rfl

def withConnections (connections : List Connection) : World := { w with connections }

@[simp] theorem withConnections_hub (connections : List Connection) :
    (w.withConnections connections).hub = w.hub := rfl

@[simp] theorem withConnections_connections (connections : List Connection) :
    (w.withConnections connections).connections = connections := rfl

/-- An event for the hub at `s`. -/
def post (s : Side) (event : LinkEvent) : World :=
  w.setHub s { w.hub s with inbox := (w.hub s).inbox ++ [event] }

@[simp] theorem post_connections (s : Side) (event : LinkEvent) :
    (w.post s event).connections = w.connections := rfl

@[simp] theorem post_hub_self (s : Side) (event : LinkEvent) :
    (w.post s event).hub s = { w.hub s with inbox := (w.hub s).inbox ++ [event] } :=
  setHub_hub_self ..

@[simp] theorem post_hub_other (s : Side) (event : LinkEvent) :
    (w.post s event).hub s.other = w.hub s.other := setHub_hub_other ..

@[simp] theorem post_other_hub (s : Side) (event : LinkEvent) :
    (w.post s.other event).hub s = w.hub s := setHub_other_hub ..

/-- The link task of the link that the hub at `s` holds still takes frames. -/
def taken (s : Side) : Bool :=
  match (w.hub s).links (duo.session s.other) with
  | none => true
  | some link => w.connections.any fun k =>
      (k.ends s).linkId = link.linkId && (k.ends s).state = .running

/-- Both members stay reachable: dialling the other finds the key it advertises. -/
def env (s : Side) (linkId : Uuid) (nowMs : ℕ) : HubEnv :=
  { groupId := duo.groupId, members := duo.members, dial := .ok (duo.direct s.other).fingerprint
    hello := .ok linkId, taken := w.taken duo s, nowMs }

/-- A fresh link id at `s`. -/
def isFresh (s : Side) (linkId : Uuid) : Bool := w.connections.all fun k => (k.ends s).linkId ≠ linkId

/-- The hub at `s` still has the handle of a link task, or it waits in a `Connected` event. -/
def holds (s : Side) (linkId : Uuid) : Bool :=
  ((w.hub s).links (duo.session s.other)).any (fun link => link.linkId = linkId) ||
    (w.hub s).inbox.any fun
      | .connected id _ => id = linkId
      | _ => false

/-- A link task ends when its hub has let go of it and it has written everything, or when
the other end is gone. -/
def mayStop (k : Connection) (s : Side) : Bool :=
  (k.ends s).state = .running &&
    ((!w.holds duo s (k.ends s).linkId && (k.ends s).outbound.isEmpty) ||
      (k.ends s.other).state = .stopped)

def send (s : Side) (messageId : Uuid) (text : String) (linkId : Uuid) (nowMs : ℕ) : World :=
  let h := w.hub s
  let turn := handleCommand (duo.peer s) (w.env duo s linkId nowMs) h.links
    (.send (duo.session s.other) messageId text)
  let connections := match turn.wire with
    | none => w.connections
    | some (id, frame) =>
      if (h.links (duo.session s.other)).isSome then w.connections.map fun k => k.hand s id frame
      else w.connections ++ [.dialled duo s id frame]
  (w.setHub s { h with links := turn.links, reporting := turn.event }).withConnections connections

def step : PairAction → Option World
  | .send s messageId text linkId nowMs =>
    if (w.hub s).reporting.isNone && w.isFresh s linkId then
      some (w.send duo s messageId text linkId nowMs)
    else none
  | .take s =>
    let h := w.hub s
    match h.reporting, h.inbox with
    | none, event :: rest =>
      let turn := handleLinkEvent (duo.peer s) h.links event
      some (w.setHub s { h with links := turn.links, inbox := rest, reporting := turn.event })
    | _, _ => none
  | .report s =>
    let h := w.hub s
    h.reporting.map fun event => w.setHub s { h with reporting := none, events := h.events ++ [event] }
  | .accept c linkId => do
    let k ← w.connections[c]?
    if !w.isFresh k.opener.other linkId then none
    let (k', event) ← k.accept duo linkId
    let w := w.setConnection c k'
    return event.elim w (w.post k.opener.other)
  | .write c s => do
    let k ← w.connections[c]?
    let k' ← k.write s
    return w.setConnection c k'
  | .read c s => do
    let k ← w.connections[c]?
    let (k', event) ← k.read duo s
    return (w.setConnection c k').post s event
  | .stop c s => do
    let k ← w.connections[c]?
    if !w.mayStop duo k s then none
    return (w.setConnection c (k.close s)).post s (.disconnected (k.ends s).linkId (duo.session s.other))

end World

end LanChat
