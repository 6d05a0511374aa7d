import LanChat.Clean
import LanChat.Client.DirectPair

/-!
# One connection of two clients

While one connection joins the two hubs, every message one side has sent is told
by the other or on its way in one lane: the queue of the link task, the wire and
the other hub's events, in this order. The two conversation states and the
contents of the lanes determine each other's stage, and the stage fixes the
status with which each message is told.
-/

namespace LanChat

open Transition

/-- A chat frame. -/
structure Note where
  messageId : Uuid
  sentAtMs : ℕ
  text : String
deriving DecidableEq, Repr

namespace Note

def frame (n : Note) : DirectWireMessage := .chat n.messageId n.sentAtMs n.text

def event (linkId session : Uuid) (n : Note) : LinkEvent :=
  .message linkId session n.messageId n.sentAtMs n.text

/-- The message as both users are told of it. -/
def record (duo : Duo) (s : Side) (n : Note) : DirectRecord :=
  { messageId := n.messageId, sender := duo.peer s, recipientSessionId := duo.session s.other
    sentAtMs := n.sentAtMs, text := n.text }

end Note

/-- What is on its way in one direction: events of the receiving hub, frames on the wire,
and frames of the sending link task. -/
structure Lane where
  inbox : List Note
  wire : List Note
  out : List Note

def Lane.notes (lane : Lane) : List Note := lane.inbox ++ lane.wire ++ lane.out

/-- How far the called hub has come to know of the connection. -/
inductive Arrival where
  | called
  | accepted
  | adopted (state : ConversationState)

namespace Arrival

def state : Arrival → ConversationState
  | adopted state => state
  | _ => .new

/-- The hello that waits on the wire. -/
def hello (duo : Duo) (caller : Side) : Arrival → List DirectWireMessage
  | called => [.hello duo.groupId (duo.session caller) (duo.session caller.other)]
  | _ => []

/-- The event that waits for the called hub. -/
def event (duo : Duo) (caller : Side) (linkId : Uuid) : Arrival → List LinkEvent
  | accepted => [.connected linkId (duo.peer caller)]
  | _ => []

def link (duo : Duo) (caller : Side) (linkId : Uuid) : Arrival → Option DirectLink
  | adopted state => some ⟨linkId, duo.peer caller, .recipient, state⟩
  | _ => none

/-- The link task of the called side. -/
def End (linkId : Uuid) (out : List Note) (e : LinkEnd) : Arrival → Prop
  | called => e.state = .pending
  | _ => e = ⟨linkId, .running, out.map Note.frame⟩

/-- A link task that runs is that of an accepted connection. -/
theorem End.running {linkId : Uuid} {out : List Note} {e : LinkEnd} {arrival : Arrival}
    (task : arrival.End linkId out e) (running : e.state = .running) :
    e = ⟨linkId, .running, out.map Note.frame⟩ ∧ (∀ duo caller, arrival.hello duo caller = []) ∧
      (∀ ns, arrival.End linkId ns ⟨linkId, .running, ns.map Note.frame⟩) ∧ arrival ≠ .called := by
  cases arrival with
  | called => exact absurd (running.symm.trans task) nofun
  | accepted | adopted => exact ⟨task, fun _ _ => rfl, fun _ => rfl, nofun⟩

theorem End.alive {linkId : Uuid} {out : List Note} {e : LinkEnd} {arrival : Arrival}
    (task : arrival.End linkId out e) : e.state ≠ .stopped := by
  cases arrival with
  | called => exact fun stopped => absurd (stopped.symm.trans task) nofun
  | accepted | adopted => exact task ▸ nofun

end Arrival

/-- One connection, opened by `caller`, that neither hub has let go of; if `known`, the
called hub has taken it up. -/
structure Shape (duo : Duo) (caller : Side) (known : Prop) (idCaller idCallee : Uuid) (state : ConversationState)
    (arrival : Arrival) (there back : Lane) (k : Connection) (w : World) : Prop where
  only : w.connections = [k]
  opener : k.opener = caller
  callerEnd : k.ends caller = ⟨idCaller, .running, there.out.map Note.frame⟩
  calleeEnd : arrival.End idCallee back.out (k.ends caller.other)
  wireThere : k.wire caller.other = arrival.hello duo caller ++ there.wire.map Note.frame
  wireBack : k.wire caller = back.wire.map Note.frame
  linkCaller : (w.hub caller).links (duo.session caller.other) =
    some ⟨idCaller, duo.peer caller.other, .initiator, state⟩
  linkCallee : (w.hub caller.other).links (duo.session caller) = arrival.link duo caller idCallee
  inboxCaller : (w.hub caller).inbox = back.inbox.map (Note.event idCaller (duo.session caller.other))
  inboxCallee : (w.hub caller.other).inbox =
    arrival.event duo caller idCallee ++ there.inbox.map (Note.event idCallee (duo.session caller))
  early : arrival = .called → there.inbox = [] ∧ back.out = []
  adopted : known → ∃ state, arrival = .adopted state

/-- The connection with the two states and what is on its way in each direction. -/
def Joined (duo : Duo) (caller : Side) (known : Prop) (stateCaller stateCallee : ConversationState)
    (there back : List Note) (w : World) : Prop :=
  ∃ idCaller idCallee arrival laneThere laneBack k,
    Shape duo caller known idCaller idCallee stateCaller arrival laneThere laneBack k w ∧
      arrival.state = stateCallee ∧ laneThere.notes = there ∧ laneBack.notes = back

section
variable {duo : Duo} {caller s : Side} {known : Prop} {state stateCallee : ConversationState}
  {there back : List Note} {w w' : World} {c : ℕ} {linkId : Uuid} {k : Connection}

theorem only_connection {k k' : Connection} (only : w.connections = [k])
    (h : w.connections[c]? = some k') : c = 0 ∧ k' = k := by
  rw [only] at h
  cases c with
  | zero => exact ⟨rfl, (Option.some.inj h).symm⟩
  | succ c => cases h

theorem map_frame_eq_cons {notes : List Note} {frame : DirectWireMessage}
    {rest : List DirectWireMessage} (h : notes.map Note.frame = frame :: rest) :
    ∃ n ns, notes = n :: ns ∧ frame = n.frame ∧ rest = ns.map Note.frame := by
  obtain ⟨n, ns, rfl, rfl, rfl⟩ := List.map_eq_cons_iff.1 h
  exact ⟨n, ns, rfl, rfl, rfl⟩

/-- The link task of one end moves a frame to the wire. -/
theorem joined_write (h : w.step duo (.write c s) = some w')
    (joined : Joined duo caller known state stateCallee there back w) :
    Joined duo caller known state stateCallee there back w' ∧ w'.hub = w.hub := by
  obtain ⟨idCaller, idCallee, arrival, there, back, k, shape, rfl, rfl, rfl⟩ := joined
  simp only [World.step, Option.bind_eq_bind, Option.bind_eq_some_iff, Option.pure_def] at h
  obtain ⟨k', found, k'', written, h⟩ := h
  obtain ⟨rfl, rfl⟩ := only_connection shape.only found
  cases h
  refine ⟨?_, rfl⟩
  obtain rfl | rfl := Side.eq_or_other caller s
  · obtain ⟨frame, rest, -, waiting, rfl⟩ := Connection.write_cases shape.calleeEnd.alive written
    rw [shape.callerEnd] at waiting
    obtain ⟨n, ns, out, rfl, rfl⟩ := map_frame_eq_cons waiting
    refine ⟨idCaller, idCallee, arrival, ⟨there.inbox, there.wire ++ [n], ns⟩, back,
      (k'.setEnd s { k'.ends s with outbound := ns.map Note.frame }).setWire s.other
        (k'.wire s.other ++ [n.frame]),
      { only := by rw [World.setConnection_connections, shape.only]; rfl
        opener := shape.opener
        callerEnd := by simp [shape.callerEnd]
        calleeEnd := by simpa using shape.calleeEnd
        wireThere := by simp [shape.wireThere]
        wireBack := by simp [shape.wireBack]
        linkCaller := shape.linkCaller
        linkCallee := shape.linkCallee
        inboxCaller := shape.inboxCaller
        inboxCallee := shape.inboxCallee
        early := shape.early
        adopted := shape.adopted }, rfl, ?_, rfl⟩
    simp [Lane.notes, out]
  · have alive : (k'.ends caller.other.other).state ≠ .stopped := by
      simp [shape.callerEnd]
    obtain ⟨frame, rest, running, waiting, rfl⟩ := Connection.write_cases alive written
    obtain ⟨task, -, stays, accepted⟩ := shape.calleeEnd.running running
    rw [task] at waiting
    obtain ⟨n, ns, out, rfl, rfl⟩ := map_frame_eq_cons waiting
    refine ⟨idCaller, idCallee, arrival, there, ⟨back.inbox, back.wire ++ [n], ns⟩,
      (k'.setEnd caller.other { k'.ends caller.other with outbound := ns.map Note.frame }).setWire
        caller.other.other (k'.wire caller.other.other ++ [n.frame]),
      { only := by rw [World.setConnection_connections, shape.only]; rfl
        opener := shape.opener
        callerEnd := by simp [shape.callerEnd]
        calleeEnd := by simpa [task] using stays ns
        wireThere := by simp [shape.wireThere]
        wireBack := by simp [shape.wireBack]
        linkCaller := shape.linkCaller
        linkCallee := shape.linkCallee
        inboxCaller := shape.inboxCaller
        inboxCallee := shape.inboxCallee
        early := fun called => absurd called accepted
        adopted := shape.adopted }, rfl, rfl, ?_⟩
    simp [Lane.notes, out]

/-- What the users are told, or are about to be told, is the same after as before. -/
def SameNews (w w' : World) : Prop :=
  ∀ s, (w'.hub s).events = (w.hub s).events ∧ (w'.hub s).reporting = (w.hub s).reporting

/-- The link task of one end reads a frame, which becomes an event of its hub. -/
theorem joined_read (h : w.step duo (.read c s) = some w')
    (joined : Joined duo caller known state stateCallee there back w) :
    Joined duo caller known state stateCallee there back w' ∧ SameNews w w' := by
  obtain ⟨idCaller, idCallee, arrival, there, back, k, shape, rfl, rfl, rfl⟩ := joined
  simp only [World.step, Option.bind_eq_bind, Option.bind_eq_some_iff, Option.pure_def] at h
  obtain ⟨k', found, ⟨k'', event⟩, arrived, h⟩ := h
  obtain ⟨rfl, rfl⟩ := only_connection shape.only found
  cases h
  obtain ⟨running, frame, rest, front, effect⟩ := Connection.read_cases arrived
  obtain rfl | rfl := Side.eq_or_other caller s
  · rw [shape.wireBack] at front
    obtain ⟨n, ns, wire, rfl, rfl⟩ := map_frame_eq_cons front
    obtain ⟨rfl, rfl⟩ := effect
    refine ⟨⟨idCaller, idCallee, arrival, there, ⟨back.inbox ++ [n], ns, back.out⟩,
      k'.setWire s (ns.map Note.frame),
      { only := by simp [shape.only]
        opener := shape.opener
        callerEnd := by simp [shape.callerEnd]
        calleeEnd := by simpa using shape.calleeEnd
        wireThere := by simp [shape.wireThere]
        wireBack := by simp
        linkCaller := by simp [shape.linkCaller]
        linkCallee := by simp [shape.linkCallee]
        inboxCaller := by simp [shape.inboxCaller, shape.callerEnd, Note.event]
        inboxCallee := by simp [shape.inboxCallee]
        early := shape.early
        adopted := shape.adopted }, rfl, rfl, by simp [Lane.notes, wire]⟩, fun t => ?_⟩
    obtain rfl | rfl := Side.eq_or_other s t <;> simp
  · obtain ⟨task, answered, stays, accepted⟩ := shape.calleeEnd.running running
    rw [shape.wireThere, answered, List.nil_append] at front
    obtain ⟨n, ns, wire, rfl, rfl⟩ := map_frame_eq_cons front
    obtain ⟨rfl, rfl⟩ := effect
    refine ⟨⟨idCaller, idCallee, arrival, ⟨there.inbox ++ [n], ns, there.out⟩, back,
      k'.setWire caller.other (ns.map Note.frame),
      { only := by simp [shape.only]
        opener := shape.opener
        callerEnd := by simp [shape.callerEnd]
        calleeEnd := by simpa using shape.calleeEnd
        wireThere := by simp [answered]
        wireBack := by simp [shape.wireBack]
        linkCaller := by simp [shape.linkCaller]
        linkCallee := by simp [shape.linkCallee]
        inboxCaller := by simp [shape.inboxCaller]
        inboxCallee := by simp [shape.inboxCallee, task, Note.event]
        early := fun called => absurd called accepted
        adopted := shape.adopted }, rfl, by simp [Lane.notes, wire], rfl⟩,
      fun t => ?_⟩
    obtain rfl | rfl := Side.eq_or_other caller t <;> simp

/-- The called side lets the caller in: the two know each other's records. -/
theorem acceptDirectLink_hello (duo : Duo) (caller : Side) :
    acceptDirectLink duo.groupId (duo.session caller.other) duo.members
      (duo.direct caller).fingerprint
      (.hello duo.groupId (duo.session caller) (duo.session caller.other)) = .ok (duo.peer caller) := by
  simp [acceptDirectLink, duo.memberOf_members, duo.advertised, eqIgnoreAsciiCase]

theorem joined_accept (h : w.step duo (.accept c linkId) = some w')
    (joined : Joined duo caller known state stateCallee there back w) :
    Joined duo caller known state stateCallee there back w' ∧ SameNews w w' := by
  obtain ⟨idCaller, idCallee, arrival, there, back, k, shape, rfl, rfl, rfl⟩ := joined
  simp only [World.step, Option.bind_eq_bind, Option.bind_eq_some_iff, Option.pure_def] at h
  obtain ⟨k', found, h⟩ := h
  obtain ⟨rfl, rfl⟩ := only_connection shape.only found
  split at h
  · cases h
  · obtain ⟨⟨k'', event⟩, arrived, h⟩ := Option.bind_eq_some_iff.1 h
    cases h
    obtain ⟨pending, frame, rest, front, effect⟩ := Connection.accept_cases arrived
    rw [shape.opener] at pending front effect
    obtain rfl : arrival = .called := by
      have task := shape.calleeEnd
      cases arrival with
      | called => rfl
      | accepted | adopted =>
        rw [show k'.ends caller.other = _ from task] at pending
        cases pending
    obtain ⟨noEvents, noFrames⟩ := shape.early rfl
    rw [shape.wireThere] at front
    cases front
    rw [acceptDirectLink_hello] at effect
    obtain ⟨rfl, rfl⟩ := effect
    refine ⟨⟨idCaller, linkId, .accepted, there, back,
      (k'.setEnd caller.other ⟨linkId, .running, []⟩).setWire caller.other
        (there.wire.map Note.frame),
      { only := by simp [shape.only]
        opener := shape.opener
        callerEnd := by simp [shape.callerEnd]
        calleeEnd := by simp [Arrival.End, noFrames]
        wireThere := by simp [Arrival.hello]
        wireBack := by simp [shape.wireBack]
        linkCaller := by simp [shape.linkCaller, shape.opener]
        linkCallee := by simp [shape.linkCallee, shape.opener, Arrival.link]
        inboxCaller := by simp [shape.inboxCaller, shape.opener]
        inboxCallee := by simp [shape.inboxCallee, shape.opener, noEvents, Arrival.event]
        early := nofun
        adopted := fun yes => absurd (shape.adopted yes) nofun }, rfl, rfl, rfl⟩, fun t => ?_⟩
    obtain rfl | rfl := Side.eq_or_other caller t <;> simp [shape.opener]

/-- Neither link task ends: both hubs have, or are given, the handle of theirs. -/
theorem joined_stop (joined : Joined duo caller known state stateCallee there back w) :
    w.step duo (.stop c s) = none := by
  obtain ⟨idCaller, idCallee, arrival, there, back, k, shape, rfl, rfl, rfl⟩ := joined
  simp only [World.step, Option.bind_eq_bind, Option.pure_def]
  cases found : w.connections[c]? with
  | none => rfl
  | some k' =>
    obtain ⟨rfl, rfl⟩ := only_connection shape.only found
    have kept : w.mayStop duo k' s = false := by
      obtain rfl | rfl := Side.eq_or_other caller s
      · have alive := shape.calleeEnd.alive
        simp [World.mayStop, World.holds, shape.callerEnd, shape.linkCaller, alive]
      · by_cases running : (k'.ends caller.other).state = .running
        · obtain ⟨task, -, -, accepted⟩ := shape.calleeEnd.running running
          have held : w.holds duo caller.other idCallee = true := by
            cases arrival with
            | called => exact absurd rfl accepted
            | accepted => simp [World.holds, shape.inboxCallee, Arrival.event]
            | adopted state => simp [World.holds, shape.linkCallee, Arrival.link]
          simp [World.mayStop, task, held, shape.callerEnd]
        · simp [World.mayStop, running]
    simp [kept]

/-- The connection is between the hubs' links, their queues and the link tasks. -/
theorem Joined.congr (joined : Joined duo caller known state stateCallee there back w)
    (same : ∀ t, (w'.hub t).links = (w.hub t).links ∧ (w'.hub t).inbox = (w.hub t).inbox)
    (connections : w'.connections = w.connections) :
    Joined duo caller known state stateCallee there back w' := by
  obtain ⟨idCaller, idCallee, arrival, there, back, k, shape, rfl, rfl, rfl⟩ := joined
  exact ⟨idCaller, idCallee, arrival, there, back, k,
    { shape with
      only := connections.trans shape.only
      linkCaller := by rw [(same _).1, shape.linkCaller]
      linkCallee := by rw [(same _).1, shape.linkCallee]
      inboxCaller := by rw [(same _).2, shape.inboxCaller]
      inboxCallee := by rw [(same _).2, shape.inboxCallee] }, rfl, rfl, rfl⟩

/-- A hub that only talks to its user keeps its links and its queue. -/
theorem same_links {reporting : Option ServerMessage} {events : List ServerMessage} (t : Side) :
    ((w.setHub s ⟨(w.hub s).links, (w.hub s).inbox, reporting, events⟩).hub t).links = (w.hub t).links ∧
      ((w.setHub s ⟨(w.hub s).links, (w.hub s).inbox, reporting, events⟩).hub t).inbox =
        (w.hub t).inbox := by
  by_cases here : t = s
  · subst here
    simp
  · simp [w.setHub_hub_of_ne _ here]

theorem joined_report (h : w.step duo (.report s) = some w')
    (joined : Joined duo caller known state stateCallee there back w) :
    Joined duo caller known state stateCallee there back w' := by
  obtain ⟨event, -, rfl⟩ := Option.map_eq_some_iff.1 h
  exact joined.congr same_links rfl

end

/-! ## The stages of a conversation -/

/-- A message with the status it is told with. -/
abbrev News := DirectRecord × PrivateConversationStatus

/-- The two states, what is on its way to the called side and back, what the caller has
sent, what the called side has heard of it, and the same of the answers. -/
inductive Talk (duo : Duo) (caller : Side) : ConversationState → ConversationState →
    List Note → List Note → List News → List News → List News → List News → Prop where
  | quiet : Talk duo caller .new .new [] [] [] [] [] []
  | opened (n : Note) : Talk duo caller .awaitingReply .new [n] []
      [(n.record duo caller, .awaitingReply (duo.session caller))] [] [] []
  | waiting (opening : News) : Talk duo caller .awaitingReply .awaitingReply [] []
      [opening] [opening] [] []
  | replied (opening : News) (n : Note) (ns : List Note) :
      Talk duo caller .awaitingReply .active [] (n :: ns) [opening] [opening]
        ((n :: ns).map fun n => (n.record duo caller.other, .active)) []
  | talking (there back : List Note) (got heard : List News) : heard ≠ [] →
      Talk duo caller .active .active there back
        (got ++ there.map fun n => (n.record duo caller, .active)) got
        (heard ++ back.map fun n => (n.record duo caller.other, .active)) heard

namespace Talk

variable {duo : Duo} {caller : Side} {state stateCallee state' : ConversationState}
  {there back : List Note} {sent got answers heard : List News} {status : PrivateConversationStatus}

/-- Nothing is heard that was not sent, in another order, or with another status. -/
theorem told_sent (talk : Talk duo caller state stateCallee there back sent got answers heard) :
    got <+: sent ∧ heard <+: answers := by
  cases talk with
  | quiet => exact ⟨List.prefix_rfl, List.prefix_rfl⟩
  | opened n => exact ⟨List.nil_prefix, List.prefix_rfl⟩
  | waiting opening => exact ⟨List.prefix_rfl, List.prefix_rfl⟩
  | replied opening n ns => exact ⟨List.prefix_rfl, List.nil_prefix⟩
  | talking there back got heard _ => exact ⟨List.prefix_append .., List.prefix_append ..⟩

/-- With nothing on its way the two sides agree. -/
theorem settled (talk : Talk duo caller state stateCallee [] [] sent got answers heard) :
    state = stateCallee ∧ got = sent ∧ heard = answers := by
  cases talk with
  | quiet => exact ⟨rfl, rfl, rfl⟩
  | waiting opening => exact ⟨rfl, rfl, rfl⟩
  | talking _ _ _ _ _ => exact ⟨rfl, (List.append_nil _).symm, (List.append_nil _).symm⟩

/-- Before it has heard an answer the caller has sent one message at most. -/
theorem opening (talk : Talk duo caller state stateCallee there back sent got answers heard)
    (unanswered : heard = []) : sent.length ≤ 1 := by
  cases talk with
  | quiet => exact Nat.zero_le 1
  | opened n => exact le_rfl
  | waiting opening => exact le_rfl
  | replied opening n ns => exact le_rfl
  | talking _ _ _ _ answered => exact absurd unanswered answered

theorem caller_sends (talk : Talk duo caller state stateCallee there back sent got answers heard)
    (h : sendStatus (duo.session caller) .initiator state = .ok (state', status)) (n : Note) :
    Talk duo caller state' stateCallee (there ++ [n]) back (sent ++ [(n.record duo caller, status)])
      got answers heard := by
  cases talk with
  | quiet =>
    cases h
    exact .opened n
  | opened _ | waiting _ | replied _ _ _ => cases h
  | talking there back got heard answered =>
    cases h
    simpa using @Talk.talking duo caller (there ++ [n]) back got heard answered

theorem callee_sends (talk : Talk duo caller state stateCallee there back sent got answers heard)
    (h : sendStatus (duo.session caller.other) .recipient stateCallee = .ok (state', status))
    (n : Note) :
    Talk duo caller state state' there (back ++ [n]) sent got
      (answers ++ [(n.record duo caller.other, status)]) heard := by
  cases talk with
  | quiet | opened _ => cases h
  | waiting opening =>
    cases h
    exact .replied opening n []
  | replied opening m ms =>
    cases h
    simpa using @Talk.replied duo caller opening m (ms ++ [n])
  | talking there back got heard answered =>
    cases h
    simpa using @Talk.talking duo caller there (back ++ [n]) got heard answered

theorem caller_hears {n : Note}
    (talk : Talk duo caller state stateCallee there (n :: back) sent got answers heard) :
    ∃ state' status,
      receiveStatus (duo.session caller.other) .initiator state = some (state', status) ∧
      Talk duo caller state' stateCallee there back sent got answers
        (heard ++ [(n.record duo caller.other, status)]) := by
  cases talk with
  | replied opening n ns =>
    refine ⟨.active, .active, rfl, ?_⟩
    simpa using @Talk.talking duo caller [] back [opening]
      [(n.record duo caller.other, .active)] (by simp)
  | talking there _ got heard answered =>
    refine ⟨.active, .active, rfl, ?_⟩
    rw [List.map_cons, List.append_cons]
    exact .talking there back got _ (by simp)

theorem callee_hears {n : Note}
    (talk : Talk duo caller state stateCallee (n :: there) back sent got answers heard) :
    ∃ state' status,
      receiveStatus (duo.session caller) .recipient stateCallee = some (state', status) ∧
      Talk duo caller state state' there back sent (got ++ [(n.record duo caller, status)])
        answers heard := by
  cases talk with
  | opened n => exact ⟨.awaitingReply, _, rfl, .waiting _⟩
  | talking _ back got heard answered =>
    refine ⟨.active, .active, rfl, ?_⟩
    rw [List.map_cons, List.append_cons]
    exact .talking there back _ heard answered

end Talk

/-! ## The turns of the two hubs -/

/-- The messages of `s` that the user at `reader` has been told, or is about to be. -/
def World.told (duo : Duo) (w : World) (s reader : Side) : List News :=
  privateMessages (duo.session s) (duo.session s.other)
    ((w.hub reader).events ++ (w.hub reader).reporting.toList)

/-- One connection that carries a conversation in one of its stages. -/
def Conversing (duo : Duo) (caller : Side) (known : Prop) (w : World) : Prop :=
  ∃ state stateCallee there back, Joined duo caller known state stateCallee there back w ∧
    Talk duo caller state stateCallee there back (w.told duo caller caller)
      (w.told duo caller caller.other) (w.told duo caller.other caller.other)
      (w.told duo caller.other caller) ∧
    ∀ n ∈ there ++ back, sanitizeChatText n.text = .ok n.text

section
variable {duo : Duo} {caller s t reader : Side} {known : Prop} {w w' : World} {n : Note}
  {status : PrivateConversationStatus}

theorem told_same (same : SameNews w w') : w'.told duo s reader = w.told duo s reader := by
  rw [World.told, World.told, (same reader).1, (same reader).2]

theorem told_report (h : w.step duo (.report t) = some w') :
    w'.told duo s reader = w.told duo s reader := by
  obtain ⟨event, pending, rfl⟩ := Option.map_eq_some_iff.1 h
  obtain rfl | rfl := Side.eq_or_other t reader
  · simp [World.told, pending]
  · simp [World.told]

theorem session_inj : duo.session s = duo.session t ↔ s = t := by
  constructor
  · intro same
    obtain rfl | rfl := Side.eq_or_other t s
    · rfl
    · exact absurd same.symm (duo.session_ne t)
  · exact congrArg _

/-- A message counts for the side that sent it. -/
theorem privateMessages_record : privateMessages (duo.session t) (duo.session t.other)
    [.privateMessage (n.record duo s) status] =
      if s = t then [(n.record duo s, status)] else [] := by
  have sender : (n.record duo s).sender.sessionId = duo.session s := rfl
  have recipient : (n.record duo s).recipientSessionId = duo.session s.other := rfl
  obtain rfl | rfl := Side.eq_or_other s t
  · simp [privateMessages, sender, recipient]
  · simp [privateMessages, sender, session_inj]

theorem take_cases (h : w.step duo (.take s) = some w') : (w.hub s).reporting = none ∧
    ∃ event rest, (w.hub s).inbox = event :: rest ∧
      w' = w.setHub s ⟨(handleLinkEvent (duo.peer s) (w.hub s).links event).links, rest,
        (handleLinkEvent (duo.peer s) (w.hub s).links event).event, (w.hub s).events⟩ := by
  simp only [World.step] at h
  split at h
  · next event rest free inbox =>
    cases h
    exact ⟨free, event, rest, inbox, rfl⟩
  · cases h

/-- The turn that shows a message of the link's peer `t`. -/
theorem handle_note {links : Links} {link : DirectLink} {state : ConversationState}
    (apart : t.other = reader) (held : links (duo.session t) = some link)
    (admitted : receiveStatus (duo.session t) link.role link.state = some (state, status))
    (clean : sanitizeChatText n.text = .ok n.text) (peer : link.peer = duo.peer t) :
    handleLinkEvent (duo.peer reader) links (n.event link.linkId (duo.session t)) =
      { links := Function.update links (duo.session t) (some { link with state }), wire := none
        event := some (.privateMessage (n.record duo t) status) } := by
  subst apart
  have recipient : (duo.peer t.other).sessionId = duo.session t.other := rfl
  simp [handleLinkEvent, Note.event, held, admitted, clean, Note.record, peer, recipient]

/-- What a hub's turn tells is added to the news of its user. -/
theorem told_turn {links : Links} {inbox : List LinkEvent} {event : Option ServerMessage}
    (free : (w.hub reader).reporting = none) :
    (w.setHub reader ⟨links, inbox, event, (w.hub reader).events⟩).told duo s reader =
      w.told duo s reader ++
        privateMessages (duo.session s) (duo.session s.other) event.toList := by
  simp [World.told, free]

theorem told_other {h : HubTask} (apart : reader ≠ t) :
    (w.setHub t h).told duo s reader = w.told duo s reader := by
  rw [World.told, World.told, w.setHub_hub_of_ne h apart]

theorem told_connections {connections : List Connection} :
    (w.withConnections connections).told duo s reader = w.told duo s reader := rfl

/-- The caller takes a message of the called side. -/
theorem conversing_take_caller (h : w.step duo (.take caller) = some w')
    (conversing : Conversing duo caller known w) : Conversing duo caller known w' := by
  obtain ⟨state, stateCallee, _, _, ⟨idCaller, idCallee, arrival, there, back, k, shape, rfl, rfl, rfl⟩,
    talk, clean⟩ := conversing
  obtain ⟨free, event, rest, inbox, rfl⟩ := take_cases h
  rw [shape.inboxCaller] at inbox
  obtain ⟨n, ns, first, rfl, rfl⟩ := List.map_eq_cons_iff.1 inbox
  have notes : back.notes = n :: (ns ++ back.wire ++ back.out) := by simp [Lane.notes, first]
  rw [notes] at talk clean
  obtain ⟨state', status, admitted, talk⟩ := talk.caller_hears
  rw [handle_note caller.other_other shape.linkCaller admitted (clean n (by simp)) rfl]
  refine ⟨state', arrival.state, there.notes, ns ++ back.wire ++ back.out,
    ⟨idCaller, idCallee, arrival, there, ⟨ns, back.wire, back.out⟩, k,
      { shape with
        linkCaller := by simp
        linkCallee := by simpa using shape.linkCallee
        inboxCaller := by simp
        inboxCallee := by simpa using shape.inboxCallee }, rfl, rfl, rfl⟩, ?_, fun m mem => ?_⟩
  · rw [told_turn free, told_turn free, told_other caller.other_ne,
      told_other caller.other_ne, Option.toList_some, privateMessages_record, privateMessages_record,
      if_neg caller.other_ne, if_pos rfl, List.append_nil]
    exact talk
  · apply clean m
    simp only [List.mem_append, List.mem_cons] at mem ⊢
    tauto

/-- The called side takes the new link, or a message of the caller. -/
theorem conversing_take_callee (h : w.step duo (.take caller.other) = some w')
    (conversing : Conversing duo caller known w) : Conversing duo caller known w' := by
  obtain ⟨state, stateCallee, _, _, ⟨idCaller, idCallee, arrival, there, back, k, shape, rfl, rfl, rfl⟩,
    talk, clean⟩ := conversing
  obtain ⟨free, event, rest, inbox, rfl⟩ := take_cases h
  rw [shape.inboxCallee] at inbox
  cases arrival with
  | called =>
    rw [(shape.early rfl).1] at inbox
    cases inbox
  | accepted =>
    cases inbox
    have adopts : handleLinkEvent (duo.peer caller.other) (w.hub caller.other).links
        (.connected idCallee (duo.peer caller)) =
          .idle (Function.update (w.hub caller.other).links (duo.session caller)
            (some ⟨idCallee, duo.peer caller, .recipient, .new⟩)) := by
      have key : (duo.peer caller).sessionId = duo.session caller := rfl
      simp [handleLinkEvent, key, shape.linkCallee, Arrival.link]
    rw [adopts]
    refine ⟨state, .new, there.notes, back.notes,
      ⟨idCaller, idCallee, .adopted .new, there, back, k,
        { shape with
          linkCaller := by simpa using shape.linkCaller
          linkCallee := by simp [Turn.idle, Arrival.link]
          inboxCaller := by simpa using shape.inboxCaller
          inboxCallee := by simp [Arrival.event]
          early := by simp
          adopted := fun _ => ⟨_, rfl⟩ }, rfl, rfl, rfl⟩, ?_, clean⟩
    rw [told_turn free, told_turn free, told_other caller.ne_other,
      told_other caller.ne_other, Turn.idle, Option.toList_none, privateMessages_nil,
      List.append_nil, privateMessages_nil, List.append_nil]
    exact talk
  | adopted stateCallee =>
    obtain ⟨n, ns, first, rfl, rfl⟩ := List.map_eq_cons_iff.1 inbox
    have notes : there.notes = n :: (ns ++ there.wire ++ there.out) := by simp [Lane.notes, first]
    rw [notes] at talk clean
    obtain ⟨state', status, admitted, talk⟩ := talk.callee_hears
    rw [handle_note rfl shape.linkCallee admitted (clean n (by simp)) rfl]
    refine ⟨state, state', ns ++ there.wire ++ there.out, back.notes,
      ⟨idCaller, idCallee, .adopted state', ⟨ns, there.wire, there.out⟩, back, k,
        { shape with
          linkCaller := by simpa using shape.linkCaller
          linkCallee := by simp [Arrival.link]
          inboxCaller := by simpa using shape.inboxCaller
          inboxCallee := by simp [Arrival.event]
          early := by simp
          adopted := fun _ => ⟨_, rfl⟩ }, rfl, rfl, rfl⟩, ?_, fun m mem => ?_⟩
    · rw [told_turn free, told_turn free, told_other caller.ne_other,
        told_other caller.ne_other, Option.toList_some, privateMessages_record,
        privateMessages_record, if_pos rfl, if_neg caller.ne_other, List.append_nil]
      exact talk
    · apply clean m
      simp only [List.mem_append, List.mem_cons] at mem ⊢
      tauto

/-- What a `Send` to a link that is held does to the world. -/
inductive SendEffect (duo : Duo) (s : Side) (w : World) (messageId : Uuid) (text : String) (nowMs : ℕ)
    (link : DirectLink) : World → Prop where
  | refused (code message : String) : SendEffect duo s w messageId text nowMs link
      (w.setHub s ⟨(w.hub s).links, (w.hub s).inbox, some (.error code message), (w.hub s).events⟩)
  | sent (n : Note) (state : ConversationState) (status : PrivateConversationStatus) :
      sanitizeChatText n.text = .ok n.text →
      sendStatus (duo.session s) link.role link.state = .ok (state, status) →
      SendEffect duo s w messageId text nowMs link
        ((w.setHub s ⟨Function.update (w.hub s).links (duo.session s.other) (some { link with state }),
            (w.hub s).inbox, some (.privateMessage (n.record duo s) status),
            (w.hub s).events⟩).withConnections
          (w.connections.map fun k => k.hand s link.linkId n.frame))

theorem send_cases {messageId linkId : Uuid} {text : String} {nowMs : ℕ} {link : DirectLink}
    (h : w.step duo (.send s messageId text linkId nowMs) = some w')
    (held : (w.hub s).links (duo.session s.other) = some link) (taken : w.taken duo s = true) :
    (w.hub s).reporting = none ∧ SendEffect duo s w messageId text nowMs link w' := by
  simp only [World.step] at h
  split at h
  · next free =>
    cases h
    rw [Bool.and_eq_true, Option.isNone_iff_eq_none] at free
    refine ⟨free.1, ?_⟩
    have outcome := @sendOutcome (duo.peer s) (w.env duo s linkId nowMs) (w.hub s).links
      (duo.session s.other) messageId text
    unfold World.send
    simp only [handleCommand, held, Option.isSome_some, if_true]
    generalize handleSend _ _ _ _ _ _ = turn at outcome
    cases outcome with
    | refused code message => exact .refused code message
    | dropped code message closed => exact absurd (taken.symm.trans closed) (by simp)
    | sent opened cleaned state status accepted open' passes =>
      obtain same | ⟨fresh, -⟩ := openLink_ok open'
      · obtain rfl := Option.some.inj (held.symm.trans same)
        exact .sent ⟨messageId, nowMs, cleaned⟩ state status (sanitizeChatText_again accepted) passes
      · exact absurd (held.symm.trans fresh) (by simp)
  · cases h

theorem told_refused {links : Links} {inbox : List LinkEvent} {code message : String}
    (free : (w.hub t).reporting = none) :
    (w.setHub t ⟨links, inbox, some (.error code message), (w.hub t).events⟩).told duo s reader =
      w.told duo s reader := by
  by_cases here : reader = t
  · subst here
    rw [told_turn free, Option.toList_some]
    exact List.append_nil _
  · exact told_other here

/-- A refused `Send` tells an error and changes nothing else. -/
theorem conversing_refused {code message : String} (free : (w.hub s).reporting = none)
    (conversing : Conversing duo caller known w) : Conversing duo caller known
      (w.setHub s ⟨(w.hub s).links, (w.hub s).inbox, some (.error code message), (w.hub s).events⟩) := by
  obtain ⟨state, stateCallee, there, back, joined, talk, clean⟩ := conversing
  refine ⟨state, stateCallee, there, back, joined.congr same_links rfl, ?_, clean⟩
  rw [told_refused free, told_refused free, told_refused free, told_refused free]
  exact talk

/-- A message of the caller joins what is on its way. -/
theorem conversing_send_caller {messageId linkId : Uuid} {text : String} {nowMs : ℕ}
    (h : w.step duo (.send caller messageId text linkId nowMs) = some w')
    (conversing : Conversing duo caller known w) : Conversing duo caller known w' := by
  have before := conversing
  obtain ⟨state, stateCallee, _, _, ⟨idCaller, idCallee, arrival, there, back, k, shape, rfl, rfl, rfl⟩,
    talk, clean⟩ := conversing
  have taken : w.taken duo caller = true := by
    simp [World.taken, shape.linkCaller, shape.only, shape.callerEnd]
  obtain ⟨free, effect⟩ := send_cases h shape.linkCaller taken
  cases effect with
  | refused code message => exact conversing_refused free before
  | sent n state' status again passes =>
    refine ⟨state', arrival.state, there.notes ++ [n], back.notes,
      ⟨idCaller, idCallee, arrival, ⟨there.inbox, there.wire, there.out ++ [n]⟩, back,
        k.setEnd caller { k.ends caller with outbound := (k.ends caller).outbound ++ [n.frame] },
        { only := ?_
          opener := shape.opener
          callerEnd := by simp [shape.callerEnd]
          calleeEnd := by simpa using shape.calleeEnd
          wireThere := shape.wireThere
          wireBack := shape.wireBack
          linkCaller := by simp
          linkCallee := by simpa using shape.linkCallee
          inboxCaller := by simpa using shape.inboxCaller
          inboxCallee := by simpa using shape.inboxCallee
          early := shape.early
          adopted := shape.adopted }, rfl, by simp [Lane.notes], rfl⟩,
      ?_, fun m mem => ?_⟩
    · rw [World.withConnections_connections, shape.only, List.map_singleton,
        k.hand_eq (by rw [shape.callerEnd])]
    · rw [told_connections, told_connections, told_connections, told_connections, told_turn free,
        told_turn free, told_other caller.other_ne, told_other caller.other_ne, Option.toList_some,
        privateMessages_record, privateMessages_record, if_pos rfl, if_neg caller.ne_other,
        List.append_nil]
      exact talk.caller_sends passes n
    · simp only [List.mem_append, List.mem_singleton] at mem
      obtain (mem | rfl) | mem := mem
      · exact clean m (List.mem_append_left _ mem)
      · exact again
      · exact clean m (List.mem_append_right _ mem)

/-- An answer joins what is on its way back. -/
theorem conversing_send_callee {messageId linkId : Uuid} {text : String} {nowMs : ℕ}
    (h : w.step duo (.send caller.other messageId text linkId nowMs) = some w')
    (taken : (w.hub caller.other).links (duo.session caller) ≠ none)
    (conversing : Conversing duo caller known w) : Conversing duo caller known w' := by
  have before := conversing
  obtain ⟨state, stateCallee, _, _, ⟨idCaller, idCallee, arrival, there, back, k, shape, rfl, rfl, rfl⟩,
    talk, clean⟩ := conversing
  cases arrival with
  | called | accepted => exact absurd shape.linkCallee taken
  | adopted stateCallee =>
    have held : (w.hub caller.other).links (duo.session caller.other.other) =
        some ⟨idCallee, duo.peer caller, .recipient, stateCallee⟩ := by
      rw [Side.other_other]
      exact shape.linkCallee
    have task : k.ends caller.other = ⟨idCallee, .running, back.out.map Note.frame⟩ := shape.calleeEnd
    have taken : w.taken duo caller.other = true := by
      simp [World.taken, shape.linkCallee, shape.only, task, Arrival.link]
    obtain ⟨free, effect⟩ := send_cases h held taken
    cases effect with
    | refused code message => exact conversing_refused free before
    | sent n state' status again passes =>
      refine ⟨state, state', there.notes, back.notes ++ [n],
        ⟨idCaller, idCallee, .adopted state', there, ⟨back.inbox, back.wire, back.out ++ [n]⟩,
          k.setEnd caller.other { k.ends caller.other with
            outbound := (k.ends caller.other).outbound ++ [n.frame] },
          { only := ?_
            opener := shape.opener
            callerEnd := by simp [shape.callerEnd]
            calleeEnd := by simp [Arrival.End, task]
            wireThere := shape.wireThere
            wireBack := shape.wireBack
            linkCaller := by simpa using shape.linkCaller
            linkCallee := by simp [Arrival.link]
            inboxCaller := by simpa using shape.inboxCaller
            inboxCallee := by simp [shape.inboxCallee, Arrival.event]
            early := nofun
            adopted := fun _ => ⟨_, rfl⟩ }, rfl, rfl, by simp [Lane.notes]⟩,
        ?_, fun m mem => ?_⟩
      · rw [World.withConnections_connections, shape.only, List.map_singleton,
          k.hand_eq (by rw [task])]
      · rw [told_connections, told_connections, told_connections, told_connections, told_turn free,
          told_turn free, told_other caller.ne_other, told_other caller.ne_other, Option.toList_some,
          privateMessages_record, privateMessages_record, if_pos rfl, if_neg caller.other_ne,
          List.append_nil]
        exact talk.callee_sends passes n
      · simp only [List.mem_append, List.mem_singleton] at mem
        obtain mem | mem | rfl := mem
        · exact clean m (List.mem_append_left _ mem)
        · exact clean m (List.mem_append_right _ mem)
        · exact again

/-- A text that is refused before any link is looked up. -/
theorem conversing_rejected {messageId linkId : Uuid} {text error : String} {nowMs : ℕ}
    (h : w.step duo (.send s messageId text linkId nowMs) = some w')
    (rejected : sanitizeChatText text = .error error) (conversing : Conversing duo caller known w) :
    Conversing duo caller known w' := by
  simp only [World.step] at h
  split at h
  · next free =>
    cases h
    rw [Bool.and_eq_true, Option.isNone_iff_eq_none] at free
    have refused : w.send duo s messageId text linkId nowMs = w.setHub s
        ⟨(w.hub s).links, (w.hub s).inbox, some (.error "invalid_private_message" error),
          (w.hub s).events⟩ := by
      simp [World.send, handleCommand, handleSend, rejected, Turn.fail, World.withConnections,
        World.setHub]
    rw [refused]
    exact conversing_refused free.1 conversing
  · cases h

/-- **One step of a conversation**, as long as the called side opens no connection of its own. -/
theorem conversing_step {action : PairAction} (h : w.step duo action = some w')
    (ready : ∀ messageId text linkId nowMs, action = .send caller.other messageId text linkId nowMs →
      (w.hub caller.other).links (duo.session caller) ≠ none ∨
        ∃ error, sanitizeChatText text = .error error)
    (conversing : Conversing duo caller known w) : Conversing duo caller known w' := by
  cases action with
  | send s messageId text linkId nowMs =>
    obtain rfl | rfl := Side.eq_or_other caller s
    · exact conversing_send_caller h conversing
    · obtain taken | ⟨error, rejected⟩ := ready messageId text linkId nowMs rfl
      · exact conversing_send_callee h taken conversing
      · exact conversing_rejected h rejected conversing
  | take s =>
    obtain rfl | rfl := Side.eq_or_other caller s
    · exact conversing_take_caller h conversing
    · exact conversing_take_callee h conversing
  | report s =>
    obtain ⟨state, stateCallee, there, back, joined, talk, clean⟩ := conversing
    refine ⟨state, stateCallee, there, back, joined_report h joined, ?_, clean⟩
    rw [told_report h, told_report h, told_report h, told_report h]
    exact talk
  | accept c linkId =>
    obtain ⟨state, stateCallee, there, back, joined, talk, clean⟩ := conversing
    obtain ⟨joined, same⟩ := joined_accept h joined
    refine ⟨state, stateCallee, there, back, joined, ?_, clean⟩
    rw [told_same same, told_same same, told_same same, told_same same]
    exact talk
  | write c s =>
    obtain ⟨state, stateCallee, there, back, joined, talk, clean⟩ := conversing
    obtain ⟨joined, hub⟩ := joined_write h joined
    have same : SameNews w w' := fun t => by rw [hub]; exact ⟨rfl, rfl⟩
    refine ⟨state, stateCallee, there, back, joined, ?_, clean⟩
    rw [told_same same, told_same same, told_same same, told_same same]
    exact talk
  | read c s =>
    obtain ⟨state, stateCallee, there, back, joined, talk, clean⟩ := conversing
    obtain ⟨joined, same⟩ := joined_read h joined
    refine ⟨state, stateCallee, there, back, joined, ?_, clean⟩
    rw [told_same same, told_same same, told_same same, told_same same]
    exact talk
  | stop c s =>
    obtain ⟨state, stateCallee, there, back, joined, -, -⟩ := conversing
    rw [joined_stop joined] at h
    cases h

end

end LanChat
