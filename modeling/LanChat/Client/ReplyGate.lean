import LanChat.Base.Transition
import LanChat.Client.Direct

/-!
# The reply gate

A hub over a run of turns. The gate is the state of one link, and a link that
ends takes its state with it: a peer that connects anew may open again. As long
as no new link of a peer is adopted after a message of it was shown, at most one
is shown before the user answers.
-/

namespace LanChat

open Transition

/-- A hub between two turns: its links, and what it has told the user interface. -/
structure Hub where
  links : Links
  events : List ServerMessage

inductive HubInput where
  | command (env : HubEnv) (command : DirectCommand)
  | event (event : LinkEvent)

/-- The private messages among `events` from one session to another, in order. -/
def privateMessages (sender recipient : Uuid) (events : List ServerMessage) :
    List (DirectRecord × PrivateConversationStatus) :=
  events.filterMap fun
    | .privateMessage message status =>
      if message.sender.sessionId = sender ∧ message.recipientSessionId = recipient then
        some (message, status)
      else none
    | _ => none

@[simp] theorem privateMessages_nil (a b : Uuid) : privateMessages a b [] = [] := rfl

@[simp] theorem privateMessages_append (a b : Uuid) (xs ys : List ServerMessage) :
    privateMessages a b (xs ++ ys) = privateMessages a b xs ++ privateMessages a b ys :=
  List.filterMap_append

namespace Hub

def start : Hub := ⟨.empty, []⟩

def turn (localPeer : Peer) (hub : Hub) : HubInput → Turn
  | .command env command => handleCommand localPeer env hub.links command
  | .event event => handleLinkEvent localPeer hub.links event

/-- The hub after a turn. -/
def next (hub : Hub) (turn : Turn) : Hub := ⟨turn.links, hub.events ++ turn.event.toList⟩

def step (localPeer : Peer) (hub : Hub) (input : HubInput) : Option Hub :=
  some (hub.next (hub.turn localPeer input))

end Hub

/-- A link is filed under the session of its peer. -/
def Links.Keyed (links : Links) : Prop := ∀ q link, links q = some link → link.peer.sessionId = q

theorem Links.Keyed.update {links : Links} (keyed : links.Keyed) {q : Uuid} {link : Option DirectLink}
    (same : ∀ l, link = some l → l.peer.sessionId = q) :
    Links.Keyed (Function.update links q link) := by
  intro r l held
  rw [Function.update_apply] at held
  split at held
  · next here => rw [here, same l held]
  · exact keyed r l held

/-- What the hub has told of a peer that the user has not answered: at most one message,
and none while its link is still new. -/
structure Gated (localPeer : Peer) (p : Uuid) (hub : Hub) : Prop where
  few : (privateMessages p localPeer.sessionId hub.events).length ≤ 1
  gate : ∀ link, hub.links p = some link → link.role = .recipient ∧ link.state ≠ .active ∧
    (link.state = .new → privateMessages p localPeer.sessionId hub.events = [])

/-- A new link of `p` is adopted only while no message of `p` has been shown. -/
def OpensOnce (localPeer : Peer) (p : Uuid) (hub : Hub) : HubInput → Prop
  | .event (.connected _ peer) => peer.sessionId = p → hub.links p = none →
      privateMessages p localPeer.sessionId hub.events = []
  | _ => True

section
variable {localPeer : Peer} {p q : Uuid} {hub after : Hub} {turn : Turn} {env : HubEnv}
  {event : LinkEvent} {input : HubInput}

theorem received_next : privateMessages p localPeer.sessionId (hub.next turn).events =
    privateMessages p localPeer.sessionId hub.events ++
      privateMessages p localPeer.sessionId turn.event.toList := privateMessages_append ..

/-- A turn that tells nothing of `p` and leaves its link alone, or ends it. -/
theorem Gated.frame (gated : Gated localPeer p hub)
    (silent : privateMessages p localPeer.sessionId turn.event.toList = [])
    (held : turn.links p = hub.links p ∨ turn.links p = none) : Gated localPeer p (hub.next turn) := by
  have same : privateMessages p localPeer.sessionId (hub.next turn).events =
      privateMessages p localPeer.sessionId hub.events := by
    rw [received_next, silent, List.append_nil]
  constructor
  · rw [same]
    exact gated.few
  · intro link (present : turn.links p = some link)
    rw [same]
    obtain unchanged | gone := held
    · exact gated.gate link (unchanged ▸ present)
    · rw [gone] at present
      cases present

/-- A link that is set aside, or one of another peer. -/
theorem update_none (links : Links) :
    Function.update links q none p = links p ∨ Function.update links q none p = none := by
  by_cases same : p = q
  · exact .inr (by rw [same, Function.update_self])
  · exact .inl (Function.update_of_ne same _ _)

/-- A turn after which `p`'s link is `link`. -/
theorem gated_of_link {link : DirectLink} (held : turn.links p = some link)
    (few : (privateMessages p localPeer.sessionId (hub.next turn).events).length ≤ 1)
    (gate : link.role = .recipient ∧ link.state ≠ .active ∧ (link.state = .new →
      privateMessages p localPeer.sessionId (hub.next turn).events = [])) :
    Gated localPeer p (hub.next turn) := by
  refine ⟨few, fun current (present : turn.links p = some current) => ?_⟩
  rw [held, Option.some_inj] at present
  exact present ▸ gate

/-- Before the user answers, the only message admitted is the first of a link. -/
theorem receiveStatus_gate {state state' : ConversationState} {status : PrivateConversationStatus}
    (inactive : state ≠ .active) (h : receiveStatus q .recipient state = some (state', status)) :
    state = .new ∧ state' = .awaitingReply := by
  cases state with
  | new =>
    cases h
    exact ⟨rfl, rfl⟩
  | awaitingReply => cases h
  | active => exact absurd rfl inactive

theorem send_gated {messageId : Uuid} {text : String}
    (outcome : SendOutcome localPeer env hub.links q messageId text turn)
    (other : p ≠ localPeer.sessionId) (gated : Gated localPeer p hub)
    (unanswered : privateMessages localPeer.sessionId p (hub.next turn).events = []) :
    Gated localPeer p (hub.next turn) := by
  cases outcome with
  | refused code message => exact gated.frame rfl (.inl rfl)
  | dropped code message => exact gated.frame rfl (update_none _)
  | sent link cleaned state status accepted opened passes =>
    by_cases same : q = p
    · subst same
      simp [Hub.next, privateMessages] at unanswered
    · refine gated.frame ?_ (.inl (Function.update_of_ne (Ne.symm same) _ _))
      simp [privateMessages, other.symm]

theorem event_gated (outcome : EventOutcome localPeer hub.links event turn)
    (once : OpensOnce localPeer p hub (.event event)) (keyed : hub.links.Keyed)
    (gated : Gated localPeer p hub) : Gated localPeer p (hub.next turn) := by
  cases outcome with
  | ignored => exact gated.frame rfl (.inl rfl)
  | adopted linkId peer free =>
    by_cases same : peer.sessionId = p
    · -- the peer's link is new, and nothing of it was shown before
      subst same
      have quiet := once rfl free
      rw [← List.append_nil (privateMessages _ _ _)] at quiet
      refine gated_of_link (Function.update_self ..) ?_ ⟨rfl, nofun, fun _ => ?_⟩
      · rw [received_next]
        exact (congrArg List.length quiet).le.trans (Nat.zero_le 1)
      · rw [received_next]
        exact quiet
    · exact gated.frame rfl (.inl (Function.update_of_ne (Ne.symm same) _ _))
  | spoiled q messageId sentAtMs text error link state status held admitted rejected =>
    by_cases same : q = p
    · subst same
      obtain ⟨role, inactive, -⟩ := gated.gate link held
      rw [role] at admitted
      obtain ⟨-, rfl⟩ := receiveStatus_gate inactive admitted
      refine gated_of_link (Function.update_self ..) ?_ ⟨role, nofun, nofun⟩
      rw [received_next]
      exact (List.append_nil _).symm ▸ gated.few
    · exact gated.frame rfl (.inl (Function.update_of_ne (Ne.symm same) _ _))
  | shown q messageId sentAtMs text cleaned link state status held admitted accepted =>
    by_cases same : q = p
    · subst same
      obtain ⟨role, inactive, fresh⟩ := gated.gate link held
      rw [role] at admitted
      obtain ⟨new, rfl⟩ := receiveStatus_gate inactive admitted
      refine gated_of_link (Function.update_self ..) ?_ ⟨role, nofun, nofun⟩
      -- the opening message is the first one shown
      rw [received_next, fresh new, List.nil_append]
      exact List.length_filterMap_le _ _
    · refine gated.frame ?_ (.inl (Function.update_of_ne (Ne.symm same) _ _))
      simp [privateMessages, keyed q link held, same]
  | closed q link held =>
    exact gated.frame rfl (update_none _)

/-- A `Send` tells of no message but one of the user's own. -/
theorem send_tells {a b messageId : Uuid} {text : String} {links : Links} (foreign : a ≠ localPeer.sessionId) :
    privateMessages a b (handleSend localPeer env links q messageId text).event.toList = [] := by
  have outcome := @sendOutcome localPeer env links q messageId text
  generalize handleSend localPeer env links q messageId text = turn at outcome
  cases outcome with
  | refused | dropped => rfl
  | sent link cleaned state status accepted opened passes =>
    simp [privateMessages, Ne.symm foreign]

/-- A link event tells of no message but one to the user. -/
theorem event_tells {a b : Uuid} {links : Links} (foreign : b ≠ localPeer.sessionId) :
    privateMessages a b (handleLinkEvent localPeer links event).event.toList = [] := by
  have outcome := @eventOutcome localPeer links event
  generalize handleLinkEvent localPeer links event = turn at outcome
  cases outcome with
  | ignored | adopted | spoiled | closed => rfl
  | shown => simp [privateMessages, Ne.symm foreign]

theorem step_keyed (h : hub.step localPeer input = some after) (keyed : hub.links.Keyed) :
    after.links.Keyed := by
  cases h
  cases input with
  | command env command =>
    cases command with
    | send q messageId text =>
      have outcome := @sendOutcome localPeer env hub.links q messageId text
      simp only [Hub.turn, handleCommand]
      generalize handleSend localPeer env hub.links q messageId text = turn at outcome
      cases outcome with
      | refused => exact keyed
      | dropped => exact keyed.update nofun
      | sent link cleaned state status accepted opened passes =>
        refine keyed.update fun l same => ?_
        rw [Option.some_inj] at same
        subst same
        obtain held | ⟨-, peer, -⟩ := openLink_ok opened
        · exact keyed q link held
        · exact peer
    | peerLeft q =>
      simp only [Hub.turn, handleCommand]
      split
      · exact keyed.update nofun
      · exact keyed
  | event event =>
    have outcome := @eventOutcome localPeer hub.links event
    simp only [Hub.turn]
    generalize handleLinkEvent localPeer hub.links event = turn at outcome
    cases outcome with
    | ignored => exact keyed
    | adopted linkId peer free =>
      refine keyed.update fun l same => ?_
      rw [Option.some_inj] at same
      rw [← same]
    | spoiled q _ _ _ _ link _ _ held | shown q _ _ _ _ link _ _ held =>
      refine keyed.update fun l same => ?_
      rw [Option.some_inj] at same
      rw [← same]
      exact keyed q link held
    | closed => exact keyed.update nofun

theorem step_gated (h : hub.step localPeer input = some after) (other : p ≠ localPeer.sessionId)
    (once : OpensOnce localPeer p hub input) (keyed : hub.links.Keyed) (gated : Gated localPeer p hub)
    (unanswered : privateMessages localPeer.sessionId p after.events = []) :
    Gated localPeer p after := by
  cases h
  cases input with
  | command env command =>
    cases command with
    | send q messageId text => exact send_gated sendOutcome other gated unanswered
    | peerLeft q =>
      simp only [Hub.turn, handleCommand] at unanswered ⊢
      split
      · exact gated.frame rfl (update_none _)
      · exact gated.frame rfl (.inl rfl)
  | event event => exact event_gated eventOutcome once keyed gated

/-- **The reply gate.** Until the user has sent something to `p`, the hub shows at most one
message of `p`, in every run that adopts no new link of `p` after a message of it was shown. -/
theorem reply_gate {inputs : List HubInput} (other : p ≠ localPeer.sessionId)
    (run : Run (Hub.step localPeer) (OpensOnce localPeer p) .start inputs hub)
    (unanswered : privateMessages localPeer.sessionId p hub.events = []) :
    (privateMessages p localPeer.sessionId hub.events).length ≤ 1 := by
  have invariant := run.preserves (I := fun hub => hub.links.Keyed ∧
      (privateMessages localPeer.sessionId p hub.events = [] → Gated localPeer p hub))
    (fun hub input after ⟨keyed, gated⟩ once h => by
      refine ⟨step_keyed h keyed, fun silent => step_gated h other once keyed (gated ?_) silent⟩
      cases h
      exact (List.append_eq_nil_iff.1 ((privateMessages_append ..).symm.trans silent)).1)
    ⟨nofun, fun _ => ⟨Nat.zero_le _, nofun⟩⟩
  exact (invariant.2 unanswered).few

end

/-! ## A peer that connects again -/

def mallory : Peer := { sessionId := ⟨2⟩, memberId := ⟨12⟩, nickname := "Mallory", direct := none }
def alice : Peer := { sessionId := ⟨1⟩, memberId := ⟨11⟩, nickname := "Alice", direct := none }

/-- A link of Mallory's that carries one message. -/
def knock (linkId : Uuid) (text : String) : List HubInput :=
  [.event (.connected linkId mallory), .event (.message linkId mallory.sessionId linkId 0 text),
    .event (.disconnected linkId mallory.sessionId)]

/-- The hub after a list of inputs. -/
def Hub.after (localPeer : Peer) (hub : Hub) : List HubInput → Hub
  | [] => hub
  | input :: inputs => (hub.next (hub.turn localPeer input)).after localPeer inputs

theorem run_after (localPeer : Peer) (hub : Hub) (inputs : List HubInput) :
    Run (Hub.step localPeer) anyAction hub inputs (hub.after localPeer inputs) := by
  induction inputs generalizing hub with
  | nil => exact .nil hub
  | cons input inputs ih => exact .cons trivial rfl (ih _)

/-- Two links, one after the other, show two messages. -/
theorem reply_gate_reopened : ∃ inputs hub, Run (Hub.step alice) anyAction .start inputs hub ∧
    privateMessages alice.sessionId mallory.sessionId hub.events = [] ∧
    (privateMessages mallory.sessionId alice.sessionId hub.events).length = 2 :=
  ⟨knock ⟨7⟩ "hello" ++ knock ⟨8⟩ "again", _, run_after .., by decide +kernel, by decide +kernel⟩

/-- One link of Mallory's that carries two messages. -/
def knocks : List HubInput :=
  [.event (.connected ⟨7⟩ mallory), .event (.message ⟨7⟩ mallory.sessionId ⟨70⟩ 0 "hello"),
    .event (.message ⟨7⟩ mallory.sessionId ⟨71⟩ 1 "again"), .event (.disconnected ⟨7⟩ mallory.sessionId)]

/-- The second message is not shown. -/
theorem reply_gate_knock : (privateMessages mallory.sessionId alice.sessionId
    (Hub.start.after alice knocks).events).length ≤ 1 := by
  have run : Run (Hub.step alice) (OpensOnce alice mallory.sessionId) .start knocks
      (Hub.start.after alice knocks) :=
    .cons (fun _ _ => rfl) rfl (.cons trivial rfl (.cons trivial rfl (.cons trivial rfl (.nil _))))
  exact reply_gate (by decide) run (by decide +kernel)

end LanChat
