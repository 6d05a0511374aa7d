import LanChat.Base.Fallible
import LanChat.Client.LinkReads

/-!
# Two clients that open a conversation

Either client may open the connection. A hub that holds no link dials, also when
the other's connection is already on its way to it, and nothing breaks the tie:
each hub then ignores the connection of the other, both link tasks end, and both
opening messages are lost. A message is also lost where a link task writes while it
holds part of the frame. In every run without either, whatever was sent has been
told once nothing is on its way.
-/

namespace LanChat

open Transition

/-- Two clients that have just entered the group. -/
def World.start : World := ⟨fun _ => ⟨.empty, [], none, []⟩, []⟩

def LinkWorld.start : LinkWorld := ⟨.start, fun _ _ => .between⟩

/-- A connection of the other side that the hub at `s` has not taken up yet. -/
def World.UnderWay (w : World) (s : Side) : Prop :=
  ∃ k ∈ w.connections, k.opener = s.other ∧ ((k.ends s).state = .pending ∨
    ∃ peer, .connected (k.ends s).linkId peer ∈ (w.hub s).inbox)

/-- A message that makes the hub at `s` dial is sent only while no connection of the other
side is on its way. -/
def NoCrossing (duo : Duo) (w : World) : PairAction → Prop
  | .send s _ text _ _ => (∃ cleaned, sanitizeChatText text = .ok cleaned) →
      (w.hub s).links (duo.session s.other) = none → ¬ w.UnderWay s
  | _ => True

/-- No hub dials across the connection of the other, and no link task writes while it holds part of
a frame. -/
def Undisturbed (duo : Duo) (v : LinkWorld) (action : LinkAction) : Prop :=
  v.Untorn action ∧ ∀ pair, action = .pair pair → NoCrossing duo v.toWorld pair

/-- The hubs hold the two ends of one connection, or neither holds a link. -/
def World.OneConnection (duo : Duo) (w : World) : Prop :=
  (∀ s, (w.hub s).links (duo.session s.other) = none) ∨
    ∃ k ∈ w.connections, ∀ s, ∃ link, (w.hub s).links (duo.session s.other) = some link ∧
      link.linkId = (k.ends s).linkId

/-- Nobody has opened a connection, and nobody has been told anything. -/
structure Apart (duo : Duo) (w : World) : Prop where
  connections : w.connections = []
  links : ∀ s, (w.hub s).links (duo.session s.other) = none
  inbox : ∀ s, (w.hub s).inbox = []
  told : ∀ s reader, w.told duo s reader = []

section
variable {duo : Duo} {caller s : Side} {w w' : World} {action : PairAction}

/-- Dialling the other member succeeds. -/
theorem connectDirectLink_duo {linkId : Uuid} {nowMs : ℕ} :
    connectDirectLink (w.env duo s linkId nowMs) (duo.peer s.other) =
      .ok ⟨linkId, duo.peer s.other, .initiator, .new⟩ := by
  simp [connectDirectLink, duo.advertised, World.env, Fallible.ok_bind, eqIgnoreAsciiCase]

theorem openLink_duo {links : Links} {linkId : Uuid} {nowMs : ℕ}
    (free : links (duo.session s.other) = none) :
    openLink (w.env duo s linkId nowMs) links (duo.session s.other) =
      .ok ⟨linkId, duo.peer s.other, .initiator, .new⟩ := by
  have member : memberOf (w.env duo s linkId nowMs).members (duo.session s.other) =
      some (duo.peer s.other) := duo.memberOf_members s.other
  simp [openLink, free, member, connectDirectLink_duo]

/-- The first message of all opens the connection that carries it. -/
theorem apart_send {messageId linkId : Uuid} {text : String} {nowMs : ℕ}
    (h : w.step duo (.send s messageId text linkId nowMs) = some w') (apart : Apart duo w) :
    Apart duo w' ∨ Conversing duo s False w' := by
  simp only [World.step] at h
  split at h
  · next free =>
    cases h
    rw [Bool.and_eq_true, Option.isNone_iff_eq_none] at free
    have taken : (w.env duo s linkId nowMs).taken = true := by
      simp [World.env, World.taken, apart.links s]
    have outcome := @sendOutcome (duo.peer s) (w.env duo s linkId nowMs) (w.hub s).links
      (duo.session s.other) messageId text
    unfold World.send
    simp only [handleCommand, apart.links s, Option.isSome_none, Bool.false_eq_true, if_false]
    generalize handleSend _ _ _ _ _ _ = turn at outcome
    cases outcome with
    | refused code message =>
      left
      exact { connections := apart.connections
              links := fun t => (congrFun (same_links t).1 _).trans (apart.links t)
              inbox := fun t => (same_links t).2.trans (apart.inbox t)
              told := fun t reader => (told_refused free.1).trans (apart.told t reader) }
    | dropped code message closed => exact absurd (taken.symm.trans closed) (by simp)
    | sent link cleaned state status accepted opened passes =>
      right
      obtain rfl := Except.ok.inj ((openLink_duo (apart.links s)).symm.trans opened)
      cases passes
      let n : Note := ⟨messageId, nowMs, cleaned⟩
      refine ⟨.awaitingReply, .new, [n], [],
        ⟨linkId, linkId, .called, ⟨[], [], [n]⟩, ⟨[], [], []⟩, .dialled duo s linkId n.frame,
          { only := by simp [apart.connections, n, Note.frame, World.env]
            opener := rfl
            callerEnd := by simp [Connection.dialled]
            calleeEnd := by simp [Connection.dialled, Arrival.End]
            wireThere := by simp [Connection.dialled, Arrival.hello]
            wireBack := by simp [Connection.dialled]
            linkCaller := by simp
            linkCallee := by simpa [Arrival.link] using apart.links s.other
            inboxCaller := by simp [apart.inbox s]
            inboxCallee := by simp [apart.inbox s.other, Arrival.event]
            early := fun _ => ⟨rfl, rfl⟩
            adopted := by simp }, rfl, rfl, rfl⟩, ?_, fun m mem => ?_⟩
      · rw [told_connections, told_connections, told_connections, told_connections,
          told_turn free.1, told_turn free.1, told_other s.other_ne, told_other s.other_ne,
          apart.told, apart.told, apart.told, apart.told, Option.toList_some]
        change Talk duo s .awaitingReply .new [n] [] ([] ++ privateMessages _ _
          [.privateMessage (n.record duo s) (.awaitingReply (duo.session s))]) [] []
            ([] ++ privateMessages _ _ [.privateMessage (n.record duo s) _])
        rw [privateMessages_record, privateMessages_record, if_pos rfl, if_neg s.ne_other]
        exact .opened n
      · obtain rfl : m = n := by simpa using mem
        exact sanitizeChatText_again accepted
  · cases h

/-- Before the first message nothing moves. -/
theorem apart_step (h : w.step duo action = some w') (apart : Apart duo w) :
    Apart duo w' ∨ ∃ caller, Conversing duo caller False w' := by
  have unconnected : ∀ c : ℕ, w.connections[c]? = none := by simp [apart.connections]
  cases action with
  | send s => exact (apart_send h apart).imp_right fun conversing => ⟨s, conversing⟩
  | take s =>
    obtain ⟨-, event, rest, inbox, -⟩ := take_cases h
    rw [apart.inbox s] at inbox
    cases inbox
  | report s =>
    left
    have told := fun t reader => (told_report h).trans (apart.told t reader)
    obtain ⟨event, -, rfl⟩ := Option.map_eq_some_iff.1 h
    exact { connections := apart.connections
            links := fun t => (congrFun (same_links t).1 _).trans (apart.links t)
            inbox := fun t => (same_links t).2.trans (apart.inbox t)
            told }
  | accept c | write c | read c | stop c => simp [World.step, unconnected] at h

/-- Without a crossing the called hub sends nothing before it has taken up the connection. -/
theorem crossing_step (h : w.step duo action = some w') (allowed : NoCrossing duo w action)
    (conversing : Conversing duo caller False w) : Conversing duo caller False w' := by
  refine conversing_step h (fun messageId text linkId nowMs sends => ?_) conversing
  subst sends
  cases accepted : sanitizeChatText text with
  | error error => exact .inr ⟨error, rfl⟩
  | ok cleaned =>
    refine .inl fun free => ?_
    have clear := allowed ⟨cleaned, accepted⟩ (by rwa [Side.other_other])
    apply clear
    obtain ⟨_, _, _, _, ⟨idCaller, idCallee, arrival, there, back, k, shape, -⟩, -⟩ := conversing
    refine ⟨k, by simp [shape.only], by rw [shape.opener, Side.other_other], ?_⟩
    have task := shape.calleeEnd
    cases arrival with
    | called => exact .inl task
    | accepted =>
      right
      rw [show k.ends caller.other = _ from task, shape.inboxCallee]
      exact ⟨_, List.mem_append_left _ (List.mem_singleton_self _)⟩
    | adopted state =>
      rw [shape.linkCallee] at free
      cases free

/-- Without a crossing, where frames are read whole. -/
theorem heard_uncrossed {actions : List PairAction}
    (run : Run (World.step duo) (NoCrossing duo) .start actions w) (quiet : w.Quiet) :
    (∀ s, w.received duo s = w.sent duo s) ∧ w.OneConnection duo := by
  have invariant := run.preserves
    (I := fun w => Apart duo w ∨ ∃ caller, Conversing duo caller False w)
    (fun w action w' before allowed h => by
      obtain apart | ⟨caller, conversing⟩ := before
      · exact apart_step h apart
      · exact .inr ⟨caller, crossing_step h allowed conversing⟩)
    (.inl ⟨rfl, fun _ => rfl, fun _ => rfl, fun _ _ => rfl⟩)
  have told : ∀ s, w.told duo s s = w.sent duo s ∧ w.told duo s s.other = w.received duo s := by
    intro s
    simp [World.told, World.sent, World.received, (quiet s).2.1, (quiet s.other).2.1]
  obtain apart | ⟨caller, state, _, _, _, ⟨_, _, arrival, _, _, k, shape, rfl, rfl, rfl⟩, talk, -⟩ :=
    invariant
  · refine ⟨fun s => ?_, .inl apart.links⟩
    rw [← (told s).1, ← (told s).2, apart.told, apart.told]
  · obtain ⟨⟨stateCallee, rfl⟩, there, back⟩ := shape.settled quiet
    rw [there, back] at talk
    obtain ⟨-, got, heard⟩ := talk.settled
    constructor
    · intro s
      rw [← (told s).1, ← (told s).2]
      obtain rfl | rfl := Side.eq_or_other caller s
      · exact got
      · rw [Side.other_other]
        exact heard
    · refine .inr ⟨k, by simp [shape.only], fun s => ?_⟩
      have task := shape.calleeEnd
      obtain rfl | rfl := Side.eq_or_other caller s
      · exact ⟨_, shape.linkCaller, by rw [shape.callerEnd]⟩
      · rw [Side.other_other]
        exact ⟨_, shape.linkCallee, by rw [show k.ends caller.other = _ from task]⟩

/-- **What is sent is delivered.** In every run without a crossing and without a dropped read, once
nothing is on its way each user has been told exactly what the other has sent, and the hubs hold the
two ends of one connection, or no link at all. -/
theorem sent_is_received {actions : List LinkAction} {v : LinkWorld}
    (run : Run (LinkWorld.step duo) (Undisturbed duo) .start actions v) (quiet : v.Quiet) :
    (∀ s, v.received duo s = v.sent duo s) ∧ v.OneConnection duo := by
  obtain ⟨pairs, uncrossed⟩ := LinkWorld.pair_run run nofun
  exact heard_uncrossed uncrossed quiet

end

/-! ## Two ways to lose a message -/

/-- A hub dials while there is no connection at all, or sends on the link it holds. -/
def dialsAlone (duo : Duo) (v : LinkWorld) : LinkAction → Bool
  | .pair (.send s _ _ _ _) =>
    v.connections.isEmpty || ((v.hub s).links (duo.session s.other)).isSome
  | _ => true

theorem uncrossed_of_dialsAlone {duo : Duo} {v : LinkWorld} {action : LinkAction}
    (alone : dialsAlone duo v action = true) (pair : PairAction) (same : action = .pair pair) :
    NoCrossing duo v.toWorld pair := by
  subst same
  cases pair with
  | send s messageId text linkId nowMs =>
    intro _ free ⟨k, mem, _⟩
    rw [dialsAlone, free, Option.isSome_none, Bool.or_false, List.isEmpty_iff] at alone
    rw [alone] at mem
    cases mem
  | _ => trivial

/-- Everything is quiet, and a message that Alice was told is sent has not reached Bob. -/
def LostToBob (v : LinkWorld) : Prop :=
  v.Quiet ∧ ∃ news ∈ v.sent aliceAndBob .left, news ∉ v.received aliceAndBob .left

instance (v : LinkWorld) : Decidable (LostToBob v) := inferInstanceAs (Decidable (_ ∧ _))

/-- Alice and Bob dial each other before either hub has heard of the other's connection. -/
def bothDial : List PairAction :=
  [.send .left ⟨31⟩ "hi" ⟨41⟩ 0, .send .right ⟨32⟩ "hey" ⟨42⟩ 0, .report .left, .report .right,
    .accept 0 ⟨43⟩, .accept 1 ⟨44⟩, .write 0 .left, .write 1 .right, .take .right, .take .left,
    .read 0 .right, .read 1 .left, .take .right, .take .left, .stop 0 .right, .stop 1 .left,
    .stop 0 .left, .stop 1 .right, .take .right, .take .right, .report .right, .take .left,
    .take .left, .report .left]

/-- Both messages are reported as sent and neither is received. -/
theorem crossing_loses_messages : ¬ ∀ duo actions v,
    Run (LinkWorld.step duo) anyAction .start actions v → v.Quiet →
      ∀ s, ∀ news ∈ v.sent duo s, news ∈ v.received duo s := by
  intro claim
  obtain ⟨v, run, lost⟩ := @exists_run _ _ (LinkWorld.step aliceAndBob) .start
    (bothDial.map .pair) (fun v => decide (LostToBob v)) (by decide +kernel)
  obtain ⟨quiet, news, sent, unheard⟩ := of_decide_eq_true lost
  exact unheard (claim _ _ v run quiet .left news sent)

/-- Alice and Bob have each sent and heard one message. Bob's link task has read the first bytes of
Alice's second one when his hub hands it one of his own. -/
def bothWrite : List LinkAction :=
  [.pair (.send .left ⟨31⟩ "hi" ⟨41⟩ 0), .pair (.report .left), .pair (.accept 0 ⟨43⟩),
    .pair (.write 0 .left), .pair (.take .right), .pair (.read 0 .right), .pair (.take .right),
    .pair (.report .right), .pair (.send .right ⟨32⟩ "hey" ⟨42⟩ 0), .pair (.report .right),
    .pair (.write 0 .right), .pair (.read 0 .left), .pair (.take .left), .pair (.report .left),
    .pair (.send .left ⟨33⟩ "more" ⟨44⟩ 0), .pair (.report .left), .pair (.write 0 .left),
    .begin 0 .right, .pair (.send .right ⟨34⟩ "too" ⟨45⟩ 0), .pair (.report .right),
    .pair (.write 0 .right), .fail 0 .right, .pair (.read 0 .left), .pair (.take .left),
    .pair (.report .left), .pair (.stop 0 .left), .pair (.take .right), .pair (.report .right),
    .pair (.take .left), .pair (.report .left)]

/-- Without a crossing, a message can still be lost with the read that is dropped. -/
theorem torn_read_loses_message : ¬ ∀ duo actions v,
    Run (LinkWorld.step duo) (fun v action => ∀ pair, action = .pair pair → NoCrossing duo v.toWorld pair)
      .start actions v → v.Quiet →
      ∀ s, ∀ news ∈ v.sent duo s, news ∈ v.received duo s := by
  intro claim
  obtain ⟨v, run, lost⟩ := @exists_run _ _ (guarded (LinkWorld.step aliceAndBob) (dialsAlone aliceAndBob))
    .start bothWrite (fun v => decide (LostToBob v)) (by decide +kernel)
  obtain ⟨quiet, news, sent, unheard⟩ := of_decide_eq_true lost
  exact unheard (claim _ _ v (run.of_guarded fun _ _ => uncrossed_of_dialsAlone) quiet .left news sent)

/-- Alice opens a conversation. Bob's link task takes the first bytes of her message, and then the
rest. -/
def oneOpens : List LinkAction :=
  [.pair (.send .left ⟨31⟩ "hi" ⟨41⟩ 0), .pair (.report .left), .pair (.accept 0 ⟨43⟩),
    .pair (.write 0 .left), .begin 0 .right, .pair (.take .right), .pair (.read 0 .right),
    .pair (.take .right), .pair (.report .right)]

theorem sent_is_received_opening : ∃ v : LinkWorld, (v.sent aliceAndBob .left).length = 1 ∧
    (∀ s, v.received aliceAndBob s = v.sent aliceAndBob s) ∧ v.OneConnection aliceAndBob := by
  obtain ⟨v, run, done⟩ := @exists_run _ _ (guarded (LinkWorld.step aliceAndBob) fun v action =>
      decide (v.Untorn action) && dialsAlone aliceAndBob v action) .start oneOpens
    (fun v => decide v.Quiet && (v.sent aliceAndBob .left).length == 1) (by decide +kernel)
  simp only [Bool.and_eq_true, decide_eq_true_eq, beq_iff_eq] at done
  refine ⟨v, done.2, sent_is_received (run.of_guarded fun v action passes => ?_) done.1⟩
  rw [Bool.and_eq_true, decide_eq_true_eq] at passes
  exact ⟨passes.1, uncrossed_of_dialsAlone passes.2⟩

end LanChat
