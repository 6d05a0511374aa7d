import LanChat.Client.Conversation

/-!
# Two hubs on one link

From an established link on, both hubs only ever take each other's messages. What
one user is told of the other is a prefix of what the other has sent, with the
message its hub has put on the link and is about to report counted in.
-/

namespace LanChat

open Transition

namespace World

variable (duo : Duo) (w : World)

/-- The private messages of `s` that its own user has been told were sent. -/
def sent (s : Side) : List News := privateMessages (duo.session s) (duo.session s.other) (w.hub s).events

/-- The private messages of `s` that the user at the other side has been told. -/
def received (s : Side) : List News :=
  privateMessages (duo.session s) (duo.session s.other) (w.hub s.other).events

/-- The message of `s` that its hub has put on the link and is about to report. -/
def reportingSent (s : Side) : List News :=
  privateMessages (duo.session s) (duo.session s.other) (w.hub s).reporting.toList

/-- No event, no report and no frame is on its way. -/
def Quiet : Prop :=
  ∀ s, (w.hub s).inbox = [] ∧ (w.hub s).reporting = none ∧
    ∀ k ∈ w.connections, k.wire s = [] ∧ (k.ends s).outbound = []

instance : Decidable w.Quiet :=
  decidable_of_iff (∀ s ∈ [Side.left, Side.right], (w.hub s).inbox = [] ∧ (w.hub s).reporting = none ∧
      ∀ k ∈ w.connections, k.wire s = [] ∧ (k.ends s).outbound = [])
    ⟨fun h s => h s (by cases s <;> simp), fun h s _ => h s⟩

/-- The state of the link that the hub at `s` holds to the other side. -/
def conversation (s : Side) : Option ConversationState :=
  ((w.hub s).links (duo.session s.other)).map (·.state)

end World

/-- An established link: `caller` is the initiator, and nothing has been said. -/
def World.established (duo : Duo) (caller : Side) (idCaller idCallee : Uuid) : World where
  hub s :=
    { links := Function.update Links.empty (duo.session s.other) (some (if s = caller then
        ⟨idCaller, duo.peer s.other, .initiator, .new⟩
        else ⟨idCallee, duo.peer s.other, .recipient, .new⟩))
      inbox := [], reporting := none, events := [] }
  connections :=
    [{ opener := caller
       ends s := ⟨if s = caller then idCaller else idCallee, .running, []⟩
       wire _ := [] }]

section
variable {duo : Duo} {caller s : Side} {w w' : World} {action : PairAction} {idCaller idCallee : Uuid}

theorem established_conversing : Conversing duo caller True (.established duo caller idCaller idCallee) := by
  refine ⟨.new, .new, [], [], ⟨idCaller, idCallee, .adopted .new, ⟨[], [], []⟩, ⟨[], [], []⟩, _,
    { only := rfl
      opener := rfl
      callerEnd := by simp
      calleeEnd := by simp [Arrival.End]
      wireThere := rfl
      wireBack := rfl
      linkCaller := by simp [World.established]
      linkCallee := by simp [World.established, Arrival.link]
      inboxCaller := rfl
      inboxCallee := rfl
      early := nofun
      adopted := fun _ => ⟨_, rfl⟩ }, rfl, rfl, rfl⟩, .quiet, nofun⟩

/-- A called hub that has taken up the connection holds its link. -/
theorem linked_of_known (conversing : Conversing duo caller True w) :
    (w.hub caller.other).links (duo.session caller) ≠ none := by
  obtain ⟨_, _, _, _, ⟨_, _, arrival, _, _, _, shape, -⟩, -⟩ := conversing
  obtain ⟨state, rfl⟩ := shape.adopted trivial
  rw [shape.linkCallee]
  exact nofun

/-- Once nothing is on its way the called hub has taken up the connection. -/
theorem Shape.settled {known : Prop} {state : ConversationState} {arrival : Arrival} {there back : Lane}
    {k : Connection} (shape : Shape duo caller known idCaller idCallee state arrival there back k w)
    (quiet : w.Quiet) : (∃ state, arrival = .adopted state) ∧ there.notes = [] ∧ back.notes = [] := by
  have atCaller := quiet caller
  have atCallee := quiet caller.other
  simp only [shape.only, List.mem_singleton, forall_eq, shape.callerEnd, shape.wireBack,
    shape.inboxCaller, List.map_eq_nil_iff] at atCaller
  simp only [shape.only, List.mem_singleton, forall_eq, shape.wireThere, shape.inboxCallee,
    List.append_eq_nil_iff, List.map_eq_nil_iff] at atCallee
  obtain ⟨backInbox, -, backWire, thereOut⟩ := atCaller
  obtain ⟨⟨untaken, thereInbox⟩, -, ⟨unread, thereWire⟩, callee⟩ := atCallee
  cases arrival with
  | called => cases unread
  | accepted => cases untaken
  | adopted stateCallee =>
    have task : k.ends caller.other = ⟨idCallee, .running, back.out.map Note.frame⟩ := shape.calleeEnd
    rw [task] at callee
    have backOut : back.out = [] := List.map_eq_nil_iff.1 callee
    exact ⟨⟨stateCallee, rfl⟩, by rw [Lane.notes, thereInbox, thereWire, thereOut]; rfl,
      by rw [Lane.notes, backInbox, backWire, backOut]; rfl⟩

/-- Until the caller's user has been told an answer, it has sent one message at most. -/
def Prompt (duo : Duo) (caller : Side) (w : World) : Prop :=
  w.received duo caller.other = [] → (w.told duo caller caller).length ≤ 1

theorem received_eq (free : (w.hub caller).reporting = none) :
    w.told duo caller.other caller = w.received duo caller.other := by
  rw [World.told, World.received, free, Side.other_other, Option.toList_none, List.append_nil]

theorem prompt_of_free (conversing : Conversing duo caller True w)
    (free : (w.hub caller).reporting = none) : Prompt duo caller w := by
  intro unanswered
  obtain ⟨_, _, _, _, -, talk, -⟩ := conversing
  exact talk.opening ((received_eq free).trans unanswered)

/-- A step that leaves the caller's hub and its user alone. -/
theorem Prompt.frame (prompt : Prompt duo caller w) (same : w'.hub caller = w.hub caller) :
    Prompt duo caller w' := by
  unfold Prompt World.received World.told
  rw [Side.other_other, same]
  unfold Prompt World.received World.told at prompt
  rwa [Side.other_other] at prompt

/-- A step that tells nobody anything. -/
theorem Prompt.quiet (prompt : Prompt duo caller w) (same : SameNews w w') : Prompt duo caller w' := by
  unfold Prompt
  rw [told_same same, World.received, (same _).1]
  exact prompt

theorem prompt_step (h : w.step duo action = some w') (after : Conversing duo caller True w')
    (before : Conversing duo caller True w) (prompt : Prompt duo caller w) : Prompt duo caller w' := by
  cases action with
  | send s messageId text linkId nowMs =>
    simp only [World.step] at h
    split at h
    · next free =>
      cases h
      rw [Bool.and_eq_true, Option.isNone_iff_eq_none] at free
      obtain rfl | rfl := Side.eq_or_other caller s
      · -- the caller has heard nothing new, so it is still at its opening message
        intro unanswered
        obtain ⟨_, _, _, _, -, talk, -⟩ := after
        have same : (w.send duo s messageId text linkId nowMs).received duo s.other =
            w.received duo s.other := by simp [World.received, World.send]
        have foreign : duo.session s.other ≠ (duo.peer s).sessionId := (duo.session_ne s).symm
        apply talk.opening
        rw [World.send, told_connections, told_turn free.1, received_eq free.1, ← same, unanswered]
        exact send_tells foreign
      · exact prompt.frame (by simp [World.send])
    · cases h
  | take s =>
    obtain ⟨free, event, rest, inbox, rfl⟩ := take_cases h
    obtain rfl | rfl := Side.eq_or_other caller s
    · intro unanswered
      have same : w.received duo s.other = [] := by simpa [World.received] using unanswered
      have foreign : duo.session s.other ≠ (duo.peer s).sessionId := (duo.session_ne s).symm
      rw [told_turn free, event_tells foreign, List.append_nil]
      exact prompt same
    · exact prompt.frame (by simp)
  | report s =>
    obtain ⟨event, -, rfl⟩ := Option.map_eq_some_iff.1 h
    obtain rfl | rfl := Side.eq_or_other caller s
    · exact prompt_of_free after (by simp)
    · exact prompt.frame (by simp)
  | accept c linkId =>
    obtain ⟨_, _, _, _, joined, -, -⟩ := before
    exact prompt.quiet (joined_accept h joined).2
  | write c s =>
    obtain ⟨_, _, _, _, joined, -, -⟩ := before
    exact prompt.frame (by rw [(joined_write h joined).2])
  | read c s =>
    obtain ⟨_, _, _, _, joined, -, -⟩ := before
    exact prompt.quiet (joined_read h joined).2
  | stop c s =>
    obtain ⟨_, _, _, _, joined, -, -⟩ := before
    rw [joined_stop joined] at h
    cases h

/-- **Two hubs on one link.** In every reachable state what one user has been told of the other
is a prefix of what the other has sent and reported, or is about to report; the initiator has
sent one message at most before it has been told an answer; and once nothing is on its way the
two links are in the same state. -/
theorem two_hubs_agree {actions : List PairAction}
    (run : Run (World.step duo) anyAction (.established duo caller idCaller idCallee) actions w) :
    (∀ s, w.received duo s <+: w.sent duo s ++ w.reportingSent duo s) ∧
      (w.received duo caller.other = [] → (w.sent duo caller).length ≤ 1) ∧
      (w.Quiet → ∃ state, ∀ s, w.conversation duo s = some state) := by
  have ⟨conversing, prompt⟩ := run.preserves
    (I := fun w => Conversing duo caller True w ∧ Prompt duo caller w)
    (fun w action w' ⟨before, prompt⟩ _ h => by
      have after := conversing_step h (fun _ _ _ _ _ => .inl (linked_of_known before)) before
      exact ⟨after, prompt_step h after before prompt⟩)
    ⟨established_conversing, prompt_of_free established_conversing rfl⟩
  have told : ∀ t, w.told duo t t = w.sent duo t ++ w.reportingSent duo t :=
    fun t => privateMessages_append ..
  have heard : ∀ t, w.received duo t <+: w.told duo t t.other := fun t => by
    rw [World.told, privateMessages_append]
    exact List.prefix_append ..
  obtain ⟨state, stateCallee, there, back, joined, talk, -⟩ := conversing
  refine ⟨fun s => ?_, fun unanswered => ?_, fun quiet => ?_⟩
  · rw [← told]
    obtain rfl | rfl := Side.eq_or_other caller s
    · exact (heard _).trans talk.told_sent.1
    · have := heard caller.other
      rw [Side.other_other] at this
      exact this.trans talk.told_sent.2
  · have := prompt unanswered
    rw [told, List.length_append] at this
    omega
  · obtain ⟨idCaller, idCallee, arrival, laneThere, laneBack, k, shape, rfl, rfl, rfl⟩ := joined
    obtain ⟨⟨stateCallee, rfl⟩, there, back⟩ := shape.settled quiet
    rw [there, back] at talk
    obtain rfl : state = stateCallee := talk.settled.1
    refine ⟨state, fun s => ?_⟩
    obtain rfl | rfl := Side.eq_or_other caller s
    · rw [World.conversation, shape.linkCaller, Option.map_some]
    · rw [World.conversation, Side.other_other, shape.linkCallee, Arrival.link, Option.map_some]

end

/-! ## A message told before it is reported -/

/-- Two members of one group. -/
def aliceAndBob : Duo where
  groupId := ⟨9⟩
  peer
    | .left => ⟨⟨1⟩, ⟨11⟩, "Alice", some ⟨⟨.v4 10 0 0 1, 4001⟩, "1111:1111:1111:1111:1111:1111"⟩⟩
    | .right => ⟨⟨2⟩, ⟨12⟩, "Bob", some ⟨⟨.v4 10 0 0 2, 4002⟩, "2222:2222:2222:2222:2222:2222"⟩⟩
  direct
    | .left => ⟨⟨.v4 10 0 0 1, 4001⟩, "1111:1111:1111:1111:1111:1111"⟩
    | .right => ⟨⟨.v4 10 0 0 2, 4002⟩, "2222:2222:2222:2222:2222:2222"⟩
  advertised s := by cases s <;> rfl
  distinct := by decide

/-- Alice's opening message, as far as Bob's user. -/
def openingTold : List PairAction :=
  [.send .left ⟨31⟩ "hello" ⟨41⟩ 0, .write 0 .left, .read 0 .right, .take .right, .report .right]

/-- Bob is told of the opening message before Alice is: her hub has still to report it. -/
theorem two_hubs_told_early : ¬ ∀ duo caller idCaller idCallee actions w,
    Run (World.step duo) anyAction (.established duo caller idCaller idCallee) actions w →
      ∀ s, w.received duo s <+: w.sent duo s := by
  intro claim
  obtain ⟨w, run, early⟩ := @exists_run _ _ (World.step aliceAndBob)
    (.established aliceAndBob .left ⟨21⟩ ⟨22⟩) openingTold (fun w => !(w.received aliceAndBob .left).isPrefixOf (w.sent aliceAndBob .left))
    (by decide +kernel)
  have ordered := claim _ _ _ _ _ w run .left
  rw [← List.isPrefixOf_iff_prefix] at ordered
  simp [ordered] at early

/-- The same conversation once Alice's hub has reported. -/
theorem two_hubs_agree_opening : ∃ w : World, (w.received aliceAndBob .left).length = 1 ∧
    (∀ s, w.received aliceAndBob s <+: w.sent aliceAndBob s ++ w.reportingSent aliceAndBob s) ∧
    (w.received aliceAndBob .right = [] → (w.sent aliceAndBob .left).length ≤ 1) ∧
    (w.Quiet → ∃ state, ∀ s, w.conversation aliceAndBob s = some state) := by
  obtain ⟨w, run, told⟩ := @exists_run _ _ (World.step aliceAndBob)
    (.established aliceAndBob .left ⟨21⟩ ⟨22⟩) (openingTold ++ [.report .left]) (fun w => (w.received aliceAndBob .left).length == 1)
    (by decide +kernel)
  exact ⟨w, by simpa using told, two_hubs_agree run⟩

end LanChat
