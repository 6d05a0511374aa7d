import LanChat.Server.Sockets

/-!
# The order of live messages

A message gets its number under the lock of the database and is broadcast
later, by the task of its sender. Where broadcasts happen in the order of the
numbers (`BroadcastsInOrder`), every channel has the live messages of a room in
that order; otherwise two senders can be seen the wrong way round.
-/

namespace LanChat

open Transition

/-- The messages of each room stand in the order of their numbers. -/
def InLogOrder (messages : List ChatRecord) : Prop :=
  messages.Pairwise fun a b => a.roomId = b.roomId → a.sequence < b.sequence

instance (messages : List ChatRecord) : Decidable (InLogOrder messages) :=
  inferInstanceAs (Decidable (List.Pairwise _ _))

theorem InLogOrder.sublist {messages kept : List ChatRecord} (ordered : InLogOrder messages)
    (sublist : kept.Sublist messages) : InLogOrder kept := List.Pairwise.sublist sublist ordered

/-- The live messages of one room. -/
theorem InLogOrder.liveIn {messages : List ServerMessage} (ordered : InLogOrder (chats messages))
    (r : String) :
    (messages.filterMap (ServerMessage.liveIn r)).Pairwise fun a b => a.sequence < b.sequence := by
  rw [filterMap_liveIn, List.pairwise_filter]
  refine ordered.imp fun {a b} lt inRoom inRoom' => lt ?_
  rw [of_decide_eq_true inRoom, of_decide_eq_true inRoom']

namespace Gateway

variable {prims : Primitives} {gateway gateway' : Gateway} {conn : Conn} {outcome : Outcome}

/-- A message is broadcast when no message of its room with a smaller number is
still to be broadcast. -/
def BroadcastsInOrder (gateway : Gateway) (action : Action) : Prop :=
  ∀ c ∈ gateway.conns, action.actor = some c.id → ∀ g m, c.task.pending = some (g, m) →
    ∀ d ∈ gateway.conns, ∀ m', d.task.pending = some (g, m') → m'.roomId = m.roomId →
      m.sequence ≤ m'.sequence

/-- Channels and sockets have the messages of a room in order, and what is still
to be broadcast comes after them. -/
structure Ordered (gateway : Gateway) : Prop where
  queued : ∀ g s client, gateway.Seat g s client → InLogOrder (chats client.sender.log)
  later : ∀ g s client, gateway.Seat g s client → ∀ m ∈ chats client.sender.log,
    ∀ c ∈ gateway.conns, ∀ m', c.task.pending = some (g, m') → m.roomId = m'.roomId →
      m.sequence < m'.sequence
  seen : ∀ c ∈ gateway.conns, InLogOrder (chats c.seen)

theorem Ordered.commit (ordered : Ordered gateway) (served : Served gateway)
    (served' : Served (gateway.commit conn outcome)) (mem : conn ∈ gateway.conns) {action : Action}
    (actor : action.actor = some conn.id) (inOrder : BroadcastsInOrder gateway action)
    (h : gateway.outcome prims conn action = some outcome) :
    Ordered (gateway.commit conn outcome) := by
  have posted := served.posted
  have queued : ∀ g s client', (gateway.commit conn outcome).Seat g s client' →
      InLogOrder (chats client'.sender.log) := by
    intro g s client' seat
    cases chatsStep (posted.replies conn mem) h seat with
    | same was now =>
      rw [now]
      exact ordered.queued g s _ was
    | told was before _ now =>
      rw [now]
      refine List.pairwise_append.2 ⟨ordered.queued g s _ was, List.pairwise_singleton _ _, ?_⟩
      rintro m old _ new
      obtain rfl := List.mem_singleton.1 new
      exact ordered.later g s _ was m old conn mem _ before
    | empty now =>
      rw [now]
      exact List.Pairwise.nil
  refine ⟨queued, ?_, ?_⟩
  · intro g s client' seat m inLog c hc m' pending room
    -- an old message is below a pending one, old or new
    have old : ∀ {client}, gateway.Seat g s client → m ∈ chats client.sender.log →
        m.sequence < m'.sequence := by
      intro client was mem'
      rcases mem_conns_commit hc with ⟨hc, -⟩ | rfl
      · exact ordered.later g s client was m mem' c hc m' pending room
      · obtain ⟨r, id, sender, sentAtMs, text, draw, reply, -⟩ := pending_after h pending
        exact (posted.sequenced.posted reply).2.2 m (posted.queued g s client was m mem') room
    cases chatsStep (posted.replies conn mem) h seat with
    | same was now => exact old was (now ▸ inLog)
    | told was before after now =>
      rw [now] at inLog
      rcases List.mem_append.1 inLog with inLog | new
      · exact old was inLog
      · obtain rfl := List.mem_singleton.1 new
        rcases mem_conns_commit hc with ⟨hc, other⟩ | rfl
        · refine lt_of_le_of_ne (inOrder conn mem actor g m before c hc m' pending room.symm) ?_
          intro same
          have sameId := posted.sequenced.eq_of_sequence (posted.pending conn mem g m before)
            (posted.pending c hc g m' pending) room same
          exact other (congrArg Conn.id (posted.apart c hc conn mem g g m' m pending before sameId.symm))
        · rw [show (Gateway.after conn outcome).task = outcome.task from rfl, after] at pending
          cases pending
    | empty now =>
      rw [now] at inLog
      cases inLog
  · intro c hc
    rcases mem_conns_commit hc with ⟨was, -⟩ | rfl
    · exact ordered.seen c was
    · obtain same | welcomed := seen_cases h
      · rw [same]
        exact ordered.seen conn mem
      · obtain ⟨-, g, me, session⟩ := Task.of_welcomed welcomed
        obtain ⟨client, welcome, seat, seen⟩ := served'.wired.seen served'.seats hc session welcomed
        have sublist : (chats (after conn outcome).seen).Sublist (chats client.sender.log) := by
          rw [seen]
          change (chats (List.filter _ _)).Sublist _
          rw [chats_tracked]
          exact (List.take_sublist _ _).filterMap _
        exact (queued g _ client seat).sublist sublist

theorem ordered_run {start : Gateway} {actions : List Action} (spawned : Spawned start)
    (run : Run (step prims) BroadcastsInOrder start actions gateway) :
    Served gateway ∧ Ordered gateway := by
  refine run.preserves (I := fun gateway => Served gateway ∧ Ordered gateway) ?_ ?_
  · rintro before action next ⟨served, ordered⟩ inOrder h
    have served' := served_step served h
    refine ⟨served', ?_⟩
    rcases idles_or_commit h with idles | ⟨conn, mem, actor, outcome, taken, rfl⟩
    · refine ⟨fun g s client seat => ordered.queued g s client (idles.seats g s client seat), ?_, ?_⟩
      · intro g s client seat m inLog c hc m' pending
        obtain ⟨me, used, violations, task⟩ := Task.pending_iff.1 pending
        exact ordered.later g s client (idles.seats g s client seat) m inLog c
          (idles.at_work hc (by simp [task])) m' pending
      · intro c hc
        rcases idles.conns c hc with old | ⟨-, written⟩ | ⟨-, d, hd, written⟩
        · exact ordered.seen c old
        · rw [Conn.seen, written]
          exact List.Pairwise.nil
        · rw [Conn.seen, written]
          exact ordered.seen d hd
    · exact ordered.commit served served' mem actor inOrder taken
  · refine ⟨served_spawned spawned, ?_⟩
    obtain ⟨conns, unseated⟩ := unseated_spawned spawned
    constructor <;> simp [conns, unseated]

/-- **Live messages in log order.** In every run that broadcasts in order, each
session is sent the messages of a room by increasing number, as a history has
them, and a client displays the ones it receives in that order, below what it
displayed before. -/
theorem live_in_log_order {start : Gateway} {actions : List Action} (spawned : Spawned start)
    (run : Run (step prims) BroadcastsInOrder start actions gateway) :
    (∀ g s client, gateway.Seat g s client → InLogOrder (chats client.sender.log)) ∧
    (∀ g r limit history, gateway.store.history prims g r limit = .ok history →
      history.Pairwise fun a b => a.sequence < b.sequence) ∧
    ∀ c ∈ gateway.conns, ∀ r before received rest, c.written = before ++ received ++ rest →
      (∀ message ∈ received, ChatApp.rewrites r message = false) →
      (received.filterMap (ServerMessage.liveIn r)).Pairwise (fun a b => a.sequence < b.sequence) ∧
      ∀ app, clientOf before = some app → ∃ app', clientOf (before ++ received) = some app' ∧
        (app'.shown r).Sublist (app.shown r ++ received.filterMap (ServerMessage.liveIn r)) := by
  obtain ⟨served, ordered⟩ := ordered_run spawned run
  refine ⟨ordered.queued, fun g r limit history read => ?_, ?_⟩
  · exact (served.posted.sequenced.roomEnd read).ascending served.posted.sequenced
  · intro c hc r before received rest written keeps
    have seen := ordered.seen c hc
    rw [Conn.seen, chats_tracked, written, chats_append, chats_append] at seen
    refine ⟨?_, fun app shows => ⟨received.foldl ChatApp.handleServerMessage app, ?_, ?_⟩⟩
    · refine InLogOrder.liveIn (seen.sublist ?_) r
      exact (List.sublist_append_right _ _).trans (List.sublist_append_left _ _)
    · rw [clientOf, List.foldl_append, ← clientOf, shows]
      exact foldl_receive received app
    · exact ChatApp.shown_foldl keeps

/-! ## Two senders -/

/-- The numbers of the live messages of each channel. -/
def liveNumbers (gateway : Gateway) : List (List ℕ) :=
  gateway.groups.flatMap fun group => group.clients.map fun client =>
    (chats client.sender.log).map ChatRecord.sequence

/-- At most one message is to be broadcast: a check that implies `BroadcastsInOrder`. -/
def onePending (gateway : Gateway) : Bool :=
  gateway.conns.countP (·.task.pending.isSome) ≤ 1

theorem inOrder_of_check (action : Action) (h : gateway.onePending = true) :
    BroadcastsInOrder gateway action := by
  intro c hc _ g m pending d hd m' pending' _
  have same := Table.eq_of_countP_le_one (of_decide_eq_true h) hc hd (by rw [pending]; rfl)
    (by rw [pending']; rfl)
  subst same
  rw [pending] at pending'
  cases pending'
  exact le_rfl

theorem inOrder_of_undisturbed (action : Action) (h : gateway.isUndisturbed = true) :
    BroadcastsInOrder gateway action := by
  intro c hc _ g m pending _ _ _ _ _
  obtain ⟨me, used, violations, task⟩ := Task.pending_iff.1 pending
  have none := isUndisturbed_handler h hc
  rw [task] at none
  cases none

theorem live_in_log_order_two_senders : ∃ gateway, Reachable .checksummed gateway ∧
    gateway.liveNumbers = [[1, 2], [1, 2]] ∧
    ∀ g s client, gateway.Seat g s client → InLogOrder (chats client.sender.log) := by
  have ran : (exec (step .checksummed) onePending teamOfTwo
      (posts 1 50 ++ advances 1 1 ++ posts 2 51 ++ advances 2 1)).any
        (fun gateway => gateway.liveNumbers = [[1, 2], [1, 2]]) = true := by
    decide +kernel
  obtain ⟨gateway, ran, numbers⟩ := (Option.any_eq_true _ _).1 ran
  have before := run_teamOfTwo.mono fun _ action undisturbed =>
    inOrder_of_undisturbed action undisturbed
  have run := before.append (run_of_exec (fun _ => inOrder_of_check) ran)
  exact ⟨gateway, ⟨_, _, spawned_blank, run.mono fun _ _ _ => trivial⟩, of_decide_eq_true numbers,
    (live_in_log_order spawned_blank run).1⟩

/-- Message 1 is broadcast after message 2 when the sender of message 2 gets to
its broadcast first. -/
theorem live_out_of_order : ¬ ∀ gateway, Reachable .checksummed gateway →
    ∀ g s client, gateway.Seat g s client → client.sender.dropped = false →
      InLogOrder (chats client.sender.log) := by
  intro claim
  obtain ⟨gateway, reachable, checked⟩ := exists_reachable reachable_teamOfTwo
    (posts 1 50 ++ posts 2 51 ++ advances 2 1 ++ advances 1 1)
    (fun gateway => gateway.groups.any fun group => group.clients.any fun client =>
      !client.sender.dropped && !decide (InLogOrder (chats client.sender.log))) (by decide +kernel)
  obtain ⟨group, known, checked⟩ := List.any_eq_true.1 checked
  obtain ⟨client, entry, checked⟩ := List.any_eq_true.1 checked
  obtain ⟨roomy, disordered⟩ := Bool.and_eq_true_iff.1 checked
  have ordered := claim gateway reachable _ _ client ⟨group, known, rfl, entry, rfl⟩
    (by simpa using roomy)
  simp [ordered] at disordered

end Gateway

end LanChat
