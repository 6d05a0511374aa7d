import LanChat.Base.Dispatch
import LanChat.Server.Rotation

/-!
# One order for all

A chat message is committed by its sender's handler and broadcast by a later step of
that handler, so messages of several senders may be broadcast in another order than they
were committed in. A broadcast is one step of its task (nothing is awaited while it sends).
There is one order all the same: every session that stays in a room and whose channel keeps
up is sent the same messages in the same order, and no message that was committed is left out.
-/

namespace LanChat

open Transition

/-- The live messages of a room on a channel. -/
def ClientEntry.heard (client : ClientEntry) (r : String) : List ChatRecord :=
  (chats client.sender.log).filter fun message => message.roomId = r

namespace Gateway

variable {prims : Primitives} {gateway gateway' : Gateway} {conn : Conn} {outcome : Outcome}
variable {g s : Uuid} {r : String} {message : ChatRecord}

/-- The message of a room that an action broadcasts. -/
def broadcastOf (g : Uuid) (r : String) (gateway : Gateway) (action : Action) : Option ChatRecord :=
  (((action.actor.bind gateway.conn).bind (·.task.pending)).filter
    fun pending => pending.1 = g ∧ pending.2.roomId = r).map (·.2)

/-- The messages of a room that are in the store. -/
def Committed (g : Uuid) (r : String) (gateway : Gateway) (messageId : Uuid) : Prop :=
  ∃ message, gateway.store.Stored g message ∧ message.roomId = r ∧ message.messageId = messageId

/-- The messages of a room that are committed and not broadcast yet. -/
def Pending (g : Uuid) (r : String) (gateway : Gateway) (message : ChatRecord) : Prop :=
  message.roomId = r ∧ ∃ c ∈ gateway.conns, c.task.pending = some (g, message)

/-- A session of the group is in the room. -/
def Follows (g s : Uuid) (r : String) (gateway : Gateway) : Prop :=
  ∃ client, gateway.Seat g s client ∧ r ∈ client.joinedRooms

/-! ## The step of a broadcast -/

theorem conn_of_mem (owned : Owned gateway) (mem : conn ∈ gateway.conns) : gateway.conn conn.id = some conn := by
  cases found : gateway.conn conn.id with
  | none => exact absurd (beq_self_eq_true conn.id) (List.find?_eq_none.1 found conn mem)
  | some other =>
    obtain ⟨mem', same⟩ := conn_some found
    rw [owned.eq_of_id mem' mem same]

theorem broadcastOf_iff (owned : Owned gateway) (mem : conn ∈ gateway.conns) {action : Action}
    (acts : action.actor = some conn.id) :
    broadcastOf g r gateway action = some message ↔ conn.task.pending = some (g, message) ∧ message.roomId = r := by
  rw [broadcastOf, acts, Option.bind_some, conn_of_mem owned mem, Option.bind_some, Option.map_eq_some_iff]
  constructor
  · rintro ⟨⟨g', message'⟩, kept, rfl⟩
    obtain ⟨pending, matching⟩ := Option.filter_eq_some_iff.1 kept
    obtain ⟨rfl, inRoom⟩ := of_decide_eq_true matching
    exact ⟨pending, inRoom⟩
  · rintro ⟨pending, inRoom⟩
    exact ⟨(g, message), Option.filter_eq_some_iff.2 ⟨pending, decide_eq_true ⟨rfl, inRoom⟩⟩, rfl⟩

/-- **The step after a commit is the broadcast.** -/
theorem broadcast_step {action : Action} (h : gateway.outcome prims conn action = some outcome)
    (pending : conn.task.pending = some (g, message)) :
    outcome.changes = [.send (.inRoom message.roomId) (.chat message)] ∧ outcome.task.pending = none := by
  obtain ⟨me, used, violations, task⟩ := Task.pending_iff.1 pending
  cases action with
  | advance id draw fault =>
    simp only [Gateway.outcome, task, advance] at h
    obtain ⟨group, -, h⟩ := Option.bind_eq_some_iff.1 h
    simp only [serve, Handler.storeCall, Handler.block, Option.map_some, Option.some.injEq] at h
    subst h
    exact ⟨rfl, rfl⟩
  | _ => simp [Gateway.outcome, task] at h

/-- A store call commits a message only for `append_message`, which replies with it. -/
theorem stored_call {op : StoreOp} {fault : Bool} (stored : (gateway.call prims op fault).2.Stored g message) :
    gateway.store.Stored g message ∨ ∃ roomId id sender sentAtMs text draw message',
      op = .appendMessage g roomId id sender sentAtMs text draw ∧
        (gateway.call prims op fault).1 = .record message' ∧ message'.roomId = message.roomId ∧
        message'.messageId = message.messageId := by
  cases fault with
  | true => exact .inl stored
  | false =>
    rw [call, if_neg (by decide)] at stored ⊢
    obtain ⟨row, mem, ofGroup, ofRoom, id, sequence⟩ := stored
    have step := GatewayStore.messagesStep prims gateway.store op
    generalize (gateway.store.perform prims op).1 = reply at step ⊢
    generalize (gateway.store.perform prims op).2 = store' at step mem ⊢
    cases step with
    | same _ messages | opened _ _ _ messages =>
      rw [messages] at mem
      exact .inl ⟨row, mem, ofGroup, ofRoom, id, sequence⟩
    | posted _ _ sent _ _ ofMessage messages =>
      rw [messages] at mem
      rcases List.mem_append.1 mem with before | new
      · exact .inl ⟨row, before, ofGroup, ofRoom, id, sequence⟩
      · obtain rfl := List.mem_singleton.1 new
        obtain ⟨inGroup, inRoom, sameId, -⟩ := ofMessage
        obtain rfl := ofGroup.symm.trans inGroup
        exact .inr ⟨_, _, _, _, _, _, _, rfl, rfl, sent.2.trans (inRoom.symm.trans ofRoom),
          sent.1.trans (sameId.symm.trans id)⟩

/-- **What a step commits, its connection is to broadcast.** -/
theorem committed_after {action : Action} (h : gateway.outcome prims conn action = some outcome)
    (stored : outcome.store.Stored g message) : gateway.store.Stored g message ∨
      ∃ message', outcome.task.pending = some (g, message') ∧ message'.roomId = message.roomId ∧
        message'.messageId = message.messageId := by
  have ofCall : ∀ {op fault}, (∀ roomId id sender sentAtMs text draw,
      op ≠ .appendMessage g roomId id sender sentAtMs text draw) →
      (gateway.call prims op fault).2.Stored g message → gateway.store.Stored g message := by
    intro op fault other stored
    rcases stored_call stored with before | ⟨roomId, id, sender, sentAtMs, text, draw, message', same, -⟩
    · exact before
    · exact absurd same (other roomId id sender sentAtMs text draw)
  cases taken h with
  | lobby _ _ called =>
    cases called with
    | none => exact .inl stored
    | _ => exact .inl (ofCall (by simp) stored)
  | admits | creates | names => exact .inl (ofCall (by simp) stored)
  | @calls g' me used violations handler op draw fault task waits =>
    rcases stored_call stored with before | ⟨roomId, id, sender, sentAtMs, text, draw', message', rfl, replied, same⟩
    · exact .inl before
    · cases handler with
      | chatAppend roomId' messageId' text' =>
        cases waits
        refine .inr ⟨message', ?_, same⟩
        rw [replied]
        rfl
      | _ => cases waits
  | _ => exact .inl stored

/-! ## Committed, pending, broadcast -/

/-- The gateway goes on running, and keeps what every run keeps. -/
def Running (gateway : Gateway) (action : Action) : Prop := action ≠ .restart ∧ Served gateway

/-- **What is committed is broadcast, once.** -/
theorem dispatches (prims : Primitives) (g : Uuid) (r : String) :
    Dispatches (step prims) Running (broadcastOf g r) ChatRecord.messageId (Committed g r) (Pending g r) := by
  -- a step is a new connection, of which nothing is known, or a step of a connection
  have cases' : ∀ {s a t}, Running s a → s.step prims a = some t →
      (t.store = s.store ∧ (∀ m, Pending g r s m ↔ Pending g r t m) ∧ broadcastOf g r s a = none) ∨
        ∃ conn ∈ s.conns, a.actor = some conn.id ∧ ∃ outcome, s.outcome prims conn a = some outcome ∧
          t = s.commit conn outcome := by
    intro s a t running h
    rcases step_cases h with ⟨id, remote, rfl, -, rfl⟩ | ⟨rfl, -⟩ | committed
    · refine .inl ⟨rfl, fun m => ?_, rfl⟩
      simp [Pending, Task.pending]
    · exact absurd rfl running.1
    · exact .inr committed
  have fresh : ∀ {s conn outcome a m}, Served s → s.outcome prims conn a = some outcome →
      outcome.task.pending = some (g, m) → ¬ Committed g r s m.messageId := by
    rintro s conn outcome a m served h pending ⟨old, stored, -, same⟩
    obtain ⟨roomId, id, sender, sentAtMs, text, draw, reply, -⟩ := pending_after h pending
    exact (served.posted.sequenced.posted reply).2.1 g old stored same
  constructor
  · rintro s a t k running h ⟨m, stored, inRoom, same⟩
    rcases cases' running h with ⟨store, -⟩ | ⟨conn, -, -, outcome, taken, rfl⟩
    · exact ⟨m, by rwa [store], inRoom, same⟩
    · exact ⟨m, stored_commit taken stored, inRoom, same⟩
  · rintro s a m running ⟨inRoom, c, hc, pending⟩
    exact ⟨m, running.2.posted.pending c hc g m pending, inRoom, rfl⟩
  · rintro s a t k running h ⟨m, stored, rfl, rfl⟩
    rcases cases' running h with ⟨store, -⟩ | ⟨conn, mem, -, outcome, taken, rfl⟩
    · exact .inl ⟨m, by rwa [← store], rfl, rfl⟩
    · rcases committed_after taken stored with before | ⟨m', pending, inRoom, same⟩
      · exact .inl ⟨m, before, rfl, rfl⟩
      · exact .inr ⟨m', ⟨inRoom, _, after_mem_commit mem, pending⟩, same⟩
  · intro s a t m running h waits
    rcases cases' running h with ⟨-, same, -⟩ | ⟨conn, mem, -, outcome, taken, rfl⟩
    · exact .inl ((same m).2 waits)
    · obtain ⟨inRoom, c, hc, pending⟩ := waits
      rcases mem_conns_commit hc with ⟨was, -⟩ | rfl
      · exact .inl ⟨inRoom, c, was, pending⟩
      · exact .inr (fresh running.2 taken pending)
  · intro s a t m running h waits
    rcases cases' running h with ⟨-, same, -⟩ | ⟨conn, mem, acts, outcome, taken, rfl⟩
    · exact .inl ((same m).1 waits)
    · obtain ⟨inRoom, c, hc, pending⟩ := waits
      by_cases own : c.id = conn.id
      · obtain rfl := running.2.owned.eq_of_id hc mem own
        exact .inr ((broadcastOf_iff running.2.owned mem acts).2 ⟨pending, inRoom⟩)
      · exact .inl ⟨inRoom, c, other_mem_commit hc own, pending⟩
  · intro s a t m running h sends
    rcases cases' running h with ⟨-, -, nothing⟩ | ⟨conn, mem, acts, outcome, taken, rfl⟩
    · rw [nothing] at sends
      cases sends
    · obtain ⟨pending, inRoom⟩ := (broadcastOf_iff running.2.owned mem acts).1 sends
      exact ⟨inRoom, conn, mem, pending⟩
  · intro s a t m m' running h sends waits
    rcases cases' running h with ⟨-, -, nothing⟩ | ⟨conn, mem, acts, outcome, taken, rfl⟩
    · rw [nothing] at sends
      cases sends
    · obtain ⟨pending, -⟩ := (broadcastOf_iff running.2.owned mem acts).1 sends
      obtain ⟨-, c, hc, pending'⟩ := waits
      rcases mem_conns_commit hc with ⟨was, other⟩ | rfl
      · intro same
        exact other (congrArg Conn.id (running.2.posted.apart c was conn mem g g m' m pending' pending same))
      · rw [show (after conn outcome).task = outcome.task from rfl, (broadcast_step taken pending).2] at pending'
        cases pending'

/-! ## What a session hears -/

/-- A session hears the broadcasts to its room. -/
theorem heard_broadcast {client : ClientEntry} (inRoom : r ∈ client.joinedRooms)
    (kept : (client.applyAll [.send (.inRoom message.roomId) (.chat message)]).sender.dropped = false) :
    (client.applyAll [.send (.inRoom message.roomId) (.chat message)]).heard r =
      client.heard r ++ if message.roomId = r then [message] else [] := by
  rw [ClientEntry.applyAll_cons, ClientEntry.applyAll_nil] at *
  obtain news | ⟨-, dropped⟩ := @ClientEntry.news_send client (.inRoom message.roomId) (.chat message) rfl
  · rw [ClientEntry.heard, ← chats_news, news, chats_append, List.filter_append, chats_news, ← ClientEntry.heard]
    congr 1
    by_cases own : message.roomId = r
    · have selected : (Recipients.inRoom message.roomId).selects client = true := by
        rw [own]
        exact decide_eq_true inRoom
      rw [selected, if_pos own, if_pos rfl]
      simp [chats, ServerMessage.chatRecord, own]
    · rw [if_neg own]
      split <;> simp [chats, ServerMessage.chatRecord, own]
  · rw [dropped] at kept
    cases kept

/-- **What a session in the room hears of a step.** -/
theorem heard_commit (served : Served gateway) (mem : conn ∈ gateway.conns) {action : Action}
    (acts : action.actor = some conn.id) (h : gateway.outcome prims conn action = some outcome)
    (follows : gateway.Follows g s r) {client' : ClientEntry} (seat : (gateway.commit conn outcome).Seat g s client')
    (kept : client'.sender.dropped = false) : ∃ client, gateway.Seat g s client ∧
      client.sender.dropped = false ∧ client'.heard r = client.heard r ++ (broadcastOf g r gateway action).toList := by
  have silent : (∀ m, conn.task.pending ≠ some (g, m)) → broadcastOf g r gateway action = none := by
    intro none
    cases sends : broadcastOf g r gateway action with
    | none => rfl
    | some m => exact absurd ((broadcastOf_iff served.owned mem acts).1 sends).1 (none m)
  cases seatStep h seat with
  | @own client was inGroup now =>
    subst now
    refine ⟨client, was, ClientEntry.dropped_applyAll kept, ?_⟩
    cases waits : conn.task.pending with
    | none =>
      rw [silent (by simp [waits])]
      obtain same | ⟨g', m, pending, -⟩ := chats_after (tells (served.posted.replies conn mem) h) client
      · rw [ClientEntry.heard, same, Option.toList_none, List.append_nil, ← ClientEntry.heard]
      · rw [waits] at pending
        cases pending
    | some pending =>
      obtain ⟨g', m⟩ := pending
      obtain ⟨me, used, violations, task⟩ := Task.pending_iff.1 waits
      rw [task] at inGroup
      obtain rfl := Option.some.inj inGroup
      obtain ⟨changes, -⟩ := broadcast_step h waits
      rw [changes] at kept ⊢
      obtain ⟨client', was', inRoom⟩ := follows
      obtain rfl := served.seats.one _ s client client' was was'
      rw [heard_broadcast inRoom kept]
      congr 1
      by_cases own : m.roomId = r
      · rw [if_pos own, (broadcastOf_iff served.owned mem acts).2 ⟨waits, own⟩]
        rfl
      · rw [if_neg own]
        cases sends : broadcastOf g' r gateway action with
        | none => rfl
        | some m' =>
          obtain ⟨pending, own'⟩ := (broadcastOf_iff served.owned mem acts).1 sends
          rw [waits] at pending
          cases pending
          exact absurd own' own
  | other was elsewhere =>
    refine ⟨client', was, kept, ?_⟩
    rw [silent, Option.toList_none, List.append_nil]
    intro m pending
    obtain ⟨me, used, violations, task⟩ := Task.pending_iff.1 pending
    exact elsewhere (by rw [task]; rfl)
  | registered _ fresh =>
    obtain ⟨_, ⟨group, inGroups, -, isClient, same⟩, -⟩ := follows
    exact absurd same ((isFreshSession_iff.1 fresh).2 group inGroups _ isClient)

theorem served_reachable (reachable : Reachable prims gateway) : Served gateway := by
  obtain ⟨start, actions, spawned, run⟩ := reachable
  exact run.preserves (fun _ _ _ served _ h => served_step served h) (served_spawned spawned)

/-- The session has this on its channel of the room, and its channel keeps up. -/
def Hears (g s : Uuid) (r : String) (gateway : Gateway) (heard : List ChatRecord) : Prop :=
  ∃ client, gateway.Seat g s client ∧ client.sender.dropped = false ∧ client.heard r = heard

/-- **What a session in the room hears over a run.** -/
theorem heard_run {start : Gateway} {actions : List Action} (served : Served start)
    (run : Run (step prims) (fun gateway _ => gateway.Follows g s r) start actions gateway)
    {client : ClientEntry} (seat : gateway.Seat g s client) (kept : client.sender.dropped = false) :
    ∃ before, start.Seat g s before ∧ before.sender.dropped = false ∧
      client.heard r = before.heard r ++ sentOver (step prims) (broadcastOf g r) start actions := by
  have hears : ∀ before action after heard, (before.Follows g s r ∧ Served before) →
      before.step prims action = some after → Hears g s r after heard →
      ∃ heardBefore, Hears g s r before heardBefore ∧
        heard = heardBefore ++ (broadcastOf g r before action).toList := by
    rintro before action after _ ⟨follows, served⟩ h ⟨client, seat, kept, rfl⟩
    rcases step_cases h with ⟨id, remote, rfl, -, rfl⟩ | ⟨rfl, rfl⟩ | ⟨conn, mem, acts, outcome, taken, rfl⟩
    · exact ⟨_, ⟨client, seat, kept, rfl⟩, (List.append_nil _).symm⟩
    · obtain ⟨group, inGroups, -, entry, -⟩ := seat
      rw [loadGroups_empty group inGroups] at entry
      cases entry
    · obtain ⟨old, was, kept, heard⟩ := heard_commit served mem acts taken follows seat kept
      exact ⟨_, ⟨old, was, kept, rfl⟩, heard⟩
  have throughout := run.within (fun _ _ _ served _ h => served_step served h) served
  obtain ⟨_, ⟨before, was, keptBefore, rfl⟩, heard⟩ := throughout.read hears ⟨client, seat, kept, rfl⟩
  exact ⟨before, was, keptBefore, heard⟩

/-- **One order for all.** What a run broadcasts to a room is one sequence without repetition, of
committed messages, and with every message that is committed or pending and not pending at the
end; every session that is in the room throughout and whose channel keeps up is sent this
sequence. -/
theorem one_order_for_all {start : Gateway} {actions : List Action} (reachable : Reachable prims start)
    (run : Run (step prims) (fun _ action => action ≠ .restart) start actions gateway) (g : Uuid) (r : String) :
    ∃ sent : List ChatRecord, (sent.map ChatRecord.messageId).Nodup ∧
      (∀ message ∈ sent, message.roomId = r ∧ Committed g r gateway message.messageId) ∧
      (∀ message, Pending g r start message → message ∈ sent ∨ Pending g r gateway message) ∧
      (∀ id, Committed g r gateway id → ¬ Committed g r start id →
        ∃ message, message.messageId = id ∧ (message ∈ sent ∨ Pending g r gateway message)) ∧
      ∀ s before after, Run (step prims) (fun gateway _ => gateway.Follows g s r) start actions gateway →
        start.Seat g s before → gateway.Seat g s after → after.sender.dropped = false →
          after.heard r = before.heard r ++ sent := by
  have served := served_reachable reachable
  have running : Run (step prims) Running start actions gateway :=
    run.within (fun _ _ _ served _ h => served_step served h) served
  have rule := dispatches prims g r
  refine ⟨sentOver (step prims) (broadcastOf g r) start actions, rule.nodup running, ?_, ?_, ?_, ?_⟩
  · intro message sent
    refine ⟨?_, (rule.origin running sent).1⟩
    refine forall_sentOver (P := fun message => message.roomId = r) (fun before action message sends => ?_) message sent
    obtain ⟨pending, kept, rfl⟩ := Option.map_eq_some_iff.1 sends
    exact (of_decide_eq_true (Option.filter_eq_some_iff.1 kept).2).2
  · intro message pending
    exact (rule.waits_until_sent running pending).symm
  · intro id now notBefore
    obtain ⟨message, same, pending | sent⟩ := rule.complete running now notBefore
    · exact ⟨message, same, .inr pending⟩
    · exact ⟨message, same, .inl sent⟩
  · intro s before after follows seat seat' kept
    obtain ⟨before', was, -, heard⟩ := heard_run served follows seat' kept
    rw [heard, served.seats.one g s before before' seat was]

/-- A check that implies `Follows`. -/
def follows (g s : Uuid) (r : String) (gateway : Gateway) : Bool :=
  (gateway.client g s).any fun client => decide (r ∈ client.joinedRooms)

theorem follows_of_check {gateway : Gateway} (check : follows g s r gateway = true) : gateway.Follows g s r := by
  obtain ⟨client, found, inRoom⟩ := (Option.any_eq_true _ _).1 check
  exact ⟨client, seat_of_client found, of_decide_eq_true inRoom⟩

/-- Messages 50 and 51 are committed in this order and broadcast in the other. -/
def crossed : List Action := posts 1 50 ++ posts 2 51 ++ advances 2 1 ++ advances 1 1

theorem one_order_for_all_crossed : ∃ gateway sent, sent.map ChatRecord.messageId = [⟨51⟩, ⟨50⟩] ∧
    ∀ s before after, Run (step .checksummed) (fun gateway _ => gateway.Follows ⟨10⟩ s defaultRoomId)
        teamOfTwo crossed gateway →
      teamOfTwo.Seat ⟨10⟩ s before → gateway.Seat ⟨10⟩ s after → after.sender.dropped = false →
        after.heard defaultRoomId = before.heard defaultRoomId ++ sent := by
  have ran : (exec (step .checksummed) (follows ⟨10⟩ ⟨20⟩ defaultRoomId) teamOfTwo crossed).any (fun gateway =>
      (gateway.client ⟨10⟩ ⟨20⟩).any fun client => !client.sender.dropped &&
        (client.heard defaultRoomId).map ChatRecord.messageId == [⟨51⟩, ⟨50⟩]) = true := by
    decide +kernel
  obtain ⟨gateway, ran, heard⟩ := (Option.any_eq_true _ _).1 ran
  obtain ⟨client, found, heard⟩ := (Option.any_eq_true _ _).1 heard
  obtain ⟨kept, ids⟩ := Bool.and_eq_true_iff.1 heard
  have follows : Run (step .checksummed) (fun gateway _ => gateway.Follows ⟨10⟩ ⟨20⟩ defaultRoomId)
      teamOfTwo crossed gateway := run_of_exec (fun _ _ => follows_of_check) ran
  have run : Run (step .checksummed) (fun _ action => action ≠ .restart) teamOfTwo crossed gateway :=
    follows.of_actions fun action mem _ => by
      revert mem
      revert action
      decide
  obtain ⟨sent, -, -, -, -, agree⟩ := one_order_for_all reachable_teamOfTwo run ⟨10⟩ defaultRoomId
  refine ⟨gateway, sent, ?_, agree⟩
  obtain ⟨before, was, nothing⟩ : ∃ before, teamOfTwo.Seat ⟨10⟩ ⟨20⟩ before ∧ before.heard defaultRoomId = [] :=
    ⟨_, ⟨_, List.mem_cons_self, rfl, List.mem_cons_self, rfl⟩, rfl⟩
  have heard := agree ⟨20⟩ before client follows was (seat_of_client found) (by simpa using kept)
  rw [nothing, List.nil_append] at heard
  rw [← heard]
  exact eq_of_beq ids

/-! ## Joining a room -/

/-- A step that reads the history of a room. -/
theorem history_step (found : gateway.conn conn.id = some conn) {me : Session}
    {used violations : ℕ} {room : RoomSummary}
    (task : conn.task = .serving g me used violations (some (.joinHistory room))) {draw : Draw} {fault : Bool}
    (h : gateway.step prims (.advance conn.id draw fault) = some gateway') :
    gateway'.store = gateway.store ∧ ∃ reply, (∀ records, reply = .records records →
        gateway.store.history prims g room.roomId historyCapacity = .ok records) ∧
      ∃ conn', gateway'.conn conn.id = some conn' ∧ conn'.id = conn.id ∧
        conn'.task = .serving g me used violations (some ((Handler.joinHistory room).resume reply)) := by
  simp only [step, found, Option.bind_some] at h
  obtain ⟨outcome, taken, rfl⟩ := Option.map_eq_some_iff.1 h
  simp only [Gateway.outcome, task, advance] at taken
  obtain ⟨group, -, taken⟩ := Option.bind_eq_some_iff.1 taken
  simp only [serve, Handler.storeCall, Option.some.injEq] at taken
  subst taken
  refine ⟨call_store rfl, (gateway.call prims (.history g room.roomId historyCapacity) fault).1, ?_, ?_⟩
  · intro records replied
    obtain ⟨performed, -⟩ := call_of_reply replied (by simp)
    simp only [GatewayStore.perform, GatewayStore.answer] at performed
    split at performed
    · cases performed
    · rename_i read
      cases performed
      exact read
  · rw [conn_commit, found, Option.map_some, if_pos rfl]
    exact ⟨_, rfl, rfl, rfl⟩

/-- **A history leaves out only what is older than its first message.** -/
theorem mem_snapshot (served : Served gateway) {records : List ChatRecord}
    (read : gateway.store.history prims g r historyCapacity = .ok records) {id : Uuid}
    (newer : ∃ message, gateway.store.Stored g message ∧ message.roomId = r ∧ message.messageId = id ∧
      ∀ first ∈ (fitHistoryToFrame records).head?, first.sequence < message.sequence) :
    id ∈ (fitHistoryToFrame records).map ChatRecord.messageId := by
  obtain ⟨message, stored, inRoom, rfl, above⟩ := newer
  have sequenced := served.posted.sequenced
  have ending := (sequenced.roomEnd read).drop (fitHistoryToFrame_suffix records)
  cases head : (fitHistoryToFrame records).head? with
  | some first => exact ending.complete sequenced head stored inRoom (above first (by rw [head]; rfl))
  | none =>
    -- an empty history is that of an empty room
    have empty : records = [] := by
      by_contra nonempty
      exact fitHistoryToFrame_ne_nil nonempty (List.head?_eq_none_iff.1 head)
    subst empty
    rw [GatewayStore.history, Table.latest_of_ascending _ (sequenced.ascending g r)] at read
    have none := List.forall₂_nil_right_iff.1 (forall₂_of_mapM read)
    rw [List.drop_eq_nil_iff, clamp, historyCapacity] at none
    obtain ⟨row, mem, ofGroup, ofRoom, -⟩ := stored
    have pos := List.length_pos_of_mem (GatewayStore.mem_roomMessages.2 ⟨mem, ofGroup, ofRoom.trans inRoom⟩)
    omega

/-- The step that subscribes a session to a room sends it the history. -/
theorem insert_step (found : gateway.conn conn.id = some conn) {me : Session}
    {used violations : ℕ} {room : RoomSummary} {history : List ChatRecord}
    (task : conn.task = .serving g me used violations (some (.joinInsert room history))) {draw : Draw} {fault : Bool}
    (h : gateway.step prims (.advance conn.id draw fault) = some gateway') {entry : ClientEntry}
    (seat : gateway'.Seat g me.peer.sessionId entry) (kept : entry.sender.dropped = false) :
    .roomJoined room history ∈ entry.sender.log := by
  obtain ⟨mem, -⟩ := conn_some found
  simp only [step, found, Option.bind_some] at h
  obtain ⟨outcome, taken, rfl⟩ := Option.map_eq_some_iff.1 h
  obtain ⟨client, was, now⟩ := Seat.before taken mem (by rw [task]; rfl) seat
  simp only [Gateway.outcome, task, advance] at taken
  obtain ⟨group, -, taken⟩ := Option.bind_eq_some_iff.1 taken
  simp only [serve, Handler.storeCall, Handler.block, Option.map_some, Option.some.injEq] at taken
  subst taken
  obtain ⟨rfl, -⟩ | ⟨-, elsewhere⟩ := now
  · obtain ⟨_, _, -, -, ownId⟩ := was
    have isFor : (Recipients.session me.peer.sessionId).selects (client.apply (.join me.peer.sessionId room.roomId)) =
        true := by
      rw [Recipients.selects, ClientEntry.apply_peer, ownId]
      exact beq_self_eq_true _
    rw [ClientEntry.applyAll_cons, ClientEntry.applyAll_cons] at kept ⊢
    have told := @ClientEntry.news_send (client.apply (.join me.peer.sessionId room.roomId))
      (.session me.peer.sessionId) (.roomJoined room history) rfl
    rw [if_pos isFor] at told
    rcases told with news | ⟨-, dropped⟩
    · refine ClientEntry.log_applyAll.subset ?_
      have inNews : ServerMessage.roomJoined room history ∈
          ((client.apply (.join me.peer.sessionId room.roomId)).apply
            (.send (.session me.peer.sessionId) (.roomJoined room history))).news := by
        rw [news]
        exact List.mem_append_right _ (List.mem_singleton_self _)
      exact (List.mem_filter.1 inNews).1
    · rw [ClientEntry.dropped_applyAll kept] at dropped
      cases dropped
  · exact absurd (by rw [task]; rfl) elsewhere

/-- A session in no broadcast broadcasts nothing. -/
theorem broadcastOf_eq_none (owned : Owned gateway) (mem : conn ∈ gateway.conns) {action : Action}
    (acts : action.actor = some conn.id) (idle : conn.task.pending = none) :
    broadcastOf g r gateway action = none := by
  cases sends : broadcastOf g r gateway action with
  | none => rfl
  | some message =>
    have pending := ((broadcastOf_iff owned mem acts).1 sends).1
    rw [idle] at pending
    cases pending

/-- A run through which a session keeps its seat has no restart. -/
theorem runs_on {start : Gateway} {actions : List Action} {client : ClientEntry}
    (run : Run (step prims) (fun gateway _ => gateway.Follows g s r) start actions gateway)
    (seat : gateway.Seat g s client) : Run (step prims) (fun _ action => action ≠ .restart) start actions gateway := by
  induction run with
  | nil => exact .nil _
  | @cons before after final action actions _ taken rest ih =>
    refine .cons ?_ taken (ih seat)
    rintro rfl
    have unseated : ∀ client, ¬ after.Seat g s client := by
      obtain rfl := Option.some.inj taken
      rintro client ⟨group, inGroups, -, entry, -⟩
      rw [loadGroups_empty group inGroups] at entry
      cases entry
    cases rest with
    | nil => exact unseated client seat
    | cons follows =>
      obtain ⟨client, seat, -⟩ := follows
      exact unseated client seat

theorem stored_run {actions : List Action} (run : Run (step prims) anyAction gateway actions gateway')
    (stored : gateway.store.Stored g message) : gateway'.store.Stored g message := by
  refine run.preserves (I := fun gateway => gateway.store.Stored g message) (fun before action after stored _ h => ?_) stored
  rcases idles_or_commit h with idles | ⟨conn, -, -, outcome, taken, rfl⟩
  · rwa [idles.store]
  · exact stored_commit taken stored

/-- **A join misses only the window.** A session reads the history of a room, other connections
take steps, the session subscribes and stays. Of the messages of the room that are newer than
the first of that history and not pending at the end, the session has been sent all but those
that were both committed and broadcast between its reading and its subscription. -/
theorem join_misses_only_window {loading read opened joined final : Gateway} {others later : List Action}
    {me : Session} {used violations : ℕ} {room : RoomSummary} {history : List ChatRecord}
    {draw draw' : Draw} {fault fault' : Bool} {conn' : Conn} {entry entry' : ClientEntry}
    (reachable : Reachable prims loading) (found : loading.conn conn.id = some conn)
    (task : conn.task = .serving g me used violations (some (.joinHistory room)))
    (reads : loading.step prims (.advance conn.id draw fault) = some read)
    (window : Run (step prims) (fun _ action => action ≠ .restart ∧ action.actor ≠ some conn.id) read others opened)
    (found' : opened.conn conn.id = some conn')
    (task' : conn'.task = .serving g me used violations (some (.joinInsert room history)))
    (joins : opened.step prims (.advance conn.id draw' fault') = some joined)
    (stays : Run (step prims) (fun gateway _ => gateway.Follows g me.peer.sessionId room.roomId) joined later final)
    (seat : joined.Seat g me.peer.sessionId entry) (seat' : final.Seat g me.peer.sessionId entry')
    (kept : entry'.sender.dropped = false) :
    .roomJoined room history ∈ entry.sender.log ∧ ∃ live,
      entry'.heard room.roomId = entry.heard room.roomId ++ live ∧
      ∀ message, final.store.Stored g message → message.roomId = room.roomId →
        (∀ pending, Pending g room.roomId final pending → pending.messageId ≠ message.messageId) →
        (∀ first ∈ history.head?, first.sequence < message.sequence) →
        message.messageId ∈ history.map ChatRecord.messageId ∨
          message.messageId ∈ live.map ChatRecord.messageId ∨
          ¬ Committed g room.roomId loading message.messageId ∧ message.messageId ∈
            (sentOver (step prims) (broadcastOf g room.roomId) read others).map ChatRecord.messageId := by
  have stepped : ∀ (s : Gateway) (a : Action) (t : Gateway), Served s → s.step prims a = some t → Served t :=
    fun _ _ _ served h => served_step served h
  have servedRead := stepped _ _ _ (served_reachable reachable) reads
  have servedOpened : Served opened :=
    window.preserves (fun s a t served _ h => stepped s a t served h) servedRead
  have servedJoined := stepped _ _ _ servedOpened joins
  obtain ⟨mem', sameId⟩ := conn_some found'
  rw [← sameId] at joins found'
  -- what the session hears after it has joined
  obtain ⟨entry₀, seat₀, kept₀, heard⟩ := heard_run servedJoined stays seat' kept
  obtain rfl := servedJoined.seats.one g me.peer.sessionId entry entry₀ seat seat₀
  refine ⟨insert_step found' task' joins seat kept₀, _, heard, fun message stored inRoom settled above => ?_⟩
  -- the history is that of the store at the reading
  obtain ⟨store, reply, ofReply, conn₁, found₁, sameId₁, task₁⟩ := history_step found task reads
  have waited : conn₁ = conn' := by
    rw [← sameId₁] at found₁
    rw [sameId, ← sameId₁] at found'
    rcases conn_run_of_others found₁ (window.mono fun _ _ both => sameId₁ ▸ both.2) with same | ⟨c, same, closed⟩
    · exact Option.some.inj (same.symm.trans found')
    · rw [Option.some.inj (same.symm.trans found'), task'] at closed
      cases closed
  subst waited
  obtain ⟨records, replied, rfl⟩ : ∃ records, reply = .records records ∧ history = fitHistoryToFrame records := by
    rw [task₁] at task'
    cases reply with
    | records records =>
      cases task'
      exact ⟨records, rfl, rfl⟩
    | _ => cases task'
  have whole : Run (step prims) (fun _ action => action ≠ .restart) read
      (others ++ .advance conn₁.id draw' fault' :: later) final :=
    (window.mono fun _ _ both => both.1).append (.cons (by simp) joins (runs_on stays seat'))
  by_cases old : Committed g room.roomId loading message.messageId
  · obtain ⟨message₀, stored₀, inRoom₀, same⟩ := old
    have servedFinal := whole.preserves (fun s a t served _ h => stepped s a t served h) servedRead
    have later₀ := stored_run (.cons trivial reads (whole.mono fun _ _ _ => trivial)) stored₀
    have sequence := (servedFinal.posted.sequenced.eq_of_id later₀ stored same).2.2
    refine .inl (mem_snapshot (served_reachable reachable) (ofReply records replied)
      ⟨message₀, stored₀, inRoom₀, same, fun first isFirst => ?_⟩)
    rw [sequence]
    exact above first isFirst
  · -- a new message was sent in the window or afterwards
    have notRead : ¬ Committed g room.roomId read message.messageId := by
      rwa [Committed, store]
    obtain ⟨sent, same, pending | isSent⟩ := (dispatches prims g room.roomId).complete
      (whole.within (fun s a t served _ h => stepped s a t served h) servedRead) ⟨message, stored, inRoom, rfl⟩ notRead
    · exact absurd same (settled sent pending)
    · have silent : broadcastOf g room.roomId opened (.advance conn₁.id draw' fault') = none :=
        broadcastOf_eq_none servedOpened.owned mem' rfl (by rw [task']; rfl)
      rw [window.sentOver_append, sentOver_cons joins, silent, Option.toList_none, List.nil_append] at isSent
      rw [← same]
      rcases List.mem_append.1 isSent with early | live
      · exact .inr (.inr ⟨same ▸ old, List.mem_map_of_mem early⟩)
      · exact .inr (.inl (List.mem_map_of_mem live))

def loft : RoomSummary := ⟨(⟨60⟩ : Uuid).simple, "loft", .isPublic⟩

/-- The founder opens a room, and the joiner joins it as far as its history. -/
def opensLoft : List Action :=
  .receive 1 (.createRoom "loft" .isPublic) false :: advances 1 2 ++ [.advance 1 (drawn 60) false] ++
    advances 1 4 ++ .receive 2 (.joinRoom loft.roomId) false :: advances 2 3

/-- The founder posts to the room, up to the broadcast. -/
def postsToLoft (messageId : ℕ) : List Action :=
  .receive 1 (.chat loft.roomId ⟨BitVec.ofNat 128 messageId⟩ "hi") false :: advances 1 4

/-- The gateway after these actions. -/
def ranTo (gateway : Gateway) (actions : List Action) : Gateway :=
  (exec (step .checksummed) (fun _ => true) gateway actions).getD gateway

/-- The joiner is about to read the history, has read it, has missed message 50, has
joined, and has heard message 51. -/
def atHistory : Gateway := teamOfTwo.ranTo opensLoft

def hasRead : Gateway := atHistory.ranTo (advances 2 1)

def hasMissed : Gateway := hasRead.ranTo (postsToLoft 50)

def hasJoined : Gateway := hasMissed.ranTo (advances 2 1)

def hasHeard : Gateway := hasJoined.ranTo (postsToLoft 51)

theorem join_misses_only_window_loft :
    (∃ client, hasHeard.Seat ⟨10⟩ joiner.peer.sessionId client ∧
      (client.heard loft.roomId).map ChatRecord.messageId = [⟨51⟩]) ∧
    ⟨50⟩ ∈ (sentOver (step .checksummed) (broadcastOf ⟨10⟩ loft.roomId) hasRead (postsToLoft 50)).map
      ChatRecord.messageId := by
  have runs : exec (step .checksummed) (fun _ => true) teamOfTwo opensLoft = some atHistory ∧
      atHistory.step .checksummed (.advance 2 (drawn 0) false) = some hasRead ∧
      exec (step .checksummed) (fun _ => true) hasRead (postsToLoft 50) = some hasMissed ∧
      hasMissed.step .checksummed (.advance 2 (drawn 0) false) = some hasJoined ∧
      exec (step .checksummed) (follows ⟨10⟩ ⟨40⟩ loft.roomId) hasJoined (postsToLoft 51) = some hasHeard := by
    decide +kernel
  have states : (atHistory.conn 2).map Conn.task = some (.serving ⟨10⟩ joiner 1 0 (some (.joinHistory loft))) ∧
      (hasMissed.conn 2).map Conn.task = some (.serving ⟨10⟩ joiner 1 0 (some (.joinInsert loft []))) ∧
      (hasJoined.client ⟨10⟩ ⟨40⟩).any (fun client => client.heard loft.roomId == []) = true ∧
      (hasHeard.client ⟨10⟩ ⟨40⟩).any (fun client => !client.sender.dropped &&
        (client.heard loft.roomId).map ChatRecord.messageId == [⟨51⟩]) = true ∧
      hasHeard.store.groupMessages.any (fun row => row.groupId == ⟨10⟩ && row.roomId == loft.roomId &&
        row.messageId == ⟨50⟩ && row.sequence == 1) = true ∧
      hasHeard.conns.all (·.task.pending.isNone) = true := by
    decide +kernel
  obtain ⟨opens, reads, window, joins, stays⟩ := runs
  obtain ⟨atHistory', atInsert, quiet, hears, committed, settled⟩ := states
  obtain ⟨conn, found, task⟩ := Option.map_eq_some_iff.1 atHistory'
  obtain ⟨conn', found', task'⟩ := Option.map_eq_some_iff.1 atInsert
  obtain ⟨entry, seat, nothing⟩ := (Option.any_eq_true _ _).1 quiet
  obtain ⟨entry', seat', heard⟩ := (Option.any_eq_true _ _).1 hears
  obtain ⟨kept, ids⟩ := Bool.and_eq_true_iff.1 heard
  obtain ⟨start, before, spawned, run⟩ := reachable_teamOfTwo
  have reachable : Reachable .checksummed atHistory :=
    ⟨start, before ++ opensLoft, spawned, run.append (run_of_exec (fun _ _ _ => trivial) opens)⟩
  have others : ∀ action ∈ postsToLoft 50, ∀ _ : Gateway, action ≠ .restart ∧ action.actor ≠ some 2 := by
    intro action mem _
    revert mem
    revert action
    decide
  have ran : Run (step .checksummed) anyAction hasRead (postsToLoft 50) hasMissed :=
    run_of_exec (fun _ _ _ => trivial) window
  have own := (conn_some found).2
  rw [← own] at found reads joins found' others
  obtain ⟨-, live, now, missed⟩ := join_misses_only_window reachable found task reads
    (ran.of_actions others) found' task' joins (run_of_exec (fun _ _ => follows_of_check) stays)
    (seat_of_client seat) (seat_of_client seat') (by simpa using kept)
  rw [eq_of_beq nothing, List.nil_append] at now
  rw [now] at ids
  have idsLive := eq_of_beq ids
  refine ⟨⟨entry', seat_of_client seat', by rw [now, idsLive]⟩, ?_⟩
  obtain ⟨row, isRow, matching⟩ := List.any_eq_true.1 committed
  simp only [Bool.and_eq_true, beq_iff_eq] at matching
  obtain ⟨⟨⟨ofGroup, ofRoom⟩, id⟩, sequence⟩ := matching
  have settled : ∀ pending, Pending ⟨10⟩ loft.roomId hasHeard pending → pending.messageId ≠ ⟨50⟩ := by
    rintro pending ⟨-, c, hc, isPending⟩
    have none := List.all_eq_true.1 settled c hc
    rw [isPending] at none
    cases none
  rcases missed ⟨1, ⟨50⟩, founder.peer, loft.roomId, 0, "hi"⟩ ⟨row, isRow, ofGroup, ofRoom, id, sequence⟩ rfl settled
    (by simp) with old | live | ⟨-, early⟩
  · cases old
  · rw [idsLive] at live
    exact absurd live (by decide)
  · exact early

end Gateway

end LanChat
