import LanChat.Server.Sockets

/-!
# The reply of a token rotation

`handle_rotate_group_token` commits the hash of a new token and then offers the
token, which nothing else has kept, to the bounded channel of its session.
Between the two the session receives nothing while the others go on, so the
level that their traffic leaves the channel at decides whether the token
arrives.
-/

namespace LanChat

open Transition

/-! ## One session under a commit -/

namespace GroupState

variable {group : GroupState} {s : Uuid}

theorem client_apply {change : Change} (keeps : (∀ client, change ≠ .register client) ∧
    ∀ sessionId, change ≠ .remove sessionId) :
    (group.apply change).client s = (group.client s).map (·.apply change) := by
  have mapped : ((group.clients.map (·.apply change)).find? (·.peer.sessionId == s)) =
      (group.client s).map (·.apply change) := by
    rw [List.find?_map]
    simp only [Function.comp_def, ClientEntry.apply_peer]
    rfl
  cases change with
  | register client => exact absurd rfl (keeps.1 client)
  | remove sessionId => exact absurd rfl (keeps.2 sessionId)
  | openRoom | lockCreation => exact Option.map_id'.symm
  | unlockCreation sessionId =>
    simp only [apply]
    split <;> exact Option.map_id'.symm
  | _ => exact mapped

theorem client_applyAll {changes : List Change} (keeps : Gateway.KeepsSessions changes) :
    (group.applyAll changes).client s = (group.client s).map (·.applyAll changes) := by
  induction changes generalizing group with
  | nil => exact Option.map_id'.symm
  | cons change changes ih =>
    obtain ⟨first, rest⟩ := List.forall_mem_cons.1 keeps
    rw [applyAll_cons, ih rest, client_apply first, Option.map_map]
    rfl

end GroupState

namespace Gateway

variable {prims : Primitives} {gateway gateway' : Gateway} {conn : Conn} {outcome : Outcome}

theorem conn_commit (id : ℕ) : (gateway.commit conn outcome).conn id =
    (gateway.conn id).map fun other => if other.id = conn.id then after conn outcome else other := by
  have ids : ∀ other : Conn, (if other.id = conn.id then after conn outcome else other).id = other.id := by
    intro other
    split
    · next same => exact same.symm
    · rfl
  simp only [Gateway.conn, commit, after] at ids ⊢
  rw [List.find?_map]
  simp only [Function.comp_def, ids]

theorem client_commit {groupId s : Uuid} {entry : ClientEntry}
    (own : conn.task.groupId = some groupId) (keeps : KeepsSessions outcome.changes)
    (found : gateway.client groupId s = some entry) :
    (gateway.commit conn outcome).client groupId s = some (entry.applyAll outcome.changes) := by
  obtain ⟨group, inGroups, registered⟩ := Option.bind_eq_some_iff.1 found
  have ofGroup := (group_some inGroups).2
  have changed : (gateway.commit conn outcome).group groupId = some (group.applyAll outcome.changes) := by
    simp only [Gateway.group, commit, List.find?_append, List.find?_map]
    have ids : ((fun g : GroupState => g.summary.groupId == groupId) ∘ fun g =>
        if conn.task.groupId = some g.summary.groupId then g.applyAll outcome.changes else g) =
          fun g => g.summary.groupId == groupId := by
      funext g
      simp only [Function.comp_def]
      split <;> simp
    rw [ids, show gateway.groups.find? (fun g => g.summary.groupId == groupId) = some group from inGroups]
    simp [own, ofGroup]
  rw [Gateway.client, changed, Option.bind_some, GroupState.client_applyAll keeps, registered]
  rfl

/-! ## While a handler waits -/

/-- Other connections leave a connection alone, and a restart closes it. -/
theorem conn_step_of_others {action : Action} (others : action.actor ≠ some conn.id)
    (found : gateway.conn conn.id = some conn) (h : gateway.step prims action = some gateway') :
    gateway'.conn conn.id = some conn ∨ ∃ c, gateway'.conn conn.id = some c ∧ c.task = .closed := by
  rcases step_cases h with ⟨id, remote, -, -, rfl⟩ | ⟨-, rfl⟩ | ⟨other, -, actor, outcome, -, rfl⟩
  · left
    simp only [Gateway.conn, List.find?_append] at found ⊢
    rw [found]
    rfl
  · right
    refine ⟨{ conn with task := .closed }, ?_, rfl⟩
    simp only [Gateway.conn, List.find?_map, Function.comp_def] at found ⊢
    rw [found]
    rfl
  · left
    have ne : conn.id ≠ other.id := fun same => others (by rw [actor, same])
    rw [conn_commit, found, Option.map_some, if_neg ne]

/-- A closed connection takes no step. -/
theorem outcome_closed (closed : conn.task = .closed) (action : Action) :
    gateway.outcome prims conn action = none := by
  cases action with
  | advance => simp only [outcome, closed, advance]
  | _ => simp only [outcome, closed]

theorem conn_run_of_others {actions : List Action} (found : gateway.conn conn.id = some conn)
    (run : Run (step prims) (fun _ action => action.actor ≠ some conn.id) gateway actions gateway') :
    gateway'.conn conn.id = some conn ∨ ∃ c, gateway'.conn conn.id = some c ∧ c.task = .closed := by
  have closed_stays : ∀ {s t : Gateway} {action : Action}, action.actor ≠ some conn.id →
      (∃ c, s.conn conn.id = some c ∧ c.task = .closed) → s.step prims action = some t →
      ∃ c, t.conn conn.id = some c ∧ c.task = .closed := by
    rintro s t action others ⟨c, same, closed⟩ taken
    have id := (conn_some same).2
    rw [← id] at same others ⊢
    rcases conn_step_of_others others same taken with kept | gone
    · exact ⟨c, kept, closed⟩
    · exact gone
  refine run.preserves (I := fun s => s.conn conn.id = some conn ∨
    ∃ c, s.conn conn.id = some c ∧ c.task = .closed) ?_ (.inl found)
  rintro s action t (same | gone) others taken
  · exact conn_step_of_others others same taken
  · exact .inr (closed_stays others gone taken)

/-- Nobody else takes a message from the channel of a session. -/
theorem channel_step_of_others {action : Action} (owned : Owned gateway)
    (found : gateway.conn conn.id = some conn) {g : Uuid} {me : Session}
    (session : conn.task.session = some (g, me)) (others : action.actor ≠ some conn.id)
    (h : gateway.step prims action = some gateway') {client' : ClientEntry}
    (seat : gateway'.Seat g me.peer.sessionId client') :
    ∃ client, gateway.Seat g me.peer.sessionId client ∧ client.sender.log <+: client'.sender.log ∧
      client'.sender.taken = client.sender.taken := by
  have mem := (conn_some found).1
  rcases idles_or_commit h with idles | ⟨other, inConns, actor, outcome, taken, rfl⟩
  · exact ⟨client', idles.seats g _ client' seat, List.prefix_rfl, rfl⟩
  · refine kept_channel taken mem session (fun received => ?_) seat
    obtain ⟨g', me', used, violations, task, same⟩ := received_cases taken received
    have one := owned.sessionIds other inConns conn mem g' g me' me (by rw [task]; rfl) session same
    exact others (by rw [actor, one])

/-- While the others run, the channel of a waiting session is only added to. -/
theorem channel_run_of_others {actions : List Action} (owned : Owned gateway)
    (found : gateway.conn conn.id = some conn) {g : Uuid} {me : Session}
    (session : conn.task.session = some (g, me))
    (run : Run (step prims) (fun _ action => action.actor ≠ some conn.id) gateway actions gateway')
    (here : gateway'.conn conn.id = some conn) {client' : ClientEntry}
    (seat : gateway'.Seat g me.peer.sessionId client') :
    ∃ client, gateway.Seat g me.peer.sessionId client ∧ client.sender.log <+: client'.sender.log ∧
      client'.sender.taken = client.sender.taken := by
  induction run with
  | nil => exact ⟨client', seat, List.prefix_rfl, rfl⟩
  | cons others taken rest ih =>
    rcases conn_step_of_others others found taken with kept | ⟨c, closing, closed⟩
    · obtain ⟨middle, was, log, received⟩ := ih (owned_step owned taken) kept here seat
      obtain ⟨client, before, log', received'⟩ :=
        channel_step_of_others owned found session others taken was
      exact ⟨client, before, log'.trans log, received.trans received'⟩
    · -- a connection that was closed does not come back
      have id := (conn_some closing).2
      rw [← id] at closing rest here
      rcases conn_run_of_others closing rest with same | ⟨d, same, closed'⟩
      all_goals
        rw [here] at same
        obtain rfl := Option.some.inj same
        simp_all [Task.session]

/-! ## The reply -/

/-- The last block of the rotation offers the token to the session's channel. -/
theorem rotation_reply {group : GroupState} {me : Session} {kind : GroupTokenKind} {token : String}
    {changes : List Change} {next : Option Handler} {entry : ClientEntry}
    (mine : entry.peer.sessionId = me.peer.sessionId)
    (blocked : ((Handler.rotateStore kind).resume (.token token)).block group me = some (changes, next)) :
    KeepsSessions changes ∧
      (entry.applyAll changes).sender = entry.sender.push (.groupTokenRotated kind token) := by
  refine ⟨block_keeps blocked, ?_⟩
  have notOther : (Recipients.otherSessions me.peer.memberId me.peer.sessionId).selects entry = false := by
    simp [Recipients.selects, mine]
  have isMine : (Recipients.session me.peer.sessionId).selects entry = true := by
    simp [Recipients.selects, mine]
  cases kind with
  | member | admin =>
    cases blocked
    simp [ClientEntry.applyAll, ClientEntry.apply, notOther, isMine]
  | invite =>
    cases blocked
    simp [ClientEntry.applyAll, ClientEntry.apply, isMine]

theorem Outbound.push_iff {channel : Outbound} {message : ServerMessage} :
    (channel.push message).log = channel.log ++ [message] ↔
      channel.log.length - channel.taken < clientQueueCapacity := by
  unfold Outbound.push
  split
  · next room => exact iff_of_true rfl room
  · next full => exact iff_of_false (by simp) full

/-- The step of a connection whose handler waits. -/
theorem advance_serving {conn : Conn} {groupId : Uuid} {me : Session} {used violations : ℕ}
    {handler : Handler} {draw : Draw} {fault : Bool} (found : gateway.conn conn.id = some conn)
    (task : conn.task = .serving groupId me used violations (some handler))
    (h : gateway.step prims (.advance conn.id draw fault) = some gateway') :
    ∃ group outcome, gateway.group groupId = some group ∧
      gateway.serve prims group groupId me used violations handler draw fault = some outcome ∧
      gateway' = gateway.commit conn outcome := by
  simp only [step, found, Option.bind_some, Option.map_eq_some_iff] at h
  obtain ⟨outcome, advanced, rfl⟩ := h
  simp only [Gateway.outcome, advance, task] at advanced
  obtain ⟨group, inGroups, served⟩ := Option.bind_eq_some_iff.1 advanced
  exact ⟨group, outcome, inGroups, served, rfl⟩

/-- The commit of a rotation, and where its handler goes on. -/
theorem rotation_commit {conn : Conn} {groupId : Uuid} {me : Session} {used violations : ℕ}
    {kind : GroupTokenKind} {draw : Draw} {token : String} {store : GatewayStore}
    (found : gateway.conn conn.id = some conn)
    (task : conn.task = .serving groupId me used violations (some (.rotateStore kind)))
    (rotated : gateway.store.rotateGroupToken prims groupId me.peer.memberId kind draw = .ok (token, store))
    (h : gateway.step prims (.advance conn.id draw false) = some gateway') :
    gateway'.store = store ∧ ∃ c, c.id = conn.id ∧ gateway'.conn conn.id = some c ∧
      c.task = .serving groupId me used violations (some ((Handler.rotateStore kind).resume (.token token))) := by
  have called : gateway.call prims (.rotateGroupToken groupId me.peer.memberId kind draw) false =
      (.token token, store) := by
    simp only [call, Bool.false_eq_true, if_false, GatewayStore.perform, rotated]
    rfl
  obtain ⟨group, outcome, -, served, rfl⟩ := advance_serving found task h
  simp only [serve, Handler.storeCall, Option.some.injEq] at served
  rw [called] at served
  refine ⟨by rw [← served]; rfl, after conn outcome, rfl, ?_, ?_⟩
  · rw [conn_commit, found, Option.map_some, if_pos rfl]
  · rw [← served]
    rfl

section
variable {committed later final : Gateway} {groupId : Uuid} {me : Session} {used violations : ℕ}
  {kind : GroupTokenKind} {draw draw' : Draw} {fault : Bool} {token : String} {store : GatewayStore}
  {others : List Action} {entry : ClientEntry}

/-- From the commit of a rotation to the offer of its token. -/
theorem rotation_offers (found : gateway.conn conn.id = some conn)
    (task : conn.task = .serving groupId me used violations (some (.rotateStore kind)))
    (rotated : gateway.store.rotateGroupToken prims groupId me.peer.memberId kind draw = .ok (token, store))
    (commits : gateway.step prims (.advance conn.id draw false) = some committed)
    (meanwhile : Run (step prims) (fun _ action => action.actor ≠ some conn.id) committed others later)
    (connected : later.client groupId me.peer.sessionId = some entry)
    (replies : later.step prims (.advance conn.id draw' fault) = some final) :
    committed.store = store ∧ (∃ c, c.id = conn.id ∧ c.task.session = some (groupId, me) ∧
      committed.conn conn.id = some c ∧ later.conn conn.id = some c) ∧
      ∃ entry', final.client groupId me.peer.sessionId = some entry' ∧
        entry'.sender = entry.sender.push (.groupTokenRotated kind token) := by
  obtain ⟨durable, c, id, waits, task⟩ := rotation_commit found task rotated commits
  rw [← id] at waits meanwhile replies ⊢
  rcases conn_run_of_others waits meanwhile with here | ⟨gone, closed, same⟩
  · refine ⟨durable, ⟨c, rfl, by rw [task]; rfl, waits, here⟩, ?_⟩
    obtain ⟨group, outcome, -, served, rfl⟩ := advance_serving here task replies
    have noCall : ((Handler.rotateStore kind).resume (.token token)).storeCall groupId me draw' = none := by
      cases kind <;> rfl
    simp only [serve, noCall, Option.map_eq_some_iff] at served
    obtain ⟨⟨changes, next⟩, blocked, rfl⟩ := served
    have mine : entry.peer.sessionId = me.peer.sessionId := by
      obtain ⟨_, -, registered⟩ := Option.bind_eq_some_iff.1 connected
      simpa using List.find?_some registered
    obtain ⟨keeps, offered⟩ := rotation_reply mine blocked
    exact ⟨entry.applyAll changes, client_commit (by rw [task]; rfl) keeps connected, offered⟩
  · simp only [step, closed, Option.bind_some, outcome_closed same, Option.map_none] at replies
    cases replies

/-- A channel that is full when the hash is committed loses the token, whatever the others
do: they take nothing from it. -/
theorem full_channel_loses_token (owned : Owned committed) (found : gateway.conn conn.id = some conn)
    (task : conn.task = .serving groupId me used violations (some (.rotateStore kind)))
    (rotated : gateway.store.rotateGroupToken prims groupId me.peer.memberId kind draw = .ok (token, store))
    (commits : gateway.step prims (.advance conn.id draw false) = some committed)
    (full : ∀ client, committed.Seat groupId me.peer.sessionId client →
      clientQueueCapacity ≤ client.sender.log.length - client.sender.taken)
    (meanwhile : Run (step prims) (fun _ action => action.actor ≠ some conn.id) committed others later)
    (connected : later.client groupId me.peer.sessionId = some entry)
    (replies : later.step prims (.advance conn.id draw' fault) = some final) :
    ∃ entry', final.client groupId me.peer.sessionId = some entry' ∧
      entry'.sender.log = entry.sender.log := by
  obtain ⟨-, ⟨c, id, session, waits, here⟩, entry', registered, offered⟩ :=
    rotation_offers found task rotated commits meanwhile connected replies
  rw [← id] at waits meanwhile here
  obtain ⟨client, seat, log, taken⟩ :=
    channel_run_of_others owned waits session meanwhile here (seat_of_client connected)
  have level := full client seat
  have grown := log.length_le
  refine ⟨entry', registered, ?_⟩
  rw [offered, Outbound.push, if_neg (by omega)]

end

/-- **A rotated token reaches its owner when the channel has room.** A rotation commits its
store; the other connections take any steps; then the session, still registered, is offered
the token. It is enqueued exactly when the channel has room at that moment. -/
theorem rotated_token_enqueued (prims : Primitives) {gateway committed later final : Gateway}
    {conn : Conn} {groupId : Uuid} {me : Session} {used violations : ℕ} {kind : GroupTokenKind}
    {draw draw' : Draw} {fault : Bool} {token : String} {store : GatewayStore} {others : List Action}
    {entry : ClientEntry} (found : gateway.conn conn.id = some conn)
    (task : conn.task = .serving groupId me used violations (some (.rotateStore kind)))
    (rotated : gateway.store.rotateGroupToken prims groupId me.peer.memberId kind draw = .ok (token, store))
    (commits : gateway.step prims (.advance conn.id draw false) = some committed)
    (meanwhile : Run (step prims) (fun _ action => action.actor ≠ some conn.id) committed others later)
    (connected : later.client groupId me.peer.sessionId = some entry)
    (replies : later.step prims (.advance conn.id draw' fault) = some final) :
    committed.store = store ∧ ∃ entry', final.client groupId me.peer.sessionId = some entry' ∧
      (entry'.sender.log = entry.sender.log ++ [.groupTokenRotated kind token] ↔
        entry.sender.log.length - entry.sender.taken < clientQueueCapacity) := by
  obtain ⟨durable, -, entry', registered, offered⟩ :=
    rotation_offers found task rotated commits meanwhile connected replies
  refine ⟨durable, entry', registered, ?_⟩
  rw [offered]
  exact Outbound.push_iff

/-- The founder of group 10 asks for a new administrator token, up to the store call. -/
def asksRotation : List Action := [.receive 1 (.rotateGroupToken .admin) true, .advance 1 (drawn 0) false]

def rotating : Gateway :=
  (exec (step .checksummed) (fun _ => true) teamOfTwo asksRotation).getD teamOfTwo

def rotatedGateway : Gateway := (rotating.step .checksummed (.advance 1 (drawn 50) false)).getD teamOfTwo

/-- The other member posts a message, which is broadcast. -/
def interrupts : List Action := posts 2 60 ++ advances 2 1

def interruptedGateway : Gateway :=
  (exec (step .checksummed) (fun _ => true) rotatedGateway interrupts).getD teamOfTwo

def repliedGateway : Gateway := (interruptedGateway.step .checksummed (.advance 1 (drawn 0) false)).getD teamOfTwo

def founderConn : Conn :=
  (rotating.conn 1).getD { id := 1, remote := .v4 10 0 0 1, task := .hello, written := [] }

def founderEntry : ClientEntry := (interruptedGateway.client ⟨10⟩ ⟨20⟩).getD
  { peer := founder.peer, role := .admin, sender := .new, joinedRooms := [], kick := none, heldHash := [] }

/-- Between the commit and the reply another member's message is put on the founder's channel. -/
theorem rotated_token_enqueued_founder : ∃ entry', repliedGateway.client ⟨10⟩ ⟨20⟩ = some entry' ∧
    entry'.sender.log = founderEntry.sender.log ++ [.groupTokenRotated .admin (generateCredential "admin" 50)] ∧
    (chats founderEntry.sender.log).map ChatRecord.messageId = [⟨60⟩] := by
  have run : rotating.conn founderConn.id = some founderConn ∧
      founderConn.task = .serving ⟨10⟩ founder 1 0 (some (.rotateStore .admin)) ∧
      rotating.store.rotateGroupToken .checksummed ⟨10⟩ ⟨11⟩ .admin (drawn 50) =
        .ok (generateCredential "admin" 50, rotatedGateway.store) ∧
      rotating.step .checksummed (.advance founderConn.id (drawn 50) false) = some rotatedGateway ∧
      exec (step .checksummed) (fun _ => true) rotatedGateway interrupts = some interruptedGateway ∧
      interruptedGateway.client ⟨10⟩ ⟨20⟩ = some founderEntry ∧
      interruptedGateway.step .checksummed (.advance founderConn.id (drawn 0) false) = some repliedGateway ∧
      (∀ action ∈ interrupts, action.actor ≠ some founderConn.id) ∧
      founderEntry.sender.log.length = 2 ∧ founderEntry.sender.taken = 0 ∧
      (chats founderEntry.sender.log).map ChatRecord.messageId = [⟨60⟩] := by
    decide +kernel
  obtain ⟨found, task, rotated, commits, posted, connected, replies, others, two, none, posts⟩ := run
  have interrupting : Run (step .checksummed) anyAction rotatedGateway interrupts interruptedGateway :=
    run_of_exec (fun _ _ _ => trivial) posted
  have meanwhile : Run (step .checksummed) (fun _ action => action.actor ≠ some founderConn.id)
      rotatedGateway interrupts interruptedGateway := interrupting.of_actions fun action mem _ => others action mem
  obtain ⟨-, entry', now, enqueued⟩ :=
    rotated_token_enqueued .checksummed found task rotated commits meanwhile connected replies
  refine ⟨entry', now, enqueued.2 ?_, posts⟩
  rw [two, none]
  decide

/-- Messages of a client that does not read its socket. -/
def pings (count : ℕ) : List Action := List.replicate count (.receive 1 .ping true)

/-- The founder's token is replaced between the two states, and nobody has the new one. -/
def losesToken (before after : Gateway) : Bool :=
  after.store.memberHash ⟨10⟩ ⟨11⟩ != before.store.memberHash ⟨10⟩ ⟨11⟩ &&
    (after.client ⟨10⟩ ⟨20⟩).any fun client => client.kick.isNone && client.sender.log.all fun
      | .groupTokenRotated _ _ => false
      | _ => true

/-- With 256 answers still in the channel of the founder, the rotation of its token commits
and the token is dropped. -/
theorem rotated_token_lost : ∃ before after, Reachable .checksummed before ∧
    Run (step .checksummed) anyAction before
      (asksRotation ++ [.advance 1 (drawn 50) false, .advance 1 (drawn 0) false]) after ∧
    losesToken before after = true := by
  have lost : (exec (step .checksummed) (fun _ => true) founded (pings 256)).any (fun before =>
      (exec (step .checksummed) (fun _ => true) before
        (asksRotation ++ [.advance 1 (drawn 50) false, .advance 1 (drawn 0) false])).any
          (losesToken before)) = true := by
    decide +kernel
  obtain ⟨before, ran, lost⟩ := (Option.any_eq_true _ _).1 lost
  obtain ⟨after, rotates, lost⟩ := (Option.any_eq_true _ _).1 lost
  obtain ⟨start, actions, spawned, founding⟩ := reachable_founded
  have pinged := founding.append (run_of_exec (fun _ _ _ => trivial) ran)
  exact ⟨before, after, ⟨start, _, spawned, pinged⟩, run_of_exec (fun _ _ _ => trivial) rotates, lost⟩

end Gateway

end LanChat
