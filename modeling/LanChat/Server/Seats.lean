import LanChat.Server.Groups

/-!
# Seats

The entry of a session in its group is its seat. A step changes the seats of
the group it works in (`SeatStep`), and a session has exactly one seat for as
long as its task has it (`Seats`).
-/

namespace LanChat

open Transition

/-- A session that no change removes keeps its entry. -/
theorem GroupState.mem_applyAll_of {group : GroupState} {client : ClientEntry}
    {changes : List Change} (entry : client ∈ group.clients)
    (stays : .remove client.peer.sessionId ∉ changes) :
    client.applyAll changes ∈ (group.applyAll changes).clients := by
  induction changes generalizing group client with
  | nil => exact entry
  | cons change changes ih =>
    obtain ⟨first, rest⟩ := not_or.1 (mt List.mem_cons.2 stays)
    refine ih ?_ (by rwa [ClientEntry.apply_peer])
    cases change with
    | register => exact List.mem_append_left _ entry
    | remove sessionId =>
      exact List.mem_filter.2 ⟨entry, decide_eq_true fun same => first (congrArg Change.remove same)⟩
    | openRoom | lockCreation => exact entry
    | unlockCreation =>
      simp only [apply]
      split <;> exact entry
    | _ => exact List.mem_map_of_mem entry

/-- The entry a session is registered with. -/
def GroupEntry.seat (entry : GroupEntry) (sessionId : Uuid) : ClientEntry :=
  { peer := (entry.session sessionId).peer, role := entry.role, sender := .new,
    joinedRooms := [defaultRoomId], kick := none, heldHash := entry.heldHash }

namespace Gateway

variable {prims : Primitives} {gateway gateway' : Gateway} {conn : Conn} {outcome : Outcome}

/-- The entry of a session in its group. -/
def Seat (gateway : Gateway) (g s : Uuid) (client : ClientEntry) : Prop :=
  ∃ group ∈ gateway.groups, group.summary.groupId = g ∧ client ∈ group.clients ∧
    client.peer.sessionId = s

theorem seat_of_client {g s : Uuid} {client : ClientEntry} (found : gateway.client g s = some client) :
    gateway.Seat g s client := by
  obtain ⟨group, inGroups, found⟩ := Option.bind_eq_some_iff.1 found
  obtain ⟨mem, ofGroup⟩ := group_some inGroups
  exact ⟨group, mem, ofGroup, List.mem_of_find?_eq_some found, by simpa using List.find?_some found⟩

/-! ## Between the steps of the sessions -/

/-- **A new connection or a restart**: no session has a step. -/
structure Idles (gateway gateway' : Gateway) : Prop where
  store : gateway'.store = gateway.store
  conns : ∀ c ∈ gateway'.conns, c ∈ gateway.conns ∨ (c.task = .hello ∧ c.written = []) ∨
    c.task = .closed ∧ ∃ d ∈ gateway.conns, c.written = d.written
  seats : ∀ g s client, gateway'.Seat g s client → gateway.Seat g s client
  seated : gateway'.groups = gateway.groups ∨ ∀ c ∈ gateway'.conns, c.task = .closed

theorem idles_or_commit {action : Action} (h : gateway.step prims action = some gateway') :
    Idles gateway gateway' ∨ ∃ conn ∈ gateway.conns, action.actor = some conn.id ∧ ∃ outcome,
      gateway.outcome prims conn action = some outcome ∧ gateway' = gateway.commit conn outcome := by
  rcases step_cases h with ⟨id, remote, -, -, rfl⟩ | ⟨-, rfl⟩ | committed
  · refine .inl ⟨rfl, fun c hc => ?_, fun _ _ _ seat => seat, .inl rfl⟩
    rcases List.mem_append.1 hc with hc | hc
    · exact .inl hc
    · obtain rfl := List.mem_singleton.1 hc
      exact .inr (.inl ⟨rfl, rfl⟩)
  · refine .inl ⟨rfl, fun c hc => ?_, ?_, .inr fun c hc => ?_⟩
    · obtain ⟨d, hd, rfl⟩ := List.mem_map.1 hc
      exact .inr (.inr ⟨rfl, d, hd, rfl⟩)
    · rintro g s client ⟨group, inGroups, -, entry, -⟩
      rw [loadGroups_empty group inGroups] at entry
      cases entry
    · obtain ⟨d, -, rfl⟩ := List.mem_map.1 hc
      rfl
  · exact .inr committed

/-- A connection that is at work was at work before. -/
theorem Idles.at_work (idles : Idles gateway gateway') {c : Conn} (hc : c ∈ gateway'.conns)
    (works : c.task ≠ .hello ∧ c.task ≠ .closed) : c ∈ gateway.conns := by
  rcases idles.conns c hc with old | ⟨task, -⟩ | ⟨task, -⟩
  · exact old
  · exact absurd task works.1
  · exact absurd task works.2

/-- A gateway that was just spawned has no connections and no sessions. -/
theorem unseated_spawned (h : Spawned gateway) :
    gateway.conns = [] ∧ ∀ g s client, ¬ gateway.Seat g s client := by
  obtain ⟨key, name, draw, h⟩ := h
  obtain ⟨-, -, groups, conns⟩ := spawnGateway_ok h
  refine ⟨conns, ?_⟩
  rintro g s client ⟨group, inGroups, -, entry, -⟩
  rw [groups] at inGroups
  rw [loadGroups_empty group inGroups] at entry
  cases entry

/-! ## The seats after a step -/

/-- **What an entry was before a step**: another one of its group with the
changes of the step, itself, or not there. -/
inductive SeatStep (gateway : Gateway) (conn : Conn) (outcome : Outcome) (g s : Uuid)
    (client' : ClientEntry) : Prop where
  | own {client : ClientEntry} (was : gateway.Seat g s client) (acts : conn.task.groupId = some g)
      (now : client' = client.applyAll outcome.changes)
  | other (was : gateway.Seat g s client') (elsewhere : conn.task.groupId ≠ some g)
  | registered {entry : GroupEntry} {group : GroupState} (task : conn.task = .entering g entry)
      (fresh : gateway.isFreshSession s = true) (found : gateway.group g = some group)
      (registers : outcome = gateway.register group g entry s) (now : client' = entry.seat s)

theorem seatStep {action : Action} (h : gateway.outcome prims conn action = some outcome)
    {g s : Uuid} {client' : ClientEntry} (seat : (gateway.commit conn outcome).Seat g s client') :
    SeatStep gateway conn outcome g s client' := by
  obtain ⟨group', inGroups, rfl, entry, rfl⟩ := seat
  rcases mem_groups_commit inGroups with ⟨group, known, acts, rfl⟩ | ⟨known, elsewhere⟩ | new
  · rw [GroupState.applyAll_summary]
    cases sessionStep h with
    | outside _ _ keeps | inside _ _ keeps =>
      obtain ⟨client, was, rfl⟩ := keeps.mem entry
      exact .own ⟨group, known, rfl, was, by rw [ClientEntry.applyAll_peer]⟩ acts rfl
    | removes _ _ removed =>
      have was : client' ∈ group.clients := by
        rw [removed] at entry
        exact (List.mem_filter.1 entry).1
      exact .own ⟨group, known, rfl, was, rfl⟩ acts (by rw [removed]; rfl)
    | registers task fresh found registered =>
      subst registered
      rcases List.mem_append.1 entry with was | new
      · exact .own ⟨group, known, rfl, was, rfl⟩ acts rfl
      · obtain rfl := List.mem_singleton.1 new
        rw [task] at acts
        cases acts
        exact .registered task fresh found rfl rfl
  · exact .other ⟨group', known, rfl, entry, rfl⟩ elsewhere
  · rw [inserted_clients h group' new] at entry
    cases entry

/-- A task that has a session works in its group. -/
theorem Task.groupId_of_session {task : Task} {g : Uuid} {me : Session}
    (session : task.session = some (g, me)) : task.groupId = some g := by
  cases task <;> cases session <;> rfl

/-- **One seat a session**: a session that a task has is registered once. -/
structure Seats (gateway : Gateway) : Prop where
  one : ∀ g s client client', gateway.Seat g s client → gateway.Seat g s client' → client = client'
  taken : ∀ c ∈ gateway.conns, ∀ g me, c.task.session = some (g, me) →
    ∃ client, gateway.Seat g me.peer.sessionId client

theorem seats_spawned (h : Spawned gateway) : Seats gateway := by
  obtain ⟨conns, unseated⟩ := unseated_spawned h
  constructor <;> simp [conns, unseated]

/-- A seat of another session stays. -/
theorem seat_commit {g s : Uuid} {client : ClientEntry} (seat : gateway.Seat g s client)
    (stays : conn.task.groupId = some g → .remove s ∉ outcome.changes) :
    ∃ client', (gateway.commit conn outcome).Seat g s client' := by
  obtain ⟨group, inGroups, rfl, entry, rfl⟩ := seat
  by_cases acts : conn.task.groupId = some group.summary.groupId
  · refine ⟨client.applyAll outcome.changes, group.applyAll outcome.changes, ?_, ?_, ?_, ?_⟩
    · exact List.mem_append_left _ (List.mem_map.2 ⟨group, inGroups, if_pos acts⟩)
    · rw [GroupState.applyAll_summary]
    · exact GroupState.mem_applyAll_of entry (stays acts)
    · rw [ClientEntry.applyAll_peer]
  · exact ⟨client, group, List.mem_append_left _ (List.mem_map.2 ⟨group, inGroups, if_neg acts⟩),
      rfl, entry, rfl⟩

theorem Seats.commit (seats : Seats gateway) (owned : Owned gateway) (mem : conn ∈ gateway.conns)
    {action : Action} (h : gateway.outcome prims conn action = some outcome) :
    Seats (gateway.commit conn outcome) := by
  constructor
  · intro g s client client' seat seat'
    cases seatStep h seat with
    | own was acts now =>
      cases seatStep h seat' with
      | own was' _ now' => rw [now, now', seats.one g s _ _ was was']
      | other _ elsewhere => exact absurd acts elsewhere
      | registered _ fresh =>
        obtain ⟨group, inGroups, -, entry, rfl⟩ := was
        exact absurd rfl ((isFreshSession_iff.1 fresh).2 group inGroups _ entry)
    | other was elsewhere =>
      cases seatStep h seat' with
      | own _ acts => exact absurd acts elsewhere
      | other was' => exact seats.one g s _ _ was was'
      | registered task => exact absurd (by rw [task]; rfl) elsewhere
    | registered task fresh found registers now =>
      cases seatStep h seat' with
      | own was =>
        obtain ⟨group, inGroups, -, entry, rfl⟩ := was
        exact absurd rfl ((isFreshSession_iff.1 fresh).2 group inGroups _ entry)
      | other _ elsewhere => exact absurd (by rw [task]; rfl) elsewhere
      | registered task' _ _ _ now' =>
        rw [task] at task'
        cases task'
        rw [now, now']
  · intro c hc g me session
    rcases mem_conns_commit hc with ⟨hc, other⟩ | rfl
    · obtain ⟨client, seat⟩ := seats.taken c hc g me session
      refine seat_commit seat fun _ removed => ?_
      cases sessionStep h with
      | outside _ _ keeps | inside _ _ keeps => exact (keeps _ removed).2 _ rfl
      | registers _ _ _ registered =>
        subst registered
        simp [register] at removed
      | @removes g' me' before _ removes =>
        simp only [removes, List.mem_singleton, Change.remove.injEq] at removed
        exact other (congrArg Conn.id (owned.sessionIds c hc conn mem g g' me me' session before removed))
    · change outcome.task.session = some (g, me) at session
      cases sessionStep h with
      | outside _ after | removes _ after =>
        rw [after] at session
        cases session
      | inside before after keeps =>
        rw [after] at session
        cases session
        obtain ⟨client, seat⟩ := seats.taken conn mem g me before
        exact seat_commit seat fun _ removed => (keeps _ removed).2 _ rfl
      | registers task fresh found registered =>
        subst registered
        cases session
        obtain ⟨inGroups, rfl⟩ := group_some found
        refine ⟨_, _, List.mem_append_left _ (List.mem_map.2 ⟨_, inGroups, if_pos (by rw [task]; rfl)⟩),
          by rw [GroupState.applyAll_summary], List.mem_append_right _ (List.mem_singleton_self _), rfl⟩

theorem seats_step {action : Action} (seats : Seats gateway) (owned : Owned gateway)
    (h : gateway.step prims action = some gateway') : Seats gateway' := by
  rcases idles_or_commit h with idles | ⟨conn, mem, -, outcome, taken, rfl⟩
  · refine ⟨fun g s client client' seat seat' => ?_, fun c hc g me session => ?_⟩
    · exact seats.one g s client client' (idles.seats g s client seat) (idles.seats g s client' seat')
    · rcases idles.seated with same | closed
      · have works : c.task ≠ .hello ∧ c.task ≠ .closed := by
          constructor
          all_goals
            intro task
            rw [task] at session
            cases session
        obtain ⟨client, seat⟩ := seats.taken c (idles.at_work hc works) g me session
        exact ⟨client, by rwa [Seat, same]⟩
      · rw [closed c hc] at session
        cases session
  · exact seats.commit owned mem taken

/-- **Where a session had its seat before a step**, if it does not leave. -/
theorem Seat.before {action : Action} (h : gateway.outcome prims conn action = some outcome)
    {c : Conn} (hc : c ∈ gateway.conns) {g : Uuid} {me : Session} (session : c.task.session = some (g, me))
    {client' : ClientEntry} (seat : (gateway.commit conn outcome).Seat g me.peer.sessionId client') :
    ∃ client, gateway.Seat g me.peer.sessionId client ∧
      (client' = client.applyAll outcome.changes ∧ conn.task.groupId = some g ∨
        client' = client ∧ conn.task.groupId ≠ some g) := by
  cases seatStep h seat with
  | own was acts now => exact ⟨_, was, .inl ⟨now, acts⟩⟩
  | other was elsewhere => exact ⟨_, was, .inr ⟨rfl, elsewhere⟩⟩
  | registered _ fresh => exact absurd rfl (ne_of_isFreshSession fresh hc session)

end Gateway

end LanChat
