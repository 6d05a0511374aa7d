import LanChat.Server.Groups

/-!
# Access to private rooms

A handler checks the access of its member once and then uses the room over
several await points; a removal deletes the member's row and then takes the
room from the registered sessions. `RoomInv` says that every use of a private
room is by a member with access, or by one whose removal is still to reach the
sessions, and it holds along every run whose removals meet no handler past its
check (`RemovalsSeeHandlers`).
-/

namespace LanChat

open Transition

namespace Handler

/-- The room that a handler past its access check is about to post to, to read
or to join. -/
def usedRoom : Handler → Option String
  | chatRoom roomId _ _ | chatAppend roomId _ _ | historyLoad roomId _ _ => some roomId
  | createInsert room | createAnnounce room | joinHistory room | joinInsert room _ =>
    some room.roomId
  | reply message => message.roomContents
  | _ => none

/-- A room the handler has found in memory. -/
def foundRoom : Handler → Option String
  | createInsert _ => none
  | joinMember room | joinAccess room _ => some room.roomId
  | handler => handler.usedRoom

section
variable {group : GroupState} {me : Session} {handler next : Handler} {answer : StoreReply}
  {changes : List Change} {r : String}

theorem usedRoom_of_isPlain (plain : handler.isPlain = true) : handler.usedRoom = none := by
  cases handler <;> first | rfl | cases plain | exact Option.isNone_iff_eq_none.1 plain

theorem foundRoom_of_isPlain (plain : handler.isPlain = true) : handler.foundRoom = none := by
  cases handler <;> first | rfl | cases plain | exact Option.isNone_iff_eq_none.1 plain

theorem usedRoom_of_isStart (start : handler.isStart = true) : handler.usedRoom = none := by
  cases handler <;> first | rfl | cases start

theorem foundRoom_of_isStart (start : handler.isStart = true) : handler.foundRoom = none := by
  cases handler <;> first | rfl | cases start

/-- A store call goes on with a used room, or comes to use one that is granted
or created. -/
theorem Resumes.usedRoom (h : Resumes handler answer next) (uses : next.usedRoom = some r) :
    handler.usedRoom = some r ∨
      (∃ room m, handler = joinAccess room m ∧ room.roomId = r ∧ answer = .flag true) ∨
      ∃ name visibility room, handler = createStore name visibility ∧ room.roomId = r ∧
        answer = .room room := by
  cases h with
  | created => exact .inr (.inr ⟨_, _, _, rfl, Option.some.inj uses, rfl⟩)
  | granted => exact .inr (.inl ⟨_, _, rfl, Option.some.inj uses, rfl⟩)
  | loaded | paged => exact .inl uses
  | posted | banned | rotated | changed => cases uses
  | plain isPlain =>
    rw [usedRoom_of_isPlain isPlain] at uses
    cases uses

theorem Resumes.foundRoom (h : Resumes handler answer next) (found : next.foundRoom = some r) :
    handler.foundRoom = some r := by
  cases h with
  | granted | loaded | paged => exact found
  | posted | banned | rotated | changed | created => cases found
  | plain isPlain =>
    rw [foundRoom_of_isPlain isPlain] at found
    cases found

/-- A block goes on with a used room, or comes to use one its session has joined. -/
theorem Blocks.usedRoom (h : Blocks group me handler changes (some next))
    (uses : next.usedRoom = some r) :
    handler.usedRoom = some r ∨ group.hasJoined me.peer.sessionId r = true := by
  cases h with
  | chatJoined joined | historyJoined joined =>
    cases uses
    exact .inr joined
  | chatRoom | createInsert | createAnnounce => exact .inl uses
  | admin isPlain =>
    rw [usedRoom_of_isPlain isPlain] at uses
    cases uses
  | _ => cases uses

theorem Blocks.foundRoom (h : Blocks group me handler changes (some next))
    (found : next.foundRoom = some r) :
    handler.foundRoom = some r ∨ group.hasJoined me.peer.sessionId r = true ∨
      (group.room r).isSome = true ∨
      ∃ room, room.roomId = r ∧ .openRoom room ∈ changes := by
  cases h with
  | chatJoined joined | historyJoined joined =>
    cases found
    exact .inr (.inl joined)
  | chatRoom | createAnnounce | joinMember => exact .inl found
  | createInsert => exact .inr (.inr (.inr ⟨_, Option.some.inj found, List.mem_cons_self⟩))
  | joinFind inMemory =>
    have same := List.find?_some inMemory
    simp only [beq_iff_eq] at same
    obtain rfl : _ = r := Option.some.inj found
    rw [same]
    exact .inr (.inr (.inl (by rw [inMemory]; rfl)))
  | admin isPlain =>
    rw [foundRoom_of_isPlain isPlain] at found
    cases found
  | _ => cases found

end

end Handler

/-- The task stands between the commit of a removal from a room and its sweep. -/
def Task.removal : Task → Option (Uuid × String × Uuid)
  | serving groupId _ _ _ (some (.setRoomMemberRoom roomId memberId false))
  | serving groupId _ _ _ (some (.setRoomMemberRemove memberId roomId)) =>
    some (groupId, roomId, memberId)
  | _ => none

theorem Task.removal_of_isIdle {task : Task} (idle : task.isIdle = true) : task.removal = none := by
  unfold Task.removal
  split <;> first | rfl | cases idle

namespace Gateway

variable {prims : Primitives} {gateway gateway' : Gateway} {conn : Conn} {outcome : Outcome}

/-- A removal of the member from the room has committed and is still to reach
its sessions. -/
def RemovalPending (gateway : Gateway) (g : Uuid) (r : String) (m : Uuid) : Prop :=
  ∃ c ∈ gateway.conns, c.task.removal = some (g, r, m)

/-- Who uses a room: a session that has joined it, or a handler past its check. -/
inductive RoomUse (gateway : Gateway) (g : Uuid) (r : String) : Uuid → Prop where
  | joined {group : GroupState} {client : ClientEntry} (known : group ∈ gateway.groups)
      (ofGroup : group.summary.groupId = g) (entry : client ∈ group.clients)
      (joined : r ∈ client.joinedRooms) : RoomUse gateway g r client.peer.memberId
  | handling {c : Conn} {me : Session} {used violations : ℕ} {handler : Handler}
      (mem : c ∈ gateway.conns) (task : c.task = .serving g me used violations (some handler))
      (uses : handler.usedRoom = some r) : RoomUse gateway g r me.peer.memberId

/-- The room is in memory. -/
def InMemory (gateway : Gateway) (g : Uuid) (r : String) : Prop :=
  ∃ group ∈ gateway.groups, group.summary.groupId = g ∧ (group.room r).isSome = true

/-- **The invariant.** -/
structure RoomInv (gateway : Gateway) : Prop where
  general : gateway.store.GeneralIsPublic
  unique : gateway.store.RoomMembersUnique
  joinedKnown : ∀ group ∈ gateway.groups, ∀ client ∈ group.clients, ∀ r ∈ client.joinedRooms,
    r ≠ defaultRoomId → (group.room r).isSome = true
  foundKnown : ∀ c ∈ gateway.conns, ∀ g me used violations handler r,
    c.task = .serving g me used violations (some handler) → handler.foundRoom = some r →
    r ≠ defaultRoomId → gateway.InMemory g r
  creators : ∀ c ∈ gateway.conns, ∀ g me used violations room,
    c.task = .serving g me used violations (some (.createInsert room)) →
    gateway.store.isPrivateRoom g room.roomId = true →
    gateway.store.isRoomOwner g room.roomId me.peer.memberId = true
  askers : ∀ c ∈ gateway.conns, ∀ g me used violations room m,
    c.task = .serving g me used violations (some (.joinAccess room m)) → m = me.peer.memberId
  uses : ∀ {g r m}, RoomUse gateway g r m → gateway.store.isPrivateRoom g r = true →
    gateway.store.memberCanAccessRoom g r m = true ∨ gateway.RemovalPending g r m

/-- When a removal reaches the sessions, every handler of the member past its
check of that room has access again, or another removal will follow. -/
def RemovalsSeeHandlers (gateway : Gateway) (action : Action) : Prop :=
  ∀ c ∈ gateway.conns, action.actor = some c.id → ∀ g me used violations m r,
    c.task = .serving g me used violations (some (.setRoomMemberRemove m r)) →
    ∀ d ∈ gateway.conns, ∀ me' used' violations' handler,
      d.task = .serving g me' used' violations' (some handler) → me'.peer.memberId = m →
      handler.usedRoom = some r → gateway.store.memberCanAccessRoom g r m = true ∨
        ∃ c' ∈ gateway.conns, c'.id ≠ c.id ∧ c'.task.removal = some (g, r, m)

/-! ## Uses of a room after a step -/

/-- Joined rooms come from a join. -/
theorem joinedRooms_apply {client : ClientEntry} {change : Change} {r : String}
    (joined : r ∈ (client.apply change).joinedRooms) :
    r ∈ client.joinedRooms ∨ change = .join client.peer.sessionId r := by
  cases change <;> simp only [ClientEntry.apply, ClientEntry.joinRoom, ClientEntry.leaveRoom] at joined
  case join sessionId roomId =>
    split at joined
    · rename_i self
      split at joined
      · exact .inl joined
      · rcases List.mem_append.1 joined with joined | new
        · exact .inl joined
        · rw [List.mem_singleton.1 new, self]
          exact .inr rfl
    · exact .inl joined
  case leave whom roomId =>
    split at joined
    · exact .inl (List.mem_filter.1 joined).1
    · exact .inl joined
  all_goals
    (try split at joined)
    all_goals exact .inl joined

theorem joinedRooms_applyAll {client : ClientEntry} {changes : List Change} {r : String}
    (joined : r ∈ (client.applyAll changes).joinedRooms) :
    r ∈ client.joinedRooms ∨ .join client.peer.sessionId r ∈ changes := by
  induction changes generalizing client with
  | nil => exact .inl joined
  | cons change changes ih =>
    rcases ih joined with joined | later
    · rcases joinedRooms_apply joined with joined | rfl
      · exact .inl joined
      · exact .inr List.mem_cons_self
    · rw [ClientEntry.apply_peer] at later
      exact .inr (List.mem_cons_of_mem _ later)

/-- A join is made by a handler that uses the room. -/
theorem join_cases {action : Action} (h : gateway.outcome prims conn action = some outcome)
    {sessionId : Uuid} {r : String} (joins : .join sessionId r ∈ outcome.changes) :
    ∃ g me used violations room history,
      conn.task = .serving g me used violations (some (.joinInsert room history)) ∧
        sessionId = me.peer.sessionId ∧ r = room.roomId := by
  cases taken h with
  | inside _ _ _ _ speaks => cases speaks <;> simp at joins
  | calls =>
    simp only [holds] at joins
    split at joins <;> simp at joins
  | @blocks g me used violations handler group changes next task _ blocked =>
    cases Handler.blocks blocked <;> simp [Handler.finish] at joins
    obtain ⟨rfl, rfl⟩ := joins
    exact ⟨g, me, used, violations, _, _, task, rfl, rfl⟩
  | _ => simp [insertGroup, register] at joins

/-- The session a handler has looked up. -/
theorem hasJoined_use (owned : Owned gateway) (mem : conn ∈ gateway.conns) {g : Uuid} {me : Session}
    {group : GroupState} {r : String} (session : conn.task.session = some (g, me))
    (found : gateway.group g = some group)
    (joined : group.hasJoined me.peer.sessionId r = true) : RoomUse gateway g r me.peer.memberId := by
  obtain ⟨inGroups, ofGroup⟩ := group_some found
  obtain ⟨client, isClient, inRoom⟩ := (Option.any_eq_true _ _).1 joined
  have entry := List.mem_of_find?_eq_some isClient
  have same : client.peer.sessionId = me.peer.sessionId := by simpa using List.find?_some isClient
  obtain ⟨peer, -, -⟩ := owned.peer_eq mem session inGroups entry same
  rw [← peer]
  exact .joined inGroups ofGroup entry (of_decide_eq_true inRoom)

/-- **Uses after a step.** A room is used as before, or it is the general room,
or the member has just been found to have access. -/
theorem RoomUse.before {action : Action} (owned : Owned gateway) (mem : conn ∈ gateway.conns)
    (inv : RoomInv gateway) (h : gateway.outcome prims conn action = some outcome) {g m : Uuid}
    {r : String} (use : RoomUse (gateway.commit conn outcome) g r m) :
    RoomUse gateway g r m ∨ r = defaultRoomId ∨
      (outcome.store.isPrivateRoom g r = true → outcome.store.memberCanAccessRoom g r m = true) := by
  cases use with
  | joined known ofGroup entry joined =>
    -- an old session after its changes
    have ofOld : ∀ {group : GroupState} {client : ClientEntry}, group ∈ gateway.groups →
        group.summary.groupId = g → client ∈ group.clients →
        r ∈ (client.applyAll outcome.changes).joinedRooms →
        RoomUse gateway g r (client.applyAll outcome.changes).peer.memberId := by
      intro group client was ofGroup inGroup joined
      rw [ClientEntry.applyAll_peer]
      rcases joinedRooms_applyAll joined with joined | joins
      · exact .joined was ofGroup inGroup joined
      · obtain ⟨g', me, used, violations, room, history, task, session, rfl⟩ := join_cases h joins
        obtain ⟨peer, -, same⟩ := owned.peer_eq mem (by rw [task]; rfl) was inGroup session
        rw [peer]
        rw [ofGroup] at same
        subst same
        exact .handling mem task rfl
    rcases mem_groups_commit known with ⟨group, was, own, rfl⟩ | ⟨was, -⟩ | new
    · rw [GroupState.applyAll_summary] at ofGroup
      cases sessionStep h with
      | outside _ _ keeps | inside _ _ keeps =>
        obtain ⟨client, inGroup, rfl⟩ := keeps.mem entry
        exact .inl (ofOld was ofGroup inGroup joined)
      | removes _ _ removed =>
        rw [removed] at entry
        have same : _ ∈ group.clients := (List.mem_filter.1 entry).1
        exact .inl (.joined was ofGroup same joined)
      | registers task fresh found registered =>
        subst registered
        rcases List.mem_append.1 entry with inGroup | new
        · exact .inl (.joined was ofGroup inGroup joined)
        · obtain rfl := List.mem_singleton.1 new
          exact .inr (.inl (List.mem_singleton.1 joined))
    · exact .inl (.joined was ofGroup entry joined)
    · rw [inserted_clients h _ new] at entry
      cases entry
  | @handling c me used violations handler inConns task uses =>
    rcases mem_conns_commit inConns with ⟨inConns, -⟩ | rfl
    · exact .inl (.handling inConns task uses)
    · replace task : outcome.task = .serving g me used violations (some handler) := task
      cases taken h with
      | lobby _ after =>
        simp only [moveTo_task] at task
        rw [task] at after
        cases after
      | inside _ _ _ starts =>
        simp only [moveTo_task] at task
        rw [Handler.usedRoom_of_isStart (starts _ (by rw [task]; rfl))] at uses
        cases uses
      | @calls _ _ _ _ handler' op draw fault before waits =>
        simp only [moveTo_task, Task.serving.injEq, Option.some.injEq] at task
        obtain ⟨rfl, rfl, rfl, rfl, rfl⟩ := task
        rcases (Handler.resumes waits _).usedRoom uses with
          uses | ⟨room, m, rfl, rfl, reply⟩ | ⟨name, visibility, room, rfl, rfl, reply⟩
        · exact .inl (.handling mem before uses)
        · cases waits
          obtain ⟨performed, committed⟩ := call_of_reply reply nofun
          obtain rfl := inv.askers conn mem _ _ _ _ _ _ before
          refine .inr (.inr fun _ => ?_)
          simp only [committed]
          exact StoreReply.flag.inj performed
        · cases waits
          obtain ⟨performed, committed⟩ := call_of_reply reply nofun
          obtain ⟨inTable, -, owner⟩ := GatewayStore.createRoom_owned performed
          refine .inr (.inr fun isPrivate => ?_)
          simp only [committed] at isPrivate ⊢
          exact GatewayStore.memberCanAccessRoom_of_owner
            (GatewayStore.hasRoom_table.2 ⟨_, inTable, rfl, rfl⟩) (owner isPrivate)
      | @blocks _ _ _ _ handler' group changes next before found blocked =>
        simp only [moveTo_task, Task.serving.injEq] at task
        obtain ⟨rfl, rfl, rfl, rfl, rfl⟩ := task
        rcases (Handler.blocks blocked).usedRoom uses with uses | joined
        · exact .inl (.handling mem before uses)
        · exact .inl (hasJoined_use owned mem (by rw [before]; rfl) found joined)
      | removes _ _ after => rcases after with rfl | rfl <;> cases task
      | _ => cases task

/-! ## Access and removals after a step -/

theorem storeCall_setRoomMember {handler : Handler} {g g' actor m : Uuid} {me : Session}
    {draw : Draw} {r : String} {role : GroupRole} {included : Bool}
    (h : handler.storeCall g me draw = some (.setRoomMember g' r actor role m included)) :
    handler = .setRoomMemberStore r m included ∧ g' = g := by
  cases handler <;> simp only [Handler.storeCall, Option.some.injEq, reduceCtorEq] at h
  cases h
  exact ⟨rfl, rfl⟩

/-- Who has lost access by a step has a removal pending. -/
theorem access_commit {action : Action} (inv : RoomInv gateway) (mem : conn ∈ gateway.conns)
    (h : gateway.outcome prims conn action = some outcome) {g m : Uuid} {r : String}
    (access : gateway.store.memberCanAccessRoom g r m = true) :
    outcome.store.memberCanAccessRoom g r m = true ∨
      (gateway.commit conn outcome).RemovalPending g r m := by
  have called : ∀ {op fault}, (∀ actor role, op ≠ .setRoomMember g r actor role m false) →
      (gateway.call prims op fault).2.memberCanAccessRoom g r m = true := by
    intro op fault other
    cases fault with
    | true => exact access
    | false =>
      rcases GatewayStore.memberCanAccessRoom_perform inv.unique op access with
        still | ⟨actor, role, removal, -⟩
      · exact still
      · exact absurd removal (other actor role)
  cases taken h with
  | lobby _ _ lobbyCall =>
    cases lobbyCall with
    | none => exact .inl access
    | _ => exact .inl (called nofun)
  | admits | creates | names => exact .inl (called nofun)
  | @calls g' me used violations handler op draw fault task waits =>
    cases fault with
    | true => exact .inl access
    | false =>
      rcases GatewayStore.memberCanAccessRoom_perform inv.unique op access with
        still | ⟨actor, role, rfl, reply⟩
      · exact .inl still
      · obtain ⟨rfl, rfl⟩ := storeCall_setRoomMember waits
        refine .inr ⟨_, after_mem_commit mem, ?_⟩
        have replied : (gateway.call prims (.setRoomMember g r actor role m false) false).1 =
          .flag true := reply
        simp only [after, moveTo_task, replied]
        rfl
  | _ => exact .inl access

/-- A removal stays pending until it takes the room from the sessions, or finds
the room not in memory. -/
theorem RemovalPending.commit {action : Action} {g m : Uuid} {r : String}
    (pending : gateway.RemovalPending g r m) (owned : Owned gateway) (mem : conn ∈ gateway.conns)
    (h : gateway.outcome prims conn action = some outcome) :
    (gateway.commit conn outcome).RemovalPending g r m ∨
      (∃ me used violations, conn.task =
        .serving g me used violations (some (.setRoomMemberRemove m r))) ∨
      ∃ me used violations group, conn.task =
          .serving g me used violations (some (.setRoomMemberRoom r m false)) ∧
        gateway.group g = some group ∧ group.room r = none := by
  obtain ⟨c, hc, removal⟩ := pending
  by_cases other : c.id ≠ conn.id
  · exact .inl ⟨c, other_mem_commit hc other, removal⟩
  obtain rfl := owned.eq_of_id hc mem (not_not.1 other)
  unfold Task.removal at removal
  split at removal
  · rename_i g' me used violations r' m' task
    cases removal
    cases taken h with
    | lobby before =>
      rw [task] at before
      rcases before with before | before <;> cases before
    | inside _ idle | removes _ idle =>
      rw [task] at idle
      cases idle
    | calls task' waits =>
      rw [task] at task'
      cases task'
      cases waits
    | @blocks _ _ _ _ _ group _ _ task' found blocked =>
      rw [task] at task'
      cases task'
      simp only [Handler.block, Option.some.injEq] at blocked
      split at blocked
      · exact .inr (.inr ⟨me, used, violations, group, task, found, ‹_›⟩)
      · cases blocked
        exact .inl ⟨_, after_mem_commit mem, rfl⟩
    | admits task' | creates task' | inserts task' | names task' | registers task' | parts task' =>
      rw [task] at task'
      cases task'
  · rename_i g' me used violations m' r' task
    cases removal
    exact .inr (.inl ⟨me, used, violations, task⟩)
  · cases removal

/-! ## The invariant after a step -/

/-- A used room is in the store. -/
theorem RoomInv.hasRoom (inv : RoomInv gateway) (known : Known gateway) {g m : Uuid} {r : String}
    (use : RoomUse gateway g r m) (special : r ≠ defaultRoomId) :
    gateway.store.hasRoom g r = true := by
  have ofMemory : ∀ {group : GroupState}, group ∈ gateway.groups → group.summary.groupId = g →
      (group.room r).isSome = true → gateway.store.hasRoom g r = true := by
    intro group inGroups ofGroup inMemory
    obtain ⟨room, found⟩ := Option.isSome_iff_exists.1 inMemory
    have same : room.roomId = r := by simpa using List.find?_some found
    exact GatewayStore.hasRoom_table.2
      ⟨_, known.rooms group inGroups room (List.mem_of_find?_eq_some found), ofGroup, same⟩
  cases use with
  | joined inGroups ofGroup entry joined =>
    exact ofMemory inGroups ofGroup (inv.joinedKnown _ inGroups _ entry r joined special)
  | @handling c me used violations handler mem task uses =>
    by_cases creates : ∃ room, handler = .createInsert room
    · obtain ⟨room, rfl⟩ := creates
      cases uses
      exact GatewayStore.hasRoom_table.2 ⟨_, known.opening c mem g me used violations room task, rfl, rfl⟩
    · have found : handler.foundRoom = some r := by
        cases handler with
        | createInsert room => exact absurd ⟨room, rfl⟩ creates
        | _ => first | exact uses | cases uses
      obtain ⟨group, inGroups, ofGroup, inMemory⟩ :=
        inv.foundKnown c mem g me used violations handler r task found special
      exact ofMemory inGroups ofGroup inMemory

/-- Rooms in memory stay there. -/
theorem InMemory.commit {g : Uuid} {r : String} (inMemory : gateway.InMemory g r) :
    (gateway.commit conn outcome).InMemory g r := by
  obtain ⟨group, inGroups, ofGroup, found⟩ := inMemory
  refine ⟨_, List.mem_append_left _ (List.mem_map.2 ⟨group, inGroups, rfl⟩), ?_, ?_⟩
  · split <;> simp [ofGroup]
  · split
    · exact GroupState.room_applyAll found
    · exact found

theorem joinedKnown_commit {action : Action} (inv : RoomInv gateway) (owned : Owned gateway)
    (known : Known gateway) (mem : conn ∈ gateway.conns)
    (h : gateway.outcome prims conn action = some outcome) :
    ∀ group ∈ (gateway.commit conn outcome).groups, ∀ client ∈ group.clients,
      ∀ r ∈ client.joinedRooms, r ≠ defaultRoomId → (group.room r).isSome = true := by
  intro group' inGroups client' entry r joined special
  rcases mem_groups_commit inGroups with ⟨group, was, own, rfl⟩ | ⟨was, -⟩ | new
  · refine GroupState.room_applyAll ?_
    have ofOld : ∀ {client : ClientEntry}, client ∈ group.clients →
        r ∈ (client.applyAll outcome.changes).joinedRooms → (group.room r).isSome = true := by
      intro client inGroup joined
      rcases joinedRooms_applyAll joined with joined | joins
      · exact inv.joinedKnown group was client inGroup r joined special
      · obtain ⟨g, me, used, violations, room, history, task, session, rfl⟩ := join_cases h joins
        obtain ⟨-, -, same⟩ := owned.peer_eq mem (by rw [task]; rfl) was inGroup session
        obtain ⟨other, wasIn, ofGroup, inMemory⟩ :=
          inv.foundKnown conn mem g me used violations _ _ task rfl special
        rwa [known.eq_of_id was wasIn (same.trans ofGroup.symm)]
    cases sessionStep h with
    | outside _ _ keeps | inside _ _ keeps =>
      obtain ⟨client, inGroup, rfl⟩ := keeps.mem entry
      exact ofOld inGroup joined
    | removes _ _ removed =>
      rw [removed] at entry
      have same : client' ∈ group.clients := (List.mem_filter.1 entry).1
      exact inv.joinedKnown group was client' same r joined special
    | registers task fresh found registered =>
      subst registered
      rcases List.mem_append.1 entry with inGroup | new
      · exact inv.joinedKnown group was client' inGroup r joined special
      · obtain rfl := List.mem_singleton.1 new
        exact absurd (List.mem_singleton.1 joined) special
  · exact inv.joinedKnown group' was client' entry r joined special
  · rw [inserted_clients h _ new] at entry
    cases entry

theorem foundKnown_commit {action : Action} (inv : RoomInv gateway) (mem : conn ∈ gateway.conns)
    (h : gateway.outcome prims conn action = some outcome) {g : Uuid} {me : Session}
    {used violations : ℕ} {handler : Handler} {r : String}
    (task : outcome.task = .serving g me used violations (some handler))
    (found : handler.foundRoom = some r) (special : r ≠ defaultRoomId) :
    (gateway.commit conn outcome).InMemory g r := by
  have earlier : ∀ {handler' : Handler}, conn.task = .serving g me used violations (some handler') →
      handler'.foundRoom = some r → (gateway.commit conn outcome).InMemory g r :=
    fun before found => (inv.foundKnown conn mem _ _ _ _ _ r before found special).commit
  cases taken h with
  | lobby _ after =>
    simp only [moveTo_task] at task
    rw [task] at after
    cases after
  | inside _ _ _ starts =>
    simp only [moveTo_task] at task
    rw [Handler.foundRoom_of_isStart (starts _ (by rw [task]; rfl))] at found
    cases found
  | calls before waits =>
    simp only [moveTo_task, Task.serving.injEq, Option.some.injEq] at task
    obtain ⟨rfl, rfl, rfl, rfl, rfl⟩ := task
    exact earlier before ((Handler.resumes waits _).foundRoom found)
  | @blocks _ _ _ _ _ group changes _ before isGroup blocked =>
    simp only [moveTo_task, Task.serving.injEq] at task
    obtain ⟨rfl, rfl, rfl, rfl, rfl⟩ := task
    obtain ⟨inGroups, ofGroup⟩ := group_some isGroup
    rcases (Handler.blocks blocked).foundRoom found with
      found | joined | inMemory | ⟨room, same, opens⟩
    · exact earlier before found
    · obtain ⟨client, isClient, inRoom⟩ := (Option.any_eq_true _ _).1 joined
      refine InMemory.commit ⟨group, inGroups, ofGroup, ?_⟩
      exact inv.joinedKnown group inGroups client (List.mem_of_find?_eq_some isClient) r
        (of_decide_eq_true inRoom) special
    · exact InMemory.commit ⟨group, inGroups, ofGroup, inMemory⟩
    · refine ⟨group.applyAll changes, List.mem_append_left _ (List.mem_map.2 ⟨group, inGroups, ?_⟩),
        by rw [GroupState.applyAll_summary, ofGroup], ?_⟩
      · rw [before, ofGroup]
        exact if_pos rfl
      · rw [← same]
        exact GroupState.room_openRoom opens
  | removes _ _ after => rcases after with rfl | rfl <;> cases task
  | _ => cases task

/-- A room of the store keeps its visibility over a step. -/
theorem isPrivateRoom_commit {action : Action} {g : Uuid} {r : String}
    (h : gateway.outcome prims conn action = some outcome) (known : gateway.store.hasRoom g r = true) :
    outcome.store.isPrivateRoom g r = gateway.store.isPrivateRoom g r := by
  rcases store_cases h with same | ⟨op, performed⟩
  · rw [same]
  · rw [performed]
    exact GatewayStore.isPrivateRoom_perform op known

/-- The owner of a room stays its owner. -/
theorem isRoomOwner_commit {action : Action} {g m : Uuid} {r : String}
    (h : gateway.outcome prims conn action = some outcome)
    (owner : gateway.store.isRoomOwner g r m = true) : outcome.store.isRoomOwner g r m = true := by
  rcases store_cases h with same | ⟨op, performed⟩
  · rwa [same]
  · rw [performed]
    exact GatewayStore.isRoomOwner_perform op owner

/-- A task that is about to ask for access does so for its own member. -/
theorem asking_cases {action : Action} (owned : Owned gateway) (mem : conn ∈ gateway.conns)
    (h : gateway.outcome prims conn action = some outcome) {g m : Uuid} {me : Session}
    {used violations : ℕ} {room : RoomSummary}
    (next : outcome.task = .serving g me used violations (some (.joinAccess room m))) :
    m = me.peer.memberId := by
  cases taken h with
  | lobby _ after =>
    simp only [moveTo_task] at next
    rw [next] at after
    cases after
  | inside _ _ _ starts =>
    simp only [moveTo_task] at next
    have isStart := starts _ (by rw [next]; rfl)
    cases isStart
  | @calls _ _ _ _ handler op draw fault task waits =>
    simp only [moveTo_task, Task.serving.injEq, Option.some.injEq] at next
    obtain ⟨rfl, rfl, rfl, rfl, next⟩ := next
    have into := Handler.resumes waits (gateway.call prims op fault).1
    rw [next] at into
    generalize (gateway.call prims op fault).1 = reply at into
    cases into with
    | plain isPlain => cases isPlain
  | @blocks _ _ _ _ handler group changes after task found blocked =>
    simp only [moveTo_task, Task.serving.injEq] at next
    obtain ⟨rfl, rfl, rfl, rfl, rfl⟩ := next
    cases Handler.blocks blocked with
    | joinMember isClient =>
      obtain ⟨inGroups, -⟩ := group_some found
      have same := List.find?_some isClient
      obtain ⟨peer, -, -⟩ := owned.peer_eq mem (by rw [task]; rfl) inGroups
        (List.mem_of_find?_eq_some isClient) (by simpa using same)
      rw [peer]
    | admin isPlain => cases isPlain
  | removes _ _ after => rcases after with rfl | rfl <;> cases next
  | _ => cases next

/-- A removal that reaches the sessions leaves no session of the member in the room. -/
theorem not_joined_of_removed {client : ClientEntry} {m : Uuid} {r : String} {message : ServerMessage}
    (member : client.peer.memberId = m) :
    r ∉ (client.applyAll [.leave (.member m) r, .send (.member m) message]).joinedRooms := by
  simp [ClientEntry.apply, ClientEntry.leaveRoom, Recipients.selects, member]

/-- What the sweep of a removal leaves of the uses of the room. -/
theorem RoomInv.swept {action : Action} (mem : conn ∈ gateway.conns)
    (sees : RemovalsSeeHandlers gateway action) (actor : action.actor = some conn.id)
    (h : gateway.outcome prims conn action = some outcome) {g m : Uuid} {r : String} {me : Session}
    {used violations : ℕ}
    (task : conn.task = .serving g me used violations (some (.setRoomMemberRemove m r)))
    (use : RoomUse (gateway.commit conn outcome) g r m) :
    outcome.store.memberCanAccessRoom g r m = true ∨
      (gateway.commit conn outcome).RemovalPending g r m := by
  obtain ⟨same, next, swept⟩ : outcome.store = gateway.store ∧
      outcome.task = .serving g me used violations (some (.roomMembersManage r 0)) ∧
      outcome.changes = [.leave (.member m) r, .send (.member m) (.roomLeft r)] := by
    cases taken h with
    | lobby before =>
      rw [task] at before
      rcases before with before | before <;> cases before
    | inside _ idle | removes _ idle =>
      rw [task] at idle
      cases idle
    | calls task' waits =>
      rw [task] at task'
      cases task'
      cases waits
    | blocks task' found blocked =>
      rw [task] at task'
      cases task'
      cases blocked
      exact ⟨rfl, rfl, rfl⟩
    | admits task' | creates task' | inserts task' | names task' | registers task' | parts task' =>
      rw [task] at task'
      cases task'
  cases use with
  | @joined group' client' known ofGroup entry joined =>
    exfalso
    rcases mem_groups_commit known with ⟨group, was, own, rfl⟩ | ⟨was, other⟩ | new
    · rw [swept] at entry
      have keeps : KeepsSessions [.leave (.member client'.peer.memberId) r,
          .send (.member client'.peer.memberId) (.roomLeft r)] := by simp [KeepsSessions]
      obtain ⟨client, inGroup, old⟩ := keeps.mem entry
      have member : client.peer.memberId = client'.peer.memberId := by
        rw [old, ClientEntry.applyAll_peer]
      rw [old] at joined
      exact not_joined_of_removed member joined
    · exact other (by rw [task, ofGroup]; rfl)
    · rw [inserted_clients h _ new] at entry
      cases entry
  | @handling c me' used' violations' handler inConns working uses =>
    rcases mem_conns_commit inConns with ⟨inConns, other⟩ | rfl
    · rw [same]
      rcases sees conn mem actor g me used violations _ r task c inConns me' used' violations'
        handler working rfl uses with access | ⟨c', inConns', other', removal⟩
      · exact .inl access
      · exact .inr ⟨c', other_mem_commit inConns' other', removal⟩
    · simp only [after, next] at working
      cases working
      cases uses

/-- Nobody uses a room that is not in memory, its creator apart. -/
theorem RoomInv.access_of_missing (inv : RoomInv gateway) (known : Known gateway) {g m : Uuid}
    {r : String} (use : RoomUse gateway g r m) (isPrivate : gateway.store.isPrivateRoom g r = true)
    (special : r ≠ defaultRoomId) {group : GroupState} (found : gateway.group g = some group)
    (missing : group.room r = none) : gateway.store.memberCanAccessRoom g r m = true := by
  have absent : ¬ gateway.InMemory g r := by
    rintro ⟨other, inGroups, rfl, inMemory⟩
    rw [known.group_eq inGroups] at found
    cases found
    rw [missing] at inMemory
    cases inMemory
  have stored := inv.hasRoom known use special
  cases use with
  | joined inGroups ofGroup entry joined =>
    exact absurd ⟨_, inGroups, ofGroup, inv.joinedKnown _ inGroups _ entry r joined special⟩ absent
  | @handling c me used violations handler mem task uses =>
    cases handler with
    | createInsert room =>
      cases uses
      exact GatewayStore.memberCanAccessRoom_of_owner stored
        (inv.creators c mem g me used violations room task isPrivate)
    | joinMember | joinAccess => cases uses
    | _ => exact absurd (inv.foundKnown c mem g me used violations _ r task uses special) absent

/-- **The invariant is preserved** by the steps of a connection. -/
theorem RoomInv.commit {action : Action} (inv : RoomInv gateway) (owned : Owned gateway)
    (known : Known gateway) (mem : conn ∈ gateway.conns) (actor : action.actor = some conn.id)
    (sees : RemovalsSeeHandlers gateway action)
    (h : gateway.outcome prims conn action = some outcome) :
    RoomInv (gateway.commit conn outcome) := by
  have general : outcome.store.GeneralIsPublic := by
    rcases store_cases h with same | ⟨op, performed⟩
    · rw [same]
      exact inv.general
    · rw [performed]
      exact GatewayStore.generalIsPublic_perform prims inv.general op
  have unique : outcome.store.RoomMembersUnique := by
    rcases store_cases h with same | ⟨op, performed⟩
    · rw [same]
      exact inv.unique
    · rw [performed]
      exact GatewayStore.roomMembersUnique_perform prims inv.unique op
  refine ⟨general, unique, joinedKnown_commit inv owned known mem h, ?_, ?_, ?_, ?_⟩
  · intro c hc g me used violations handler r task found special
    rcases mem_conns_commit hc with ⟨was, -⟩ | rfl
    · exact (inv.foundKnown c was g me used violations handler r task found special).commit
    · exact foundKnown_commit inv mem h task found special
  · intro c hc g me used violations room task isPrivate
    rcases mem_conns_commit hc with ⟨was, -⟩ | rfl
    · have stored : gateway.store.hasRoom g room.roomId = true := GatewayStore.hasRoom_table.2
        ⟨_, known.opening c was g me used violations room task, rfl, rfl⟩
      replace isPrivate : outcome.store.isPrivateRoom g room.roomId = true := isPrivate
      rw [isPrivateRoom_commit h stored] at isPrivate
      exact isRoomOwner_commit h (inv.creators c was g me used violations room task isPrivate)
    · obtain ⟨name, visibility, draw, reply, committed, -⟩ := opening_cases h task
      change outcome.store.isPrivateRoom g room.roomId = true at isPrivate
      change outcome.store.isRoomOwner g room.roomId me.peer.memberId = true
      rw [committed] at isPrivate ⊢
      exact (GatewayStore.createRoom_owned reply).2.2 isPrivate
  · intro c hc g me used violations room m task
    rcases mem_conns_commit hc with ⟨was, -⟩ | rfl
    · exact inv.askers c was g me used violations room m task
    · exact asking_cases owned mem h task
  · intro g r m use isPrivate
    change outcome.store.isPrivateRoom g r = true at isPrivate
    have special : r ≠ defaultRoomId := by
      rintro rfl
      rw [general.not_private] at isPrivate
      cases isPrivate
    rcases use.before owned mem inv h with was | isGeneral | granted
    · have stored := inv.hasRoom known was special
      rw [isPrivateRoom_commit h stored] at isPrivate
      rcases inv.uses was isPrivate with access | pending
      · exact access_commit inv mem h access
      · rcases pending.commit owned mem h with
          still | ⟨me, used, violations, task⟩ | ⟨me, used, violations, group, task, found, missing⟩
        · exact .inr still
        · exact RoomInv.swept mem sees actor h task use
        · exact access_commit inv mem h
            (inv.access_of_missing known was isPrivate special found missing)
    · exact absurd isGeneral special
    · exact .inl (granted isPrivate)

theorem RoomInv.spawned (h : Spawned gateway) : RoomInv gateway := by
  obtain ⟨key, name, draw, h⟩ := h
  obtain ⟨-, store, groups, conns⟩ := spawnGateway_ok h
  have noGroups : gateway.groups = [] := by
    rw [groups, store]
    rfl
  refine ⟨?_, ?_, by simp [noGroups], by simp [conns], by simp [conns], by simp [conns], ?_⟩
  · rw [store]
    exact fun entry mem => absurd mem (List.not_mem_nil)
  · rw [store]
    exact List.nodup_nil
  · intro g r m use
    cases use with
    | joined known => simp [noGroups] at known
    | handling mem => simp [conns] at mem

theorem RoomInv.step {action : Action} (inv : RoomInv gateway) (owned : Owned gateway)
    (known : Known gateway) (sees : RemovalsSeeHandlers gateway action)
    (h : gateway.step prims action = some gateway') : RoomInv gateway' := by
  rcases step_cases h with
    ⟨id, remote, -, -, rfl⟩ | ⟨-, rfl⟩ | ⟨conn, mem, actor, outcome, taken, rfl⟩
  · -- a new connection runs no handler
    have old : ∀ c ∈ gateway.conns ++ [{ id, remote, task := .hello, written := [] }],
        c.task ≠ .hello → c ∈ gateway.conns := by
      intro c hc started
      rcases List.mem_append.1 hc with hc | hc
      · exact hc
      · rw [List.mem_singleton.1 hc] at started
        exact absurd rfl started
    refine ⟨inv.general, inv.unique, inv.joinedKnown, ?_, ?_, ?_, ?_⟩
    · intro c hc g me used violations handler r task
      exact inv.foundKnown c (old c hc (by simp [task])) g me used violations handler r task
    · intro c hc g me used violations room task
      exact inv.creators c (old c hc (by simp [task])) g me used violations room task
    · intro c hc g me used violations room m task
      exact inv.askers c (old c hc (by simp [task])) g me used violations room m task
    · intro g r m use isPrivate
      have before : RoomUse gateway g r m := by
        cases use with
        | joined known ofGroup entry joined => exact .joined known ofGroup entry joined
        | handling inConns task uses => exact .handling (old _ inConns (by simp [task])) task uses
      refine (inv.uses before isPrivate).imp_right ?_
      rintro ⟨c, hc, removal⟩
      exact ⟨c, List.mem_append_left _ hc, removal⟩
  · -- nobody is connected after a restart
    have noClients := @loadGroups_empty gateway.store
    refine ⟨inv.general, inv.unique, ?_, by simp, by simp, by simp, ?_⟩
    · intro group inGroups client entry
      simp [noClients group inGroups] at entry
    · intro g r m use
      cases use with
      | joined inGroups _ entry => simp [noClients _ inGroups] at entry
      | handling inConns task =>
        obtain ⟨c, -, rfl⟩ := List.mem_map.1 inConns
        cases task
  · exact inv.commit owned known mem actor sees taken

theorem roomInv_run {start : Gateway} {actions : List Action} (spawned : Spawned start)
    (run : Run (Gateway.step prims) RemovalsSeeHandlers start actions gateway) :
    Owned gateway ∧ RoomInv gateway := by
  have invs := run.preserves (I := fun s => (Owned s ∧ Known s) ∧ RoomInv s)
    (fun _ _ _ invs sees h =>
      ⟨⟨owned_step invs.1.1 h, known_step invs.1.2 h⟩, invs.2.step invs.1.1 invs.1.2 sees h⟩)
    ⟨⟨owned_spawned spawned, known_spawned spawned⟩, .spawned spawned⟩
  exact ⟨invs.1.1, invs.2⟩

/-! ## What a removed member still sees -/

/-- A member is shut out of a room: no session of it has joined the room or is
about to post to it, and no step sends it the contents of the room. -/
structure ShutOut (prims : Primitives) (gateway : Gateway) (g : Uuid) (r : String) (m : Uuid) :
    Prop where
  joined : ∀ group ∈ gateway.groups, group.summary.groupId = g → ∀ client ∈ group.clients,
    client.peer.memberId = m → r ∉ client.joinedRooms
  posts : ∀ c ∈ gateway.conns, ∀ me used violations messageId text,
    c.task = .serving g me used violations (some (.chatAppend r messageId text)) →
    me.peer.memberId ≠ m
  sent : ∀ c ∈ gateway.conns, ∀ action outcome, gateway.outcome prims c action = some outcome →
    c.task.groupId = some g → ∀ whom message, .send whom message ∈ outcome.changes →
    message.roomContents = some r → ∀ group ∈ gateway.groups, group.summary.groupId = g →
    ∀ client ∈ group.clients, client.peer.memberId = m → whom.selects client = false

/-- The contents of a room are sent to those who have joined it, or to the
session of a handler that uses it. -/
theorem sent_cases {action : Action} (h : gateway.outcome prims conn action = some outcome)
    {whom : Recipients} {message : ServerMessage} {r : String}
    (sends : .send whom message ∈ outcome.changes) (shows : message.roomContents = some r) :
    whom = .inRoom r ∨ ∃ g me used violations handler,
      conn.task = .serving g me used violations (some handler) ∧ handler.usedRoom = some r ∧
        whom = .session me.peer.sessionId := by
  cases taken h with
  | inside _ _ _ _ speaks =>
    cases speaks <;> simp at sends
    all_goals
      obtain ⟨-, rfl⟩ := sends
      cases shows
  | calls =>
    simp only [holds] at sends
    split at sends <;> simp at sends
  | @blocks g me used violations handler group changes next task _ blocked =>
    cases Handler.blocks blocked with
    | finished answers =>
      simp only [Handler.finish, List.mem_cons, Change.send.injEq, reduceCtorEq, List.not_mem_nil,
        or_false] at sends
      obtain ⟨rfl, rfl⟩ := sends
      rcases answers with ⟨code, text, rfl⟩ | rfl
      · cases shows
      · exact .inr ⟨g, me, used, violations, _, task, shows, rfl⟩
    | chatBroadcast =>
      simp only [List.mem_singleton, Change.send.injEq] at sends
      obtain ⟨rfl, rfl⟩ := sends
      cases shows
      exact .inl rfl
    | joinInsert =>
      simp only [List.mem_cons, Change.send.injEq, reduceCtorEq, List.not_mem_nil, or_false,
        false_or] at sends
      obtain ⟨rfl, rfl⟩ := sends
      cases shows
      exact .inr ⟨g, me, used, violations, _, task, rfl, rfl⟩
    | _ =>
      simp only [List.mem_cons, Change.send.injEq, reduceCtorEq, List.not_mem_nil, or_false,
        false_or] at sends
      try
        obtain ⟨-, rfl⟩ := sends
        cases shows
  | parts =>
    simp only [List.mem_singleton, Change.send.injEq] at sends
    obtain ⟨-, rfl⟩ := sends
    cases shows
  | _ => simp [insertGroup, register] at sends

/-- Who does not use a room is shut out of it. -/
theorem shutOut_of_unused (owned : Owned gateway) {g m : Uuid} {r : String}
    (unused : ¬ RoomUse gateway g r m) : ShutOut prims gateway g r m := by
  have joined : ∀ group ∈ gateway.groups, group.summary.groupId = g → ∀ client ∈ group.clients,
      client.peer.memberId = m → r ∉ client.joinedRooms := by
    rintro group known ofGroup client entry rfl inRoom
    exact unused (.joined known ofGroup entry inRoom)
  refine ⟨joined, ?_, ?_⟩
  · rintro c hc me used violations messageId text task rfl
    exact unused (.handling hc task rfl)
  · intro c hc action outcome h ofTask whom message sends shows group known ofGroup client entry member
    rcases sent_cases h sends shows with rfl | ⟨g', me, used, violations, handler, task, uses, rfl⟩
    · exact decide_eq_false (joined group known ofGroup client entry member)
    · by_contra selected
      have same : client.peer.sessionId = me.peer.sessionId := by
        simpa [Recipients.selects] using selected
      obtain ⟨peer, -, -⟩ := owned.peer_eq hc (by rw [task]; rfl) known entry same
      rw [task] at ofTask
      cases ofTask
      rw [peer] at member
      subst member
      exact unused (.handling hc task uses)

/-- **Private rooms are enforced, where removals see the handlers.** When no
removal stands between its commit and its sweep, every registered session has
access to the private rooms it has joined; and a member that has no access to a
private room, and no removal of its own still to come, is shut out of it. -/
theorem private_rooms_enforced {start : Gateway} {actions : List Action} (spawned : Spawned start)
    (run : Run (Gateway.step prims) RemovalsSeeHandlers start actions gateway) :
    ((∀ c ∈ gateway.conns, c.task.removal = none) → ∀ group ∈ gateway.groups,
      ∀ client ∈ group.clients, ∀ r ∈ client.joinedRooms,
        gateway.store.isPrivateRoom group.summary.groupId r = true →
        gateway.store.memberCanAccessRoom group.summary.groupId r client.peer.memberId = true) ∧
    ∀ g r m, gateway.store.isPrivateRoom g r = true →
      gateway.store.memberCanAccessRoom g r m = false → ¬ gateway.RemovalPending g r m →
      ShutOut prims gateway g r m := by
  obtain ⟨owned, inv⟩ := roomInv_run spawned run
  constructor
  · intro settled group known client entry r joined isPrivate
    rcases inv.uses (.joined known rfl entry joined) isPrivate with access | ⟨c, hc, removal⟩
    · exact access
    · rw [settled c hc] at removal
      cases removal
  · intro g r m isPrivate noAccess noRemoval
    refine shutOut_of_unused owned fun use => ?_
    rcases inv.uses use isPrivate with access | pending
    · rw [noAccess] at access
      cases access
    · exact noRemoval pending

/-! ## A removal that is seen, and one that is not -/

/-- No removal meets a handler: a check that implies `RemovalsSeeHandlers`. -/
def noRemovalMeetsHandler (gateway : Gateway) : Bool :=
  gateway.conns.all (fun c => c.task.removal.isNone) ||
    gateway.conns.all fun c => (c.task.handler.bind Handler.usedRoom).isNone

theorem removalsSee_of_check (action : Action) (h : gateway.noRemovalMeetsHandler = true) :
    RemovalsSeeHandlers gateway action := by
  intro c hc _ g me used violations m r task d hd me' used' violations' handler working _ uses
  rcases Bool.or_eq_true_iff.1 h with calm | alone
  · have noRemoval := List.all_eq_true.1 calm c hc
    rw [task] at noRemoval
    cases noRemoval
  · have usesNone := List.all_eq_true.1 alone d hd
    simp [working, Task.handler, uses] at usesNone

theorem removalsSee_of_undisturbed (action : Action) (h : gateway.isUndisturbed = true) :
    RemovalsSeeHandlers gateway action := by
  intro c hc _ g me used violations m r task
  have none := isUndisturbed_handler h hc
  rw [task] at none
  cases none

/-- The private room of the concrete runs. -/
def attic : String := Uuid.simple ⟨50⟩

/-- Connection 1 creates the private room. -/
def opensAttic : List Action :=
  .receive 1 (.createRoom "attic" .isPrivate) false :: advances 1 2 ++
    .advance 1 (drawn 50) false :: advances 1 4

/-- Connection 1 includes the member in the private room, or removes it. -/
def setsMember (memberId : Uuid) (included : Bool) : List Action :=
  .receive 1 (.setRoomMember attic memberId included) false :: advances 1 6

/-- Connection `id` asks for the private room and takes the first `n` steps of its join. -/
def joinsAttic (id n : ℕ) : List Action := .receive id (.joinRoom attic) false :: advances id n

/-- The member 30 has no access to the private room and no removal is under way. -/
def isRemoved (gateway : Gateway) : Bool :=
  gateway.store.isPrivateRoom ⟨10⟩ attic && !gateway.store.memberCanAccessRoom ⟨10⟩ attic ⟨30⟩ &&
    gateway.conns.all fun c => c.task.isIdle

theorem private_rooms_enforced_removal : ∃ gateway, Reachable .checksummed gateway ∧
    (∀ group ∈ gateway.groups, ∀ client ∈ group.clients, ∀ r ∈ client.joinedRooms,
      gateway.store.isPrivateRoom group.summary.groupId r = true →
        gateway.store.memberCanAccessRoom group.summary.groupId r client.peer.memberId = true) ∧
    ShutOut .checksummed gateway ⟨10⟩ attic ⟨30⟩ := by
  have ran : (exec (step .checksummed) noRemovalMeetsHandler teamOfTwo
      (opensAttic ++ setsMember ⟨30⟩ true ++ joinsAttic 2 5 ++ setsMember ⟨30⟩ false)).any isRemoved =
        true := by
    decide +kernel
  obtain ⟨gateway, ran, checked⟩ := (Option.any_eq_true _ _).1 ran
  simp only [isRemoved, Bool.and_eq_true, Bool.not_eq_true'] at checked
  obtain ⟨⟨isPrivate, noAccess⟩, idle⟩ := checked
  have settled : ∀ c ∈ gateway.conns, c.task.removal = none := fun c hc =>
    Task.removal_of_isIdle (List.all_eq_true.1 idle c hc)
  have before := run_teamOfTwo.mono fun _ action undisturbed =>
    removalsSee_of_undisturbed action undisturbed
  have run := before.append (run_of_exec (fun _ => removalsSee_of_check) ran)
  obtain ⟨accessible, shut⟩ := private_rooms_enforced spawned_blank run
  refine ⟨gateway, ⟨_, _, spawned_blank, run.mono fun _ _ _ => trivial⟩, accessible settled,
    shut _ _ _ isPrivate noAccess ?_⟩
  rintro ⟨c, hc, removal⟩
  rw [settled c hc] at removal
  cases removal

/-- Some registered session is in the private room without access. -/
def hasIntruder (gateway : Gateway) : Bool :=
  gateway.groups.any fun group => group.clients.any fun client =>
    decide (attic ∈ client.joinedRooms) &&
      (gateway.store.isPrivateRoom group.summary.groupId attic &&
        !gateway.store.memberCanAccessRoom group.summary.groupId attic client.peer.memberId)

/-- A removal that sweeps between the access check of a join and its insertion
leaves the session in the room. -/
theorem removal_misses_join : ¬ ∀ gateway, Reachable .checksummed gateway →
    (∀ c ∈ gateway.conns, c.task.isIdle = true) → ∀ group ∈ gateway.groups,
      ∀ client ∈ group.clients, ∀ r ∈ client.joinedRooms,
        gateway.store.isPrivateRoom group.summary.groupId r = true →
        gateway.store.memberCanAccessRoom group.summary.groupId r client.peer.memberId = true := by
  intro claim
  obtain ⟨gateway, reachable, checked⟩ := exists_reachable reachable_teamOfTwo
    (opensAttic ++ setsMember ⟨30⟩ true ++ joinsAttic 2 4 ++ setsMember ⟨30⟩ false ++ advances 2 1)
    (fun gateway => gateway.conns.all (fun c => c.task.isIdle) && gateway.hasIntruder)
    (by decide +kernel)
  obtain ⟨idle, intruder⟩ := Bool.and_eq_true_iff.1 checked
  obtain ⟨group, known, intruder⟩ := List.any_eq_true.1 intruder
  obtain ⟨client, entry, intruder⟩ := List.any_eq_true.1 intruder
  simp only [Bool.and_eq_true, decide_eq_true_eq, Bool.not_eq_true'] at intruder
  obtain ⟨joined, isPrivate, noAccess⟩ := intruder
  have access := claim gateway reachable (List.all_eq_true.1 idle) group known client entry attic
    joined isPrivate
  rw [noAccess] at access
  cases access

end Gateway

end LanChat
