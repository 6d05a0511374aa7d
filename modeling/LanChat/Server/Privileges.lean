import LanChat.Server.Groups

/-!
# Privileges

Who may change a group is checked once at admission, against the store, and
later against the role a session was admitted with. `Privileged` ties the two
together: whoever has, or is about to get, the role of an administrator is an
active administrator of that group in the store, now and at every later commit.
-/

namespace LanChat

open Transition

/-- Past `require_admin`, with only the store call left. -/
def Handler.isDecision : Handler → Bool
  | decideStore _ _ | banStore _ _ => true
  | _ => false

/-- The membership, with its role, that a task was admitted with. -/
def Task.standing : Task → Option (Uuid × Uuid × GroupRole)
  | insertingGroup _ created | namingCreator _ created =>
    some (created.summary.groupId, created.creatorMemberId, .admin)
  | entering groupId entry => some (groupId, entry.memberId, entry.role)
  | task => task.session.map fun (groupId, me) => (groupId, me.peer.memberId, me.role)

/-- The store call a task waits for. -/
def Task.storeCall (draw : Draw) : Task → Option StoreOp
  | authorizing client groupId credential =>
    some (.authorizeJoin groupId credential client.nickname draw)
  | requesting client groupId => some (.createJoinRequest groupId client.nickname draw)
  | creatingGroup _ name mode => some (.createGroupWithAccess name mode draw)
  | namingCreator client created => some
      (.updateMemberNickname created.summary.groupId created.creatorMemberId client.nickname)
  | loadingRooms groupId entry _ _ => some (.roomsForMember groupId entry.memberId)
  | loadingHistory groupId _ _ _ _ => some (.history groupId defaultRoomId historyCapacity)
  | serving groupId me _ _ (some handler) => handler.storeCall groupId me draw
  | _ => none

/-- Changes that not every member may make. -/
def StoreOp.isPrivileged : StoreOp → Bool
  | decideJoinRequest _ _ _ | setMemberBanned _ _ _ | rotateGroupToken _ _ _ _
  | setRoomMember _ _ _ _ _ _ => true
  | _ => false

namespace GatewayStore

/-- **Who may make a change**, and how far that of a plain member reaches. -/
def Permits (store store' : GatewayStore) (requester : Uuid) : StoreOp → Prop
  | .decideJoinRequest g _ _ | .setMemberBanned g _ _ => store.isActiveAdmin g requester = true
  | .rotateGroupToken g actor .member _ => actor = requester ∧ ∃ hash, store' = { store with
      groupMembers := store.groupMembers.map fun m =>
        if m.groupId = g ∧ m.memberId = requester then { m with credentialHash := hash } else m }
  | .rotateGroupToken g actor _ _ => actor = requester ∧ store.isActiveAdmin g requester = true
  | .setRoomMember g r actor _ _ _ => actor = requester ∧
      (store.isActiveAdmin g requester = true ∨ store.isRoomOwner g r requester = true)
  | _ => True

variable {prims : Primitives} {store : GatewayStore}

theorem isActiveAdmin_iff {g m : Uuid} : store.isActiveAdmin g m = true ↔
    ∃ row ∈ store.groupMembers, row.groupId = g ∧ row.memberId = m ∧ row.role = .admin ∧
      row.status = .active := by
  simp [isActiveAdmin, and_assoc]

/-- An operation that answers has committed. -/
theorem settle_committed {α : Type} {reply : α → StoreReply}
    {result : Except StoreError (α × GatewayStore)}
    (committed : ∀ error, (store.settle reply result).1 ≠ .failed error) :
    ∃ a s, result = .ok (a, s) ∧ store.settle reply result = (reply a, s) := by
  rcases settle_cases store reply result with ⟨error, failed⟩ | ok
  · exact absurd (by rw [failed]) (committed error)
  · exact ok

/-- Whoever is admitted as an administrator is one in the store. -/
theorem isActiveAdmin_authorizeJoin {g : Uuid} {credential : Option String} {nickname : String}
    {draw : Draw} {memberId : Uuid} {issued : Option String}
    (reply : (store.perform prims (.authorizeJoin g credential nickname draw)).1 =
      .authorization (.allowed .admin memberId issued)) :
    (store.perform prims (.authorizeJoin g credential nickname draw)).2.isActiveAdmin g memberId =
      true := by
  obtain ⟨authorization, s, ok, performed⟩ := @settle_committed store _
    StoreReply.authorization (store.authorizeJoin prims g credential nickname draw)
    (fun error failed => by
      rw [perform] at reply
      rw [reply] at failed
      cases failed)
  rw [perform, performed] at reply ⊢
  cases reply
  rw [isActiveAdmin_iff]
  generalize allowed : JoinAuthorization.allowed .admin memberId issued = authorization at ok
  cases authorizeJoin_ok ok with
  | refused refusal => exact absurd allowed.symm (refusal _ _ _)
  | @known token member _ mem ofGroup _ active =>
    obtain ⟨role, rfl, -⟩ := JoinAuthorization.allowed.inj allowed
    refine ⟨{ member with lastNickname := nickname },
      Table.mem_updateWhere.2 (.inr ⟨member, mem, ?_, rfl⟩), ofGroup, rfl, role.symm, active⟩
    simp [ofGroup]
  | administrator =>
    cases allowed
    exact ⟨_, List.mem_append_right _ (List.mem_singleton_self _), rfl, rfl, rfl, rfl⟩
  | issued => cases allowed

theorem isActiveAdmin_createGroup {name : String} {mode : GroupAccessMode} {draw : Draw}
    {created : CreatedGroup}
    (reply : (store.perform prims (.createGroupWithAccess name mode draw)).1 = .created created) :
    (store.perform prims (.createGroupWithAccess name mode draw)).2.isActiveAdmin
      created.summary.groupId created.creatorMemberId = true := by
  obtain ⟨group, s, ok, performed⟩ := @settle_committed store _
    StoreReply.created (store.createGroupWithAccess prims name mode draw) (fun error failed => by
      rw [perform] at reply
      rw [reply] at failed
      cases failed)
  rw [perform, performed] at reply ⊢
  cases reply
  obtain ⟨hash, _, -, summary, -, creator, -, -, -, rfl⟩ := createGroupWithAccess_ok ok
  rw [summary, creator, isActiveAdmin_iff]
  exact ⟨_, List.mem_append_right _ (List.mem_singleton_self _), rfl, rfl, rfl, rfl⟩

/-- **The store permits** a rotation and a change of a room's members by itself;
a decision and a ban it takes from whoever its caller vouches for. -/
theorem permits_perform (unique : store.MemberIdsUnique) {groupId : Uuid} {me : Session} {draw : Draw}
    {handler : Handler} {op : StoreOp} (waits : handler.storeCall groupId me draw = some op)
    (standing : me.role = .admin → store.isActiveAdmin groupId me.peer.memberId = true)
    (decides : handler.isDecision = true → me.role = .admin)
    (committed : ∀ error, (store.perform prims op).1 ≠ .failed error) :
    store.Permits (store.perform prims op).2 me.peer.memberId op := by
  cases handler with
  | decideStore | banStore =>
    cases waits
    exact standing (decides rfl)
  | rotateStore kind =>
    cases waits
    obtain ⟨token, s, ok, performed⟩ := settle_committed committed
    rw [perform, performed]
    obtain ⟨hash, -, -, ⟨m, mem, ofGroup, ofActor, active, role⟩, wrote⟩ := rotateGroupToken_ok ok
    cases kind with
    | admin | invite => exact ⟨rfl, isActiveAdmin_iff.2 ⟨m, mem, ofGroup, ofActor, role, active⟩⟩
    | member =>
      refine ⟨rfl, hash, wrote.trans ?_⟩
      congr 1
      refine List.map_congr_left fun other inTable => ?_
      -- the actor's row is the only one with these ids, and it is an active member's
      by_cases own : other.groupId = groupId ∧ other.memberId = me.peer.memberId
      · obtain rfl := unique.eq inTable mem (own.2.trans ofActor.symm)
        simp [own, active, role, rotatorRole]
      · rw [if_neg own, if_neg]
        simp only [Bool.and_eq_true, beq_iff_eq]
        exact fun selected => own selected.1.1
  | setRoomMemberStore =>
    cases waits
    obtain ⟨changed, s, ok, -⟩ := settle_committed committed
    exact ⟨rfl, (setRoomMember_ok ok).2.1.imp_left standing⟩
  | _ => cases waits <;> trivial

end GatewayStore

namespace Handler

theorem isDecision_of_isStart {handler : Handler} (start : handler.isStart = true) :
    handler.isDecision = false := by
  cases handler <;> first | rfl | cases start

/-- No store call leads to a decision. -/
theorem isDecision_resume {groupId : Uuid} {me : Session} {draw : Draw} {handler : Handler}
    {op : StoreOp} (waits : handler.storeCall groupId me draw = some op) (answer : StoreReply) :
    (handler.resume answer).isDecision = false := by
  cases handler with
  | chatAppend | createStore | joinAccess | joinHistory | historyLoad | requestsLoad | decideStore
  | membersLoad | banStore | rotateStore | roomMembersManage | roomMembersLoad
  | setRoomMemberStore =>
    simp only [resume]
    repeat' split
    all_goals rfl
  | _ => cases waits

/-- A decision is reached by the group's administrators only. -/
theorem Blocks.requireAdmin {group : GroupState} {me : Session} {handler next : Handler}
    {changes : List Change} (blocked : Blocks group me handler changes (some next))
    (decides : next.isDecision = true) : group.requireAdmin me.peer.sessionId = true := by
  cases blocked with
  | admin _ isAdmin => exact isAdmin
  | _ => cases decides

end Handler

namespace Gateway

variable {prims : Primitives} {gateway gateway' : Gateway} {conn : Conn} {outcome : Outcome}

/-- The store call that an action carries out, and the task that waits for it.
A fault keeps the call from the store. -/
def storeCall (gateway : Gateway) : Action → Option (Task × StoreOp)
  | .advance id draw false => (gateway.conn id).bind fun conn =>
    (conn.task.storeCall draw).map fun op => (conn.task, op)
  | _ => none

/-- **The roles that sessions go by are the store's.** -/
structure Privileged (gateway : Gateway) : Prop where
  memberIds : gateway.store.MemberIdsUnique
  standing : ∀ c ∈ gateway.conns, ∀ g m, c.task.standing = some (g, m, .admin) →
    gateway.store.isActiveAdmin g m = true
  decisions : ∀ c ∈ gateway.conns, ∀ g me used violations handler,
    c.task = .serving g me used violations (some handler) → handler.isDecision = true →
      me.role = .admin

theorem Task.standing_of_session {task : Task} {g : Uuid} {me : Session}
    (session : task.session = some (g, me)) :
    task.standing = some (g, me.peer.memberId, me.role) := by
  cases task <;> cases session <;> rfl

theorem Task.standing_of_inLobby {task : Task} (lobby : task.inLobby = true) :
    task.standing = none := by
  cases task <;> first | rfl | cases lobby

/-- A standing is carried along, or given by the store. -/
theorem standing_after {action : Action} (h : gateway.outcome prims conn action = some outcome)
    {g m : Uuid} (standing : outcome.task.standing = some (g, m, .admin)) :
    conn.task.standing = some (g, m, .admin) ∨ outcome.store.isActiveAdmin g m = true := by
  have ofSession : ∀ {g' me}, conn.task.session = some (g', me) →
      outcome.task.session = some (g', me) →
      conn.task.standing = some (g, m, .admin) ∨ outcome.store.isActiveAdmin g m = true := by
    intro g' me before after
    rw [Task.standing_of_session after] at standing
    exact .inl ((Task.standing_of_session before).trans standing)
  cases taken h with
  | lobby _ after =>
    rw [moveTo_task, Task.standing_of_inLobby after] at standing
    cases standing
  | admits task reply =>
    obtain ⟨performed, committed⟩ := call_of_reply reply nofun
    simp only [moveTo_task, Task.standing, Option.some.injEq, Prod.mk.injEq] at standing
    obtain ⟨rfl, rfl, rfl⟩ := standing
    rw [committed]
    exact .inr (GatewayStore.isActiveAdmin_authorizeJoin performed)
  | creates task reply =>
    obtain ⟨performed, committed⟩ := call_of_reply reply nofun
    simp only [moveTo_task, Task.standing, Option.some.injEq, Prod.mk.injEq] at standing
    obtain ⟨rfl, rfl, -⟩ := standing
    rw [committed]
    exact .inr (GatewayStore.isActiveAdmin_createGroup performed)
  | inserts task | names task | registers task =>
    rw [task]
    exact .inl standing
  | inside before _ after => exact ofSession before after
  | calls task | blocks task => exact ofSession (by rw [task]; rfl) rfl
  | removes _ _ after =>
    obtain rfl | rfl := after <;> cases standing
  | parts => cases standing

theorem isActiveAdmin_commit {action : Action}
    (h : gateway.outcome prims conn action = some outcome) {g m : Uuid}
    (admin : gateway.store.isActiveAdmin g m = true) : outcome.store.isActiveAdmin g m = true := by
  rcases store_cases h with same | ⟨op, performed⟩
  · rw [same]
    exact admin
  · rw [performed]
    exact GatewayStore.isActiveAdmin_perform op admin

/-- A task reaches a decision past `require_admin` of its own session. -/
theorem decision_after {action : Action} (owned : Owned gateway) (mem : conn ∈ gateway.conns)
    (h : gateway.outcome prims conn action = some outcome) {g : Uuid} {me : Session}
    {used violations : ℕ} {handler : Handler}
    (task' : outcome.task = .serving g me used violations (some handler))
    (decides : handler.isDecision = true) : me.role = .admin := by
  cases taken h with
  | lobby _ after =>
    simp only [moveTo_task] at task'
    rw [task'] at after
    cases after
  | inside _ _ _ starts =>
    simp only [moveTo_task] at task'
    rw [Handler.isDecision_of_isStart (starts handler (by rw [task']; rfl))] at decides
    cases decides
  | calls _ waits =>
    simp only [moveTo_task, Task.serving.injEq, Option.some.injEq] at task'
    obtain ⟨-, -, -, -, rfl⟩ := task'
    rw [Handler.isDecision_resume waits] at decides
    cases decides
  | @blocks g' me' _ _ _ _ _ _ task found blocked =>
    simp only [moveTo_task, Task.serving.injEq] at task'
    obtain ⟨rfl, rfl, -, -, rfl⟩ := task'
    have isAdmin := (Handler.blocks blocked).requireAdmin decides
    obtain ⟨client, entry, admin⟩ := (Option.any_eq_true _ _).1 isAdmin
    have same : client.peer.sessionId = me'.peer.sessionId := by simpa using List.find?_some entry
    have session : conn.task.session = some (g', me') := by rw [task]; rfl
    have role := (owned.peer_eq mem session (group_some found).1 (List.mem_of_find?_eq_some entry)
      same).2.1
    exact role.symm.trans (of_decide_eq_true admin)
  | removes _ _ after =>
    simp only [moveTo_task] at task'
    rw [task'] at after
    obtain after | after := after <;> cases after
  | _ => cases task'

theorem Privileged.commit (inv : Privileged gateway) (owned : Owned gateway)
    (mem : conn ∈ gateway.conns) {action : Action}
    (h : gateway.outcome prims conn action = some outcome) :
    Privileged (gateway.commit conn outcome) := by
  constructor
  · change outcome.store.MemberIdsUnique
    rcases store_cases h with same | ⟨op, performed⟩
    · rw [same]
      exact inv.memberIds
    · rw [performed]
      exact GatewayStore.memberIdsUnique_perform prims inv.memberIds op
  · intro c hc g m standing
    rcases mem_conns_commit hc with ⟨was, -⟩ | rfl
    · exact isActiveAdmin_commit h (inv.standing c was g m standing)
    · rcases standing_after h standing with before | admitted
      · exact isActiveAdmin_commit h (inv.standing conn mem g m before)
      · exact admitted
  · intro c hc g me used violations handler task decides
    rcases mem_conns_commit hc with ⟨was, -⟩ | rfl
    · exact inv.decisions c was g me used violations handler task decides
    · exact decision_after owned mem h task decides

theorem Privileged.step {action : Action} (inv : Privileged gateway) (owned : Owned gateway)
    (h : gateway.step prims action = some gateway') : Privileged gateway' := by
  rcases step_cases h with ⟨id, remote, -, -, rfl⟩ | ⟨-, rfl⟩ | ⟨conn, mem, -, outcome, taken, rfl⟩
  · refine ⟨inv.memberIds, fun c hc g m standing => ?_,
      fun c hc g me used violations handler task decides => ?_⟩
    · rcases List.mem_append.1 hc with was | new
      · exact inv.standing c was g m standing
      · rw [List.mem_singleton.1 new] at standing
        cases standing
    · rcases List.mem_append.1 hc with was | new
      · exact inv.decisions c was g me used violations handler task decides
      · rw [List.mem_singleton.1 new] at task
        cases task
  · refine ⟨inv.memberIds, fun c hc g m standing => ?_,
      fun c hc g me used violations handler task => ?_⟩
    all_goals obtain ⟨old, -, rfl⟩ := List.mem_map.1 hc
    · cases standing
    · cases task
  · exact inv.commit owned mem taken

theorem Privileged.spawned (h : Spawned gateway) : Privileged gateway := by
  obtain ⟨key, name, draw, h⟩ := h
  obtain ⟨-, store, -, conns⟩ := spawnGateway_ok h
  refine ⟨?_, by simp [conns], by simp [conns]⟩
  rw [store]
  exact List.nodup_nil

theorem privileged_run {start : Gateway} {actions : List Action} (spawned : Spawned start)
    (run : Run (Gateway.step prims) anyAction start actions gateway) : Privileged gateway := by
  have both : Owned gateway ∧ Privileged gateway :=
    run.preserves (I := fun s => Owned s ∧ Privileged s)
      (fun _ _ _ inv _ h => ⟨owned_step inv.1 h, inv.2.step inv.1 h⟩)
      ⟨owned_spawned spawned, .spawned spawned⟩
  exact both.2

/-! ## What a step has the store do -/

/-- A task works on the store by the call it waits for. -/
theorem store_advance {id : ℕ} {draw : Draw} {fault : Bool}
    (h : gateway.outcome prims conn (.advance id draw fault) = some outcome) :
    outcome.store = match conn.task.storeCall draw with
      | some op => (gateway.call prims op fault).2
      | none => gateway.store := by
  simp only [Gateway.outcome] at h
  cases task : conn.task with
  | greeting | insertingGroup | welcoming | abandoning | announcing | leaving | farewell
  | authorizing | requesting | creatingGroup | namingCreator | loadingRooms =>
    rw [task] at h
    cases h
    rfl
  | joining client groupId credential =>
    rw [task] at h
    cases h
    simp only [findGroup, Task.storeCall]
    repeat' split
    all_goals rfl
  | entering groupId entry =>
    rw [task] at h
    simp only [advance] at h
    split at h
    · obtain ⟨group, -, h⟩ := Option.map_eq_some_iff.1 h
      cases h
      rfl
    · cases h
  | loadingHistory groupId entry me members rooms =>
    rw [task] at h
    obtain ⟨group, -, h⟩ := Option.map_eq_some_iff.1 h
    cases h
    rfl
  | serving groupId me used violations handler =>
    rw [task] at h
    cases handler with
    | none => cases h
    | some handler =>
      obtain ⟨group, -, h⟩ := Option.bind_eq_some_iff.1 h
      simp only [Task.storeCall]
      cases waits : handler.storeCall groupId me draw with
      | some op =>
        simp only [serve, waits] at h
        cases h
        rfl
      | none =>
        simp only [serve, waits] at h
        obtain ⟨blocked, -, h⟩ := Option.map_eq_some_iff.1 h
        cases h
        rfl
  | hello | selecting | closed =>
    rw [task] at h
    cases h

/-- The other steps leave the store alone. -/
theorem store_idle {action : Action} (h : gateway.outcome prims conn action = some outcome)
    (other : ∀ id draw fault, action ≠ .advance id draw fault) : outcome.store = gateway.store := by
  cases action with
  | advance id draw fault => exact absurd rfl (other id draw fault)
  | accept | restart => cases h
  | receive id message newWindow =>
    simp only [Gateway.outcome] at h
    split at h <;> cases h
    · simp only [onHello]
      repeat' split
      all_goals rfl
    · simp only [onSelection]
      repeat' split
      all_goals rfl
    · simp only [onMessage]
      repeat' split
      all_goals rfl
  | flush id =>
    simp only [Gateway.outcome] at h
    split at h
    · obtain ⟨client, -, h⟩ := Option.bind_eq_some_iff.1 h
      obtain ⟨message, -, h⟩ := Option.map_eq_some_iff.1 h
      cases h
      rfl
    · cases h
  | kicked id =>
    simp only [Gateway.outcome] at h
    split at h
    · obtain ⟨reason, -, h⟩ := Option.map_eq_some_iff.1 h
      cases h
      rfl
    · cases h
  | disconnect id =>
    simp only [Gateway.outcome] at h
    split at h <;> cases h <;> rfl

/-- **The store after a step** is that after the call of its action. -/
theorem store_step {action : Action} (h : gateway.step prims action = some gateway') :
    gateway'.store = match gateway.storeCall action with
      | some (_, op) => (gateway.store.perform prims op).2
      | none => gateway.store := by
  have ofConn : ∀ id, ((gateway.conn id).bind fun conn =>
      (gateway.outcome prims conn action).map (gateway.commit conn)) = some gateway' →
      ∃ conn outcome, gateway.conn id = some conn ∧
        gateway.outcome prims conn action = some outcome ∧ gateway'.store = outcome.store := by
    intro id h
    obtain ⟨conn, found, h⟩ := Option.bind_eq_some_iff.1 h
    obtain ⟨outcome, taken, rfl⟩ := Option.map_eq_some_iff.1 h
    exact ⟨conn, outcome, found, taken, rfl⟩
  cases action with
  | accept id remote =>
    simp only [Gateway.step] at h
    split at h <;> cases h
    rfl
  | restart =>
    cases h
    rfl
  | receive id | flush id | kicked id | disconnect id =>
    obtain ⟨conn, outcome, -, taken, store⟩ := ofConn id h
    exact store.trans (store_idle taken (by simp))
  | advance id draw fault =>
    obtain ⟨conn, outcome, found, taken, store⟩ := ofConn id h
    rw [store, store_advance taken]
    cases fault with
    | true =>
      simp only [storeCall, call]
      split <;> rfl
    | false =>
      simp only [storeCall, call, found, Option.bind_some]
      cases conn.task.storeCall draw <;> rfl

/-- A privileged change is asked for by the handler of a session. -/
theorem privileged_cases {task : Task} {draw : Draw} {op : StoreOp}
    (waits : task.storeCall draw = some op) (privileged : op.isPrivileged = true) :
    ∃ g me used violations handler, task = .serving g me used violations (some handler) ∧
      handler.storeCall g me draw = some op := by
  cases task with
  | serving g me used violations handler =>
    cases handler with
    | none => cases waits
    | some handler => exact ⟨g, me, used, violations, handler, rfl, waits⟩
  | _ => cases waits <;> cases privileged

/-- **No privilege escalation.** In every run, a step changes the store by the
call of its task alone. Where that call is a privileged one and commits, a
registered session has asked for it, and the store as it is then permits the
change to the member of that session. -/
theorem no_privilege_escalation (prims : Primitives) {gateway gateway' : Gateway} {action : Action}
    (reachable : Reachable prims gateway) (h : gateway.step prims action = some gateway') :
    match gateway.storeCall action with
    | none => gateway'.store = gateway.store
    | some (task, op) => gateway'.store = (gateway.store.perform prims op).2 ∧
      (op.isPrivileged = true → (∀ error, (gateway.store.perform prims op).1 ≠ .failed error) →
        ∃ g me, task.session = some (g, me) ∧
          gateway.store.Permits gateway'.store me.peer.memberId op) := by
  obtain ⟨start, actions, spawned, run⟩ := reachable
  have inv := privileged_run spawned run
  have store := store_step h
  split at store <;> rename_i call
  · rename_i task op
    rw [call]
    refine ⟨store, fun privileged committed => ?_⟩
    rw [store]
    unfold storeCall at call
    split at call
    · obtain ⟨conn, found, call⟩ := Option.bind_eq_some_iff.1 call
      obtain ⟨waiting, waits, same⟩ := Option.map_eq_some_iff.1 call
      cases same
      obtain ⟨g, me, used, violations, handler, serving, waits⟩ := privileged_cases waits privileged
      have mem := (conn_some found).1
      refine ⟨g, me, by rw [serving]; rfl, ?_⟩
      refine GatewayStore.permits_perform inv.memberIds waits (fun admin => ?_)
        (inv.decisions conn mem g me used violations handler serving) committed
      exact inv.standing conn mem g me.peer.memberId (by rw [serving, ← admin]; rfl)
    · cases call
  · rw [call]
    exact store

/-- The ban that connection 1 is about to make, with the member it acts for. -/
def banning (gateway : Gateway) : Option (Uuid × Uuid × Uuid) :=
  match gateway.storeCall (.advance 1 (drawn 0) false) with
  | some (task, .setMemberBanned g m true) =>
    task.session.map fun (_, me) => (me.peer.memberId, g, m)
  | _ => none

theorem no_privilege_escalation_banning : ∃ gateway gateway', Reachable .checksummed gateway ∧
    gateway.step .checksummed (.advance 1 (drawn 0) false) = some gateway' ∧
    gateway'.store.IsBanned ⟨10⟩ ⟨30⟩ ∧ gateway.store.isActiveAdmin ⟨10⟩ ⟨11⟩ = true := by
  obtain ⟨gateway, reachable, checked⟩ := exists_reachable reachable_teamOfTwo
    [.receive 1 (.setMemberBanned ⟨30⟩ true) false, .advance 1 (drawn 0) false]
    (fun gateway => decide (gateway.banning = some (⟨11⟩, ⟨10⟩, ⟨30⟩)) &&
      (gateway.step .checksummed (.advance 1 (drawn 0) false)).any
        fun gateway' => gateway'.store.IsBanned ⟨10⟩ ⟨30⟩) (by decide +kernel)
  obtain ⟨banning, stepped⟩ := Bool.and_eq_true_iff.1 checked
  replace banning := of_decide_eq_true banning
  obtain ⟨gateway', step, banned⟩ := (Option.any_eq_true _ _).1 stepped
  refine ⟨gateway, gateway', reachable, step, of_decide_eq_true banned, ?_⟩
  have permitted := no_privilege_escalation .checksummed reachable step
  unfold Gateway.banning at banning
  split at banning
  · rename_i task g m call
    obtain ⟨⟨_, me⟩, session, same⟩ := Option.map_eq_some_iff.1 banning
    simp only [Prod.mk.injEq] at same
    obtain ⟨member, rfl, rfl⟩ := same
    rw [call] at permitted
    obtain ⟨_, me', session', permits⟩ := permitted.2 rfl nofun
    rw [session] at session'
    cases session'
    rw [← member]
    exact permits
  · cases banning

end Gateway

end LanChat
